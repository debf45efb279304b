import RovaiCore.ShutdownCoordinator
import RovaiCore.Tables
/-!
# Waiting for the active set to drain (`planned_shutdown.rs`)

Tasks that wait in `wait_for_no_active_until`, between calls that register, bind, cancel and remove executions.
-/
namespace Rovai.ActiveWait

open Tables (Table)
open Shutdown (ActiveExecutionKey RuntimeRouteBinding TaskId)

/-! ## State -/

/-- `cancellation` names the launch permit whose flag the execution shares. -/
structure Execution where
  key : ActiveExecutionKey
  binding : Option RuntimeRouteBinding
  cancellation : TaskId

/-- A critical section of the active map.  A registration whose permit is refused never takes the lock. -/
inductive Operation where
  | registerActive (key : ActiveExecutionKey) (permit : TaskId)
  | bindRoute (key : ActiveExecutionKey) (binding : RuntimeRouteBinding)
  | removeActive (key : ActiveExecutionKey) (cleanup : Bool)
  | removeActiveIfUnbound (key : ActiveExecutionKey)
  | cancelActive (key : ActiveExecutionKey)
  deriving DecidableEq

/-- Who has the lock, and what it does next: a call's body, its notification, the release with a notification to send, or the
release. -/
inductive Holder where
  | waiter (id : Nat)
  | operation (op : Operation)
  | notifying
  | removed
  | leaving
  deriving DecidableEq

inductive Point where
  | locking
  | holding
  | seen
  | released
  | created
  | parked
  | returned (b : Bool)
  deriving DecidableEq

/-- `notified` is about the waiter's last future; `deadline` tells, once it has passed, whether the map was not empty then. -/
structure Waiter where
  id : Nat
  point : Point
  notified : Bool
  deadline : Option Bool
  deriving DecidableEq

/-- `removals` counts the removals that have left the lock and have not notified. -/
structure State where
  active : Table Execution.key
  cancelled : List TaskId
  holder : Option Holder
  removals : Nat
  waiters : Table Waiter.id

def State.new : State := ⟨.empty, [], none, 0, .empty⟩

variable (s : State)

def State.drained : Bool := s.active.rows.isEmpty

/-! ## Critical sections -/

namespace State

variable (key : ActiveExecutionKey)

def registerActive (permit : TaskId) : State × Bool :=
  if (s.active.find? key).isSome then (s, false) else ({ s with active := s.active.insert ⟨key, none, permit⟩ }, true)

def bindRoute (binding : RuntimeRouteBinding) : State × Bool :=
  match s.active.find? key with
  | none => (s, false)
  | some execution =>
    match execution.binding with
    | some _ => (s, false)
    | none => ({ s with active := s.active.update key (fun e => { e with binding := some binding }) }, true)

def remove : State :=
  { s with active := s.active.deleteWhere (fun e => decide (e.key = key)) }

def isCancelled (execution : Execution) : Bool := s.cancelled.contains execution.cancellation

def removeActive (cleanup : Bool) : State × Bool :=
  match s.active.find? key with
  | none => (s, false)
  | some execution => if !cleanup && s.isCancelled execution then (s, false) else (s.remove key, true)

def removeActiveIfUnbound : State × Bool :=
  match s.active.find? key with
  | none => (s, false)
  | some execution => if execution.binding.isSome || s.isCancelled execution then (s, false) else (s.remove key, true)

def cancelActive : State :=
  match s.active.find? key with
  | none => s
  | some execution => { s with cancelled := execution.cancellation :: s.cancelled }

/-- Only `remove_active_inner` sends its notification after the release. -/
def body : Operation → State × Holder
  | .registerActive key permit => ((s.registerActive key permit).1, if (s.registerActive key permit).2 then .notifying else .leaving)
  | .bindRoute key binding => ((s.bindRoute key binding).1, if (s.bindRoute key binding).2 then .notifying else .leaving)
  | .removeActive key cleanup => ((s.removeActive key cleanup).1, if (s.removeActive key cleanup).2 then .removed else .leaving)
  | .removeActiveIfUnbound key =>
    ((s.removeActiveIfUnbound key).1, if (s.removeActiveIfUnbound key).2 then .notifying else .leaving)
  | .cancelActive key => (s.cancelActive key, .leaving)

end State

/-! ## Waiters -/

namespace Waiter

def new (id : Nat) : Waiter := ⟨id, .locking, false, none⟩

variable (w : Waiter)

def notify : Waiter := { w with notified := true }

def expire : Waiter :=
  { w with deadline := w.deadline <|> some (!s.drained) }

/-- A poll looks at the lock, or at the future, before it looks at the time. -/
def next : Point :=
  match w.point with
  | .locking => if s.holder.isNone then .holding else if w.deadline.isSome then .returned false else .locking
  | .holding => if s.drained then .returned true else .seen
  | .seen => .released
  | .released => .created
  | .created => if w.deadline.isSome then .returned false else .parked
  | .parked => if w.notified then .locking else if w.deadline.isSome then .returned false else .parked
  | .returned b => .returned b

def advance : Waiter :=
  { w with point := w.next s, notified := if w.point = .released then false else w.notified }

def holderAfter : Option Holder :=
  match w.point with
  | .locking => if s.holder.isNone then some (.waiter w.id) else s.holder
  | .holding => if s.drained then none else s.holder
  | .seen => none
  | _ => s.holder

end Waiter

/-! ## Steps -/

inductive Action where
  | enter (op : Operation)
  | advance
  | notify
  | wait (id : Nat)
  | waiter (id : Nat)
  | expire (id : Nat)

def State.notifyWaiters : State :=
  { s with waiters := s.waiters.updateWhere (fun _ => true) Waiter.notify }

def State.advance : State :=
  match s.holder with
  | some (.operation op) => { (s.body op).1 with holder := some (s.body op).2 }
  | some .notifying => { s.notifyWaiters with holder := some .leaving }
  | some .removed => { s with holder := none, removals := s.removals + 1 }
  | some .leaving => { s with holder := none }
  | some (.waiter _) | none => s

def step : Action → State
  | .enter op => if s.holder.isNone then { s with holder := some (.operation op) } else s
  | .advance => s.advance
  | .notify => if 0 < s.removals then { s.notifyWaiters with removals := s.removals - 1 } else s
  | .wait id => { s with waiters := s.waiters.insert (.new id) }
  | .waiter id =>
    match s.waiters.find? id with
    | some w => { s with holder := w.holderAfter s, waiters := s.waiters.update id (Waiter.advance s) }
    | none => s
  | .expire id => { s with waiters := s.waiters.update id (Waiter.expire s) }

def run (as : List Action) : State := as.foldl step .new

/-! ## One operation's effect on the map -/

variable {s : State} {a : Action} {id : Nat} {w : Waiter}

def notifies (s : State) : Action → Bool
  | .advance => decide (s.holder = some .notifying)
  | .notify => decide (0 < s.removals)
  | _ => false

def inserts (s : State) : Action → Bool
  | .advance =>
    match s.holder with
    | some (.operation (.registerActive key _)) => (s.active.find? key).isNone
    | _ => false
  | _ => false

/-- A notification is still to be sent: by a call inside the lock, or by a removal that has left it. -/
def State.pending (s : State) : Bool :=
  decide (s.holder = some .notifying) || decide (s.holder = some .removed) || decide (0 < s.removals)

/-- What a critical section does: nothing to the map, or a notification is to follow. -/
structure BodyOf (s : State) (op : Operation) : Prop where
  waiters : (s.body op).1.waiters = s.waiters
  removals : (s.body op).1.removals = s.removals
  active : (s.body op).1.active = s.active ∨ (s.body op).2 = .notifying ∨ (s.body op).2 = .removed
  stays : (∀ key permit, op = .registerActive key permit → (s.active.find? key).isSome = true) → s.drained = true →
    (s.body op).1.drained = true

theorem drained_iff : s.drained = true ↔ ∀ key, s.active.find? key = none := by
  unfold State.drained
  rw [List.isEmpty_iff]
  constructor
  · intro h key
    rw [Table.find?_eq_none_iff, h]
    exact List.not_mem_nil
  · intro h
    refine List.eq_nil_iff_forall_not_mem.2 fun e he => ?_
    have hfound := Table.find?_of_mem he
    rw [h] at hfound
    cases hfound

theorem find?_of_drained (h : s.drained = true) (key : ActiveExecutionKey) : s.active.find? key = none :=
  drained_iff.1 h key

theorem bodyOf (s : State) (op : Operation) : BodyOf s op := by
  cases op with
  | registerActive key permit =>
    by_cases hfound : (s.active.find? key).isSome = true
    · constructor <;> simp [State.body, State.registerActive, hfound]
    constructor
    · simp [State.body, State.registerActive, hfound]
    · simp [State.body, State.registerActive, hfound]
    · simp [State.body, State.registerActive, hfound]
    intro hregister
    exact absurd (hregister key permit rfl) hfound
  | bindRoute key binding =>
    cases hfound : s.active.find? key with
    | none => constructor <;> simp [State.body, State.bindRoute, hfound]
    | some execution =>
      have hnot : ¬s.drained = true := fun h => by rw [find?_of_drained h] at hfound; cases hfound
      cases hbinding : execution.binding with
      | some b => constructor <;> simp [State.body, State.bindRoute, hfound, hbinding]
      | none => constructor <;> simp [State.body, State.bindRoute, hfound, hbinding, hnot]
  | removeActive key cleanup =>
    cases hfound : s.active.find? key with
    | none => constructor <;> simp [State.body, State.removeActive, hfound]
    | some execution =>
      have hnot : ¬s.drained = true := fun h => by rw [find?_of_drained h] at hfound; cases hfound
      by_cases hguard : (!cleanup && s.isCancelled execution) = true
      · constructor <;> simp [State.body, State.removeActive, hfound, hguard]
      · constructor <;> simp [State.body, State.removeActive, State.remove, hfound, hguard, hnot]
  | removeActiveIfUnbound key =>
    cases hfound : s.active.find? key with
    | none => constructor <;> simp [State.body, State.removeActiveIfUnbound, hfound]
    | some execution =>
      have hnot : ¬s.drained = true := fun h => by rw [find?_of_drained h] at hfound; cases hfound
      by_cases hguard : (execution.binding.isSome || s.isCancelled execution) = true
      · constructor <;> simp [State.body, State.removeActiveIfUnbound, hfound, hguard]
      · constructor <;> simp [State.body, State.removeActiveIfUnbound, State.remove, hfound, hguard, hnot]
  | cancelActive key =>
    cases hfound : s.active.find? key with
    | none => constructor <;> simp [State.body, State.cancelActive, hfound]
    | some execution => constructor <;> simp [State.body, State.cancelActive, hfound, State.drained]

end Rovai.ActiveWait
