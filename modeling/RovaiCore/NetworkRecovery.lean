import RovaiCore.Tables
import RovaiCore.Runs
import Mathlib.Data.List.Sort
/-!
# The network recovery queue (`network_recovery.rs`)

Runs that wait for the network, each with the epoch that failed last, its attempt and the instant at which it is due.
-/
namespace Rovai.NetworkRecovery

open Tables (Table)

inductive NetworkFailureCategory where
  | connectionFailed
  | connectionReset
  | dnsTemporaryFailure
  | networkTimeout

structure Registration where
  (agentRunId campId campTurnId : String)
  executionEpoch : Int
  adapterKind : String
  category : NetworkFailureCategory
  source : String

structure Attempt where
  registration : Registration
  attempt : Nat

inductive RegistrationOutcome where
  | scheduled (attempt delay : Nat)
  | duplicate
  | stale

structure Entry where
  registration : Registration
  (attempt dueAt : Nat)
  (inFlight wakeConsumed : Bool)

variable (entry : Entry)

def Entry.agentRunId : String := entry.registration.agentRunId

def Entry.executionEpoch : Int := entry.registration.executionEpoch

def Entry.asAttempt : Attempt := ⟨entry.registration, entry.attempt⟩

def delaysSeconds : List Nat := [1, 2, 3, 5, 10, 15, 30]

def second : Nat := 10 ^ 9

def networkRecoveryDelay (attempt : Nat) : Nat :=
  second * delaysSeconds.getD (min (attempt - 1) (delaysSeconds.length - 1)) 0

def maxAttempt : Nat := 2 ^ 32 - 1

abbrev Queue := Table Entry.agentRunId

/-! ## Operations -/

/-- The attempt of an accepted registration, and whether its cycle has been woken. -/
def nextAttempt : Option Entry → Nat × Bool
  | none => (1, false)
  | some entry => (min (entry.attempt + 1) maxAttempt, entry.wakeConsumed)

def newEntry (registration : Registration) (attemptCompletedAt : Nat) (previous : Option Entry) : Entry where
  registration := registration
  attempt := (nextAttempt previous).1
  dueAt := attemptCompletedAt + networkRecoveryDelay (nextAttempt previous).1
  inFlight := false
  wakeConsumed := (nextAttempt previous).2

variable (q : Queue)

def put (entry : Entry) : Queue :=
  (q.deleteWhere (fun e => e.agentRunId == entry.agentRunId)).insert entry

variable (agentRunId : String)

def remove : Queue :=
  q.deleteWhere (fun e => e.agentRunId == agentRunId)

def register (registration : Registration) (attemptCompletedAt : Nat) : Queue × RegistrationOutcome :=
  match q.find? registration.agentRunId with
  | some entry =>
    if registration.executionEpoch < entry.executionEpoch then (q, .stale)
    else if entry.executionEpoch = registration.executionEpoch then (q, .duplicate)
    else
      let new := newEntry registration attemptCompletedAt (some entry)
      (put q new, .scheduled new.attempt (networkRecoveryDelay new.attempt))
  | none =>
    let new := newEntry registration attemptCompletedAt none
    (put q new, .scheduled new.attempt (networkRecoveryDelay new.attempt))

def nextDeadline : Option Nat :=
  ((q.rows.filter (fun entry => !entry.inFlight)).map Entry.dueAt).min?

variable (now : Nat)

def Entry.due (entry : Entry) : Bool :=
  !entry.inFlight && decide (entry.dueAt ≤ now)

def Entry.take (entry : Entry) : Entry :=
  if entry.due now then { entry with inFlight := true } else entry

def byRun (a b : Attempt) : Prop := a.registration.agentRunId ≤ b.registration.agentRunId

instance : DecidableRel byRun := fun a b => inferInstanceAs (Decidable (a.registration.agentRunId ≤ b.registration.agentRunId))

theorem agentRunId_take (entry : Entry) : (entry.take now).agentRunId = entry.agentRunId := by
  unfold Entry.take
  split <;> rfl

def takeDue : Queue × List Attempt :=
  (q.updateWhere (fun _ => true) (Entry.take now) (agentRunId_take now),
    ((q.rows.filter (Entry.due now)).map Entry.asAttempt).insertionSort byRun)

def Entry.wakes (entry : Entry) : Bool :=
  !entry.inFlight && !entry.wakeConsumed && decide (now < entry.dueAt)

def Entry.wake (entry : Entry) : Entry :=
  if entry.wakes now then { entry with dueAt := now, wakeConsumed := true } else entry

theorem agentRunId_wake (entry : Entry) : (entry.wake now).agentRunId = entry.agentRunId := by
  unfold Entry.wake
  split <;> rfl

def wakeWaiting : Queue × Nat :=
  (q.updateWhere (fun _ => true) (Entry.wake now) (agentRunId_wake now), q.rows.countP (Entry.wakes now))

def complete (throughExecutionEpoch : Int) : Queue × Option Attempt :=
  match q.find? agentRunId with
  | some entry =>
    if entry.executionEpoch ≤ throughExecutionEpoch then (remove q agentRunId, some entry.asAttempt) else (q, none)
  | none => (q, none)

def completeAfterTerminal (terminalExecutionEpoch : Int) : Queue × Option Attempt :=
  match q.find? agentRunId with
  | some entry =>
    if terminalExecutionEpoch ≤ entry.executionEpoch then (q, none) else (remove q agentRunId, some entry.asAttempt)
  | none => (q, none)

def Entry.deferTo (completedAt : Nat) (entry : Entry) : Entry :=
  { entry with dueAt := completedAt + networkRecoveryDelay entry.attempt, inFlight := false }

theorem agentRunId_deferTo (completedAt : Nat) (entry : Entry) : (entry.deferTo completedAt).agentRunId = entry.agentRunId :=
  rfl

def deferCheck (executionEpoch : Int) (completedAt : Nat) :
    Queue × Option (Attempt × Nat) :=
  match q.find? agentRunId with
  | some entry =>
    if entry.executionEpoch ≠ executionEpoch || !entry.inFlight then (q, none)
    else (q.update agentRunId (Entry.deferTo completedAt) (agentRunId_deferTo completedAt), some (entry.asAttempt, networkRecoveryDelay entry.attempt))
  | none => (q, none)

def drain : Queue × List Attempt :=
  (.empty, (q.rows.map Entry.asAttempt).insertionSort byRun)

/-! ## Steps -/

inductive Action where
  | register (registration : Registration) (attemptCompletedAt : Nat)
  | takeDue (now : Nat)
  | wakeWaiting (now : Nat)
  | complete (agentRunId : String) (throughExecutionEpoch : Int)
  | completeAfterTerminal (agentRunId : String) (terminalExecutionEpoch : Int)
  | deferCheck (agentRunId : String) (executionEpoch : Int) (completedAt : Nat)
  | drain

def step : Action → Queue
  | .register registration completedAt => (register q registration completedAt).1
  | .takeDue now => (takeDue q now).1
  | .wakeWaiting now => (wakeWaiting q now).1
  | .complete agentRunId epoch => (complete q agentRunId epoch).1
  | .completeAfterTerminal agentRunId epoch => (completeAfterTerminal q agentRunId epoch).1
  | .deferCheck agentRunId epoch completedAt => (deferCheck q agentRunId epoch completedAt).1
  | .drain => (drain q).1

def run (actions : List Action) : Queue :=
  actions.foldl step .empty

def handedOut : Action → List Attempt
  | .takeDue now => (takeDue q now).2
  | _ => []

/-! ## One run's entry -/

def entryStep (k : String) (entry : Option Entry) : Action → Option Entry
  | .register registration completedAt =>
    if registration.agentRunId = k ∧ entry.all (fun e => decide (e.executionEpoch < registration.executionEpoch)) = true then
      some (newEntry registration completedAt entry)
    else entry
  | .takeDue now => entry.map (Entry.take now)
  | .wakeWaiting now => entry.map (Entry.wake now)
  | .complete agentRunId epoch =>
    if agentRunId = k ∧ entry.any (fun e => decide (e.executionEpoch ≤ epoch)) = true then none else entry
  | .completeAfterTerminal agentRunId epoch =>
    if agentRunId = k ∧ entry.any (fun e => decide (e.executionEpoch < epoch)) = true then none else entry
  | .deferCheck agentRunId epoch completedAt =>
    if agentRunId = k ∧ entry.any (fun e => decide (e.executionEpoch = epoch) && e.inFlight) = true then
      entry.map (Entry.deferTo completedAt)
    else entry
  | .drain => none

variable {q : Queue} {k : String}

theorem find?_remove (q : Queue) (agentRunId k : String) :
    (remove q agentRunId).find? k = if agentRunId = k then none else q.find? k := by
  unfold remove
  rw [Table.find?_deleteWhere]
  cases hentry : q.find? k with
  | none => split <;> rfl
  | some entry =>
    have hkey : entry.agentRunId = k := Table.key_of_find? hentry
    rw [Option.filter_some, hkey]
    by_cases hk : agentRunId = k
    · simp [hk]
    have hk' : k ≠ agentRunId := fun h => hk h.symm
    simp [hk, hk']

theorem find?_put (q : Queue) (entry : Entry) (k : String) :
    (put q entry).find? k = if entry.agentRunId = k then some entry else q.find? k := by
  have hfree : (remove q entry.agentRunId).find? entry.agentRunId = none := by rw [find?_remove, if_pos rfl]
  have hput : put q entry = (remove q entry.agentRunId).insert entry := rfl
  rw [hput, Table.find?_insert hfree, find?_remove]
  by_cases hk : entry.agentRunId = k
  · simp [hk]
  have hk' : k ≠ entry.agentRunId := fun h => hk h.symm
  simp [hk, hk']

theorem find?_register (q : Queue) (registration : Registration) (completedAt : Nat) (k : String) :
    (register q registration completedAt).1.find? k = entryStep k (q.find? k) (.register registration completedAt) := by
  unfold register entryStep
  dsimp only
  by_cases hk : registration.agentRunId = k
  · subst hk
    cases hfound : q.find? registration.agentRunId with
    | none =>
      dsimp only
      rw [find?_put]
      simp [newEntry, Entry.agentRunId]
    | some entry =>
      dsimp only
      rw [Option.all_some]
      split
      · rename_i hstale
        have hnot : ¬entry.executionEpoch < registration.executionEpoch := by omega
        simp [hnot, hfound]
      · split
        · rename_i hsame
          simp [hsame, hfound]
        · have hlt : entry.executionEpoch < registration.executionEpoch := by omega
          rw [find?_put]
          simp [newEntry, Entry.agentRunId, hlt]
  · have hput : ∀ entry, (put q (newEntry registration completedAt entry)).find? k = q.find? k := by
      intro entry
      rw [find?_put, if_neg (by simpa [newEntry, Entry.agentRunId] using hk)]
    rw [if_neg (fun h => hk h.1)]
    split
    · split
      · rfl
      split
      · rfl
      · exact hput _
    · exact hput _

theorem find?_complete (q : Queue) (agentRunId : String) (epoch : Int) (k : String) :
    (complete q agentRunId epoch).1.find? k = entryStep k (q.find? k) (.complete agentRunId epoch) := by
  unfold complete entryStep
  dsimp only
  by_cases hk : agentRunId = k
  · subst hk
    cases hfound : q.find? agentRunId with
    | none => simp [hfound]
    | some entry =>
      dsimp only
      split
      · rename_i hle
        rw [find?_remove]
        simp [hle]
      · rename_i hle
        simp [hle, hfound]
  · rw [if_neg (fun h => hk h.1)]
    split
    · split
      · rw [find?_remove, if_neg hk]
      · rfl
    · rfl

theorem find?_completeAfterTerminal (q : Queue) (agentRunId : String) (epoch : Int) (k : String) :
    (completeAfterTerminal q agentRunId epoch).1.find? k = entryStep k (q.find? k) (.completeAfterTerminal agentRunId epoch) := by
  unfold completeAfterTerminal entryStep
  dsimp only
  by_cases hk : agentRunId = k
  · subst hk
    cases hfound : q.find? agentRunId with
    | none => simp [hfound]
    | some entry =>
      dsimp only
      split
      · rename_i hle
        simp [hfound, not_lt.2 hle]
      · rename_i hlt
        rw [find?_remove]
        simp [not_le.1 hlt]
  · rw [if_neg (fun h => hk h.1)]
    split
    · split
      · rfl
      · rw [find?_remove, if_neg hk]
    · rfl

theorem find?_deferCheck (q : Queue) (agentRunId : String) (epoch : Int) (completedAt : Nat) (k : String) :
    (deferCheck q agentRunId epoch completedAt).1.find? k = entryStep k (q.find? k) (.deferCheck agentRunId epoch completedAt) := by
  unfold deferCheck entryStep
  dsimp only
  by_cases hk : agentRunId = k
  · subst hk
    cases hfound : q.find? agentRunId with
    | none => simp [hfound]
    | some entry =>
      dsimp only
      split
      · rename_i hguard
        have hnot : ¬(decide (entry.executionEpoch = epoch) && entry.inFlight) = true := by
          simpa [imp_iff_not_or] using hguard
        simp [hfound, hnot]
      · rename_i hguard
        have hyes : (decide (entry.executionEpoch = epoch) && entry.inFlight) = true := by simpa using hguard
        rw [Option.any_some, if_pos ⟨rfl, hyes⟩]
        exact Table.find?_update_self hfound (Entry.deferTo completedAt) (agentRunId_deferTo completedAt)
  · rw [if_neg (fun h => hk h.1)]
    split
    · split
      · rfl
      · exact Table.find?_update_of_ne q (Ne.symm hk) (Entry.deferTo completedAt) (agentRunId_deferTo completedAt)
    · rfl

/-- **The queue is one automaton for each run.** -/
theorem find?_step (q : Queue) (a : Action) (k : String) : (step q a).find? k = entryStep k (q.find? k) a := by
  cases a with
  | register registration completedAt => exact find?_register q registration completedAt k
  | takeDue now => exact (Table.find?_updateWhere q (fun _ => true) (Entry.take now) (agentRunId_take now) k).trans (by simp [entryStep])
  | wakeWaiting now => exact (Table.find?_updateWhere q (fun _ => true) (Entry.wake now) (agentRunId_wake now) k).trans (by simp [entryStep])
  | complete agentRunId epoch => exact find?_complete q agentRunId epoch k
  | completeAfterTerminal agentRunId epoch => exact find?_completeAfterTerminal q agentRunId epoch k
  | deferCheck agentRunId epoch completedAt => exact find?_deferCheck q agentRunId epoch completedAt k
  | drain => rfl

theorem mem_handedOut {a : Action} {attempt : Attempt} : attempt ∈ handedOut q a ↔ ∃ now entry, a = .takeDue now ∧
    q.find? attempt.registration.agentRunId = some entry ∧ entry.due now = true ∧ entry.asAttempt = attempt := by
  cases a with
  | takeDue now =>
    unfold handedOut takeDue
    rw [List.mem_insertionSort, List.mem_map]
    constructor
    · rintro ⟨entry, hentry, rfl⟩
      obtain ⟨hmem, hdue⟩ := List.mem_filter.1 hentry
      exact ⟨now, entry, rfl, Table.find?_of_mem hmem, hdue, rfl⟩
    · rintro ⟨now', entry, hnow, hfound, hdue, rfl⟩
      cases hnow
      exact ⟨entry, List.mem_filter.2 ⟨Table.mem_of_find? hfound, hdue⟩, rfl⟩
  | _ => simp [handedOut]

theorem run_append (as bs : List Action) : run (as ++ bs) = bs.foldl step (run as) :=
  List.foldl_append

end Rovai.NetworkRecovery
