import RovaiCore.ReadWriteLock
import RovaiCore.Runs
/-!
# The planned shutdown coordinator (`planned_shutdown.rs`)

Any number of tasks call the coordinator; what runs between two of them is one atomic operation: a read or a write of the phase,
the taking or leaving of a lock, the body of one critical section.
-/
namespace Rovai.Shutdown

open Locks (RwLock)

abbrev TaskId := Nat

/-! ## Keys, bindings and terminals -/

structure ActiveExecutionKey where
  agentRunId : String
  executionEpoch : Int
  deriving DecidableEq

structure RuntimeRouteBinding where
  (routeIdentity adapterTurnCorrelation : String)
  providerTurnId : Option String
  deriving DecidableEq

inductive RuntimeTerminalOutcome where
  | succeeded
  | failed
  | cancelled
  | interrupted
  deriving DecidableEq

structure RuntimeTerminalObservation where
  key : ActiveExecutionKey
  binding : RuntimeRouteBinding
  outcome : RuntimeTerminalOutcome
  fingerprint : String
  deriving DecidableEq

/-- `cancellation` names the launch permit with which the execution shares its two flags. -/
structure ActiveExecution where
  binding : Option RuntimeRouteBinding
  plannedStopRequested : Bool
  terminalFingerprint : Option String
  terminalOutcome : Option RuntimeTerminalOutcome
  cancellation : TaskId

structure SettledExecution where
  binding : RuntimeRouteBinding
  plannedStopRequested : Bool
  terminalFingerprint : String
  terminalOutcome : RuntimeTerminalOutcome

inductive TerminalAdmissionError where
  | closed
  | executionNotActive
  | routeMismatch
  | plannedStopNotRequested
  | conflictingTerminal
  deriving DecidableEq

inductive ShutdownPhase where
  | accepting
  | closingLaunch
  | draining
  | terminalClosed
  deriving DecidableEq

def ShutdownPhase.toNat : ShutdownPhase → Nat
  | .accepting => 0
  | .closingLaunch => 1
  | .draining => 2
  | .terminalClosed => 3

/-! ## Permits and calls -/

inductive PermitCall where
  | registering (key : ActiveExecutionKey)
  | handoff (key : ActiveExecutionKey) (binding : RuntimeRouteBinding)
  | bound

/-- While a call borrows the permit it is neither dropped nor handed to a call that changes it. -/
structure LaunchPermit where
  generation : String
  guard : Bool
  pending : List PermitCall

/-- What `admit_terminal` answered: the ordinary route (`none`) or a settlement permit with its stop request. -/
structure Admission where
  observation : RuntimeTerminalObservation
  planned : Option Bool
  guard : Bool

inductive Call where
  | launchWaiting
  | launchHolding
  | closureStarted
  | closureChecked
  | closureWaiting
  | closureHolding
  | closureLooking
  | closureDropping (transitioned : Bool)
  | terminalWaiting (observation : RuntimeTerminalObservation)
  | terminalHolding (observation : RuntimeTerminalObservation)
  | terminalActive (observation : RuntimeTerminalObservation)
  | terminalSettled (observation : RuntimeTerminalObservation)
  | routeWaiting
  | routeHolding
  | closing
  | drain (terminal route : Option Bool)
  | settling (key : ActiveExecutionKey) (execution : SettledExecution)

structure Coordinator where
  generation : String
  phase : ShutdownPhase
  (launchGate terminalGate : RwLock TaskId)
  runtimeRoutesOpen : Bool
  runtimeRouteGate : RwLock TaskId
  active : ActiveExecutionKey → Option ActiveExecution
  settled : ActiveExecutionKey → Option SettledExecution
  (cancelled launching : TaskId → Bool)
  calls : TaskId → Option Call
  launchPermits : TaskId → Option LaunchPermit
  admissions : TaskId → Option Admission
  routePermits : TaskId → Option Bool
  nextTask : TaskId

def Coordinator.new (generation : String) : Coordinator where
  generation := generation
  phase := .accepting
  launchGate := .new
  terminalGate := .new
  runtimeRoutesOpen := true
  runtimeRouteGate := .new
  active := fun _ => none
  settled := fun _ => none
  cancelled := fun _ => false
  launching := fun _ => false
  calls := fun _ => none
  launchPermits := fun _ => none
  admissions := fun _ => none
  routePermits := fun _ => none
  nextTask := 0

/-- What a call returned with its last operation; `pending` when it has not returned. -/
inductive Reply where
  | pending
  | launched (permit : Option TaskId)
  | registered (admitted : Bool)
  | handedOff (admitted : Bool)
  | launchClosed (transitioned : Bool)
  | refused (task : TaskId) (observation : RuntimeTerminalObservation) (error : TerminalAdmissionError)
  | admitted (task : TaskId) (observation : RuntimeTerminalObservation) (planned : Option Bool)
  | routed (permit : Option TaskId)
  | admissionClosed
  | drained (task : TaskId) (terminal route : Bool)
  | removed (b : Bool)
  | bound (b : Bool)
  | marked (b : Bool)
  deriving DecidableEq

inductive Action where
  | enterLaunch
  | finishLaunchClosure
  | admitTerminal (observation : RuntimeTerminalObservation)
  | enterRuntimeRoute
  | closeTerminalAndRuntimeRouteAdmission
  | drainTerminalAndRuntimeRoutes
  | removeActive (key : ActiveExecutionKey) (cleanup : Bool)
  | advance (task : TaskId)
  | expire (task : TaskId)
  | abandon (task : TaskId)
  | drainRoute (task : TaskId)
  | expireRoute (task : TaskId)
  | closeLaunchAdmission
  | finishLaunch (permit : TaskId)
  | dropLaunchPermit (permit : TaskId)
  | registerActive (permit : TaskId) (key : ActiveExecutionKey)
  | completeHandoff (permit : TaskId) (key : ActiveExecutionKey) (binding : RuntimeRouteBinding)
  | advancePermit (permit : TaskId) (index : Nat)
  | abandonPermit (permit : TaskId) (index : Nat)
  | completeSettlement (permit : TaskId)
  | completeCallback (permit : TaskId)
  | bindRoute (key : ActiveExecutionKey) (binding : RuntimeRouteBinding)
  | markPlannedStopRequested (key : ActiveExecutionKey)
  | cancelActive (key : ActiveExecutionKey)
  | removeActiveIfUnbound (key : ActiveExecutionKey)

namespace Coordinator

/-! ## Tasks -/

variable (s : Coordinator) (t : TaskId) (call : Option Call)

def setCall : Coordinator :=
  { s with calls := Function.update s.calls t call }

def start (call : Call) : Coordinator :=
  { s with calls := Function.update s.calls s.nextTask (some call), nextTask := s.nextTask + 1 }

def spend : Coordinator := { s with nextTask := s.nextTask + 1 }

variable (p : TaskId) (permit : Option LaunchPermit)

def setPermit : Coordinator :=
  { s with launchPermits := Function.update s.launchPermits p permit }

@[simp, grind =] theorem calls_setCall (t u : TaskId) (call : Option Call) :
    (s.setCall t call).calls u = if u = t then call else s.calls u := Function.update_apply ..

@[simp, grind =] theorem launchPermits_setCall (t u : TaskId) (call : Option Call) :
    (s.setCall t call).launchPermits u = s.launchPermits u := rfl

@[simp, grind =] theorem admissions_setCall (t u : TaskId) (call : Option Call) :
    (s.setCall t call).admissions u = s.admissions u := rfl

@[simp, grind =] theorem routePermits_setCall (t u : TaskId) (call : Option Call) :
    (s.setCall t call).routePermits u = s.routePermits u := rfl

@[simp, grind =] theorem phase_setCall :
    (s.setCall t call).phase = s.phase := rfl

@[simp, grind =] theorem active_setCall (key : ActiveExecutionKey) :
    (s.setCall t call).active key = s.active key := rfl

@[simp, grind =] theorem settled_setCall (key : ActiveExecutionKey) :
    (s.setCall t call).settled key = s.settled key := rfl

@[simp, grind =] theorem calls_setPermit (p u : TaskId) (permit : Option LaunchPermit) :
    (s.setPermit p permit).calls u = s.calls u := rfl

@[simp, grind =] theorem phase_setPermit :
    (s.setPermit p permit).phase = s.phase := rfl

@[simp, grind =] theorem calls_start (u : TaskId) (call : Call) :
    (s.start call).calls u = if u = s.nextTask then some call else s.calls u := Function.update_apply ..

@[simp, grind =] theorem launchPermits_setPermit (p u : TaskId) (permit : Option LaunchPermit) :
    (s.setPermit p permit).launchPermits u = if u = p then permit else s.launchPermits u := Function.update_apply ..

/-! ## Launch -/

def enterLaunch : Coordinator × Reply :=
  if s.phase ≠ .accepting then (s.spend, .launched none) else (s.start .launchWaiting, .pending)

def checkLaunch : Coordinator × Reply :=
  if s.phase ≠ .accepting then
    ({ s with launchGate := s.launchGate.endRead t }.setCall t none, .launched none)
  else
    (({ s with launching := Function.update s.launching t true }.setPermit t
      (some { generation := s.generation, guard := true, pending := [] })).setCall t none, .launched (some t))

def closeLaunchAdmission : Coordinator :=
  if s.phase = .accepting then { s with phase := .closingLaunch } else s

def enterDraining : Coordinator :=
  if s.phase = .closingLaunch then { s with phase := .draining }.setCall t (some (.closureDropping true))
  else s.setCall t (some .closureLooking)

def finishLaunch : Coordinator :=
  match s.launchPermits p with
  | some _ => { s with launching := Function.update s.launching p false }
  | none => s

def takeLaunchGuard : Coordinator :=
  { s with launchGate := s.launchGate.endRead p }

def dropLaunchPermit : Coordinator :=
  match s.launchPermits p with
  | some permit =>
    if permit.pending = [] then
      ({ s with launching := Function.update s.launching p false }.takeLaunchGuard p).setPermit p none
    else s
  | none => s

variable (key : ActiveExecutionKey)

def registerActive : Coordinator × Reply :=
  match s.launchPermits p with
  | some permit =>
    if permit.pending.any (fun call => match call with | .registering _ => false | _ => true) then (s, .pending)
    else if permit.generation ≠ s.generation ∨ permit.guard = false then (s, .registered false)
    else (s.setPermit p (some { permit with pending := permit.pending ++ [.registering key] }), .pending)
  | none => (s, .pending)

variable (binding : RuntimeRouteBinding)

def completeHandoff :
    Coordinator × Reply :=
  match s.launchPermits p with
  | some permit =>
    if permit.pending ≠ [] then (s, .pending)
    else if permit.generation ≠ s.generation ∨ permit.guard = false then (s, .handedOff false)
    else (s.setPermit p (some { permit with pending := [.handoff key binding] }), .pending)
  | none => (s, .pending)

def bindRouteInner : Coordinator × Bool :=
  match s.active key with
  | none => (s, false)
  | some execution =>
    match execution.binding with
    | some existing => (s, decide (existing = binding))
    | none => ({ s with active := Function.update s.active key (some { execution with binding := some binding }) }, true)

theorem bindRouteInner_eq :
    (s.bindRouteInner key binding).1 = { s with active := (s.bindRouteInner key binding).1.active } := by
  unfold bindRouteInner
  split
  · rfl
  · split <;> rfl

def advancePermit (index : Nat) : Coordinator × Reply :=
  match s.launchPermits p with
  | none => (s, .pending)
  | some permit =>
    let s' := s.setPermit p (some { permit with pending := permit.pending.eraseIdx index })
    match permit.pending[index]? with
    | none => (s, .pending)
    | some (.registering key) =>
      if (s.active key).isSome then (s', .registered false)
      else
        ({ s' with active := Function.update s'.active key (some
            { binding := none, plannedStopRequested := false, terminalFingerprint := none, terminalOutcome := none,
              cancellation := p }) }, .registered true)
    | some (.handoff key binding) =>
      match s.bindRouteInner key binding with
      | (_, false) => (s', .handedOff false)
      | (b, true) => (b.setPermit p (some { permit with pending := permit.pending.set index .bound }), .pending)
    | some .bound =>
      ((s'.takeLaunchGuard p).setPermit p
        (some { permit with guard := false, pending := permit.pending.eraseIdx index }), .handedOff true)

/-- A borrowing call that waits for the map of executions is dropped; one that bound its route does not wait. -/
def abandonPermit (index : Nat) : Coordinator :=
  match s.launchPermits p with
  | none => s
  | some permit =>
    match permit.pending[index]? with
    | some (.registering _) | some (.handoff _ _) =>
      s.setPermit p (some { permit with pending := permit.pending.eraseIdx index })
    | _ => s

/-! ## Terminals -/

variable (o : RuntimeTerminalObservation)

def grantPermit (planned : Option Bool) : Coordinator × Reply :=
  ({ s with admissions := Function.update s.admissions t (some { observation := o, planned := planned, guard := true })
    }.setCall t none, .admitted t o planned)

def refuse (error : TerminalAdmissionError) :
    Coordinator × Reply :=
  ({ s with terminalGate := s.terminalGate.endRead t }.setCall t none, .refused t o error)

def admitTerminal : Coordinator × Reply :=
  if s.phase = .terminalClosed then (s.spend, .refused s.nextTask o .closed)
  else (s.start (.terminalWaiting o), .pending)

def classifyTerminal : Coordinator × Reply :=
  match s.phase with
  | .accepting | .closingLaunch => s.grantPermit t o none
  | .draining => (s.setCall t (some (.terminalActive o)), .pending)
  | .terminalClosed => s.refuse t o .closed

def admitActive : Coordinator × Reply :=
  match s.active o.key with
  | none => (s.setCall t (some (.terminalSettled o)), .pending)
  | some execution =>
    if execution.binding ≠ some o.binding then s.refuse t o .routeMismatch
    else if o.outcome = .cancelled ∧ execution.plannedStopRequested = false then s.refuse t o .plannedStopNotRequested
    else
      match execution.terminalFingerprint, execution.terminalOutcome with
      | some existing, some existingOutcome =>
        if existing ≠ o.fingerprint ∨ existingOutcome ≠ o.outcome then s.refuse t o .conflictingTerminal
        else s.grantPermit t o (some execution.plannedStopRequested)
      | none, none =>
        { s with active := Function.update s.active o.key (some { execution with
            terminalFingerprint := some o.fingerprint, terminalOutcome := some o.outcome }) }.grantPermit t o
          (some execution.plannedStopRequested)
      | _, _ => s.refuse t o .conflictingTerminal

def admitSettled : Coordinator × Reply :=
  match s.settled o.key with
  | none => s.refuse t o .executionNotActive
  | some execution =>
    if execution.binding ≠ o.binding then s.refuse t o .routeMismatch
    else if execution.terminalFingerprint ≠ o.fingerprint ∨ execution.terminalOutcome ≠ o.outcome then
      s.refuse t o .conflictingTerminal
    else if o.outcome = .cancelled ∧ execution.plannedStopRequested = false then s.refuse t o .plannedStopNotRequested
    else s.grantPermit t o (some execution.plannedStopRequested)

def completeSettlement : Coordinator :=
  match s.admissions t with
  | some admission =>
    { s with terminalGate := s.terminalGate.endRead t
             admissions := Function.update s.admissions t (some { admission with guard := false }) }
  | none => s

/-! ## Routes -/

def enterRuntimeRoute : Coordinator × Reply :=
  if s.runtimeRoutesOpen = false then (s.spend, .routed none) else (s.start .routeWaiting, .pending)

def checkRoute : Coordinator × Reply :=
  if s.runtimeRoutesOpen = false then
    ({ s with runtimeRouteGate := s.runtimeRouteGate.endRead t }.setCall t none, .routed none)
  else ({ s with routePermits := Function.update s.routePermits t (some true) }.setCall t none, .routed (some t))

def completeCallback : Coordinator :=
  match s.routePermits t with
  | some _ =>
    { s with runtimeRouteGate := s.runtimeRouteGate.endRead t
             routePermits := Function.update s.routePermits t (some false) }
  | none => s

/-! ## Executions -/

def removeActive (cleanup : Bool) : Coordinator × Reply :=
  match s.active key with
  | none => (s.spend, .removed false)
  | some execution =>
    if cleanup = false ∧ s.cancelled execution.cancellation then (s.spend, .removed false)
    else
      let s' := { s with active := Function.update s.active key none }
      match execution.binding, execution.terminalFingerprint, execution.terminalOutcome with
      | some binding, some fingerprint, some outcome =>
        (s'.start (.settling key
          { binding := binding, plannedStopRequested := execution.plannedStopRequested, terminalFingerprint := fingerprint,
            terminalOutcome := outcome }), .pending)
      | _, _, _ => (s'.spend, .removed true)

def removeActiveIfUnbound : Coordinator × Reply :=
  match s.active key with
  | none => (s, .removed false)
  | some execution =>
    if execution.binding.isSome ∨ s.cancelled execution.cancellation then (s, .removed false)
    else ({ s with active := Function.update s.active key none }, .removed true)

def markPlannedStopRequested : Coordinator × Reply :=
  match s.active key with
  | none => (s, .marked false)
  | some execution =>
    ({ s with active := Function.update s.active key (some { execution with plannedStopRequested := true }) }, .marked true)

def cancelActive : Coordinator :=
  match s.active key with
  | none => s
  | some execution => { s with cancelled := Function.update s.cancelled execution.cancellation true }

/-! ## Steps -/

def joinDrain (terminal route : Option Bool) : Coordinator × Reply :=
  match terminal, route with
  | some a, some b => (s.setCall t none, .drained t a b)
  | _, _ => (s.setCall t (some (.drain terminal route)), .pending)

/-- The next operation of a call.  A drain takes a gate and leaves it at once: to stay inside would only keep others out. -/
def advanceCall : Call → Coordinator × Reply
  | .launchWaiting =>
    if s.launchGate.writer = none then
      ({ s with launchGate := s.launchGate.read t }.setCall t (some .launchHolding), .pending)
    else (s, .pending)
  | .launchHolding => s.checkLaunch t
  | .closureStarted =>
    if s.phase = .draining then (s.setCall t none, .launchClosed true)
    else (s.setCall t (some .closureChecked), .pending)
  | .closureChecked =>
    if s.phase = .terminalClosed then (s.setCall t none, .launchClosed false)
    else (s.setCall t (some .closureWaiting), .pending)
  | .closureWaiting =>
    if s.launchGate.CanWrite then
      ({ s with launchGate := s.launchGate.write t }.setCall t (some .closureHolding), .pending)
    else (s, .pending)
  | .closureHolding => (s.enterDraining t, .pending)
  | .closureLooking => (s.setCall t (some (.closureDropping (decide (s.phase = .draining)))), .pending)
  | .closureDropping transitioned =>
    ({ s with launchGate := s.launchGate.endWrite }.setCall t none, .launchClosed transitioned)
  | .terminalWaiting o =>
    if s.terminalGate.writer = none then
      ({ s with terminalGate := s.terminalGate.read t }.setCall t (some (.terminalHolding o)), .pending)
    else (s, .pending)
  | .terminalHolding o => s.classifyTerminal t o
  | .terminalActive o => s.admitActive t o
  | .terminalSettled o => s.admitSettled t o
  | .routeWaiting =>
    if s.runtimeRouteGate.writer = none then
      ({ s with runtimeRouteGate := s.runtimeRouteGate.read t }.setCall t (some .routeHolding), .pending)
    else (s, .pending)
  | .routeHolding => s.checkRoute t
  | .closing => ({ s with runtimeRoutesOpen := false }.setCall t none, .admissionClosed)
  | .drain none route => if s.terminalGate.CanWrite then s.joinDrain t (some true) route else (s, .pending)
  | .drain (some _) _ => (s, .pending)
  | .settling key execution =>
    ({ s with settled := Function.update s.settled key (some execution) }.setCall t none, .removed true)

def expireCall : Call → Coordinator × Reply
  | .closureWaiting => (s.setCall t none, .launchClosed false)
  | .drain none route => s.joinDrain t (some false) route
  | _ => (s, .pending)

def abandonCall : Call → Coordinator
  | .launchWaiting | .closureWaiting | .terminalWaiting _ | .routeWaiting | .drain _ _ | .settling _ _ => s.setCall t none
  | .terminalActive _ | .terminalSettled _ => { s with terminalGate := s.terminalGate.endRead t }.setCall t none
  | _ => s

def drainRoute : Call → Coordinator × Reply
  | .drain terminal none => if s.runtimeRouteGate.CanWrite then s.joinDrain t terminal (some true) else (s, .pending)
  | _ => (s, .pending)

def expireRoute : Call → Coordinator × Reply
  | .drain terminal none => s.joinDrain t terminal (some false)
  | _ => (s, .pending)

/-- One operation of one call; an operation that is not enabled changes nothing. -/
def step : Action → Coordinator × Reply
  | .enterLaunch => s.enterLaunch
  | .finishLaunchClosure => (s.closeLaunchAdmission.start .closureStarted, .pending)
  | .admitTerminal o => s.admitTerminal o
  | .enterRuntimeRoute => s.enterRuntimeRoute
  | .closeTerminalAndRuntimeRouteAdmission => ({ s with phase := .terminalClosed }.start .closing, .pending)
  | .drainTerminalAndRuntimeRoutes => (s.start (.drain none none), .pending)
  | .removeActive key cleanup => s.removeActive key cleanup
  | .advance t => match s.calls t with
    | some call => s.advanceCall t call
    | none => (s, .pending)
  | .expire t => match s.calls t with
    | some call => s.expireCall t call
    | none => (s, .pending)
  | .abandon t => match s.calls t with
    | some call => (s.abandonCall t call, .pending)
    | none => (s, .pending)
  | .drainRoute t => match s.calls t with
    | some call => s.drainRoute t call
    | none => (s, .pending)
  | .expireRoute t => match s.calls t with
    | some call => s.expireRoute t call
    | none => (s, .pending)
  | .closeLaunchAdmission => (s.closeLaunchAdmission, .pending)
  | .finishLaunch p => (s.finishLaunch p, .pending)
  | .dropLaunchPermit p => (s.dropLaunchPermit p, .pending)
  | .registerActive p key => s.registerActive p key
  | .completeHandoff p key binding => s.completeHandoff p key binding
  | .advancePermit p index => s.advancePermit p index
  | .abandonPermit p index => (s.abandonPermit p index, .pending)
  | .completeSettlement t => (s.completeSettlement t, .pending)
  | .completeCallback t => (s.completeCallback t, .pending)
  | .bindRoute key binding => match s.bindRouteInner key binding with
    | (s', b) => (s', .bound b)
  | .markPlannedStopRequested key => s.markPlannedStopRequested key
  | .cancelActive key => (s.cancelActive key, .pending)
  | .removeActiveIfUnbound key => s.removeActiveIfUnbound key

def next (a : Action) : Coordinator := (s.step a).1

def reply (a : Action) : Reply := (s.step a).2

end Coordinator

def run (generation : String) (as : List Action) : Coordinator := as.foldl Coordinator.next (.new generation)

theorem run_append (generation : String) (as bs : List Action) :
    run generation (as ++ bs) = bs.foldl Coordinator.next (run generation as) := List.foldl_append

def Answered (generation : String) (as : List Action) (r : Reply) : Prop :=
  ∃ (pre : List Action) (a : Action) (post : List Action), as = pre ++ a :: post ∧ (run generation pre).reply a = r

end Rovai.Shutdown
