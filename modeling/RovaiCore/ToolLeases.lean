import RovaiCore.Tables
import RovaiCore.JsonValue
import RovaiCore.ReportedPath
import RovaiCore.Fallible
/-!
# Tool leases (`builtin_tool_runtime.rs`)

A process that works for a Run calls Core's tools with the auth of its lease.
-/
namespace Rovai.ToolLeases

open Tables (Table)

structure NativeBindingCredential where
  nativeBindingId : String
  nativeBindingGeneration : Int
  bindingCredential : String

/-- `BuiltinToolProcessConfig`; `contextFile` says that the runtime has a CLI context file, and `runTmpIsText` that the scratch
path is UTF-8. -/
structure ProcessConfig where
  (processId processToken coreEndpoint : String)
  contextFile : Bool
  runTmp : String
  runTmpIsText : Bool

structure Auth where
  (processId processToken leaseId : String)
  leaseGeneration : Nat
  leaseToken : String
  deriving DecidableEq

structure ReplayEntry where
  requestDigest : String
  envelope : Json

structure ActiveLease where
  leaseId : String
  leaseGeneration : Nat
  (leaseToken agentRunId : String)
  executionEpoch : Int
  nativeBinding : NativeBindingCredential
  (executionRoot runTmp : String)
  replay : List (String × ReplayEntry)
  replayOrder : List String

structure RegisteredProcess where
  (processId processToken : String)
  config : ProcessConfig
  leaseGeneration : Nat
  active : Option ActiveLease

structure LeaseError where
  (code message : String)

def runNotBound : LeaseError :=
  ⟨"builtin_tool.run_not_bound", "Built-in Tool CLI is not bound to the current AgentRun"⟩

def idempotencyConflict : LeaseError :=
  ⟨"builtin_tool.idempotency_conflict", "requestId was reused with a different operation or input"⟩

structure AuthorizedInvocation where
  agentRunId : String
  executionEpoch : Int
  nativeBinding : NativeBindingCredential
  runTmp : String

/-! ## The files of a process -/

structure LeaseContext where
  (executionRoot runTmp leaseId : String)
  leaseGeneration : Nat
  leaseToken : String

structure CliContext where
  (contractVersion ipcProtocolVersion : Nat)
  (coreEndpoint processId processToken : String)
  lease : Option LeaseContext
  tasksEnabled : Bool

/-- Of every process the context file and whether its scratch directory stands; `retired` are the directories moved aside. -/
structure Disk where
  contexts : String → Option CliContext
  runTmp : String → Bool
  retired : List (String × String)

variable (disk : Disk)

def Disk.setRunTmp (processId : String) (stands : Bool) : Disk :=
  { disk with runTmp := fun id => if id = processId then stands else disk.runTmp id }

structure WriteFault where
  afterRename : Bool
  error : String

structure TmpFaults where
  (path metadata rename createDir restrict validate removeDir renameBack : Option String)

variable (config : ProcessConfig)

def cliContext (lease : Option LeaseContext) (tasksEnabled : Bool) : CliContext where
  contractVersion := 45
  ipcProtocolVersion := 3
  coreEndpoint := config.coreEndpoint
  processId := config.processId
  processToken := config.processToken
  lease := lease
  tasksEnabled := tasksEnabled

def Disk.putContext (document : CliContext) : Disk :=
  { disk with contexts := fun id => if id = document.processId then some document else disk.contexts id }

def writeContext (fault : Option WriteFault) (lease : Option LeaseContext)
    (tasksEnabled : Bool) : Disk × Except String Unit :=
  if !config.contextFile then (disk, .ok ())
  else
    match fault with
    | none => (disk.putContext (cliContext config lease tasksEnabled), .ok ())
    | some fault =>
      (if fault.afterRename then disk.putContext (cliContext config lease tasksEnabled) else disk, .error fault.error)

variable (faults : TmpFaults)

def retireRunTmp (retiredName : String) :
    Disk × Except String (Option String) :=
  match faults.path, faults.metadata with
  | some error, _ => (disk, .error error)
  | none, some error => (disk, .error error)
  | none, none =>
    if !disk.runTmp config.processId then (disk, .ok none)
    else
      match faults.rename with
      | some error => (disk, .error error)
      | none =>
        ({ disk.setRunTmp config.processId false with retired := (config.processId, retiredName) :: disk.retired },
          .ok (some retiredName))

def restoreRunTmp (retired : Option String) : Disk :=
  let removed := if faults.removeDir.isNone then disk.setRunTmp config.processId false else disk
  match retired with
  | some name =>
    if !removed.runTmp config.processId && faults.renameBack.isNone then
      { removed.setRunTmp config.processId true with retired := removed.retired.erase (config.processId, name) }
    else removed
  | none => removed

def resetRunTmp (retiredName : String) :
    Disk × Except String (Option String) :=
  match retireRunTmp disk config faults retiredName with
  | (disk, .error error) => (disk, .error error)
  | (disk, .ok retired) =>
    match faults.createDir with
    | some error => (restoreRunTmp disk config faults retired, .error error)
    | none =>
      let created := disk.setRunTmp config.processId true
      match faults.restrict, faults.validate with
      | none, none => (created, .ok retired)
      | some error, _ => (restoreRunTmp created config faults retired, .error error)
      | none, some error => (restoreRunTmp created config faults retired, .error error)

/-! ## The registry -/

structure Registry where
  processes : Table RegisteredProcess.processId
  disk : Disk

def setActive (active : Option ActiveLease) (process : RegisteredProcess) : RegisteredProcess := { process with active }

structure Bind where
  config : ProcessConfig
  agentRunId : String
  executionEpoch : Int
  nativeBinding : NativeBindingCredential
  rootIsDirectory : Bool
  executionRoot : Option String
  (leaseId leaseToken retiredName : String)
  clearFault : Option WriteFault
  tmpFaults : TmpFaults
  writeFault : Option WriteFault

def Bind.checkRoot (b : Bind) : Except String String :=
  if !b.rootIsDirectory then .error "Built-in Tool lease requires an absolute execution workspace"
  else Fallible.orError b.executionRoot "AgentRun workspace is not UTF-8"

def maxGeneration : Nat := 2 ^ 64 - 1

def nextLeaseGeneration (generation : Nat) : Nat := max (min (generation + 1) maxGeneration) 1

def authOf (process : RegisteredProcess) (lease : ActiveLease) : Auth where
  processId := process.processId
  processToken := process.processToken
  leaseId := lease.leaseId
  leaseGeneration := lease.leaseGeneration
  leaseToken := lease.leaseToken

def leaseContext (lease : ActiveLease) : LeaseContext where
  executionRoot := lease.executionRoot
  runTmp := lease.runTmp
  leaseId := lease.leaseId
  leaseGeneration := lease.leaseGeneration
  leaseToken := lease.leaseToken

def Bind.lease (b : Bind) (root runTmp : String) (generation : Nat) : ActiveLease where
  leaseId := b.leaseId
  leaseGeneration := generation
  leaseToken := b.leaseToken
  agentRunId := b.agentRunId
  executionEpoch := b.executionEpoch
  nativeBinding := b.nativeBinding
  executionRoot := root
  runTmp := runTmp
  replay := []
  replayOrder := []

def Bind.auth (b : Bind) (lease : ActiveLease) : Auth where
  processId := b.config.processId
  processToken := b.config.processToken
  leaseId := lease.leaseId
  leaseGeneration := lease.leaseGeneration
  leaseToken := lease.leaseToken

namespace Registry

variable (r : Registry)

def grant (b : Bind) (root : String) (process : RegisteredProcess) : Registry × Except String Auth :=
  match resetRunTmp r.disk process.config b.tmpFaults b.retiredName with
  | (disk, .error error) => ({ r with disk }, .error error)
  | (disk, .ok _) =>
    let generation := nextLeaseGeneration process.leaseGeneration
    let lease := b.lease root process.config.runTmp generation
    let raised := r.processes.update process.processId (fun p => { p with leaseGeneration := generation })
    if !process.config.runTmpIsText then ({ processes := raised, disk }, .error "Run tmp is not UTF-8")
    else
      match writeContext disk process.config b.writeFault (some (leaseContext lease)) false with
      | (disk, .error error) => ({ processes := raised, disk }, .error error)
      | (disk, .ok ()) => ({ processes := raised.update process.processId (setActive (some lease)), disk }, .ok (b.auth lease))

def newProcess (config : ProcessConfig) : RegisteredProcess where
  processId := config.processId
  processToken := config.processToken
  config := config
  leaseGeneration := 0
  active := none

def register (config : ProcessConfig) : Registry :=
  { r with processes := r.processes.insert (newProcess config) }

/-- The section of a bind: whether it got past the check for another Run, and its result. -/
def bind (b : Bind) (root : String) : Registry × Bool × Except String Auth :=
  if b.agentRunId.toList.all isWhitespace || decide (b.executionEpoch ≤ 0) then
    (r, false, .error "Built-in Tool lease requires one current AgentRun")
  else
    match (r.register b.config).processes.find? b.config.processId with
    | none => (r, false, .error "Built-in Tool process identity conflict")
    | some process =>
      if process.processToken ≠ b.config.processToken then
        (r.register b.config, false, .error "Built-in Tool process identity conflict")
      else
        match process.active with
        | none => (((r.register b.config).grant b root process).1, true, ((r.register b.config).grant b root process).2)
        | some active =>
          if active.agentRunId ≠ b.agentRunId ∨ active.executionEpoch ≠ b.executionEpoch then
            (r.register b.config, false, .error "Built-in Tool process is already bound to another AgentRun")
          else
            let cleared := (r.register b.config).processes.update process.processId (setActive none)
            match writeContext r.disk process.config b.clearFault none false with
            | (disk, .error error) => ({ processes := cleared, disk }, true, .error error)
            | (disk, .ok ()) =>
              ((grant { processes := cleared, disk } b root process).1, true, (grant { processes := cleared, disk } b root process).2)

def withdrawFiles (config : ProcessConfig) (clearFault : Option WriteFault) (tmpFaults : TmpFaults)
    (retiredName : String) : Disk :=
  (retireRunTmp (writeContext disk config clearFault none false).1 config tmpFaults retiredName).1

def isBoundTo (agentRunId : String) (executionEpoch : Int) (process : RegisteredProcess) : Bool :=
  process.active.any fun active => active.agentRunId == agentRunId && active.executionEpoch == executionEpoch

def unbind (processId agentRunId : String) (executionEpoch : Int) (clearFault : Option WriteFault) (tmpFaults : TmpFaults)
    (retiredName : String) : Registry :=
  match r.processes.find? processId with
  | none => r
  | some process =>
    if !isBoundTo agentRunId executionEpoch process then r
    else
      { processes := r.processes.update processId (setActive none)
        disk := withdrawFiles r.disk process.config clearFault tmpFaults retiredName }

def remove (processId : String) : Registry :=
  { r with processes := r.processes.deleteWhere (fun process => process.processId == processId) }

structure FenceFaults where
  clearFault : Option WriteFault
  tmpFaults : TmpFaults
  retiredName : String

def fenceAll (faults : String → FenceFaults) : Registry × Nat :=
  ({ processes := r.processes.updateWhere (fun _ => true) (setActive none)
     disk := r.processes.rows.foldl (fun disk process =>
       withdrawFiles disk process.config (faults process.processId).clearFault (faults process.processId).tmpFaults
         (faults process.processId).retiredName) r.disk },
    r.processes.rows.countP (fun process => process.active.isSome))

def refreshes (target : Option (String × String × Int)) (process : RegisteredProcess) (active : ActiveLease) : Bool :=
  process.config.contextFile && target.all fun t =>
    process.config.processId == t.1 && active.agentRunId == t.2.1 && active.executionEpoch == t.2.2

def refreshTasks (enabledRuns : List String) (target : Option (String × String × Int)) (faults : String → Option WriteFault) :
    Registry × Bool :=
  let (disk, refreshed) := r.processes.rows.foldl (fun (disk, refreshed) process =>
    match process.active with
    | none => (disk, refreshed)
    | some active =>
      if refreshes target process active then
        match writeContext disk process.config (faults process.processId) (some (leaseContext active))
            (enabledRuns.contains active.agentRunId) with
        | (disk, .ok ()) => (disk, refreshed)
        | (disk, .error _) => (disk, false)
      else (disk, refreshed)) (r.disk, true)
  ({ r with disk }, refreshed)

/-! ## Calls with an auth -/

def leaseDiffers (active : ActiveLease) (auth : Auth) : Bool :=
  active.leaseId != auth.leaseId || active.leaseGeneration != auth.leaseGeneration || active.leaseToken != auth.leaseToken

variable (auth : Auth)

def activeLease : Except LeaseError ActiveLease :=
  match r.processes.find? auth.processId with
  | none => .error runNotBound
  | some process =>
    if process.processToken ≠ auth.processToken then .error runNotBound
    else
      match process.active with
      | none => .error runNotBound
      | some active => if leaseDiffers active auth then .error runNotBound else .ok active

def authorized (active : ActiveLease) : AuthorizedInvocation :=
  ⟨active.agentRunId, active.executionEpoch, active.nativeBinding, active.runTmp⟩

def authenticate : Except LeaseError AuthorizedInvocation := do
  let active ← r.activeLease auth
  .ok (authorized active)

def executes (run : String) (epoch : Int) (binding : String) (generation : Int) (active : ActiveLease) : Bool :=
  active.agentRunId == run && active.executionEpoch == epoch && active.nativeBinding.nativeBindingId == binding &&
    active.nativeBinding.nativeBindingGeneration == generation

def executionAuths (run : String) (epoch : Int) (binding : String) (generation : Int) : List Auth :=
  r.processes.rows.filterMap fun process =>
    process.active.bind fun active =>
      if executes run epoch binding generation active then some (authOf process active) else none

def authForExecution (run : String) (epoch : Int) (binding : String) (generation : Int) : Except LeaseError Auth :=
  match r.executionAuths run epoch binding generation with
  | [auth] => .ok auth
  | _ => .error runNotBound

def lookupReplay (requestId : String) (replay : List (String × ReplayEntry)) : Option ReplayEntry :=
  (replay.find? (fun entry => entry.1 == requestId)).map Prod.snd

def replay (requestId requestDigest : String) : Except LeaseError (Option Json) := do
  let active ← r.activeLease auth
  match lookupReplay requestId active.replay with
  | some entry => if entry.requestDigest = requestDigest then .ok (some entry.envelope) else .error idempotencyConflict
  | none => .ok none

def replayCapacity : Nat := 1024

def expireReplay : List String → List (String × ReplayEntry) → List String × List (String × ReplayEntry)
  | [], replay => ([], replay)
  | requestId :: order, replay =>
    if replayCapacity < (requestId :: order).length then
      expireReplay order (replay.filter (fun entry => entry.1 != requestId))
    else (requestId :: order, replay)

def recordReplay (requestId requestDigest : String) (envelope : Json) (active : ActiveLease) : ActiveLease :=
  let (order, replay) := expireReplay (active.replayOrder ++ [requestId])
    ((requestId, ⟨requestDigest, envelope⟩) :: active.replay)
  { active with replay, replayOrder := order }

def record (requestId requestDigest : String) (envelope : Json) : Registry × Except LeaseError Unit :=
  match r.activeLease auth with
  | .error error => (r, .error error)
  | .ok active =>
    match lookupReplay requestId active.replay with
    | some existing => if existing.requestDigest ≠ requestDigest then (r, .error idempotencyConflict) else (r, .ok ())
    | none =>
      let recorded := recordReplay requestId requestDigest envelope active
      ({ r with processes := r.processes.update auth.processId (setActive (some recorded)) }, .ok ())

end Registry

/-! ## The locks -/

inductive GatedCall where
  | bind (b : Bind)
  | unbind (processId agentRunId : String) (executionEpoch : Int) (clearFault : Option WriteFault) (tmpFaults : TmpFaults)
      (retiredName : String)
  | unregister (processId : String) (clearFault : Option WriteFault) (tmpFaults : TmpFaults) (retiredName : String)
  | fenceAll (faults : String → Registry.FenceFaults)
  | invocation

/-- Who holds the gate: a call that waits for the table, or an unregister that has removed its process. -/
inductive Holder where
  | call (c : GatedCall)
  | retiring (config : ProcessConfig) (clearFault : Option WriteFault) (tmpFaults : TmpFaults) (retiredName : String)

structure State where
  registry : Registry
  gate : Option Holder

inductive Action where
  | take (c : GatedCall)
  | giveUp
  | enter
  | refreshTasks (enabledRuns : List String) (target : Option (String × String × Int)) (faults : String → Option WriteFault)
  | authenticate (auth : Auth)
  | authForExecution (run : String) (epoch : Int) (binding : String) (generation : Int)
  | replay (auth : Auth) (requestId requestDigest : String)
  | record (auth : Auth) (requestId requestDigest : String) (envelope : Json)

/-- What a step did.  `passed` says that the bind got past the check for another Run. -/
inductive Outcome where
  | bind (b : Bind) (passed : Bool) (result : Except String Auth)
  | unbind (processId agentRunId : String) (executionEpoch : Int)
  | unregister (processId : String)
  | fenceAll (fenced : Nat)
  | refreshTasks (refreshed : Bool)
  | authenticate (auth : Auth) (result : Except LeaseError AuthorizedInvocation)
  | authForExecution (result : Except LeaseError Auth)
  | replay (auth : Auth) (requestId requestDigest : String) (result : Except LeaseError (Option Json))
  | record (auth : Auth) (requestId requestDigest : String) (envelope : Json) (result : Except LeaseError Unit)
  | quiet

namespace State

variable (s : State)

def runSection : GatedCall → State × Outcome
  | .bind b =>
    match b.checkRoot with
    | .error error => ({ s with gate := none }, .bind b false (.error error))
    | .ok root =>
      let (registry, passed, result) := s.registry.bind b root
      ({ registry, gate := none }, .bind b passed result)
  | .unbind processId agentRunId executionEpoch clearFault tmpFaults retiredName =>
    ({ registry := s.registry.unbind processId agentRunId executionEpoch clearFault tmpFaults retiredName, gate := none },
      .unbind processId agentRunId executionEpoch)
  | .unregister processId clearFault tmpFaults retiredName =>
    ({ registry := s.registry.remove processId
       gate := (s.registry.processes.find? processId).map fun process =>
         .retiring process.config clearFault tmpFaults retiredName },
      .unregister processId)
  | .fenceAll faults => ({ registry := (s.registry.fenceAll faults).1, gate := none }, .fenceAll (s.registry.fenceAll faults).2)
  | .invocation => (s, .quiet)

/-- The root of a bind is checked before it takes the gate; a call whose future is dropped gives the gate up, and the files of
a process that was removed are withdrawn without waiting. -/
def step : Action → State × Outcome
  | .take c =>
    match c with
    | .bind b =>
      match b.checkRoot with
      | .error error => (s, .bind b false (.error error))
      | .ok _ => (if s.gate.isNone then { s with gate := some (.call c) } else s, .quiet)
    | _ => (if s.gate.isNone then { s with gate := some (.call c) } else s, .quiet)
  | .giveUp =>
    match s.gate with
    | some (.call _) => ({ s with gate := none }, .quiet)
    | _ => (s, .quiet)
  | .enter =>
    match s.gate with
    | none => (s, .quiet)
    | some (.call c) => s.runSection c
    | some (.retiring config clearFault tmpFaults retiredName) =>
      ({ registry := { s.registry with disk := Registry.withdrawFiles s.registry.disk config clearFault tmpFaults retiredName }
         gate := none }, .quiet)
  | .refreshTasks enabledRuns target faults =>
    ({ s with registry := (s.registry.refreshTasks enabledRuns target faults).1 },
      .refreshTasks (s.registry.refreshTasks enabledRuns target faults).2)
  | .authenticate auth => (s, .authenticate auth (s.registry.authenticate auth))
  | .authForExecution run epoch binding generation =>
    (s, .authForExecution (s.registry.authForExecution run epoch binding generation))
  | .replay auth requestId requestDigest => (s, .replay auth requestId requestDigest (s.registry.replay auth requestId requestDigest))
  | .record auth requestId requestDigest envelope =>
    ({ s with registry := (s.registry.record auth requestId requestDigest envelope).1 },
      .record auth requestId requestDigest envelope (s.registry.record auth requestId requestDigest envelope).2)

end State

def Disk.empty : Disk := ⟨fun _ => none, fun _ => false, []⟩

def State.initial : State := ⟨⟨.empty, disk⟩, none⟩

end Rovai.ToolLeases
