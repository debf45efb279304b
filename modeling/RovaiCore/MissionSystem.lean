import RovaiCore.MissionCleanup
/-!
# Preparations and cleanups behind one gate

A preparation or a cleanup attempt holds the lifecycle gate, step by step.
-/
namespace Rovai.Mission

/-! ## The preparation -/

structure GitRepository where
  (root commonDir : Path)
  baseSha : Oid
  relativeDirectory : Path

/-- What a preparation is given: the names that it draws, the repository as it is found, and how each attempt to materialize the
worktree ends. -/
structure PreparationInput where
  (workspaceId campId : String)
  candidates : Candidates
  preparationToken : String
  repository : Option GitRepository
  materialized : List (Except Failure Unit)

abbrev Preparing := Program Lifecycle Stop

def orStop {α : Type} : Except Failure α → Except Stop α
  | .ok a => .ok a
  | .error failure => .error (.failure failure)

def inspectDisk {α : Type} (f : Disk → Except Failure α) : Preparing α :=
  Program.atomic fun s => (orStop (f s.disk), s)

variable (w : MissionWorkspace)

/-- The row is changed where it is still what the preparation knows, and the thread accepts it. -/
def compareAndSet (f : Lifecycle → MissionWorkspace → Lifecycle) : Preparing Unit :=
  Program.atomic fun s => match s.workspace with
    | some row =>
      if row.id = w.id ∧ row.state = w.state ∧ row.generation = w.generation ∧ row.preparationToken = w.preparationToken ∧
          s.camp.accepts = true then (.ok (), f s row)
      else (.error .refused, s)
    | none => (.error .refused, s)

variable (s : Lifecycle)

def reuseReady (row : MissionWorkspace) : Lifecycle :=
  { s.makeReady { row.cleared with diagnostic := none } with journal := [] }

def newWorkspace (host : String) (input : PreparationInput) (repository : GitRepository) (suffix : Nat) : MissionWorkspace where
  id := input.workspaceId
  campId := input.campId
  executionHostId := host
  repositoryRoot := repository.root
  gitCommonDir := repository.commonDir
  worktreePath := input.candidates.path repository.root suffix
  workingDirectory := input.candidates.path repository.root suffix ++ repository.relativeDirectory
  branch := input.candidates.branch suffix
  baseSha := repository.baseSha
  preparationToken := input.preparationToken
  preparationKind := .create
  generation := 1
  state := .preparing
  cleanupCommandId := none
  cleanupExpectedBranchOid := none
  cleanupWorktreeRemoved := false
  cleanupBranchRemoved := false
  diagnostic := none

def persistPlan : Preparing Unit :=
  Program.atomic fun s => match s.camp.accepts, s.workspace with
    | true, none => (.ok (), { s with workspace := some w, journal := [] })
    | _, _ => (.error .refused, s)

variable (input : PreparationInput)

def planWorkspace : Preparing MissionWorkspace := do
  match input.repository with
  | none => Program.fail .refused
  | some repository =>
    let host ← Program.atomic fun s => (.ok s.missionExecutionHost, s)
    let suffix ← inspectDisk fun d => selectCandidate d input.candidates repository.root 1
    persistPlan (newWorkspace host input repository suffix)
    pure (newWorkspace host input repository suffix)

def cleanupDiagnosticIsRecoverable : Bool :=
  match w.diagnostic with
  | none => false
  | some diagnostic => mentions diagnostic "mission.workspace_dirty" || mentions diagnostic "mission.detached_head_unreachable" ||
      (w.cleanupExpectedBranchOid.isNone && mentions diagnostic "mission.workspace_branch_mismatch")

def validateExecutionWorkspace (d : Disk) : Except Failure Unit := do
  let _ ← verifyTree d w.worktreePath w true
  ensure (d.canonical w.workingDirectory) "mission.working_directory_changed"

def recoverFailedCleanup : Preparing MissionWorkspace := do
  if w.state = .cleanupFailed ∧ w.cleanupFinished = false ∧ cleanupDiagnosticIsRecoverable w = true then
    let intact ← inspectDisk fun d => .ok (d.pathOccupied w.worktreePath && (validateExecutionWorkspace w d).isOk)
    if intact then
      compareAndSet w reuseReady
      pure { w.cleared with state := .ready, diagnostic := none }
    else pure w
  else pure w

/-- The plan of a worktree that is absent: it is restored from its branch, or created from what the repository is on now. -/
def preparedAgain (w : MissionWorkspace) (kind : PreparationKind) (baseSha : Oid) : MissionWorkspace :=
  { w.cleared with
    baseSha := baseSha, preparationToken := input.preparationToken, preparationKind := kind, generation := w.generation + 1
    state := .preparing, diagnostic := none }

def resolveBase (w : MissionWorkspace) : Except Failure Oid :=
  match input.repository with
  | none => .error (.failed "mission.source_repository_unavailable")
  | some repository =>
    if repository.root = w.repositoryRoot ∧ repository.commonDir = w.gitCommonDir then
      if w.workingDirectory = w.worktreePath ++ repository.relativeDirectory then .ok repository.baseSha
      else .error (.failed "mission.working_directory_changed")
    else .error (.failed "mission.repository_mismatch")

def reopenWorkspace (w : MissionWorkspace) : Preparing MissionWorkspace := do
  let worktreeExists ← inspectDisk fun d => .ok (d.pathOccupied w.worktreePath)
  if worktreeExists then
    inspectDisk (validateExecutionWorkspace w)
    compareAndSet w reuseReady
    pure { w.cleared with state := .ready, diagnostic := none }
  else
    let branchOid ← inspectDisk fun d => .ok (d.refs.lookup (headRef w.branch))
    let kind := if branchOid.isSome then PreparationKind.restore else PreparationKind.create
    let baseSha ← Program.settle (if branchOid.isSome then .ok w.baseSha else orStop (resolveBase input w))
    compareAndSet w fun s row => { s with workspace := some (preparedAgain input row kind baseSha), journal := [] }
    pure (preparedAgain input w kind baseSha)

def openWorkspace (saved : MissionWorkspace) : Preparing MissionWorkspace := do
  Program.atomic fun s =>
    (orStop (ensure (saved.executionHostId = s.missionExecutionHost) "mission.execution_host_unavailable"), s)
  let w ← recoverFailedCleanup saved
  Program.settle (orStop (ensure (w.state = .preparing || w.state = .ready || w.cleanupFinished) "mission.workspace_cleanup_pending"))
  if w.state = .preparing then pure w else reopenWorkspace input w

def renameCandidate (next : MissionWorkspace) (s : Lifecycle) (row : MissionWorkspace) : Lifecycle :=
  { s with workspace := some { row with
      worktreePath := next.worktreePath, workingDirectory := next.workingDirectory, branch := next.branch } }

def materializeLoop (c : Candidates) : List (Except Failure Unit) → MissionWorkspace → Preparing MissionWorkspace
  | [], _ => Program.fail .refused
  | .ok () :: _, w => pure w
  | .error failure :: rest, w => do
    if failure = .nameOccupied ∧ w.preparationKind = .create then
      let suffix ← inspectDisk fun d => selectCandidate d c w.repositoryRoot 2
      compareAndSet w (renameCandidate (w.withCandidate c suffix))
      materializeLoop c rest (w.withCandidate c suffix)
    else
      compareAndSet w fun s row => { s with workspace := some { row with diagnostic := some (failureText failure) } }
      Program.fail (.failure failure)

def materializeWorkspace (w : MissionWorkspace) : Preparing MissionWorkspace := do
  if w.state = .preparing then
    let w ← materializeLoop input.candidates input.materialized w
    compareAndSet w fun s row => s.makeReady { row with diagnostic := none }
    pure { w with state := .ready }
  else pure w

def openOrPlan : Option MissionWorkspace → Preparing MissionWorkspace
  | some saved => openWorkspace input saved
  | none => planWorkspace input

def prepareMissionExecutionWorkspace : Preparing MissionWorkspace := do
  let saved ← Program.atomic fun s => (if s.camp.accepts then .ok s.workspace else .error .refused, s)
  let w ← openOrPlan input saved
  materializeWorkspace input w

/-! ## The system -/

inductive Outside where
  | diskChanged (d : Disk)
  | acceptDeletion (operationId : String) (disposition : Lifecycle.MissionWorkspaceDisposition)
  | retryDeletion (operationId : String)
  | recordCleanupFailure (operationId : String) (attention : Bool)
  | finalizeCampDeleteCleanup (operationId : String)
  | takeSnapshot

def Outside.apply : Outside → Lifecycle
  | diskChanged d => { s with disk := d }
  | acceptDeletion operationId disposition => s.acceptDeletion operationId disposition
  | retryDeletion operationId => s.retryDeletion operationId
  | recordCleanupFailure operationId attention => s.recordCleanupFailure operationId attention
  | finalizeCampDeleteCleanup operationId => s.finalizeCampDeleteCleanup operationId
  | takeSnapshot => s.takeSnapshot

inductive GateCommand where
  | cleanupCommand (commandId : String) (inUse : Bool)
  | retry (commandId : String)
  | commitDeletion

def GateCommand.apply : GateCommand → Lifecycle
  | cleanupCommand commandId inUse => s.cleanupCommand commandId inUse
  | retry commandId => s.retry commandId
  | commitDeletion => s.commitDeletion

inductive Holder where
  | preparing (program : Preparing MissionWorkspace)
  | cleaning (program : Cleanup Unit)

structure MissionSystem where
  lifecycle : Lifecycle
  holder : Option Holder

inductive SystemAction where
  | outside (event : Outside)
  | command (command : GateCommand)
  | prepare (input : PreparationInput)
  | cleanup
  | advance
  /-- What holds the gate ends early, by a failure of the database or of Git. -/
  | giveUp
  /-- The process ends, with what only it has kept, and is started again. -/
  | restart

namespace MissionSystem

variable (git : CleanupGit)

def advance (s : MissionSystem) : MissionSystem :=
  match s.holder with
  | none => s
  | some (.preparing (.step change next)) => ⟨change s.lifecycle, some (.preparing (next s.lifecycle))⟩
  | some (.cleaning (.step change next)) => ⟨change s.lifecycle, some (.cleaning (next s.lifecycle))⟩
  | some (.preparing (.done _)) | some (.cleaning (.done _)) => { s with holder := none }

def step (s : MissionSystem) : SystemAction → MissionSystem
  | .outside event => { s with lifecycle := event.apply s.lifecycle }
  | .command command => if s.holder.isNone then { s with lifecycle := command.apply s.lifecycle } else s
  | .prepare input => if s.holder.isNone then { s with holder := some (.preparing (prepareMissionExecutionWorkspace input)) } else s
  | .cleanup => if s.holder.isNone then { s with holder := some (.cleaning (cleanupMissionWorkspaces git)) } else s
  | .advance => s.advance
  | .giveUp => { s with holder := none }
  | .restart => ⟨{ s.lifecycle with missionDiffSnapshots := [] }, none⟩

def start (host : String) (d : Disk) : MissionSystem :=
  ⟨⟨host, .active, none, d, [], [], [], []⟩, none⟩

def run (s : MissionSystem) (actions : List SystemAction) : MissionSystem :=
  actions.foldl (step git) s

end MissionSystem

end Rovai.Mission
