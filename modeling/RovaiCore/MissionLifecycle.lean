import RovaiCore.MissionWorkspaces
/-!
# The life of a Mission's workspace

The row of a workspace, the thread that it belongs to, the disk and the diff snapshots that have been taken.
-/
namespace Rovai.Mission

/-- The thread of a Mission: its deletion is accepted first and committed later.  Then the operation cleans up what is left, unless the
worktree is retained. -/
inductive Camp where
  | active
  | deleting (operationId : String) (workspaceCleanupScheduled : Bool)
  | gone (operationId : String) (completed : Bool)

/-- What a cleanup has written: the OID that it expects the branch to have, the removal of the worktree, the flag of it together with the
disks that the attempt has read, and a disk without the branch. -/
inductive Mark where
  | recorded (expectedOid : Option Oid)
  | removed
  | flagged (seen : List Disk)
  | branchGone (d : Disk)

structure MissionDiffSnapshot where
  workspaceId : String
  worktreePath : Path
  workspaceGeneration : Nat
  periods : List Nat

structure Lifecycle where
  missionExecutionHost : String
  camp : Camp
  workspace : Option MissionWorkspace
  disk : Disk
  seen : List Disk
  journal : List Mark
  periods : List Nat
  missionDiffSnapshots : List MissionDiffSnapshot

namespace MissionWorkspace

def cleanupFinished (w : MissionWorkspace) : Bool :=
  w.cleanupWorktreeRemoved && w.cleanupBranchRemoved

def cleared (w : MissionWorkspace) : MissionWorkspace :=
  { w with
    cleanupCommandId := none, cleanupExpectedBranchOid := none, cleanupWorktreeRemoved := false, cleanupBranchRemoved := false }

end MissionWorkspace

def MissionDiffSnapshot.matchesWorkspace (snapshot : MissionDiffSnapshot) (w : MissionWorkspace) : Bool :=
  snapshot.workspaceId = w.id && snapshot.worktreePath = w.worktreePath && snapshot.workspaceGeneration = w.generation

def Camp.owns (camp : Camp) (w : MissionWorkspace) : Bool :=
  match camp with
  | .gone operationId _ => w.cleanupCommandId = some operationId
  | _ => false

namespace Lifecycle

variable (s : Lifecycle)

def update (condition : MissionWorkspace → Bool) (f : MissionWorkspace → MissionWorkspace) : Lifecycle :=
  { s with workspace := s.workspace.map fun w => if condition w then f w else w }

variable {s} in
theorem update_row {condition : MissionWorkspace → Bool} {f : MissionWorkspace → MissionWorkspace} {row : MissionWorkspace}
    (hrow : s.workspace = some row) (hcondition : condition row = true) :
    s.update condition f = { s with workspace := some (f row) } := by
  simp [update, hrow, hcondition]

variable {s} in
theorem update_skip {condition : MissionWorkspace → Bool} {f : MissionWorkspace → MissionWorkspace}
    (h : ∀ row, s.workspace = some row → condition row = false) : s.update condition f = s := by
  cases s with
  | mk host camp workspace =>
    cases workspace with
    | none => rfl
    | some row => simp [update, h row rfl]

def makeReady (w : MissionWorkspace) : Lifecycle :=
  { s with
    workspace := some { w with state := .ready }
    periods := if w.state = .ready then s.periods else w.generation :: s.periods }

/-! ## Transactions of a thread's deletion

They are accepted, retried and completed without the gate. -/

inductive MissionWorkspaceDisposition where
  | cleanup
  | retain

variable (operationId : String) (w : MissionWorkspace)

def scheduleDeletion : MissionWorkspace :=
  { w with
    generation := w.generation + if w.state = .ready then 1 else 0
    state := .cleanupPending, cleanupCommandId := some operationId, diagnostic := none }

def acceptDeletion (disposition : MissionWorkspaceDisposition) : Lifecycle :=
  match s.camp with
  | .active => match s.workspace with
    | none => { s with camp := .deleting operationId false }
    | some w =>
      if w.cleanupFinished then { s with workspace := none, camp := .deleting operationId false }
      else match disposition with
        | .cleanup => { s with workspace := some (scheduleDeletion operationId w), camp := .deleting operationId true }
        | .retain => match w.state with
          | .cleanupPending => s
          | .cleanupFailed =>
            { s.makeReady { w with cleanupCommandId := none, diagnostic := none } with camp := .deleting operationId false }
          | _ => { s with camp := .deleting operationId false }
  | _ => s

theorem acceptDeletion_cases (disposition : MissionWorkspaceDisposition) :
    s.acceptDeletion operationId disposition = s ∨ (s.camp = .active ∧
      (s.acceptDeletion operationId disposition = { s with workspace := none, camp := .deleting operationId false } ∨
        (∃ w, s.workspace = some w ∧ s.acceptDeletion operationId disposition =
          { s with workspace := some (scheduleDeletion operationId w), camp := .deleting operationId true }) ∨
        (∃ w, s.workspace = some w ∧ w.state = .cleanupFailed ∧ s.acceptDeletion operationId disposition =
          { s.makeReady { w with cleanupCommandId := none, diagnostic := none } with camp := .deleting operationId false }) ∨
        s.acceptDeletion operationId disposition = { s with camp := .deleting operationId false })) := by
  cases hcamp : s.camp with
  | deleting => exact .inl (by simp [acceptDeletion, hcamp])
  | gone => exact .inl (by simp [acceptDeletion, hcamp])
  | active =>
    cases hrow : s.workspace with
    | none => exact .inr ⟨rfl, .inr (.inr (.inr (by simp [acceptDeletion, hcamp, hrow])))⟩
    | some w =>
      by_cases hfinished : w.cleanupFinished = true
      · exact .inr ⟨rfl, .inl (by simp [acceptDeletion, hcamp, hrow, hfinished])⟩
      cases disposition with
      | cleanup => exact .inr ⟨rfl, .inr (.inl ⟨w, rfl, by simp only [acceptDeletion, hcamp, hrow, hfinished]; rfl⟩)⟩
      | retain =>
        cases hstate : w.state with
        | cleanupPending => exact .inl (by simp only [acceptDeletion, hcamp, hrow, hfinished, hstate]; rfl)
        | cleanupFailed =>
          exact .inr ⟨rfl, .inr (.inr (.inl ⟨w, rfl, hstate, by simp only [acceptDeletion, hcamp, hrow, hfinished, hstate]; rfl⟩))⟩
        | preparing => exact .inr ⟨rfl, .inr (.inr (.inr (by simp only [acceptDeletion, hcamp, hrow, hfinished, hstate]; rfl)))⟩
        | ready => exact .inr ⟨rfl, .inr (.inr (.inr (by simp only [acceptDeletion, hcamp, hrow, hfinished, hstate]; rfl)))⟩

def reschedule : MissionWorkspace :=
  { w with state := .cleanupPending, diagnostic := none }

def failedFor : Bool :=
  w.cleanupCommandId = some operationId && w.state = .cleanupFailed && !w.cleanupFinished

def retryDeletion : Lifecycle :=
  match s.camp with
  | .gone operationId' false => if operationId' = operationId then s.update (failedFor operationId) reschedule else s
  | _ => s

def recordCleanupFailure (attention : Bool) : Lifecycle :=
  if attention then s else s.retryDeletion operationId

def finalizeCampDeleteCleanup : Lifecycle :=
  match s.camp with
  | .gone operationId' _ =>
    if operationId' = operationId then
      { s with
        workspace := s.workspace.filter fun w => !(w.cleanupCommandId = some operationId && w.cleanupFinished)
        camp := .gone operationId true }
    else s
  | _ => s

def takeSnapshot : Lifecycle :=
  match s.workspace with
  | some w =>
    if w.state = .ready then
      { s with missionDiffSnapshots := ⟨w.id, w.worktreePath, w.generation, s.periods⟩ :: s.missionDiffSnapshots }
    else s
  | none => s

/-! ## Transactions behind the gate -/

def cleanupCommand (commandId : String) (inUse : Bool) : Lifecycle :=
  match s.workspace with
  | some w =>
    if w.cleanupFinished || w.state = .cleanupPending || w.state = .preparing || inUse ||
        w.executionHostId ≠ s.missionExecutionHost then s
    else { s with workspace := some (scheduleDeletion commandId w) }
  | none => s

/-- `missions.cleanup.retry`: of a thread that is gone, and not by an operation of its own. -/
def retry (commandId : String) : Lifecycle :=
  match s.camp with
  | .gone _ _ => s.update (fun w => !s.camp.owns w && w.state = .cleanupFailed && !w.cleanupFinished) fun w =>
      { reschedule w with cleanupCommandId := some commandId }
  | _ => s

/-- The business commit of a deletion: a worktree that is retained is let go, and of any other the thread's trigger schedules the
cleanup. -/
def commitDeletion : Lifecycle :=
  match s.camp with
  | .deleting operationId true =>
    { s.update (fun w => w.state = .ready || w.state = .preparing) fun w => { w with state := .cleanupPending } with
      camp := .gone operationId false }
  | .deleting operationId false => { s with workspace := none, camp := .gone operationId false }
  | _ => s

end Lifecycle

end Rovai.Mission
