import RovaiCore.MissionLifecycle
import RovaiCore.AtomicPrograms
/-!
# The cleanup of a Mission's worktree

An attempt verifies the worktree, saves the OID that it expects the managed branch to have, removes the worktree, saves that,
deletes the branch while it has that OID, and saves that the cleanup has ended.
-/
namespace Rovai.Mission

structure CleanupGit extends MissionGit where
  checkRefFormat (branch : String) : Bool
  contains (tip oid : Oid) : Bool
  updateRefDelete (d : Disk) (reference : String) (expectedOid : Oid) : Except String Disk
  readDir (d : Disk) : List Path

structure CleanupGit.Careful (git : CleanupGit) : Prop where
  remove_ok {d d' : Disk} {force : Bool} {path : Path} : git.worktreeRemove d force path = .ok d' →
    ∃ commonDir adminDir modified, d.entries.lookup path = some (.checkout commonDir adminDir modified) ∧
      (force = true ∨ modified = false) ∧ d' = d.removeWorktree adminDir path
  delete_ok {d d' : Disk} {reference : String} {oid : Oid} : git.updateRefDelete d reference oid = .ok d' →
    d.refs.lookup reference = some oid ∧ d' = { d with refs := d.refs.erase reference }

inductive CleanupFailure where
  | refusal (code : String)
  | failed (message : String)

def CleanupFailure.text : CleanupFailure → String
  | .refusal code => code
  | .failed message => message

def CleanupFailure.refused : CleanupFailure → Bool
  | .refusal _ => true
  | .failed _ => false

abbrev Cleanup := Program Lifecycle CleanupFailure

def plainly {α : Type} : Except Failure α → Except CleanupFailure α
  | .ok a => .ok a
  | .error failure => .error (.failed (failureText failure))

def expect (condition : Bool) (message : String) : Except CleanupFailure Unit :=
  if condition then .ok () else .error (.failed message)

/-! ## Steps -/

def readDisk {α : Type} (f : Disk → Except CleanupFailure α) : Cleanup α :=
  Program.atomic fun s => (f s.disk, { s with seen := s.disk :: s.seen })

def lookAt {α : Type} (f : Disk → α) : Cleanup α :=
  readDisk fun d => .ok (f d)

def alterDisk (f : Disk → Except CleanupFailure Disk) (marks : List Mark) : Cleanup Unit :=
  Program.atomic fun s => match f s.disk with
    | .ok d => (.ok (), { s with disk := d, journal := s.journal ++ marks })
    | .error e => (.error e, s)

/-! ## Verification -/

def validObjectId (value : Oid) : Bool :=
  (value.length = 40 || value.length = 64) &&
    value.toList.all fun c => c.isDigit || ('a' ≤ c && c ≤ 'f') || ('A' ≤ c && c ≤ 'F')

structure CleanupGitObservation where
  (adminDir commonDir : Path)
  headOid : Oid
  managedBranchOid : Option Oid
  checkoutReference : Option String

def headOid (d : Disk) (adminDir : Path) : Option Oid :=
  match headOf d adminDir with
  | some (.branch branch) => d.refs.lookup (headRef branch)
  | some (.detached oid) => some oid
  | none => none

def checkoutReference (d : Disk) (adminDir : Path) : Option String :=
  match headOf d adminDir with
  | some (.branch branch) => some (headRef branch)
  | _ => none

variable (w : MissionWorkspace)

def cleanupObservationQuery (managedReference : String) (includesManagedBranch : Bool) (d : Disk) :
    Except String CleanupGitObservation :=
  match d.entries.lookup w.worktreePath with
  | some (.checkout commonDir adminDir _) => match headOid d adminDir with
    | none => .error "fatal: ambiguous argument 'HEAD^\x7bcommit\x7d': unknown revision or path not in the working tree."
    | some head =>
      let observed (managed : Option Oid) : CleanupGitObservation := ⟨adminDir, commonDir, head, managed, checkoutReference d adminDir⟩
      if includesManagedBranch then match d.refs.lookup managedReference with
        | none => .error "fatal: ambiguous argument: unknown revision or path not in the working tree."
        | some oid => .ok (observed (some oid))
      else .ok (observed none)
  | _ => .error "fatal: not a git repository (or any of the parent directories): .git"

def parseCleanupObservation : Except String CleanupGitObservation → Except CleanupFailure CleanupGitObservation
  | .error message => .error (.failed ("mission.cleanup_observation_unavailable: " ++ message))
  | .ok observation =>
    if validObjectId observation.headOid && observation.managedBranchOid.all validObjectId then .ok observation
    else .error (.failed "mission.cleanup_observation_invalid")

/-- A missing managed ref is an allowed exceptional path: the identity is queried again, and the absence is told from an invalid ref. -/
def observeCleanupState (managedReference : String) : Cleanup CleanupGitObservation := do
  if w.cleanupBranchRemoved then
    readDisk fun d => parseCleanupObservation (cleanupObservationQuery w managedReference false d)
  else
    let combined ← lookAt (cleanupObservationQuery w managedReference true)
    match combined with
    | .ok observation => Program.settle (parseCleanupObservation (.ok observation))
    | .error message =>
      let observation ← readDisk fun d => parseCleanupObservation (cleanupObservationQuery w managedReference false d)
      let branchOid ← lookAt fun d => d.refs.lookup managedReference
      if branchOid.isSome then Program.fail (.failed ("mission.branch_unavailable: " ++ message))
      else pure observation

variable (adminDir : Path)

def registrationIs (condition : Registration → Bool) (d : Disk) : Bool :=
  (d.registrations.lookup adminDir).any condition

def verifyCleanupFilesystemIdentity : Cleanup Unit := do
  readDisk fun d => expect (d.canonical w.worktreePath) "mission.worktree_path_changed"
  readDisk fun d => expect (registrationIs adminDir (fun _ => true) d && decide (w.gitCommonDir ++ ["worktrees"] <+: adminDir))
    "mission.worktree_registration_missing"
  readDisk fun d => expect (registrationIs adminDir (fun registration => registration.gitdir = w.worktreePath ++ [".git"]) d)
    "mission.worktree_registration_mismatch"
  readDisk fun d => expect (registrationIs adminDir (fun registration => registration.owner = some w.preparationToken) d)
    "mission.worktree_owner_mismatch"
  readDisk fun d => expect (d.canonical w.workingDirectory) "mission.working_directory_changed"

section Attempt

variable (git : CleanupGit)

def detachedHeadHasRetainedReference (managedReference : String) (head : Oid) (d : Disk) : Bool :=
  decide (∃ reference ∈ d.refs.keys, reference ≠ managedReference ∧ (d.refs.lookup reference).any fun tip => git.contains tip head)

structure VerifiedWorktreeCleanup where
  targetPresent : Bool
  adminDir : Option Path
  staleRegistrations : List Path
  stagingRoot : Option Path
  stagingCheckoutPresent : Bool
  managedReference : String
  managedBranchOid : Option Oid

structure TargetInspection where
  adminDir : Option Path
  staleRegistrations : List Path
  managedReference : String
  managedBranchOid : Option Oid
  detachedUnreachable : Bool

variable (w : MissionWorkspace)

def inspectTarget : Cleanup TargetInspection := do
  let observation ← observeCleanupState w (headRef w.branch)
  Program.settle (expect (observation.commonDir = w.gitCommonDir) "mission.repository_mismatch")
  verifyCleanupFilesystemIdentity w observation.adminDir
  match observation.checkoutReference with
  | some _ => pure ⟨some observation.adminDir, [], headRef w.branch, observation.managedBranchOid, false⟩
  | none =>
    let retained ← lookAt (detachedHeadHasRetainedReference git (headRef w.branch) observation.headOid)
    pure ⟨some observation.adminDir, [], headRef w.branch, observation.managedBranchOid, !retained⟩

def cleanupBranchReference : Cleanup String := do
  readDisk fun d => expect (d.canonical w.repositoryRoot) "mission.repository_mismatch"
  Program.settle (expect (git.checkRefFormat w.branch) "mission.branch_identity_invalid")
  pure (headRef w.branch)

def staleRegistrations (d : Disk) : Except CleanupFailure (List Path) :=
  let owned := (git.readDir d).filter fun adminDir => registrationIs adminDir (fun registration => registration.owner = some w.preparationToken) d
  if owned.all fun adminDir => registrationIs adminDir (fun registration => registration.gitdir = w.worktreePath ++ [".git"]) d then .ok owned
  else .error (.failed "mission.cleanup_registration_mismatch")

def managedBranch (managedReference : String) : Cleanup (Option Oid) :=
  if w.cleanupBranchRemoved then pure none else lookAt fun d => d.refs.lookup managedReference

def inspectAbsence : Cleanup TargetInspection := do
  let managedReference ← cleanupBranchReference git w
  let managedBranchOid ← managedBranch w managedReference
  let stale ← readDisk (staleRegistrations git w)
  pure ⟨none, stale, managedReference, managedBranchOid, false⟩

def inspectStaging : Cleanup (Option Path × Bool) := do
  let present ← lookAt fun d => d.pathExists (stagingRoot w)
  if present then
    readDisk fun d => plainly (verifyStagingOwner d w)
    let checkoutPresent ← lookAt fun d => d.pathExists (stagingCheckout w)
    if checkoutPresent then
      let adminDir ← readDisk fun d => plainly (verifyTree d (stagingCheckout w) w false)
      readDisk fun d => expect (headOf d adminDir = some (.branch w.branch)) "mission.workspace_branch_mismatch"
      pure (some (stagingRoot w), true)
    else pure (some (stagingRoot w), false)
  else pure (none, false)

def inspectPlace (targetPresent : Bool) : Cleanup TargetInspection :=
  if targetPresent then inspectTarget git w else inspectAbsence git w

def prepareWorktreeCleanup : Cleanup VerifiedWorktreeCleanup := do
  let targetPresent ← lookAt fun d => d.pathOccupied w.worktreePath
  let target ← inspectPlace git w targetPresent
  let (staging, stagingCheckoutPresent) ← inspectStaging w
  if target.detachedUnreachable then Program.fail (.refusal "mission.detached_head_unreachable")
  else pure ⟨targetPresent, target.adminDir, target.staleRegistrations, staging, stagingCheckoutPresent, target.managedReference,
    target.managedBranchOid⟩

/-! ## Removal -/

variable (verified : VerifiedWorktreeCleanup)

def ownedWorktreeIntact : Cleanup Bool :=
  match verified.targetPresent, verified.adminDir with
  | true, some adminDir => do
    let identity ← (verifyCleanupFilesystemIdentity w adminDir).attempt
    pure identity.isOk
  | _, _ => pure false

def removeTarget (d : Disk) : Except CleanupFailure Disk :=
  match git.worktreeRemove d false w.worktreePath with
  | .ok d => .ok d
  | .error diagnostic => .error (.failed diagnostic)

def removeTargetVerified : Cleanup Unit := do
  let removed ← (alterDisk (removeTarget git w) [.removed]).attempt
  match removed with
  | .ok () => readDisk fun d => expect (!d.pathOccupied w.worktreePath) "mission.worktree_remove_incomplete"
  | .error diagnostic =>
    let intact ← ownedWorktreeIntact w verified
    if mentions diagnostic.text "contains modified or untracked files, use --force to delete it" && intact then
      Program.fail (.refusal "mission.workspace_dirty")
    else Program.fail (.failed ("mission.worktree_remove_failed: " ++ diagnostic.text))

def removeRegistration (d : Disk) : Except CleanupFailure Disk :=
  if adminDir ∈ d.registrations then .ok { d with registrations := d.registrations.erase adminDir }
  else .error (.failed "No such file or directory (os error 2)")

def removeRegistrations : List Path → Cleanup Unit
  | [] => pure ()
  | adminDir :: rest => do
    alterDisk (removeRegistration adminDir) []
    removeRegistrations rest

def removeStagingCheckout (d : Disk) : Except CleanupFailure Disk :=
  match git.worktreeRemove d true (stagingCheckout w) with
  | .ok d => .ok d
  | .error diagnostic => .error (.failed ("mission.staging_cleanup_failed: " ++ diagnostic))

def removeStagingTree : Cleanup Unit :=
  if verified.stagingCheckoutPresent then alterDisk (removeStagingCheckout git w) [] else pure ()

def removeStagingVerified : Cleanup Unit := do
  if verified.stagingRoot.isSome then
    removeStagingTree git w verified
    alterDisk (fun d => plainly (orFailed (d.removeFile (stagingOwner w)))) []
    alterDisk (fun d => plainly (orFailed (d.removeDir (stagingRoot w)))) []
  else pure ()

def removePlace : Cleanup Unit :=
  if verified.targetPresent then removeTargetVerified git w verified
  else removeRegistrations verified.staleRegistrations

def removeVerifiedWorktree : Cleanup Unit := do
  removePlace git w verified
  removeStagingVerified git w verified

/-! ## The branch -/

variable (reference : String)

def branchInUse (d : Disk) : Bool :=
  decide (∃ adminDir ∈ d.registrations.keys, checkoutReference d adminDir = some reference)

/-- `git update-ref -d`: a reference that is missing has been deleted before, and one that is there failed the OID fence. -/
def deleteBranchExpected (expectedOid : Oid) : Cleanup Unit := do
  readDisk fun d => expect (!branchInUse reference d) "mission.branch_in_use"
  let deleted ← Program.atomic fun s => match git.updateRefDelete s.disk reference expectedOid with
    | .ok d => (.ok (Except.ok ()), { s with disk := d, journal := s.journal ++ [.branchGone d] })
    | .error message => (.ok (Except.error message), s)
  match deleted with
  | .ok () => pure ()
  | .error message => Program.atomic fun s =>
    if reference ∈ s.disk.refs then (.error (.failed ("mission.branch_changed: " ++ message)), s)
    else (.ok (), { s with journal := s.journal ++ [.branchGone s.disk] })

/-! ## The attempt -/

def expectedOid (verified : Option VerifiedWorktreeCleanup) : Except CleanupFailure (Option Oid) :=
  match w.cleanupExpectedBranchOid with
  | some expected => match verified with
    | some verified => match verified.managedBranchOid with
      | some observed => if observed = expected then .ok (some expected) else .error (.failed "mission.branch_changed")
      | none => if verified.targetPresent then .error (.failed "mission.branch_changed") else .ok (some expected)
    | none => .ok (some expected)
  | none => match verified.bind (·.managedBranchOid) with
    | some observed => .ok (some observed)
    | none =>
      if verified.any (·.stagingCheckoutPresent) then .error (.failed "mission.workspace_branch_missing") else .ok none

def isPending (w row : MissionWorkspace) : Bool :=
  row.id = w.id && row.state = .cleanupPending

def recordExpectation : Cleanup Unit :=
  Program.atomic fun s =>
    if s.workspace.any (isPending w) then
      (.ok (), { s.update (isPending w) fun row =>
          { row with cleanupExpectedBranchOid := w.cleanupExpectedBranchOid, cleanupBranchRemoved := w.cleanupBranchRemoved } with
        journal := s.journal ++ [.recorded w.cleanupExpectedBranchOid] })
    else (.error (.failed "mission.workspace_cleanup_not_pending"), s)

def flagWorktreeRemoved : Cleanup Unit :=
  Program.atomic fun s => (.ok (), { s.update (fun row => row.id = w.id) fun row => { row with cleanupWorktreeRemoved := true } with
    journal := s.journal ++ [.flagged s.seen] })

def finishCleanup : Cleanup Unit :=
  Program.atomic fun s => (.ok (), s.update (fun row => row.id = w.id) fun row =>
    { row with state := .cleanupPending, cleanupWorktreeRemoved := true, cleanupBranchRemoved := true, diagnostic := none })

def removeWorktreePart : Option VerifiedWorktreeCleanup → Cleanup Unit
  | none => pure ()
  | some verified => do
    removeVerifiedWorktree git w verified
    flagWorktreeRemoved w

def removeBranchPart : Cleanup Unit :=
  if w.cleanupBranchRemoved then pure ()
  else match w.cleanupExpectedBranchOid with
    | some expected => deleteBranchExpected git reference expected
    | none => Program.fail (.failed "mission.branch_identity_missing")

def verifyPart : Cleanup (Option VerifiedWorktreeCleanup) :=
  if w.cleanupWorktreeRemoved then pure none
  else do
    let verified ← prepareWorktreeCleanup git w
    pure (some verified)

def referencePart : Option VerifiedWorktreeCleanup → Cleanup String
  | some verified => pure verified.managedReference
  | none => cleanupBranchReference git w

def performMissionWorkspaceCleanup : Cleanup Unit := do
  Program.atomic fun s => (expect (w.executionHostId = s.missionExecutionHost) "mission.execution_host_unavailable", s)
  Program.settle (expect (w.state = .cleanupPending) "mission.workspace_cleanup_not_pending")
  let verified ← verifyPart git w
  let reference ← referencePart git w verified
  let expected ← Program.settle (expectedOid w verified)
  let w := { w with cleanupExpectedBranchOid := expected, cleanupBranchRemoved := w.cleanupBranchRemoved || expected.isNone }
  recordExpectation w
  removeWorktreePart git w verified
  removeBranchPart git w reference
  finishCleanup w

def Camp.accepts : Camp → Bool
  | .active => true
  | _ => false

def Camp.deletionAccepted : Camp → Bool
  | .deleting _ _ => true
  | _ => false

def dropsRow (camp : Camp) (w : MissionWorkspace) : Bool :=
  match camp with
  | .gone operationId completed => completed || w.cleanupCommandId ≠ some operationId
  | _ => false

/-- A refusal that leaves the worktree there restores the workspace of a thread that is active; any other failure is saved. -/
def publishFailure (failure : CleanupFailure) (s : Lifecycle) : Lifecycle :=
  match s.workspace with
  | none => s
  | some row =>
    if !isPending w row then s
    else if failure.refused && !w.cleanupWorktreeRemoved && s.camp.accepts then
      { s.makeReady { row.cleared with diagnostic := some failure.text } with journal := [] }
    else { s with workspace := some { row with state := .cleanupFailed, diagnostic := some failure.text } }

def publishSuccess (s : Lifecycle) : Lifecycle :=
  match s.workspace with
  | none => s
  | some row => if row.id = w.id ∧ dropsRow s.camp row = true then { s with workspace := none } else s

def publishResult (result : Except CleanupFailure Unit) : Cleanup Unit :=
  Program.atomic fun s => (.ok (), match result with
    | .ok () => publishSuccess w s
    | .error failure => publishFailure w failure s)

def pendingWorkspace (s : Lifecycle) : Option MissionWorkspace :=
  s.workspace.filter fun w => w.state = .cleanupPending && !w.cleanupFinished && !s.camp.deletionAccepted

def cleanupMissionWorkspaces : Cleanup Unit := do
  let pending ← Program.atomic fun s => (.ok (pendingWorkspace s), { s with seen := [] })
  match pending with
  | none => pure ()
  | some w =>
    let result ← (performMissionWorkspaceCleanup git w).attempt
    publishResult w result

end Attempt

end Rovai.Mission
