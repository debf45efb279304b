import RovaiCore.MissionDisk
import RovaiCore.Interruption
/-!
# Mission workspaces

The plan of a Mission's worktree and how it is carried out.
-/
namespace Rovai.Mission

inductive WorkspaceState where
  | preparing
  | ready
  | cleanupPending
  | cleanupFailed
  deriving DecidableEq

inductive PreparationKind where
  | create
  | restore
  deriving DecidableEq

structure MissionWorkspace where
  (id campId executionHostId : String)
  (repositoryRoot gitCommonDir worktreePath workingDirectory : Path)
  branch : String
  baseSha : Oid
  preparationToken : String
  preparationKind : PreparationKind
  generation : Nat
  state : WorkspaceState
  cleanupCommandId : Option String
  cleanupExpectedBranchOid : Option Oid
  (cleanupWorktreeRemoved cleanupBranchRemoved : Bool)
  diagnostic : Option String
  deriving DecidableEq

inductive Failure where
  | nameOccupied
  | failed (message : String)
  deriving DecidableEq

def failureText : Failure → String
  | .nameOccupied => "mission.workspace_name_occupied"
  | .failed message => message

def orFailed {α : Type} : Except String α → Except Failure α
  | .ok a => .ok a
  | .error message => .error (.failed message)

def ensure (condition : Bool) (message : String) : Except Failure Unit :=
  if condition then .ok () else .error (.failed message)

/-! ## The staging directory -/

def stagingRootFor (repositoryRoot : Path) (preparationToken : String) : Path :=
  repositoryRoot.dropLast ++ [".rovai-mission-prepare-" ++ preparationToken]

def stagingRoot (w : MissionWorkspace) : Path :=
  stagingRootFor w.repositoryRoot w.preparationToken

def stagingOwner (w : MissionWorkspace) : Path :=
  stagingRoot w ++ ["owner"]

def stagingCheckout (w : MissionWorkspace) : Path :=
  stagingRoot w ++ ["checkout"]

variable (d : Disk)

def verifyStagingOwner (w : MissionWorkspace) : Except Failure Unit := do
  ensure (!d.isSymlink (stagingRoot w)) "mission.staging_owner_mismatch"
  let owner ← orFailed (d.readToString (stagingOwner w))
  ensure (owner = w.preparationToken) "mission.staging_owner_mismatch"

/-! ## Worktrees -/

def verifyTree (path : Path) (w : MissionWorkspace) (requireMarker : Bool) : Except Failure Path := do
  ensure (d.canonical path) "mission.worktree_path_changed"
  match d.entries.lookup path with
  | some (.checkout commonDir adminDir _) =>
    ensure (commonDir = w.gitCommonDir) "mission.repository_mismatch"
    ensure (w.gitCommonDir ++ ["worktrees"] <+: adminDir) "mission.worktree_registration_missing"
    match d.registrations.lookup adminDir with
    | none => .error (.failed "No such file or directory (os error 2)")
    | some registration =>
      ensure (registration.gitdir = path ++ [".git"]) "mission.worktree_registration_mismatch"
      ensure (!requireMarker || registration.owner = some w.preparationToken) "mission.worktree_owner_mismatch"
      pure adminDir
  | _ => .error (.failed "mission.worktree_root_mismatch")

def headOf (adminDir : Path) : Option Head :=
  (d.registrations.lookup adminDir).map (·.head)

def writeOwner (adminDir : Path) (token : String) : Disk :=
  match d.registrations.lookup adminDir with
  | none => d
  | some registration => { d with registrations := d.registrations.insert adminDir { registration with owner := some token } }

section Materialize

variable (git : MissionGit)

abbrev Work := Procedure Disk Failure

variable (w : MissionWorkspace)

def removeStaging : Work Unit := do
  Procedure.act fun d => orFailed (d.removeFile (stagingOwner w))
  Procedure.act fun d => orFailed (d.removeDir (stagingRoot w))

def removeEmptyStaging : Work Unit := do
  let occupied ← Procedure.ask fun d => d.pathOccupied (stagingRoot w)
  if occupied then
    Procedure.observe fun d => verifyStagingOwner d w
    Procedure.observe fun d => ensure (!d.pathOccupied (stagingCheckout w)) "mission.preparing_checkout_remains"
    removeStaging w
  else pure ()

def ensureStaging : Work Unit := do
  let present ← Procedure.ask fun d => d.pathExists (stagingRoot w)
  if present then Procedure.observe fun d => verifyStagingOwner d w
  else
    Procedure.act fun d => orFailed (d.createDir (stagingRoot w))
    Procedure.act fun d => orFailed (d.write (stagingOwner w) w.preparationToken)

variable (createBranch : Bool)

def addFailure (error : String) : Failure :=
  if createBranch && mentions error "already exists" &&
      (mentions error "branch named" || mentions error "reference already exists") then .nameOccupied
  else .failed ((if createBranch then "mission.worktree_create_failed: " else "mission.worktree_restore_failed: ") ++ error)

def worktreeAdd (d : Disk) : Except Failure Disk :=
  match git.worktreeAdd d (if createBranch then some w.branch else none) (stagingCheckout w)
      (if createBranch then w.baseSha else w.branch) with
  | .ok d => .ok d
  | .error error => .error (addFailure createBranch error)

def ensureCheckout : Work Unit := do
  let present ← Procedure.ask fun d => d.pathExists (stagingCheckout w)
  if present then pure ()
  else Procedure.act (worktreeAdd git w createBranch)

def ensureOwner : Work Unit := do
  let admin ← Procedure.observe fun d => verifyTree d (stagingCheckout w) w false
  Procedure.observe fun d => ensure (headOf d admin = some (.branch w.branch)) "mission.preparing_branch_mismatch"
  let owner ← Procedure.ask fun d => (d.registrations.lookup admin).bind (·.owner)
  match owner with
  | some owner => Procedure.observe fun _ => ensure (owner = w.preparationToken) "mission.worktree_owner_mismatch"
  | none => Procedure.act fun d => .ok (writeOwner d admin w.preparationToken)

def worktreeMove (d : Disk) : Except Failure Disk :=
  match git.worktreeMove d (stagingCheckout w) w.worktreePath with
  | .ok d => .ok d
  | .error error =>
    if d.pathOccupied w.worktreePath && (mentions error "already exists" || mentions error "not empty") then .error .nameOccupied
    else .error (.failed ("mission.worktree_move_failed: " ++ error))

def moveIntoPlace : Work Unit := do
  Procedure.act (worktreeMove git w)
  let _ ← Procedure.observe fun d => verifyTree d w.worktreePath w true
  Procedure.observe fun d => verifyStagingOwner d w
  removeStaging w

/-- A private staging parent proves ownership even across interruption before worktree registration.  The final worktree carries that
proof in Git's admin directory, outside tracked files. -/
def materializeWithBranch : Work Unit := do
  let occupied ← Procedure.ask fun d => d.pathOccupied w.worktreePath
  if occupied then
    let verified ← Procedure.ask fun d => verifyTree d w.worktreePath w true
    match verified with
    | .ok _ => removeEmptyStaging w
    | .error _ => Procedure.fail .nameOccupied
  else
    ensureStaging w
    ensureCheckout git w createBranch
    ensureOwner w
    moveIntoPlace git w

def materialize : Work Unit :=
  materializeWithBranch git w (w.preparationKind = .create)

def abandonCandidate : Work Unit := do
  let occupied ← Procedure.ask fun d => d.pathOccupied (stagingRoot w)
  if occupied then
    Procedure.observe fun d => verifyStagingOwner d w
    let checkoutOccupied ← Procedure.ask fun d => d.pathOccupied (stagingCheckout w)
    if checkoutOccupied then
      let _ ← Procedure.observe fun d => verifyTree d (stagingCheckout w) w false
      Procedure.act fun d => orFailed (git.worktreeRemove d true (stagingCheckout w))
    else pure ()
    removeEmptyStaging w
  else pure ()

end Materialize

/-! ## The preparation loop -/

structure Candidates where
  (name number : String)

def suffixText (suffix : Nat) : String :=
  if suffix = 1 then "" else "-" ++ toString suffix

variable (c : Candidates)

def Candidates.path (repositoryRoot : Path) (suffix : Nat) : Path :=
  repositoryRoot.dropLast ++ [c.name ++ "-mission-" ++ c.number ++ suffixText suffix]

def Candidates.branch (suffix : Nat) : String :=
  "rovai/mission/" ++ c.number ++ suffixText suffix

def candidateAvailable (path : Path) (branch : String) : Bool :=
  !d.pathOccupied path && decide (headRef branch ∉ d.refs)

def selectCandidate (repositoryRoot : Path) (start : Nat) : Except Failure Nat :=
  match (List.range' start (10000 + 1 - start)).find? fun suffix => candidateAvailable d (c.path repositoryRoot suffix) (c.branch suffix) with
  | some suffix => .ok suffix
  | none => .error (.failed "mission.workspace_names_exhausted")

def MissionWorkspace.withCandidate (w : MissionWorkspace) (c : Candidates) (suffix : Nat) : MissionWorkspace :=
  { w with
    worktreePath := c.path w.repositoryRoot suffix
    workingDirectory := c.path w.repositoryRoot suffix ++ w.workingDirectory.drop w.worktreePath.length
    branch := c.branch suffix
    diagnostic := none }

/-- The plan that is saved, whether its thread still accepts a preparation, and the disk. -/
structure Preparation where
  row : MissionWorkspace
  accepts : Bool
  disk : Disk

inductive Stop where
  | refused
  | failure (failure : Failure)
  deriving DecidableEq

abbrev Prepare := Procedure Preparation Stop

def updatePlan (w : MissionWorkspace) (f : MissionWorkspace → MissionWorkspace) : Prepare Unit :=
  Procedure.act fun s =>
    if s.row.id = w.id ∧ s.row.state = .preparing ∧ s.row.generation = w.generation ∧
        s.row.preparationToken = w.preparationToken ∧ s.accepts = true then .ok { s with row := f s.row }
    else .error .refused

def onDisk {α : Type} (p : Work α) : Prepare (Except Failure α) :=
  Procedure.attempt (Procedure.within Preparation.disk (fun s d => { s with disk := d }) p)

section Prepare

variable (git : MissionGit) (c : Candidates)

def nextCandidate (w : MissionWorkspace) : Prepare MissionWorkspace := do
  match ← onDisk (abandonCandidate git w) with
  | .error failure => Procedure.fail (.failure failure)
  | .ok () =>
    if ¬ w.worktreePath <+: w.workingDirectory then Procedure.fail (.failure (.failed "prefix not found"))
    else
      match ← Procedure.ask fun s => selectCandidate s.disk c w.repositoryRoot 2 with
      | .error failure => Procedure.fail (.failure failure)
      | .ok suffix =>
        let next := w.withCandidate c suffix
        updatePlan w fun row =>
          { row with worktreePath := next.worktreePath, workingDirectory := next.workingDirectory, branch := next.branch }
        pure next

def prepareLoop : Nat → MissionWorkspace → Prepare MissionWorkspace
  | 0, _ => Procedure.fail .refused
  | fuel + 1, w => do
    match ← onDisk (materialize git w) with
    | .ok () => pure w
    | .error failure =>
      if failure = .nameOccupied ∧ w.preparationKind = .create then
        let next ← nextCandidate git c w
        prepareLoop fuel next
      else
        updatePlan w fun row => { row with diagnostic := some (failureText failure) }
        Procedure.fail (.failure failure)

def preparing (fuel : Nat) : Prepare MissionWorkspace := do
  let w ← Procedure.ask fun s => s.row
  prepareLoop git c fuel w

def prepare (fuel : Nat) : Prepare MissionWorkspace := do
  let w ← preparing git c fuel
  updatePlan w fun row => { row with state := .ready, diagnostic := none }
  pure { w with state := .ready }

end Prepare

end Rovai.Mission
