import RovaiCore.MissionStages
/-!
# How a preparation goes on from a stage

The steps of each procedure from each stage, as the disks that they leave and the result.
-/
namespace Rovai.Mission

open Procedure

variable {w : MissionWorkspace} {d : Disk} {stage : Stage} {admin : Path} {git : MissionGit}

/-! ## The staging directory -/

theorem isEmpty_iff {path : Path} : d.isEmpty path = true ↔ ∀ below ∈ d.entries, path <+: below → below = path := by
  rw [Disk.isEmpty, decide_eq_true_iff]
  refine forall₂_congr fun below hmem => ?_
  simp

theorem isEmpty_root (h : stage.At w d) (hownerless : stage.ownerless = true) :
    (stage.layout w d).isEmpty (stagingRoot w) = true := by
  refine isEmpty_iff.2 fun below hmem hbelow => ?_
  by_contra hne
  have htarget : below ≠ w.worktreePath := fun heq => target_not_staging h.beside (heq ▸ hbelow)
  have hnone := Finmap.lookup_eq_none.2 (not_mem_of_staging h.foreign hbelow)
  refine Finmap.lookup_eq_none.1 ?_ hmem
  cases stage <;> cases hownerless <;> simp [Stage.layout, Stage.entries]
  · rw [Finmap.lookup_insert_of_ne _ hne, hnone]
  · rw [Finmap.lookup_insert_of_ne _ htarget, Finmap.lookup_insert_of_ne _ hne, hnone]

theorem not_mem_root_insert (h : Foreign w d) : stagingOwner w ∉ d.entries.insert (stagingRoot w) .directory := by
  rw [Finmap.mem_insert, not_or]
  exact ⟨(root_ne_owner w).symm, not_mem_of_staging h (staging_prefix_owner w)⟩

theorem erase_root (h : Foreign w d) : (d.entries.insert (stagingRoot w) .directory).erase (stagingRoot w) = d.entries :=
  erase_insert_self (not_mem_of_staging h List.prefix_rfl)

theorem erase_owner (h : Foreign w d) {text : String} :
    ((d.entries.insert (stagingRoot w) .directory).insert (stagingOwner w) (.file text)).erase (stagingOwner w) =
      d.entries.insert (stagingRoot w) .directory :=
  erase_insert_self (not_mem_root_insert h)

inductive Removal : Stage → Stage → Stage → Prop
  | abandoned : Removal .owned .bare .clean
  | arrived (admin : Path) : Removal (.moved admin) (.leaving admin) (.placed admin)

theorem removeFile_owner {next last : Stage} (hremoval : Removal stage next last) (h : stage.At w d) :
    (stage.layout w d).removeFile (stagingOwner w) = .ok (next.layout w d) := by
  have hlookup : (stage.layout w d).entries.lookup (stagingOwner w) = some (.file w.preparationToken) := by
    rw [lookup_owner h]
    cases hremoval <;> rfl
  simp only [Disk.removeFile, hlookup, Except.ok.injEq]
  cases hremoval with
  | abandoned => simp [Stage.layout, Stage.entries, Stage.registrations, erase_owner h.foreign]
  | arrived admin =>
    simp [Stage.layout, Stage.entries, Stage.registrations, erase_insert_of_ne (target_ne_owner h.beside), erase_owner h.foreign]

theorem removeDir_root {first last : Stage} (hremoval : Removal first stage last) (h : stage.At w d) :
    (stage.layout w d).removeDir (stagingRoot w) = .ok (last.layout w d) := by
  have hlookup : (stage.layout w d).entries.lookup (stagingRoot w) = some .directory := by
    rw [lookup_root h]
    cases hremoval <;> rfl
  have hempty : (stage.layout w d).isEmpty (stagingRoot w) = true := isEmpty_root h (by cases hremoval <;> rfl)
  simp only [Disk.removeDir, hlookup, hempty, if_true, Except.ok.injEq]
  cases hremoval with
  | abandoned => simp [Stage.layout, Stage.entries, Stage.registrations, erase_root h.foreign]
  | arrived admin =>
    simp [Stage.layout, Stage.entries, Stage.registrations, erase_insert_of_ne (target_ne_root h.beside), erase_root h.foreign]

theorem Removal.at {next last : Stage} (hremoval : Removal stage next last) (h : stage.At w d) : next.At w d ∧ last.At w d := by
  cases hremoval with
  | abandoned => exact ⟨⟨h.beside, h.foreign, nofun, nofun⟩, h.beside, h.foreign, nofun, nofun⟩
  | arrived admin => exact ⟨⟨h.beside, h.foreign, h.target, h.admin⟩, h.beside, h.foreign, h.target, h.admin⟩

theorem removeStaging_course {next last : Stage} (hremoval : Removal stage next last) (h : stage.At w d) :
    (removeStaging w).run (stage.layout w d) = ⟨[next.layout w d, last.layout w d], .ok ()⟩ := by
  have hfile := removeFile_owner hremoval h
  have hdir := removeDir_root hremoval (hremoval.at h).1
  refine bind_ok (l := [next.layout w d]) (act_ok ?_) (act_ok ?_)
  · rw [hfile, orFailed]
  show orFailed ((next.layout w d).removeDir (stagingRoot w)) = _
  rw [hdir, orFailed]

theorem removeEmptyStaging_course {next last : Stage} (hremoval : Removal stage next last) (h : stage.At w d) :
    (removeEmptyStaging w).run (stage.layout w d) = ⟨[next.layout w d, last.layout w d], .ok ()⟩ := by
  have howner : (stage.layout w d).entries.lookup (stagingOwner w) = some (.file w.preparationToken) := by
    rw [lookup_owner h]
    cases hremoval <;> rfl
  have hoccupied : (stage.layout w d).pathOccupied (stagingRoot w) = true := by
    rw [pathOccupied_root h]
    cases hremoval <;> rfl
  have hcheckout : (stage.layout w d).pathOccupied (stagingCheckout w) = false := by
    rw [pathOccupied_checkout h]
    cases hremoval <;> rfl
  rw [removeEmptyStaging, ask_bind, hoccupied, if_pos rfl, observe_ok (f := fun d => verifyStagingOwner d w) (verifyStagingOwner_ok h howner),
    observe_ok (a := ()) (by rw [hcheckout]; rfl)]
  exact removeStaging_course hremoval h

theorem removeEmptyStaging_ownerless (h : stage.At w d) (hownerless : stage.ownerless = true) :
    ∃ message, (removeEmptyStaging w).run (stage.layout w d) = ⟨[], .error (.failed message)⟩ := by
  have hoccupied : (stage.layout w d).pathOccupied (stagingRoot w) = true := by
    rw [pathOccupied_root h]
    cases stage <;> cases hownerless <;> rfl
  have howner : (stage.layout w d).entries.lookup (stagingOwner w) = none := by
    rw [lookup_owner h]
    cases stage <;> cases hownerless <;> rfl
  obtain ⟨message, hfails⟩ := verifyStagingOwner_error h howner
  refine ⟨message, ?_⟩
  rw [removeEmptyStaging, ask_bind, hoccupied, if_pos rfl]
  exact observe_error hfails

theorem removeEmptyStaging_gone (hgone : (stage.layout w d).pathOccupied (stagingRoot w) = false) :
    (removeEmptyStaging w).run (stage.layout w d) = ⟨[], .ok ()⟩ := by
  rw [removeEmptyStaging, ask_bind, hgone, if_neg Bool.false_ne_true]
  rfl

/-! ## The staging directory is there -/

theorem ensureStaging_clean (h : Stage.clean.At w d) :
    (ensureStaging w).run (Stage.clean.layout w d) = ⟨[Stage.bare.layout w d, Stage.owned.layout w d], .ok ()⟩ := by
  have hroot : d.pathOccupied (stagingRoot w) = false := pathOccupied_root h
  have howner : (Stage.bare.layout w d).entries.lookup (stagingOwner w) = none :=
    @lookup_owner w d .bare ⟨h.beside, h.foreign, nofun, nofun⟩
  rw [ensureStaging, ask_bind, pathExists_root h, if_neg Bool.false_ne_true]
  refine bind_ok (l := [Stage.bare.layout w d]) (act_ok ?_) (act_ok ?_)
  · show orFailed (d.createDir (stagingRoot w)) = _
    rw [Disk.createDir, hroot, if_neg Bool.false_ne_true]
    rfl
  · show orFailed ((Stage.bare.layout w d).write (stagingOwner w) w.preparationToken) = _
    simp only [Disk.write, howner]
    rfl

theorem ensureStaging_there (h : stage.At w d)
    (howner : (stage.layout w d).entries.lookup (stagingOwner w) = some (.file w.preparationToken)) :
    (ensureStaging w).run (stage.layout w d) = ⟨[], .ok ()⟩ := by
  have hexists : (stage.layout w d).pathExists (stagingRoot w) = true := by
    rw [pathExists_root h]
    rw [lookup_owner h] at howner
    cases stage <;> first | rfl | cases howner
  rw [ensureStaging, ask_bind, hexists, if_pos rfl]
  exact run_observe (verifyStagingOwner_ok h howner)

theorem ensureStaging_bare (h : Stage.bare.At w d) :
    ∃ message, (ensureStaging w).run (Stage.bare.layout w d) = ⟨[], .error (.failed message)⟩ := by
  obtain ⟨message, hfails⟩ := verifyStagingOwner_error h (lookup_owner h)
  refine ⟨message, ?_⟩
  rw [ensureStaging, ask_bind, pathExists_root h, if_pos rfl]
  exact run_observe hfails

/-! ## The checkout -/

theorem ensureCheckout_there (h : stage.At w d) (hadmin : stage.admin = some admin) (harrived : stage.arrived = false)
    (createBranch : Bool) : (ensureCheckout git w createBranch).run (stage.layout w d) = ⟨[], .ok ()⟩ := by
  have hexists : (stage.layout w d).pathExists (stagingCheckout w) = true := by
    rw [pathExists_checkout h]
    cases stage <;> cases harrived <;> cases hadmin <;> rfl
  rw [ensureCheckout, ask_bind, hexists, if_pos rfl]
  rfl

theorem ensureCheckout_owned (h : Stage.owned.At w d) (createBranch : Bool) :
    (ensureCheckout git w createBranch).run (Stage.owned.layout w d) =
      (act (worktreeAdd git w createBranch)).run (Stage.owned.layout w d) := by
  have hexists : (Stage.owned.layout w d).pathExists (stagingCheckout w) = false := pathExists_checkout h
  rw [ensureCheckout, ask_bind, hexists, if_neg Bool.false_ne_true]

def Disk.setBranch (d : Disk) (branch : String) (oid : Oid) : Disk :=
  { d with refs := d.refs.insert (headRef branch) oid }

theorem layout_added (oid : Oid) : (Stage.owned.layout w d).addWorktree w.gitCommonDir admin w.branch oid (stagingCheckout w) =
    (Stage.added admin).layout w (d.setBranch w.branch oid) := rfl

theorem Stage.At.setBranch (h : stage.At w d) (branch : String) (oid : Oid) : stage.At w (d.setBranch branch oid) where
  beside := ⟨h.beside.target, h.beside.above⟩
  foreign := ⟨h.foreign.staging, h.foreign.marker⟩
  target := h.target
  admin := h.admin

theorem registered_staging (h : stage.At w d) (hadmin : stage.admin = none) :
    (stage.layout w d).registered (stagingCheckout w) = false := by
  rw [Bool.eq_false_iff]
  intro hregistered
  obtain ⟨found, registration, hlookup, hgitdir⟩ := Disk.registered_iff.1 hregistered
  rw [lookup_other_admin (by simp [hadmin])] at hlookup
  exact (h.foreign.marker found registration hlookup).2 hgitdir

theorem added_at (h : Stage.owned.At w d) (hfresh : admin ∉ d.registrations) (hunder : w.gitCommonDir ++ ["worktrees"] <+: admin) :
    (Stage.added admin).At w d where
  beside := h.beside
  foreign := h.foreign
  target := nofun
  admin := fun other hother => by
    cases hother
    exact ⟨hfresh, hunder⟩

/-- **The worktree is added** with a new branch, or for the branch that is there. -/
theorem ensureCheckout_added {createBranch : Bool} {oid : Oid} (h : Stage.owned.At w d)
    (hadded : git.worktreeAdd (Stage.owned.layout w d) (if createBranch then some w.branch else none) (stagingCheckout w)
      (if createBranch then w.baseSha else w.branch) =
        .ok ((Stage.owned.layout w d).addWorktree w.gitCommonDir admin w.branch oid (stagingCheckout w))) :
    (ensureCheckout git w createBranch).run (Stage.owned.layout w d) =
      ⟨[(Stage.added admin).layout w (d.setBranch w.branch oid)], .ok ()⟩ := by
  rw [ensureCheckout_owned h]
  refine act_ok ?_
  rw [worktreeAdd, hadded, layout_added]

theorem ensureCheckout_refused {createBranch : Bool} {message : String} (h : Stage.owned.At w d)
    (hrefused : git.worktreeAdd (Stage.owned.layout w d) (if createBranch then some w.branch else none) (stagingCheckout w)
      (if createBranch then w.baseSha else w.branch) = .error message) :
    (ensureCheckout git w createBranch).run (Stage.owned.layout w d) = ⟨[], .error (addFailure createBranch message)⟩ := by
  rw [ensureCheckout_owned h]
  refine act_error ?_
  rw [worktreeAdd, hrefused]

/-! ## The owner's marker -/

theorem head_admin (hadmin : stage.admin = some admin) : headOf (stage.layout w d) admin = some (.branch w.branch) := by
  rw [headOf, lookup_admin hadmin]
  cases stage <;> cases hadmin <;> rfl

theorem marked_at (h : (Stage.added admin).At w d) : (Stage.marked admin).At w d := ⟨h.beside, h.foreign, nofun, h.admin⟩

theorem ensureOwner_added (h : (Stage.added admin).At w d) :
    (ensureOwner w).run ((Stage.added admin).layout w d) = ⟨[(Stage.marked admin).layout w d], .ok ()⟩ := by
  have hregistration := @lookup_admin w d (.added admin) admin rfl
  rw [ensureOwner, observe_ok (f := fun d => verifyTree d (stagingCheckout w) w false) (verifyTree_checkout h rfl rfl),
    observe_ok (a := ()) (by rw [head_admin rfl]; exact if_pos (decide_eq_true rfl)), ask_bind, hregistration]
  refine act_ok ?_
  rw [writeOwner, hregistration]
  exact congrArg Except.ok (congrArg (Disk.mk _ _) (Finmap.insert_insert _))

theorem ensureOwner_marked (h : (Stage.marked admin).At w d) :
    (ensureOwner w).run ((Stage.marked admin).layout w d) = ⟨[], .ok ()⟩ := by
  have hregistration := @lookup_admin w d (.marked admin) admin rfl
  rw [ensureOwner, observe_ok (f := fun d => verifyTree d (stagingCheckout w) w false) (verifyTree_checkout h rfl rfl),
    observe_ok (a := ()) (by rw [head_admin rfl]; exact if_pos (decide_eq_true rfl)), ask_bind, hregistration]
  exact run_observe (if_pos (decide_eq_true rfl))

/-! ## The move to the target -/

theorem erase_checkout (h : Foreign w d) {entry : Entry} :
    (((d.entries.insert (stagingRoot w) .directory).insert (stagingOwner w) (.file w.preparationToken)).insert (stagingCheckout w)
      entry).erase (stagingCheckout w) =
    (d.entries.insert (stagingRoot w) .directory).insert (stagingOwner w) (.file w.preparationToken) := by
  refine erase_insert_self ?_
  rw [Finmap.mem_insert, Finmap.mem_insert, not_or, not_or]
  exact ⟨(owner_ne_checkout w).symm, (root_ne_checkout w).symm, not_mem_of_staging h (staging_prefix_checkout w)⟩

theorem moved_at (h : (Stage.marked admin).At w d) (hfree : w.worktreePath ∉ d.entries) : (Stage.moved admin).At w d :=
  ⟨h.beside, h.foreign, fun _ => hfree, h.admin⟩

theorem not_mem_of_free {path : Path} (h : d.pathOccupied path = false) : path ∉ d.entries := by
  rw [Disk.pathOccupied, Option.isSome_eq_false_iff, Option.isNone_iff_eq_none] at h
  exact Finmap.lookup_eq_none.1 h

variable (hgit : git.Documented w.gitCommonDir)
include hgit

theorem worktreeMove_marked (h : (Stage.marked admin).At w d) (hfree : d.pathOccupied w.worktreePath = false)
    (hunregistered : d.registered w.worktreePath = false) :
    worktreeMove git w ((Stage.marked admin).layout w d) = .ok ((Stage.moved admin).layout w d) := by
  have hmove := @MissionGit.Documented.move_ok git _ hgit ((Stage.marked admin).layout w d) (stagingCheckout w) w.worktreePath admin
    false _ (lookup_checkout h) (lookup_admin rfl) rfl ((pathOccupied_target h rfl).trans hfree)
    ((registered_other h rfl (target_ne_checkout h.beside)).trans hunregistered)
  rw [worktreeMove, hmove]
  simp [Disk.moveWorktree, Stage.layout, Stage.entries, Stage.registrations, erase_checkout h.foreign, Finmap.insert_insert, ownEntry]

theorem worktreeMove_registered (h : (Stage.marked admin).At w d) (hfree : d.pathOccupied w.worktreePath = false)
    (hregistered : d.registered w.worktreePath = true) :
    ∃ message, worktreeMove git w ((Stage.marked admin).layout w d) = .error (.failed message) := by
  obtain ⟨message, hmove⟩ := @MissionGit.Documented.move_refused git _ hgit ((Stage.marked admin).layout w d) (stagingCheckout w)
    w.worktreePath ((registered_other h rfl (target_ne_checkout h.beside)).trans hregistered)
  refine ⟨"mission.worktree_move_failed: " ++ message, ?_⟩
  simp [worktreeMove, hmove, pathOccupied_target h rfl, hfree]

def arrivals (w : MissionWorkspace) (d : Disk) (admin : Path) : List Disk :=
  [(Stage.moved admin).layout w d, (Stage.leaving admin).layout w d, (Stage.placed admin).layout w d]

theorem moveIntoPlace_course (h : (Stage.marked admin).At w d) (hfree : d.pathOccupied w.worktreePath = false)
    (hunregistered : d.registered w.worktreePath = false) :
    (moveIntoPlace git w).run ((Stage.marked admin).layout w d) = ⟨arrivals w d admin, .ok ()⟩ := by
  have hmoved := moved_at h (not_mem_of_free hfree)
  refine bind_ok (l := [(Stage.moved admin).layout w d]) (act_ok (worktreeMove_marked hgit h hfree hunregistered)) ?_
  rw [List.getLastD_cons, List.getLastD_nil, observe_ok (f := fun d => verifyTree d w.worktreePath w true) (verifyTree_target hmoved rfl rfl),
    observe_ok (f := fun d => verifyStagingOwner d w) (verifyStagingOwner_ok hmoved (lookup_owner hmoved))]
  exact removeStaging_course (.arrived admin) hmoved

theorem moveIntoPlace_registered (h : (Stage.marked admin).At w d) (hfree : d.pathOccupied w.worktreePath = false)
    (hregistered : d.registered w.worktreePath = true) :
    ∃ message, (moveIntoPlace git w).run ((Stage.marked admin).layout w d) = ⟨[], .error (.failed message)⟩ := by
  obtain ⟨message, hfails⟩ := worktreeMove_registered hgit h hfree hregistered
  exact ⟨message, bind_error (act_error hfails)⟩

omit hgit

/-! ## Stages that are passed -/

/-- What is not of the preparation stays: entries and registrations are the same, and no reference is lost. -/
structure Extends (d d' : Disk) : Prop where
  entries : d'.entries = d.entries
  registrations : d'.registrations = d.registrations
  refs : ∀ ref ∈ d.refs, ref ∈ d'.refs

theorem Extends.refl (d : Disk) : Extends d d := ⟨rfl, rfl, fun _ => id⟩

theorem Extends.trans {d d' d'' : Disk} (h : Extends d d') (h' : Extends d' d'') : Extends d d'' where
  entries := h'.entries.trans h.entries
  registrations := h'.registrations.trans h.registrations
  refs := fun ref hmem => h'.refs ref (h.refs ref hmem)

theorem extends_setBranch (d : Disk) (branch : String) (oid : Oid) : Extends d (d.setBranch branch oid) where
  entries := rfl
  registrations := rfl
  refs := fun _ hmem => (Finmap.mem_insert (s := d.refs)).2 (.inr hmem)

inductive Passes (w : MissionWorkspace) : Disk × Stage → List Disk → Disk × Stage → Prop
  | nil (p : Disk × Stage) : Passes w p [] p
  | cons {p q r : Disk × Stage} {left : List Disk} (hat : q.2.At w q.1) (hext : Extends p.1 q.1) (h : Passes w q left r) :
    Passes w p (q.2.layout w q.1 :: left) r

variable {p q : Disk × Stage}

theorem Passes.one (hat : q.2.At w q.1) (hext : Extends p.1 q.1) : Passes w p [q.2.layout w q.1] q :=
  .cons hat hext (.nil q)

variable {left : List Disk}

theorem Passes.last (h : Passes w p left q) :
    left.getLastD (p.2.layout w p.1) = q.2.layout w q.1 := by
  induction h with
  | nil p => rfl
  | cons hat hext h ih => rw [List.getLastD_cons, ih]

theorem Passes.at (h : Passes w p left q) (hat : p.2.At w p.1) :
    q.2.At w q.1 ∧ Extends p.1 q.1 := by
  induction h with
  | nil p => exact ⟨hat, .refl _⟩
  | cons hat' hext h ih => exact ⟨(ih hat').1, hext.trans (ih hat').2⟩

theorem Passes.exists_stage (h : Passes w p left q) {t : Disk} (ht : t ∈ left) :
    ∃ r : Disk × Stage, t = r.2.layout w r.1 ∧ r.2.At w r.1 ∧ Extends p.1 r.1 := by
  induction h with
  | nil => cases ht
  | cons hat hext h ih =>
    obtain rfl | hmem := List.mem_cons.1 ht
    · exact ⟨_, rfl, hat, hext⟩
    obtain ⟨r, heq, hr, hext'⟩ := ih hmem
    exact ⟨r, heq, hr, hext.trans hext'⟩

theorem Passes.removal {next last : Stage} (hremoval : Removal stage next last) (h : stage.At w d) :
    Passes w (d, stage) [next.layout w d, last.layout w d] (d, last) :=
  .cons (q := (d, next)) (hremoval.at h).1 (.refl d) (.one (q := (d, last)) (hremoval.at h).2 (.refl d))

theorem Passes.arrivals (h : (Stage.marked admin).At w d) (hfree : d.pathOccupied w.worktreePath = false) :
    Passes w (d, .marked admin) (arrivals w d admin) (d, .placed admin) :=
  have hmoved := moved_at h (not_mem_of_free hfree)
  .cons (q := (d, .moved admin)) hmoved (.refl d) (.removal (.arrived admin) hmoved)

/-! ## Materializing -/

theorem materialize_in_the_way (h : stage.At w d) (harrived : stage.arrived = false) (hoccupied : d.pathOccupied w.worktreePath = true) :
    (materialize git w).run (stage.layout w d) = ⟨[], .error .nameOccupied⟩ := by
  obtain ⟨failure, hverified⟩ := verifyTree_in_the_way h harrived
  rw [materialize, materializeWithBranch, ask_bind, pathOccupied_target h harrived, hoccupied, if_pos rfl, ask_bind, hverified]
  rfl

theorem materialize_arrived (h : stage.At w d) (hadmin : stage.admin = some admin) (harrived : stage.arrived = true) :
    (materialize git w).run (stage.layout w d) = (removeEmptyStaging w).run (stage.layout w d) := by
  rw [materialize, materializeWithBranch, ask_bind, pathOccupied_arrived h harrived, if_pos rfl, ask_bind,
    verifyTree_target h hadmin harrived]

theorem materialize_free (h : stage.At w d) (harrived : stage.arrived = false) (hfree : d.pathOccupied w.worktreePath = false) :
    (materialize git w).run (stage.layout w d) = (do
      ensureStaging w
      ensureCheckout git w (w.preparationKind = .create)
      ensureOwner w
      moveIntoPlace git w : Work Unit).run (stage.layout w d) := by
  rw [materialize, materializeWithBranch, ask_bind, pathOccupied_target h harrived, hfree, if_neg Bool.false_ne_true]

/-- Git can add the worktree: the new branch is free and has room, or the branch is there and nowhere checked out. -/
def CanAdd (w : MissionWorkspace) (d : Disk) : Prop :=
  match w.preparationKind with
  | .create => headRef w.branch ∉ d.refs ∧ d.branchFits w.branch = true
  | .restore => headRef w.branch ∈ d.refs ∧ d.checkedOut w.branch = false

def Goes (w : MissionWorkspace) (d : Disk) (stage : Stage) : Prop :=
  stage.ownerless = false ∧ (stage.arrived = true ∨ (d.pathOccupied w.worktreePath = false ∧ d.registered w.worktreePath = false ∧
    (stage.admin.isSome ∨ CanAdd w d)))

def Taken (w : MissionWorkspace) (d : Disk) (stage : Stage) : Prop :=
  stage.arrived = false ∧ (d.pathOccupied w.worktreePath = true ∨
    (stage.ownerless = false ∧ stage.admin = none ∧ w.preparationKind = .create ∧ headRef w.branch ∈ d.refs))

inductive Outcome (w : MissionWorkspace) (d : Disk) (stage : Stage) : Except Failure Unit → Disk × Stage → Prop
  | placed {d' : Disk} {admin : Path} (h : Goes w d stage) : Outcome w d stage (.ok ()) (d', .placed admin)
  | taken {last : Disk × Stage} (h : Taken w d stage) (hdisk : last.1 = d) (harrived : last.2.arrived = false)
      (hownerless : last.2.ownerless = stage.ownerless) : Outcome w d stage (.error .nameOccupied) last
  | failed {last : Disk × Stage} {message : String} (hgoes : ¬ Goes w d stage) (htaken : ¬ Taken w d stage) :
    Outcome w d stage (.error (.failed message)) last

section Spec

variable (hgit : git.Documented w.gitCommonDir)
include hgit

theorem moveIntoPlace_spec (h : (Stage.marked admin).At w d) (hfree : d.pathOccupied w.worktreePath = false) :
    ∃ left result last, (moveIntoPlace git w).run ((Stage.marked admin).layout w d) = ⟨left, result⟩ ∧
      Passes w (d, .marked admin) left last ∧
      ((d.registered w.worktreePath = false ∧ result = .ok () ∧ last = (d, .placed admin)) ∨
        (d.registered w.worktreePath = true ∧ ∃ message, result = .error (.failed message))) := by
  cases hregistered : d.registered w.worktreePath with
  | false =>
    exact ⟨_, _, _, moveIntoPlace_course hgit h hfree hregistered, .arrivals h hfree, .inl ⟨rfl, rfl, rfl⟩⟩
  | true =>
    obtain ⟨message, hfails⟩ := moveIntoPlace_registered hgit h hfree hregistered
    exact ⟨_, _, _, hfails, .nil _, .inr ⟨rfl, message, rfl⟩⟩

theorem ensureOwner_spec (h : stage.At w d) (hadmin : stage.admin = some admin) (harrived : stage.arrived = false)
    (hfree : d.pathOccupied w.worktreePath = false) :
    ∃ left result last, (do
        ensureOwner w
        moveIntoPlace git w : Work Unit).run (stage.layout w d) = ⟨left, result⟩ ∧ Passes w (d, stage) left last ∧
      ((d.registered w.worktreePath = false ∧ result = .ok () ∧ last = (d, .placed admin)) ∨
        (d.registered w.worktreePath = true ∧ ∃ message, result = .error (.failed message))) := by
  cases stage <;> cases harrived <;> cases hadmin
  · have hmarked := marked_at h
    obtain ⟨left, result, last, hcourse, hpasses, hresult⟩ := moveIntoPlace_spec hgit hmarked hfree
    exact ⟨_, _, _, bind_ok (ensureOwner_added h) hcourse,
      .cons (q := (d, .marked admin)) hmarked (.refl d) hpasses, hresult⟩
  · obtain ⟨left, result, last, hcourse, hpasses, hresult⟩ := moveIntoPlace_spec hgit h hfree
    exact ⟨_, _, _, bind_ok (ensureOwner_marked h) hcourse, hpasses, hresult⟩

theorem ensureCheckout_spec (hcommit : git.isCommit w.baseSha = true) (h : Stage.owned.At w d) :
    (CanAdd w d ∧ ∃ admin oid, (ensureCheckout git w (w.preparationKind = .create)).run (Stage.owned.layout w d) =
      ⟨[(Stage.added admin).layout w (d.setBranch w.branch oid)], .ok ()⟩ ∧ (Stage.added admin).At w d) ∨
    (¬ CanAdd w d ∧ ∃ failure, (ensureCheckout git w (w.preparationKind = .create)).run (Stage.owned.layout w d) =
      ⟨[], .error failure⟩ ∧ (failure = .nameOccupied ↔ w.preparationKind = .create ∧ headRef w.branch ∈ d.refs)) := by
  have hnot : (Stage.owned.layout w d).pathOccupied (stagingCheckout w) = false := pathOccupied_checkout h
  have hunregistered : (Stage.owned.layout w d).registered (stagingCheckout w) = false := registered_staging h rfl
  cases hkind : w.preparationKind with
  | create =>
    simp only [CanAdd, hkind, decide_true, true_and]
    by_cases htaken : headRef w.branch ∈ d.refs
    · obtain ⟨message, hrefused, halready, hbranch⟩ := @MissionGit.Documented.add_taken git _ hgit (Stage.owned.layout w d) w.branch
        w.baseSha (stagingCheckout w) hcommit htaken
      refine .inr ⟨fun hcan => hcan.1 htaken, _, ensureCheckout_refused h hrefused, fun _ => htaken, fun _ => ?_⟩
      rw [addFailure, halready, hbranch]
      rfl
    · cases hfits : d.branchFits w.branch with
      | true =>
        obtain ⟨admin, hfresh, hunder, hadded⟩ := @MissionGit.Documented.add_create git _ hgit (Stage.owned.layout w d) w.branch
          w.baseSha (stagingCheckout w) hcommit hnot hunregistered htaken hfits
        exact .inl ⟨⟨htaken, rfl⟩, admin, w.baseSha, ensureCheckout_added h hadded, added_at h hfresh hunder⟩
      | false =>
        obtain ⟨message, hrefused, halready⟩ := @MissionGit.Documented.add_unfit git _ hgit (Stage.owned.layout w d) w.branch
          w.baseSha (stagingCheckout w) hcommit htaken hfits
        refine .inr ⟨fun hcan => Bool.false_ne_true hcan.2, _, ensureCheckout_refused h hrefused, fun hsame => ?_,
          fun hmem => absurd hmem htaken⟩
        rw [addFailure, halready] at hsame
        cases hsame
  | restore =>
    simp only [CanAdd, hkind, reduceCtorEq, decide_false, false_and, iff_false]
    by_cases hcan : headRef w.branch ∈ d.refs ∧ d.checkedOut w.branch = false
    · obtain ⟨oid, hoid⟩ := Finmap.mem_iff.1 hcan.1
      obtain ⟨admin, hfresh, hunder, hadded⟩ := @MissionGit.Documented.add_restore git _ hgit (Stage.owned.layout w d) w.branch oid
        (stagingCheckout w) hnot hunregistered hoid hcan.2
      exact .inl ⟨hcan, admin, oid, ensureCheckout_added h hadded, added_at h hfresh hunder⟩
    · have hrefuses : headRef w.branch ∉ d.refs ∨ d.checkedOut w.branch = true := by
        rw [not_and_or, Bool.not_eq_false] at hcan
        exact hcan
      obtain ⟨message, hrefused⟩ := @MissionGit.Documented.add_refused git _ hgit (Stage.owned.layout w d) w.branch
        (stagingCheckout w) hrefuses
      refine .inr ⟨hcan, _, ensureCheckout_refused h hrefused, fun hsame => ?_⟩
      rw [addFailure, Bool.false_and, Bool.false_and, if_neg Bool.false_ne_true] at hsame
      cases hsame

theorem owned_spec (hcommit : git.isCommit w.baseSha = true) (h : Stage.owned.At w d) (hfree : d.pathOccupied w.worktreePath = false) :
    ∃ left result last, (do
        ensureCheckout git w (w.preparationKind = .create)
        ensureOwner w
        moveIntoPlace git w : Work Unit).run (Stage.owned.layout w d) = ⟨left, result⟩ ∧ Passes w (d, .owned) left last ∧
      Outcome w d .owned result last := by
  obtain ⟨hcan, admin, oid, hcourse, hat⟩ | ⟨hcannot, failure, hcourse, hfailure⟩ := ensureCheckout_spec hgit hcommit h
  · have hat' := hat.setBranch w.branch oid
    obtain ⟨left, result, last, hfinish, hpasses, hresult⟩ := ensureOwner_spec hgit hat' rfl rfl hfree
    refine ⟨_, _, last, bind_ok hcourse hfinish, .cons (q := (_, .added admin)) hat' (extends_setBranch d _ oid) hpasses, ?_⟩
    obtain ⟨hunregistered, rfl, rfl⟩ | ⟨hregistered, message, rfl⟩ := hresult
    · exact .placed ⟨rfl, .inr ⟨hfree, hunregistered, .inr hcan⟩⟩
    refine .failed (fun hgoes => ?_) fun htaken => ?_
    · obtain ⟨-, harrived | ⟨-, hunregistered, -⟩⟩ := hgoes
      · cases harrived
      · exact Bool.false_ne_true (hunregistered.symm.trans hregistered)
    · obtain ⟨-, hoccupied | ⟨-, -, hkind, hmem⟩⟩ := htaken
      · exact Bool.false_ne_true (hfree.symm.trans hoccupied)
      rw [CanAdd, hkind] at hcan
      exact hcan.1 hmem
  · refine ⟨_, _, (d, .owned), bind_error hcourse, .nil _, ?_⟩
    cases failure with
    | nameOccupied => exact .taken ⟨rfl, .inr ⟨rfl, rfl, hfailure.1 rfl⟩⟩ rfl rfl rfl
    | failed message =>
      refine .failed (fun hgoes => ?_) fun htaken => ?_
      · obtain ⟨-, harrived | ⟨-, -, hadmin | hcan⟩⟩ := hgoes
        · cases harrived
        · cases hadmin
        · exact hcannot hcan
      · obtain ⟨-, hoccupied | ⟨-, -, hcreate⟩⟩ := htaken
        · exact Bool.false_ne_true (hfree.symm.trans hoccupied)
        · cases hfailure.2 hcreate

omit hgit in
theorem arrived_spec (h : stage.At w d) (hadmin : stage.admin = some admin) (harrived : stage.arrived = true) :
    ∃ left result last, (materialize git w).run (stage.layout w d) = ⟨left, result⟩ ∧ Passes w (d, stage) left last ∧
      Outcome w d stage result last := by
  have hcourse := @materialize_arrived w d stage admin git h hadmin harrived
  cases stage <;> cases harrived <;> cases hadmin
  · exact ⟨_, _, _, hcourse.trans (removeEmptyStaging_course (.arrived admin) h), .removal (.arrived admin) h,
      .placed ⟨rfl, .inl rfl⟩⟩
  · obtain ⟨message, hfails⟩ := removeEmptyStaging_ownerless h rfl
    refine ⟨_, _, _, hcourse.trans hfails, .nil _, .failed (fun hgoes => ?_) fun htaken => ?_⟩
    · cases hgoes.1
    · cases htaken.1
  · exact ⟨_, _, _, hcourse.trans (removeEmptyStaging_gone (pathOccupied_root h)), .nil _, .placed ⟨rfl, .inl rfl⟩⟩

theorem checkout_spec (h : stage.At w d) (hadmin : stage.admin = some admin) (harrived : stage.arrived = false)
    (hfree : d.pathOccupied w.worktreePath = false) :
    ∃ left result last, (materialize git w).run (stage.layout w d) = ⟨left, result⟩ ∧ Passes w (d, stage) left last ∧
      Outcome w d stage result last := by
  have howner : (stage.layout w d).entries.lookup (stagingOwner w) = some (.file w.preparationToken) := by
    rw [lookup_owner h]
    cases stage <;> cases harrived <;> cases hadmin <;> rfl
  have hownerless : stage.ownerless = false := by
    cases stage <;> cases harrived <;> cases hadmin <;> rfl
  obtain ⟨left, result, last, hcourse, hpasses, hresult⟩ := ensureOwner_spec hgit h hadmin harrived hfree
  refine ⟨left, result, last, ?_, hpasses, ?_⟩
  · rw [materialize_free h harrived hfree]
    exact bind_ok (l := []) (ensureStaging_there h howner) (bind_ok (l := []) (ensureCheckout_there h hadmin harrived _) hcourse)
  · obtain ⟨hunregistered, rfl, rfl⟩ | ⟨hregistered, message, rfl⟩ := hresult
    · exact .placed ⟨hownerless, .inr ⟨hfree, hunregistered, .inl (by rw [hadmin]; rfl)⟩⟩
    refine .failed (fun hgoes => ?_) fun htaken => ?_
    · obtain ⟨-, harrived' | ⟨-, hunregistered, -⟩⟩ := hgoes
      · exact Bool.false_ne_true (harrived.symm.trans harrived')
      · exact Bool.false_ne_true (hunregistered.symm.trans hregistered)
    · obtain ⟨-, hoccupied | ⟨-, hnone, -⟩⟩ := htaken
      · exact Bool.false_ne_true (hfree.symm.trans hoccupied)
      rw [hnone] at hadmin
      cases hadmin

/-- **How `materialize` goes on from every stage.** -/
theorem materialize_spec (hcommit : git.isCommit w.baseSha = true) (h : stage.At w d) :
    ∃ left result last, (materialize git w).run (stage.layout w d) = ⟨left, result⟩ ∧ Passes w (d, stage) left last ∧
      Outcome w d stage result last := by
  by_cases harrived : stage.arrived = true
  · obtain ⟨admin, hadmin⟩ : ∃ admin, stage.admin = some admin := by
      cases stage <;> cases harrived <;> exact ⟨_, rfl⟩
    exact arrived_spec h hadmin harrived
  rw [Bool.not_eq_true] at harrived
  cases hfree : d.pathOccupied w.worktreePath with
  | true =>
    exact ⟨_, _, (d, stage), materialize_in_the_way h harrived hfree, .nil _, .taken ⟨harrived, .inl hfree⟩ rfl harrived rfl⟩
  | false =>
    cases stage with
    | clean =>
      have howned : Stage.owned.At w d := ⟨h.beside, h.foreign, nofun, nofun⟩
      obtain ⟨left, result, last, hcourse, hpasses, hresult⟩ := owned_spec hgit hcommit howned hfree
      refine ⟨_, result, last, ?_, (Passes.cons (q := (d, .bare)) ⟨h.beside, h.foreign, nofun, nofun⟩ (.refl d)
        (.cons (q := (d, .owned)) howned (.refl d) hpasses)), ?_⟩
      · rw [materialize_free h harrived hfree]
        exact bind_ok (ensureStaging_clean h) hcourse
      · -- a clean disk goes on as an owned one
        cases hresult with
        | placed hgoes => exact .placed hgoes
        | taken htaken hdisk harrived' hownerless => exact .taken htaken hdisk harrived' hownerless
        | failed hgoes htaken => exact .failed hgoes htaken
    | bare =>
      obtain ⟨message, hfails⟩ := ensureStaging_bare h
      refine ⟨_, .error (.failed message), (d, .bare), ?_, .nil _, .failed (fun hgoes => ?_) fun htaken => ?_⟩
      · rw [materialize_free h harrived hfree]
        exact bind_error hfails
      · cases hgoes.1
      · obtain ⟨-, hoccupied | ⟨hownerless, -⟩⟩ := htaken
        · exact Bool.false_ne_true (hfree.symm.trans hoccupied)
        · cases hownerless
    | owned =>
      obtain ⟨left, result, last, hcourse, hpasses, hresult⟩ := owned_spec hgit hcommit h hfree
      refine ⟨_, result, last, ?_, hpasses, hresult⟩
      rw [materialize_free h harrived hfree]
      exact bind_ok (l := []) (ensureStaging_there h (lookup_owner h)) hcourse
    | added admin => exact checkout_spec hgit h rfl harrived hfree
    | marked admin => exact checkout_spec hgit h rfl harrived hfree
    | moved admin => cases harrived
    | leaving admin => cases harrived
    | placed admin => cases harrived

/-! ## Giving a candidate up -/

theorem worktreeRemove_spec (h : stage.At w d) (hadmin : stage.admin = some admin) (harrived : stage.arrived = false) :
    git.worktreeRemove (stage.layout w d) true (stagingCheckout w) = .ok (Stage.owned.layout w d) := by
  obtain ⟨hentry, registration, hregistration, hgitdir⟩ := checkout_registered h hadmin harrived
  rw [MissionGit.Documented.remove_force hgit hentry hregistration hgitdir, Disk.removeWorktree]
  cases stage <;> cases harrived <;> cases hadmin <;>
    simp [Stage.layout, Stage.entries, Stage.registrations, erase_checkout h.foreign, erase_insert_self (h.admin _ rfl).1]

/-- **A candidate that is given up leaves nothing behind but its branch.** -/
theorem abandonCandidate_spec (h : stage.At w d) (harrived : stage.arrived = false) (hownerless : stage.ownerless = false) :
    ∃ left, (abandonCandidate git w).run (stage.layout w d) = ⟨left, .ok ()⟩ ∧ Passes w (d, stage) left (d, .clean) := by
  have howned : Stage.owned.At w d := ⟨h.beside, h.foreign, nofun, nofun⟩
  have hremoved := @removeEmptyStaging_course w d .owned .bare .clean .abandoned howned
  have hpasses := @Passes.removal w d .owned .bare .clean .abandoned howned
  have hcheckout : ∀ admin, stage.admin = some admin → ∃ left, (abandonCandidate git w).run (stage.layout w d) = ⟨left, .ok ()⟩ ∧
      Passes w (d, stage) left (d, .clean) := by
    intro admin hadmin
    have hoccupied : (stage.layout w d).pathOccupied (stagingRoot w) = true := by
      rw [pathOccupied_root h]
      cases stage <;> cases harrived <;> cases hadmin <;> rfl
    have hthere : (stage.layout w d).pathOccupied (stagingCheckout w) = true := by
      rw [pathOccupied_checkout h]
      cases stage <;> cases harrived <;> cases hadmin <;> rfl
    have howner : (stage.layout w d).entries.lookup (stagingOwner w) = some (.file w.preparationToken) := by
      rw [lookup_owner h]
      cases stage <;> cases harrived <;> cases hadmin <;> rfl
    refine ⟨_, ?_, .cons (q := (d, .owned)) howned (.refl d) hpasses⟩
    rw [abandonCandidate, ask_bind, hoccupied, if_pos rfl, observe_ok (f := fun d => verifyStagingOwner d w)
      (verifyStagingOwner_ok h howner), ask_bind, hthere, if_pos rfl,
      observe_ok (f := fun d => verifyTree d (stagingCheckout w) w false) (verifyTree_checkout h hadmin harrived)]
    exact bind_ok (l := [Stage.owned.layout w d]) (act_ok (by rw [worktreeRemove_spec hgit h hadmin harrived]; rfl)) hremoved
  cases stage with
  | clean =>
    refine ⟨[], ?_, .nil _⟩
    rw [abandonCandidate, ask_bind, pathOccupied_root h, if_neg Bool.false_ne_true]
    rfl
  | bare => cases hownerless
  | owned =>
    refine ⟨_, ?_, hpasses⟩
    rw [abandonCandidate, ask_bind, pathOccupied_root h, if_pos rfl, observe_ok (f := fun d => verifyStagingOwner d w)
      (verifyStagingOwner_ok h (lookup_owner h)), ask_bind, pathOccupied_checkout h, if_neg Bool.false_ne_true]
    exact bind_ok (l := []) rfl hremoved
  | added admin => exact hcheckout admin rfl
  | marked admin => exact hcheckout admin rfl
  | moved admin => cases harrived
  | leaving admin => cases harrived
  | placed admin => cases harrived

omit hgit in
theorem abandonCandidate_bare (h : Stage.bare.At w d) :
    ∃ message, (abandonCandidate git w).run (Stage.bare.layout w d) = ⟨[], .error (.failed message)⟩ := by
  obtain ⟨message, hfails⟩ := verifyStagingOwner_error h (lookup_owner h)
  refine ⟨message, ?_⟩
  rw [abandonCandidate, ask_bind, pathOccupied_root h, if_pos rfl]
  exact observe_error hfails

end Spec

end Rovai.Mission
