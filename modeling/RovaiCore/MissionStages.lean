import RovaiCore.MissionWorkspaces
/-!
# The stages of a preparation

What a preparation has added to the disk that it began on, stage by stage, and how each procedure goes on from a stage.
-/
namespace Rovai.Mission

open Procedure
open List

/-! ## Finite maps -/

section Finmaps

variable {α β : Type} [DecidableEq α] {a b : α} {x y : β} {s : Finmap fun _ : α => β}

theorem erase_insert_self (h : a ∉ s) : (s.insert a x).erase a = s := by
  refine Finmap.ext_lookup fun k => ?_
  by_cases hk : k = a
  · subst hk
    rw [Finmap.lookup_erase, Finmap.lookup_eq_none.2 h]
  · rw [Finmap.lookup_erase_ne hk, Finmap.lookup_insert_of_ne s hk]

theorem erase_insert_of_ne (h : a ≠ b) : (s.insert a x).erase b = (s.erase b).insert a x := by
  refine Finmap.ext_lookup fun k => ?_
  by_cases hb : k = b
  · subst hb
    rw [Finmap.lookup_erase, Finmap.lookup_insert_of_ne _ (Ne.symm h), Finmap.lookup_erase]
  · rw [Finmap.lookup_erase_ne hb]
    by_cases ha : k = a
    · subst ha
      rw [Finmap.lookup_insert, Finmap.lookup_insert]
    · rw [Finmap.lookup_insert_of_ne s ha, Finmap.lookup_insert_of_ne _ ha, Finmap.lookup_erase_ne hb]

end Finmaps

/-! ## Stages -/

/-- How far a preparation is; an administrative directory is its own from the moment that the worktree is added. -/
inductive Stage where
  | clean
  | bare
  | owned
  | added (admin : Path)
  | marked (admin : Path)
  | moved (admin : Path)
  /-- The worktree is at its place, and the owner file is gone before its directory. -/
  | leaving (admin : Path)
  | placed (admin : Path)

def Stage.ownerless : Stage → Bool
  | .bare | .leaving _ => true
  | _ => false

def Stage.arrived : Stage → Bool
  | .moved _ | .leaving _ | .placed _ => true
  | _ => false

def Stage.admin : Stage → Option Path
  | .clean | .bare | .owned => none
  | .added admin | .marked admin | .moved admin | .leaving admin | .placed admin => some admin

def ownEntry (w : MissionWorkspace) (admin : Path) : Entry :=
  .checkout w.gitCommonDir admin false

def Stage.entries (w : MissionWorkspace) (entries : Finmap fun _ : Path => Entry) : Stage → Finmap fun _ : Path => Entry
  | .clean => entries
  | .bare => entries.insert (stagingRoot w) .directory
  | .owned => (entries.insert (stagingRoot w) .directory).insert (stagingOwner w) (.file w.preparationToken)
  | .added admin | .marked admin =>
    ((entries.insert (stagingRoot w) .directory).insert (stagingOwner w) (.file w.preparationToken)).insert (stagingCheckout w)
      (ownEntry w admin)
  | .moved admin =>
    ((entries.insert (stagingRoot w) .directory).insert (stagingOwner w) (.file w.preparationToken)).insert w.worktreePath
      (ownEntry w admin)
  | .leaving admin => (entries.insert (stagingRoot w) .directory).insert w.worktreePath (ownEntry w admin)
  | .placed admin => entries.insert w.worktreePath (ownEntry w admin)

def Stage.registrations (w : MissionWorkspace) (registrations : Finmap fun _ : Path => Registration) :
    Stage → Finmap fun _ : Path => Registration
  | .clean | .bare | .owned => registrations
  | .added admin => registrations.insert admin ⟨stagingCheckout w ++ [".git"], none, .branch w.branch⟩
  | .marked admin => registrations.insert admin ⟨stagingCheckout w ++ [".git"], some w.preparationToken, .branch w.branch⟩
  | .moved admin | .leaving admin | .placed admin =>
    registrations.insert admin ⟨w.worktreePath ++ [".git"], some w.preparationToken, .branch w.branch⟩

def Stage.layout (w : MissionWorkspace) (d : Disk) (stage : Stage) : Disk where
  entries := stage.entries w d.entries
  refs := d.refs
  registrations := stage.registrations w d.registrations

structure Beside (w : MissionWorkspace) (d : Disk) : Prop where
  target : ∃ name, w.worktreePath = w.repositoryRoot.dropLast ++ [name] ∧ name ≠ ".rovai-mission-prepare-" ++ w.preparationToken
  above : ∀ path, path <+: w.repositoryRoot.dropLast → d.isSymlink path = false

/-- Nothing on the disk is of the preparation: neither its staging directory nor its marker is there. -/
structure Foreign (w : MissionWorkspace) (d : Disk) : Prop where
  staging : ∀ path ∈ d.entries, ¬ stagingRoot w <+: path
  marker : ∀ admin registration, d.registrations.lookup admin = some registration →
    registration.owner ≠ some w.preparationToken ∧ registration.gitdir ≠ stagingCheckout w ++ [".git"]

structure Stage.At (w : MissionWorkspace) (d : Disk) (stage : Stage) : Prop where
  beside : Beside w d
  foreign : Foreign w d
  target : stage.arrived = true → w.worktreePath ∉ d.entries
  admin : ∀ admin, stage.admin = some admin → admin ∉ d.registrations ∧ w.gitCommonDir ++ ["worktrees"] <+: admin

section Paths

variable {w : MissionWorkspace} {d : Disk}

theorem target_not_staging (h : Beside w d) : ¬ stagingRoot w <+: w.worktreePath := by
  obtain ⟨name, htarget, hname⟩ := h.target
  rw [htarget, stagingRoot, stagingRootFor, prefix_append_right_inj, cons_prefix_cons]
  exact fun hpre => hname hpre.1.symm

theorem staging_prefix_owner (w : MissionWorkspace) : stagingRoot w <+: stagingOwner w := prefix_append _ _

theorem staging_prefix_checkout (w : MissionWorkspace) : stagingRoot w <+: stagingCheckout w := prefix_append _ _

theorem target_ne_root (h : Beside w d) : w.worktreePath ≠ stagingRoot w := fun heq =>
  target_not_staging h (heq ▸ prefix_rfl)

theorem target_ne_owner (h : Beside w d) : w.worktreePath ≠ stagingOwner w := fun heq =>
  target_not_staging h (heq ▸ staging_prefix_owner w)

theorem target_ne_checkout (h : Beside w d) : w.worktreePath ≠ stagingCheckout w := fun heq =>
  target_not_staging h (heq ▸ staging_prefix_checkout w)

theorem root_ne_owner (w : MissionWorkspace) : stagingRoot w ≠ stagingOwner w := by
  simp [stagingOwner]

theorem root_ne_checkout (w : MissionWorkspace) : stagingRoot w ≠ stagingCheckout w := by
  simp [stagingCheckout]

theorem owner_ne_checkout (w : MissionWorkspace) : stagingOwner w ≠ stagingCheckout w := by
  simp [stagingOwner, stagingCheckout]

theorem not_mem_of_staging (h : Foreign w d) {path : Path} (hpath : stagingRoot w <+: path) : path ∉ d.entries := fun hmem =>
  h.staging path hmem hpath

end Paths

/-! ## What a stage shows -/

section Lookups

variable {w : MissionWorkspace} {d : Disk} {stage : Stage} {admin : Path}

theorem lookup_root (h : stage.At w d) : (stage.layout w d).entries.lookup (stagingRoot w) = match stage with
    | .clean | .placed _ => none
    | _ => some .directory := by
  have hnone : d.entries.lookup (stagingRoot w) = none := Finmap.lookup_eq_none.2 (not_mem_of_staging h.foreign prefix_rfl)
  have htarget := (target_ne_root h.beside).symm
  cases stage <;> simp only [Stage.layout, Stage.entries]
  · exact hnone
  · exact Finmap.lookup_insert _
  · rw [Finmap.lookup_insert_of_ne _ (root_ne_owner w), Finmap.lookup_insert]
  · rw [Finmap.lookup_insert_of_ne _ (root_ne_checkout w), Finmap.lookup_insert_of_ne _ (root_ne_owner w), Finmap.lookup_insert]
  · rw [Finmap.lookup_insert_of_ne _ (root_ne_checkout w), Finmap.lookup_insert_of_ne _ (root_ne_owner w), Finmap.lookup_insert]
  · rw [Finmap.lookup_insert_of_ne _ htarget, Finmap.lookup_insert_of_ne _ (root_ne_owner w), Finmap.lookup_insert]
  · rw [Finmap.lookup_insert_of_ne _ htarget, Finmap.lookup_insert]
  · rw [Finmap.lookup_insert_of_ne _ htarget, hnone]

theorem lookup_owner (h : stage.At w d) : (stage.layout w d).entries.lookup (stagingOwner w) = match stage with
    | .owned | .added _ | .marked _ | .moved _ => some (.file w.preparationToken)
    | _ => none := by
  have hnone : d.entries.lookup (stagingOwner w) = none :=
    Finmap.lookup_eq_none.2 (not_mem_of_staging h.foreign (staging_prefix_owner w))
  have htarget := (target_ne_owner h.beside).symm
  have hroot := (root_ne_owner w).symm
  cases stage <;> simp only [Stage.layout, Stage.entries]
  · exact hnone
  · rw [Finmap.lookup_insert_of_ne _ hroot, hnone]
  · exact Finmap.lookup_insert _
  · rw [Finmap.lookup_insert_of_ne _ (owner_ne_checkout w), Finmap.lookup_insert]
  · rw [Finmap.lookup_insert_of_ne _ (owner_ne_checkout w), Finmap.lookup_insert]
  · rw [Finmap.lookup_insert_of_ne _ htarget, Finmap.lookup_insert]
  · rw [Finmap.lookup_insert_of_ne _ htarget, Finmap.lookup_insert_of_ne _ hroot, hnone]
  · rw [Finmap.lookup_insert_of_ne _ htarget, hnone]

theorem lookup_checkout (h : stage.At w d) : (stage.layout w d).entries.lookup (stagingCheckout w) = match stage with
    | .added admin | .marked admin => some (ownEntry w admin)
    | _ => none := by
  have hnone : d.entries.lookup (stagingCheckout w) = none :=
    Finmap.lookup_eq_none.2 (not_mem_of_staging h.foreign (staging_prefix_checkout w))
  have htarget := (target_ne_checkout h.beside).symm
  have hroot := (root_ne_checkout w).symm
  have howner := (owner_ne_checkout w).symm
  cases stage <;> simp only [Stage.layout, Stage.entries]
  · exact hnone
  · rw [Finmap.lookup_insert_of_ne _ hroot, hnone]
  · rw [Finmap.lookup_insert_of_ne _ howner, Finmap.lookup_insert_of_ne _ hroot, hnone]
  · exact Finmap.lookup_insert _
  · exact Finmap.lookup_insert _
  · rw [Finmap.lookup_insert_of_ne _ htarget, Finmap.lookup_insert_of_ne _ howner, Finmap.lookup_insert_of_ne _ hroot, hnone]
  · rw [Finmap.lookup_insert_of_ne _ htarget, Finmap.lookup_insert_of_ne _ hroot, hnone]
  · rw [Finmap.lookup_insert_of_ne _ htarget, hnone]

theorem lookup_other {path : Path} (hstaging : ¬ stagingRoot w <+: path) (htarget : stage.arrived = true → path ≠ w.worktreePath) :
    (stage.layout w d).entries.lookup path = d.entries.lookup path := by
  have hroot : path ≠ stagingRoot w := fun heq => hstaging (heq ▸ prefix_rfl)
  have howner : path ≠ stagingOwner w := fun heq => hstaging (heq ▸ staging_prefix_owner w)
  have hcheckout : path ≠ stagingCheckout w := fun heq => hstaging (heq ▸ staging_prefix_checkout w)
  cases stage <;> simp [Stage.layout, Stage.entries]
  · rw [Finmap.lookup_insert_of_ne _ hroot]
  · rw [Finmap.lookup_insert_of_ne _ howner, Finmap.lookup_insert_of_ne _ hroot]
  · rw [Finmap.lookup_insert_of_ne _ hcheckout, Finmap.lookup_insert_of_ne _ howner, Finmap.lookup_insert_of_ne _ hroot]
  · rw [Finmap.lookup_insert_of_ne _ hcheckout, Finmap.lookup_insert_of_ne _ howner, Finmap.lookup_insert_of_ne _ hroot]
  · rw [Finmap.lookup_insert_of_ne _ (htarget rfl), Finmap.lookup_insert_of_ne _ howner, Finmap.lookup_insert_of_ne _ hroot]
  · rw [Finmap.lookup_insert_of_ne _ (htarget rfl), Finmap.lookup_insert_of_ne _ hroot]
  · rw [Finmap.lookup_insert_of_ne _ (htarget rfl)]

theorem lookup_target (h : stage.At w d) (hadmin : stage.admin = some admin) (harrived : stage.arrived = true) :
    (stage.layout w d).entries.lookup w.worktreePath = some (ownEntry w admin) := by
  cases stage <;> cases harrived <;> cases hadmin <;> exact Finmap.lookup_insert _

theorem lookup_admin (hadmin : stage.admin = some admin) : (stage.layout w d).registrations.lookup admin = match stage with
    | .added _ => some ⟨stagingCheckout w ++ [".git"], none, .branch w.branch⟩
    | .marked _ => some ⟨stagingCheckout w ++ [".git"], some w.preparationToken, .branch w.branch⟩
    | .moved _ | .leaving _ | .placed _ => some ⟨w.worktreePath ++ [".git"], some w.preparationToken, .branch w.branch⟩
    | _ => none := by
  cases stage <;> cases hadmin <;> exact Finmap.lookup_insert _

theorem lookup_other_admin {other : Path} (hother : stage.admin ≠ some other) :
    (stage.layout w d).registrations.lookup other = d.registrations.lookup other := by
  cases stage <;> first | rfl | exact Finmap.lookup_insert_of_ne _ fun heq => hother (by rw [heq]; rfl)

end Lookups

/-! ## What the checks find -/

section Checks

variable {w : MissionWorkspace} {d : Disk} {stage : Stage} {admin : Path}

variable {path : Path}

theorem isSymlink_of_lookup {entry : Entry} (h : d.entries.lookup path = some entry)
    (hentry : ∀ dangling, entry ≠ .symlink dangling) : d.isSymlink path = false := by
  rw [Disk.isSymlink, h]
  cases entry with
  | symlink dangling => exact absurd rfl (hentry dangling)
  | directory => rfl
  | file text => rfl
  | checkout => rfl

theorem isSymlink_above (h : stage.At w d) (hpath : path <+: w.repositoryRoot.dropLast) :
    (stage.layout w d).isSymlink path = false := by
  have hlength := hpath.length_le
  have hother : (stage.layout w d).entries.lookup path = d.entries.lookup path := by
    refine lookup_other (fun hpre => ?_) fun _ heq => ?_
    · have hlonger := hpre.length_le
      rw [stagingRoot, stagingRootFor, length_append, length_singleton] at hlonger
      omega
    · obtain ⟨name, htarget, -⟩ := h.beside.target
      rw [heq, htarget, length_append, length_singleton] at hlength
      omega
  rw [Disk.isSymlink, hother, ← Disk.isSymlink]
  exact h.beside.above path hpath

theorem canonical_iff : d.canonical path = true ↔
    d.pathOccupied path = true ∧ ∀ above, above <+: path → d.isSymlink above = false := by
  simp [Disk.canonical]

theorem prefix_concat {α : Type} {l m : List α} {x : α} (h : l <+: m ++ [x]) : l <+: m ∨ l = m ++ [x] := by
  rw [prefix_concat_iff] at h
  exact h.symm

theorem canonical_target (h : stage.At w d) (hadmin : stage.admin = some admin) (harrived : stage.arrived = true) :
    (stage.layout w d).canonical w.worktreePath = true := by
  have hlookup := lookup_target h hadmin harrived
  refine canonical_iff.2 ⟨by rw [Disk.pathOccupied, hlookup]; rfl, fun above habove => ?_⟩
  obtain ⟨name, htarget, -⟩ := h.beside.target
  rw [htarget] at habove
  obtain habove | rfl := prefix_concat habove
  · exact isSymlink_above h habove
  rw [htarget] at hlookup
  exact isSymlink_of_lookup hlookup (by simp [ownEntry])

theorem canonical_checkout (h : stage.At w d) (hadmin : stage.admin = some admin) (harrived : stage.arrived = false) :
    (stage.layout w d).canonical (stagingCheckout w) = true := by
  have hcheckout : (stage.layout w d).entries.lookup (stagingCheckout w) = some (ownEntry w admin) := by
    rw [lookup_checkout h]
    cases stage <;> cases harrived <;> cases hadmin <;> rfl
  have hroot : (stage.layout w d).entries.lookup (stagingRoot w) = some .directory := by
    rw [lookup_root h]
    cases stage <;> cases harrived <;> cases hadmin <;> rfl
  refine canonical_iff.2 ⟨by rw [Disk.pathOccupied, hcheckout]; rfl, fun above habove => ?_⟩
  rw [stagingCheckout] at habove
  obtain habove | rfl := prefix_concat habove
  · rw [stagingRoot, stagingRootFor] at habove
    obtain habove | rfl := prefix_concat habove
    · exact isSymlink_above h habove
    · exact isSymlink_of_lookup hroot (by simp)
  · exact isSymlink_of_lookup hcheckout (by simp [ownEntry])

theorem verifyTree_ok {path admin : Path} {registration : Registration} {modified requireMarker : Bool}
    (hcanonical : d.canonical path = true) (hentry : d.entries.lookup path = some (.checkout w.gitCommonDir admin modified))
    (hadmin : w.gitCommonDir ++ ["worktrees"] <+: admin) (hregistration : d.registrations.lookup admin = some registration)
    (hgitdir : registration.gitdir = path ++ [".git"])
    (hmarker : requireMarker = true → registration.owner = some w.preparationToken) :
    verifyTree d path w requireMarker = .ok admin := by
  have howner : (!requireMarker || decide (registration.owner = some w.preparationToken)) = true := by
    cases requireMarker with
    | false => rfl
    | true => simpa using hmarker rfl
  simp only [verifyTree, hcanonical, hentry, hregistration, hgitdir, hadmin, howner, ensure, decide_true, if_true]
  rfl

theorem marked_of_verifyTree {path admin : Path} (h : verifyTree d path w true = .ok admin) :
    ∃ registration, d.registrations.lookup admin = some registration ∧ registration.gitdir = path ++ [".git"] ∧
      registration.owner = some w.preparationToken := by
  simp only [verifyTree, ensure] at h
  split at h
  · split at h
    · split at h
      · split at h
        · split at h
          · cases h
          next registration hregistration =>
          split at h
          · next hgitdir =>
            split at h
            · next howner =>
              have hsame : admin = _ := (Except.ok.inj h).symm
              exact ⟨registration, hsame ▸ hregistration, by simpa using hgitdir, by simpa using howner⟩
            · cases h
          · cases h
        · cases h
      · cases h
    · cases h
  · cases h

theorem verifyTree_target (h : stage.At w d) (hadmin : stage.admin = some admin) (harrived : stage.arrived = true) :
    verifyTree (stage.layout w d) w.worktreePath w true = .ok admin := by
  refine @verifyTree_ok w _ _ _ ⟨w.worktreePath ++ [".git"], some w.preparationToken, .branch w.branch⟩ false true
    (canonical_target h hadmin harrived) (lookup_target h hadmin harrived) (h.admin admin hadmin).2 ?_ rfl fun _ => rfl
  rw [lookup_admin hadmin]
  cases stage <;> cases harrived <;> rfl

theorem verifyTree_in_the_way (h : stage.At w d) (harrived : stage.arrived = false) :
    ∃ failure, verifyTree (stage.layout w d) w.worktreePath w true = .error failure := by
  cases hverified : verifyTree (stage.layout w d) w.worktreePath w true with
  | error failure => exact ⟨failure, rfl⟩
  | ok found =>
    exfalso
    obtain ⟨registration, hregistration, hgitdir, howner⟩ := marked_of_verifyTree hverified
    by_cases hown : stage.admin = some found
    · -- a link that points to the new administrative directory is not the one that the directory is for
      have hcheckout : registration.gitdir = stagingCheckout w ++ [".git"] := by
        rw [lookup_admin hown] at hregistration
        cases stage <;> cases harrived <;> cases hown <;> exact (Option.some.inj hregistration) ▸ rfl
      have heq := append_cancel_right (hgitdir.symm.trans hcheckout)
      exact target_ne_checkout h.beside heq
    · rw [lookup_other_admin hown] at hregistration
      exact (h.foreign.marker found registration hregistration).1 howner

theorem checkout_registered (h : stage.At w d) (hadmin : stage.admin = some admin) (harrived : stage.arrived = false) :
    (stage.layout w d).entries.lookup (stagingCheckout w) = some (ownEntry w admin) ∧ ∃ registration,
      (stage.layout w d).registrations.lookup admin = some registration ∧
        registration.gitdir = stagingCheckout w ++ [".git"] := by
  rw [lookup_checkout h, lookup_admin hadmin]
  cases stage <;> cases harrived <;> cases hadmin <;> exact ⟨rfl, _, rfl, rfl⟩

theorem verifyTree_checkout (h : stage.At w d) (hadmin : stage.admin = some admin) (harrived : stage.arrived = false) :
    verifyTree (stage.layout w d) (stagingCheckout w) w false = .ok admin := by
  obtain ⟨hentry, registration, hregistration, hgitdir⟩ := checkout_registered h hadmin harrived
  exact verifyTree_ok (canonical_checkout h hadmin harrived) hentry (h.admin admin hadmin).2 hregistration hgitdir
    nofun

theorem not_symlink_root (h : stage.At w d) : (stage.layout w d).isSymlink (stagingRoot w) = false := by
  rw [Disk.isSymlink, lookup_root h]
  cases stage <;> rfl

theorem verifyStagingOwner_ok (h : stage.At w d)
    (howner : (stage.layout w d).entries.lookup (stagingOwner w) = some (.file w.preparationToken)) :
    verifyStagingOwner (stage.layout w d) w = .ok () := by
  simp only [verifyStagingOwner, not_symlink_root h, Disk.readToString, howner, ensure, orFailed, Bool.not_false, if_true]
  exact if_pos (decide_eq_true rfl)

theorem verifyStagingOwner_error (h : stage.At w d) (howner : (stage.layout w d).entries.lookup (stagingOwner w) = none) :
    ∃ message, verifyStagingOwner (stage.layout w d) w = .error (.failed message) := by
  refine ⟨"No such file or directory (os error 2)", ?_⟩
  simp only [verifyStagingOwner, not_symlink_root h, Disk.readToString, howner, ensure, orFailed, Bool.not_false, if_true]
  rfl

theorem pathOccupied_root (h : stage.At w d) : (stage.layout w d).pathOccupied (stagingRoot w) = match stage with
    | .clean | .placed _ => false
    | _ => true := by
  rw [Disk.pathOccupied, lookup_root h]
  cases stage <;> rfl

theorem pathExists_root (h : stage.At w d) : (stage.layout w d).pathExists (stagingRoot w) = match stage with
    | .clean | .placed _ => false
    | _ => true := by
  rw [Disk.pathExists, lookup_root h]
  cases stage <;> rfl

theorem pathOccupied_checkout (h : stage.At w d) : (stage.layout w d).pathOccupied (stagingCheckout w) = match stage with
    | .added _ | .marked _ => true
    | _ => false := by
  rw [Disk.pathOccupied, lookup_checkout h]
  cases stage <;> rfl

theorem pathExists_checkout (h : stage.At w d) : (stage.layout w d).pathExists (stagingCheckout w) = match stage with
    | .added _ | .marked _ => true
    | _ => false := by
  rw [Disk.pathExists, lookup_checkout h]
  cases stage <;> rfl

theorem pathOccupied_target (h : stage.At w d) (harrived : stage.arrived = false) :
    (stage.layout w d).pathOccupied w.worktreePath = d.pathOccupied w.worktreePath := by
  rw [Disk.pathOccupied, lookup_other (target_not_staging h.beside) (by simp [harrived]), Disk.pathOccupied]

theorem pathOccupied_arrived (h : stage.At w d) (harrived : stage.arrived = true) :
    (stage.layout w d).pathOccupied w.worktreePath = true := by
  obtain ⟨admin, hadmin⟩ : ∃ admin, stage.admin = some admin := by
    cases stage <;> cases harrived <;> exact ⟨_, rfl⟩
  rw [Disk.pathOccupied, lookup_target h hadmin harrived]
  rfl

theorem registered_other (h : stage.At w d) (harrived : stage.arrived = false) (hpath : path ≠ stagingCheckout w) :
    (stage.layout w d).registered path = d.registered path := by
  rw [Bool.eq_iff_iff, Disk.registered_iff, Disk.registered_iff]
  constructor
  · rintro ⟨found, registration, hlookup, hgitdir⟩
    by_cases hown : stage.admin = some found
    · exfalso
      have hcheckout : registration.gitdir = stagingCheckout w ++ [".git"] := by
        rw [lookup_admin hown] at hlookup
        cases stage <;> cases harrived <;> cases hown <;> exact (Option.some.inj hlookup) ▸ rfl
      exact hpath (append_cancel_right (hgitdir.symm.trans hcheckout))
    · exact ⟨found, registration, (lookup_other_admin hown).symm.trans hlookup, hgitdir⟩
  · rintro ⟨found, registration, hlookup, hgitdir⟩
    have hown : stage.admin ≠ some found := fun hown =>
      (h.admin found hown).1 (Finmap.mem_of_lookup_eq_some hlookup)
    exact ⟨found, registration, (lookup_other_admin hown).trans hlookup, hgitdir⟩

end Checks

end Rovai.Mission
