import RovaiCore.AuthorityLayout
/-!
# Recovery never mixes the old and the new database

The writer keeps to the states that `LeftBehind` lists, and so does every recovery.
-/
namespace Rovai.Authority

open Fallible
open List
open Procedure (Completes)

variable {host : Host} {d₀ : Disk} {m : AuthorityMigrationManifest}

/-! ## Rules for the steps -/

section
variable {I P : Disk → Prop} {Q : Unit → Disk → Prop}

theorem completes_change {f : Disk → Option Disk} {error : MigrationError}
    (h : ∀ d, P d → ∃ d', f d = some d' ∧ I d' ∧ Q () d') : Completes I P (change f error) Q := by
  refine Completes.act fun d hd => ?_
  obtain ⟨d', hf, hrest⟩ := h d hd
  exact ⟨d', by rw [hf]; rfl, hrest⟩

theorem completes_observeIdentity {path : Path} {f : Option AuthorityArtifactIdentityToken → Switch Unit}
    (hnone : Completes I (fun d => P d ∧ d.files.lookup path = none) (f none) Q)
    (hsome : ∀ g, Completes I (fun d => P d ∧ d.files.lookup path = some g) (f (some (identityToken host.platform g))) Q) :
    Completes I P (observeIdentity host path >>= f) Q := by
  refine Completes.ask_bind fun o => ?_
  rintro d ⟨hd, rfl⟩
  rw [Disk.observeAuthorityIdentityToken]
  cases hlookup : d.files.lookup path with
  | none => exact hnone d ⟨hd, hlookup⟩
  | some g => exact hsome g d ⟨hd, hlookup⟩

theorem completes_attempt {p : Switch Unit} (h : Completes I P p Q) :
    Completes I P (Procedure.attempt p : Switch (Except MigrationError Unit)) fun r d => r = .ok () ∧ Q () d := by
  intro d hd
  obtain ⟨hleft, u, hresult, hq⟩ := h d hd
  exact ⟨hleft, _, rfl, hresult, hq⟩

end

/-! ## Recovery before the publication -/

/-- The writer's directory while its manifest is there and the copy is not published. -/
def Interrupted (d₀ : Disk) (m : AuthorityMigrationManifest) (d : Disk) : Prop :=
  (∃ stage, d.manifest = some { m with stage := stage }) ∧ Unpublished d₀ m d

variable {d : Disk}

theorem Interrupted.leftBehind (h : Interrupted d₀ m d) : LeftBehind d₀ m d := by
  obtain ⟨⟨stage, hmanifest⟩, h⟩ := h
  exact .unpublished stage hmanifest h

def Restoring (d₀ : Disk) (m : AuthorityMigrationManifest) (rest : List MigrationManifestArtifact) (d : Disk) : Prop :=
  Interrupted d₀ m d ∧ ∀ kind ∈ m.kinds, kind ∉ rest.map MigrationManifestArtifact.kind → InPlace d₀ m d kind

variable {artifact : MigrationManifestArtifact}

theorem Restoring.next {rest : List MigrationManifestArtifact}
    (h : Restoring d₀ m (artifact :: rest) d) (hplace : InPlace d₀ m d artifact.kind) : Restoring d₀ m rest d := by
  refine ⟨h.1, fun kind hkind hrest => ?_⟩
  by_cases hsame : kind = artifact.kind
  · subst hsame
    exact hplace
  · exact h.2 kind hkind (by rw [map_cons, mem_cons, not_or]; exact ⟨hsame, hrest⟩)

theorem sidecar_matches (hprepared : Prepared host d₀ m) (hartifact : artifact ∈ m.sidecars) {p : Path} {g : File}
    (hfile : ∃ f g, d₀.files.lookup (m.original artifact.kind) = some f ∧ d.files.lookup p = some g ∧ SameFile f g)
    (hg : d.files.lookup p = some g) :
    (identityToken host.platform g).matchesLegacyRename host.platform artifact.sourceIdentity = true := by
  obtain ⟨-, -, -, -, f, hf, hidentity⟩ := hprepared.ofSidecar artifact hartifact
  obtain ⟨f', g', hf', hg', hsame⟩ := hfile
  cases hf.symm.trans hf'
  cases hg.symm.trans hg'
  rw [hidentity]
  exact hsame.matchesLegacyRename host.platform

/-- **A sidecar is restored**, or was already. -/
theorem restoreOriginalSidecar_completes (hprepared : Prepared host d₀ m)
    (hartifact : artifact ∈ m.sidecars) (rest : List MigrationManifestArtifact) (stage : MigrationSwitchStage) :
    Completes (LeftBehind d₀ m) (Restoring d₀ m (artifact :: rest))
      (restoreOriginalSidecar host { m with stage := stage } artifact) fun _ => Restoring d₀ m rest := by
  obtain ⟨-, hpath, hname, -⟩ := hprepared.ofSidecar artifact hartifact
  have hkind : artifact.kind ∈ m.kinds := mem_map_of_mem hartifact
  unfold restoreOriginalSidecar
  rw [hpath]
  refine completes_observeIdentity ?_ fun g => ?_
  · -- What is not beside the main file is detached.
    have hout : ∀ d, (Restoring d₀ m (artifact :: rest) d ∧ d.files.lookup (m.original artifact.kind) = none) →
        IsDetached d₀ m d artifact.kind := by
      rintro d ⟨hrestoring, hnone⟩
      obtain hplace | hdetached := hrestoring.1.2.sidecar _ hkind
      · obtain ⟨-, g, -, hg, -⟩ := hplace.file
        cases hnone.symm.trans hg
      · exact hdetached
    dsimp only
    unfold restoreDetached detachedPath
    rw [hname, hpath]
    refine Completes.pure_bind (@completes_observeIdentity host _ _ _ (m.detached artifact.kind) _ ?_ fun g => ?_)
    · refine Completes.absurd fun d hd => ?_
      obtain ⟨-, g, -, hg, -⟩ := (hout d hd.1).file
      cases hd.2.symm.trans hg
    refine Completes.of_pre (fun d hd => sidecar_matches hprepared hartifact (hout d hd.1).file hd.2) fun hmatch => ?_
    dsimp only
    rw [if_pos hmatch]
    refine completes_change fun d hd => ?_
    obtain ⟨d', hrename, hmanifest, hplace, hmoved⟩ := @IsDetached.restore m host _ _ _ (hout d hd.1)
    have hinterrupted : Interrupted d₀ m d' :=
      ⟨by rw [hmanifest]; exact hd.1.1.1.1, hd.1.1.1.2.of_moved hprepared hkind hmoved (.inl hplace)⟩
    refine ⟨d', hrename, hinterrupted.leftBehind, hinterrupted, fun kind hkind' hrest => ?_⟩
    by_cases hsame : kind = artifact.kind
    · subst hsame
      exact hplace
    · exact (hd.1.1.2 kind hkind' (by rw [map_cons, mem_cons, not_or]; exact ⟨hsame, hrest⟩)).of_moved hsame hmoved
  · have hin : ∀ d, Restoring d₀ m (artifact :: rest) d ∧ d.files.lookup (m.original artifact.kind) = some g →
        InPlace d₀ m d artifact.kind := by
      rintro d ⟨hrestoring, hg⟩
      obtain hplace | hdetached := hrestoring.1.2.sidecar _ hkind
      · exact hplace
      · cases hdetached.notInPlace.symm.trans hg
    refine Completes.of_pre (fun d hd => sidecar_matches hprepared hartifact (hin d hd).file hd.2) fun hmatch => ?_
    dsimp only
    rw [if_pos hmatch]
    exact Completes.pure fun d hd => hd.1.next (hin d hd)

theorem restoreOriginalSidecars_completes (hprepared : Prepared host d₀ m) (stage : MigrationSwitchStage) :
    Completes (LeftBehind d₀ m) (Interrupted d₀ m) (restoreOriginalSidecars host { m with stage := stage })
      fun _ => Restoring d₀ m [] := by
  refine Completes.mono (Completes.forM (J := Restoring d₀ m) m.sidecars fun artifact rest hsuffix => ?_) ?_ fun _ _ h => h
  · exact restoreOriginalSidecar_completes hprepared (hsuffix.subset mem_cons_self) rest stage
  · exact fun d hd => ⟨hd, fun kind hkind hrest => absurd hkind hrest⟩

/-- **The copy that was not published goes last.** -/
theorem removeStaging_completes (hprepared : Prepared host d₀ m) :
    Completes (LeftBehind d₀ m) (Restoring d₀ m []) (removeGeneratedFileIfIdentity host m.staging m.migratedMainIdentity)
      fun _ d => (∃ stage, d.manifest = some { m with stage := stage }) ∧ Restored d₀ m d := by
  obtain ⟨f, hf, hidentity⟩ := hprepared.staging
  unfold removeGeneratedFileIfIdentity
  refine completes_observeIdentity ?_ fun g => ?_
  · exact Completes.pure fun d hd => ⟨hd.1.1.1, hd.1.1.2, hd.2, fun kind hkind => hd.1.2 kind hkind (by simp)⟩
  have hcopy : ∀ d, (Restoring d₀ m [] d ∧ d.files.lookup m.staging = some g) → identityToken host.platform g = m.migratedMainIdentity := by
    rintro d ⟨hrestoring, hg⟩
    obtain hsame | hgone := hrestoring.1.2.staging
    · cases (hsame.trans hf).symm.trans hg
      exact hidentity.symm
    · cases hgone.symm.trans hg
  refine Completes.of_pre hcopy fun hmatch => ?_
  dsimp only
  rw [if_pos hmatch]
  refine completes_change fun d hd => ?_
  have hgone : (d.remove m.staging).files.lookup m.staging = none := Finmap.lookup_erase _ _
  have hother : ∀ p, p ≠ m.staging → (d.remove m.staging).files.lookup p = d.files.lookup p := fun p hp => Finmap.lookup_erase_ne hp
  have hin : ∀ kind ∈ m.kinds, InPlace d₀ m (d.remove m.staging) kind := by
    intro kind hkind
    have hplace := hd.1.2 kind hkind (by simp)
    exact ⟨by rw [hother _ (hprepared.staging_ne kind).symm]; exact hplace.file,
      by rw [hother _ (detached_ne_data kind _)]; exact hplace.notDetached⟩
  have hrestored : Restored d₀ m (d.remove m.staging) := by
    refine ⟨⟨?_, .inr hgone, fun kind hkind => .inl (hin kind hkind), fun p hp => ?_⟩, hgone, hin⟩
    · rw [hother _ (hprepared.staging_ne .main).symm]
      exact hd.1.1.2.main
    · rw [hother _ hp.notStaging]
      exact hd.1.1.2.aside p hp
  obtain ⟨stage, hmanifest⟩ := hd.1.1.1
  refine ⟨d.remove m.staging, ?_, .unpublished stage hmanifest hrestored.toUnpublished, ⟨stage, hmanifest⟩, hrestored⟩
  rw [Disk.removeFile, hd.2]
  rfl

/-! ## Recovery after the publication -/

def Switched (d₀ : Disk) (m : AuthorityMigrationManifest) (d : Disk) : Prop :=
  (∃ stage, d.manifest = some { m with stage := stage }) ∧ Published d₀ m d

theorem preserveStrayOriginalSidecars_completes (hprepared : Prepared host d₀ m) (stage : MigrationSwitchStage) :
    Completes (LeftBehind d₀ m) (Switched d₀ m) (preserveStrayOriginalSidecars host { m with stage := stage })
      fun _ => Switched d₀ m := by
  refine Completes.forM (J := fun _ => Switched d₀ m) m.sidecars fun artifact rest hsuffix => ?_
  have hartifact : artifact ∈ m.sidecars := hsuffix.subset mem_cons_self
  obtain ⟨-, hpath, -⟩ := hprepared.ofSidecar artifact hartifact
  unfold preserveStrayOriginalSidecar
  rw [hpath]
  refine completes_observeIdentity (Completes.pure fun d hd => hd.1) fun g => Completes.absurd fun d hd => ?_
  cases (hd.1.2.sidecar _ (mem_map_of_mem hartifact)).notInPlace.symm.trans hd.2

/-! ## A recovery -/

theorem validateManifestPaths_completes (hprepared : Prepared host d₀ m) (stage : MigrationSwitchStage)
    {I P : Disk → Prop} : Completes I P (validateManifestPaths host.platform { m with stage := stage }) fun _ => P := by
  unfold validateManifestPaths
  rw [if_neg, if_neg]
  · exact Completes.pure fun d hd => hd
  · rw [Bool.not_eq_true]
    exact hprepared.artifactPaths
  · rw [Bool.not_eq_true]
    exact hprepared.mainPath

def Settled (d₀ : Disk) (m : AuthorityMigrationManifest) (d : Disk) : Prop :=
  (∃ stage, d.manifest = some { m with stage := stage }) ∧ (Restored d₀ m d ∨ Published d₀ m d)

theorem settleInterruptedSwitch_completes (hprepared : Prepared host d₀ m) (stage : MigrationSwitchStage) :
    Completes (LeftBehind d₀ m) (fun d => Interrupted d₀ m d ∨ Switched d₀ m d)
      (settleInterruptedSwitch host { m with stage := stage }) fun _ => Settled d₀ m := by
  obtain ⟨f, hf, hmain⟩ := hprepared.main
  obtain ⟨g, hg, hmigrated⟩ := hprepared.staging
  unfold settleInterruptedSwitch
  change Completes _ _ (observeIdentity host m.source >>= _) _
  rw [hprepared.source]
  -- The main file decides: the original by its very token, the copy by the token that a rename may have changed.
  have hswitched : ∀ {d g'}, Switched d₀ m d → d.files.lookup (m.original .main) = some g' →
      identityToken host.platform g' ≠ m.sourceMainIdentity ∧
        (identityToken host.platform g').matchesLegacyRename host.platform m.migratedMainIdentity = true := by
    intro d g' hd hg'
    obtain ⟨_, _, hg₀, hh, hsame⟩ := hd.2.main
    cases hg.symm.trans hg₀
    cases hh.symm.trans hg'
    rw [hmain, hmigrated]
    refine ⟨identityToken_ne (fun hobject => ?_) host.platform, hsame.matchesLegacyRename host.platform⟩
    exact hprepared.staging_ne .main (d₀.objects hg hf (hsame.object.symm.trans hobject))
  refine completes_observeIdentity (Completes.absurd ?_) fun g' => ?_
  · rintro d ⟨h | h, hnone⟩
    · cases hnone.symm.trans (h.2.main.trans hf)
    · obtain ⟨_, _, -, hh, -⟩ := h.2.main
      cases hnone.symm.trans hh
  dsimp only
  by_cases hcurrent : identityToken host.platform g' = m.sourceMainIdentity
  · rw [if_pos hcurrent]
    refine Completes.mono (Completes.bind (restoreOriginalSidecars_completes hprepared stage) fun _ =>
      (removeStaging_completes hprepared).mono (fun d hd => hd) fun _ d hd => ⟨hd.1, .inl hd.2⟩) ?_ fun _ _ h => h
    rintro d ⟨h | h, hg'⟩
    · exact h
    · exact absurd hcurrent (hswitched h hg').1
  · rw [if_neg hcurrent]
    have hp : ∀ d, ((Interrupted d₀ m d ∨ Switched d₀ m d) ∧ d.files.lookup (m.original .main) = some g') → Switched d₀ m d := by
      rintro d ⟨h | h, hg'⟩
      · cases (h.2.main.trans hf).symm.trans hg'
        exact absurd hmain.symm hcurrent
      · exact h
    refine Completes.of_pre (fun d hd => (hswitched (hp d hd) hd.2).2) fun hmatch => ?_
    rw [if_pos hmatch]
    exact (preserveStrayOriginalSidecars_completes hprepared stage).mono hp fun _ d hd => ⟨hd.1, .inr hd.2⟩

/-- The manifest is gone, and the directory holds the original database or the migrated one. -/
def Recovered (d₀ : Disk) (m : AuthorityMigrationManifest) (d : Disk) : Prop :=
  d.manifest = none ∧ (Restored d₀ m d ∨ Published d₀ m d)

theorem Recovered.leftBehind (h : Recovered d₀ m d) : LeftBehind d₀ m d := by
  obtain ⟨hmanifest, h | h⟩ := h
  · exact .restored hmanifest h
  · exact .migrated hmanifest h

theorem removeManifest_completes {P : Disk → Prop} (code operation : String) (hp : ∀ d, P d → Settled d₀ m d) :
    Completes (LeftBehind d₀ m) P (removeManifest code operation) fun _ => Recovered d₀ m := by
  refine completes_change fun d hd => ?_
  obtain ⟨⟨stage, hmanifest⟩, h⟩ := hp d hd
  have hrecovered : Recovered d₀ m { d with manifest := none } := by
    refine ⟨rfl, ?_⟩
    obtain h | h := h
    · exact .inl (h.of_files rfl)
    · exact .inr (h.of_files rfl)
  refine ⟨_, ?_, hrecovered.leftBehind, hrecovered⟩
  rw [hmanifest]
  rfl

/-- **A start from what was left behind ends without an error**, with one database and no manifest. -/
theorem startup_completes (hprepared : Prepared host d₀ m) :
    Completes (LeftBehind d₀ m) (LeftBehind d₀ m) (startup host) fun _ => Recovered d₀ m := by
  unfold startup
  refine Completes.ask_bind fun found => ?_
  cases found with
  | false =>
    refine Completes.pure fun d hd => ?_
    obtain ⟨h, hnone⟩ := hd
    cases h with
    | unpublished stage hmanifest => rw [hmanifest] at hnone; cases hnone
    | published stage hmanifest => rw [hmanifest] at hnone; cases hnone
    | restored hmanifest h => exact ⟨hmanifest, .inl h⟩
    | migrated hmanifest h => exact ⟨hmanifest, .inr h⟩
  | true =>
    rw [if_pos rfl]
    unfold recoverInterruptedSwitch
    have hread : Completes (LeftBehind d₀ m) (fun d => LeftBehind d₀ m d ∧ d.manifest.isSome = true) readManifest
        fun m' d => (∃ stage, m' = { m with stage := stage }) ∧ (Interrupted d₀ m d ∨ Switched d₀ m d) := by
      unfold readManifest
      refine Completes.bind (Completes.observe (Q := fun m' d => (∃ stage, m' = { m with stage := stage }) ∧
        (Interrupted d₀ m d ∨ Switched d₀ m d)) fun d hd => ?_) fun m' => ?_
      · obtain ⟨h, hsome⟩ := hd
        cases h with
        | unpublished stage hmanifest h =>
          exact ⟨_, by rw [hmanifest]; rfl, ⟨stage, rfl⟩, .inl ⟨⟨stage, hmanifest⟩, h⟩⟩
        | published stage hmanifest h =>
          exact ⟨_, by rw [hmanifest]; rfl, ⟨stage, rfl⟩, .inr ⟨⟨stage, hmanifest⟩, h⟩⟩
        | restored hmanifest => rw [hmanifest] at hsome; cases hsome
        | migrated hmanifest => rw [hmanifest] at hsome; cases hsome
      · split
        · rename_i hschema
          refine Completes.absurd fun d hd => hschema ?_
          obtain ⟨⟨stage, rfl⟩, -⟩ := hd
          exact hprepared.schemaVersion
        · exact Completes.pure fun d hd => hd
    refine Completes.bind hread fun m' => ?_
    by_cases hm : ∃ stage, m' = { m with stage := stage }
    · obtain ⟨stage, rfl⟩ := hm
      refine Completes.mono (Completes.bind (validateManifestPaths_completes hprepared stage) fun _ =>
        Completes.bind (settleInterruptedSwitch_completes hprepared stage) fun _ => ?_) (fun d hd => hd.2) fun _ _ h => h
      exact removeManifest_completes _ _ fun d hd => hd
    · exact Completes.absurd fun d hd => hm hd.1

end Rovai.Authority
