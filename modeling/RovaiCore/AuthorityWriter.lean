import RovaiCore.AuthorityRecovery
/-!
# The writer of a switch

What the writer has observed and preserved when its manifest is written, and that none of its later steps leaves anything but
what a recovery starts from.
-/
namespace Rovai.Authority

open Fallible
open List
open Procedure (Completes Yields)

variable {host : Host} {d₀ : Disk} {m : AuthorityMigrationManifest}

/-! ## The switch -/

theorem orRestore_completes {I P : Disk → Prop} {Q : Unit → Disk → Prop} {p : Switch Unit} (h : Completes I P p Q) :
    Completes I P (orRestore host m p) Q := by
  refine Completes.bind (completes_attempt h) fun r => ?_
  cases r with
  | error error => exact Completes.absurd fun d hd => by cases hd.1
  | ok value => exact Completes.pure fun d hd => hd.2

structure Detaching (d₀ : Disk) (m : AuthorityMigrationManifest) (rest : List MigrationManifestArtifact) (d : Disk) : Prop where
  interrupted : Interrupted d₀ m d
  staging : d.files.lookup m.staging = d₀.files.lookup m.staging
  pending : ∀ kind ∈ rest.map MigrationManifestArtifact.kind,
    d.files.lookup (m.original kind) = d₀.files.lookup (m.original kind)
  detached : ∀ kind ∈ m.kinds, kind ∉ rest.map MigrationManifestArtifact.kind → IsDetached d₀ m d kind

theorem Prepared.detaching (h : Prepared host d₀ m) : Detaching d₀ m m.sidecars d₀ := by
  refine ⟨⟨⟨m.stage, h.manifest⟩, rfl, .inl rfl, fun kind hkind => .inl ?_, fun p _ => rfl⟩, rfl, fun kind _ => rfl,
    fun kind hkind hrest => absurd hkind hrest⟩
  obtain ⟨artifact, hartifact, rfl⟩ := mem_map.1 hkind
  obtain ⟨-, -, -, hdetached, f, hf, -⟩ := h.ofSidecar artifact hartifact
  exact ⟨⟨f, f, hf, hf, .refl f⟩, hdetached⟩

theorem detachSourceSidecar_completes (hprepared : Prepared host d₀ m) {artifact : MigrationManifestArtifact}
    {rest : List MigrationManifestArtifact} (hsuffix : artifact :: rest <:+ m.sidecars) :
    Completes (LeftBehind d₀ m) (Detaching d₀ m (artifact :: rest)) (detachSourceSidecar host m artifact)
      fun _ => Detaching d₀ m rest := by
  have hartifact : artifact ∈ m.sidecars := hsuffix.subset mem_cons_self
  have hkind : artifact.kind ∈ m.kinds := mem_map_of_mem hartifact
  have hnotin : artifact.kind ∉ rest.map MigrationManifestArtifact.kind :=
    (nodup_cons.1 ((hsuffix.map MigrationManifestArtifact.kind).sublist.nodup hprepared.nodup)).1
  obtain ⟨-, hpath, hname, -, f, hf, hidentity⟩ := hprepared.ofSidecar artifact hartifact
  unfold detachSourceSidecar
  rw [hpath]
  have hfound : ∀ d, Detaching d₀ m (artifact :: rest) d → d.files.lookup (m.original artifact.kind) = some f := fun d hd =>
    (hd.pending _ (mem_map_of_mem mem_cons_self)).trans hf
  refine completes_observeIdentity (Completes.absurd fun d hd => ?_) fun g => ?_
  · cases hd.2.symm.trans (hfound d hd.1)
  refine Completes.of_pre (A := ¬identityToken host.platform g ≠ artifact.sourceIdentity) (fun d hd => ?_) fun hmatch => ?_
  · cases hd.2.symm.trans (hfound d hd.1)
    exact not_not.2 hidentity.symm
  · dsimp only
    rw [if_neg hmatch]
    unfold detachedPath
    rw [hname]
    refine Completes.pure_bind ?_
    refine completes_change fun d hd => ?_
    have hplace : InPlace d₀ m d artifact.kind := by
      obtain hplace | hdetached := hd.1.interrupted.2.sidecar _ hkind
      · exact hplace
      cases hdetached.notInPlace.symm.trans (hfound d hd.1)
    obtain ⟨d', hrename, hmanifest, hdetached, hmoved⟩ := @InPlace.detach m host _ _ _ hplace
    have hinterrupted : Interrupted d₀ m d' :=
      ⟨by rw [hmanifest]; exact hd.1.interrupted.1, hd.1.interrupted.2.of_moved hprepared hkind hmoved (.inr hdetached)⟩
    refine ⟨d', hrename, hinterrupted.leftBehind, hinterrupted, ?_, fun kind hrest => ?_, fun kind hkind' hrest => ?_⟩
    · rw [hmoved _ (hprepared.staging_ne _) (detached_ne_data _ _).symm]
      exact hd.1.staging
    · have hne : kind ≠ artifact.kind := fun h => hnotin (h ▸ hrest)
      rw [hmoved _ (fun h => hne (original_injective h)) (original_ne_detached _ _)]
      exact hd.1.pending kind (mem_cons_of_mem _ hrest)
    · by_cases hsame : kind = artifact.kind
      · subst hsame
        exact hdetached
      · refine (hd.1.detached kind hkind' ?_).of_moved hsame hmoved
        rw [map_cons, mem_cons, not_or]
        exact ⟨hsame, hrest⟩

theorem detachSourceSidecars_completes (hprepared : Prepared host d₀ m) :
    Completes (LeftBehind d₀ m) (Detaching d₀ m m.sidecars) (detachSourceSidecars host m) fun _ => Detaching d₀ m [] :=
  Completes.forM (J := Detaching d₀ m) m.sidecars fun _ _ hsuffix => detachSourceSidecar_completes hprepared hsuffix

theorem recordStage_completes {P : Disk → Prop} (stage : MigrationSwitchStage) (operation : String)
    (h : ∀ d, P d → LeftBehind d₀ m (d.writeManifest { m with stage := stage }) ∧ P (d.writeManifest { m with stage := stage })) :
    Completes (LeftBehind d₀ m) P (recordStage m stage operation) fun _ => P :=
  completes_change fun d hd => ⟨_, rfl, h d hd⟩

variable {d : Disk}

theorem Detaching.writeManifest {rest : List MigrationManifestArtifact} (h : Detaching d₀ m rest d)
    (stage : MigrationSwitchStage) : Detaching d₀ m rest (d.writeManifest { m with stage := stage }) :=
  ⟨⟨⟨stage, rfl⟩, h.interrupted.2.of_files rfl⟩, h.staging, h.pending, fun kind hkind hrest =>
    (h.detached kind hkind hrest).of_files rfl⟩

theorem Switched.writeManifest (h : Switched d₀ m d) (stage : MigrationSwitchStage) :
    Switched d₀ m (d.writeManifest { m with stage := stage }) :=
  ⟨⟨stage, rfl⟩, h.2.of_files rfl⟩

theorem Switched.leftBehind (h : Switched d₀ m d) : LeftBehind d₀ m d := by
  obtain ⟨⟨stage, hmanifest⟩, h⟩ := h
  exact .published stage hmanifest h

/-- **The publication** puts the copy in the place of the main file, once every sidecar is detached. -/
theorem publishStaging_completes (hprepared : Prepared host d₀ m) :
    Completes (LeftBehind d₀ m) (Detaching d₀ m []) (publishStaging host m) fun _ => Switched d₀ m := by
  obtain ⟨f, hf, -⟩ := hprepared.staging
  unfold publishStaging
  refine Completes.bind (completes_attempt (completes_change (Q := fun _ => Switched d₀ m) fun d hd => ?_)) fun r => ?_
  · obtain ⟨d', hrename, hmanifest, hlookup⟩ :=
      @rename_some host d _ (m.original .main) _ (hd.staging.trans hf)
    rw [hprepared.source]
    have hother : ∀ p, p ≠ m.original .main → p ≠ m.staging → d'.files.lookup p = d.files.lookup p := fun p hp hp' => by
      rw [hlookup, if_neg hp, if_neg hp']
    have hswitched : Switched d₀ m d' := by
      refine ⟨by rw [hmanifest]; exact hd.interrupted.1, ⟨f, _, hf, by rw [hlookup, if_pos rfl], d.sameFile_renamed host f⟩, ?_,
        fun kind hkind => ?_, fun p hp => ?_⟩
      · rw [hlookup, if_neg (hprepared.staging_ne .main), if_pos rfl]
      · have hdetached := hd.detached kind hkind (by simp)
        have horiginal := hother (m.original kind) (fun h => hprepared.kind_ne_main hkind (original_injective h))
          (hprepared.staging_ne kind).symm
        have hbackup := hother (m.detached kind) (original_ne_detached _ _).symm (detached_ne_data kind _)
        exact ⟨by rw [hbackup]; exact hdetached.file, by rw [horiginal]; exact hdetached.notInPlace⟩
      · rw [hother p hp.notMain hp.notStaging]
        exact hd.interrupted.2.aside p hp
    exact ⟨d', hrename, hswitched.leftBehind, hswitched⟩
  · cases r with
    | error error => exact Completes.absurd fun d hd => by cases hd.1
    | ok value => exact Completes.pure fun d hd => hd.2

theorem performSwitch_completes (hprepared : Prepared host d₀ m) :
    Completes (LeftBehind d₀ m) (Detaching d₀ m m.sidecars) (performSwitch host m) fun _ => Recovered d₀ m := by
  unfold performSwitch
  refine Completes.bind (orRestore_completes (detachSourceSidecars_completes hprepared)) fun _ => ?_
  refine Completes.bind (orRestore_completes (recordStage_completes _ _ fun d hd => ?_)) fun _ => ?_
  · exact ⟨(hd.writeManifest _).interrupted.leftBehind, hd.writeManifest _⟩
  refine Completes.bind (publishStaging_completes hprepared) fun _ => ?_
  refine Completes.bind (recordStage_completes _ _ fun d hd => ?_) fun _ => ?_
  · exact ⟨(hd.writeManifest _).leftBehind, hd.writeManifest _⟩
  exact removeManifest_completes _ _ fun d hd => ⟨hd.1, .inr hd.2⟩

theorem switchAuthority_completes (hprepared : Prepared host d₀ m) :
    Completes (LeftBehind d₀ m) (Detaching d₀ m m.sidecars) (switchAuthority host m) fun _ => Recovered d₀ m := by
  refine Completes.bind (completes_attempt (performSwitch_completes hprepared)) fun r => ?_
  cases r with
  | error error => exact Completes.absurd fun d hd => by cases hd.1
  | ok value => exact Completes.pure fun d hd => hd.2

end Rovai.Authority
