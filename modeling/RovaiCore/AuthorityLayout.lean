import RovaiCore.AuthoritySwitch
/-!
# What an interrupted switch leaves behind

Whatever step the writer and the recoveries are cut off at, the original main file is in its place with each of its sidecars
either beside it or detached, or the migrated copy is in its place with every sidecar detached.
-/
namespace Rovai.Authority

/-! ## The paths of a switch -/

namespace AuthorityMigrationManifest

variable (m : AuthorityMigrationManifest)

def original (kind : AuthorityArtifactKind) : Path := ⟨.data, artifactFileName m.authorityNamespace kind⟩

def detached (kind : AuthorityArtifactKind) : Path := m.inBackup ("detached-" ++ artifactKindName kind)

def kinds : List AuthorityArtifactKind := m.sidecars.map MigrationManifestArtifact.kind

end AuthorityMigrationManifest

variable {m : AuthorityMigrationManifest} {host : Host} {d₀ d d' : Disk}

variable {kind kind' : AuthorityArtifactKind}

theorem original_injective (h : m.original kind = m.original kind') : kind = kind' := by
  have hnames : ∀ authority, artifactFileName authority kind = artifactFileName authority kind' → kind = kind' := by
    intro authority
    cases authority <;> cases kind <;> cases kind' <;> decide
  exact hnames _ (congrArg Path.name h)

theorem detached_injective (h : m.detached kind = m.detached kind') : kind = kind' := by
  have hname : "detached-" ++ artifactKindName kind = "detached-" ++ artifactKindName kind' := congrArg Path.name h
  revert hname
  cases kind <;> cases kind' <;> decide

theorem detached_ne_data (kind : AuthorityArtifactKind) (name : String) : m.detached kind ≠ ⟨.data, name⟩ := by
  intro h
  cases congrArg Path.directory h

theorem original_ne_detached (kind kind' : AuthorityArtifactKind) : m.original kind ≠ m.detached kind' :=
  (detached_ne_data kind' _).symm

theorem head?_toList_append {a b c : String} {first : Char} (h : a.toList.head? = some first) :
    (a ++ b ++ c).toList.head? = some first := by
  rw [String.toList_append, String.toList_append, List.append_assoc, List.head?_append, h]
  rfl

theorem staging_ne_original {operationId : Uuid} (h : m.stagingFileName = stagingFileName operationId)
    (kind : AuthorityArtifactKind) : m.staging ≠ m.original kind := by
  intro heq
  have hname : stagingFileName operationId = artifactFileName m.authorityNamespace kind :=
    h.symm.trans (congrArg Path.name heq)
  have hhead : (stagingFileName operationId).toList.head? = some '.' := head?_toList_append (by decide)
  rw [hname] at hhead
  revert hhead
  cases m.authorityNamespace <;> cases kind <;> decide

/-! ## The beginning -/

structure Prepared (host : Host) (d₀ : Disk) (m : AuthorityMigrationManifest) : Prop where
  schemaVersion : m.schemaVersion = 1
  mainPath : invalidMainPath host.platform m = false
  artifactPaths : m.artifacts.any (invalidArtifactPath host.platform) = false
  manifest : d₀.manifest = some m
  source : m.source = m.original .main
  stagingName : ∃ operationId, m.stagingFileName = stagingFileName operationId
  main : ∃ f, d₀.files.lookup (m.original .main) = some f ∧ m.sourceMainIdentity = identityToken host.platform f
  staging : ∃ f, d₀.files.lookup m.staging = some f ∧ m.migratedMainIdentity = identityToken host.platform f
  ofSidecar : ∀ artifact ∈ m.sidecars, artifact.kind ≠ .main ∧ (⟨.data, artifact.sourceFileName⟩ : Path) = m.original artifact.kind ∧
    artifact.detachedFileName = some ("detached-" ++ artifactKindName artifact.kind) ∧
    d₀.files.lookup (m.detached artifact.kind) = none ∧
    ∃ f, d₀.files.lookup (m.original artifact.kind) = some f ∧ artifact.sourceIdentity = identityToken host.platform f
  absent : ∀ kind, kind ≠ .main → kind ∉ m.kinds → d₀.files.lookup (m.original kind) = none
  nodup : m.kinds.Nodup

theorem Prepared.staging_ne (h : Prepared host d₀ m) (kind : AuthorityArtifactKind) : m.staging ≠ m.original kind := by
  obtain ⟨operationId, hname⟩ := h.stagingName
  exact staging_ne_original hname kind

variable {kind : AuthorityArtifactKind}

theorem Prepared.kind_ne_main (h : Prepared host d₀ m) (hkind : kind ∈ m.kinds) :
    kind ≠ .main := by
  obtain ⟨artifact, hartifact, rfl⟩ := List.mem_map.1 hkind
  exact (h.ofSidecar artifact hartifact).1

/-! ## The parts of a directory -/

structure InPlace (d₀ : Disk) (m : AuthorityMigrationManifest) (d : Disk) (kind : AuthorityArtifactKind) : Prop where
  file : ∃ f g, d₀.files.lookup (m.original kind) = some f ∧ d.files.lookup (m.original kind) = some g ∧ SameFile f g
  notDetached : d.files.lookup (m.detached kind) = none

structure IsDetached (d₀ : Disk) (m : AuthorityMigrationManifest) (d : Disk) (kind : AuthorityArtifactKind) : Prop where
  file : ∃ f g, d₀.files.lookup (m.original kind) = some f ∧ d.files.lookup (m.detached kind) = some g ∧ SameFile f g
  notInPlace : d.files.lookup (m.original kind) = none

structure Aside (m : AuthorityMigrationManifest) (p : Path) : Prop where
  notMain : p ≠ m.original .main
  notStaging : p ≠ m.staging
  notOriginal : ∀ kind ∈ m.kinds, p ≠ m.original kind
  notDetached : ∀ kind ∈ m.kinds, p ≠ m.detached kind

structure Unpublished (d₀ : Disk) (m : AuthorityMigrationManifest) (d : Disk) : Prop where
  main : d.files.lookup (m.original .main) = d₀.files.lookup (m.original .main)
  staging : d.files.lookup m.staging = d₀.files.lookup m.staging ∨ d.files.lookup m.staging = none
  sidecar : ∀ kind ∈ m.kinds, InPlace d₀ m d kind ∨ IsDetached d₀ m d kind
  aside : ∀ p, Aside m p → d.files.lookup p = d₀.files.lookup p

structure Restored (d₀ : Disk) (m : AuthorityMigrationManifest) (d : Disk) : Prop extends Unpublished d₀ m d where
  stagingGone : d.files.lookup m.staging = none
  inPlace : ∀ kind ∈ m.kinds, InPlace d₀ m d kind

structure Published (d₀ : Disk) (m : AuthorityMigrationManifest) (d : Disk) : Prop where
  main : ∃ f g, d₀.files.lookup m.staging = some f ∧ d.files.lookup (m.original .main) = some g ∧ SameFile f g
  staging : d.files.lookup m.staging = none
  sidecar : ∀ kind ∈ m.kinds, IsDetached d₀ m d kind
  aside : ∀ p, Aside m p → d.files.lookup p = d₀.files.lookup p

inductive LeftBehind (d₀ : Disk) (m : AuthorityMigrationManifest) (d : Disk) : Prop
  | unpublished (stage : MigrationSwitchStage) (hmanifest : d.manifest = some { m with stage := stage })
      (h : Unpublished d₀ m d)
  | published (stage : MigrationSwitchStage) (hmanifest : d.manifest = some { m with stage := stage }) (h : Published d₀ m d)
  | restored (hmanifest : d.manifest = none) (h : Restored d₀ m d)
  | migrated (hmanifest : d.manifest = none) (h : Published d₀ m d)

/-! ## Changes of a directory -/

theorem Unpublished.of_files (h : Unpublished d₀ m d) (hfiles : d'.files = d.files) : Unpublished d₀ m d' := by
  refine ⟨by rw [hfiles]; exact h.main, by rw [hfiles]; exact h.staging, fun kind hkind => ?_, fun p hp => ?_⟩
  · obtain hin | hdetached := h.sidecar kind hkind
    · exact .inl ⟨by rw [hfiles]; exact hin.file, by rw [hfiles]; exact hin.notDetached⟩
    · exact .inr ⟨by rw [hfiles]; exact hdetached.file, by rw [hfiles]; exact hdetached.notInPlace⟩
  · rw [hfiles]
    exact h.aside p hp

theorem IsDetached.of_files (h : IsDetached d₀ m d kind) (hfiles : d'.files = d.files) :
    IsDetached d₀ m d' kind :=
  ⟨by rw [hfiles]; exact h.file, by rw [hfiles]; exact h.notInPlace⟩

theorem InPlace.of_files (h : InPlace d₀ m d kind) (hfiles : d'.files = d.files) :
    InPlace d₀ m d' kind :=
  ⟨by rw [hfiles]; exact h.file, by rw [hfiles]; exact h.notDetached⟩

theorem Restored.of_files (h : Restored d₀ m d) (hfiles : d'.files = d.files) : Restored d₀ m d' :=
  ⟨h.toUnpublished.of_files hfiles, by rw [hfiles]; exact h.stagingGone, fun kind hkind => (h.inPlace kind hkind).of_files hfiles⟩

theorem Published.of_files (h : Published d₀ m d) (hfiles : d'.files = d.files) : Published d₀ m d' :=
  ⟨by rw [hfiles]; exact h.main, by rw [hfiles]; exact h.staging, fun kind hkind => (h.sidecar kind hkind).of_files hfiles,
    fun p hp => by rw [hfiles]; exact h.aside p hp⟩

theorem rename_some {source destination : Path} {f : File} (h : d.files.lookup source = some f) :
    ∃ d', d.rename host source destination = some d' ∧ d'.manifest = d.manifest ∧ ∀ p, d'.files.lookup p =
      if p = destination then some (d.renamed host f) else if p = source then none else d.files.lookup p := by
  unfold Disk.rename
  split
  · rename_i hnone
    rw [h] at hnone
    cases hnone
  · rename_i file hfile
    rw [h] at hfile
    cases hfile
    exact ⟨_, rfl, rfl, fun p => Disk.lookup_moved⟩

theorem InPlace.of_moved (h : InPlace d₀ m d kind') (hne : kind' ≠ kind)
    (hmoved : ∀ p, p ≠ m.original kind → p ≠ m.detached kind → d'.files.lookup p = d.files.lookup p) :
    InPlace d₀ m d' kind' := by
  have horiginal := hmoved (m.original kind') (fun h => hne (original_injective h)) (original_ne_detached kind' kind)
  have hdetached := hmoved (m.detached kind') (original_ne_detached kind kind').symm fun h => hne (detached_injective h)
  exact ⟨by rw [horiginal]; exact h.file, by rw [hdetached]; exact h.notDetached⟩

theorem IsDetached.of_moved (h : IsDetached d₀ m d kind') (hne : kind' ≠ kind)
    (hmoved : ∀ p, p ≠ m.original kind → p ≠ m.detached kind → d'.files.lookup p = d.files.lookup p) :
    IsDetached d₀ m d' kind' := by
  have horiginal := hmoved (m.original kind') (fun h => hne (original_injective h)) (original_ne_detached kind' kind)
  have hdetached := hmoved (m.detached kind') (original_ne_detached kind kind').symm fun h => hne (detached_injective h)
  exact ⟨by rw [hdetached]; exact h.file, by rw [horiginal]; exact h.notInPlace⟩

/-- **One sidecar moves**: the rest of the directory stays as it is. -/
theorem Unpublished.of_moved (hprepared : Prepared host d₀ m) (h : Unpublished d₀ m d)
    (hkind : kind ∈ m.kinds) (hmoved : ∀ p, p ≠ m.original kind → p ≠ m.detached kind → d'.files.lookup p = d.files.lookup p)
    (hplace : InPlace d₀ m d' kind ∨ IsDetached d₀ m d' kind) : Unpublished d₀ m d' where
  main := by
    rw [hmoved _ (fun h => hprepared.kind_ne_main hkind (original_injective h).symm) (original_ne_detached _ _)]
    exact h.main
  staging := by
    rw [hmoved _ (hprepared.staging_ne kind) (detached_ne_data kind _).symm]
    exact h.staging
  sidecar kind' hkind' := by
    by_cases hne : kind' = kind
    · subst hne
      exact hplace
    · obtain hin | hdetached := h.sidecar kind' hkind'
      · exact .inl (hin.of_moved hne hmoved)
      · exact .inr (hdetached.of_moved hne hmoved)
  aside p hp := by
    rw [hmoved p (hp.notOriginal kind hkind) (hp.notDetached kind hkind)]
    exact h.aside p hp

theorem IsDetached.restore (h : IsDetached d₀ m d kind) :
    ∃ d', d.rename host (m.detached kind) (m.original kind) = some d' ∧ d'.manifest = d.manifest ∧ InPlace d₀ m d' kind ∧
      ∀ p, p ≠ m.original kind → p ≠ m.detached kind → d'.files.lookup p = d.files.lookup p := by
  obtain ⟨f, g, hf, hg, hsame⟩ := h.file
  obtain ⟨d', hrename, hmanifest, hlookup⟩ := @rename_some host d _ (m.original kind) _ hg
  refine ⟨d', hrename, hmanifest, ⟨⟨f, d.renamed host g, hf, ?_, hsame.trans (d.sameFile_renamed host g)⟩, ?_⟩, fun p hp hp' => ?_⟩
  · rw [hlookup, if_pos rfl]
  · rw [hlookup, if_neg (original_ne_detached kind kind).symm, if_pos rfl]
  · rw [hlookup, if_neg hp, if_neg hp']

theorem InPlace.detach (h : InPlace d₀ m d kind) :
    ∃ d', d.rename host (m.original kind) (m.detached kind) = some d' ∧ d'.manifest = d.manifest ∧ IsDetached d₀ m d' kind ∧
      ∀ p, p ≠ m.original kind → p ≠ m.detached kind → d'.files.lookup p = d.files.lookup p := by
  obtain ⟨f, g, hf, hg, hsame⟩ := h.file
  obtain ⟨d', hrename, hmanifest, hlookup⟩ := @rename_some host d _ (m.detached kind) _ hg
  refine ⟨d', hrename, hmanifest, ⟨⟨f, d.renamed host g, hf, ?_, hsame.trans (d.sameFile_renamed host g)⟩, ?_⟩, fun p hp hp' => ?_⟩
  · rw [hlookup, if_pos rfl]
  · rw [hlookup, if_neg (original_ne_detached kind kind), if_pos rfl]
  · rw [hlookup, if_neg hp', if_neg hp]

end Rovai.Authority
