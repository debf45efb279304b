import RovaiCore.AuthorityWriter
import Mathlib
/-!
# The beginning of a switch, and the whole

What the writer observes and preserves is what its manifest says, so that a switch which is cut off behind its manifest, and whose
recoveries are cut off any number of times, ends with the original database or with the migrated one.
-/
namespace Rovai.Authority

open Fallible
open List
open Procedure (Completes Yields)

variable {host : Host} {d d' d₀ : Disk} {m : AuthorityMigrationManifest}

/-! ## Leaf names -/

variable (platform : Platform)

theorem isLeaf_artifactFileName (authority : AuthorityNamespace) (kind : AuthorityArtifactKind) :
    isLeaf platform (artifactFileName authority kind) = true := by
  cases platform <;> cases authority <;> cases kind <;> decide

theorem isLeaf_preserved (kind : AuthorityArtifactKind) :
    isLeaf platform ("original-" ++ artifactKindName kind) = true ∧ isLeaf platform ("detached-" ++ artifactKindName kind) = true := by
  cases platform <;> cases kind <;> decide

theorem components_plain {platform : Platform} {first second : Char} {rest : List Char} (hfirst : first = '.') (hsecond : second = 'r')
    (h : ∀ c ∈ first :: second :: rest, isSeparator platform c = false) :
    components platform (first :: second :: rest) = [.normal (first :: second :: rest)] := by
  subst hfirst hsecond
  unfold components
  rw [splitOnP_eq_singleton h]
  rfl

theorem not_isSeparator {platform : Platform} {c : Char} (h : c.isAlphanum || c == '-' || c == '.') :
    isSeparator platform c = false := by
  have hslash : c ≠ '/' := by
    rintro rfl
    revert h
    decide
  have hback : c ≠ '\\' := by
    rintro rfl
    revert h
    decide
  simp [isSeparator, hslash, hback]

variable (operationId : Uuid)

theorem isLeaf_stagingFileName :
    isLeaf platform (stagingFileName operationId) = true := by
  have hchars : ∀ c ∈ (stagingFileName operationId).toList, isSeparator platform c = false := by
    intro c hc
    unfold stagingFileName at hc
    rw [String.toList_append, String.toList_append, mem_append, mem_append] at hc
    refine not_isSeparator ?_
    obtain (hc | hc) | hc := hc
    · have hall := all_eq_true.1 (show ".rovai-authority-migration-".toList.all (fun c => c.isAlphanum || c == '-' || c == '.') by decide)
      exact hall c hc
    · have := operationId.hyphenated c hc
      simp [this]
    · have hall := all_eq_true.1 (show ".sqlite".toList.all (fun c => c.isAlphanum || c == '-' || c == '.') by decide)
      exact hall c hc
  obtain ⟨rest, hrest⟩ : ∃ rest, (stagingFileName operationId).toList = '.' :: 'r' :: rest := by
    have hprefix : ".rovai-authority-migration-".toList = '.' :: 'r' :: "ovai-authority-migration-".toList := by decide
    refine ⟨"ovai-authority-migration-".toList ++ (operationId.text.toList ++ ".sqlite".toList), ?_⟩
    unfold stagingFileName
    rw [String.toList_append, String.toList_append, hprefix, append_assoc, cons_append, cons_append]
  rw [hrest] at hchars
  unfold isLeaf
  rw [hrest, components_plain rfl rfl hchars]

/-! ## Preserving the artifacts -/

def OnlyPreserved (d d' : Disk) : Prop :=
  ∀ p : Path, (∀ kind, p ≠ ⟨.backup operationId.text, "original-" ++ artifactKindName kind⟩) →
    d'.files.lookup p = d.files.lookup p

theorem OnlyPreserved.refl (d : Disk) : OnlyPreserved operationId d d :=
  fun _ _ => rfl

variable {operationId : Uuid}

theorem OnlyPreserved.trans {d d' d'' : Disk} (h : OnlyPreserved operationId d d')
    (h' : OnlyPreserved operationId d' d'') : OnlyPreserved operationId d d'' :=
  fun p hp => (h' p hp).trans (h p hp)

structure Preserves (artifact : SourceArtifact) (preserved : MigrationManifestArtifact) : Prop where
  kind : preserved.kind = artifact.kind
  sourceFileName : preserved.sourceFileName = artifact.path.name
  backupFileName : preserved.backupFileName = "original-" ++ artifactKindName artifact.kind
  detachedFileName : preserved.detachedFileName =
    if artifact.kind = .main then none else some ("detached-" ++ artifactKindName artifact.kind)
  sourceIdentity : preserved.sourceIdentity = artifact.identity

theorem yields_change {P : Disk → Prop} {Q : Unit → Disk → Prop} {f : Disk → Option Disk} {error : MigrationError}
    (h : ∀ d d', P d → f d = some d' → Q () d') : Yields P (change f error) Q :=
  Yields.act fun d d' hd hf => h d d' hd (orError_eq_ok.1 hf)

theorem lookup_create {path p : Path} (h : d.createDataNewFile host path = some d') (hp : p ≠ path) :
    d'.files.lookup p = d.files.lookup p := by
  unfold Disk.createDataNewFile at h
  split at h
  · cases h
  cases h
  exact Finmap.lookup_insert_of_ne _ hp

theorem lookup_write {path p : Path} {content : List UInt8} (h : d.write host path content = some d') (hp : p ≠ path) :
    d'.files.lookup p = d.files.lookup p := by
  unfold Disk.write at h
  split at h
  · cases h
  cases h
  exact Finmap.lookup_insert_of_ne _ hp

theorem copyAuthorityFile_yields {source : Path} (kind : AuthorityArtifactKind) :
    Yields (OnlyPreserved operationId d)
      (copyAuthorityFile host source ⟨.backup operationId.text, "original-" ++ artifactKindName kind⟩)
      fun _ => OnlyPreserved operationId d := by
  unfold copyAuthorityFile
  refine Yields.bind (Yields.observe (Q := fun _ => OnlyPreserved operationId d) fun s _ hs _ => hs) fun file => ?_
  refine Yields.bind (yields_change (Q := fun _ => OnlyPreserved operationId d) ?_) fun _ => ?_
  · exact fun s s' hs hcreate => hs.trans fun p hp => lookup_create hcreate (hp kind)
  · exact yields_change fun s s' hs hwrite => hs.trans fun p hp => lookup_write hwrite (hp kind)

theorem preserveArtifact_yields {artifact : SourceArtifact} :
    Yields (OnlyPreserved operationId d) (preserveArtifact host operationId artifact)
      fun preserved d' => Preserves artifact preserved ∧ OnlyPreserved operationId d d' := by
  unfold preserveArtifact
  refine Yields.bind (copyAuthorityFile_yields artifact.kind) fun _ => ?_
  refine Yields.bind (Yields.observe (Q := fun _ => OnlyPreserved operationId d) fun s _ hs _ => hs) fun _ => ?_
  exact Yields.pure fun s hs => ⟨⟨rfl, rfl, rfl, rfl, rfl⟩, hs⟩

theorem preserveArtifacts_yields : ∀ artifacts : List SourceArtifact,
    Yields (OnlyPreserved operationId d) (preserveArtifacts host operationId artifacts)
      fun preserved d' => List.Forall₂ Preserves artifacts preserved ∧ OnlyPreserved operationId d d'
  | [] => Yields.pure fun _ hs => ⟨.nil, hs⟩
  | artifact :: rest => by
    unfold preserveArtifacts
    refine Yields.bind preserveArtifact_yields fun preserved => Yields.of_and fun hfirst => ?_
    refine Yields.bind (preserveArtifacts_yields rest) fun others => Yields.of_and fun hrest => ?_
    exact Yields.pure fun s hs => ⟨.cons hfirst hrest, hs⟩

theorem Preserves.map_kind {artifacts : List SourceArtifact} {preserved : List MigrationManifestArtifact}
    (h : List.Forall₂ Preserves artifacts preserved) :
    preserved.map MigrationManifestArtifact.kind = artifacts.map SourceArtifact.kind := by
  induction h with
  | nil => rfl
  | cons hfirst _ ih => rw [map_cons, map_cons, hfirst.kind, ih]

theorem Preserves.exists_of_mem {artifacts : List SourceArtifact} {preserved : List MigrationManifestArtifact}
    (h : List.Forall₂ Preserves artifacts preserved) {entry : MigrationManifestArtifact} (hentry : entry ∈ preserved) :
    ∃ artifact ∈ artifacts, Preserves artifact entry := by
  induction h with
  | nil => cases hentry
  | cons hfirst _ ih =>
    obtain rfl | hrest := mem_cons.1 hentry
    · exact ⟨_, mem_cons_self, hfirst⟩
    obtain ⟨artifact, hartifact, hpreserves⟩ := ih hrest
    exact ⟨artifact, mem_cons_of_mem _ hartifact, hpreserves⟩

/-! ## What is observed -/

theorem mem_observeSourceArtifacts {authority : AuthorityNamespace} {artifact : SourceArtifact} :
    artifact ∈ observeSourceArtifacts host authority d ↔
      artifact.path = ⟨.data, artifactFileName authority artifact.kind⟩ ∧
        d.observeAuthorityIdentityToken host artifact.path = some artifact.identity := by
  unfold observeSourceArtifacts
  rw [mem_filterMap]
  constructor
  · rintro ⟨kind, -, hkind⟩
    obtain ⟨identity, hidentity, rfl⟩ := Option.map_eq_some_iff.1 hkind
    exact ⟨rfl, hidentity⟩
  · rintro ⟨hpath, hidentity⟩
    refine ⟨artifact.kind, ?_, ?_⟩
    · cases artifact.kind <;> decide
    rw [hpath] at hidentity
    dsimp only
    rw [hidentity, Option.map_some, ← hpath]

theorem nodup_observeSourceArtifacts (host : Host) (authority : AuthorityNamespace) (d : Disk) :
    ((observeSourceArtifacts host authority d).map SourceArtifact.kind).Nodup := by
  have hsublist : ∀ kinds : List AuthorityArtifactKind, ((kinds.filterMap fun kind =>
      (d.observeAuthorityIdentityToken host ⟨.data, artifactFileName authority kind⟩).map
        (SourceArtifact.mk kind ⟨.data, artifactFileName authority kind⟩)).map SourceArtifact.kind).Sublist kinds := by
    intro kinds
    induction kinds with
    | nil => exact .slnil
    | cons kind rest ih =>
      rw [filterMap_cons]
      split
      · exact ih.cons kind
      rename_i artifact hartifact
      obtain ⟨identity, -, rfl⟩ := Option.map_eq_some_iff.1 hartifact
      exact ih.cons_cons kind
  exact (hsublist _).nodup (by decide)

structure Writes (host : Host) (authority : AuthorityNamespace) (operationId : Uuid) (d : Disk) (m : AuthorityMigrationManifest) :
    Prop where
  schemaVersion : m.schemaVersion = 1
  operation : m.operationId = operationId
  authorityNamespace : m.authorityNamespace = authority
  sourceName : m.sourceFileName = mainFileName authority
  stagingName : m.stagingFileName = stagingFileName operationId
  backupOperationId : m.backupOperationId = operationId
  main : ∃ artifact ∈ observeSourceArtifacts host authority d, artifact.kind = .main ∧ m.sourceMainIdentity = artifact.identity
  migrated : d.observeAuthorityIdentityToken host ⟨.data, stagingFileName operationId⟩ = some m.migratedMainIdentity
  artifacts : List.Forall₂ Preserves (observeSourceArtifacts host authority d) m.artifacts
  fresh : d.backupCollision operationId = false

theorem prepareSwitch_yields (authority : AuthorityNamespace) (operationId : Uuid) (d : Disk) :
    Yields (· = d) (prepareSwitch host authority operationId)
      fun m d' => Writes host authority operationId d m ∧ OnlyPreserved operationId d d' ∧ d'.manifest = some m := by
  unfold prepareSwitch
  refine Yields.bind (Q := fun migrated s => d.observeAuthorityIdentityToken host ⟨.data, stagingFileName operationId⟩ =
    some migrated ∧ s = d) (Yields.observe ?_) fun migrated => Yields.of_and fun hmigrated => ?_
  · rintro s migrated rfl hobserved
    exact ⟨orError_eq_ok.1 hobserved, rfl⟩
  refine Yields.bind (Q := fun artifacts s => (d.backupCollision operationId = false ∧
    artifacts = observeSourceArtifacts host authority d) ∧ s = d) (Yields.observe ?_) fun artifacts =>
      Yields.of_and fun ⟨hfresh, hartifacts⟩ => ?_
  · rintro s artifacts rfl hobserved
    split at hobserved
    · cases hobserved
    rename_i hcollision
    cases hobserved
    exact ⟨⟨by simpa using hcollision, rfl⟩, rfl⟩
  subst hartifacts
  refine Yields.bind (Q := fun main s => (observeSourceArtifacts host authority d).find? (fun artifact => artifact.kind == .main) =
    some main ∧ s = d) (Yields.observe ?_) fun main => Yields.of_and fun hmain => ?_
  · rintro s main rfl hobserved
    exact ⟨orError_eq_ok.1 hobserved, rfl⟩
  refine Yields.bind (Q := fun preserved s => List.Forall₂ Preserves (observeSourceArtifacts host authority d) preserved ∧
    OnlyPreserved operationId d s) ?_ fun preserved => Yields.of_and fun hpreserved => ?_
  · intro s preserved hs hresult
    subst hs
    exact preserveArtifacts_yields _ s preserved (.refl operationId s) hresult
  dsimp only
  refine Yields.bind (yields_change (Q := fun _ s => OnlyPreserved operationId d s ∧ s.manifest = some {
    schemaVersion := 1, operationId := operationId, authorityNamespace := authority
    sourceFileName := mainFileName authority, stagingFileName := stagingFileName operationId
    backupOperationId := operationId, sourceMainIdentity := main.identity, migratedMainIdentity := migrated
    artifacts := preserved, stage := .prepared }) ?_) fun _ => Yields.pure ?_
  · rintro s s' hs hwrite
    cases hwrite
    exact ⟨hs, rfl⟩
  · refine fun s hs => ⟨⟨rfl, rfl, rfl, rfl, rfl, rfl, ⟨main, mem_of_find?_eq_some hmain, ?_, rfl⟩, hmigrated, hpreserved,
      hfresh⟩, hs⟩
    simpa using find?_some hmain

theorem Writes.prepared {authority : AuthorityNamespace} (h : Writes host authority operationId d m)
    (honly : OnlyPreserved operationId d d') (hmanifest : d'.manifest = some m) : Prepared host d' m := by
  have hdata : ∀ name, d'.files.lookup ⟨.data, name⟩ = d.files.lookup ⟨.data, name⟩ := fun name =>
    honly ⟨.data, name⟩ fun kind heq => by cases congrArg Path.directory heq
  have hobserved : ∀ {p identity}, d.observeAuthorityIdentityToken host p = some identity →
      ∃ f, d.files.lookup p = some f ∧ identity = identityToken host.platform f := by
    intro p identity hp
    obtain ⟨f, hf, rfl⟩ := Option.map_eq_some_iff.1 hp
    exact ⟨f, hf, rfl⟩
  have hsource : m.source = m.original .main := by
    unfold AuthorityMigrationManifest.source AuthorityMigrationManifest.original
    rw [h.sourceName, h.authorityNamespace]
    rfl
  have hentry : ∀ {entry}, entry ∈ m.artifacts → ∃ artifact, Preserves artifact entry ∧
      artifact.path = ⟨.data, artifactFileName authority artifact.kind⟩ ∧
      ∃ f, d.files.lookup ⟨.data, artifactFileName authority artifact.kind⟩ = some f ∧
        artifact.identity = identityToken host.platform f := by
    intro entry hentry
    obtain ⟨artifact, hartifact, hpreserves⟩ := Preserves.exists_of_mem h.artifacts hentry
    obtain ⟨hpath, hidentity⟩ := mem_observeSourceArtifacts.1 hartifact
    rw [hpath] at hidentity
    exact ⟨artifact, hpreserves, hpath, hobserved hidentity⟩
  have hkinds : m.artifacts.map MigrationManifestArtifact.kind = (observeSourceArtifacts host authority d).map SourceArtifact.kind :=
    Preserves.map_kind h.artifacts
  refine ⟨h.schemaVersion, ?_, ?_, hmanifest, hsource, ⟨operationId, h.stagingName⟩, ?_, ?_, ?_, ?_, ?_⟩
  · have hmain : isLeaf host.platform (mainFileName authority) = true := isLeaf_artifactFileName host.platform authority .main
    simp [invalidMainPath, h.sourceName, h.stagingName, h.operation, h.backupOperationId, h.authorityNamespace, hmain,
      isLeaf_stagingFileName]
  · rw [any_eq_false]
    intro entry hmem
    obtain ⟨artifact, hpreserves, hpath, -⟩ := hentry hmem
    have hleaf := isLeaf_preserved host.platform artifact.kind
    unfold invalidArtifactPath
    rw [hpreserves.sourceFileName, hpath, hpreserves.backupFileName, hpreserves.detachedFileName,
      isLeaf_artifactFileName, hleaf.1]
    split
    · rw [Option.any_none]
      decide
    · simp [hleaf.2]
  · obtain ⟨artifact, hartifact, hkind, hidentity⟩ := h.main
    obtain ⟨hpath, hobserve⟩ := mem_observeSourceArtifacts.1 hartifact
    obtain ⟨f, hf, htoken⟩ := hobserved hobserve
    refine ⟨f, ?_, hidentity.trans htoken⟩
    rw [hpath, hkind] at hf
    unfold AuthorityMigrationManifest.original
    rw [hdata, h.authorityNamespace]
    exact hf
  · obtain ⟨f, hf, htoken⟩ := hobserved h.migrated
    refine ⟨f, ?_, htoken⟩
    unfold AuthorityMigrationManifest.staging
    rw [hdata, h.stagingName]
    exact hf
  · intro entry hmem
    obtain ⟨hmem, hne⟩ := mem_filter.1 hmem
    obtain ⟨artifact, hpreserves, hpath, f, hf, htoken⟩ := hentry hmem
    have hkind : entry.kind ≠ .main := by simpa using hne
    have hoperation : m.backupOperationId.text = operationId.text := by rw [h.backupOperationId]
    refine ⟨hkind, ?_, ?_, ?_, f, ?_, hpreserves.sourceIdentity.trans htoken⟩
    · unfold AuthorityMigrationManifest.original
      rw [hpreserves.sourceFileName, hpath, hpreserves.kind, h.authorityNamespace]
    · rw [hpreserves.detachedFileName, ← hpreserves.kind, if_neg hkind]
    · -- Nothing was in the backup directory, and nothing detached was put there.
      rw [honly]
      · cases hlookup : d.files.lookup (m.detached entry.kind) with
        | none => rfl
        | some g =>
          refine absurd h.fresh (by
            rw [Bool.not_eq_false]
            exact decide_eq_true ⟨m.detached entry.kind, Finmap.mem_keys.2 (Finmap.mem_of_lookup_eq_some hlookup),
              congrArg Directory.backup hoperation⟩)
      · intro kind heq
        have hname : "detached-" ++ artifactKindName entry.kind = "original-" ++ artifactKindName kind := congrArg Path.name heq
        revert hname
        cases entry.kind <;> cases kind <;> decide
    · unfold AuthorityMigrationManifest.original
      rw [hdata, h.authorityNamespace, hpreserves.kind]
      exact hf
  · intro kind hmain hnotin
    unfold AuthorityMigrationManifest.original
    rw [hdata, h.authorityNamespace]
    cases hlookup : d.files.lookup ⟨.data, artifactFileName authority kind⟩ with
    | none => rfl
    | some f =>
      refine absurd ?_ hnotin
      have hobserve : (⟨kind, ⟨.data, artifactFileName authority kind⟩, identityToken host.platform f⟩ : SourceArtifact) ∈
          observeSourceArtifacts host authority d := mem_observeSourceArtifacts.2 ⟨rfl, by rw [Disk.observeAuthorityIdentityToken, hlookup]; rfl⟩
      have hmem : kind ∈ m.artifacts.map MigrationManifestArtifact.kind := by
        rw [hkinds]
        exact mem_map.2 ⟨_, hobserve, rfl⟩
      obtain ⟨entry, hentry, rfl⟩ := mem_map.1 hmem
      exact mem_map_of_mem (mem_filter.2 ⟨hentry, by simpa using hmain⟩)
  · have hnodup : (m.artifacts.map MigrationManifestArtifact.kind).Nodup := by
      rw [hkinds]
      exact nodup_observeSourceArtifacts host authority d
    exact (filter_sublist.map MigrationManifestArtifact.kind).nodup hnodup

/-! ## The whole -/

inductive SameContent : Option File → Option File → Prop
  | absent : SameContent none none
  | present {f g : File} (h : SameFile f g) : SameContent (some f) (some g)

theorem SameContent.of_eq {o o' : Option File} (h : o' = o) : SameContent o o' := by
  subst h
  cases o' with
  | none => exact .absent
  | some f => exact .present (.refl f)

structure OriginalDatabase (d₀ : Disk) (m : AuthorityMigrationManifest) (d : Disk) : Prop where
  database : ∀ kind, SameContent (d₀.files.lookup (m.original kind)) (d.files.lookup (m.original kind))
  kept : ∀ p, p ≠ m.staging → SameContent (d₀.files.lookup p) (d.files.lookup p)
  copyGone : d.files.lookup m.staging = none

structure MigratedDatabase (d₀ : Disk) (m : AuthorityMigrationManifest) (d : Disk) : Prop where
  main : ∃ f g, d₀.files.lookup m.staging = some f ∧ d.files.lookup (m.original .main) = some g ∧ SameFile f g
  alone : ∀ kind, kind ≠ .main → d.files.lookup (m.original kind) = none
  detached : ∀ kind, kind ≠ .main → ∀ f, d₀.files.lookup (m.original kind) = some f →
    SameContent (some f) (d.files.lookup (m.detached kind))
  kept : ∀ p, (∀ kind, p ≠ m.original kind) → p ≠ m.staging → d₀.files.lookup p ≠ none →
    SameContent (d₀.files.lookup p) (d.files.lookup p)

theorem Restored.originalDatabase (hprepared : Prepared host d₀ m) (h : Restored d₀ m d) : OriginalDatabase d₀ m d := by
  have hkept : ∀ p, p ≠ m.staging → SameContent (d₀.files.lookup p) (d.files.lookup p) := by
    intro p hp
    by_cases hmain : p = m.original .main
    · subst hmain
      exact .of_eq h.main
    by_cases horiginal : ∃ kind ∈ m.kinds, p = m.original kind
    · obtain ⟨kind, hkind, rfl⟩ := horiginal
      obtain ⟨f, g, hf, hg, hsame⟩ := (h.inPlace kind hkind).file
      rw [hf, hg]
      exact .present hsame
    by_cases hdetached : ∃ kind ∈ m.kinds, p = m.detached kind
    · obtain ⟨kind, hkind, rfl⟩ := hdetached
      obtain ⟨artifact, hartifact, rfl⟩ := mem_map.1 hkind
      rw [(hprepared.ofSidecar artifact hartifact).2.2.2.1, (h.inPlace _ hkind).notDetached]
      exact .absent
    · refine .of_eq (h.aside p ⟨hmain, hp, fun kind hkind heq => horiginal ⟨kind, hkind, heq⟩, fun kind hkind heq =>
        hdetached ⟨kind, hkind, heq⟩⟩)
  exact ⟨fun kind => hkept _ (hprepared.staging_ne kind).symm, hkept, h.stagingGone⟩

theorem Published.migratedDatabase (hprepared : Prepared host d₀ m) (h : Published d₀ m d) : MigratedDatabase d₀ m d where
  main := h.main
  alone kind hmain := by
    by_cases hkind : kind ∈ m.kinds
    · exact (h.sidecar kind hkind).notInPlace
    rw [h.aside _ ⟨fun heq => hmain (original_injective heq), (hprepared.staging_ne kind).symm,
      fun kind' hkind' heq => hkind (original_injective heq ▸ hkind'), fun kind' _ => original_ne_detached kind kind'⟩]
    exact hprepared.absent kind hmain hkind
  detached kind hmain f hf := by
    have hkind : kind ∈ m.kinds := by
      by_contra hkind
      rw [hprepared.absent kind hmain hkind] at hf
      cases hf
    obtain ⟨f', g, hf', hg, hsame⟩ := (h.sidecar kind hkind).file
    rw [hf] at hf'
    cases hf'
    rw [hg]
    exact .present hsame
  kept p horiginal hp hfound := by
    refine .of_eq (h.aside p ⟨horiginal .main, hp, fun kind _ => horiginal kind, fun kind hkind heq => ?_⟩)
    subst heq
    obtain ⟨artifact, hartifact, rfl⟩ := mem_map.1 hkind
    exact hfound (hprepared.ofSidecar artifact hartifact).2.2.2.1

/-- **An interrupted switch is recovered to one database.**  Whatever step behind its manifest the writer is cut off at, and however
often recoveries are begun and cut off after it, a recovery that goes on to its end has no error, removes the manifest, and leaves
the original database or the migrated one. -/
theorem recovery_never_mixes (host : Host) (authority : AuthorityNamespace) (operationId : Uuid) (d : Disk)
    (m : AuthorityMigrationManifest) (hprepare : ((prepareSwitch host authority operationId).run d).result = .ok m) (killed t : Disk)
    (hkilled : killed ∈ (switchAuthority host m).cuts ((prepareSwitch host authority operationId).final d))
    (hruns : Procedure.Interrupted (fun _ : Unit => startup host) killed t) :
    ((startup host).run t).result = .ok () ∧ ((startup host).final t).manifest = none ∧
      (OriginalDatabase ((prepareSwitch host authority operationId).final d) m ((startup host).final t) ∨
        MigratedDatabase ((prepareSwitch host authority operationId).final d) m ((startup host).final t)) := by
  obtain ⟨hwrites, honly, hmanifest⟩ := prepareSwitch_yields authority operationId d d m rfl hprepare
  have hprepared : Prepared host ((prepareSwitch host authority operationId).final d) m := hwrites.prepared honly hmanifest
  have hleft := (switchAuthority_completes hprepared).cuts hprepared.detaching
    hprepared.detaching.interrupted.leftBehind hkilled
  have ht := hruns.invariant (fun _ s hs s' hs' => (startup_completes hprepared).cuts hs hs hs') hleft
  obtain ⟨-, u, hresult, hgone, h⟩ := startup_completes hprepared t ht
  refine ⟨hresult, hgone, ?_⟩
  obtain h | h := h
  · exact .inl (h.originalDatabase hprepared)
  · exact .inr (h.migratedDatabase hprepared)

def sampleHost : Host where
  platform := .unix
  clock _ := (12, 789)
  newObject d := d.files.keys.sup (fun p => ((d.files.lookup p).map File.object).getD 0) + 1
  fresh d p f hf := by
    have hle : ((d.files.lookup p).map File.object).getD 0 ≤
        d.files.keys.sup (fun p => ((d.files.lookup p).map File.object).getD 0) :=
      Finset.le_sup (f := fun p => ((d.files.lookup p).map File.object).getD 0)
        (Finmap.mem_keys.2 (Finmap.mem_of_lookup_eq_some hf))
    rw [hf, Option.map_some, Option.getD_some] at hle
    exact Nat.ne_of_lt (Nat.lt_succ_of_le hle)

def sampleOperation : Uuid := ⟨"0f8b", all_eq_true.1 (by decide)⟩

def sampleFile (object : Nat) : File := ⟨object, [1, 2], 10, 123, 11, 456⟩

def sampleFiles : Finmap fun _ : Path => File :=
  ((Finmap.singleton ⟨.data, "rovai.sqlite"⟩ (sampleFile 1)).insert ⟨.data, "rovai.sqlite-wal"⟩ (sampleFile 2)).insert
    ⟨.data, stagingFileName sampleOperation⟩ (sampleFile 3)

theorem sampleFiles_cases {p : Path} {f : File} (hf : sampleFiles.lookup p = some f) :
    f.object = 3 ∧ p = ⟨.data, stagingFileName sampleOperation⟩ ∨ f.object = 2 ∧ p = ⟨.data, "rovai.sqlite-wal"⟩ ∨
      f.object = 1 ∧ p = ⟨.data, "rovai.sqlite"⟩ := by
  unfold sampleFiles at hf
  by_cases h : p = ⟨.data, stagingFileName sampleOperation⟩
  · rw [h, Finmap.lookup_insert] at hf
    cases hf
    exact .inl ⟨rfl, h⟩
  rw [Finmap.lookup_insert_of_ne _ h] at hf
  by_cases h : p = ⟨.data, "rovai.sqlite-wal"⟩
  · rw [h, Finmap.lookup_insert] at hf
    cases hf
    exact .inr (.inl ⟨rfl, h⟩)
  rw [Finmap.lookup_insert_of_ne _ h] at hf
  have hmem := Finmap.mem_of_lookup_eq_some hf
  rw [Finmap.mem_singleton] at hmem
  rw [hmem, Finmap.lookup_singleton_eq] at hf
  cases hf
  exact .inr (.inr ⟨rfl, hmem⟩)

def sampleDisk : Disk where
  files := sampleFiles
  manifest := none
  ticks := 0
  objects := by
    intro p q f g hf hg hobject
    obtain ⟨hp, rfl⟩ | ⟨hp, rfl⟩ | ⟨hp, rfl⟩ := sampleFiles_cases hf <;>
      obtain ⟨hq, rfl⟩ | ⟨hq, rfl⟩ | ⟨hq, rfl⟩ := sampleFiles_cases hg <;> first | rfl | omega

theorem sample_prepares :
    ∃ m, ((prepareSwitch sampleHost .rovai sampleOperation).run sampleDisk).result = .ok m := by
  have h : ((prepareSwitch sampleHost .rovai sampleOperation).run sampleDisk).result.toOption.isSome = true := by decide
  cases hresult : ((prepareSwitch sampleHost .rovai sampleOperation).run sampleDisk).result with
  | ok m => exact ⟨m, rfl⟩
  | error error =>
    rw [hresult] at h
    cases h

/-- A recovery of the sample, begun right behind the manifest. -/
theorem sample_recovers : ∃ m, ((prepareSwitch sampleHost .rovai sampleOperation).run sampleDisk).result = .ok m ∧
    ((startup sampleHost).run ((prepareSwitch sampleHost .rovai sampleOperation).final sampleDisk)).result = .ok () := by
  obtain ⟨m, hm⟩ := sample_prepares
  exact ⟨m, hm, (recovery_never_mixes sampleHost .rovai sampleOperation sampleDisk m hm _ _ mem_cons_self .refl).1⟩

end Rovai.Authority
