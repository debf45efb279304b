import RovaiCore.FileChangeCard
/-!
# What identifies the files of a card

The operation path groups by path, so it lists a path once.
-/
namespace Rovai

open Lines (Text)
open List

/-! ## What the loop gathers -/

def latestSnapshot (evidence : List SequencedEvidence) : Option Text :=
  (evidence.filterMap (fun item => runSnapshot item.payload)).getLast?

variable (root : ExecutionRoot) (evidence : List SequencedEvidence)

def excludedPaths : List Text :=
  evidence.filterMap (fun item => sendInputPath root item.payload)

theorem foldl_item_snapshot (root : ExecutionRoot) : ∀ (evidence : List SequencedEvidence) (acc : Gathered),
    (evidence.foldl (Gathered.item root) acc).latestRunSnapshot.map Prod.snd =
      (latestSnapshot evidence).or (acc.latestRunSnapshot.map Prod.snd)
  | [], acc => rfl
  | item :: evidence, acc => by
    rw [foldl_cons, foldl_item_snapshot root evidence]
    unfold latestSnapshot
    cases hs : runSnapshot item.payload with
    | none => simp [Gathered.item, hs]
    | some diff =>
      rw [filterMap_cons_some (f := fun item : SequencedEvidence => runSnapshot item.payload) hs, getLast?_cons]
      cases (evidence.filterMap (fun item => runSnapshot item.payload)).getLast? <;> simp [Gathered.item, hs]

theorem foldl_item_paths (root : ExecutionRoot) : ∀ (evidence : List SequencedEvidence) (acc : Gathered),
    (evidence.foldl (Gathered.item root) acc).sendInputPaths = acc.sendInputPaths ++ excludedPaths root evidence
  | [], acc => by simp [excludedPaths]
  | item :: evidence, acc => by
    rw [foldl_cons, foldl_item_paths root evidence]
    unfold excludedPaths
    cases hp : sendInputPath root item.payload <;> simp [Gathered.item, hp]

theorem gather_snapshot :
    (gather root evidence).latestRunSnapshot.map Prod.snd = latestSnapshot evidence := by
  rw [gather, foldl_item_snapshot]
  exact Option.or_none

theorem gather_paths :
    (gather root evidence).sendInputPaths = excludedPaths root evidence := by
  rw [gather, foldl_item_paths]
  rfl

/-! ## Files from operations -/

variable {operations : List ObservedChange} {detail : ChangedFileDetail} {path : Text}

theorem path_continuous
    (h : continuousFullStateDetail path operations = some detail) : detail.path = path := by
  unfold continuousFullStateDetail at h
  split at h
  · cases h
  split at h
  · split at h
    · rw [← Option.some.inj h]
      rfl
    · split at h
      · cases h
      obtain ⟨diff, -, rfl⟩ := Option.map_eq_some_iff.1 h
      rfl
  · cases h

theorem path_diffOperations
    (h : fileDetailFromDiffOperations path operations = some detail) : detail.path = path := by
  unfold fileDetailFromDiffOperations at h
  split at h
  · exact path_continuous h
  · split at h <;> rw [← Option.some.inj h] <;> rfl

theorem path_fromOperations
    (h : fileDetailFromOperations path operations = some detail) : detail.path = path := by
  unfold fileDetailFromOperations at h
  simp only at h
  split at h
  · rw [← Option.some.inj h]
    rfl
  · split at h
    · split at h
      · cases h
      rw [← Option.some.inj h]
      rfl
    · rename_i hdetail
      split at h
      · rw [← Option.some.inj h]
        have hpath := path_diffOperations hdetail
        exact hpath
      · rw [← Option.some.inj h]

theorem sublist_paths : ∀ (f : Text → Option ChangedFileDetail), (∀ path detail, f path = some detail → detail.path = path) →
    ∀ paths : List Text, ((paths.filterMap f).map ChangedFileDetail.path).Sublist paths
  | _, _, [] => List.Sublist.refl []
  | f, hf, path :: paths => by
    have ih := sublist_paths f hf paths
    cases hp : f path with
    | none =>
      rw [filterMap_cons_none hp]
      exact ih.cons path
    | some detail =>
      rw [filterMap_cons_some hp, map_cons, hf path detail hp]
      exact ih.cons_cons path

theorem nodup_sortedPaths (changes : List ObservedChange) : (sortedPaths changes).Nodup :=
  (perm_insertionSort _ _).nodup_iff.2 (nodup_dedup _)

/-- **The operation path lists a path once.** -/
theorem nodup_fromOperations (changes : List ObservedChange) :
    ((fileDetailsFromOperations changes).map ChangedFileDetail.path).Nodup :=
  (sublist_paths _ (fun _ _ h => path_fromOperations h) _).nodup (nodup_sortedPaths changes)

theorem mem_fromOperations {changes : List ObservedChange}
    (h : path ∈ (fileDetailsFromOperations changes).map ChangedFileDetail.path) : ∃ c ∈ changes, c.path = path := by
  have hmem := (sublist_paths _ (fun _ _ h => path_fromOperations h) (sortedPaths changes)).subset h
  rw [sortedPaths, mem_insertionSort, mem_dedup] at hmem
  exact mem_map.1 hmem

/-! ## Files from the snapshot -/

def sectionPath (part : Text) : Option Text :=
  (unifiedDiffSectionIdentity part).bind (fun identity => root.display identity.1)

def snapshotPaths (diff : Text) : Option (List Text) :=
  if (trim diff).isEmpty || (splitUnifiedDiffSections diff).isEmpty then none
  else (splitUnifiedDiffSections diff).mapM (sectionPath root)

variable (sequence : Nat)

theorem path_fileOfSection (changes : List ObservedChange) (part : Text) :
    (fileOfSection root sequence changes part).map ChangedFileDetail.path = sectionPath root part := by
  unfold fileOfSection sectionPath
  cases unifiedDiffSectionIdentity part with
  | none => rfl
  | some identity =>
    simp only [Option.bind_some]
    cases root.display identity.1 <;> rfl

theorem mapM_map {α β γ : Type} (f : α → Option β) (g : β → γ) : ∀ xs : List α,
    (xs.mapM f).map (List.map g) = xs.mapM (fun x => (f x).map g)
  | [] => rfl
  | x :: xs => by
    rw [mapM_cons, mapM_cons, ← mapM_map f g xs]
    cases f x with
    | none => rfl
    | some y => cases xs.mapM f <;> rfl

theorem paths_fromSnapshot (diff : Text) (changes : List ObservedChange)
    (h : (trim diff).isEmpty = false) :
    (fileDetailsFromAuthoritativeSnapshot root sequence diff changes).map (List.map ChangedFileDetail.path) =
      snapshotPaths root diff := by
  unfold fileDetailsFromAuthoritativeSnapshot snapshotPaths
  rw [h, Bool.false_or]
  by_cases hnone : (splitUnifiedDiffSections diff).isEmpty = true
  · simp only [hnone, if_true]
    rfl
  · simp only [hnone, Bool.false_eq_true, if_false]
    rw [mapM_map]
    exact congrArg (fun f => (splitUnifiedDiffSections diff).mapM f) (funext (path_fileOfSection root sequence changes))

/-- **The snapshot path lists each path once exactly when its sections do**, whatever paths are taken off the card. -/
theorem nodup_withSnapshot (diff : Text) (changes : List ObservedChange)
    (keep : Text → Bool) :
    (((fileDetailsWithAuthoritativeSnapshot root sequence diff changes).map ChangedFileDetail.path).filter keep).Nodup ↔
      ∀ paths, snapshotPaths root diff = some paths → (paths.filter keep).Nodup := by
  unfold fileDetailsWithAuthoritativeSnapshot
  simp only
  split
  · rename_i hempty
    refine iff_of_true ((nodup_fromOperations _).filter _) (fun paths h => ?_)
    rw [snapshotPaths, hempty] at h
    cases h
  · rename_i hempty
    rw [Bool.not_eq_true] at hempty
    have hpaths := paths_fromSnapshot root sequence diff changes hempty
    split
    · rename_i hnone
      rw [hnone] at hpaths
      refine iff_of_true ((nodup_fromOperations _).filter _) (fun paths h => ?_)
      rw [← hpaths] at h
      cases h
    · rename_i files hfiles
      rw [hfiles, Option.map_some] at hpaths
      rw [← hpaths, map_append, filter_append, nodup_append]
      constructor
      · rintro ⟨hnodup, -⟩ paths h
        rw [← Option.some.inj h]
        exact hnodup
      · intro h
        refine ⟨h _ rfl, (nodup_fromOperations _).filter _, fun a ha b hb hab => ?_⟩
        subst hab
        obtain ⟨c, hc, rfl⟩ := mem_fromOperations (mem_filter.1 hb).1
        have hout := (mem_filter.1 hc).2
        rw [Bool.not_eq_true', ← Bool.not_eq_true, contains_iff_mem] at hout
        exact hout (mem_filter.1 ha).1

/-! ## Ids -/

section

variable {existing : Text → Option String} {fresh : Nat → String}

theorem paths_assignIds (existing : Text → Option String) (fresh : Nat → String) : ∀ (n : Nat) (files : List ChangedFileDetail),
    (assignIds existing fresh n files).map ChangedFileDetail.path = files.map ChangedFileDetail.path
  | _, [] => rfl
  | n, file :: files => by
    simp only [assignIds]
    split <;> rw [map_cons, map_cons, paths_assignIds existing fresh _ files]

theorem id_assignIds : ∀ (n : Nat) (files : List ChangedFileDetail), ∀ file ∈ assignIds existing fresh n files,
    existing file.path = some file.evidenceFileId ∨ (existing file.path = none ∧ ∃ k, n ≤ k ∧ file.evidenceFileId = fresh k)
  | _, [], _, h => by cases h
  | n, file :: files, x, h => by
    simp only [assignIds] at h
    split at h
    · rename_i id hid
      rcases mem_cons.1 h with rfl | h
      · exact .inl hid
      · exact id_assignIds n files x h
    · rename_i hnone
      rcases mem_cons.1 h with rfl | h
      · exact .inr ⟨hnone, n, Nat.le_refl n, rfl⟩
      rcases id_assignIds (n + 1) files x h with hx | ⟨hx, k, hk, hid⟩
      · exact .inl hx
      · exact .inr ⟨hx, k, Nat.le_of_succ_le hk, hid⟩

theorem nodup_assignIds (hexisting : ∀ p q id, existing p = some id → existing q = some id → p = q)
    (hfresh : Function.Injective fresh) (hnew : ∀ n p, existing p ≠ some (fresh n)) :
    ∀ (n : Nat) (files : List ChangedFileDetail), (files.map ChangedFileDetail.path).Nodup →
      ((assignIds existing fresh n files).map ChangedFileDetail.evidenceFileId).Nodup
  | _, [], _ => nodup_nil
  | n, file :: files, h => by
    rw [map_cons, nodup_cons] at h
    simp only [assignIds]
    split
    · rename_i id hid
      rw [map_cons, nodup_cons]
      refine ⟨fun hmem => ?_, nodup_assignIds hexisting hfresh hnew n files h.2⟩
      obtain ⟨x, hx, hxid⟩ := mem_map.1 hmem
      rcases id_assignIds n files x hx with hold | ⟨-, k, -, hk⟩
      · have hpath := hexisting _ _ _ (hxid ▸ hold) hid
        refine h.1 ?_
        have hmem := mem_map_of_mem (f := ChangedFileDetail.path) hx
        rwa [paths_assignIds existing fresh, hpath] at hmem
      · exact hnew k file.path (by rw [hid, ← hk, hxid])
    · rw [map_cons, nodup_cons]
      refine ⟨fun hmem => ?_, nodup_assignIds hexisting hfresh hnew (n + 1) files h.2⟩
      obtain ⟨x, hx, hxid⟩ := mem_map.1 hmem
      rcases id_assignIds (n + 1) files x hx with hold | ⟨-, k, hle, hk⟩
      · exact hnew n x.path (by rw [hold, hxid])
      have := hfresh (hk.symm.trans hxid)
      omega

end

/-! ## Totals -/

theorem filterMap_knownPair : ∀ counts : List (Option Nat × Option Nat), (∀ c ∈ counts, c.1.isSome ∧ c.2.isSome) →
    counts.filterMap knownPair = counts.map (fun c => (c.1.getD 0, c.2.getD 0))
  | [], _ => rfl
  | (some a, some d) :: counts, h => by
    rw [filterMap_cons_some (f := knownPair) rfl,
      filterMap_knownPair counts (fun c hc => h c (mem_cons_of_mem _ hc))]
    rfl
  | (none, _) :: _, h => absurd (h _ (mem_cons_self ..)).1 (by simp)
  | (some _, none) :: _, h => absurd (h _ (mem_cons_self ..)).2 (by simp)

theorem sumKnownCounts_of_known (counts : List (Option Nat × Option Nat)) (hknown : ∀ c ∈ counts, c.1.isSome ∧ c.2.isSome)
    (hne : counts ≠ []) :
    sumKnownCounts counts = (some (counts.map (fun c => c.1.getD 0)).sum, some (counts.map (fun c => c.2.getD 0)).sum) := by
  unfold sumKnownCounts
  simp only [filterMap_knownPair counts hknown, map_map]
  rw [if_neg (by simpa using hne)]
  rfl

variable (agentRunId : String) (executionEpoch : Nat) (completedAt : String)

theorem totals_cardOf {files : List ChangedFileDetail}
    (hne : files ≠ []) (hknown : ∀ f ∈ files, f.additions.isSome ∧ f.deletions.isSome) :
    (cardOf agentRunId executionEpoch completedAt files).additions = some (files.map (fun f => f.additions.getD 0)).sum ∧
      (cardOf agentRunId executionEpoch completedAt files).deletions = some (files.map (fun f => f.deletions.getD 0)).sum := by
  have hall : files.all (fun file => file.additions.isSome && file.deletions.isSome) = true := by
    rw [all_eq_true]
    intro f hf
    simpa using hknown f hf
  have hsum := sumKnownCounts_of_known (files.map (fun file => (file.additions, file.deletions)))
    (fun c hc => by
      obtain ⟨f, hf, rfl⟩ := mem_map.1 hc
      exact hknown f hf) (by simpa using hne)
  simp only [cardOf, hall, if_true, hsum, map_map]
  exact ⟨rfl, rfl⟩

theorem noTotals_cardOf {files : List ChangedFileDetail}
    {f : ChangedFileDetail} (hf : f ∈ files) (hunknown : f.additions = none ∨ f.deletions = none) :
    (cardOf agentRunId executionEpoch completedAt files).additions = none ∧
      (cardOf agentRunId executionEpoch completedAt files).deletions = none := by
  have hall : files.all (fun file => file.additions.isSome && file.deletions.isSome) = false := by
    rw [all_eq_false]
    refine ⟨f, hf, ?_⟩
    rcases hunknown with h | h <;> simp [h]
  simp [cardOf, hall]

/-! ## The identity of the card -/

/-- The card lists each path once under an id of its own, keeps the ids that were there, and counts what it lists. -/
structure CardIdentity (existing : Text → Option String) (p : AggregatedProjection) : Prop where
  details : p.card.files = p.files.map ChangedFileDetail.summary
  paths : (p.card.files.map ChangedFileSummary.path).Nodup
  ids : (p.card.files.map ChangedFileSummary.evidenceFileId).Nodup
  kept : ∀ f ∈ p.card.files, ∀ id, existing f.path = some id → f.evidenceFileId = id
  fileCount : p.card.fileCount = p.card.files.length
  operationCount : p.card.operationCount = (p.card.files.map ChangedFileSummary.operationCount).sum
  totals : (∀ f ∈ p.card.files, f.additions.isSome ∧ f.deletions.isSome) →
    p.card.additions = some (p.card.files.map (fun f => f.additions.getD 0)).sum ∧
      p.card.deletions = some (p.card.files.map (fun f => f.deletions.getD 0)).sum
  noTotals : (∃ f ∈ p.card.files, f.additions = none ∨ f.deletions = none) → p.card.additions = none ∧ p.card.deletions = none

/-- No two sections of the last run snapshot that stay on the card name one path. -/
def DistinctSections (evidence : List SequencedEvidence) : Prop :=
  ∀ diff, latestSnapshot evidence = some diff → ∀ paths, snapshotPaths root diff = some paths →
    (paths.filter (fun path => !(excludedPaths root evidence).contains path)).Nodup

theorem nodup_listedFiles (evidence : List SequencedEvidence) :
    ((listedFiles root (gather root evidence)).map ChangedFileDetail.path).Nodup ↔ DistinctSections root evidence := by
  have hfilter : (listedFiles root (gather root evidence)).map ChangedFileDetail.path =
      ((gatheredFiles root (gather root evidence)).map ChangedFileDetail.path).filter
        (fun path => !(excludedPaths root evidence).contains path) := by
    rw [listedFiles, gather_paths, filter_map]
    rfl
  rw [hfilter, DistinctSections, ← gather_snapshot root evidence, gatheredFiles]
  cases (gather root evidence).latestRunSnapshot with
  | none =>
    refine iff_of_true ((nodup_fromOperations _).filter _) (fun diff h => ?_)
    cases h
  | some snapshot =>
    obtain ⟨sequence, diff⟩ := snapshot
    simp [nodup_withSnapshot]

/-- **When the card identifies its files**: for every list of evidence, root and map of earlier ids, the projection has the
identity properties exactly when no two sections of the snapshot that stay on the card name one path. -/
theorem aggregate_identity_iff (root : ExecutionRoot)
    (evidence : List SequencedEvidence) (existing : Text → Option String) (fresh : Nat → String)
    (hexisting : ∀ p q id, existing p = some id → existing q = some id → p = q) (hfresh : Function.Injective fresh)
    (hnew : ∀ n p, existing p ≠ some (fresh n)) (p : AggregatedProjection)
    (h : aggregateEvidenceWithExistingIds agentRunId executionEpoch completedAt root evidence existing fresh = some p) :
    CardIdentity existing p ↔ DistinctSections root evidence := by
  unfold aggregateEvidenceWithExistingIds at h
  simp only at h
  split at h
  · cases h
  rename_i hne
  rw [Option.some.injEq] at h
  subst h
  have hsummaries : ∀ {β : Type} (f : ChangedFileSummary → β) (files : List ChangedFileDetail),
      (files.map ChangedFileDetail.summary).map f = files.map (fun file => f file.summary) := fun f files => by
    rw [map_map]
    rfl
  have hpaths := paths_assignIds existing fresh 0 (listedFiles root (gather root evidence))
  have hnonempty : assignIds existing fresh 0 (listedFiles root (gather root evidence)) ≠ [] := by
    intro hnil
    rw [hnil] at hpaths
    refine hne ?_
    rw [List.isEmpty_iff]
    exact List.map_eq_nil_iff.1 hpaths.symm
  rw [← nodup_listedFiles]
  constructor
  · intro hidentity
    have hnodup := hidentity.paths
    simp only [cardOf, hsummaries] at hnodup
    exact hpaths ▸ hnodup
  · intro hnodup
    refine ⟨rfl, ?_, ?_, ?_, ?_, ?_, ?_, ?_⟩
    · simp only [cardOf, hsummaries]
      exact hpaths.symm ▸ hnodup
    · simp only [cardOf, hsummaries]
      exact nodup_assignIds hexisting hfresh hnew 0 _ hnodup
    · simp only [cardOf]
      intro f hf id hid
      obtain ⟨file, hfile, rfl⟩ := mem_map.1 hf
      rcases id_assignIds 0 _ file hfile with hold | ⟨hnone, -⟩
      · exact Option.mem_unique hold hid
      · exact absurd (hnone.symm.trans hid) (by simp)
    · simp [cardOf]
    · simp only [cardOf, hsummaries]
      rfl
    · intro hknown
      have htotals := totals_cardOf agentRunId executionEpoch completedAt hnonempty (fun f hf =>
        hknown f.summary (mem_map_of_mem hf))
      simp only [htotals]
      simp only [cardOf, hsummaries]
      exact ⟨rfl, rfl⟩
    · rintro ⟨f, hf, hunknown⟩
      obtain ⟨file, hfile, rfl⟩ := mem_map.1 hf
      exact noTotals_cardOf agentRunId executionEpoch completedAt hfile hunknown

def rewrittenEvidence : List SequencedEvidence :=
  [{ id := "e", sequence := 1
     payload := .obj [("runtimeDiff", .obj [("entries", .arr [.obj [("after", .str "b"), ("before", .str "a"), ("path", .str "x")]]),
       ("semanticKind", .str "full_before_after"), ("status", .str "available")])] }]

def typeChangeEvidence : List SequencedEvidence :=
  [{ id := "e", sequence := 1
     payload := .obj [("runtimeRunDiff", .obj [("diff", .str ("diff --git a/x b/x\ndeleted file mode 100644\n@@ -1 +0,0 @@\n-a\n"
       ++ "diff --git a/x b/x\nnew file mode 120000\n@@ -0,0 +1 @@\n+b\n")), ("status", .str "available")])] }]

def repository : ExecutionRoot := { path := "/repo".toList, urlFilePath := fun _ => none }

def countedId (n : Nat) : String := String.ofList (List.replicate n 'f')

theorem countedId_injective : Function.Injective countedId := fun a b h => by
  have := congrArg (fun s : String => s.toList.length) h
  simpa [countedId] using this

theorem aggregate_identity_rewritten : ∃ p,
    aggregateEvidenceWithExistingIds "run" 1 "" repository rewrittenEvidence (fun _ => none) countedId = some p ∧
      CardIdentity (fun _ => none) p := by
  refine ⟨_, rfl, (aggregate_identity_iff "run" 1 "" repository rewrittenEvidence (fun _ => none) countedId
    (fun _ _ _ h => by cases h) countedId_injective (fun _ _ h => by cases h) _ rfl).2 ?_⟩
  intro diff h
  have hnone : latestSnapshot rewrittenEvidence = none := by decide
  rw [hnone] at h
  cases h

theorem aggregate_lists_twice :
    (aggregateEvidenceWithExistingIds "run" 1 "" repository typeChangeEvidence (fun _ => none) countedId).map
      (fun p => p.card.files.map ChangedFileSummary.path) = some [['x'], ['x']] := by
  decide +kernel

end Rovai
