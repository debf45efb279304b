import RovaiCore.FileChangeIdentity
import RovaiCore.JsonFields
import RovaiCore.ListRules
/-!
# The card is a function of the file facts

What a card shows, apart from the sequence numbers of its blocks and the ids of its files, is a function of the facts in the
evidence (`view_of_facts`): the payloads that carry file facts, in the order of their sequences, each read through
`fileFactProjection` only.
-/
namespace Rovai

open Lines (Text)
open List

/-! ## What a card shows -/

def ObservedChange.unsequenced (c : ObservedChange) : ObservedChange := { c with sequence := 0 }

def FileChangeBlock.unsequenced (b : FileChangeBlock) : FileChangeBlock := { b with sequence := 0 }

def ChangedFileDetail.shown (d : ChangedFileDetail) : ChangedFileDetail :=
  { d with evidenceFileId := "", blocks := d.blocks.map FileChangeBlock.unsequenced }

structure ProjectionView where
  files : List ChangedFileDetail
  (fileCount operationCount : Nat)
  (additions deletions : Option Nat)
  deriving DecidableEq

/-- What a projection shows: files, change and presentation kinds, counts and diffs. -/
def AggregatedProjection.view (p : AggregatedProjection) : ProjectionView where
  files := p.files.map ChangedFileDetail.shown
  fileCount := p.card.fileCount
  operationCount := p.card.operationCount
  additions := p.card.additions
  deletions := p.card.deletions

def viewOfFiles (files : List ChangedFileDetail) : Option ProjectionView :=
  if files.isEmpty then none
  else some {
    files := files
    fileCount := (cardOf "" 0 "" files).fileCount
    operationCount := (cardOf "" 0 "" files).operationCount
    additions := (cardOf "" 0 "" files).additions
    deletions := (cardOf "" 0 "" files).deletions }

/-! ## Sequences are labels -/

theorem operationBlock_unsequenced (c : ObservedChange) : (operationBlock c).unsequenced = operationBlock c.unsequenced := by
  unfold operationBlock ObservedChange.unsequenced
  cases c.semantics <;> rfl

theorem blocks_unsequenced (operations : List ObservedChange) :
    (operations.map operationBlock).map FileChangeBlock.unsequenced =
      (operations.map ObservedChange.unsequenced).map operationBlock := by
  rw [map_map, map_map]
  exact map_congr_left (fun c _ => operationBlock_unsequenced c)

theorem combinedChangeKind_unsequenced (operations : List ObservedChange) :
    combinedChangeKind (operations.map ObservedChange.unsequenced) = combinedChangeKind operations := by
  unfold combinedChangeKind
  rw [map_map]
  rfl

variable (path : Text)

theorem historyDetail_shown (kind : PresentationKind) (operations : List ObservedChange) :
    (historyDetail path kind operations).shown = historyDetail path kind (operations.map ObservedChange.unsequenced) := by
  have hcounts : (operations.map operationBlock).map (fun b => (b.additions, b.deletions)) =
      ((operations.map ObservedChange.unsequenced).map operationBlock).map (fun b => (b.additions, b.deletions)) := by
    rw [← blocks_unsequenced, map_map, map_map, map_map]
    rfl
  simp only [historyDetail, ChangedFileDetail.shown, combinedChangeKind_unsequenced, blocks_unsequenced, hcounts, length_map]

theorem operationOnlyDetail_shown (count : Nat) (operations : List ObservedChange) :
    (operationOnlyDetail path count operations).shown =
      operationOnlyDetail path count (operations.map ObservedChange.unsequenced) := by
  simp only [operationOnlyDetail, ChangedFileDetail.shown, combinedChangeKind_unsequenced, blocks_unsequenced]

theorem continuousState_unsequenced : ∀ (operations : List ObservedChange) (current : Option Text),
    continuousState current (operations.map ObservedChange.unsequenced) = continuousState current operations
  | [], _ => rfl
  | c :: operations, current => by
    rw [map_cons, continuousState, continuousState]
    simp only [ObservedChange.unsequenced]
    cases c.semantics with
    | fullBeforeAfter before after =>
      simp only
      rw [← continuousState_unsequenced operations after]
    | _ => rfl

theorem continuousFullStateDetail_shown : ∀ operations : List ObservedChange,
    (continuousFullStateDetail path operations).map ChangedFileDetail.shown =
      continuousFullStateDetail path (operations.map ObservedChange.unsequenced)
  | [] => rfl
  | first :: rest => by
    rw [map_cons, continuousFullStateDetail, continuousFullStateDetail]
    simp only [continuousState_unsequenced]
    have hfirst : first.unsequenced.semantics = first.semantics := rfl
    rw [hfirst]
    cases first.semantics with
    | fullBeforeAfter baseline after =>
      simp only
      cases continuousState after rest with
      | none => exact congrArg some (historyDetail_shown path .operationHistory (first :: rest))
      | some current =>
        simp only
        split
        · rfl
        rw [Option.map_map, length_cons, length_cons, length_map]
        rfl
    | _ => rfl

theorem all_unsequenced (p : ObservedChange → Bool) (hp : ∀ c, p c.unsequenced = p c) (operations : List ObservedChange) :
    (operations.map ObservedChange.unsequenced).all p = operations.all p := by
  rw [all_map]
  exact congrArg operations.all (funext hp)

theorem filter_unsequenced (p : ObservedChange → Bool) (hp : ∀ c, p c.unsequenced = p c) (operations : List ObservedChange) :
    (operations.map ObservedChange.unsequenced).filter p = (operations.filter p).map ObservedChange.unsequenced := by
  rw [filter_map]
  exact congrArg (fun q => (operations.filter q).map ObservedChange.unsequenced) (funext hp)

theorem fileDetailFromDiffOperations_shown (operations : List ObservedChange) :
    (fileDetailFromDiffOperations path operations).map ChangedFileDetail.shown =
      fileDetailFromDiffOperations path (operations.map ObservedChange.unsequenced) := by
  unfold fileDetailFromDiffOperations
  rw [all_unsequenced isFullBeforeAfter (fun _ => rfl), all_unsequenced isExactMutation (fun _ => rfl),
    all_unsequenced isReportedMutation (fun _ => rfl)]
  split
  · exact continuousFullStateDetail_shown path operations
  match operations with
  | [] => exact congrArg some (historyDetail_shown path _ _)
  | [⟨sequence, changePath, kind, semantics⟩] =>
    cases semantics with
    | unifiedDiffSnapshot diff => rfl
    | _ => exact congrArg some (historyDetail_shown path _ _)
  | ⟨_, _, _, semantics⟩ :: _ :: _ =>
    cases semantics <;> exact congrArg some (historyDetail_shown path _ _)

theorem fileDetailFromOperations_shown (operations : List ObservedChange) :
    (fileDetailFromOperations path operations).map ChangedFileDetail.shown =
      fileDetailFromOperations path (operations.map ObservedChange.unsequenced) := by
  unfold fileDetailFromOperations
  simp only [filter_unsequenced isOperationOnly (fun _ => rfl), filter_unsequenced (fun c => !isOperationOnly c) (fun _ => rfl),
    isEmpty_map, length_map, ← fileDetailFromDiffOperations_shown, combinedChangeKind_unsequenced,
    ← blocks_unsequenced]
  split
  · exact congrArg some (operationOnlyDetail_shown path _ _)
  cases fileDetailFromDiffOperations path (operations.filter (fun c => !isOperationOnly c)) with
  | none =>
    simp only [Option.map_none]
    split
    · rfl
    · exact congrArg some (operationOnlyDetail_shown path _ _)
  | some detail =>
    simp only [Option.map_some]
    split <;> rfl

def InSequence (changes : List ObservedChange) : Prop := changes.Pairwise (fun a b => a.sequence ≤ b.sequence)

theorem inSequence_unsequenced (changes : List ObservedChange) : InSequence (changes.map ObservedChange.unsequenced) := by
  rw [InSequence, pairwise_map]
  exact pairwise_of_forall (fun _ _ => Nat.le_refl 0)

variable {changes : List ObservedChange}

theorem changesAt_of_inSequence (h : InSequence changes) (path : Text) :
    changesAt changes path = changes.filter (fun c => c.path = path) :=
  (List.Pairwise.filter _ h).insertionSort_eq

theorem fileDetailsFromOperations_shown (h : InSequence changes) :
    (fileDetailsFromOperations changes).map ChangedFileDetail.shown =
      fileDetailsFromOperations (changes.map ObservedChange.unsequenced) := by
  have hpaths : sortedPaths (changes.map ObservedChange.unsequenced) = sortedPaths changes := by
    unfold sortedPaths
    rw [map_map]
    rfl
  unfold fileDetailsFromOperations
  rw [map_filterMap, hpaths]
  refine congrArg (fun f => (sortedPaths changes).filterMap f) (funext fun path => ?_)
  rw [fileDetailFromOperations_shown, changesAt_of_inSequence h, changesAt_of_inSequence (inSequence_unsequenced changes),
    filter_unsequenced _ (fun _ => rfl)]

/-! ## The snapshot -/

theorem observedCount_unsequenced (changes : List ObservedChange) (path : Text) :
    observedCount (changes.map ObservedChange.unsequenced) path = observedCount changes path := by
  unfold observedCount
  rw [countP_map]
  rfl

variable (root : ExecutionRoot) (sequence : Nat)

theorem fileOfSection_shown (changes : List ObservedChange) (part : Text) :
    (fileOfSection root sequence changes part).map ChangedFileDetail.shown =
      fileOfSection root 0 (changes.map ObservedChange.unsequenced) part := by
  unfold fileOfSection
  cases unifiedDiffSectionIdentity part with
  | none => rfl
  | some identity =>
    simp only [Option.bind_some, observedCount_unsequenced, Option.map_map]
    rfl

theorem fileDetailsFromAuthoritativeSnapshot_shown (diff : Text)
    (changes : List ObservedChange) :
    (fileDetailsFromAuthoritativeSnapshot root sequence diff changes).map (List.map ChangedFileDetail.shown) =
      fileDetailsFromAuthoritativeSnapshot root 0 diff (changes.map ObservedChange.unsequenced) := by
  unfold fileDetailsFromAuthoritativeSnapshot
  simp only
  split
  · rfl
  rw [mapM_map]
  exact congrArg (fun f => (splitUnifiedDiffSections diff).mapM f) (funext (fileOfSection_shown root sequence changes))

theorem fileDetailsWithAuthoritativeSnapshot_shown (diff : Text)
    (h : InSequence changes) :
    (fileDetailsWithAuthoritativeSnapshot root sequence diff changes).map ChangedFileDetail.shown =
      fileDetailsWithAuthoritativeSnapshot root 0 diff (changes.map ObservedChange.unsequenced) := by
  unfold fileDetailsWithAuthoritativeSnapshot
  simp only [filter_unsequenced (fun c => isAbsolute c.path) (fun _ => rfl)]
  split
  · exact fileDetailsFromOperations_shown (List.Pairwise.filter _ h)
  rw [← fileDetailsFromAuthoritativeSnapshot_shown root sequence]
  cases fileDetailsFromAuthoritativeSnapshot root sequence diff changes with
  | none => exact fileDetailsFromOperations_shown h
  | some files =>
    have hpaths : (files.map ChangedFileDetail.shown).map ChangedFileDetail.path = files.map ChangedFileDetail.path := by
      rw [map_map]
      rfl
    simp only [Option.map_some, hpaths, map_append]
    rw [filter_unsequenced _ (fun _ => rfl),
      ← fileDetailsFromOperations_shown (List.Pairwise.filter _ (List.Pairwise.filter _ h))]

/-! ## The changes of one item -/

def itemChanges (payload : Json) : List ObservedChange :=
  appendOperationOnlyChange root (diffChanges root sequence payload) sequence payload

section

variable {root : ExecutionRoot} {sequence : Nat}

theorem sequence_observedOfEntry {single : Option Text} {diff entry : Json} {c : ObservedChange}
    (h : observedOfEntry root single diff sequence entry = some c) : c.sequence = sequence := by
  unfold observedOfEntry at h
  obtain ⟨rawPath, -, h⟩ := Option.bind_eq_some_iff.1 h
  obtain ⟨path, -, h⟩ := Option.bind_eq_some_iff.1 h
  obtain ⟨semantics, -, rfl⟩ := Option.map_eq_some_iff.1 h
  rfl

variable {payload : Json}

theorem sequence_diffChanges : ∀ c ∈ diffChanges root sequence payload, c.sequence = sequence := by
  intro c hc
  unfold diffChanges at hc
  split at hc
  · cases hc
  unfold changesOfDiff at hc
  split at hc
  · cases hc
  split at hc
  · cases hc
  obtain ⟨entry, -, h⟩ := mem_filterMap.1 hc
  exact sequence_observedOfEntry h

theorem observedOfEntry_unsequenced (single : Option Text) (diff : Json) (sequence : Nat) (entry : Json) :
    (observedOfEntry root single diff sequence entry).map ObservedChange.unsequenced = observedOfEntry root single diff 0 entry := by
  unfold observedOfEntry
  rw [Option.map_bind]
  refine congrArg _ (funext fun rawPath => ?_)
  simp only [Function.comp_apply]
  rw [Option.map_bind]
  refine congrArg _ (funext fun path => ?_)
  simp only [Function.comp_apply]
  rw [Option.map_map]
  rfl

theorem diffChanges_unsequenced (sequence : Nat) (payload : Json) :
    (diffChanges root sequence payload).map ObservedChange.unsequenced = diffChanges root 0 payload := by
  unfold diffChanges
  split
  · rfl
  unfold changesOfDiff
  split
  · rfl
  split
  · rfl
  rw [map_filterMap]
  exact congrArg (fun f => List.filterMap f _) (funext (observedOfEntry_unsequenced _ _ sequence))

theorem takeWhile_own (acc : List ObservedChange) {own : List ObservedChange} (hown : ∀ c ∈ own, c.sequence = sequence)
    (hacc : ∀ c ∈ acc, c.sequence ≠ sequence) :
    (acc ++ own).reverse.takeWhile (fun c => c.sequence = sequence) = own.reverse := by
  rw [reverse_append, takeWhile_append_of_pos (fun c hc => by simpa using hown c (mem_reverse.1 hc))]
  cases hr : acc.reverse with
  | nil => simp
  | cons c cs =>
    have hc : c ∈ acc := mem_reverse.1 (hr ▸ mem_cons_self ..)
    rw [takeWhile_cons_of_neg (by simpa using hacc c hc), append_nil]

theorem appendOperationOnlyChange_append {acc own : List ObservedChange}
    (hown : ∀ c ∈ own, c.sequence = sequence) (hacc : ∀ c ∈ acc, c.sequence ≠ sequence) :
    appendOperationOnlyChange root (acc ++ own) sequence payload =
      acc ++ appendOperationOnlyChange root own sequence payload := by
  have hown' := takeWhile_own [] hown (fun _ h => by cases h)
  rw [nil_append] at hown'
  unfold appendOperationOnlyChange
  rw [takeWhile_own acc hown hacc, hown']
  split
  · rfl
  split
  · split
    · rfl
    · exact append_assoc ..
  · rfl

theorem appendOperationOnlyChange_unsequenced {own : List ObservedChange}
    (hown : ∀ c ∈ own, c.sequence = sequence) :
    (appendOperationOnlyChange root own sequence payload).map ObservedChange.unsequenced =
      appendOperationOnlyChange root (own.map ObservedChange.unsequenced) 0 payload := by
  have h := takeWhile_own [] hown (fun _ h => by cases h)
  have hzero : ∀ c ∈ own.map ObservedChange.unsequenced, c.sequence = 0 := by
    intro c hc
    obtain ⟨c, -, rfl⟩ := mem_map.1 hc
    rfl
  have h' := takeWhile_own [] hzero (fun _ h => by cases h)
  rw [nil_append] at h h'
  unfold appendOperationOnlyChange
  rw [h, h']
  split
  · rfl
  split
  · rename_i operation path _ _
    have hany : (own.map ObservedChange.unsequenced).reverse.any (fun c => c.path = path) =
        own.reverse.any (fun c => c.path = path) := by
      rw [← map_reverse, any_map]
      rfl
    rw [hany]
    split
    · rfl
    rw [map_append]
    rfl
  · rfl

theorem sequence_itemChanges : ∀ c ∈ itemChanges root sequence payload, c.sequence = sequence := by
  intro c hc
  unfold itemChanges appendOperationOnlyChange at hc
  split at hc
  · exact sequence_diffChanges c hc
  split at hc
  · split at hc
    · exact sequence_diffChanges c hc
    rcases mem_append.1 hc with h | h
    · exact sequence_diffChanges c h
    · rw [mem_singleton.1 h]
  · exact sequence_diffChanges c hc

theorem itemChanges_unsequenced (sequence : Nat) (payload : Json) :
    (itemChanges root sequence payload).map ObservedChange.unsequenced = itemChanges root 0 payload := by
  unfold itemChanges
  rw [appendOperationOnlyChange_unsequenced sequence_diffChanges, diffChanges_unsequenced]

/-! ## Evidence in order -/

def Ordered (evidence : List SequencedEvidence) : Prop := evidence.Pairwise (fun a b => a.sequence < b.sequence)

theorem foldl_item_changes : ∀ (evidence : List SequencedEvidence) (acc : Gathered), Ordered evidence →
    (∀ c ∈ acc.changes, ∀ item ∈ evidence, c.sequence < item.sequence) →
    (evidence.foldl (Gathered.item root) acc).changes =
      acc.changes ++ evidence.flatMap (fun item => itemChanges root item.sequence item.payload)
  | [], acc, _, _ => by simp
  | item :: evidence, acc, hordered, hacc => by
    obtain ⟨hitem, hrest⟩ := pairwise_cons.1 hordered
    have hstep : (acc.item root item).changes = acc.changes ++ itemChanges root item.sequence item.payload :=
      appendOperationOnlyChange_append sequence_diffChanges
        (fun c hc => Nat.ne_of_lt (hacc c hc item (mem_cons_self ..)))
    rw [foldl_cons, foldl_item_changes evidence _ hrest ?_, hstep, append_assoc, flatMap_cons]
    intro c hc later hlater
    rw [hstep] at hc
    rcases mem_append.1 hc with h | h
    · exact hacc c h later (mem_cons_of_mem item hlater)
    rw [sequence_itemChanges c h]
    exact hitem later hlater

variable {evidence : List SequencedEvidence}

theorem gather_changes (h : Ordered evidence) :
    (gather root evidence).changes = evidence.flatMap (fun item => itemChanges root item.sequence item.payload) :=
  foldl_item_changes evidence ⟨[], none, [], []⟩ h (fun _ hc => by cases hc)

theorem inSequence_gather : ∀ {evidence : List SequencedEvidence}, Ordered evidence →
    InSequence (evidence.flatMap (fun item => itemChanges root item.sequence item.payload))
  | [], _ => List.Pairwise.nil
  | item :: evidence, h => by
    obtain ⟨hitem, hrest⟩ := pairwise_cons.1 h
    rw [flatMap_cons, InSequence, pairwise_append]
    refine ⟨pairwise_of_forall_mem_list (fun a ha b hb => ?_), inSequence_gather hrest, fun a ha b hb => ?_⟩
    · rw [sequence_itemChanges a ha, sequence_itemChanges b hb]
    obtain ⟨later, hlater, hb⟩ := mem_flatMap.1 hb
    rw [sequence_itemChanges a ha, sequence_itemChanges b hb]
    exact Nat.le_of_lt (hitem later hlater)

def shownFiles (root : ExecutionRoot) (payloads : List Json) : List ChangedFileDetail :=
  let changes := payloads.flatMap (itemChanges root 0)
  let excluded := payloads.filterMap (sendInputPath root)
  (match (payloads.filterMap runSnapshot).getLast? with
    | some diff => fileDetailsWithAuthoritativeSnapshot root 0 diff changes
    | none => fileDetailsFromOperations changes).filter (fun file => !excluded.contains file.path)

theorem listedFiles_shown (h : Ordered evidence) :
    (listedFiles root (gather root evidence)).map ChangedFileDetail.shown =
      shownFiles root (evidence.map SequencedEvidence.payload) := by
  have hchanges : (gather root evidence).changes.map ObservedChange.unsequenced =
      (evidence.map SequencedEvidence.payload).flatMap (itemChanges root 0) := by
    rw [gather_changes h, map_flatMap, flatMap_map]
    exact congrArg (fun f => evidence.flatMap f) (funext fun item => itemChanges_unsequenced item.sequence item.payload)
  have hinSequence : InSequence (gather root evidence).changes := by
    rw [gather_changes h]
    exact inSequence_gather h
  have hexcluded : (gather root evidence).sendInputPaths =
      (evidence.map SequencedEvidence.payload).filterMap (sendInputPath root) := by
    rw [gather_paths, filterMap_map]
    rfl
  have hsnapshot : (gather root evidence).latestRunSnapshot.map Prod.snd =
      ((evidence.map SequencedEvidence.payload).filterMap runSnapshot).getLast? := by
    rw [gather_snapshot, filterMap_map]
    rfl
  have hfilter : ∀ (files : List ChangedFileDetail) (excluded : List Text),
      (files.filter (fun file => !excluded.contains file.path)).map ChangedFileDetail.shown =
        (files.map ChangedFileDetail.shown).filter (fun file => !excluded.contains file.path) := by
    intro files excluded
    rw [filter_map]
    rfl
  unfold listedFiles shownFiles
  simp only
  rw [hfilter, ← hsnapshot, ← hchanges, ← hexcluded]
  refine congrArg (fun files => List.filter _ files) ?_
  unfold gatheredFiles
  cases (gather root evidence).latestRunSnapshot with
  | none => exact fileDetailsFromOperations_shown hinSequence
  | some snapshot => exact fileDetailsWithAuthoritativeSnapshot_shown root snapshot.1 snapshot.2 hinSequence

theorem shown_assignIds (existing : Text → Option String) (fresh : Nat → String) : ∀ (n : Nat) (files : List ChangedFileDetail),
    (assignIds existing fresh n files).map ChangedFileDetail.shown = files.map ChangedFileDetail.shown
  | _, [] => rfl
  | n, file :: files => by
    simp only [assignIds]
    split <;> rw [map_cons, map_cons, shown_assignIds existing fresh _ files] <;> rfl

theorem cardOf_shown (agentRunId : String) (executionEpoch : Nat) (completedAt : String) (files : List ChangedFileDetail) :
    (cardOf agentRunId executionEpoch completedAt files).fileCount = (cardOf "" 0 "" (files.map ChangedFileDetail.shown)).fileCount ∧
    (cardOf agentRunId executionEpoch completedAt files).operationCount =
      (cardOf "" 0 "" (files.map ChangedFileDetail.shown)).operationCount ∧
    (cardOf agentRunId executionEpoch completedAt files).additions = (cardOf "" 0 "" (files.map ChangedFileDetail.shown)).additions ∧
    (cardOf agentRunId executionEpoch completedAt files).deletions =
      (cardOf "" 0 "" (files.map ChangedFileDetail.shown)).deletions := by
  have hall : (files.map ChangedFileDetail.shown).all (fun file => file.additions.isSome && file.deletions.isSome) =
      files.all (fun file => file.additions.isSome && file.deletions.isSome) := by
    rw [all_map]
    rfl
  refine ⟨(length_map ..).symm, ?_, ?_, ?_⟩
  · simp only [cardOf, map_map]
    rfl
  · simp only [cardOf, map_map, hall]
    rfl
  · simp only [cardOf, map_map, hall]
    rfl

/-- **What a projection shows is a function of the payloads in order.** -/
theorem view_aggregate (agentRunId : String) (executionEpoch : Nat) (completedAt : String)
    (existing : Text → Option String) (fresh : Nat → String) (h : Ordered evidence) :
    (aggregateEvidenceWithExistingIds agentRunId executionEpoch completedAt root evidence existing fresh).map
        AggregatedProjection.view = viewOfFiles (shownFiles root (evidence.map SequencedEvidence.payload)) := by
  rw [← listedFiles_shown h]
  unfold aggregateEvidenceWithExistingIds viewOfFiles
  simp only [isEmpty_map]
  split
  · rfl
  obtain ⟨h1, h2, h3, h4⟩ := cardOf_shown agentRunId executionEpoch completedAt
    (assignIds existing fresh 0 (listedFiles root (gather root evidence)))
  rw [shown_assignIds] at h1 h2 h3 h4
  simp [AggregatedProjection.view, shown_assignIds, h1, h2, h3, h4]

end

/-! ## Facts -/

section

variable {root : ExecutionRoot} {p q : Json}

theorem pointer_two_eq (k l : String) (j : Json) : j.pointer [k, l] = (j.getD k).get? l := by
  rw [Json.pointer, Json.getD]
  cases j.get? k with
  | none => rfl
  | some v =>
    rw [Option.bind_some, Option.getD_some, Json.pointer]
    cases v.get? l <;> rfl

theorem normalizedFileOperationPath_eq (root : ExecutionRoot) (p : Json) :
    normalizedFileOperationPath root p = writePathOf root (p.getD "runtimeFileOperation") := by
  rw [normalizedFileOperationPath, Json.getD]
  cases p.get? "runtimeFileOperation" <;> rfl

theorem diffChanges_eq (root : ExecutionRoot) (sequence : Nat) (p : Json) : diffChanges root sequence p =
    changesOfDiff root (normalizedFileOperationPath root p) sequence (p.getD "runtimeDiff") := by
  rw [diffChanges, Json.getD]
  cases p.get? "runtimeDiff" <;> rfl

theorem appendOperationOnlyChange_eq (root : ExecutionRoot) (changes : List ObservedChange) (sequence : Nat) (p : Json) :
    appendOperationOnlyChange root changes sequence p =
      if reportsNoChanges p then changes
      else match writePathOf root (p.getD "runtimeFileOperation") with
        | some path =>
          if (changes.reverse.takeWhile (fun c => c.sequence = sequence)).any (fun c => c.path = path) then changes
          else changes ++ [⟨sequence, path, ((p.getD "runtimeFileOperation").strField "changeKind").getD "update", .operationOnly⟩]
        | none => changes := by
  rw [appendOperationOnlyChange, normalizedFileOperationPath_eq, Json.getD]
  cases p.get? "runtimeFileOperation" with
  | none => rfl
  | some operation =>
    rw [Option.getD_some]
    cases writePathOf root operation <;> rfl

structure SameFacts (p q : Json) : Prop where
  diff : p.getD "runtimeDiff" = q.getD "runtimeDiff"
  operation : p.getD "runtimeFileOperation" = q.getD "runtimeFileOperation"
  runDiff : p.getD "runtimeRunDiff" = q.getD "runtimeRunDiff"
  sendInput : successfulSendInputFilePath p = successfulSendInputFilePath q

theorem sameFacts_of_projection (h : fileFactProjection p = fileFactProjection q) : SameFacts p q := by
  have hmember : ∀ (p : Json) (k : String), (fileFactProjection p).getD k =
      (Json.lookupField k (fileFactMembers p ++ if hasFileFacts p then [("trustState", trustState p)] else [])).getD .null :=
    fun _ _ => rfl
  have hsend : Json.ofOptStr (successfulSendInputFilePath p) = Json.ofOptStr (successfulSendInputFilePath q) := by
    have := congrArg (Json.getD "sendInputFilePath") h
    rw [hmember, hmember] at this
    simpa [fileFactMembers, Json.lookupField] using this
  refine ⟨?_, ?_, ?_, ?_⟩
  · have := congrArg (Json.getD "runtimeDiff") h
    rw [hmember, hmember] at this
    simpa [fileFactMembers, Json.lookupField] using this
  · have := congrArg (Json.getD "runtimeFileOperation") h
    rw [hmember, hmember] at this
    simpa [fileFactMembers, Json.lookupField] using this
  · have := congrArg (Json.getD "runtimeRunDiff") h
    rw [hmember, hmember] at this
    simpa [fileFactMembers, Json.lookupField] using this
  · cases hp : successfulSendInputFilePath p <;> cases hq : successfulSendInputFilePath q <;>
      simp_all [Json.ofOptStr]

theorem itemChanges_of_facts (h : SameFacts p q) (sequence : Nat) : itemChanges root sequence p = itemChanges root sequence q := by
  have hno : reportsNoChanges p = reportsNoChanges q := by
    unfold reportsNoChanges
    rw [Json.strAt_eq, Json.strAt_eq, Json.strAt_eq, Json.strAt_eq, h.diff]
  unfold itemChanges
  rw [appendOperationOnlyChange_eq, appendOperationOnlyChange_eq, diffChanges_eq, diffChanges_eq, normalizedFileOperationPath_eq,
    normalizedFileOperationPath_eq, hno, h.diff, h.operation]

theorem runSnapshot_of_facts (h : SameFacts p q) : runSnapshot p = runSnapshot q := by
  unfold runSnapshot
  rw [pointer_two_eq, pointer_two_eq, Json.strAt_eq, Json.strAt_eq, h.runDiff]

theorem sendInputPath_of_facts (h : SameFacts p q) : sendInputPath root p = sendInputPath root q := by
  unfold sendInputPath
  rw [h.sendInput]

theorem projection_of_no_facts (h : hasFileFacts p = false) : fileFactProjection p = fileFactProjection .null := by
  have hmembers : fileFactMembers p = fileFactMembers .null := by
    rw [hasFileFacts, any_eq_false] at h
    have hnull : ∀ j : Json, ¬ (!j.isNull) = true → j = .null := by
      intro j hj
      cases j with
      | null => rfl
      | _ => exact absurd rfl hj
    have hvalue : ∀ f ∈ fileFactMembers p, f.2 = .null := fun f hf => hnull f.2 (h f hf)
    simp only [fileFactMembers, forall_mem_cons] at hvalue
    obtain ⟨h1, h2, h3, h4, h5, h6, -⟩ := hvalue
    simp only [fileFactMembers, h1, h2, h3, h4, h5, h6]
    rfl
  have hnone : hasFileFacts .null = false := by decide
  unfold fileFactProjection
  rw [h, hnone, hmembers]
  rfl

theorem shownFiles_filter (root : ExecutionRoot) (payloads : List Json) :
    shownFiles root (payloads.filter hasFileFacts) = shownFiles root payloads := by
  have hnull : ∀ p, hasFileFacts p = false → SameFacts p .null := fun p h => sameFacts_of_projection (projection_of_no_facts h)
  unfold shownFiles
  rw [Lists.flatMap_filter_of_nil (f := itemChanges root 0) (fun p _ h => itemChanges_of_facts (hnull p h) 0),
    Lists.filterMap_filter_of_none (f := sendInputPath root) (fun p h => sendInputPath_of_facts (hnull p h)),
    Lists.filterMap_filter_of_none (f := runSnapshot) (fun p h => runSnapshot_of_facts (hnull p h))]

theorem shownFiles_of_facts (root : ExecutionRoot) {payloads payloads' : List Json}
    (h : payloads.map fileFactProjection = payloads'.map fileFactProjection) :
    shownFiles root payloads = shownFiles root payloads' := by
  have hchanges := Lists.map_eq_of_map_eq (g := itemChanges root 0)
    (fun p q hpq => itemChanges_of_facts (sameFacts_of_projection hpq) 0) payloads payloads' h
  have hsend := Lists.map_eq_of_map_eq (g := sendInputPath root)
    (fun p q hpq => sendInputPath_of_facts (sameFacts_of_projection hpq)) payloads payloads' h
  have hsnapshot := Lists.map_eq_of_map_eq (g := runSnapshot)
    (fun p q hpq => runSnapshot_of_facts (sameFacts_of_projection hpq)) payloads payloads' h
  have hfilterMap : ∀ {β : Type} (f : Json → Option β) (l : List Json), l.filterMap f = (l.map f).filterMap (fun x => x) :=
    fun f l => by
      rw [filterMap_map]
      rfl
  unfold shownFiles
  rw [flatMap_def, flatMap_def, hchanges, hfilterMap (sendInputPath root), hfilterMap (sendInputPath root) payloads',
    hsend, hfilterMap runSnapshot, hfilterMap runSnapshot payloads', hsnapshot]

def evidenceFacts (evidence : List SequencedEvidence) : List Json :=
  ((evidence.map SequencedEvidence.payload).filter hasFileFacts).map fileFactProjection

/-- **What a projection shows is a function of the file facts in order.** -/
theorem view_of_facts {agentRunId completedAt agentRunId' completedAt' : String} {executionEpoch executionEpoch' : Nat}
    {evidence evidence' : List SequencedEvidence} {existing existing' : Text → Option String} {fresh fresh' : Nat → String}
    (h : Ordered evidence) (h' : Ordered evidence') (hfacts : evidenceFacts evidence = evidenceFacts evidence') :
    (aggregateEvidenceWithExistingIds agentRunId executionEpoch completedAt root evidence existing fresh).map
        AggregatedProjection.view =
      (aggregateEvidenceWithExistingIds agentRunId' executionEpoch' completedAt' root evidence' existing' fresh').map
        AggregatedProjection.view := by
  rw [view_aggregate _ _ _ _ _ h, view_aggregate _ _ _ _ _ h', ← shownFiles_filter, shownFiles_of_facts root hfacts,
    shownFiles_filter]

end

end Rovai
