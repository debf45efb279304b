import RovaiCore.FileChangeFacts
/-!
# The net change of one file

Without a run snapshot a file is made from the operations at its path alone (`filesAt_eq`).
-/
namespace Rovai

open Lines (Text splitInclusive)
open List
open Patch (hunkMark)

/-! ## States and links -/

def ObservedChange.before (c : ObservedChange) : Option Text := match c.semantics with
  | .fullBeforeAfter before _ => before
  | _ => none

def ObservedChange.after (c : ObservedChange) : Option Text := match c.semantics with
  | .fullBeforeAfter _ after => after
  | _ => none

def Follows (c d : ObservedChange) : Prop := d.before = c.after

instance (c d : ObservedChange) : Decidable (Follows c d) := inferInstanceAs (Decidable (_ = _))

def operationsAt (root : ExecutionRoot) (evidence : List SequencedEvidence) (path : Text) : List ObservedChange :=
  changesAt (gather root evidence).changes path

def filesAt (root : ExecutionRoot) (evidence : List SequencedEvidence) (path : Text) : List ChangedFileDetail :=
  (gatheredFiles root (gather root evidence)).filter (fun file => file.path = path)

structure ShowsNetDiff (file : ChangedFileDetail) (before after : Option Text) : Prop where
  presentation : file.presentationKind = .fullNetDiff
  changeKind : file.changeKind = changeKindOfStates before after
  patch : ∃ block patch hunk, file.blocks = [block] ∧ block.semantics = .fullNetDiff ∧ block.diff = some patch ∧
    Patch.readPatch patch = some hunk ∧ hunk.apply (stateLines before) = some (stateLines after)

structure ShowsHistory (file : ChangedFileDetail) (operations : List ObservedChange) : Prop where
  presentation : file.presentationKind = .operationHistory
  blocks : file.blocks = operations.map operationBlock
  ordered : (file.blocks.map FileChangeBlock.sequence).Pairwise (· ≤ ·)

structure NetChangeSound (root : ExecutionRoot) (evidence : List SequencedEvidence) (path : Text) : Prop where
  omitted : ∀ first rest, operationsAt root evidence path = first :: rest → (first :: rest).all isFullBeforeAfter →
    (first :: rest).IsChain Follows → first.before = ((first :: rest).getLast (cons_ne_nil _ _)).after →
    filesAt root evidence path = []
  net : ∀ first rest, operationsAt root evidence path = first :: rest → (first :: rest).all isFullBeforeAfter →
    (first :: rest).IsChain Follows → first.before ≠ ((first :: rest).getLast (cons_ne_nil _ _)).after →
    ∃ file, filesAt root evidence path = [file] ∧
      ShowsNetDiff file first.before ((first :: rest).getLast (cons_ne_nil _ _)).after
  broken : (operationsAt root evidence path).all isFullBeforeAfter → ¬ (operationsAt root evidence path).IsChain Follows →
    ∃ file, filesAt root evidence path = [file] ∧ ShowsHistory file (operationsAt root evidence path)
  own : ∀ evidence', (gather root evidence').latestRunSnapshot = none →
    operationsAt root evidence' path = operationsAt root evidence path → filesAt root evidence' path = filesAt root evidence path

def HasNetDiff (operations : List ObservedChange) : Prop :=
  ∃ first rest, operations = first :: rest ∧ operations.all isFullBeforeAfter ∧ operations.IsChain Follows ∧
    first.before ≠ ((first :: rest).getLast (cons_ne_nil _ _)).after

section

variable {root : ExecutionRoot} {evidence evidence' : List SequencedEvidence} {path : Text} {c first : ObservedChange}
variable {operations rest : List ObservedChange}

/-! ## The files of one path -/

theorem filter_filterMap (f : Text → Option ChangedFileDetail) (hf : ∀ path file, f path = some file → file.path = path)
    (path : Text) : ∀ {paths : List Text}, paths.Nodup →
    (paths.filterMap f).filter (fun file => file.path = path) = if path ∈ paths then (f path).toList else []
  | [], _ => rfl
  | p :: paths, hnodup => by
    obtain ⟨hp, hrest⟩ := nodup_cons.1 hnodup
    have ih := filter_filterMap f hf path hrest
    by_cases heq : p = path
    · subst heq
      rw [if_neg hp] at ih
      rw [if_pos mem_cons_self]
      cases hfile : f p with
      | none => rw [filterMap_cons_none hfile, ih]; rfl
      | some file =>
        rw [filterMap_cons_some hfile, filter_cons_of_pos (by simpa using hf p file hfile), ih]
        rfl
    · have hmem : path ∈ p :: paths ↔ path ∈ paths := by simp [Ne.symm heq]
      simp only [hmem]
      cases hfile : f p with
      | none => rw [filterMap_cons_none hfile, ih]
      | some file =>
        rw [filterMap_cons_some hfile, filter_cons_of_neg (by simpa [hf p file hfile] using heq), ih]

theorem mem_sortedPaths {changes : List ObservedChange} : path ∈ sortedPaths changes ↔ changesAt changes path ≠ [] := by
  rw [sortedPaths, mem_insertionSort, mem_dedup, mem_map, ne_eq, eq_nil_iff_forall_not_mem]
  simp [changesAt]

/-- **A path's files are made from its own operations.** -/
theorem filesAt_eq (hsnap : (gather root evidence).latestRunSnapshot = none) :
    filesAt root evidence path = if operationsAt root evidence path = [] then []
      else (fileDetailFromOperations path (operationsAt root evidence path)).toList := by
  rw [filesAt, gatheredFiles, hsnap]
  simp only [fileDetailsFromOperations]
  rw [filter_filterMap (fun path => fileDetailFromOperations path (changesAt (gather root evidence).changes path))
    (fun _ _ h => path_fromOperations h) path (nodup_sortedPaths _)]
  rw [operationsAt]
  by_cases hops : changesAt (gather root evidence).changes path = []
  · rw [if_neg (fun h => mem_sortedPaths.1 h hops), if_pos hops]
  · rw [if_pos (mem_sortedPaths.2 hops), if_neg hops]

/-! ## Telescoping -/

theorem isFullBeforeAfter_semantics (h : isFullBeforeAfter c = true) : c.semantics = .fullBeforeAfter c.before c.after := by
  unfold isFullBeforeAfter at h
  unfold ObservedChange.before ObservedChange.after
  split at h
  · rename_i hsem
    simp [hsem]
  · cases h

/-- **Linked states telescope**: the last one is reached. -/
theorem continuousState_linked : ∀ {rest : List ObservedChange} {first : ObservedChange}, rest.all isFullBeforeAfter →
    (first :: rest).IsChain Follows →
    continuousState first.after rest = some ((first :: rest).getLast (cons_ne_nil _ _)).after
  | [], _, _, _ => rfl
  | d :: rest, first, hfull, hchain => by
    obtain ⟨hd, hrest⟩ := (all_cons ▸ hfull |> Bool.and_eq_true_iff.1)
    obtain ⟨hlink, htail⟩ := isChain_cons_cons.1 hchain
    rw [continuousState]
    simp only [isFullBeforeAfter_semantics hd]
    rw [if_pos (show d.before = first.after from hlink), continuousState_linked hrest htail, getLast_cons_cons]

theorem continuousState_broken : ∀ {rest : List ObservedChange} {first : ObservedChange}, rest.all isFullBeforeAfter →
    ¬ (first :: rest).IsChain Follows → continuousState first.after rest = none
  | [], _, _, hchain => absurd (.singleton _) hchain
  | d :: rest, first, hfull, hchain => by
    obtain ⟨hd, hrest⟩ := (all_cons ▸ hfull |> Bool.and_eq_true_iff.1)
    rw [continuousState]
    simp only [isFullBeforeAfter_semantics hd]
    split
    · rename_i hlink
      exact continuousState_broken hrest (fun htail => hchain (isChain_cons_cons.2 ⟨hlink, htail⟩))
    · rfl

theorem fileDetail_full (hfull : (first :: rest).all isFullBeforeAfter) :
    fileDetailFromOperations path (first :: rest) =
      (continuousFullStateDetail path (first :: rest)).map (fun file => { file with operationCount := (first :: rest).length }) := by
  have hnot : ∀ d ∈ first :: rest, isOperationOnly d = false := by
    intro d hd
    have hsem := isFullBeforeAfter_semantics (all_eq_true.1 hfull d hd)
    simp [isOperationOnly, hsem]
  have honly : (first :: rest).filter isOperationOnly = [] := by
    rw [filter_eq_nil_iff]
    exact fun d hd => by simp [hnot d hd]
  have hdiff : (first :: rest).filter (fun d => !isOperationOnly d) = first :: rest := by
    rw [filter_eq_self]
    exact fun d hd => by simp [hnot d hd]
  unfold fileDetailFromOperations
  simp only [honly, hdiff, fileDetailFromDiffOperations, if_pos hfull]
  cases continuousFullStateDetail path (first :: rest) <;> rfl

theorem continuousDetail_linked (hfull : (first :: rest).all isFullBeforeAfter) (hchain : (first :: rest).IsChain Follows) :
    continuousFullStateDetail path (first :: rest) =
      if first.before = ((first :: rest).getLast (cons_ne_nil _ _)).after then none
      else (unifiedDiffFromCompleteStates path first.before ((first :: rest).getLast (cons_ne_nil _ _)).after).map
        (netDiffDetail first.sequence path
          (changeKindOfStates first.before ((first :: rest).getLast (cons_ne_nil _ _)).after) (first :: rest).length) := by
  obtain ⟨hfirst, hrest⟩ := (all_cons ▸ hfull |> Bool.and_eq_true_iff.1)
  rw [continuousFullStateDetail]
  simp only [isFullBeforeAfter_semantics hfirst, continuousState_linked hrest hchain]

theorem continuousDetail_broken (hfull : (first :: rest).all isFullBeforeAfter) (hchain : ¬ (first :: rest).IsChain Follows) :
    continuousFullStateDetail path (first :: rest) = some (historyDetail path .operationHistory (first :: rest)) := by
  obtain ⟨hfirst, hrest⟩ := (all_cons ▸ hfull |> Bool.and_eq_true_iff.1)
  rw [continuousFullStateDetail]
  simp [isFullBeforeAfter_semantics hfirst, continuousState_broken hrest hchain]

/-! ## What is shown -/

theorem noHunkLine_of_readPatch {before after : Option Text} (hne : before ≠ after) {patch : Text} {hunk : Patch.Hunk}
    (hp : unifiedDiffFromCompleteStates path before after = some patch) (hread : Patch.readPatch patch = some hunk) :
    NoHunkLine path := by
  rw [unifiedDiffFromCompleteStates_eq path before after hne, Option.some.injEq] at hp
  subst hp
  rw [NoHunkLine, ← any_stateHeader path before after hne, ← Bool.not_eq_true]
  intro hany
  rw [Patch.readPatch_eq_none _ _ (whole_fileHeader _ _) hany] at hread
  cases hread

theorem filesAt_net_iff (hsnap : (gather root evidence).latestRunSnapshot = none)
    (hops : operationsAt root evidence path = first :: rest) (hfull : (first :: rest).all isFullBeforeAfter)
    (hchain : (first :: rest).IsChain Follows)
    (hne : first.before ≠ ((first :: rest).getLast (cons_ne_nil _ _)).after) :
    (∃ file, filesAt root evidence path = [file] ∧
        ShowsNetDiff file first.before ((first :: rest).getLast (cons_ne_nil _ _)).after) ↔ NoHunkLine path := by
  rw [filesAt_eq hsnap, hops, if_neg (cons_ne_nil _ _), fileDetail_full hfull, continuousDetail_linked hfull hchain,
    if_neg hne]
  generalize ((first :: rest).getLast (cons_ne_nil _ _)).after = after at hne ⊢
  have hpatch := unifiedDiffFromCompleteStates_eq path first.before after hne
  constructor
  · rintro ⟨file, hfile, -, -, block, patch, hunk, hblocks, -, hdiff, hread, -⟩
    refine noHunkLine_of_readPatch hne ?_ hread
    rw [hpatch] at hfile ⊢
    simp only [Option.map_some, Option.toList_some, List.cons.injEq, and_true] at hfile
    subst hfile
    simp only [netDiffDetail, List.cons.injEq, and_true] at hblocks
    subst hblocks
    exact hdiff
  · intro hpath
    obtain ⟨patch, hunk, hp, hread, happly, -⟩ := faithfulDiff_of_noHunkLine path first.before after hne hpath
    rw [hp]
    exact ⟨_, rfl, rfl, rfl, _, patch, hunk, rfl, rfl, rfl, hread, happly⟩

variable (root evidence path) in
theorem ordered_operationsAt : (operationsAt root evidence path).Pairwise (fun a b => a.sequence ≤ b.sequence) :=
  have : Std.Total (α := ObservedChange) (fun a b => a.sequence ≤ b.sequence) := ⟨fun a b => Nat.le_total a.sequence b.sequence⟩
  have : IsTrans ObservedChange (fun a b => a.sequence ≤ b.sequence) := ⟨fun _ _ _ => Nat.le_trans⟩
  pairwise_insertionSort _ _

theorem sequence_operationBlock (c : ObservedChange) : (operationBlock c).sequence = c.sequence := by
  unfold operationBlock
  split <;> rfl

theorem filesAt_broken (hsnap : (gather root evidence).latestRunSnapshot = none)
    (hfull : (operationsAt root evidence path).all isFullBeforeAfter) (hchain : ¬ (operationsAt root evidence path).IsChain Follows) :
    ∃ file, filesAt root evidence path = [file] ∧ ShowsHistory file (operationsAt root evidence path) := by
  have hordered := ordered_operationsAt root evidence path
  rw [filesAt_eq hsnap]
  cases hops : operationsAt root evidence path with
  | nil => rw [hops] at hchain; exact absurd .nil hchain
  | cons first rest =>
    rw [hops] at hfull hchain hordered
    rw [if_neg (cons_ne_nil _ _), fileDetail_full hfull, continuousDetail_broken hfull hchain]
    refine ⟨_, rfl, rfl, rfl, ?_⟩
    have hsequences : ((first :: rest).map operationBlock).map FileChangeBlock.sequence =
        (first :: rest).map ObservedChange.sequence := by
      rw [map_map]
      exact map_congr_left (fun c _ => sequence_operationBlock c)
    simp only [historyDetail]
    rw [hsequences, pairwise_map]
    exact hordered

/-- **The net change of a path is sound exactly when its diff, if it has one, reads back**, for every evidence without a run
snapshot. -/
theorem netChange_sound_iff (root : ExecutionRoot) (evidence : List SequencedEvidence) (path : Text)
    (hsnap : (gather root evidence).latestRunSnapshot = none) :
    NetChangeSound root evidence path ↔ (HasNetDiff (operationsAt root evidence path) → NoHunkLine path) := by
  constructor
  · rintro h ⟨first, rest, hops, hfull, hchain, hne⟩
    rw [hops] at hfull hchain
    exact (filesAt_net_iff hsnap hops hfull hchain hne).1 (h.net first rest hops hfull hchain hne)
  · intro h
    refine ⟨fun first rest hops hfull hchain heq => ?_, fun first rest hops hfull hchain hne => ?_,
      fun hfull hchain => filesAt_broken hsnap hfull hchain, fun evidence' hsnap' hops => ?_⟩
    · rw [filesAt_eq hsnap, hops, if_neg (cons_ne_nil _ _), fileDetail_full hfull, continuousDetail_linked hfull hchain,
        if_pos heq]
      rfl
    · have hpath := h ⟨first, rest, hops, hops ▸ hfull, hops ▸ hchain, hne⟩
      exact (filesAt_net_iff hsnap hops hfull hchain hne).2 hpath
    · rw [filesAt_eq hsnap', filesAt_eq hsnap, hops]

end

/-! ## Edits of one file -/

def editEvidence (sequence : Nat) (path before after : String) : SequencedEvidence where
  id := "e"
  sequence := sequence
  payload := .obj [("runtimeDiff", .obj [("entries", .arr [.obj [("after", .str after), ("before", .str before),
    ("path", .str path)]]), ("semanticKind", .str "full_before_after"), ("status", .str "available")])]

def editedTwice (path : String) : List SequencedEvidence :=
  [editEvidence 1 path "A\n" "B\n", editEvidence 2 path "B\n" "C\n"]

theorem netChange_sound_readme :
    NetChangeSound repository (editedTwice "README.md") "README.md".toList ↔
      (HasNetDiff (operationsAt repository (editedTwice "README.md") "README.md".toList) → NoHunkLine "README.md".toList) :=
  netChange_sound_iff repository (editedTwice "README.md") "README.md".toList (by decide)

/-- A path whose second line starts with `@@ `: the file is shown with a diff that cannot be read. -/
theorem netChange_unreadable : ¬ ∀ (root : ExecutionRoot) (evidence : List SequencedEvidence) (path : Text),
    (gather root evidence).latestRunSnapshot = none → NetChangeSound root evidence path := by
  intro h
  have hsound := h repository (editedTwice "x\n@@ y") "x\n@@ y".toList (by decide)
  have hops : operationsAt repository (editedTwice "x\n@@ y") "x\n@@ y".toList =
      [⟨1, "x\n@@ y".toList, "update", .fullBeforeAfter (some "A\n".toList) (some "B\n".toList)⟩,
        ⟨2, "x\n@@ y".toList, "update", .fullBeforeAfter (some "B\n".toList) (some "C\n".toList)⟩] := by
    decide
  have hshown := hsound.net _ _ hops (by decide) (by decide) (by decide)
  exact absurd ((filesAt_net_iff (by decide) hops (by decide) (by decide) (by decide)).1 hshown) (by decide)

end Rovai
