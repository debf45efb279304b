import RovaiCore.UnifiedPatch
/-!
# Generated unified diffs (`runtime_diff.rs`)

The one-hunk patch written for a complete before and after: the common leading and trailing lines are trimmed to three lines of
context, what is left of the old text is removed and what is left of the new text is added.
-/
namespace Rovai

open Lines (Text LF splitInclusive textLines stripLineEnding IsPiece Whole)
open List
open Patch (Hunk HunkLine hunkMark oldRangeMark newRangeMark hunkClose noNewlineMarker decimal)

/-! ## The source's functions -/

variable (path : Text)

def isAbsolute : Bool := path.head? = some '/'

def splitPreservingLineEndings (value : Text) : List Text :=
  if value = [] then [] else splitInclusive value

def appendUnifiedLine (output : Text) (mark : Char) (line : Text) : Text :=
  let output := output ++ mark :: line
  if line.getLast? = some LF then output else output ++ LF :: noNewlineMarker

def unifiedDiffDisplayPath (side : Char) : Text :=
  if isAbsolute path then path else side :: '/' :: path

def countLine (s : Bool × Nat × Nat) (line : Text) : Bool × Nat × Nat :=
  let (inHunk, additions, deletions) := s
  if hunkMark.isPrefixOf line then (true, additions, deletions)
  else if !inHunk then s
  else if ['+'].isPrefixOf line then (inHunk, additions + 1, deletions)
  else if ['-'].isPrefixOf line then (inHunk, additions, deletions + 1)
  else s

def unifiedDiffCounts (diff : Text) : Nat × Nat :=
  ((textLines diff).foldl countLine (false, 0, 0)).2

def commonPrefix : List Text → List Text → Nat
  | a :: as, b :: bs => if a = b then commonPrefix as bs + 1 else 0
  | _, _ => 0

def devNull : Text := "/dev/null".toList

def oldFileMark : Text := ['-', '-', '-', ' ']
def newFileMark : Text := ['+', '+', '+', ' ']

def diffHeader (oldHeader newHeader : Text) (oldStart oldCount newStart newCount : Nat) : Text :=
  oldFileMark ++ oldHeader ++ [LF] ++ newFileMark ++ newHeader ++ [LF]
    ++ oldRangeMark ++ decimal oldStart ++ [','] ++ decimal oldCount
    ++ newRangeMark ++ decimal newStart ++ [','] ++ decimal newCount ++ hunkClose

def rangeStart (start count : Nat) : Nat := if count = 0 then 0 else start + 1

def unifiedDiffFromBeforeAfter (oldText : Option Text) (newText : Text) : Text :=
  let oldLines := splitPreservingLineEndings (oldText.getD [])
  let newLines := splitPreservingLineEndings newText
  let leading := commonPrefix oldLines newLines
  let trailing := commonPrefix (oldLines.drop leading).reverse (newLines.drop leading).reverse
  let contextBefore := min leading 3
  let contextAfter := min trailing 3
  let oldChangedEnd := oldLines.length - trailing
  let newChangedEnd := newLines.length - trailing
  let oldStart := leading - contextBefore
  let newStart := leading - contextBefore
  let oldCount := oldChangedEnd - oldStart + contextAfter
  let newCount := newChangedEnd - newStart + contextAfter
  let oldHeader := if oldText = none then devNull else unifiedDiffDisplayPath path 'a'
  let newHeader := unifiedDiffDisplayPath path 'b'
  let output := diffHeader oldHeader newHeader (rangeStart oldStart oldCount) oldCount
    (rangeStart newStart newCount) newCount
  let output := ((oldLines.take leading).drop oldStart).foldl (appendUnifiedLine · ' ' ·) output
  let output := ((oldLines.take oldChangedEnd).drop leading).foldl (appendUnifiedLine · '-' ·) output
  let output := ((newLines.take newChangedEnd).drop leading).foldl (appendUnifiedLine · '+' ·) output
  ((newLines.take (newChangedEnd + contextAfter)).drop newChangedEnd).foldl (appendUnifiedLine · ' ' ·) output

def unifiedDiffForDelete (oldText : Text) : Text :=
  let oldLines := splitPreservingLineEndings oldText
  let oldHeader := unifiedDiffDisplayPath path 'a'
  let output := diffHeader oldHeader devNull (rangeStart 0 oldLines.length) oldLines.length 0 0
  oldLines.foldl (appendUnifiedLine · '-' ·) output

def unifiedDiffFromCompleteStates (before after : Option Text) : Option Text :=
  if before = after then none
  else match before, after with
    | _, some after => some (unifiedDiffFromBeforeAfter path before after)
    | some before, none => some (unifiedDiffForDelete path before)
    | none, none => none

/-! ## The hunk behind the text -/

theorem splitPreservingLineEndings_eq (t : Text) : splitPreservingLineEndings t = splitInclusive t := by
  unfold splitPreservingLineEndings
  split
  · subst t; rfl
  · rfl

theorem appendUnifiedLine_eq (output line : Text) (l : HunkLine) (h : l.content = line) :
    appendUnifiedLine output l.sign line = output ++ l.render := by
  subst h
  unfold appendUnifiedLine HunkLine.render
  split <;> simp

theorem foldl_appendUnifiedLine (mk : Text → HunkLine) (mark : Char) (hmk : ∀ l, (mk l).content = l ∧ (mk l).sign = mark) :
    ∀ (lines : List Text) (output : Text),
      lines.foldl (appendUnifiedLine · mark ·) output = output ++ Patch.renderBody (lines.map mk)
  | [], output => by simp [Patch.renderBody]
  | l :: lines, output => by
    have hl := appendUnifiedLine_eq output l (mk l) (hmk l).1
    rw [(hmk l).2] at hl
    rw [foldl_cons, hl, foldl_appendUnifiedLine mk mark hmk lines]
    simp [Patch.renderBody]

def fileHeader (oldHeader newHeader : Text) : Text :=
  oldFileMark ++ oldHeader ++ LF :: (newFileMark ++ newHeader ++ [LF])

theorem diffHeader_eq (oldHeader newHeader : Text) (h : Hunk) :
    diffHeader oldHeader newHeader h.oldStart h.oldCount h.newStart h.newCount
      = fileHeader oldHeader newHeader ++ h.renderHeader := by
  simp [diffHeader, fileHeader, Hunk.renderHeader]

def stateLines (state : Option Text) : List Text := splitInclusive (state.getD [])

def commonSuffix (old new : List Text) : Nat :=
  commonPrefix (old.drop (commonPrefix old new)).reverse (new.drop (commonPrefix old new)).reverse

def changeHunk (old new : List Text) : Hunk :=
  let leading := commonPrefix old new
  let trailing := commonSuffix old new
  let start := leading - min leading 3
  let oldEnd := old.length - trailing
  let newEnd := new.length - trailing
  let oldCount := oldEnd - start + min trailing 3
  let newCount := newEnd - start + min trailing 3
  { oldStart := rangeStart start oldCount
    oldCount := oldCount
    newStart := rangeStart start newCount
    newCount := newCount
    body := Patch.trimmedBody ((old.take leading).drop start) ((old.take oldEnd).drop leading)
      ((new.take newEnd).drop leading) ((new.take (newEnd + min trailing 3)).drop newEnd) }

def deleteHunk (old : List Text) : Hunk :=
  { oldStart := rangeStart 0 old.length
    oldCount := old.length
    newStart := 0
    newCount := 0
    body := old.map .removed }

def oldHeaderOf (before : Option Text) : Text :=
  if before = none then devNull else unifiedDiffDisplayPath path 'a'

def newHeaderOf (after : Option Text) : Text :=
  if after = none then devNull else unifiedDiffDisplayPath path 'b'

def stateHunk (before after : Option Text) : Hunk :=
  if after = none then deleteHunk (stateLines before) else changeHunk (stateLines before) (stateLines after)

theorem unifiedDiffFromBeforeAfter_eq (oldText : Option Text) (newText : Text) :
    unifiedDiffFromBeforeAfter path oldText newText
      = fileHeader (oldHeaderOf path oldText) (newHeaderOf path (some newText))
        ++ ((stateHunk oldText (some newText)).renderHeader ++ Patch.renderBody (stateHunk oldText (some newText)).body) := by
  have hcontext := foldl_appendUnifiedLine .context ' ' (fun _ => ⟨rfl, rfl⟩)
  have hremoved := foldl_appendUnifiedLine .removed '-' (fun _ => ⟨rfl, rfl⟩)
  have hadded := foldl_appendUnifiedLine .added '+' (fun _ => ⟨rfl, rfl⟩)
  have hheader := diffHeader_eq (oldHeaderOf path oldText) (newHeaderOf path (some newText)) (stateHunk oldText (some newText))
  rw [← append_assoc, ← hheader]
  simp only [unifiedDiffFromBeforeAfter, splitPreservingLineEndings_eq, hcontext, hremoved, hadded]
  simp [Patch.renderBody, Patch.trimmedBody, stateHunk, changeHunk, stateLines, commonSuffix, oldHeaderOf, newHeaderOf]

theorem unifiedDiffForDelete_eq (path oldText : Text) :
    unifiedDiffForDelete path oldText
      = fileHeader (oldHeaderOf path (some oldText)) (newHeaderOf path none)
        ++ ((stateHunk (some oldText) none).renderHeader ++ Patch.renderBody (stateHunk (some oldText) none).body) := by
  have hremoved := foldl_appendUnifiedLine .removed '-' (fun _ => ⟨rfl, rfl⟩)
  have hheader := diffHeader_eq (oldHeaderOf path (some oldText)) (newHeaderOf path none) (stateHunk (some oldText) none)
  rw [← append_assoc, ← hheader]
  simp only [unifiedDiffForDelete, splitPreservingLineEndings_eq, hremoved]
  simp [stateHunk, deleteHunk, stateLines, oldHeaderOf, newHeaderOf]

/-- **The generated patch is a rendered hunk** under a file header. -/
theorem unifiedDiffFromCompleteStates_eq (before after : Option Text) (hne : before ≠ after) :
    unifiedDiffFromCompleteStates path before after
      = some (fileHeader (oldHeaderOf path before) (newHeaderOf path after)
        ++ ((stateHunk before after).renderHeader ++ Patch.renderBody (stateHunk before after).body)) := by
  unfold unifiedDiffFromCompleteStates
  rw [if_neg hne]
  cases after with
  | some after => exact congrArg some (unifiedDiffFromBeforeAfter_eq path before after)
  | none =>
    cases before with
    | none => exact absurd rfl hne
    | some before => exact congrArg some (unifiedDiffForDelete_eq path before)

/-! ## Trimming -/

theorem commonPrefix_le : ∀ a b : List Text, commonPrefix a b ≤ a.length ∧ commonPrefix a b ≤ b.length
  | [], _ => by simp [commonPrefix]
  | _ :: _, [] => by simp [commonPrefix]
  | x :: a, y :: b => by
    have ih := commonPrefix_le a b
    unfold commonPrefix
    split <;> simp only [length_cons] <;> omega

theorem take_commonPrefix : ∀ a b : List Text, a.take (commonPrefix a b) = b.take (commonPrefix a b)
  | [], b => by simp [commonPrefix]
  | _ :: _, [] => by simp [commonPrefix]
  | x :: a, y :: b => by
    unfold commonPrefix
    split
    · rename_i h
      rw [take_succ_cons, take_succ_cons, h, take_commonPrefix a b]
    · rfl

theorem commonSuffix_le (old new : List Text) :
    commonSuffix old new ≤ old.length - commonPrefix old new ∧ commonSuffix old new ≤ new.length - commonPrefix old new := by
  have h := commonPrefix_le (old.drop (commonPrefix old new)).reverse (new.drop (commonPrefix old new)).reverse
  simpa [commonSuffix] using h

theorem drop_commonSuffix (old new : List Text) :
    old.drop (old.length - commonSuffix old new) = new.drop (new.length - commonSuffix old new) := by
  have hle := commonSuffix_le old new
  have hp := commonPrefix_le old new
  have h := take_commonPrefix (old.drop (commonPrefix old new)).reverse (new.drop (commonPrefix old new)).reverse
  rw [← commonSuffix, take_reverse, take_reverse, reverse_inj, drop_drop, drop_drop,
    length_drop, length_drop] at h
  have h1 : commonPrefix old new + (old.length - commonPrefix old new - commonSuffix old new)
      = old.length - commonSuffix old new := by omega
  have h2 : commonPrefix old new + (new.length - commonPrefix old new - commonSuffix old new)
      = new.length - commonSuffix old new := by omega
  rwa [h1, h2] at h

theorem take_append_slices (ls : List Text) {i j k : Nat} (n : Nat) (hij : i ≤ j) (hjk : j ≤ k) :
    ls = ls.take i ++ ((ls.take j).drop i ++ (ls.take k).drop j ++ (ls.take (k + n)).drop k ++ ls.drop (k + n)) := by
  have slice : ∀ a b : Nat, a ≤ b → (ls.take b).drop a ++ ls.drop b = ls.drop a := fun a b hab => by
    have h := take_append_drop b ls
    conv => rhs; rw [← h, drop_append]
    by_cases hb : b ≤ ls.length
    · rw [length_take, Nat.min_eq_left hb, Nat.sub_eq_zero_of_le hab, drop_zero]
    have hnil : ls.drop b = [] := drop_eq_nil_of_le (by omega)
    simp [hnil]
  rw [append_assoc, slice k (k + n) (by omega), append_assoc, slice j k hjk, slice i j hij,
    take_append_drop]

theorem length_slice (ls : List Text) {i j : Nat} (hj : j ≤ ls.length) : ((ls.take j).drop i).length = j - i := by
  rw [length_drop, length_take, Nat.min_eq_left hj]

/-- **The hunk of two line lists rewrites the first into the second.** -/
theorem changeHunk_apply (old new : List Text) : (changeHunk old new).apply old = some new := by
  have hp := commonPrefix_le old new
  have hs := commonSuffix_le old new
  have htake := take_commonPrefix old new
  have hdrop := drop_commonSuffix old new
  generalize hL : commonPrefix old new = leading at *
  generalize hT : commonSuffix old new = trailing at *
  have hstart : leading - min leading 3 ≤ leading := Nat.sub_le _ _
  have hold := take_append_slices old (min trailing 3) hstart (show leading ≤ old.length - trailing by omega)
  have hnew := take_append_slices new (min trailing 3) hstart (show leading ≤ new.length - trailing by omega)
  generalize hS : leading - min leading 3 = start at *
  -- the trailing context is the same slice of both texts
  have htrail : ∀ n, (old.take (old.length - trailing + n)).drop (old.length - trailing)
      = (new.take (new.length - trailing + n)).drop (new.length - trailing) := fun n => by
    rw [drop_take, drop_take, hdrop]
    congr 1
    omega
  have hrest : ∀ n, old.drop (old.length - trailing + n) = new.drop (new.length - trailing + n) := fun n => by
    rw [← drop_drop, hdrop, drop_drop]
  have hhead : old.take start = new.take start := by
    have := congrArg (List.take start) htake
    rwa [take_take, take_take, Nat.min_eq_left (by omega)] at this
  have hlead : (old.take leading).drop start = (new.take leading).drop start := by rw [htake]
  have happly := Patch.applyBody_trimmed ((old.take leading).drop start)
    ((old.take (old.length - trailing)).drop leading) ((new.take (new.length - trailing)).drop leading)
    ((new.take (new.length - trailing + min trailing 3)).drop (new.length - trailing))
    (new.drop (new.length - trailing + min trailing 3))
  have hlenT : old.length - trailing + min trailing 3 ≤ old.length := by omega
  have hlenT' : new.length - trailing + min trailing 3 ≤ new.length := by omega
  have hdropStart : old.drop start = (old.take leading).drop start ++ (old.take (old.length - trailing)).drop leading
      ++ (new.take (new.length - trailing + min trailing 3)).drop (new.length - trailing)
      ++ new.drop (new.length - trailing + min trailing 3) := by
    conv => lhs; rw [hold]
    rw [htrail, hrest, drop_append_of_le_length (by rw [length_take]; omega),
      drop_eq_nil_of_le (by rw [length_take]; omega), nil_append]
  have hpos : ∀ count, (count = 0 → start = 0) →
      Patch.position (rangeStart start count) count = some start := fun count h0 => by
    unfold Patch.position rangeStart
    by_cases hc : count = 0
    · rw [if_pos hc, if_pos hc, h0 hc]
    rw [if_neg hc, if_neg hc, if_neg (by omega)]
    rfl
  have h0 : ∀ e, leading ≤ e → e - start + min trailing 3 = 0 → start = 0 := fun e he h => by omega
  rw [Hunk.apply_of_position (i := start)]
  · simp only [changeHunk, hL, hT, hS]
    rw [hdropStart, happly, Option.map_some, hhead, hlead]
    conv => rhs; rw [hnew]
  · simp only [changeHunk, hL, hT, hS]
    exact hpos _ (h0 _ (by omega))
  · simp only [changeHunk, hL, hT, hS]
    exact hpos _ (h0 _ (by omega))
  · omega
  · simp only [changeHunk, hL, hT, hS]
    rw [Patch.countP_notAdded_trimmedBody, length_slice old (by omega), length_slice old (by omega), length_slice new hlenT']
    omega
  · simp only [changeHunk, hL, hT, hS]
    rw [Patch.countP_notRemoved_trimmedBody, length_slice old (by omega), length_slice new hlenT', length_slice new (by omega)]
    omega

theorem deleteHunk_apply (old : List Text) : (deleteHunk old).apply old = some [] := by
  have hbody := Patch.applyBody_removed [] old []
  have hpos : Patch.position (rangeStart 0 old.length) old.length = some 0 := by
    unfold Patch.position rangeStart
    split <;> rfl
  rw [Hunk.apply_of_position (i := 0) hpos rfl (Nat.zero_le _)]
  · simpa [deleteHunk, Patch.applyBody] using hbody
  · exact Patch.countP_map_eq .removed (fun l => !Patch.isAdded l) true (fun _ => rfl) old
  · exact Patch.countP_map_eq .removed (fun l => !Patch.isRemoved l) false (fun _ => rfl) old

theorem stateHunk_apply (before after : Option Text) :
    (stateHunk before after).apply (stateLines before) = some (stateLines after) := by
  cases after with
  | none => exact deleteHunk_apply (stateLines before)
  | some after => exact changeHunk_apply (stateLines before) (stateLines (some after))

theorem isPiece_of_mem_stateHunk (before after : Option Text) : ∀ l ∈ (stateHunk before after).body, IsPiece l.content := by
  have hstate : ∀ s : Option Text, ∀ l ∈ stateLines s, IsPiece l := fun s => Lines.isPiece_of_mem _
  have hslice : ∀ (s : Option Text) (i j : Nat), ∀ l ∈ ((stateLines s).take j).drop i, IsPiece l := fun s i j l hl =>
    hstate s l (mem_of_mem_take (mem_of_mem_drop hl))
  unfold stateHunk
  split
  · exact Patch.isPiece_of_mem_map (fun _ => rfl) (hstate before)
  · exact Patch.isPiece_of_mem_trimmedBody (hslice before _ _) (hslice before _ _) (hslice after _ _) (hslice after _ _)

/-! ## Counting -/

theorem countLine_stripLineEnding (s : Bool × Nat × Nat) (l : Text) : countLine s (stripLineEnding l) = countLine s l := by
  unfold countLine
  rw [Lines.isPrefixOf_stripLineEnding (by decide) (by decide), Lines.isPrefixOf_stripLineEnding (by decide) (by decide),
    Lines.isPrefixOf_stripLineEnding (by decide) (by decide)]

theorem unifiedDiffCounts_eq (diff : Text) :
    unifiedDiffCounts diff = ((splitInclusive diff).foldl countLine (false, 0, 0)).2 := by
  unfold unifiedDiffCounts textLines
  rw [foldl_map]
  simp [countLine_stripLineEnding]

theorem foldl_countLine_preamble : ∀ (ls : List Text) (a d : Nat), ls.any hunkMark.isPrefixOf = false →
    ls.foldl countLine (false, a, d) = (false, a, d)
  | [], _, _, _ => rfl
  | l :: ls, a, d, h => by
    simp only [any_cons, Bool.or_eq_false_iff] at h
    rw [foldl_cons]
    have hl : countLine (false, a, d) l = (false, a, d) := by simp [countLine, h.1]
    rw [hl, foldl_countLine_preamble ls a d h.2]

theorem countLine_header (h : Hunk) (b : Bool) (a d : Nat) : countLine (b, a, d) h.renderHeader = (true, a, d) := by
  simp [countLine, Patch.hunkMark_isPrefixOf_renderHeader]

theorem countLine_signed (l : HunkLine) (content : Text) (a d : Nat) :
    countLine (true, a, d) (l.sign :: content)
      = (true, a + (if Patch.isAdded l then 1 else 0), d + (if Patch.isRemoved l then 1 else 0)) := by
  cases l <;> rfl

theorem countLine_noNewlineMarker (a d : Nat) : countLine (true, a, d) noNewlineMarker = (true, a, d) := rfl

theorem foldl_countLine_body : ∀ (body : List HunkLine) (a d : Nat), (∀ l ∈ body, IsPiece l.content) →
    (splitInclusive (Patch.renderBody body)).foldl countLine (true, a, d)
      = (true, a + body.countP Patch.isAdded, d + body.countP Patch.isRemoved)
  | [], _, _, _ => rfl
  | l :: body, a, d, h => by
    have ih := fun a d => foldl_countLine_body body a d (fun m hm => h m (mem_cons_of_mem l hm))
    have hl : (if l.content.getLast? = some LF then [l.sign :: l.content]
        else [l.sign :: (l.content ++ [LF]), noNewlineMarker]).foldl countLine (true, a, d)
        = (true, a + (if Patch.isAdded l then 1 else 0), d + (if Patch.isRemoved l then 1 else 0)) := by
      split
      · exact countLine_signed l _ a d
      rw [foldl_cons, countLine_signed]
      exact countLine_noNewlineMarker _ _
    rw [Patch.renderBody, flatMap_cons, Patch.splitInclusive_render l _ (h l mem_cons_self),
      foldl_append, hl, ← Patch.renderBody, ih, countP_cons, countP_cons]
    simp [Nat.add_comm, Nat.add_left_comm]

theorem unifiedDiffCounts_render (preamble : Text) (h : Hunk) (hw : Whole preamble)
    (hp : (splitInclusive preamble).any hunkMark.isPrefixOf = false) (hb : ∀ l ∈ h.body, IsPiece l.content) :
    unifiedDiffCounts (preamble ++ (h.renderHeader ++ Patch.renderBody h.body)) = (h.inserted, h.deleted) := by
  rw [unifiedDiffCounts_eq, Lines.splitInclusive_append_of_whole _ _ hw, Patch.splitInclusive_renderHeader,
    foldl_append, foldl_countLine_preamble _ _ _ hp, foldl_cons, countLine_header,
    foldl_countLine_body _ _ _ hb]
  simp [Hunk.inserted, Hunk.deleted]

/-! ## The file header -/

def NoHunkLine : Prop := (splitInclusive path).tail.any hunkMark.isPrefixOf = false

instance (path : Text) : Decidable (NoHunkLine path) := inferInstanceAs (Decidable (_ = _))

theorem whole_fileHeader (oldHeader newHeader : Text) : Whole (fileHeader oldHeader newHeader) := by
  have h := Lines.whole_append_lf (oldFileMark ++ oldHeader ++ LF :: (newFileMark ++ newHeader))
  simpa [fileHeader] using h

theorem any_fileHeader (oldHeader newHeader : Text) :
    (splitInclusive (fileHeader oldHeader newHeader)).any hunkMark.isPrefixOf
      = ((splitInclusive oldHeader).tail.any hunkMark.isPrefixOf || (splitInclusive newHeader).tail.any hunkMark.isPrefixOf) := by
  have hmark : hunkMark ≠ [] ∧ LF ∉ hunkMark := by decide
  have hhead : ∀ rest : Text, hunkMark.isPrefixOf (oldFileMark ++ rest) = false := fun _ => rfl
  have hhead' : ∀ rest : Text, hunkMark.isPrefixOf (newFileMark ++ rest) = false := fun _ => rfl
  have hold := Lines.any_tail_append_of_not_mem hunkMark oldFileMark oldHeader (by decide)
  have hnew := Lines.any_tail_append_of_not_mem hunkMark newFileMark newHeader (by decide)
  have hend := Lines.any_tail_append_lf hunkMark hmark.1 hmark.2 (newFileMark ++ newHeader) []
  rw [fileHeader, Lines.any_splitInclusive _ _ hmark.1 hmark.2, append_assoc, hhead, Bool.false_or,
    ← append_assoc, Lines.any_tail_append_lf _ hmark.1 hmark.2, hold,
    Lines.any_splitInclusive _ (newFileMark ++ newHeader ++ [LF]) hmark.1 hmark.2, append_assoc, hhead',
    Bool.false_or, ← append_assoc, hend, hnew]
  simp [splitInclusive]

theorem any_tail_displayPath (side : Char) (hside : side ≠ LF) :
    (splitInclusive (unifiedDiffDisplayPath path side)).tail.any hunkMark.isPrefixOf
      = (splitInclusive path).tail.any hunkMark.isPrefixOf := by
  unfold unifiedDiffDisplayPath
  split
  · rfl
  · exact Lines.any_tail_append_of_not_mem hunkMark [side, '/'] path (by simpa [LF] using Ne.symm hside)

theorem any_stateHeader (before after : Option Text) (hne : before ≠ after) :
    (splitInclusive (fileHeader (oldHeaderOf path before) (newHeaderOf path after))).any hunkMark.isPrefixOf
      = (splitInclusive path).tail.any hunkMark.isPrefixOf := by
  have hnull : (splitInclusive devNull).tail.any hunkMark.isPrefixOf = false := by decide
  have ha := any_tail_displayPath path 'a' (by decide)
  have hb := any_tail_displayPath path 'b' (by decide)
  rw [any_fileHeader]
  cases before with
  | none =>
    cases after with
    | none => exact absurd rfl hne
    | some after => simp [oldHeaderOf, newHeaderOf, hnull, hb]
  | some before =>
    cases after with
    | none => simp [oldHeaderOf, newHeaderOf, hnull, ha]
    | some after => simp [oldHeaderOf, newHeaderOf, ha, hb]

/-! ## Faithfulness -/

def FaithfulDiff (before after : Option Text) : Prop :=
  ∃ patch hunk, unifiedDiffFromCompleteStates path before after = some patch ∧ Patch.readPatch patch = some hunk
    ∧ hunk.apply (stateLines before) = some (stateLines after)
    ∧ unifiedDiffCounts patch = (hunk.inserted, hunk.deleted)

theorem faithfulDiff_of_noHunkLine (before after : Option Text) (hne : before ≠ after)
    (hno : NoHunkLine path) : FaithfulDiff path before after := by
  have hwhole := whole_fileHeader (oldHeaderOf path before) (newHeaderOf path after)
  have hpieces := isPiece_of_mem_stateHunk before after
  rw [NoHunkLine, ← any_stateHeader path before after hne] at hno
  exact ⟨_, stateHunk before after, unifiedDiffFromCompleteStates_eq path before after hne,
    Patch.readPatch_render _ _ hwhole hno hpieces, stateHunk_apply before after,
    unifiedDiffCounts_render _ _ hwhole hno hpieces⟩

theorem noHunkLine_of_faithfulDiff (before after : Option Text) (hne : before ≠ after)
    (h : FaithfulDiff path before after) : NoHunkLine path := by
  obtain ⟨patch, hunk, hp, hread, -, -⟩ := h
  rw [unifiedDiffFromCompleteStates_eq path before after hne] at hp
  cases hp
  unfold NoHunkLine
  rw [← any_stateHeader path before after hne, ← Bool.not_eq_true]
  intro hany
  rw [Patch.readPatch_eq_none _ _ (whole_fileHeader _ _) hany] at hread
  cases hread

/-- **Exactly the paths without a hunk line give faithful diffs**, whatever the two states. -/
theorem completeStates_faithful_iff (before after : Option Text) (hne : before ≠ after) :
    FaithfulDiff path before after ↔ NoHunkLine path :=
  ⟨noHunkLine_of_faithfulDiff path before after hne, faithfulDiff_of_noHunkLine path before after hne⟩

/-- A one-line file that gains a line, under an ordinary path. -/
theorem completeStates_faithful_readme :
    FaithfulDiff "README.md".toList (some "a\n".toList) (some "a\nb".toList) ↔ NoHunkLine "README.md".toList :=
  completeStates_faithful_iff _ _ _ (by decide)

/-- A path whose second line starts with `@@ `: its diff is not faithful. -/
theorem completeStates_not_faithful :
    ¬ ∀ (path : Text) (before after : Option Text), before ≠ after → FaithfulDiff path before after := by
  intro h
  have hbad := h "x\n@@ y".toList (some "a\n".toList) (some "b\n".toList) (by decide)
  exact absurd (noHunkLine_of_faithfulDiff _ _ _ (by decide) hbad) (by decide)

end Rovai
