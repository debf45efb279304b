import RovaiCore.DiffText
import RovaiCore.TextWords
/-!
# The sections of a run's snapshot (`runtime_diff.rs`)

A section is attributed to the paths of its first line, which is cut at the last ` b/` and trimmed.
-/
namespace Rovai.Snapshot

open Lines (Text LF splitInclusive textLines)
open List

structure Roots where
  urlFilePath : Text → Option Text
  (displayRoot excludedRoot : Text)

variable (roots : Roots)

def Roots.within (path : Text) : Bool :=
  reportedPathIsWithinRoot roots.urlFilePath roots.displayRoot path roots.excludedRoot

def filterUnifiedDiffSnapshotOutsideRoot (diff : Text) : Option Text :=
  if (trim diff).isEmpty then some diff
  else if (splitUnifiedDiffSections diff).isEmpty then none
  else (splitUnifiedDiffSections diff).foldlM (fun retained part =>
    (unifiedDiffSectionPaths part).map (fun paths =>
      if !roots.within paths.1 && !roots.within paths.2 then retained ++ part else retained)) []

/-! ## What git prints -/

abbrev PathText := { t : Text // LF ∉ t ∧ '\r' ∉ t }

/-- A line after the header: no other extended header and no line of a hunk, which stands behind its marker, begins as these. -/
abbrev BodyLine := { t : Text // LF ∉ t ∧ ∀ mark ∈ [sectionMark, newFileModeMark, deletedFileModeMark], mark.isPrefixOf t = false }

inductive Change
  | add (mode : { t : Text // LF ∉ t })
  | delete (mode : { t : Text // LF ∉ t })
  | update
  | rename

def Change.kind : Change → String
  | .add _ => "add"
  | .delete _ => "delete"
  | .update | .rename => "update"

def Change.lines : Change → List Text
  | .add mode => [newFileModeMark ++ mode.1]
  | .delete mode => [deletedFileModeMark ++ mode.1]
  | .update | .rename => []

structure GitSection where
  (source target : PathText)
  change : Change
  body : List BodyLine
  same : change ≠ .rename → source = target

variable (s : GitSection)

def GitSection.header : Text := sourceMark ++ s.source.1 ++ (targetMark ++ s.target.1)

def GitSection.rest : List Text := s.change.lines ++ s.body.map Subtype.val

def GitSection.print : Text := printLines (s.header :: s.rest)

def snapshot (sections : List GitSection) : Text := (sections.map GitSection.print).flatten

def GitSection.outside (s : GitSection) : Bool :=
  !roots.within s.source.1 && !roots.within s.target.1

structure Attributed (roots : Roots) (sections : List GitSection) : Prop where
  split : splitUnifiedDiffSections (snapshot sections) = sections.map GitSection.print
  identity : ∀ s ∈ sections, unifiedDiffSectionIdentity s.print = some (s.target.1, s.change.kind)
  retained : filterUnifiedDiffSnapshotOutsideRoot roots (snapshot sections) =
    some (snapshot (sections.filter (GitSection.outside roots)))

/-- The target has no ` b/` and no white space at an edge, and white space at the edges of the source does not matter. -/
structure Readable (roots : Roots) (s : GitSection) : Prop where
  unmarked : containsText targetMark s.target.1 = false
  trimmed : trim s.target.1 = s.target.1
  source : roots.within s.target.1 = false → roots.within (trim s.source.1) = roots.within s.source.1

/-! ## Lines -/

theorem targetMark_eq : targetMark = [' ', 'b', '/'] := rfl

theorem header_chars {c : Char} (s : GitSection) (h1 : c ∉ sourceMark) (hs : c ∉ s.source.1) (h2 : c ∉ targetMark)
    (ht : c ∉ s.target.1) : c ∉ s.header := by
  simp only [GitSection.header, mem_append, not_or]
  exact ⟨⟨h1, hs⟩, h2, ht⟩

theorem change_line (c : Change) : ∀ l ∈ c.lines, LF ∉ l ∧ sectionMark.isPrefixOf l = false := by
  intro l hl
  cases c with
  | add mode =>
    have hmark : LF ∉ newFileModeMark := by decide
    rw [mem_singleton.1 hl]
    exact ⟨fun h => (mem_append.1 h).elim hmark mode.2, rfl⟩
  | delete mode =>
    have hmark : LF ∉ deletedFileModeMark := by decide
    rw [mem_singleton.1 hl]
    exact ⟨fun h => (mem_append.1 h).elim hmark mode.2, rfl⟩
  | update => exact absurd hl not_mem_nil
  | rename => exact absurd hl not_mem_nil

theorem rest_line : ∀ l ∈ s.rest, LF ∉ l ∧ sectionMark.isPrefixOf l = false := by
  intro l hl
  rcases mem_append.1 hl with hl | hl
  · exact change_line s.change l hl
  · obtain ⟨b, -, rfl⟩ := mem_map.1 hl
    exact ⟨b.2.1, b.2.2 _ mem_cons_self⟩

theorem section_lines : ∀ l ∈ s.header :: s.rest, LF ∉ l :=
  forall_mem_cons.2 ⟨header_chars s (by decide) s.source.2.1 (by decide) s.target.2.1, fun l hl => (rest_line s l hl).1⟩

theorem lines_print (t : Text) :
    splitInclusive (s.print ++ t) = (s.header :: s.rest).map (· ++ [LF]) ++ splitInclusive t :=
  splitInclusive_printLines _ t (section_lines s)

theorem rest_unmarked : ∀ l ∈ s.rest.map (· ++ [LF]), sectionMark.isPrefixOf l = false := by
  intro l hl
  obtain ⟨x, hx, rfl⟩ := mem_map.1 hl
  rw [Lines.isPrefixOf_append_cons LF sectionMark x [] (by decide)]
  exact (rest_line s x hx).2

/-! ## Cutting the snapshot -/

theorem sectionsOfLines_unmarked : ∀ (ls tail : List Text), (∀ l ∈ ls, sectionMark.isPrefixOf l = false) →
    sectionsOfLines (ls ++ tail) = sectionsOfLines tail
  | [], _, _ => rfl
  | l :: ls, tail, h => by
    rw [cons_append, sectionsOfLines, if_neg (by simp [h l mem_cons_self])]
    exact sectionsOfLines_unmarked ls tail (fun x hx => h x (mem_cons_of_mem l hx))

theorem sectionsOfLines_section (l : Text) (ls tail : List Text) (hl : sectionMark.isPrefixOf l = true)
    (h : ∀ x ∈ ls, sectionMark.isPrefixOf x = false) (ht : ∀ x ∈ tail.head?, sectionMark.isPrefixOf x = true) :
    sectionsOfLines (l :: ls ++ tail) = (l :: ls).flatten :: sectionsOfLines tail := by
  have htake : (ls ++ tail).takeWhile (fun x => !sectionMark.isPrefixOf x) = ls := by
    rw [takeWhile_append_of_pos (by simpa using h)]
    cases tail with
    | nil => simp
    | cons x tail => simp [ht x rfl]
  rw [cons_append, sectionsOfLines, if_pos hl, htake, sectionsOfLines_unmarked ls tail h]

theorem head_snapshot : ∀ (sections : List GitSection), ∀ l ∈ (splitInclusive (snapshot sections)).head?,
    sectionMark.isPrefixOf l = true
  | [], l, hl => by simp [snapshot, splitInclusive] at hl
  | s :: sections, l, hl => by
    have he : snapshot (s :: sections) = s.print ++ snapshot sections := rfl
    rw [he, lines_print] at hl
    simp only [map_cons, cons_append, head?_cons, Option.mem_some_iff] at hl
    rw [← hl]
    rfl

/-- **Every snapshot is cut into its sections.** -/
theorem split_snapshot : ∀ sections : List GitSection,
    splitUnifiedDiffSections (snapshot sections) = sections.map GitSection.print
  | [] => rfl
  | s :: sections => by
    have ih := split_snapshot sections
    have he : snapshot (s :: sections) = s.print ++ snapshot sections := rfl
    have hcut := sectionsOfLines_section (s.header ++ [LF]) (s.rest.map (· ++ [LF]))
      (splitInclusive (snapshot sections)) rfl (rest_unmarked s) (head_snapshot sections)
    rw [he, splitUnifiedDiffSections, lines_print]
    exact hcut.trans (congrArg (s.print :: ·) ih)

theorem textLines_print : textLines s.print = s.header :: s.rest.map received := by
  have hlast : s.header.getLast? ≠ some '\r' := fun hl =>
    header_chars s (by decide) s.source.2.2 (by decide) s.target.2.2 (mem_of_getLast? hl)
  rw [GitSection.print, textLines_printLines (section_lines s), map_cons, received_eq, if_neg hlast]

/-! ## The paths of a section -/

theorem splitLast_append {p : Text} : ∀ (a : Text) {q x y : Text}, splitLast p q = some (x, y) →
    splitLast p (a ++ q) = some (a ++ x, y)
  | [], _, _, _, h => h
  | c :: a, q, x, y, h => by
    rw [cons_append, splitLast, splitLast_append a h]
    rfl

theorem splitLast_eq_none {p : Text} (hp : p ≠ []) : ∀ q : Text, splitLast p q = none ↔ containsText p q = false
  | [] => by cases p with
    | nil => exact absurd rfl hp
    | cons c p => simp [splitLast, containsText]
  | c :: q => by
    have ih := splitLast_eq_none hp q
    rw [splitLast, containsText]
    cases h : splitLast p q with
    | none => cases hp : p.isPrefixOf (c :: q) <;> simp [ih.1 h]
    | some pair =>
      have hc : containsText p q ≠ false := fun hc => by simp [ih.2 hc] at h
      simp [Bool.eq_true_of_not_eq_false hc]

theorem splitLast_length {p : Text} (hp : p ≠ []) : ∀ {q x y : Text}, splitLast p q = some (x, y) → y.length < q.length
  | [], _, _, h => by simp [splitLast] at h
  | c :: q, x, y, h => by
    rw [splitLast] at h
    cases hq : splitLast p q with
    | some pair =>
      simp only [hq, Option.some.injEq, Prod.mk.injEq] at h
      have ih := splitLast_length hp (y := pair.2) hq
      rw [← h.2]
      exact Nat.lt_succ_of_lt ih
    | none =>
      simp only [hq] at h
      split at h
      · simp only [Option.some.injEq, Prod.mk.injEq] at h
        have hlen := length_pos_iff.2 hp
        rw [← h.2, length_drop, length_cons]
        omega
      · exact absurd h (by simp)

theorem splitLast_target {q : Text} (h : containsText targetMark q = false) :
    splitLast targetMark (targetMark ++ q) = some ([], q) := by
  have hq := (splitLast_eq_none (by decide) q).2 h
  have hslash : splitLast targetMark ('/' :: q) = none := by
    rw [splitLast, hq]
    rfl
  have hb : splitLast targetMark ('b' :: '/' :: q) = none := by
    rw [splitLast, hslash]
    rfl
  change splitLast targetMark (' ' :: 'b' :: '/' :: q) = _
  rw [splitLast, hb]
  rfl

theorem length_trim_le (t : Text) : (trim t).length ≤ t.length := by
  have h1 := length_dropWhile_le isWhitespace t
  have h2 := length_dropWhile_le isWhitespace (t.dropWhile isWhitespace).reverse
  rw [length_reverse] at h2
  rw [trim, length_reverse]
  exact h2.trans h1

theorem paths_of_cut {a b : Text} (h : splitLast targetMark (targetMark ++ s.target.1) = some (a, b)) :
    unifiedDiffSectionPaths s.print = some (trim (s.source.1 ++ a), trim b) := by
  have hcut : splitLast targetMark s.header = _ := splitLast_append (sourceMark ++ s.source.1) h
  have hstart : sourceMark.isPrefixOf s.header = true := rfl
  rw [unifiedDiffSectionPaths, textLines_print]
  simp only [head?_cons, Option.bind_some, hcut, hstart, if_true, append_assoc, drop_left]

theorem paths_print (h : containsText targetMark s.target.1 = false) :
    unifiedDiffSectionPaths s.print = some (trim s.source.1, trim s.target.1) := by
  rw [paths_of_cut s (splitLast_target h), append_nil]

theorem paths_print_marked (h : containsText targetMark s.target.1 ≠ false) :
    ∀ paths ∈ unifiedDiffSectionPaths s.print, paths.2 ≠ s.target.1 := by
  intro paths hp hpaths
  cases hq : splitLast targetMark s.target.1 with
  | none => exact h ((splitLast_eq_none (by decide) _).1 hq)
  | some pair =>
    have hlt := splitLast_length (by decide) (y := pair.2) hq
    have hle := length_trim_le pair.2
    rw [paths_of_cut s (splitLast_append targetMark (y := pair.2) hq), Option.mem_some_iff] at hp
    rw [← hpaths, ← hp] at hlt
    exact absurd hlt (Nat.not_lt.2 hle)

/-! ## The change of a section -/

theorem any_textLines (mark : Text) (hlf : LF ∉ mark) (hcr : '\r' ∉ mark)
    (hheader : mark.isPrefixOf s.header = false)
    (hmark : mark ∈ [sectionMark, newFileModeMark, deletedFileModeMark]) :
    (textLines s.print).any mark.isPrefixOf = s.change.lines.any mark.isPrefixOf := by
  have hbody : ∀ b : BodyLine, mark.isPrefixOf b.1 = false := fun b => b.2.2 mark hmark
  rw [textLines_print, any_cons, hheader, any_map, Bool.false_or, GitSection.rest, any_append]
  simp only [Function.comp_def, isPrefixOf_received hlf hcr, any_map, hbody]
  simp

theorem kind_print :
    (if (textLines s.print).any newFileModeMark.isPrefixOf then "add"
      else if (textLines s.print).any deletedFileModeMark.isPrefixOf then "delete" else "update") = s.change.kind := by
  rw [any_textLines s newFileModeMark (by decide) (by decide) rfl (by simp),
    any_textLines s deletedFileModeMark (by decide) (by decide) rfl (by simp)]
  cases s.change <;> rfl

theorem identity_iff : unifiedDiffSectionIdentity s.print = some (s.target.1, s.change.kind) ↔
    containsText targetMark s.target.1 = false ∧ trim s.target.1 = s.target.1 := by
  rw [unifiedDiffSectionIdentity]
  simp only [kind_print, Option.map_eq_some_iff, Prod.mk.injEq, and_true]
  constructor
  · rintro ⟨paths, hpaths, htarget⟩
    have hfree : containsText targetMark s.target.1 = false := by
      by_contra hmarked
      exact paths_print_marked s hmarked paths hpaths htarget
    rw [paths_print s hfree, Option.some.injEq] at hpaths
    exact ⟨hfree, by rw [← hpaths] at htarget; exact htarget⟩
  · rintro ⟨hfree, htrim⟩
    exact ⟨_, paths_print s hfree, htrim⟩

/-! ## The sections that are kept -/

variable {roots : Roots}

def GitSection.kept (roots : Roots) (s : GitSection) : Bool :=
  !roots.within (trim s.source.1) && !roots.within s.target.1

theorem retain_sections : ∀ (sections : List GitSection) (retained : Text),
    (∀ s ∈ sections, containsText targetMark s.target.1 = false ∧ trim s.target.1 = s.target.1) →
    (sections.map GitSection.print).foldlM (fun retained part =>
      (unifiedDiffSectionPaths part).map (fun paths =>
        if !roots.within paths.1 && !roots.within paths.2 then retained ++ part else retained)) retained =
      some (retained ++ snapshot (sections.filter (GitSection.kept roots)))
  | [], retained, _ => by simp [snapshot]
  | s :: sections, retained, h => by
    have hs := h s mem_cons_self
    have ih := fun r => retain_sections sections r (fun x hx => h x (mem_cons_of_mem s hx))
    rw [map_cons, foldlM_cons, paths_print s hs.1, hs.2, filter_cons]
    change (sections.map GitSection.print).foldlM _ (if s.kept roots then _ else _) = _
    rw [ih]
    cases s.kept roots <;> simp [snapshot]

theorem trim_snapshot (sections : List GitSection) : (trim (snapshot (s :: sections))).isEmpty = false := by
  have hd : ¬ isWhitespace 'd' = true := by decide
  have hstart : trimStart (snapshot (s :: sections)) = snapshot (s :: sections) := dropWhile_cons_of_neg hd
  rw [trim, hstart, isEmpty_eq_false_iff]
  intro hnil
  have hall := dropWhile_eq_nil_iff.1 (reverse_eq_nil_iff.1 hnil) 'd' (mem_reverse.2 mem_cons_self)
  exact hd hall

theorem filter_snapshot (sections : List GitSection)
    (h : ∀ s ∈ sections, containsText targetMark s.target.1 = false ∧ trim s.target.1 = s.target.1) :
    filterUnifiedDiffSnapshotOutsideRoot roots (snapshot sections) =
      some (snapshot (sections.filter (GitSection.kept roots))) := by
  cases sections with
  | nil => rfl
  | cons s sections =>
    rw [filterUnifiedDiffSnapshotOutsideRoot, trim_snapshot, split_snapshot]
    exact retain_sections (s :: sections) [] h

theorem source_of_print {s r : GitSection} (hp : s.print = r.print) (hs : containsText targetMark s.target.1 = false)
    (hr : containsText targetMark r.target.1 = false) : s.source.1 = r.source.1 ∧ s.target.1 = r.target.1 := by
  have hheader : s.header = r.header := by
    have h := congrArg (fun t => (textLines t).head?) hp
    simpa [textLines_print] using h
  have hcs := splitLast_append (sourceMark ++ s.source.1) (splitLast_target hs)
  have hcr := splitLast_append (sourceMark ++ r.source.1) (splitLast_target hr)
  rw [show sourceMark ++ s.source.1 ++ (targetMark ++ s.target.1) = _ from hheader] at hcs
  have h := Option.some.inj (hcs.symm.trans hcr)
  simpa using h

/-- **Every section is attributed to its file exactly when** no target path contains ` b/` or has white space at an edge,
and no renamed file's source path moves across the excluded root when the white space at its edges is dropped. -/
theorem attributed_iff (roots : Roots) (sections : List GitSection) :
    Attributed roots sections ↔ ∀ s ∈ sections, Readable roots s := by
  constructor
  · intro h s hs
    have hid := fun s hs => (identity_iff s).1 (h.identity s hs)
    refine ⟨(hid s hs).1, (hid s hs).2, fun htarget => ?_⟩
    -- the two lists of retained sections are cut out of one text
    have hkept : snapshot (sections.filter (GitSection.kept roots)) =
        snapshot (sections.filter (GitSection.outside roots)) :=
      Option.some.inj ((filter_snapshot sections hid).symm.trans h.retained)
    have hprints := congrArg splitUnifiedDiffSections hkept
    rw [split_snapshot, split_snapshot] at hprints
    have hkeep : ∀ test other : GitSection → Bool,
        (sections.filter test).map GitSection.print = (sections.filter other).map GitSection.print →
        test s = true → ∃ r, other r = true ∧ s.source.1 = r.source.1 ∧ s.target.1 = r.target.1 := by
      intro test other he ht
      have hmem := he ▸ mem_map_of_mem (f := GitSection.print) (mem_filter.2 ⟨hs, ht⟩)
      obtain ⟨r, hr, hprint⟩ := mem_map.1 hmem
      obtain ⟨hr, hother⟩ := mem_filter.1 hr
      exact ⟨r, hother, source_of_print hprint.symm (hid s hs).1 (hid r hr).1⟩
    have hto := hkeep _ _ hprints
    have hfrom := hkeep _ _ hprints.symm
    simp only [GitSection.kept, GitSection.outside, Bool.and_eq_true, Bool.not_eq_true', htarget, and_true] at hto hfrom
    cases hx : roots.within (trim s.source.1) with
    | false =>
      obtain ⟨r, hr, hsource, -⟩ := hto hx
      rw [hsource, hr.1]
    | true =>
      cases hy : roots.within s.source.1 with
      | true => rfl
      | false =>
        obtain ⟨r, hr, hsource, -⟩ := hfrom hy
        rw [hsource, hr.1] at hx
        exact hx.symm
  · intro h
    have hread : ∀ s ∈ sections, containsText targetMark s.target.1 = false ∧ trim s.target.1 = s.target.1 :=
      fun s hs => ⟨(h s hs).unmarked, (h s hs).trimmed⟩
    refine ⟨split_snapshot sections, fun s hs => (identity_iff s).2 (hread s hs), ?_⟩
    rw [filter_snapshot sections hread]
    have htest : ∀ s ∈ sections, s.kept roots = s.outside roots := by
      intro s hs
      rw [GitSection.kept, GitSection.outside]
      cases ht : roots.within s.target.1 with
      | true => simp
      | false => rw [(h s hs).source ht]
    rw [filter_congr htest]

def markedSection : GitSection where
  source := ⟨"a b/x".toList, by decide⟩
  target := ⟨"a b/x".toList, by decide⟩
  change := .update
  body := []
  same _ := rfl

theorem marked_path_misread : ¬ ∀ (roots : Roots) (sections : List GitSection), Attributed roots sections := by
  intro h
  have hid := (h ⟨fun _ => none, [], []⟩ [markedSection]).identity markedSection mem_cons_self
  revert hid
  decide

end Rovai.Snapshot
