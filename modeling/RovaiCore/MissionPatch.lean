import RovaiCore.TextWords
/-!
# Mission patches (`parse_hunks`)

A file of a Mission is shown by the hunks of a patch that git prints: a section of header lines and hunks, or two of them where the
type of the file has changed.
-/
namespace Rovai.MissionPatch

open Lines (Text LF splitInclusive stripLineEnding textLines)
open List

/-! ## The parser -/

inductive DiffLineKind where
  | addition
  | deletion
  | context
  | metadata
  deriving DecidableEq

structure DiffLine where
  kind : DiffLineKind
  text : Text
  (oldLine newLine : Option Nat)
  deriving DecidableEq

structure DiffHunk where
  (oldStart newStart : Nat)
  lines : List DiffLine
  deriving DecidableEq

def rangeStart (mark : Char) (field : Text) : Option Nat :=
  parseU64 ((field.dropWhile (· == mark)).takeWhile (· != ','))

/-- The hunks so far, the latest first, and the numbers of the next lines. -/
structure ParseState where
  (old new : Nat)
  hunks : List DiffHunk

def hunkMark : Text := ['@', '@', ' ']

def diffLine (old new : Nat) : Text → Option (DiffLine × Nat × Nat)
  | '+' :: text => some (⟨.addition, text, none, some new⟩, old, new + 1)
  | '-' :: text => some (⟨.deletion, text, some old, none⟩, old + 1, new)
  | ' ' :: text => some (⟨.context, text, some old, some new⟩, old + 1, new + 1)
  | '\\' :: text => some (⟨.metadata, text, none, none⟩, old, new)
  | _ => none

def parseLine (s : ParseState) (line : Text) : Except String ParseState :=
  if hunkMark.isPrefixOf line then
    match wordsFrom [] line with
    | _ :: first :: second :: _ :: _ =>
      match rangeStart '-' first, rangeStart '+' second with
      | some old, some new => .ok ⟨old, new, ⟨old, new, []⟩ :: s.hunks⟩
      | _, _ => .error "invalid digit found in string"
    | _ => .error "mission.invalid_diff_hunk"
  else
    match s.hunks with
    | [] => .ok s
    | hunk :: hunks =>
      match diffLine s.old s.new line with
      | none => .ok s
      | some (shown, old, new) => .ok ⟨old, new, { hunk with lines := hunk.lines ++ [shown] } :: hunks⟩

def parseHunks (patch : Text) : Except String (List DiffHunk) :=
  ((textLines patch).foldlM parseLine ⟨0, 0, []⟩).map fun s => s.hunks.reverse

/-! ## What git prints -/

inductive Marker where
  | context
  | deletion
  | addition
  /-- The line that says that a file ends without a line feed. -/
  | noNewline
  deriving DecidableEq

def Marker.char : Marker → Char
  | .context => ' '
  | .deletion => '-'
  | .addition => '+'
  | .noNewline => '\\'

structure BodyLine where
  marker : Marker
  content : Text

def countOld (body : List BodyLine) : Nat := body.countP fun l => l.marker = .context ∨ l.marker = .deletion
def countNew (body : List BodyLine) : Nat := body.countP fun l => l.marker = .context ∨ l.marker = .addition

structure Hunk where
  (oldStart newStart : Nat)
  heading : Text
  body : List BodyLine
  fits : oldStart < 2 ^ 64 ∧ newStart < 2 ^ 64
  oneLine : LF ∉ heading ∧ ∀ l ∈ body, LF ∉ l.content

def printRange (start count : Nat) : Text :=
  Nat.toDigits 10 start ++ if count = 1 then [] else ',' :: Nat.toDigits 10 count

variable (h : Hunk)

def Hunk.header : Text :=
  hunkMark ++ '-' :: printRange h.oldStart (countOld h.body) ++ ' ' :: '+' :: printRange h.newStart (countNew h.body) ++
    ' ' :: '@' :: '@' :: h.heading

def BodyLine.line (l : BodyLine) : Text := l.marker.char :: l.content

/-- The lines of a section before its hunks.  Only a section with hunks names the two files in lines of their own. -/
structure Section where
  header : List Text
  hunks : List Hunk
  oneLine : ∀ l ∈ header, LF ∉ l
  noHunk : ∀ l ∈ header, hunkMark.isPrefixOf l = false
  plain : hunks = [] → ∀ l ∈ header, ∀ m : Marker, [m.char].isPrefixOf l = false
  named : hunks ≠ [] → ∃ l ∈ header, [Marker.deletion.char].isPrefixOf l = true

def Hunk.lines : List Text := h.header :: h.body.map BodyLine.line

def Section.lines (s : Section) : List Text := s.header ++ s.hunks.flatMap Hunk.lines

variable (sections : List Section)

def printPatch : Text := printLines (sections.flatMap Section.lines)

def BodyLine.shown (old new : Nat) (l : BodyLine) : DiffLine × Nat × Nat :=
  match l.marker with
  | .context => (⟨.context, l.content, some old, some new⟩, old + 1, new + 1)
  | .deletion => (⟨.deletion, l.content, some old, none⟩, old + 1, new)
  | .addition => (⟨.addition, l.content, none, some new⟩, old, new + 1)
  | .noNewline => (⟨.metadata, l.content, none, none⟩, old, new)

def numbered : Nat → Nat → List BodyLine → List DiffLine
  | _, _, [] => []
  | old, new, l :: body => (l.shown old new).1 :: numbered (l.shown old new).2.1 (l.shown old new).2.2 body

def Hunk.shown : DiffHunk := ⟨h.oldStart, h.newStart, numbered h.oldStart h.newStart h.body⟩

def shownHunks : List DiffHunk := sections.flatMap fun s => s.hunks.map Hunk.shown

def NoReturn : Prop :=
  ∀ s ∈ sections, ∀ h ∈ s.hunks, ∀ l ∈ h.body, l.content.getLast? ≠ some '\r'

def OneSection : Prop := (sections.filter fun s => !s.hunks.isEmpty).length ≤ 1

/-! ## Lines -/

theorem received_append {front : Text} (hfront : front.getLast? ≠ some '\r') (l : Text) :
    received (front ++ l) = front ++ received l := by
  rcases eq_nil_or_concat l with rfl | ⟨l, c, rfl⟩
  · simp [received_eq, hfront]
  · simp only [received_eq, concat_eq_append, ← append_assoc, getLast?_concat, dropLast_concat]
    split <;> simp

/-! ## A hunk header -/

theorem printRange_chars {start count : Nat} {c : Char} (h : c ∈ printRange start count) : c.isDigit = true ∨ c = ',' := by
  rcases mem_append.1 h with h | h
  · exact .inl (isDigit_of_mem c h)
  · split at h
    · cases h
    · rcases mem_cons.1 h with rfl | h
      · exact .inr rfl
      · exact .inl (isDigit_of_mem c h)

theorem rangeStart_print (mark : Char) (hmark : mark.isDigit = false) {start : Nat} (h : start < 2 ^ 64) (count : Nat) :
    rangeStart mark (mark :: printRange start count) = some start := by
  obtain ⟨first, rest, hfirst⟩ := exists_cons_of_ne_nil (@Nat.toDigits_ne_nil start 10)
  have hhead : first.isDigit = true := isDigit_of_mem first (hfirst ▸ mem_cons_self)
  have hdrop : (mark :: printRange start count).dropWhile (· == mark) = printRange start count := by
    have hne : first ≠ mark := fun heq => Bool.false_ne_true (hmark.symm.trans (heq ▸ hhead))
    simp [printRange, hfirst, hne]
  have hkeep : ∀ c ∈ Nat.toDigits 10 start, (c != ',') = true := fun c hc => bne_iff_ne.2 fun heq =>
    absurd (heq ▸ isDigit_of_mem c hc) (by decide)
  have htake : (printRange start count).takeWhile (· != ',') = Nat.toDigits 10 start := by
    rw [printRange, takeWhile_append_of_pos hkeep]
    split <;> simp
  rw [rangeStart, hdrop, htake, parseU64_toDigits h]

theorem header_words (h : Hunk) : ∃ word words, wordsFrom [] (received h.header) =
    ['@', '@'] :: ('-' :: printRange h.oldStart (countOld h.body)) :: ('+' :: printRange h.newStart (countNew h.body)) :: word :: words := by
  have hwhite : ∀ {mark : Char} {start count : Nat}, isWhitespace mark = false → ∀ c ∈ mark :: printRange start count,
      isWhitespace c = false := by
    intro mark start count hmark c hc
    rcases mem_cons.1 hc with rfl | hc
    · exact hmark
    · rcases printRange_chars hc with hdigit | rfl
      · exact notWhitespace_of_digit hdigit
      · decide
  have hsplit : received h.header = ['@', '@'] ++ ' ' :: (('-' :: printRange h.oldStart (countOld h.body)) ++ ' ' ::
      (('+' :: printRange h.newStart (countNew h.body)) ++ ' ' :: '@' :: '@' :: received h.heading)) := by
    have hheader : h.header = (hunkMark ++ '-' :: printRange h.oldStart (countOld h.body) ++
        ' ' :: '+' :: printRange h.newStart (countNew h.body) ++ [' ', '@'] ++ ['@']) ++ h.heading := by
      simp [Hunk.header]
    rw [hheader, received_append (by rw [getLast?_concat]; decide)]
    simp [hunkMark]
  obtain ⟨word, words, hlast⟩ := exists_cons_of_ne_nil (wordsFrom_ne_nil ('@' :: received h.heading) ['@'] (by simp))
  have hrest : wordsFrom [] ('@' :: '@' :: received h.heading) = word :: words := by
    rw [wordsFrom, if_neg (by decide)]
    exact hlast
  refine ⟨word, words, ?_⟩
  rw [hsplit, wordsFrom_word _ _ _ (by simp; decide) (by decide), wordsFrom_word _ _ _ (hwhite (by decide)) (by simp),
    wordsFrom_word _ _ _ (hwhite (by decide)) (by simp), hrest]
  rfl

theorem parseLine_header (s : ParseState) (h : Hunk) :
    parseLine s (received h.header) = .ok ⟨h.oldStart, h.newStart, ⟨h.oldStart, h.newStart, []⟩ :: s.hunks⟩ := by
  have hmark : hunkMark.isPrefixOf (received h.header) = true := by
    rw [isPrefixOf_received (by decide) (by decide)]
    simp [Hunk.header, hunkMark, List.isPrefixOf]
  obtain ⟨word, words, hwords⟩ := header_words h
  have hold := rangeStart_print '-' rfl h.fits.1 (countOld h.body)
  have hnew := rangeStart_print '+' rfl h.fits.2 (countNew h.body)
  simp [parseLine, hmark, hwords, hold, hnew]

/-! ## A body and a section -/

def BodyLine.received (l : BodyLine) : BodyLine := ⟨l.marker, Rovai.received l.content⟩

def Hunk.receivedBody : DiffHunk :=
  ⟨h.oldStart, h.newStart, numbered h.oldStart h.newStart (h.body.map BodyLine.received)⟩

theorem received_line (l : BodyLine) : received l.line = l.received.line := by
  have hmarker : ([l.marker.char] : Text).getLast? ≠ some '\r' := by cases l.marker <;> decide
  exact received_append hmarker l.content

theorem parseLine_body (hunks : List DiffHunk) (hunk : DiffHunk) (old new : Nat) (l : BodyLine) :
    parseLine ⟨old, new, hunk :: hunks⟩ l.line = .ok ⟨(l.shown old new).2.1, (l.shown old new).2.2,
      { hunk with lines := hunk.lines ++ [(l.shown old new).1] } :: hunks⟩ := by
  obtain ⟨marker, content⟩ := l
  cases marker <;> rfl

theorem run_body (hunks : List DiffHunk) : ∀ (body : List BodyLine) (old new : Nat) (hunk : DiffHunk), ∃ old' new',
    (body.map BodyLine.line).foldlM parseLine ⟨old, new, hunk :: hunks⟩ =
      .ok ⟨old', new', { hunk with lines := hunk.lines ++ numbered old new body } :: hunks⟩
  | [], old, new, hunk => ⟨old, new, by rw [numbered, append_nil]; rfl⟩
  | l :: body, old, new, hunk => by
    obtain ⟨old', new', hrun⟩ := run_body hunks body (l.shown old new).2.1 (l.shown old new).2.2
      { hunk with lines := hunk.lines ++ [(l.shown old new).1] }
    refine ⟨old', new', ?_⟩
    rw [map_cons, foldlM_cons, parseLine_body, numbered,
      append_cons hunk.lines (l.shown old new).1 (numbered _ _ body)]
    exact hrun

theorem run_hunks : ∀ (hunks : List Hunk) (s : ParseState), ∃ old new,
    ((hunks.flatMap Hunk.lines).map received).foldlM parseLine s =
      .ok ⟨old, new, (hunks.map Hunk.receivedBody).reverse ++ s.hunks⟩
  | [], s => ⟨s.old, s.new, rfl⟩
  | h :: hunks, s => by
    obtain ⟨old, new, hbody⟩ := run_body s.hunks (h.body.map BodyLine.received) h.oldStart h.newStart ⟨h.oldStart, h.newStart, []⟩
    obtain ⟨old', new', hrest⟩ := run_hunks hunks ⟨old, new, h.receivedBody :: s.hunks⟩
    have hlines : (h.body.map BodyLine.line).map received = (h.body.map BodyLine.received).map BodyLine.line := by
      simp only [map_map]
      exact map_congr_left fun l _ => received_line l
    have hhunk : (h.lines.map received).foldlM parseLine s = .ok ⟨old, new, h.receivedBody :: s.hunks⟩ := by
      rw [Hunk.lines, map_cons, foldlM_cons, parseLine_header, hlines]
      exact hbody
    refine ⟨old', new', ?_⟩
    rw [flatMap_cons, map_append, foldlM_append, hhunk, map_cons, reverse_cons, append_assoc]
    exact hrest

/-- Lines that are of no hunk are passed over: all but hunk headers before the first hunk, and behind it those without a marker. -/
theorem run_aside (s : ParseState) : ∀ lines : List Text, (∀ l ∈ lines, hunkMark.isPrefixOf l = false) →
    (s.hunks = [] ∨ ∀ l ∈ lines, ∀ m : Marker, [m.char].isPrefixOf l = false) → (lines.map received).foldlM parseLine s = .ok s
  | [], _, _ => rfl
  | l :: lines, hno, haside => by
    have hrest := run_aside s lines (fun l hl => hno l (mem_cons_of_mem _ hl))
      (haside.imp_right fun h l hl => h l (mem_cons_of_mem _ hl))
    have hfirst : parseLine s (received l) = .ok s := by
      rw [parseLine, isPrefixOf_received (by decide) (by decide), hno l mem_cons_self, if_neg (by decide)]
      rcases hhunks : s.hunks with _ | ⟨hunk, hunks⟩
      · rfl
      · have hplain := haside.resolve_left (by rw [hhunks]; exact cons_ne_nil _ _)
        have hnone : diffLine s.old s.new (received l) = none := by
          have hmarker : ∀ m : Marker, [m.char].isPrefixOf (received l) = false := fun m => by
            rw [isPrefixOf_received (by cases m <;> decide) (by cases m <;> decide)]
            exact hplain l mem_cons_self m
          unfold diffLine
          split
          · rename_i hline
            exact absurd (hline ▸ hmarker .addition) (by simp [Marker.char])
          · rename_i hline
            exact absurd (hline ▸ hmarker .deletion) (by simp [Marker.char])
          · rename_i hline
            exact absurd (hline ▸ hmarker .context) (by simp [Marker.char])
          · rename_i hline
            exact absurd (hline ▸ hmarker .noNewline) (by simp [Marker.char])
          · rfl
        simp [hnone]
    rw [map_cons, foldlM_cons, hfirst]
    exact hrest

/-! ## Counting lines -/

def shownLines (hunks : List DiffHunk) : Nat := (hunks.map fun h => h.lines.length).sum

def isShown (l : Text) : Bool := !hunkMark.isPrefixOf l && (diffLine 0 0 l).isSome

theorem diffLine_isSome (old new : Nat) (l : Text) : (diffLine old new l).isSome = (diffLine 0 0 l).isSome := by
  unfold diffLine
  split <;> rfl

theorem shownLines_step {s t : ParseState} {l : Text} (hs : s.hunks ≠ []) (h : parseLine s l = .ok t) :
    t.hunks ≠ [] ∧ shownLines t.hunks = shownLines s.hunks + if isShown l then 1 else 0 := by
  unfold parseLine at h
  split at h
  · rename_i hmark
    split at h
    · split at h
      · cases h
        exact ⟨cons_ne_nil _ _, by simp [shownLines, isShown, hmark]⟩
      · cases h
    · cases h
  · rename_i hmark
    rcases hhunks : s.hunks with _ | ⟨hunk, hunks⟩
    · exact absurd hhunks hs
    rw [hhunks] at h
    have hsome := diffLine_isSome s.old s.new l
    cases hline : diffLine s.old s.new l with
    | none =>
      rw [hline] at h hsome
      cases h
      exact ⟨hs, by simp [isShown, ← hsome, hhunks]⟩
    | some shown =>
      rw [hline] at h hsome
      cases h
      refine ⟨cons_ne_nil _ _, ?_⟩
      simp [shownLines, isShown, hmark, ← hsome]
      omega

theorem shownLines_run : ∀ (lines : List Text) (s t : ParseState), s.hunks ≠ [] → lines.foldlM parseLine s = .ok t →
    shownLines t.hunks = shownLines s.hunks + lines.countP isShown
  | [], s, t, _, h => by
    cases h
    simp
  | l :: lines, s, t, hs, h => by
    rw [foldlM_cons] at h
    cases hfirst : parseLine s l with
    | error message => rw [hfirst] at h; cases h
    | ok next =>
      rw [hfirst] at h
      obtain ⟨hnext, hcount⟩ := shownLines_step hs hfirst
      rw [shownLines_run lines next t hnext h, hcount, countP_cons]
      omega

theorem length_numbered : ∀ (body : List BodyLine) (old new : Nat), (numbered old new body).length = body.length
  | [], _, _ => rfl
  | l :: body, old, new => by rw [numbered, length_cons, length_numbered body, length_cons]

def bodyLines (hunks : List Hunk) : Nat := (hunks.map fun h => h.body.length).sum

theorem shownLines_map (f : Hunk → DiffHunk) (hf : ∀ h, (f h).lines.length = h.body.length) (hunks : List Hunk) :
    shownLines (hunks.map f) = bodyLines hunks := by
  simp only [shownLines, bodyLines, map_map]
  exact congrArg List.sum (map_congr_left fun h _ => hf h)

theorem shownLines_shownHunks : ∀ sections : List Section,
    shownLines (shownHunks sections) = (sections.map fun s => bodyLines s.hunks).sum
  | [] => rfl
  | s :: sections => by
    have hfirst := shownLines_map Hunk.shown (fun h => length_numbered h.body _ _) s.hunks
    have hrest := shownLines_shownHunks sections
    rw [shownHunks] at hrest ⊢
    rw [flatMap_cons, map_cons, sum_cons, ← hfirst, ← hrest, shownLines, map_append, sum_append]
    rfl

theorem isShown_received {l : Text} {m : Marker} (h : [m.char].isPrefixOf l = true) : isShown (received l) = true := by
  have hreceived : [m.char].isPrefixOf (received l) = true := by
    rwa [isPrefixOf_received (by cases m <;> decide) (by cases m <;> decide)]
  obtain ⟨text, htext⟩ := isPrefixOf_iff_prefix.1 hreceived
  rw [← htext]
  cases m <;> rfl

theorem countP_body (h : Hunk) : h.body.length ≤ (h.lines.map received).countP isShown := by
  have hall : ∀ l ∈ (h.body.map BodyLine.line).map received, isShown l = true := by
    intro l hl
    obtain ⟨line, hline, rfl⟩ := mem_map.1 hl
    obtain ⟨bodyLine, -, rfl⟩ := mem_map.1 hline
    exact isShown_received (m := bodyLine.marker) (by simp [BodyLine.line])
  rw [Hunk.lines, map_cons, countP_cons, countP_eq_length.2 hall]
  simp

theorem countP_hunks : ∀ hunks : List Hunk, bodyLines hunks ≤ ((hunks.flatMap Hunk.lines).map received).countP isShown
  | [] => Nat.le_refl 0
  | h :: hunks => by
    have hfirst := countP_body h
    have hrest := countP_hunks hunks
    rw [flatMap_cons, map_append, countP_append]
    simp only [bodyLines, map_cons, sum_cons] at hrest ⊢
    omega

/-- The lines of a section with hunks are more than those of its hunks: the parser counts what names the old file. -/
theorem countP_section (s : Section) : bodyLines s.hunks + (if s.hunks = [] then 0 else 1) ≤ (s.lines.map received).countP isShown := by
  rw [Section.lines, map_append, countP_append]
  have hhunks := countP_hunks s.hunks
  split
  · omega
  · rename_i hne
    obtain ⟨l, hl, hmark⟩ := s.named hne
    have hheader : 0 < (s.header.map received).countP isShown :=
      countP_pos_iff.2 ⟨received l, mem_map_of_mem hl, isShown_received hmark⟩
    omega

/-! ## The patch -/

theorem received_eq_iff (l : Text) : received l = l ↔ l.getLast? ≠ some '\r' := by
  rw [received_eq]
  split
  · rename_i hreturn
    refine iff_of_false (fun h => ?_) (not_not.2 hreturn)
    have hlength := congrArg List.length h
    rw [length_dropLast] at hlength
    have hpos : l ≠ [] := by rintro rfl; cases hreturn
    have := length_pos_iff.2 hpos
    omega
  · rename_i hreturn
    exact iff_of_true rfl hreturn

theorem numbered_received_iff : ∀ (body : List BodyLine) (old new : Nat),
    numbered old new (body.map BodyLine.received) = numbered old new body ↔ ∀ l ∈ body, l.content.getLast? ≠ some '\r'
  | [], _, _ => by simp [numbered]
  | l :: body, old, new => by
    have hnext : (l.received.shown old new).2 = (l.shown old new).2 := by
      obtain ⟨marker, content⟩ := l
      cases marker <;> rfl
    have hfirst : (l.received.shown old new).1 = (l.shown old new).1 ↔ received l.content = l.content := by
      obtain ⟨marker, content⟩ := l
      cases marker <;> simp [BodyLine.shown, BodyLine.received]
    rw [map_cons, numbered, numbered, List.cons.injEq, hnext, numbered_received_iff body, hfirst, received_eq_iff,
      forall_mem_cons]

theorem receivedBody_eq_iff (h : Hunk) : h.receivedBody = h.shown ↔ ∀ l ∈ h.body, l.content.getLast? ≠ some '\r' := by
  simp [Hunk.receivedBody, Hunk.shown, DiffHunk.mk.injEq, numbered_received_iff]

theorem notMem_header (h : Hunk) : LF ∉ h.header := by
  have hrange : ∀ start count, LF ∉ printRange start count := by
    intro start count hmem
    rcases printRange_chars hmem with hdigit | hcomma
    · exact absurd hdigit (by decide)
    · exact absurd hcomma (by decide)
  simp only [Hunk.header, hunkMark, mem_append, mem_cons, not_mem_nil, or_false, not_or]
  refine ⟨⟨⟨⟨?_, ?_, ?_⟩, ?_, hrange _ _⟩, ?_, ?_, hrange _ _⟩, ?_, ?_, ?_, h.oneLine.1⟩
  all_goals decide

theorem notMem_lines (s : Section) : ∀ l ∈ s.lines, LF ∉ l := by
  intro l hl
  rcases mem_append.1 hl with hl | hl
  · exact s.oneLine l hl
  obtain ⟨h, -, hl⟩ := mem_flatMap.1 hl
  rcases mem_cons.1 hl with rfl | hl
  · exact notMem_header h
  obtain ⟨line, hline, rfl⟩ := mem_map.1 hl
  rw [BodyLine.line, mem_cons, not_or]
  exact ⟨by cases line.marker <;> decide, h.oneLine.2 line hline⟩

theorem lines_of_plain {s : Section} (h : s.hunks = []) : s.lines = s.header := by
  rw [Section.lines, h, flatMap_nil, append_nil]

theorem countP_sections : ∀ sections : List Section,
    (sections.map fun s => bodyLines s.hunks).sum + (if ∀ s ∈ sections, s.hunks = [] then 0 else 1) ≤
      ((sections.flatMap Section.lines).map received).countP isShown
  | [] => by simp
  | s :: sections => by
    have hfirst := countP_section s
    have hrest := countP_sections sections
    rw [flatMap_cons, map_append, countP_append, map_cons, sum_cons]
    simp only [forall_mem_cons]
    split <;> split at hfirst <;> split at hrest <;> first | omega | (rename_i hall hempty hother; exact absurd ⟨hempty, hother⟩ hall)

def hunksFrom (s : ParseState) (sections : List Section) : Except String (List DiffHunk) :=
  (((sections.flatMap Section.lines).map received).foldlM parseLine s).map fun s => s.hunks.reverse

theorem hunksFrom_cons {s t : ParseState} {first : Section} (h : (first.lines.map received).foldlM parseLine s = .ok t)
    (sections : List Section) : hunksFrom s (first :: sections) = hunksFrom t sections := by
  rw [hunksFrom, flatMap_cons, map_append, foldlM_append, h]
  rfl

theorem hunksFrom_plain (s : ParseState) : ∀ sections : List Section, (∀ r ∈ sections, r.hunks = []) →
    hunksFrom s sections = .ok s.hunks.reverse
  | [], _ => rfl
  | first :: sections, h => by
    have hempty := h first mem_cons_self
    have hrun := run_aside s first.header first.noHunk (.inr (first.plain hempty))
    rw [hunksFrom_cons (lines_of_plain hempty ▸ hrun), hunksFrom_plain s sections fun r hr => h r (mem_cons_of_mem _ hr)]

theorem hunksFrom_start_iff : ∀ sections : List Section,
    hunksFrom ⟨0, 0, []⟩ sections = .ok (shownHunks sections) ↔ OneSection sections ∧ NoReturn sections
  | [] => iff_of_true rfl ⟨Nat.zero_le 1, fun s hs => (not_mem_nil hs).elim⟩
  | first :: sections => by
    have hheader := run_aside ⟨0, 0, []⟩ first.header first.noHunk (.inl rfl)
    by_cases hempty : first.hunks = []
    · rw [hunksFrom_cons (lines_of_plain hempty ▸ hheader)]
      simpa [shownHunks, OneSection, NoReturn, hempty] using hunksFrom_start_iff sections
    obtain ⟨old, new, hhunks⟩ := run_hunks first.hunks ⟨0, 0, []⟩
    have hlines : (first.lines.map received).foldlM parseLine ⟨0, 0, []⟩ =
        .ok ⟨old, new, (first.hunks.map Hunk.receivedBody).reverse⟩ := by
      rw [Section.lines, map_append, foldlM_append, hheader]
      rw [append_nil] at hhunks
      exact hhunks
    rw [hunksFrom_cons hlines]
    by_cases hrest : ∀ r ∈ sections, r.hunks = []
    · have hshown : shownHunks (first :: sections) = first.hunks.map Hunk.shown := by
        have hnone : shownHunks sections = [] := flatMap_eq_nil_iff.2 fun r hr => by rw [hrest r hr, map_nil]
        rw [shownHunks] at hnone ⊢
        rw [flatMap_cons, hnone, append_nil]
      have hone : OneSection (first :: sections) := by
        have hfilter : sections.filter (fun s => !s.hunks.isEmpty) = [] :=
          filter_eq_nil_iff.2 fun r hr => by simp [hrest r hr]
        simp [OneSection, hfilter, hempty]
      rw [hunksFrom_plain _ sections hrest, hshown, reverse_reverse, Except.ok.injEq, map_inj_left, and_iff_right hone,
        NoReturn, forall_mem_cons]
      simp only [receivedBody_eq_iff]
      exact (and_iff_left fun r hr h hh => by rw [hrest r hr] at hh; exact (not_mem_nil hh).elim).symm
    · refine iff_of_false (fun hparsed => ?_) fun h => ?_
      · have hcount := countP_sections sections
        rw [if_neg hrest] at hcount
        rw [hunksFrom] at hparsed
        cases hfold : ((sections.flatMap Section.lines).map received).foldlM parseLine
            ⟨old, new, (first.hunks.map Hunk.receivedBody).reverse⟩ with
        | error message => rw [hfold] at hparsed; cases hparsed
        | ok t =>
          rw [hfold] at hparsed
          have htotal := shownLines_run _ _ t (by simpa using hempty) hfold
          have hreverse : ∀ hunks : List DiffHunk, shownLines hunks.reverse = shownLines hunks := fun hunks => by
            rw [shownLines, map_reverse, sum_reverse, shownLines]
          have hshown := congrArg shownLines (Except.ok.inj hparsed)
          rw [hreverse] at hshown
          rw [hreverse, shownLines_map _ (fun h => by simp [Hunk.receivedBody, length_numbered])] at htotal
          have hexpected : shownLines (shownHunks (first :: sections)) =
              bodyLines first.hunks + (sections.map fun s => bodyLines s.hunks).sum := by
            rw [shownLines_shownHunks, map_cons, sum_cons]
          omega
      · obtain ⟨r, hr⟩ := not_forall.1 hrest
        obtain ⟨hmem, hhas⟩ := Classical.not_imp.1 hr
        have hother : 0 < (sections.filter fun s => !s.hunks.isEmpty).length :=
          length_pos_of_mem (mem_filter.2 ⟨hmem, by simpa using hhas⟩)
        have hone := h.1
        rw [OneSection, filter_cons_of_pos (by simpa using hempty), length_cons] at hone
        omega

theorem numbered_lines : ∀ (body : List BodyLine) (old new : Nat),
    (numbered old new body).filterMap DiffLine.oldLine = range' old (countOld body) ∧
      (numbered old new body).filterMap DiffLine.newLine = range' new (countNew body)
  | [], _, _ => ⟨rfl, rfl⟩
  | l :: body, old, new => by
    obtain ⟨hold, hnew⟩ := numbered_lines body (l.shown old new).2.1 (l.shown old new).2.2
    rw [numbered]
    obtain ⟨marker, content⟩ := l
    cases marker <;>
      simp only [BodyLine.shown] at hold hnew <;>
      simp [BodyLine.shown, hold, hnew, countOld, countNew, range'_succ]

/-- What the patch of a file is to be decoded as: the hunks in their order, line for line, with the line numbers of both sides from
the header's on, as many as the header counts. -/
structure Decoded (sections : List Section) : Prop where
  hunks : parseHunks (printPatch sections) = .ok (shownHunks sections)
  numbers : ∀ s ∈ sections, ∀ h ∈ s.hunks,
    h.shown.lines.filterMap DiffLine.oldLine = range' h.oldStart (countOld h.body) ∧
      h.shown.lines.filterMap DiffLine.newLine = range' h.newStart (countNew h.body)

/-- **A patch is decoded line for line exactly when one section has hunks and no line of them ends with a return.** -/
theorem decoded_iff : Decoded sections ↔ OneSection sections ∧ NoReturn sections := by
  have hlines : ∀ l ∈ sections.flatMap Section.lines, LF ∉ l := by
    intro l hl
    obtain ⟨s, -, hl⟩ := mem_flatMap.1 hl
    exact notMem_lines s l hl
  have hparse : parseHunks (printPatch sections) = hunksFrom ⟨0, 0, []⟩ sections := by
    rw [parseHunks, printPatch, textLines_printLines hlines]
    rfl
  rw [← hunksFrom_start_iff, ← hparse]
  exact ⟨Decoded.hunks, fun hdecoded => ⟨hdecoded, fun s _ h _ => numbered_lines h.body h.oldStart h.newStart⟩⟩

/-- The patch of a file that becomes a link: git deletes the one and adds the other. -/
theorem type_change_misread : ¬∀ sections : List Section, Decoded sections := by
  intro hclaim
  have hdecoded := (hclaim [
    { header := ["deleted file mode 100644", "--- a/x", "+++ /dev/null"].map String.toList
      hunks := [⟨1, 0, [], [⟨.deletion, ['a']⟩], by decide, by decide⟩]
      oneLine := by decide, noHunk := by decide, plain := nofun, named := fun _ => by decide },
    { header := ["new file mode 120000", "--- /dev/null", "+++ b/x"].map String.toList
      hunks := [⟨0, 1, [], [⟨.addition, ['b']⟩], by decide, by decide⟩]
      oneLine := by decide, noHunk := by decide, plain := nofun, named := fun _ => by decide }]).hunks
  revert hdecoded
  decide

end Rovai.MissionPatch
