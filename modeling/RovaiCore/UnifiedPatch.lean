import Mathlib.Data.List.TakeWhile
import RovaiCore.TextLines
/-!
# Single-hunk unified patches

A patch is read the way a patch tool reads it: everything before the first line that starts with `@@ ` is file header, that line
is the hunk header `@@ -s,n +s',n' @@`, and every line after it belongs to the hunk — kept (` `), removed (`-`) or added (`+`), or
the `\ No newline at end of file` marker of the line before it.
-/
namespace Patch

open Lines (Text LF splitInclusive IsPiece Whole)
open List

inductive HunkLine where
  | context (l : Text)
  | removed (l : Text)
  | added (l : Text)

structure Hunk where
  (oldStart oldCount newStart newCount : Nat)
  body : List HunkLine

def HunkLine.sign : HunkLine → Char
  | .context _ => ' '
  | .removed _ => '-'
  | .added _ => '+'

def HunkLine.content : HunkLine → Text
  | .context l | .removed l | .added l => l

def isRemoved : HunkLine → Bool
  | .removed _ => true
  | _ => false

def isAdded : HunkLine → Bool
  | .added _ => true
  | _ => false

variable (h : Hunk)

def Hunk.inserted : Nat := h.body.countP isAdded
def Hunk.deleted : Nat := h.body.countP isRemoved

/-! ## Applying -/

def applyBody : List HunkLine → List Text → Option (List Text)
  | [], old => some old
  | .added l :: body, old => (applyBody body old).map (l :: ·)
  | .context l :: body, o :: old => if o = l then (applyBody body old).map (l :: ·) else none
  | .removed l :: body, o :: old => if o = l then applyBody body old else none
  | _ :: _, [] => none

def position (start count : Nat) : Option Nat :=
  if count = 0 then some start else if start = 0 then none else some (start - 1)

def Hunk.apply (old : List Text) : Option (List Text) :=
  match position h.oldStart h.oldCount with
  | none => none
  | some i =>
    if position h.newStart h.newCount = some i ∧ i ≤ old.length
        ∧ h.body.countP (fun l => !isAdded l) = h.oldCount
        ∧ h.body.countP (fun l => !isRemoved l) = h.newCount then
      (applyBody h.body (old.drop i)).map (old.take i ++ ·)
    else none

theorem Hunk.apply_of_position {h : Hunk} {old : List Text} {i : Nat} (hold : position h.oldStart h.oldCount = some i)
    (hnew : position h.newStart h.newCount = some i) (hi : i ≤ old.length)
    (hcold : h.body.countP (fun l => !isAdded l) = h.oldCount) (hcnew : h.body.countP (fun l => !isRemoved l) = h.newCount) :
    h.apply old = (applyBody h.body (old.drop i)).map (old.take i ++ ·) := by
  unfold Hunk.apply
  rw [hold]
  exact if_pos ⟨hnew, hi, hcold, hcnew⟩

theorem applyBody_context (body : List HunkLine) : ∀ ctx old : List Text,
    applyBody (ctx.map .context ++ body) (ctx ++ old) = (applyBody body old).map (ctx ++ ·)
  | [], old => by simp
  | l :: ctx, old => by
    simp only [map_cons, cons_append, applyBody, if_true, applyBody_context body ctx old]
    cases applyBody body old <;> rfl

theorem applyBody_removed (body : List HunkLine) : ∀ gone old : List Text,
    applyBody (gone.map .removed ++ body) (gone ++ old) = applyBody body old
  | [], _ => rfl
  | l :: gone, old => by
    simp [applyBody, applyBody_removed body gone old]

theorem applyBody_added (body : List HunkLine) (old : List Text) : ∀ new : List Text,
    applyBody (new.map .added ++ body) old = (applyBody body old).map (new ++ ·)
  | [] => by simp
  | l :: new => by
    simp only [map_cons, cons_append, applyBody, applyBody_added body old new]
    cases applyBody body old <;> rfl

def trimmedBody (lead gone new trail : List Text) : List HunkLine :=
  lead.map .context ++ gone.map .removed ++ new.map .added ++ trail.map .context

/-- **A trimmed hunk rewrites its middle.** -/
theorem applyBody_trimmed (lead gone new trail rest : List Text) :
    applyBody (trimmedBody lead gone new trail) (lead ++ gone ++ trail ++ rest) = some (lead ++ new ++ trail ++ rest) := by
  have htrail : applyBody (trail.map .context) (trail ++ rest) = some (trail ++ rest) := by
    have := applyBody_context [] trail rest
    simpa [applyBody] using this
  rw [trimmedBody, append_assoc, append_assoc, append_assoc, append_assoc, applyBody_context,
    applyBody_removed, applyBody_added, htrail]
  simp

theorem countP_map_eq (mk : Text → HunkLine) (p : HunkLine → Bool) (b : Bool) (h : ∀ l, p (mk l) = b) (ls : List Text) :
    (ls.map mk).countP p = if b then ls.length else 0 := by
  induction ls with
  | nil => cases b <;> rfl
  | cons l ls ih =>
    rw [map_cons, countP_cons, ih, h l]
    cases b <;> simp

theorem countP_notAdded_trimmedBody (lead gone new trail : List Text) :
    (trimmedBody lead gone new trail).countP (fun l => !isAdded l) = lead.length + gone.length + trail.length := by
  simp only [trimmedBody, countP_append, countP_map_eq .context (fun l => !isAdded l) true (fun _ => rfl),
    countP_map_eq .removed (fun l => !isAdded l) true (fun _ => rfl),
    countP_map_eq .added (fun l => !isAdded l) false (fun _ => rfl), Bool.false_eq_true, if_true, if_false, Nat.add_zero]

theorem countP_notRemoved_trimmedBody (lead gone new trail : List Text) :
    (trimmedBody lead gone new trail).countP (fun l => !isRemoved l) = lead.length + new.length + trail.length := by
  simp only [trimmedBody, countP_append, countP_map_eq .context (fun l => !isRemoved l) true (fun _ => rfl),
    countP_map_eq .removed (fun l => !isRemoved l) false (fun _ => rfl),
    countP_map_eq .added (fun l => !isRemoved l) true (fun _ => rfl), Bool.false_eq_true, if_true, if_false, Nat.add_zero]

theorem isPiece_of_mem_map {mk : Text → HunkLine} (hmk : ∀ l, (mk l).content = l) {ls : List Text}
    (h : ∀ l ∈ ls, IsPiece l) : ∀ l ∈ ls.map mk, IsPiece l.content := by
  intro l hl
  obtain ⟨x, hx, rfl⟩ := mem_map.1 hl
  rw [hmk]
  exact h x hx

theorem isPiece_of_mem_trimmedBody {lead gone new trail : List Text} (hlead : ∀ l ∈ lead, IsPiece l)
    (hgone : ∀ l ∈ gone, IsPiece l) (hnew : ∀ l ∈ new, IsPiece l) (htrail : ∀ l ∈ trail, IsPiece l) :
    ∀ l ∈ trimmedBody lead gone new trail, IsPiece l.content := by
  intro l hl
  simp only [trimmedBody, mem_append] at hl
  rcases hl with ((hl | hl) | hl) | hl
  · exact isPiece_of_mem_map (fun _ => rfl) hlead l hl
  · exact isPiece_of_mem_map (fun _ => rfl) hgone l hl
  · exact isPiece_of_mem_map (fun _ => rfl) hnew l hl
  · exact isPiece_of_mem_map (fun _ => rfl) htrail l hl

/-! ## Rendering -/

def noNewlineMarker : Text := "\\ No newline at end of file\n".toList
def hunkMark : Text := ['@', '@', ' ']
def oldRangeMark : Text := ['@', '@', ' ', '-']
def newRangeMark : Text := [' ', '+']
def hunkClose : Text := [' ', '@', '@', LF]

def HunkLine.render (l : HunkLine) : Text :=
  l.sign :: l.content ++ (if l.content.getLast? = some LF then [] else LF :: noNewlineMarker)

def renderBody (body : List HunkLine) : Text := body.flatMap HunkLine.render

def decimal (n : Nat) : Text := Nat.toDigits 10 n

def Hunk.renderHeader : Text :=
  oldRangeMark ++ decimal h.oldStart ++ [','] ++ decimal h.oldCount
    ++ newRangeMark ++ decimal h.newStart ++ [','] ++ decimal h.newCount ++ hunkClose

/-! ## Reading -/

def expect (p t : Text) : Option Text := if p.isPrefixOf t then some (t.drop p.length) else none

def readDecimal (t : Text) : Option (Nat × Text) :=
  let digits := t.takeWhile Char.isDigit
  if digits = [] then none else some (Nat.ofDigitChars 10 digits 0, t.dropWhile Char.isDigit)

def readHeader (line : Text) : Option (Nat × Nat × Nat × Nat) := do
  let t ← expect oldRangeMark line
  let (oldStart, t) ← readDecimal t
  let t ← expect [','] t
  let (oldCount, t) ← readDecimal t
  let t ← expect newRangeMark t
  let (newStart, t) ← readDecimal t
  let t ← expect [','] t
  let (newCount, t) ← readDecimal t
  if t = hunkClose then some (oldStart, oldCount, newStart, newCount) else none

def readLine (sign : Char) (content : Text) : Option HunkLine :=
  if sign = ' ' then some (.context content)
  else if sign = '-' then some (.removed content)
  else if sign = '+' then some (.added content)
  else none

def readBody : List Text → Option (List HunkLine)
  | [] => some []
  | [] :: _ => none
  | [sign :: content] => (readLine sign content).map ([·])
  | (sign :: content) :: next :: rest =>
    if next.head? = some '\\' then
      match readLine sign content.dropLast, readBody rest with
      | some l, some ls => some (l :: ls)
      | _, _ => none
    else
      match readLine sign content, readBody (next :: rest) with
      | some l, some ls => some (l :: ls)
      | _, _ => none

def readPatch (patch : Text) : Option Hunk :=
  match (splitInclusive patch).dropWhile (fun l => !hunkMark.isPrefixOf l) with
  | [] => none
  | header :: body =>
    match readHeader header, readBody body with
    | some (oldStart, oldCount, newStart, newCount), some ls =>
      some { oldStart, oldCount, newStart, newCount, body := ls }
    | _, _ => none

/-! ## The round trip -/

theorem readLine_content (l : HunkLine) : readLine l.sign l.content = some l := by
  cases l <;> rfl

theorem splitInclusive_render (l : HunkLine) (t : Text) (hl : IsPiece l.content) :
    splitInclusive (l.render ++ t)
      = (if l.content.getLast? = some LF then [l.sign :: l.content]
         else [l.sign :: (l.content ++ [LF]), noNewlineMarker]) ++ splitInclusive t := by
  have hsign : l.sign ≠ LF := by cases l <;> simp [HunkLine.sign, LF]
  obtain ⟨content, hn, hc⟩ := hl
  have hn' : LF ∉ l.sign :: content := by simp [hn, Ne.symm hsign]
  unfold HunkLine.render
  rcases hc with hc | ⟨hc, hne⟩
  · rw [hc, if_pos (by simp), if_pos (by simp)]
    have := Lines.splitInclusive_line (l.sign :: content) t hn'
    simpa using this
  · have hlast : ¬ content.getLast? = some LF := fun h => hn (mem_of_getLast? h)
    rw [hc, if_neg hlast, if_neg hlast]
    have h1 := Lines.splitInclusive_line (l.sign :: content) (noNewlineMarker ++ t) hn'
    have h2 : splitInclusive (noNewlineMarker ++ t) = noNewlineMarker :: splitInclusive t :=
      Lines.splitInclusive_line noNewlineMarker.dropLast t (by decide)
    rw [h2] at h1
    simpa using h1

theorem head?_splitInclusive_renderBody : ∀ body : List HunkLine, (∀ l ∈ body, IsPiece l.content) →
    ∀ x ∈ (splitInclusive (renderBody body)).head?, x.head? ≠ some '\\'
  | [], _, x, hx => by cases hx
  | l :: body, h, x, hx => by
    have hsign : l.sign ≠ '\\' := by cases l <;> simp [HunkLine.sign]
    rw [renderBody, flatMap_cons, splitInclusive_render l _ (h l mem_cons_self)] at hx
    split at hx <;> · simp at hx; subst hx; simpa using hsign

theorem readBody_renderBody : ∀ body : List HunkLine, (∀ l ∈ body, IsPiece l.content) →
    readBody (splitInclusive (renderBody body)) = some body
  | [], _ => rfl
  | l :: body, h => by
    have hl := h l mem_cons_self
    have hbody : ∀ m ∈ body, IsPiece m.content := fun m hm => h m (mem_cons_of_mem l hm)
    have ih := readBody_renderBody body hbody
    have hhead := head?_splitInclusive_renderBody body hbody
    rw [renderBody, flatMap_cons, splitInclusive_render l _ hl, ← renderBody]
    split
    · cases hs : splitInclusive (renderBody body) with
      | nil =>
        rw [hs] at ih
        cases ih
        simp [readBody, readLine_content]
      | cons x xs =>
        rw [hs] at ih hhead
        have hx : x.head? ≠ some '\\' := hhead x rfl
        simp only [cons_append, nil_append, readBody, hx, if_false, readLine_content, ih]
    · have hmark : noNewlineMarker.head? = some '\\' := rfl
      simp [readBody, hmark, readLine_content, ih]

theorem expect_append (p t : Text) : expect p (p ++ t) = some t := by
  simp [expect]

theorem readDecimal_decimal (n : Nat) (t : Text) (ht : ∀ c ∈ t.head?, c.isDigit = false) :
    readDecimal (decimal n ++ t) = some (n, t) := by
  have hdigits : ∀ c ∈ decimal n, c.isDigit = true := fun c hc =>
    Nat.isDigit_of_mem_toDigits (by decide) (by decide) hc
  have hstop : t.takeWhile Char.isDigit = [] ∧ t.dropWhile Char.isDigit = t := by
    cases t with
    | nil => exact ⟨rfl, rfl⟩
    | cons c cs => simp [ht c rfl]
  have htake : (decimal n ++ t).takeWhile Char.isDigit = decimal n := by
    rw [takeWhile_append_of_pos hdigits, hstop.1, append_nil]
  have hdrop : (decimal n ++ t).dropWhile Char.isDigit = t := by
    rw [dropWhile_append_of_pos hdigits, hstop.2]
  have hne : decimal n ≠ [] := Nat.toDigits_ne_nil
  simp only [readDecimal, htake, hdrop, hne, if_false]
  rw [decimal, Nat.ofDigitChars_ten_toDigits]

theorem readHeader_renderHeader (h : Hunk) :
    readHeader h.renderHeader = some (h.oldStart, h.oldCount, h.newStart, h.newCount) := by
  have hcomma : ∀ t : Text, ∀ c ∈ ([','] ++ t).head?, c.isDigit = false := by
    intro t c hc
    cases hc
    rfl
  have hplus : ∀ t : Text, ∀ c ∈ (newRangeMark ++ t).head?, c.isDigit = false := by
    intro t c hc
    cases hc
    rfl
  have hclose : ∀ c ∈ hunkClose.head?, c.isDigit = false := by
    intro c hc
    cases hc
    rfl
  simp only [Hunk.renderHeader, append_assoc]
  unfold readHeader
  simp only [bind, Option.bind, expect_append, readDecimal_decimal _ _ (hcomma _),
    readDecimal_decimal _ _ (hplus _), readDecimal_decimal _ _ hclose, if_true]

theorem lf_not_mem_decimal (n : Nat) : LF ∉ decimal n := fun h =>
  absurd (Nat.isDigit_of_mem_toDigits (by decide) (by decide) h) (by decide)

theorem splitInclusive_renderHeader (h : Hunk) (t : Text) :
    splitInclusive (h.renderHeader ++ t) = h.renderHeader :: splitInclusive t := by
  have hn : LF ∉ oldRangeMark ++ decimal h.oldStart ++ [','] ++ decimal h.oldCount
      ++ newRangeMark ++ decimal h.newStart ++ [','] ++ decimal h.newCount ++ [' ', '@', '@'] := by
    have hlf := lf_not_mem_decimal
    simp only [LF] at hlf
    simp [hlf, LF, oldRangeMark, newRangeMark]
  have hsplit := Lines.splitInclusive_line _ t hn
  simpa [Hunk.renderHeader, hunkClose] using hsplit

theorem hunkMark_isPrefixOf_renderHeader (h : Hunk) : hunkMark.isPrefixOf h.renderHeader = true := by
  simp [hunkMark, Hunk.renderHeader, oldRangeMark]

/-- **Reading back a rendered patch**: a file header made of whole lines, none of them a hunk line,
followed by a rendered hunk, reads as that hunk. -/
theorem readPatch_render (preamble : Text) (h : Hunk) (hw : Whole preamble)
    (hp : (splitInclusive preamble).any hunkMark.isPrefixOf = false) (hb : ∀ l ∈ h.body, IsPiece l.content) :
    readPatch (preamble ++ (h.renderHeader ++ renderBody h.body)) = some h := by
  have hskip : ∀ l ∈ splitInclusive preamble, (!hunkMark.isPrefixOf l) = true := fun l hl => by
    rw [Bool.not_eq_true', ← Bool.not_eq_true]
    exact any_eq_false.1 hp l hl
  have hstop : dropWhile (fun l => !hunkMark.isPrefixOf l) (h.renderHeader :: splitInclusive (renderBody h.body))
      = h.renderHeader :: splitInclusive (renderBody h.body) := by
    rw [dropWhile_cons, if_neg (by simp [hunkMark_isPrefixOf_renderHeader])]
  rw [readPatch, Lines.splitInclusive_append_of_whole _ _ hw, splitInclusive_renderHeader,
    dropWhile_append_of_pos hskip, hstop]
  simp [readHeader_renderHeader, readBody_renderBody h.body hb]

/-! ## A second hunk line -/

theorem readBody_eq_none_of_at : ∀ (ls : List Text) (t : Text), ('@' :: t) ∈ ls → readBody ls = none
  | [], _, h => by cases h
  | [] :: _, _, _ => rfl
  | [sign :: content], t, h => by
    obtain ⟨rfl, rfl⟩ : '@' = sign ∧ t = content := by simpa using h
    rfl
  | (sign :: content) :: next :: rest, t, h => by
    rcases mem_cons.1 h with h | h
    · obtain ⟨rfl, rfl⟩ : '@' = sign ∧ t = content := by simpa using h
      simp [readBody, readLine]
    · rw [readBody]
      split
      · rename_i hnext
        have hrest : ('@' :: t) ∈ rest := by
          rcases mem_cons.1 h with rfl | h
          · cases hnext
          · exact h
        rw [readBody_eq_none_of_at rest t hrest]
        split <;> simp_all
      · rw [readBody_eq_none_of_at (next :: rest) t h]
        split <;> simp_all

/-- **A hunk line in the file header spoils the patch**: the real hunk header then reads as a body line. -/
theorem readPatch_eq_none (preamble : Text) (h : Hunk) (hw : Whole preamble)
    (hp : (splitInclusive preamble).any hunkMark.isPrefixOf = true) (t : Text) :
    readPatch (preamble ++ (h.renderHeader ++ t)) = none := by
  obtain ⟨l, hl, hmark⟩ := any_eq_true.1 hp
  rw [readPatch, Lines.splitInclusive_append_of_whole _ _ hw, splitInclusive_renderHeader, dropWhile_append]
  have hne : (dropWhile (fun l => !hunkMark.isPrefixOf l) (splitInclusive preamble)).isEmpty = false := by
    rw [isEmpty_eq_false_iff]
    intro hnil
    have := dropWhile_eq_nil_iff.1 hnil l hl
    rw [hmark] at this
    cases this
  rw [hne]
  cases hd : dropWhile (fun l => !hunkMark.isPrefixOf l) (splitInclusive preamble) with
  | nil => rw [hd] at hne; cases hne
  | cons x xs =>
    have hat : readBody (xs ++ h.renderHeader :: splitInclusive t) = none :=
      readBody_eq_none_of_at _ _ (mem_append_right xs (mem_cons.2 (Or.inl rfl)))
    simp only [cons_append, Bool.false_eq_true, if_false, hat]
    split <;> simp_all

end Patch
