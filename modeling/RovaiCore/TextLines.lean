import Mathlib.Algebra.Ring.Nat
/-!
# Texts and their lines

A text is the list of its Unicode scalar values.
-/
namespace Lines

open List

abbrev Text := List Char

def LF : Char := '\n'

def splitInclusive : Text → List Text
  | [] => []
  | c :: cs =>
    if c = LF then [c] :: splitInclusive cs
    else match splitInclusive cs with
      | [] => [[c]]
      | l :: ls => (c :: l) :: ls

def stripLineEnding (l : Text) : Text :=
  if l.getLast? = some LF then
    let content := l.dropLast
    if content.getLast? = some '\r' then content.dropLast else content
  else l

variable (t : Text)

def textLines : List Text := (splitInclusive t).map stripLineEnding

def Whole : Prop := t = [] ∨ t.getLast? = some LF

def IsPiece (l : Text) : Prop := ∃ content, LF ∉ content ∧ (l = content ++ [LF] ∨ (l = content ∧ content ≠ []))

/-! ## Cutting -/

theorem splitInclusive_lf : splitInclusive (LF :: t) = [LF] :: splitInclusive t := by
  simp [splitInclusive]

variable {c : Char}

theorem splitInclusive_cons_of_ne (hc : c ≠ LF) (t : Text) :
    splitInclusive (c :: t) = (match splitInclusive t with
      | [] => [[c]]
      | l :: ls => (c :: l) :: ls) := by
  simp [splitInclusive, hc]

@[simp] theorem flatten_splitInclusive : ∀ t : Text, (splitInclusive t).flatten = t
  | [] => rfl
  | c :: cs => by
    have ih := flatten_splitInclusive cs
    by_cases hc : c = LF
    · subst hc
      rw [splitInclusive_lf, flatten_cons, ih]
      rfl
    · rw [splitInclusive_cons_of_ne hc]
      cases hs : splitInclusive cs with
      | nil => rw [hs] at ih; simp_all
      | cons l ls => rw [hs] at ih; simpa using ih

@[simp] theorem splitInclusive_eq_nil {t : Text} : splitInclusive t = [] ↔ t = [] := by
  constructor
  · intro h
    rw [← flatten_splitInclusive t, h]
    rfl
  · rintro rfl; rfl

theorem isPiece_of_mem : ∀ (t : Text) (l : Text), l ∈ splitInclusive t → IsPiece l
  | [], l, h => by simp [splitInclusive] at h
  | c :: cs, l, h => by
    by_cases hc : c = LF
    · subst hc
      rw [splitInclusive_lf] at h
      rcases mem_cons.1 h with rfl | h
      · exact ⟨[], by simp, Or.inl rfl⟩
      · exact isPiece_of_mem cs l h
    · rw [splitInclusive_cons_of_ne hc] at h
      have ih := isPiece_of_mem cs
      cases hs : splitInclusive cs with
      | nil =>
        rw [hs] at h
        rw [mem_singleton.1 h]
        exact ⟨[c], by simpa using Ne.symm hc, Or.inr ⟨rfl, by simp⟩⟩
      | cons m ms =>
        rw [hs] at h ih
        rcases mem_cons.1 h with rfl | h
        · obtain ⟨content, hn, hm⟩ := ih m mem_cons_self
          refine ⟨c :: content, by simp [hn, Ne.symm hc], ?_⟩
          rcases hm with rfl | ⟨rfl, -⟩
          · exact Or.inl rfl
          · exact Or.inr ⟨rfl, by simp⟩
        · exact ih l (mem_cons_of_mem m h)

/-! ## Concatenation -/

theorem splitInclusive_line (content t : Text) (h : LF ∉ content) :
    splitInclusive (content ++ LF :: t) = (content ++ [LF]) :: splitInclusive t := by
  induction content with
  | nil => exact splitInclusive_lf t
  | cons c cs ih =>
    have hc : c ≠ LF := fun e => h (by simp [e])
    have hcs : LF ∉ cs := fun e => h (mem_cons_of_mem c e)
    rw [cons_append, splitInclusive_cons_of_ne hc, ih hcs]
    rfl

theorem splitInclusive_append_of_whole : ∀ (s t : Text), Whole s →
    splitInclusive (s ++ t) = splitInclusive s ++ splitInclusive t
  | [], t, _ => rfl
  | c :: cs, t, hw => by
    have hlast : (c :: cs).getLast? = some LF := hw.resolve_left (by simp)
    by_cases hc : c = LF
    · subst hc
      have hcs : Whole cs := by
        cases cs with
        | nil => exact Or.inl rfl
        | cons d ds => exact Or.inr (by simpa [getLast?_cons_cons] using hlast)
      rw [cons_append, splitInclusive_lf, splitInclusive_lf, cons_append,
        splitInclusive_append_of_whole cs t hcs]
    · cases cs with
      | nil => simp [hc] at hlast
      | cons d ds =>
        have hcs : Whole (d :: ds) := Or.inr (by simpa [getLast?_cons_cons] using hlast)
        have ih := splitInclusive_append_of_whole (d :: ds) t hcs
        rw [cons_append, splitInclusive_cons_of_ne hc, splitInclusive_cons_of_ne hc, ih]
        cases hs : splitInclusive (d :: ds) with
        | nil => simp at hs
        | cons l ls => rfl

/-- **A text in front of another lengthens its first line**: no line feed in it means no new line. -/
theorem splitInclusive_append_of_not_mem (a t : Text) (ha : LF ∉ a) (hne : a ≠ []) :
    splitInclusive (a ++ t) = (a ++ (splitInclusive t).headD []) :: (splitInclusive t).tail := by
  induction a with
  | nil => exact absurd rfl hne
  | cons c cs ih =>
    have hc : c ≠ LF := fun e => ha (by simp [e])
    have hcs : LF ∉ cs := fun e => ha (mem_cons_of_mem c e)
    rw [cons_append, splitInclusive_cons_of_ne hc]
    by_cases hnil : cs = []
    · subst hnil
      cases hs : splitInclusive t <;> simp [hs]
    · rw [ih hcs hnil]
      simp

theorem whole_append_lf : Whole (t ++ [LF]) := Or.inr (by simp)

/-! ## Lines that start with a given text

`p` below is a marker such as a hunk or header prefix: non-empty, without a line feed. -/

theorem tail_splitInclusive_cons_of_ne (hc : c ≠ LF) (t : Text) :
    (splitInclusive (c :: t)).tail = (splitInclusive t).tail := by
  rw [splitInclusive_cons_of_ne hc]
  cases splitInclusive t <;> rfl

theorem headD_splitInclusive_cons_of_ne (hc : c ≠ LF) (t : Text) :
    (splitInclusive (c :: t)).headD [] = c :: (splitInclusive t).headD [] := by
  rw [splitInclusive_cons_of_ne hc]
  cases splitInclusive t <;> rfl

theorem isPrefixOf_append_cons (d : Char) : ∀ (p a b : Text), d ∉ p → p.isPrefixOf (a ++ d :: b) = p.isPrefixOf a
  | [], a, b, _ => by simp
  | x :: p, [], b, hp => by
    have hx : x ≠ d := fun e => hp (by simp [e])
    simp [List.isPrefixOf, hx]
  | x :: p, c :: a, b, hp => by
    have ih := isPrefixOf_append_cons d p a b (fun e => hp (mem_cons_of_mem x e))
    simp [cons_append, List.isPrefixOf, ih]

theorem isPrefixOf_dropLast {d : Char} {p l : Text} (hd : l.getLast? = some d) (hp : d ∉ p) :
    p.isPrefixOf l.dropLast = p.isPrefixOf l := by
  have hl : l = l.dropLast ++ [d] := by
    obtain ⟨init, rfl⟩ := getLast?_eq_some_iff.1 hd
    simp
  conv => rhs; rw [hl]
  rw [isPrefixOf_append_cons d p _ [] hp]

theorem isPrefixOf_stripLineEnding {p : Text} (hlf : LF ∉ p) (hcr : '\r' ∉ p) (l : Text) :
    p.isPrefixOf (stripLineEnding l) = p.isPrefixOf l := by
  unfold stripLineEnding
  split
  · rename_i hl
    dsimp only
    split
    · rename_i hc
      rw [isPrefixOf_dropLast hc hcr, isPrefixOf_dropLast hl hlf]
    · exact isPrefixOf_dropLast hl hlf
  · rfl

theorem isPrefixOf_headD : ∀ (p t : Text), LF ∉ p → p.isPrefixOf ((splitInclusive t).headD []) = p.isPrefixOf t
  | [], _, _ => by simp
  | _ :: _, [], _ => rfl
  | x :: p, c :: t, hp => by
    have hx : x ≠ LF := fun e => hp (by simp [e])
    by_cases hc : c = LF
    · subst hc
      simp [splitInclusive_lf, List.isPrefixOf, beq_eq_false_iff_ne.2 hx]
    · rw [headD_splitInclusive_cons_of_ne hc]
      simp only [List.isPrefixOf, isPrefixOf_headD p t (fun e => hp (mem_cons_of_mem x e))]

theorem any_splitInclusive (p t : Text) (hne : p ≠ []) (hp : LF ∉ p) :
    (splitInclusive t).any p.isPrefixOf = (p.isPrefixOf t || (splitInclusive t).tail.any p.isPrefixOf) := by
  rw [← isPrefixOf_headD p t hp]
  cases splitInclusive t with
  | cons l ls => rfl
  | nil =>
    cases p with
    | nil => exact absurd rfl hne
    | cons x p => rfl

/-- **The later lines of two texts joined by a line feed**: those of the first, and every line of the second. -/
theorem any_tail_append_lf (p : Text) (hne : p ≠ []) (hp : LF ∉ p) : ∀ a b : Text,
    (splitInclusive (a ++ LF :: b)).tail.any p.isPrefixOf
      = ((splitInclusive a).tail.any p.isPrefixOf || (splitInclusive b).any p.isPrefixOf)
  | [], b => by
    rw [nil_append, splitInclusive_lf]
    rfl
  | c :: a, b => by
    have ih := any_tail_append_lf p hne hp a b
    by_cases hc : c = LF
    · subst hc
      rw [cons_append, splitInclusive_lf, splitInclusive_lf, tail_cons, tail_cons,
        any_splitInclusive p _ hne hp, any_splitInclusive p a hne hp, ih, isPrefixOf_append_cons LF p a b hp,
        Bool.or_assoc]
    · rw [cons_append, tail_splitInclusive_cons_of_ne hc, tail_splitInclusive_cons_of_ne hc, ih]

theorem any_tail_append_of_not_mem (p a t : Text) (ha : LF ∉ a) :
    (splitInclusive (a ++ t)).tail.any p.isPrefixOf = (splitInclusive t).tail.any p.isPrefixOf := by
  by_cases hne : a = []
  · rw [hne]; rfl
  · rw [splitInclusive_append_of_not_mem a t ha hne, tail_cons]

end Lines
