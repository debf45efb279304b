import Mathlib.Data.List.Basic
/-!
# Line ends in two spellings

A text has its line ends as `\n` or as `\r\n`. `replaceCrlf` is `str::replace` of the pair, `expandLf` writes the pair for every
`\n`.
-/
namespace Newlines

open List

def replaceCrlf (replacement : List Char) : List Char → List Char
  | '\r' :: '\n' :: rest => replacement ++ replaceCrlf replacement rest
  | c :: rest => c :: replaceCrlf replacement rest
  | [] => []

def hasCrlf : List Char → Bool
  | '\r' :: '\n' :: _ => true
  | _ :: rest => hasCrlf rest
  | [] => false

variable (t : List Char)

def foldCrlf : List Char := replaceCrlf ['\n'] t

def expandLf : List Char := t.flatMap fun c => if c = '\n' then ['\r', '\n'] else [c]

theorem expandLf_line : expandLf ('\n' :: t) = '\r' :: '\n' :: expandLf t := rfl

theorem expandLf_cons {c : Char} (h : c ≠ '\n') (t : List Char) : expandLf (c :: t) = c :: expandLf t := by
  unfold expandLf
  rw [flatMap_cons, if_neg h]
  rfl

/-! ## Back and there -/

variable {raw : List Char}

/-- **A text whose line ends are all pairs is written as it was**: no `\r` is left over, and no `\n` outside a pair. -/
theorem expandLf_fold (hreturn : '\r' ∉ foldCrlf raw) (hline : '\n' ∉ replaceCrlf [] raw) :
    expandLf (foldCrlf raw) = raw := by
  unfold foldCrlf at hreturn ⊢
  fun_induction replaceCrlf [] raw with
  | case1 rest ih =>
    rw [replaceCrlf] at hreturn ⊢
    rw [singleton_append, expandLf_line, ih (fun h => hreturn (mem_append_right _ h)) hline]
  | case2 c rest hpair ih =>
    rw [replaceCrlf] at hreturn ⊢
    · rw [mem_cons, not_or] at hreturn hline
      rw [expandLf_cons (fun h => hline.1 h.symm), ih hreturn.2 hline.2]
    · exact hpair
    · exact hpair
  | case3 => rfl

theorem foldCrlf_of_none (h : hasCrlf raw = false) : foldCrlf raw = raw := by
  unfold foldCrlf
  fun_induction replaceCrlf ['\n'] raw with
  | case1 rest ih => cases h
  | case2 c rest hpair ih =>
    rw [hasCrlf] at h
    · rw [ih h]
    · exact hpair
  | case3 => rfl

theorem mem_foldCrlf {c : Char} (h : c ∈ foldCrlf raw) : c = '\n' ∨ c ∈ raw := by
  unfold foldCrlf at h
  fun_induction replaceCrlf ['\n'] raw with
  | case1 rest ih =>
    rw [singleton_append, mem_cons] at h
    rcases h with h | h
    · exact .inl h
    · exact (ih h).imp_right fun hmem => mem_cons_of_mem _ (mem_cons_of_mem _ hmem)
  | case2 c' rest hpair ih =>
    rw [mem_cons] at h
    rcases h with rfl | h
    · exact .inr mem_cons_self
    · exact (ih h).imp_right (mem_cons_of_mem c')
  | case3 => cases h

/-! ## There and back -/

variable {t : List Char}

theorem hasCrlf_of_notMem (h : '\r' ∉ t) : hasCrlf t = false := by
  fun_induction hasCrlf t with
  | case1 rest => exact absurd mem_cons_self h
  | case2 c rest hpair ih => exact ih fun hmem => h (mem_cons_of_mem c hmem)
  | case3 => rfl

/-- **A text without a `\r` is read as it was written.** -/
theorem fold_expandLf (h : '\r' ∉ t) (replacement : List Char) :
    replaceCrlf replacement (expandLf t) = t.flatMap fun c => if c = '\n' then replacement else [c] := by
  induction t with
  | nil => rfl
  | cons c t ih =>
    rw [mem_cons, not_or] at h
    by_cases hc : c = '\n'
    · subst hc
      rw [expandLf_line, replaceCrlf, ih h.2]
      rfl
    · rw [expandLf_cons hc, replaceCrlf, ih h.2, flatMap_cons, if_neg hc]
      · rfl
      · exact fun rest heq => absurd heq (fun h' => h.1 h'.symm)

theorem foldCrlf_expandLf (h : '\r' ∉ t) : foldCrlf (expandLf t) = t := by
  unfold foldCrlf
  rw [fold_expandLf h]
  induction t with
  | nil => rfl
  | cons c t ih =>
    rw [flatMap_cons, ih fun hmem => h (mem_cons_of_mem c hmem)]
    by_cases hc : c = '\n'
    · rw [if_pos hc, hc]
      rfl
    · rw [if_neg hc]
      rfl

theorem notMem_removed (h : '\r' ∉ t) : '\n' ∉ replaceCrlf [] (expandLf t) := by
  rw [fold_expandLf h, mem_flatMap]
  rintro ⟨c, -, hc⟩
  split at hc
  · exact not_mem_nil hc
  rename_i hne
  exact hne (mem_singleton.1 hc).symm

end Newlines
