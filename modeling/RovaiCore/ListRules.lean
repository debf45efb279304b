import Mathlib.Data.List.Sort
/-!
# Reading lists

What a reader skips anyway can be filtered out before it reads (`flatMap_filter_of_nil`, `filterMap_filter_of_none`), and a reader
that sees its input through a function reads lists of equal images the same way (`map_eq_of_map_eq`).
-/
namespace Lists

open List

variable {α β γ : Type}

theorem flatMap_filter_of_nil {f : α → List β} {p : α → Bool} : ∀ {l : List α},
    (∀ x ∈ l, p x = false → f x = []) → (l.filter p).flatMap f = l.flatMap f
  | [], _ => rfl
  | x :: l, h => by
    have ih := flatMap_filter_of_nil (f := f) (p := p) (l := l) (fun y hy => h y (mem_cons_of_mem x hy))
    cases hp : p x with
    | true => rw [filter_cons_of_pos hp, flatMap_cons, flatMap_cons, ih]
    | false =>
      rw [filter_cons_of_neg (by simp [hp]), flatMap_cons, h x (mem_cons_self ..) hp, nil_append, ih]

theorem filterMap_filter_of_none {f : α → Option β} {p : α → Bool} (h : ∀ x, p x = false → f x = none) :
    ∀ l : List α, (l.filter p).filterMap f = l.filterMap f
  | [] => rfl
  | x :: l => by
    have ih := filterMap_filter_of_none h l
    cases hx : p x with
    | true => rw [filter_cons_of_pos hx, filterMap_cons, filterMap_cons, ih]
    | false => rw [filter_cons_of_neg (by simp [hx]), filterMap_cons_none (h x hx), ih]

theorem map_eq_of_map_eq {f : α → β} {g : α → γ} (hfg : ∀ x y, f x = f y → g x = g y) :
    ∀ l l' : List α, l.map f = l'.map f → l.map g = l'.map g
  | [], [], _ => rfl
  | [], _ :: _, h => by cases h
  | _ :: _, [], h => by cases h
  | x :: l, y :: l', h => by
    rw [map_cons, map_cons, List.cons.injEq] at h
    rw [map_cons, map_cons, hfg x y h.1, map_eq_of_map_eq hfg l l' h.2]

theorem snoc_eq_append_cons {l before after : List α} {a x : α} (h : l ++ [a] = before ++ x :: after) :
    (before = l ∧ x = a) ∨ ∃ after', l = before ++ x :: after' := by
  rcases eq_nil_or_concat after with rfl | ⟨after', y, rfl⟩
  · obtain ⟨hl, ha⟩ := append_inj' h rfl
    rw [List.cons.injEq] at ha
    exact .inl ⟨hl.symm, ha.1.symm⟩
  · rw [concat_eq_append, ← cons_append, ← append_assoc] at h
    exact .inr ⟨after', (append_inj' h rfl).1⟩

theorem snoc_eq_append {l before after : List α} {a : α} (h : l ++ [a] = before ++ after) :
    (before = l ++ [a] ∧ after = []) ∨ ∃ after', l = before ++ after' ∧ after = after' ++ [a] := by
  rcases eq_nil_or_concat after with rfl | ⟨after', y, rfl⟩
  · exact .inl ⟨by simpa using h.symm, rfl⟩
  rw [concat_eq_append, ← append_assoc] at h
  obtain ⟨hl, ha⟩ := append_inj' h rfl
  cases ha
  exact .inr ⟨after', hl, concat_eq_append⟩

theorem eraseDups_snoc [BEq α] [LawfulBEq α] (l : List α) (a : α) :
    (l ++ [a]).eraseDups = if l.contains a then l.eraseDups else l.eraseDups ++ [a] := by
  rw [eraseDups_append]
  by_cases hmem : a ∈ l
  · simp [removeAll, hmem]
  · simp [removeAll, hmem, eraseDups_cons]

theorem le_foldl_max {x : Nat} : ∀ {l : List Nat} {a : Nat}, x ∈ l ∨ x ≤ a → x ≤ l.foldl max a
  | [], a, h => by simpa using h
  | y :: l, a, h => by
    refine le_foldl_max (l := l) (a := max a y) ?_
    obtain hmem | hle := h
    · obtain rfl | hmem := mem_cons.1 hmem
      · exact .inr (Nat.le_max_right a x)
      · exact .inl hmem
    · exact .inr (Nat.le_trans hle (Nat.le_max_left a y))

theorem orderedInsert_last {r : α → α → Prop} [DecidableRel r] {a : α} : ∀ {l : List α}, (∀ b ∈ l, ¬ r a b) →
    l.orderedInsert r a = l ++ [a]
  | [], _ => rfl
  | b :: l, h => by
    rw [orderedInsert_cons, if_neg (h b mem_cons_self), orderedInsert_last fun c hc => h c (mem_cons_of_mem b hc)]
    rfl

/-- A list in which no item may stand before a later one is sorted by turning it round. -/
theorem insertionSort_eq_reverse {r : α → α → Prop} [DecidableRel r] : ∀ {l : List α}, l.Pairwise (fun a b => ¬ r a b) →
    l.insertionSort r = l.reverse
  | [], _ => rfl
  | a :: l, h => by
    obtain ⟨hfirst, hrest⟩ := pairwise_cons.1 h
    rw [insertionSort_cons, insertionSort_eq_reverse hrest, reverse_cons]
    exact orderedInsert_last fun b hb => hfirst b (mem_reverse.1 hb)

end Lists
