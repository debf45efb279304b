import Mathlib.Algebra.Ring.Nat
import Mathlib.Data.List.Chain
/-!
# Texts that stand beside each other

A list of pieces, some of which are texts. `normalize` drops empty texts and joins texts that stand beside each other, one piece
after the other.
-/
namespace Coalesce

open List

structure Texts (σ : Type) where
  text : σ → Option String
  ofText : String → σ
  text_ofText : ∀ t, text (ofText t) = some t
  eq_ofText : ∀ {s t}, text s = some t → s = ofText t

namespace Texts

variable {σ τ β : Type} (T : Texts σ)

def push (normalized : List σ) (s : σ) : List σ :=
  match T.text s with
  | none => normalized ++ [s]
  | some t =>
    if t = "" then normalized
    else match normalized.getLast?.bind T.text with
      | some previous => normalized.dropLast ++ [T.ofText (previous ++ t)]
      | none => normalized ++ [s]

variable (pieces : List σ)

def normalize : List σ := pieces.foldl T.push []

/-- What a piece can do: it is dropped, it is joined, or it is added. -/
theorem push_cases (l : List σ) (s : σ) : s = T.ofText "" ∧ T.push l s = l ∨
    (∃ init previous t, l = init ++ [T.ofText previous] ∧ s = T.ofText t ∧ t ≠ "" ∧
      T.push l s = init ++ [T.ofText (previous ++ t)]) ∨
    T.text s ≠ some "" ∧ (∀ x ∈ l.getLast?, T.text x = none ∨ T.text s = none) ∧ T.push l s = l ++ [s] := by
  unfold push
  cases hs : T.text s with
  | none => exact .inr (.inr ⟨nofun, fun _ _ => .inr rfl, rfl⟩)
  | some t =>
    obtain rfl := T.eq_ofText hs
    dsimp only
    by_cases ht : t = ""
    · subst ht
      exact .inl ⟨rfl, if_pos rfl⟩
    · rw [if_neg ht]
      cases hlast : l.getLast?.bind T.text with
      | none =>
        refine .inr (.inr ⟨fun h => ht (Option.some.inj h), fun x hx => .inl ?_, rfl⟩)
        rw [Option.mem_def.1 hx, Option.bind_some] at hlast
        exact hlast
      | some previous =>
        obtain ⟨x, hx, htext⟩ := Option.bind_eq_some_iff.1 hlast
        obtain rfl := T.eq_ofText htext
        refine .inr (.inl ⟨l.dropLast, previous, t, ?_, rfl, ht, rfl⟩)
        exact (dropLast_append_getLast? _ hx).symm

/-! ## What stays -/

/-- **A pass over the pieces**: an empty text does nothing, and a text does what its parts do one after the other. -/
theorem foldl_normalize {g : β → σ → β} (hempty : ∀ b, g b (T.ofText "") = b)
    (hjoin : ∀ b s t, g (g b (T.ofText s)) (T.ofText t) = g b (T.ofText (s ++ t))) (pieces : List σ) (b : β) :
    (T.normalize pieces).foldl g b = pieces.foldl g b := by
  unfold normalize
  induction pieces using List.reverseRecOn with
  | nil => rfl
  | append_singleton pieces s ih =>
    rw [foldl_append, foldl_append, foldl_cons, foldl_nil, foldl_cons, foldl_nil, ← ih]
    generalize pieces.foldl T.push [] = l
    obtain ⟨rfl, hpush⟩ | ⟨init, previous, t, rfl, rfl, -, hpush⟩ | ⟨-, -, hpush⟩ := T.push_cases l s
    · rw [hpush, hempty]
    · rw [hpush, foldl_append, foldl_append, foldl_cons, foldl_nil, foldl_cons, foldl_nil, hjoin]
    · rw [hpush, foldl_append, foldl_cons, foldl_nil]

theorem sum_normalize {w : σ → Nat} (hempty : w (T.ofText "") = 0)
    (hjoin : ∀ s t, w (T.ofText (s ++ t)) = w (T.ofText s) + w (T.ofText t)) (pieces : List σ) :
    ((T.normalize pieces).map w).sum = (pieces.map w).sum := by
  have hdrop : ∀ b, b + w (T.ofText "") = b := fun b => by rw [hempty, Nat.add_zero]
  have hadd : ∀ b s t, b + w (T.ofText s) + w (T.ofText t) = b + w (T.ofText (s ++ t)) := fun b s t => by
    rw [hjoin, Nat.add_assoc]
  rw [sum_eq_foldl_nat, sum_eq_foldl_nat, foldl_map, foldl_map]
  exact T.foldl_normalize hdrop hadd pieces 0

theorem forall_normalize {P : σ → Prop} (htext : ∀ t, P (T.ofText t)) {pieces : List σ} (h : ∀ s ∈ pieces, P s) :
    ∀ s ∈ T.normalize pieces, P s := by
  unfold normalize
  induction pieces using List.reverseRecOn with
  | nil => exact fun s hs => absurd hs not_mem_nil
  | append_singleton pieces s ih =>
    have ih := ih fun x hx => h x (mem_append_left [s] hx)
    have hs := h s (mem_append_right pieces mem_cons_self)
    rw [foldl_append, foldl_cons, foldl_nil]
    generalize pieces.foldl T.push [] = l at ih ⊢
    obtain ⟨-, hpush⟩ | ⟨init, previous, t, rfl, -, -, hpush⟩ | ⟨-, -, hpush⟩ := T.push_cases l s
    · rw [hpush]
      exact ih
    · rw [hpush]
      intro x hx
      rcases mem_append.1 hx with hx | hx
      · exact ih x (mem_append_left _ hx)
      rw [mem_singleton.1 hx]
      exact htext _
    · rw [hpush]
      intro x hx
      rcases mem_append.1 hx with hx | hx
      · exact ih x hx
      rw [mem_singleton.1 hx]
      exact hs

theorem length_push_le (l : List σ) (s : σ) : (T.push l s).length ≤ l.length + 1 := by
  obtain ⟨-, hpush⟩ | ⟨init, previous, t, rfl, -, -, hpush⟩ | ⟨-, -, hpush⟩ := T.push_cases l s <;> rw [hpush]
  · exact Nat.le_succ _
  · rw [length_append, length_append]
    exact Nat.le_succ _
  · rw [length_append, length_singleton]

theorem length_normalize_le : (T.normalize pieces).length ≤ pieces.length := by
  unfold normalize
  induction pieces using List.reverseRecOn with
  | nil => exact Nat.le_refl _
  | append_singleton pieces s =>
    rw [foldl_append, foldl_cons, foldl_nil, length_append, length_singleton]
    have hle := T.length_push_le (pieces.foldl T.push []) s
    omega

theorem normalize_map (T' : Texts τ) {f : σ → τ} (hf : ∀ s, T'.text (f s) = T.text s) (pieces : List σ) :
    T'.normalize (pieces.map f) = (T.normalize pieces).map f := by
  have htext : ∀ t, f (T.ofText t) = T'.ofText t := fun t => T'.eq_ofText ((hf _).trans (T.text_ofText t))
  unfold normalize
  induction pieces using List.reverseRecOn with
  | nil => rfl
  | append_singleton pieces s ih =>
    rw [map_append, foldl_append, foldl_append, map_singleton, foldl_cons, foldl_nil,
      foldl_cons, foldl_nil, ih]
    generalize pieces.foldl T.push [] = l
    have hlast : (l.map f).getLast?.bind T'.text = l.getLast?.bind T.text := by
      rw [getLast?_map, Option.bind_map]
      congr 1
      funext x
      exact hf x
    unfold push
    rw [hf, hlast]
    cases T.text s with
    | none =>
      dsimp only
      rw [map_append, map_singleton]
    | some t =>
      dsimp only
      by_cases ht : t = ""
      · rw [if_pos ht, if_pos ht]
      rw [if_neg ht, if_neg ht]
      cases l.getLast?.bind T.text with
      | none =>
        dsimp only
        rw [map_append, map_singleton]
      | some previous =>
        dsimp only
        rw [map_append, map_dropLast, map_singleton, htext]

/-! ## Merged lists -/

def Merged (l : List σ) : Prop :=
  (∀ s ∈ l, T.text s ≠ some "") ∧ l.IsChain fun a b => T.text a = none ∨ T.text b = none

variable {l : List σ}

theorem merged_snoc {s : σ} : T.Merged (l ++ [s]) ↔
    T.Merged l ∧ T.text s ≠ some "" ∧ ∀ x ∈ l.getLast?, T.text x = none ∨ T.text s = none := by
  unfold Merged
  rw [isChain_append, forall_mem_append]
  simp only [forall_mem_singleton, isChain_singleton, head?_cons, Option.mem_def, Option.some.injEq, true_and,
    forall_eq']
  tauto

theorem merged_push (h : T.Merged l) (s : σ) : T.Merged (T.push l s) := by
  obtain ⟨-, hpush⟩ | ⟨init, previous, t, rfl, -, ht, hpush⟩ | ⟨hs, hlast, hpush⟩ := T.push_cases l s <;> rw [hpush]
  · exact h
  · obtain ⟨hinit, -, hbeside⟩ := T.merged_snoc.1 h
    refine T.merged_snoc.2 ⟨hinit, ?_, fun x hx => .inl ?_⟩
    · rw [T.text_ofText]
      intro heq
      exact ht (String.append_eq_empty_iff.1 (Option.some.inj heq)).2
    · refine (hbeside x hx).resolve_right ?_
      rw [T.text_ofText]
      exact nofun
  · exact T.merged_snoc.2 ⟨h, hs, hlast⟩

/-- **A normalized list is merged.** -/
theorem merged_normalize : T.Merged (T.normalize pieces) := by
  unfold normalize
  induction pieces using List.reverseRecOn with
  | nil => exact ⟨fun s hs => absurd hs not_mem_nil, List.IsChain.nil⟩
  | append_singleton pieces s ih =>
    rw [foldl_append, foldl_cons, foldl_nil]
    exact T.merged_push ih s

/-- **A merged list is left as it is.** -/
theorem normalize_of_merged (h : T.Merged l) : T.normalize l = l := by
  unfold normalize
  induction l using List.reverseRecOn with
  | nil => rfl
  | append_singleton l s ih =>
    obtain ⟨hl, hs, hlast⟩ := T.merged_snoc.1 h
    rw [foldl_append, foldl_cons, foldl_nil, ih hl]
    obtain ⟨rfl, -⟩ | ⟨init, previous, t, rfl, rfl, -, -⟩ | ⟨-, -, hpush⟩ := T.push_cases l s
    · exact absurd (T.text_ofText "") hs
    · rw [getLast?_append, getLast?_singleton] at hlast
      rcases hlast _ rfl with hnone | hnone
      · exact absurd hnone (by rw [T.text_ofText]; exact nofun)
      · exact absurd hnone (by rw [T.text_ofText]; exact nofun)
    · exact hpush

theorem normalize_normalize : T.normalize (T.normalize pieces) = T.normalize pieces :=
  T.normalize_of_merged (T.merged_normalize pieces)

end Texts
end Coalesce
