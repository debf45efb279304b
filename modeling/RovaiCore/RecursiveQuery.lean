import Mathlib.Data.Finset.Card
import Mathlib.Data.Finset.Union
/-!
# Recursive queries

`WITH RECURSIVE … UNION` adds what one more step reaches until nothing is new.
-/
namespace RecursiveQuery

variable {α : Type} [DecidableEq α] (next : α → List α)

def widen (rows : Finset α) : Finset α :=
  rows ∪ rows.biUnion (fun a => (next a).toFinset)

def close : Nat → Finset α → Finset α
  | 0, rows => rows
  | n + 1, rows => close n (widen next rows)

def Gives (a b : α) : Prop :=
  b ∈ next a

variable {next}

theorem mem_widen {rows : Finset α} {b : α} : b ∈ widen next rows ↔ b ∈ rows ∨ ∃ a ∈ rows, Gives next a b := by
  simp [widen, Gives]

theorem subset_widen (rows : Finset α) : rows ⊆ widen next rows :=
  Finset.subset_union_left

theorem subset_close : ∀ (n : Nat) (rows : Finset α), rows ⊆ close next n rows
  | 0, rows => Finset.Subset.refl rows
  | n + 1, rows => (subset_widen rows).trans (subset_close n (widen next rows))

theorem reached_of_mem_close : ∀ {n : Nat} {rows : Finset α} {b : α}, b ∈ close next n rows →
    ∃ a ∈ rows, Relation.ReflTransGen (Gives next) a b
  | 0, _, b, h => ⟨b, h, .refl⟩
  | n + 1, rows, b, h => by
    obtain ⟨c, hc, hreach⟩ := reached_of_mem_close (n := n) h
    obtain hc | ⟨a, ha, hgives⟩ := mem_widen.1 hc
    · exact ⟨c, hc, hreach⟩
    · exact ⟨a, ha, .head hgives hreach⟩

theorem close_of_fixed {rows : Finset α} (h : widen next rows = rows) : ∀ n, close next n rows = rows
  | 0 => rfl
  | n + 1 => by rw [close, h, close_of_fixed h n]

theorem close_closed {domain : Finset α} (hdomain : ∀ a ∈ domain, ∀ b, Gives next a b → b ∈ domain) :
    ∀ (n : Nat) {rows : Finset α}, rows ⊆ domain → domain.card ≤ n + rows.card →
      ∀ a ∈ close next n rows, ∀ b, Gives next a b → b ∈ close next n rows
  | 0, rows, hrows, hn, a, ha, b, hgives => by
    have heq := Finset.eq_of_subset_of_card_le hrows (by omega)
    rw [close, heq] at ha ⊢
    exact hdomain a ha b hgives
  | n + 1, rows, hrows, hn, a, ha, b, hgives => by
    by_cases hfixed : widen next rows = rows
    · rw [close_of_fixed hfixed] at ha ⊢
      rw [← hfixed]
      exact mem_widen.2 (.inr ⟨a, ha, hgives⟩)
    · have hwiden : widen next rows ⊆ domain := by
        intro c hc
        obtain hc | ⟨a', ha', hgives'⟩ := mem_widen.1 hc
        · exact hrows hc
        · exact hdomain a' (hrows ha') c hgives'
      have hgrows : rows.card < (widen next rows).card :=
        Finset.card_lt_card ((subset_widen rows).ssubset_of_ne (Ne.symm hfixed))
      exact close_closed hdomain n hwiden (by omega) a ha b hgives

/-- **The query holds exactly what is reachable from its first rows.** -/
theorem mem_close_iff {domain rows : Finset α} {n : Nat} {b : α} (hdomain : ∀ a ∈ domain, ∀ b, Gives next a b → b ∈ domain)
    (hrows : rows ⊆ domain) (hn : domain.card ≤ n + rows.card) :
    b ∈ close next n rows ↔ ∃ a ∈ rows, Relation.ReflTransGen (Gives next) a b := by
  constructor
  · exact reached_of_mem_close
  rintro ⟨a, ha, hreach⟩
  induction hreach with
  | refl => exact subset_close n rows ha
  | tail _ hgives ih => exact close_closed hdomain n hrows hn _ ih _ hgives

end RecursiveQuery
