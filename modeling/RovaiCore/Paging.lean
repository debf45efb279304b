import Mathlib.Data.List.Sort
/-!
# Cursor pages of a sorted list

A reader that keeps only a cursor reads rows whose keys strictly increase.
-/
namespace Paging

open List

variable {α : Type} (key : α → Nat)

structure Page (α : Type) where
  items : List α
  hasMore : Bool
  next : Nat

def page (selected : List α) (limit through : Nat) : Page α where
  items := selected.take limit
  hasMore := limit < selected.length
  next := if limit < selected.length then ((selected.take limit).getLast?.map key).getD through else through

variable {key} {rows : List α} {limit through : Nat}

theorem items_page : (page key (rows.take (limit + 1)) limit through).items = rows.take limit := by
  simp [page, take_take]

/-- With more to read, the cursor is the key of the page's last row, and the page holds what is not beyond it. -/
theorem next_of_more (key : α → Nat) (through : Nat) (hlimit : 0 < limit) (hmore : limit < (rows.take (limit + 1)).length) :
    ∃ pre last, rows.take limit = pre ++ [last] ∧ (page key (rows.take (limit + 1)) limit through).next = key last := by
  have hne : rows.take limit ≠ [] := by
    rw [length_take] at hmore
    intro h
    have := congrArg List.length h
    rw [length_take, length_nil] at this
    omega
  refine ⟨_, _, (dropLast_concat_getLast hne).symm, ?_⟩
  simp only [page]
  rw [if_pos hmore, take_take, Nat.min_eq_left (Nat.le_succ limit), getLast?_eq_some_getLast hne]
  rfl

theorem page_of_not_more (hmore : ¬ limit < (rows.take (limit + 1)).length) :
    (page key (rows.take (limit + 1)) limit through).next = through ∧
      (page key (rows.take (limit + 1)) limit through).hasMore = false :=
  ⟨if_neg hmore, decide_eq_false hmore⟩

theorem take_of_not_more (hmore : ¬ limit < (rows.take (limit + 1)).length) : rows.take limit = rows := by
  rw [length_take] at hmore
  exact take_of_length_le (by omega)

/-- **A page holds every row up to its next cursor.** -/
theorem mem_items_of_le_next (hlimit : 0 < limit) (hsorted : rows.Pairwise (fun a b => key a < key b)) {x : α}
    (hx : x ∈ rows) (hle : key x ≤ (page key (rows.take (limit + 1)) limit through).next) :
    x ∈ (page key (rows.take (limit + 1)) limit through).items := by
  rw [items_page]
  by_cases hmore : limit < (rows.take (limit + 1)).length
  · obtain ⟨pre, last, htake, hnext⟩ := next_of_more key through hlimit hmore
    rw [hnext] at hle
    rw [← take_append_drop limit rows] at hsorted hx
    rcases mem_append.1 hx with h | h
    · exact h
    have hlast : last ∈ rows.take limit := by simp [htake]
    have := (pairwise_append.1 hsorted).2.2 last hlast x h
    omega
  · rw [take_of_not_more hmore]
    exact hx

theorem next_le_through (hlimit : 0 < limit) (hthrough : ∀ x ∈ rows, key x ≤ through) :
    (page key (rows.take (limit + 1)) limit through).next ≤ through := by
  by_cases hmore : limit < (rows.take (limit + 1)).length
  · obtain ⟨pre, last, htake, hnext⟩ := next_of_more key through hlimit hmore
    rw [hnext]
    exact hthrough last (mem_of_mem_take (by rw [htake]; simp))
  · exact Nat.le_of_eq (page_of_not_more hmore).1

theorem le_next (key : α → Nat) (hlimit : 0 < limit) {after : Nat} (hafter : ∀ x ∈ rows, after < key x) (hle : after ≤ through) :
    after ≤ (page key (rows.take (limit + 1)) limit through).next ∧
      ((page key (rows.take (limit + 1)) limit through).hasMore = true →
        after < (page key (rows.take (limit + 1)) limit through).next) := by
  by_cases hmore : limit < (rows.take (limit + 1)).length
  · obtain ⟨pre, last, htake, hnext⟩ := next_of_more key through hlimit hmore
    have := hafter last (mem_of_mem_take (by rw [htake]; simp))
    rw [hnext]
    exact ⟨Nat.le_of_lt this, fun _ => this⟩
  · rw [(page_of_not_more hmore).1, (page_of_not_more hmore).2]
    exact ⟨hle, nofun⟩

theorem pairwise_lt_insertionSort {r : α → α → Prop} [DecidableRel r] [Std.Total r] [IsTrans α r]
    (hkey : ∀ a b, r a b → key a ≤ key b) (hnodup : rows.Nodup)
    (hinj : ∀ a ∈ rows, ∀ b ∈ rows, key a = key b → a = b) :
    (rows.insertionSort r).Pairwise (fun a b => key a < key b) := by
  have hnodup' := (perm_insertionSort r rows).nodup_iff.2 hnodup
  refine ((pairwise_insertionSort r rows).and hnodup').imp_of_mem fun {a b} ha hb hab => ?_
  have hle := hkey a b hab.1
  refine Nat.lt_of_le_of_ne hle (fun h => hab.2 ?_)
  exact hinj a ((mem_insertionSort r).1 ha) b ((mem_insertionSort r).1 hb) h

end Paging
