import Mathlib.Algebra.BigOperators.Group.List.Basic
import Mathlib.Data.List.Induction
import RovaiCore.Tables
/-!
# Tallies

Counters that a database column keeps: a number is exact below 2^63 and what a larger sum becomes is not followed further
(`SqlNumber`).
-/
namespace Tallies

open Tables (Table)
open List

/-! ## Numbers of a column -/

/-- A non-negative number of a column: an integer of 64 signed bits, or the floating-point number of a sum beyond them. -/
inductive SqlNumber where
  | integer (n : Fin (2 ^ 63))
  | real
  deriving DecidableEq

namespace SqlNumber

def ofNat (n : Nat) : SqlNumber :=
  if h : n < 2 ^ 63 then .integer ⟨n, h⟩ else .real

def add : SqlNumber → SqlNumber → SqlNumber
  | .integer a, .integer b => ofNat (a.val + b.val)
  | _, _ => .real

instance : Add SqlNumber := ⟨add⟩
instance : Zero SqlNumber := ⟨ofNat 0⟩

theorem ofNat_zero : ofNat 0 = 0 := rfl

theorem integer_eq_ofNat (n : Fin (2 ^ 63)) : integer n = ofNat n.val := by
  rw [ofNat, dif_pos n.isLt]

variable (a : SqlNumber)

theorem add_real : a + real = real := by
  cases a <;> rfl

theorem real_add : real + a = real := by
  cases a <;> rfl

/-- **Sums that leave the range stay out of it**, so that the order of the additions is no matter. -/
theorem ofNat_add (m n : Nat) : ofNat (m + n) = ofNat m + ofNat n := by
  by_cases hm : m < 2 ^ 63
  · by_cases hn : n < 2 ^ 63
    · rw [ofNat.eq_1 m, dif_pos hm, ofNat.eq_1 n, dif_pos hn]
      rfl
    · rw [ofNat.eq_1 n, dif_neg hn, add_real, ofNat, dif_neg (by omega)]
  · rw [ofNat.eq_1 m, dif_neg hm, real_add, ofNat, dif_neg (by omega)]

theorem exists_ofNat : ∃ n, a = ofNat n := by
  cases a with
  | integer n => exact ⟨n.val, integer_eq_ofNat n⟩
  | real => exact ⟨2 ^ 63, by rw [ofNat, dif_neg (by omega)]⟩

instance : AddCommMonoid SqlNumber where
  add_assoc a b c := by
    obtain ⟨a, rfl⟩ := exists_ofNat a
    obtain ⟨b, rfl⟩ := exists_ofNat b
    obtain ⟨c, rfl⟩ := exists_ofNat c
    rw [← ofNat_add, ← ofNat_add, ← ofNat_add, ← ofNat_add, Nat.add_assoc]
  zero_add a := by
    obtain ⟨a, rfl⟩ := exists_ofNat a
    rw [← ofNat_zero, ← ofNat_add, Nat.zero_add]
  add_zero a := by
    obtain ⟨a, rfl⟩ := exists_ofNat a
    rw [← ofNat_zero, ← ofNat_add, Nat.add_zero]
  add_comm a b := by
    obtain ⟨a, rfl⟩ := exists_ofNat a
    obtain ⟨b, rfl⟩ := exists_ofNat b
    rw [← ofNat_add, ← ofNat_add, Nat.add_comm]
  nsmul := nsmulRec

theorem ofNat_sum : ∀ l : List Nat, ofNat l.sum = (l.map ofNat).sum
  | [] => rfl
  | n :: l => by rw [sum_cons, ofNat_add, ofNat_sum l, map_cons, sum_cons]

end SqlNumber

/-! ## Null-aware sums -/

section Sums

variable {M : Type} [AddCommMonoid M]

def accumulate (x d : Option M) : Option M := match d with
  | none => x
  | some d => some (x.getD 0 + d)

variable (l : List (Option M))

def nullableSum : Option M :=
  l.foldl accumulate none

theorem accumulate_none_left (d : Option M) : accumulate none d = d := by
  cases d with
  | none => rfl
  | some d => simp [accumulate]

theorem accumulate_assoc (x d e : Option M) : accumulate (accumulate x d) e = accumulate x (accumulate d e) := by
  cases d with
  | none => cases e <;> simp [accumulate]
  | some d => cases e <;> simp [accumulate, add_assoc]

theorem accumulate_comm (x d : Option M) : accumulate x d = accumulate d x := by
  cases x <;> cases d <;> simp [accumulate, add_comm]

theorem nullableSum_snoc (d : Option M) :
    nullableSum (l ++ [d]) = accumulate (nullableSum l) d := by
  simp [nullableSum]

theorem foldl_accumulate : ∀ x : Option M, l.foldl accumulate x = accumulate x (nullableSum l) := by
  induction l using List.reverseRecOn with
  | nil => intro x; rfl
  | append_singleton l d ih =>
    intro x
    rw [foldl_append, ih x, nullableSum_snoc, ← accumulate_assoc]
    rfl

theorem nullableSum_cons (d : Option M) :
    nullableSum (d :: l) = accumulate d (nullableSum l) := by
  rw [nullableSum, foldl_cons, foldl_accumulate, accumulate_none_left]

/-- **What a null-aware sum is**: null where nothing is carried, else the sum of what is. -/
theorem nullableSum_map {ρ : Type} (f : ρ → Option M) : ∀ l : List ρ,
    nullableSum (l.map f) = if l.filterMap f = [] then none else some (l.filterMap f).sum
  | [] => rfl
  | r :: l => by
    rw [map_cons, nullableSum_cons, nullableSum_map f l]
    cases hr : f r with
    | none => rw [accumulate_none_left, filterMap_cons_none hr]
    | some d =>
      rw [filterMap_cons_some hr, if_neg (cons_ne_nil _ _), sum_cons]
      by_cases h : l.filterMap f = []
      · simp [h, accumulate]
      · rw [if_neg h, accumulate, Option.getD_some]

/-! ## Columns of a table -/

variable {κ ρ : Type} {key : ρ → κ}

def columnSum (f : ρ → Option M) (t : Table key) : Option M :=
  nullableSum (t.rows.map f)

variable [DecidableEq κ]

theorem nullableSum_map_update {f : ρ → Option M} {g : ρ → ρ} {k : κ} {d : Option M} : ∀ {l : List ρ} {r : ρ},
    (l.map key).Nodup → r ∈ l → key r = k → f (g r) = accumulate (f r) d →
    nullableSum ((l.map (fun r => if decide (key r = k) then g r else r)).map f) = accumulate (nullableSum (l.map f)) d
  | [], _, _, hr, _, _ => by cases hr
  | r' :: l, r, hnodup, hr, hk, hf => by
    rw [map_cons, nodup_cons] at hnodup
    simp only [map_cons, nullableSum_cons]
    obtain rfl | hmem := mem_cons.1 hr
    · have hrest : l.map (fun r => if decide (key r = k) then g r else r) = l := by
        conv_rhs => rw [← map_id l]
        refine map_congr_left fun r' hr' => ?_
        have hne : key r' ≠ k := fun he => hnodup.1 (hk.trans he.symm ▸ mem_map_of_mem hr')
        simp [hne]
      rw [hrest, if_pos (by simpa using hk), hf, accumulate_assoc, accumulate_comm d, ← accumulate_assoc]
    · have hne : key r' ≠ k := fun he => hnodup.1 (he.trans hk.symm ▸ mem_map_of_mem hmem)
      rw [nullableSum_map_update hnodup.2 hmem hk hf, if_neg (by simpa using hne), ← accumulate_assoc]

/-- **A statement that adds to one row adds to the column's sum.** -/
theorem columnSum_update {t : Table key} {k : κ} {r : ρ} {f : ρ → Option M} {g : ρ → ρ} {d : Option M}
    (hg : ∀ r, key (g r) = key r) (hr : t.find? k = some r) (hf : f (g r) = accumulate (f r) d) :
    columnSum f (t.update k g hg) = accumulate (columnSum f t) d :=
  nullableSum_map_update t.nodup (Table.mem_of_find? hr) (Table.key_of_find? hr) hf

theorem columnSum_insert {t : Table key} {r : ρ} (f : ρ → Option M) (h : t.find? (key r) = none) :
    columnSum f (t.insert r) = accumulate (columnSum f t) (f r) := by
  rw [Table.insert, dif_neg (Table.find?_eq_none_iff.1 h)]
  simp only [columnSum, map_append, map_cons, map_nil, nullableSum_snoc]

end Sums

/-! ## Recording once -/

section Once

variable {α κ : Type} [DecidableEq κ] (key : α → κ)

def addOnce (l : List α) (a : α) : List α :=
  if key a ∈ l.map key then l else l ++ [a]

variable {l : List α} {a : α}

theorem addOnce_of_taken (h : key a ∈ l.map key) : addOnce key l a = l :=
  if_pos h

theorem addOnce_of_new (h : key a ∉ l.map key) : addOnce key l a = l ++ [a] :=
  if_neg h

theorem nodup_addOnce (h : (l.map key).Nodup) : ((addOnce key l a).map key).Nodup := by
  by_cases hk : key a ∈ l.map key
  · rwa [addOnce_of_taken key hk]
  rw [addOnce_of_new key hk, map_append, map_singleton, ← concat_eq_append]
  exact h.concat hk

theorem mem_of_mem_addOnce {a b : α} (h : b ∈ addOnce key l a) : b ∈ l ∨ b = a := by
  by_cases hk : key a ∈ l.map key
  · rw [addOnce_of_taken key hk] at h
    exact .inl h
  · rw [addOnce_of_new key hk] at h
    simpa using h

theorem key_mem_addOnce {k : κ} : k ∈ (addOnce key l a).map key ↔ k ∈ l.map key ∨ k = key a := by
  by_cases hk : key a ∈ l.map key
  · rw [addOnce_of_taken key hk]
    exact ⟨.inl, fun h => h.elim id fun he => he ▸ hk⟩
  · rw [addOnce_of_new key hk, map_append, mem_append]
    simp

def addAll (l as : List α) : List α :=
  as.foldl (addOnce key) l

theorem mem_of_mem_addAll {b : α} : ∀ {as l : List α}, b ∈ addAll key l as → b ∈ l ∨ b ∈ as
  | [], _, h => .inl h
  | a :: as, l, h => by
    obtain hmem | hmem := @mem_of_mem_addAll b as (addOnce key l a) h
    · obtain hold | rfl := mem_of_mem_addOnce key hmem
      · exact .inl hold
      · exact .inr mem_cons_self
    · exact .inr (mem_cons_of_mem a hmem)

theorem key_mem_addAll {k : κ} : ∀ {as l : List α}, k ∈ (addAll key l as).map key ↔ k ∈ l.map key ∨ k ∈ as.map key
  | [], _ => by simp [addAll]
  | a :: as, l => by
    have ih := @key_mem_addAll k as (addOnce key l a)
    rw [key_mem_addOnce, or_assoc, ← mem_cons, ← map_cons] at ih
    exact ih

end Once
end Tallies
