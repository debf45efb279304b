import Mathlib.Algebra.Ring.Nat
import Mathlib.Data.List.Nodup
/-!
# Keyed tables

A database table is a list of rows no two of which share their key; the key is part of the table's type.
-/
namespace Tables

open List

structure Table {κ ρ : Type} (key : ρ → κ) where
  rows : List ρ
  nodup : (rows.map key).Nodup

variable {κ ρ : Type} {key : ρ → κ}

namespace Table

def empty : Table key := ⟨[], nodup_nil⟩

variable (t : Table key) (p : ρ → Bool)

def any : Bool :=
  t.rows.any p

def updateWhere (f : ρ → ρ) (hf : ∀ r, key (f r) = key r := by intro; rfl) : Table key :=
  ⟨t.rows.map (fun r => if p r then f r else r), by
    have hkeys : key ∘ (fun r => if p r then f r else r) = key := by
      funext r
      by_cases hp : p r <;> simp [hp, hf]
    rw [map_map, hkeys]
    exact t.nodup⟩

def deleteWhere : Table key :=
  ⟨t.rows.filter (fun r => !p r), t.nodup.sublist (filter_sublist.map key)⟩

variable [DecidableEq κ]

def find? (t : Table key) (k : κ) : Option ρ :=
  t.rows.find? (fun r => decide (key r = k))

def update (t : Table key) (k : κ) (f : ρ → ρ) (hf : ∀ r, key (f r) = key r := by intro; rfl) : Table key :=
  t.updateWhere (fun r => decide (key r = k)) f hf

variable {r : ρ}

omit [DecidableEq κ] in
theorem nodup_append (t : Table key) (h : key r ∉ t.rows.map key) : ((t.rows ++ [r]).map key).Nodup := by
  rw [map_append, map_singleton, ← concat_eq_append]
  exact t.nodup.concat h

def insert (t : Table key) (r : ρ) : Table key :=
  if h : key r ∈ t.rows.map key then t else ⟨t.rows ++ [r], t.nodup_append h⟩

/-! ## Reading a table -/

omit [DecidableEq κ] in
@[simp] theorem rows_empty : (empty : Table key).rows = [] := rfl

@[simp] theorem find?_empty (k : κ) : (empty : Table key).find? k = none := rfl

variable {t : Table key} {k : κ}

theorem key_of_find? (h : t.find? k = some r) : key r = k := by
  simpa using find?_some h

theorem mem_of_find? (h : t.find? k = some r) : r ∈ t.rows :=
  mem_of_find?_eq_some h

theorem find?_of_mem (h : r ∈ t.rows) : t.find? (key r) = some r := by
  cases hf : t.find? (key r) with
  | none => simpa using find?_eq_none.1 hf r h
  | some r' =>
    have hkey := key_of_find? hf
    rw [inj_on_of_nodup_map t.nodup (mem_of_find? hf) h hkey]

theorem find?_key (h : t.find? k = some r) : t.find? (key r) = some r := by
  rw [key_of_find? h]
  exact h

theorem find?_eq_none_iff : t.find? k = none ↔ k ∉ t.rows.map key := by
  constructor
  · intro h hk
    obtain ⟨r, hr, rfl⟩ := mem_map.1 hk
    simp [find?_of_mem hr] at h
  · intro h
    cases hf : t.find? k with
    | none => rfl
    | some r => exact absurd (key_of_find? hf ▸ mem_map_of_mem (mem_of_find? hf)) h

variable {p : ρ → Bool}

theorem any_iff : t.any p = true ↔ ∃ k r, t.find? k = some r ∧ p r = true := by
  rw [any, any_eq_true]
  constructor
  · rintro ⟨r, hr, hp⟩
    exact ⟨key r, r, find?_of_mem hr, hp⟩
  · rintro ⟨k, r, hr, hp⟩
    exact ⟨r, mem_of_find? hr, hp⟩

omit [DecidableEq κ] in
theorem countP_eq_zero : t.rows.countP p = 0 ↔ ¬ t.any p = true := by
  simp [any, List.countP_eq_zero]

theorem countP_eq_one (h : t.find? k = some r) (hp : p r = true)
    (huniq : ∀ {k' r'}, t.find? k' = some r' → p r' = true → r' = r) : t.rows.countP p = 1 := by
  have hall : ∀ r' ∈ t.rows.filter p, r' = r := by
    intro r' hr'
    rw [mem_filter] at hr'
    exact huniq (find?_of_mem hr'.1) hr'.2
  have hmem : r ∈ t.rows.filter p := mem_filter.2 ⟨mem_of_find? h, hp⟩
  have hnodup : (t.rows.filter p).Nodup := (List.Nodup.of_map _ t.nodup).filter _
  rw [countP_eq_length_filter]
  rw [eq_replicate_of_mem hall] at hnodup
  exact Nat.le_antisymm (nodup_replicate.1 hnodup) (length_pos_of_mem hmem)

theorem any_eq_false (h : t.any p = false) (hr : t.find? k = some r) :
    p r = false := by
  by_contra hp
  have : t.any p = true := any_iff.2 ⟨k, r, hr, by simpa using hp⟩
  simp [this] at h

theorem any_key {p q : ρ → Bool} (h : ∀ r, p r = true ↔ key r = k ∧ q r = true) :
    t.any p = (t.find? k).any q := by
  rw [Bool.eq_iff_iff, any_iff, Option.any_eq_true]
  constructor
  · rintro ⟨k', r, hr, hp⟩
    obtain ⟨rfl, hq⟩ := (h r).1 hp
    exact ⟨r, find?_key hr, hq⟩
  · rintro ⟨r, hr, hq⟩
    exact ⟨k, r, hr, (h r).2 ⟨key_of_find? hr, hq⟩⟩

/-! ## Writing a table -/

theorem find?_updateWhere (t : Table key) (p : ρ → Bool) (f : ρ → ρ) (hf : ∀ r, key (f r) = key r) (k : κ) :
    (t.updateWhere p f hf).find? k = (t.find? k).map (fun r => if p r then f r else r) := by
  have hkeys : (fun r => decide (key r = k)) ∘ (fun r => if p r then f r else r) = fun r => decide (key r = k) := by
    funext r
    by_cases hp : p r <;> simp [hp, hf]
  rw [find?, updateWhere, find?_map, hkeys]
  rfl

omit [DecidableEq κ] in
theorem updateWhere_eq_self {f : ρ → ρ} (hf : ∀ r, key (f r) = key r)
    (h : ∀ r ∈ t.rows, p r = false) : t.updateWhere p f hf = t := by
  cases t with
  | mk rows =>
    simp only [updateWhere, mk.injEq]
    conv => rhs; rw [← map_id rows]
    refine map_congr_left fun r hr => ?_
    rw [h r hr]
    rfl

theorem find?_update (t : Table key) (k : κ) (f : ρ → ρ) (hf : ∀ r, key (f r) = key r) (k' : κ) :
    (t.update k f hf).find? k' = if k' = k then (t.find? k').map f else t.find? k' := by
  rw [update, find?_updateWhere]
  cases hfind : t.find? k' with
  | none => simp
  | some r =>
    have hkey := key_of_find? hfind
    subst hkey
    by_cases hk : key r = k <;> simp [hk]

theorem find?_update_self (h : t.find? k = some r) (f : ρ → ρ)
    (hf : ∀ r, key (f r) = key r) : (t.update k f hf).find? k = some (f r) := by
  rw [find?_update, if_pos rfl, h, Option.map_some]

theorem find?_update_of_ne (t : Table key) {k k' : κ} (h : k' ≠ k) (f : ρ → ρ) (hf : ∀ r, key (f r) = key r) :
    (t.update k f hf).find? k' = t.find? k' := by
  rw [find?_update, if_neg h]

theorem any_update {f : ρ → ρ} (hf : ∀ r, key (f r) = key r)
    (hr : t.find? k = some r) (h : p (f r) = p r) : (t.update k f hf).any p = t.any p := by
  rw [Bool.eq_iff_iff, any_iff, any_iff]
  constructor
  · rintro ⟨k', r', hr', hp⟩
    by_cases hk : k' = k
    · subst hk
      rw [find?_update_self hr] at hr'
      cases hr'
      exact ⟨k', r, hr, h ▸ hp⟩
    · rw [find?_update_of_ne t hk] at hr'
      exact ⟨k', r', hr', hp⟩
  · rintro ⟨k', r', hr', hp⟩
    by_cases hk : k' = k
    · subst hk
      rw [hr] at hr'
      cases hr'
      exact ⟨k', f r, find?_update_self hr f hf, h.symm ▸ hp⟩
    · exact ⟨k', r', by rw [find?_update_of_ne t hk, hr'], hp⟩

theorem insert_of_taken {r r' : ρ} (h : t.find? (key r) = some r') : t.insert r = t := by
  rw [insert, dif_pos (key_of_find? h ▸ mem_map_of_mem (mem_of_find? h))]

theorem find?_insert (h : t.find? (key r) = none) (k : κ) :
    (t.insert r).find? k = if k = key r then some r else t.find? k := by
  rw [insert, dif_neg (find?_eq_none_iff.1 h), find?, find?_append]
  by_cases hk : k = key r
  · subst hk
    have hnone : t.rows.find? (fun r' => decide (key r' = key r)) = none := h
    simp [hnone]
  · have hne : key r ≠ k := fun he => hk he.symm
    simp [hk, hne, find?]

theorem find?_insert_self (h : t.find? (key r) = none) : (t.insert r).find? (key r) = some r := by
  rw [find?_insert h, if_pos rfl]

theorem insert_cases {r r' : ρ} (h : (t.insert r).find? k = some r') :
    t.find? k = some r' ∨ r' = r ∧ k = key r ∧ t.find? (key r) = none := by
  cases htaken : t.find? (key r) with
  | some other =>
    rw [insert_of_taken htaken] at h
    exact .inl h
  | none =>
    rw [find?_insert htaken] at h
    split at h
    · cases h
      exact .inr ⟨rfl, ‹_›, rfl⟩
    · exact .inl h

theorem find?_insert_of_found (h : t.find? k = some r) (r' : ρ) :
    (t.insert r').find? k = some r := by
  cases htaken : t.find? (key r') with
  | some other =>
    rw [insert_of_taken htaken]
    exact h
  | none =>
    have hne : k ≠ key r' := by
      rintro rfl
      rw [htaken] at h
      cases h
    rw [find?_insert htaken, if_neg hne, h]

theorem find?_deleteWhere (t : Table key) (p : ρ → Bool) (k : κ) :
    (t.deleteWhere p).find? k = (t.find? k).filter (fun r => !p r) := by
  cases hf : t.find? k with
  | none =>
    refine find?_eq_none_iff.2 fun hk => find?_eq_none_iff.1 hf ?_
    exact (filter_sublist.map key).subset hk
  | some r =>
    obtain rfl := key_of_find? hf
    by_cases hp : p r = true
    · rw [Option.filter_some_neg (by simpa using hp)]
      refine find?_eq_none_iff.2 fun hk => ?_
      obtain ⟨r', hr', hkey⟩ := mem_map.1 hk
      rw [deleteWhere, mem_filter] at hr'
      rw [inj_on_of_nodup_map t.nodup hr'.1 (mem_of_find? hf) hkey, hp] at hr'
      simp at hr'
    · rw [Option.filter_some_pos (by simpa using hp)]
      exact find?_of_mem (mem_filter.2 ⟨mem_of_find? hf, by simpa using hp⟩)

/-! ## How a table grows -/

structure Grows (R : ρ → ρ → Prop) (New : ρ → Prop) (t t' : Table key) : Prop where
  kept : ∀ {k r}, t.find? k = some r → ∃ r', t'.find? k = some r' ∧ R r r'
  origin : ∀ {k r'}, t'.find? k = some r' → (∃ r, t.find? k = some r ∧ R r r') ∨ (t.find? k = none ∧ New r')

variable {R : ρ → ρ → Prop} {New : ρ → Prop} {t t' t'' : Table key}

theorem Grows.refl (hR : ∀ r, R r r) (t : Table key) : Grows R New t t :=
  ⟨fun h => ⟨_, h, hR _⟩, fun h => .inl ⟨_, h, hR _⟩⟩

theorem Grows.comp {R' R'' : ρ → ρ → Prop} {New' New'' : ρ → Prop} (hR : ∀ {a b c}, R a b → R' b c → R'' a c)
    (hN : ∀ {a b}, New a → R' a b → New'' b) (hN' : ∀ {a}, New' a → New'' a)
    (h : Grows R New t t') (h' : Grows R' New' t' t'') : Grows R'' New'' t t'' := by
  constructor
  · intro k r hr
    obtain ⟨r', hr', hRr⟩ := h.kept hr
    obtain ⟨r'', hr'', hR'⟩ := h'.kept hr'
    exact ⟨r'', hr'', hR hRr hR'⟩
  · intro k r'' hr''
    obtain ⟨r', hr', hR'⟩ | ⟨hnone, hnew⟩ := h'.origin hr''
    · obtain ⟨r, hr, hRr⟩ | ⟨hnone, hnew⟩ := h.origin hr'
      · exact .inl ⟨r, hr, hR hRr hR'⟩
      · exact .inr ⟨hnone, hN hnew hR'⟩
    · cases hr : t.find? k with
      | none => exact .inr ⟨rfl, hN' hnew⟩
      | some r =>
        obtain ⟨r', hr', -⟩ := h.kept hr
        rw [hnone] at hr'
        cases hr'

theorem Grows.trans (hR : ∀ {a b c}, R a b → R b c → R a c) (hN : ∀ {a b}, New a → R a b → New b)
    (h : Grows R New t t') (h' : Grows R New t' t'') : Grows R New t t'' := by
  refine Grows.comp ?_ hN id h h'
  exact hR

theorem Grows.rows (t : Table key) (p : ρ → Bool) (f : ρ → ρ) (hf : ∀ r, key (f r) = key r)
    (h : ∀ k r, t.find? k = some r → R r (if p r then f r else r)) : Grows R New t (t.updateWhere p f hf) := by
  constructor
  · intro k r hr
    exact ⟨_, by rw [find?_updateWhere, hr]; rfl, h k r hr⟩
  · intro k r' hr'
    rw [find?_updateWhere] at hr'
    obtain ⟨r, hr, rfl⟩ := Option.map_eq_some_iff.1 hr'
    exact .inl ⟨r, hr, h k r hr⟩

theorem Grows.updateWhere (hR : ∀ r, R r r) (t : Table key) (p : ρ → Bool) (f : ρ → ρ) (hf : ∀ r, key (f r) = key r)
    (h : ∀ k r, t.find? k = some r → p r = true → R r (f r)) : Grows R New t (t.updateWhere p f hf) := by
  refine .rows t p f hf fun k r hr => ?_
  by_cases hp : p r = true
  · simpa [hp] using h k r hr hp
  · simpa [hp] using hR r

theorem Grows.update (hR : ∀ r, R r r) (t : Table key) (k : κ) (f : ρ → ρ) (hf : ∀ r, key (f r) = key r)
    (h : ∀ r, t.find? k = some r → R r (f r)) : Grows R New t (t.update k f hf) :=
  .updateWhere hR t _ f hf fun k' r hr hk => h r (by
    have hkey := key_of_find? hr
    simp only [decide_eq_true_eq] at hk
    rw [← hk, hkey]
    exact hr)

theorem Grows.insert (hR : ∀ r, R r r) (t : Table key) (r : ρ) (h : New r) : Grows R New t (t.insert r) := by
  cases hr : t.find? (key r) with
  | some r' =>
    rw [insert_of_taken hr]
    exact .refl hR t
  | none =>
    constructor
    · intro k r' hk
      exact ⟨r', find?_insert_of_found hk r, hR r'⟩
    · intro k r' hk
      rw [find?_insert hr] at hk
      split at hk
      · rename_i he
        cases hk
        exact .inr ⟨he ▸ hr, h⟩
      · exact .inl ⟨r', hk, hR r'⟩

theorem Grows.mono {R' : ρ → ρ → Prop} {New' : ρ → Prop} (h : Grows R New t t') (hR : ∀ {a b}, R a b → R' a b)
    (hN : ∀ {a}, New a → New' a) : Grows R' New' t t' :=
  ⟨fun hr => let ⟨r', hr', hR'⟩ := h.kept hr; ⟨r', hr', hR hR'⟩,
    fun hr => (h.origin hr).imp (fun ⟨r, hr, hR'⟩ => ⟨r, hr, hR hR'⟩) (fun ⟨hn, hN'⟩ => ⟨hn, hN hN'⟩)⟩

end Table
end Tables
