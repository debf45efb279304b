import RovaiCore.JsonFields
/-!
# The value at a field path

A field path leads through the members of nested objects to one value (`Json.valueAt`), null where nothing stands.
-/

namespace Json

def valueAt : List String → Json → Json
  | [], j => j
  | k :: ks, j => valueAt ks (j.getD k)

def Open : List String → Json → Prop
  | [], j => j.isObj = false
  | k :: ks, j => j.isRecord = true ∧ Open ks (j.getD k)

instance : ∀ (p : List String) (j : Json), Decidable (Open p j)
  | [], j => inferInstanceAs (Decidable (j.isObj = false))
  | k :: ks, j =>
    have : Decidable (Open ks (j.getD k)) := instDecidableOpen ks (j.getD k)
    inferInstanceAs (Decidable (_ ∧ _))

@[simp] theorem valueAt_null : ∀ p : List String, valueAt p .null = .null
  | [] => rfl
  | _ :: ks => valueAt_null ks

theorem open_null : ∀ p : List String, Open p .null
  | [] => rfl
  | _ :: ks => ⟨rfl, open_null ks⟩

/-! ## Filling -/

section

variable {a e : Json}

theorem fillMissing_of_isObj_false (ha : a.isObj = false) : fillMissing a e = if a.isNull then e else a := by
  cases a with
  | obj fields => cases ha
  | null => simp [isNull]
  | bool _ | num _ | float _ | str _ | arr _ => exact fillMissing_scalar (by simp) rfl

/-- **A fill, path by path**: the latest value where it says one, the earlier one where it does not. -/
theorem valueAt_fillMissing : ∀ {p : List String} {a e : Json}, Open p a → Open p e → e.Sorted →
    valueAt p (fillMissing a e) = if (valueAt p a).isNull then valueAt p e else valueAt p a
  | [], _, _, ha, _, _ => fillMissing_of_isObj_false ha
  | k :: ks, a, e, ha, he, hs => by
    rw [valueAt, getD_fillMissing ha.1 he.1 hs, valueAt_fillMissing ha.2 he.2 (sorted_getD hs)]
    rfl

theorem open_fillMissing : ∀ {p : List String} {a e : Json}, Open p a → Open p e → e.Sorted → Open p (fillMissing a e)
  | [], a, e, ha, he, _ => by
    rw [Open, fillMissing_of_isObj_false ha]
    split
    · exact he
    · exact ha
  | k :: ks, a, e, ha, he, hs => by
    refine ⟨isRecord_fillMissing ha.1 he.1, ?_⟩
    rw [getD_fillMissing ha.1 he.1 hs]
    exact open_fillMissing ha.2 he.2 (sorted_getD hs)

end

/-! ## Differencing -/

/-- **A difference, path by path**: what a value says anew. -/
theorem valueAt_differenceOrNull : ∀ {p : List String} {v base : Json}, Open p v → Open p base → v.Sorted →
    valueAt p (differenceOrNull v base) = if valueAt p v = valueAt p base then .null else valueAt p v
  | [], v, base, hv, _, _ => by
    unfold differenceOrNull
    by_cases heq : v = base
    · subst heq
      simp [valueAt, difference_eq_none_of_eq]
    · rw [difference_scalar heq hv]
      simp [valueAt, heq]
  | k :: ks, v, base, hv, hb, hs => by
    rw [valueAt, getD_differenceOrNull hv.1 hb.1 hs, valueAt_differenceOrNull hv.2 hb.2 (sorted_getD hs)]
    rfl

theorem open_differenceOrNull : ∀ {p : List String} {v base : Json}, Open p v → Open p base → v.Sorted →
    Open p (differenceOrNull v base)
  | [], v, base, hv, _, _ => by
    unfold differenceOrNull
    by_cases heq : v = base
    · subst heq
      simp [Open, difference_eq_none_of_eq, isObj]
    · rw [difference_scalar heq hv]
      exact hv
  | k :: ks, v, base, hv, hb, hs => by
    refine ⟨isRecord_differenceOrNull hv.1, ?_⟩
    rw [getD_differenceOrNull hv.1 hb.1 hs]
    exact open_differenceOrNull hv.2 hb.2 (sorted_getD hs)

/-! ## Leaving members out -/

def omitted (fields itemFields : List String) : List String → Bool
  | [] => false
  | [k] => fields.contains k
  | k :: l :: _ => fields.contains k || (k == "item" && itemFields.contains l)

def without (fields itemFields : List String) (j : Json) : Json :=
  (j.removeFields fields).mapField "item" (fun item => item.removeFields itemFields)

theorem removeFields_of_isObj_false {j : Json} (h : j.isObj = false) (ks : List String) : j.removeFields ks = j := by
  cases j with
  | obj fields => cases h
  | null | bool _ | num _ | float _ | str _ | arr _ => rfl

theorem getD_without (fields itemFields : List String) (k : String) (j : Json) :
    (without fields itemFields j).getD k =
      if fields.contains k then .null else if k = "item" then (j.getD k).removeFields itemFields else j.getD k := by
  unfold without
  rw [getD_mapField rfl, getD_removeFields]
  by_cases hk : fields.contains k = true
  · rw [if_pos hk, if_pos hk]
    split <;> rfl
  · rw [if_neg hk, if_neg hk]

/-- **Leaving out, path by path.** -/
theorem valueAt_without (fields itemFields : List String) : ∀ {p : List String} {j : Json}, p ≠ [] → Open p j →
    valueAt p (without fields itemFields j) = if omitted fields itemFields p then .null else valueAt p j
  | [], _, hne, _ => absurd rfl hne
  | [k], j, _, h => by
    have hend : (j.getD k).isObj = false := h.2
    simp only [valueAt, omitted, getD_without, removeFields_of_isObj_false hend, ite_self]
    rfl
  | k :: l :: ls, j, _, _ => by
    rw [valueAt, getD_without, omitted]
    cases hk : fields.contains k with
    | true => simp
    | false =>
      rw [Bool.false_or, if_neg (by decide)]
      by_cases hitem : k = "item"
      · rw [if_pos hitem, valueAt, getD_removeFields, hitem, beq_self_eq_true, Bool.true_and]
        split
        · exact valueAt_null ls
        · rfl
      · rw [if_neg hitem, beq_false_of_ne hitem, Bool.false_and, if_neg (by decide)]
        rfl

theorem open_without (fields itemFields : List String) : ∀ {p : List String} {j : Json}, p ≠ [] → Open p j →
    Open p (without fields itemFields j)
  | [], _, hne, _ => absurd rfl hne
  | [k], j, _, h => by
    have hend : (j.getD k).isObj = false := h.2
    refine ⟨?_, ?_⟩
    · rw [without, isRecord_mapField, isRecord_removeFields]
      exact h.1
    · rw [Open, getD_without, removeFields_of_isObj_false hend, ite_self]
      split
      · rfl
      · exact hend
  | k :: l :: ls, j, _, h => by
    refine ⟨?_, ?_⟩
    · rw [without, isRecord_mapField, isRecord_removeFields]
      exact h.1
    · rw [getD_without]
      split
      · exact open_null _
      split
      · refine ⟨by rw [isRecord_removeFields]; exact h.2.1, ?_⟩
        rw [getD_removeFields]
        split
        · exact open_null _
        · exact h.2.2
      · exact h.2

theorem sorted_without (fields itemFields : List String) {j : Json} (h : j.Sorted) : (without fields itemFields j).Sorted :=
  sorted_mapField _ (sorted_removeFields _ h) (fun _ hv => sorted_removeFields _ hv)

theorem valueAt_congr {a b : Json} {k : String} {ks : List String} (h : a.getD k = b.getD k) :
    valueAt (k :: ks) a = valueAt (k :: ks) b := by
  rw [valueAt, valueAt, h]

end Json
