import RovaiCore.JsonValue
/-!
# Reading a member after a write

What `value[key]` is after a fill, a difference, an assignment or a removal.
-/
namespace Json

def isRecord (j : Json) : Bool := j.isNull || j.isObj

variable {j : Json}

theorem isRecord_cases (h : j.isRecord = true) : j = .null ∨ ∃ fields, j = .obj fields := by
  cases j with
  | null => exact .inl rfl
  | obj fields => exact .inr ⟨fields, rfl⟩
  | bool _ | num _ | float _ | str _ | arr _ => cases h

@[simp] theorem isNull_null : Json.null.isNull = true := rfl

@[simp] theorem asStr_null : Json.null.asStr = none := rfl

variable (k : String)

@[simp] theorem getD_null : Json.null.getD k = .null := rfl

theorem getD_obj (fields : List (String × Json)) : (Json.obj fields).getD k = (lookupField k fields).getD .null :=
  rfl

theorem strField_eq (j : Json) : j.strField k = (j.getD k).asStr := by
  unfold strField getD
  cases j.get? k <;> rfl

theorem strAt_eq (k l : String) (j : Json) : j.strAt [k, l] = ((j.getD k).getD l).asStr := by
  unfold strAt pointer getD
  cases h : j.get? k with
  | none => rfl
  | some v => cases hv : v.get? l <;> simp [pointer, hv, asStr]

theorem pointer_two (k l : String) (j : Json) : (j.pointer [k, l]).getD .null = (j.getD k).getD l := by
  unfold pointer getD
  cases h : j.get? k with
  | none => rfl
  | some v => cases hv : v.get? l <;> simp [pointer, hv]

theorem sorted_getD {k : String} (h : j.Sorted) : (j.getD k).Sorted := by
  cases j with
  | obj fields =>
    rw [getD_obj]
    cases hk : lookupField k fields with
    | none => simp [Sorted]
    | some v => exact sorted_of_lookup h hk
  | null | bool _ | num _ | float _ | str _ | arr _ => simp [getD, get?, Sorted]

/-! ## Fills -/

theorem fillMissing_null_right (a : Json) : fillMissing a .null = a := by
  cases a <;> simp [fillMissing, isNull]

variable {a e : Json}

theorem isRecord_fillMissing (ha : a.isRecord = true) (he : e.isRecord = true) :
    (fillMissing a e).isRecord = true := by
  rcases isRecord_cases ha with rfl | ⟨own, rfl⟩
  · rwa [fillMissing_null]
  rcases isRecord_cases he with rfl | ⟨fields, rfl⟩
  · rwa [fillMissing_null_right]
  rw [fillMissing_obj]
  rfl

/-- **A member of a fill is the fill of the members.** -/
theorem getD_fillMissing (ha : a.isRecord = true) (he : e.isRecord = true) (hs : e.Sorted) (k : String) :
    (fillMissing a e).getD k = fillMissing (a.getD k) (e.getD k) := by
  rcases isRecord_cases ha with rfl | ⟨own, rfl⟩
  · rw [fillMissing_null, getD_null, fillMissing_null]
  rcases isRecord_cases he with rfl | ⟨fields, rfl⟩
  · rw [fillMissing_null_right, getD_null, fillMissing_null_right]
  rw [fillMissing_obj, getD_obj, getD_obj, getD_obj, lookup_fillFields k (sorted_obj.1 hs).1]
  cases lookupField k fields with
  | none => simp [fillMissing_null_right]
  | some v => rfl

theorem asStr_fillMissing (a e : Json) : (fillMissing a e).asStr = if a.isNull then e.asStr else a.asStr := by
  cases a <;> cases e <;> simp [fillMissing, isNull, asStr]

theorem isNull_fillMissing (a e : Json) : (fillMissing a e).isNull = (a.isNull && e.isNull) := by
  cases a <;> cases e <;> simp [fillMissing, isNull]

/-! ## Differences -/

def differenceOrNull (value base : Json) : Json := (difference value base).getD .null

theorem differenceOrNull_self (a : Json) : differenceOrNull a a = .null := by
  rw [differenceOrNull, difference_eq_none_of_eq]
  rfl

theorem differenceOrNull_null (base : Json) : differenceOrNull .null base = .null := by
  unfold differenceOrNull difference
  split <;> rfl

variable {v base : Json}

theorem isRecord_differenceOrNull (h : v.isRecord = true) : (differenceOrNull v base).isRecord = true := by
  rcases isRecord_cases h with rfl | ⟨fields, rfl⟩
  · rw [differenceOrNull_null]
    rfl
  · unfold differenceOrNull difference
    split
    · rfl
    cases base with
    | obj own =>
      simp only
      split <;> rfl
    | null | bool _ | num _ | float _ | str _ | arr _ => rfl

theorem sorted_differenceOrNull (h : v.Sorted) : (differenceOrNull v base).Sorted := by
  unfold differenceOrNull
  cases hd : difference v base with
  | none => simp [Sorted]
  | some d => exact sorted_difference h hd

/-- **A member of a difference is the difference of the members.** -/
theorem getD_differenceOrNull (hv : v.isRecord = true) (hbase : base.isRecord = true) (hs : v.Sorted)
    (k : String) : (differenceOrNull v base).getD k = differenceOrNull (v.getD k) (base.getD k) := by
  rcases isRecord_cases hv with rfl | ⟨fields, rfl⟩
  · rw [differenceOrNull_null, getD_null, differenceOrNull_null]
  by_cases heq : Json.obj fields = base
  · rw [heq, differenceOrNull_self, differenceOrNull_self, getD_null]
  rcases isRecord_cases hbase with rfl | ⟨own, rfl⟩
  · have hwhole : differenceOrNull (.obj fields) .null = .obj fields := by
      simp [differenceOrNull, difference]
    rw [hwhole, getD_null]
    cases hm : (Json.obj fields).getD k <;> simp [differenceOrNull, difference]
  · have hmember : (differenceOrNull (.obj fields) (.obj own)).getD k =
        (lookupField k (diffFields fields own)).getD .null := by
      unfold differenceOrNull difference
      rw [if_neg heq]
      simp only
      cases diffFields fields own <;> rfl
    rw [hmember, lookup_diffFields k own (sorted_obj.1 hs).1, getD_obj, getD_obj]
    cases lookupField k fields with
    | none => rw [Option.bind_none, Option.getD_none, differenceOrNull_null]
    | some w => rfl

theorem asStr_differenceOrNull (v base : Json) : (differenceOrNull v base).asStr = if v = base then none else v.asStr := by
  by_cases h : v = base
  · rw [if_pos h, h, differenceOrNull_self]
    rfl
  · rw [if_neg h]
    cases v with
    | obj fields =>
      unfold differenceOrNull difference
      rw [if_neg h]
      cases base with
      | obj own =>
        simp only
        split <;> rfl
      | null | bool _ | num _ | float _ | str _ | arr _ => rfl
    | null | bool _ | num _ | float _ | str _ | arr _ => rw [differenceOrNull, difference_scalar h rfl]; rfl

/-! ## Assignments and removals -/

theorem getD_setField (h : j.isRecord = true) (k k' : String) (v : Json) :
    (j.setField k v).getD k' = if k' = k then v else j.getD k' := by
  rcases isRecord_cases h with rfl | ⟨fields, rfl⟩
  · by_cases hk : k' = k
    · simp [setField, getD_obj, lookupField, hk]
    have hk' : ¬ k = k' := fun e => hk e.symm
    simp [setField, getD_obj, lookupField, hk, hk']
  · rw [setField, getD_obj, lookup_upsertField, getD_obj]
    split <;> rfl

theorem isRecord_setField (h : j.isRecord = true) (k : String) (v : Json) : (j.setField k v).isRecord = true := by
  rcases isRecord_cases h with rfl | ⟨fields, rfl⟩ <;> rfl

theorem sorted_setField {j v : Json} (hj : j.Sorted) (hv : v.Sorted) (k : String) : (j.setField k v).Sorted := by
  cases j with
  | obj fields => exact sorted_upsertField hj (fun _ _ => hv)
  | null => exact sorted_obj.2 ⟨List.pairwise_singleton _ _, fun f hf => by rw [List.mem_singleton.1 hf]; exact hv⟩
  | bool _ | num _ | float _ | str _ | arr _ => exact hj

theorem lookup_filter_keys (ks : List String) (k : String) : ∀ fields : List (String × Json),
    lookupField k (fields.filter (fun f => !ks.contains f.1)) = if ks.contains k then none else lookupField k fields
  | [] => by simp [lookupField]
  | (l, v) :: rest => by
    have ih := lookup_filter_keys ks k rest
    by_cases hl : ks.contains l = true
    · rw [List.filter_cons_of_neg (by simpa using hl), ih]
      by_cases hk : l = k
      · subst hk
        rw [if_pos hl, if_pos hl]
      · simp [lookupField, hk]
    · rw [List.filter_cons_of_pos (by simpa using hl), lookupField, lookupField, ih]
      by_cases hk : l = k
      · subst hk
        rw [if_pos rfl, if_neg hl, if_pos rfl]
      · rw [if_neg hk, if_neg hk]

variable (ks : List String)

theorem getD_removeFields (k : String) (j : Json) :
    (j.removeFields ks).getD k = if ks.contains k then .null else j.getD k := by
  cases j with
  | obj fields =>
    rw [removeFields, getD_obj, lookup_filter_keys, getD_obj]
    split <;> rfl
  | null | bool _ | num _ | float _ | str _ | arr _ => simp [removeFields, getD, get?]

theorem sorted_removeFields (h : j.Sorted) : (j.removeFields ks).Sorted := by
  cases j with
  | obj fields =>
    obtain ⟨h1, h2⟩ := sorted_obj.1 h
    exact sorted_obj.2 ⟨h1.filter _, fun f hf => h2 f (List.mem_filter.1 hf).1⟩
  | null | bool _ | num _ | float _ | str _ | arr _ => exact h

theorem isRecord_removeFields : (j.removeFields ks).isRecord = j.isRecord := by
  cases j <;> rfl

theorem getD_mapField {f : Json → Json} (hf : f .null = .null) (k k' : String) (j : Json) :
    (j.mapField k f).getD k' = if k' = k then f (j.getD k') else j.getD k' := by
  cases j with
  | obj fields =>
    rw [mapField, getD_obj, lookup_updateField, getD_obj]
    by_cases hk : k' = k
    · rw [if_pos hk, if_pos hk]
      cases lookupField k' fields with
      | none => exact hf.symm
      | some v => rfl
    · rw [if_neg hk, if_neg hk]
  | null | bool _ | num _ | float _ | str _ | arr _ => simp [mapField, getD, get?, hf]

theorem sorted_mapField {f : Json → Json} (k : String) (h : j.Sorted) (hf : ∀ v : Json, v.Sorted → (f v).Sorted) :
    (j.mapField k f).Sorted := by
  cases j with
  | obj fields =>
    obtain ⟨h1, h2⟩ := sorted_obj.1 h
    refine sorted_obj.2 ⟨?_, fun x hx => ?_⟩
    · rw [pairwise_keys_iff, keys_updateField, ← pairwise_keys_iff]
      exact h1
    · rcases mem_updateField hx with hx | ⟨v, hv, rfl⟩
      · exact h2 x hx
      · exact hf v (h2 _ hv)
  | null | bool _ | num _ | float _ | str _ | arr _ => exact h

theorem isRecord_mapField (f : Json → Json) : (j.mapField k f).isRecord = j.isRecord := by
  cases j <;> rfl

/-! ## Member by member

Where a missing member and a null one differ. -/

theorem obj_ext {a b : Json} (ha : a.isObj = true) (hb : b.isObj = true) (hsa : a.Sorted) (hsb : b.Sorted)
    (h : ∀ k, a.get? k = b.get? k) : a = b := by
  cases a <;> cases ha
  cases b <;> cases hb
  exact congrArg Json.obj (fields_ext (sorted_obj.1 hsa).1 (sorted_obj.1 hsb).1 h)

theorem isObj_fillMissing (ha : a.isObj = true) : (fillMissing a e).isObj = true := by
  cases a <;> cases ha
  cases e <;> simp [fillMissing, isNull, isObj]

theorem sorted_get? {k : String} {j v : Json} (h : j.Sorted) (hv : j.get? k = some v) : v.Sorted := by
  cases j with
  | obj fields => exact sorted_of_lookup h hv
  | null | bool _ | num _ | float _ | str _ | arr _ => cases hv

theorem get?_fillMissing (ha : a.isObj = true) (he : e.isRecord = true) (hs : e.Sorted) (k : String) :
    (fillMissing a e).get? k = (match e.get? k with
      | none => a.get? k
      | some v => some (fillMissing (a.getD k) v)) := by
  cases a <;> cases ha
  rcases isRecord_cases he with rfl | ⟨fields, rfl⟩
  · rw [fillMissing_null_right]
    rfl
  · rw [fillMissing_obj]
    exact lookup_fillFields k (sorted_obj.1 hs).1

theorem get?_setField (h : j.isRecord = true) (k k' : String) (v : Json) :
    (j.setField k v).get? k' = if k' = k then some v else j.get? k' := by
  rcases isRecord_cases h with rfl | ⟨fields, rfl⟩
  · by_cases hk : k' = k
    · simp [setField, get?, lookupField, hk]
    have hk' : ¬ k = k' := fun e => hk e.symm
    simp [setField, get?, lookupField, hk, hk']
  · exact lookup_upsertField k' k (fun _ => v) fields

theorem get?_setField_of_ne (j : Json) {k k' : String} (v : Json) (hne : k' ≠ k) : (j.setField k v).get? k' = j.get? k' := by
  cases j with
  | obj fields => simp [setField, get?, lookup_upsertField, if_neg hne]
  | null => simp [setField, get?, lookupField, Ne.symm hne]
  | _ => rfl

theorem isObj_setField (h : j.isRecord = true) (k : String) (v : Json) : (j.setField k v).isObj = true := by
  rcases isRecord_cases h with rfl | ⟨fields, rfl⟩ <;> rfl

theorem get?_removeFields (k : String) (j : Json) :
    (j.removeFields ks).get? k = if ks.contains k then none else j.get? k := by
  cases j with
  | obj fields => exact lookup_filter_keys ks k fields
  | null | bool _ | num _ | float _ | str _ | arr _ => simp [removeFields, get?]

theorem get?_mapField (f : Json → Json) (k k' : String) (j : Json) :
    (j.mapField k f).get? k' = if k' = k then (j.get? k').map f else j.get? k' := by
  cases j with
  | obj fields => exact lookup_updateField k' k f fields
  | null | bool _ | num _ | float _ | str _ | arr _ => simp [mapField, get?]

theorem removeFields_idem (j : Json) : (j.removeFields ks).removeFields ks = j.removeFields ks := by
  cases j with
  | obj fields => simp [removeFields, List.filter_filter]
  | null | bool _ | num _ | float _ | str _ | arr _ => rfl

theorem fillMissing_removeFields {a : Json} (ha : a.Sorted) (hne : a ≠ .null) (ks : List String) :
    fillMissing a (a.removeFields ks) = a := by
  cases hobj : a.isObj with
  | false => exact fillMissing_scalar hne hobj
  | true =>
    refine obj_ext (isObj_fillMissing hobj) hobj (sorted_fillMissing ha (sorted_removeFields ks ha)) ha (fun k => ?_)
    have hrec : (a.removeFields ks).isRecord = true := by
      rw [isRecord_removeFields, isRecord, hobj, Bool.or_true]
    rw [get?_fillMissing hobj hrec (sorted_removeFields ks ha), get?_removeFields]
    cases hk : ks.contains k with
    | true => rfl
    | false =>
      cases hv : a.get? k with
      | none => rfl
      | some v =>
        have hget : a.getD k = v := by rw [getD, hv]; rfl
        simp [hget, fillMissing_self (sorted_get? ha hv)]

/-- **Filling from what was filled, less some members that were not there, is filling once.** -/
theorem fillMissing_removeFields_idem {a b : Json} (ha : a.Sorted) (hb : b.Sorted) (ks : List String) :
    fillMissing a ((fillMissing a (b.removeFields ks)).removeFields ks) = fillMissing a (b.removeFields ks) := by
  by_cases hnull : a = .null
  · rw [hnull, fillMissing_null, fillMissing_null, removeFields_idem]
  have hsb := sorted_removeFields ks hb
  cases hobj : a.isObj with
  | false => rw [fillMissing_scalar hnull hobj, fillMissing_scalar hnull hobj]
  | true =>
    by_cases hrec : (b.removeFields ks).isRecord = true
    · have hfill := sorted_fillMissing ha hsb
      have hobj' : (fillMissing a (b.removeFields ks)).isObj = true := isObj_fillMissing hobj
      have hrec' : ((fillMissing a (b.removeFields ks)).removeFields ks).isRecord = true := by
        rw [isRecord_removeFields, isRecord, hobj', Bool.or_true]
      refine obj_ext (isObj_fillMissing hobj) hobj' (sorted_fillMissing ha (sorted_removeFields ks hfill)) hfill
        (fun k => ?_)
      rw [get?_fillMissing hobj hrec' (sorted_removeFields ks hfill), get?_removeFields, get?_fillMissing hobj hrec hsb]
      cases hk : ks.contains k with
      | true =>
        rw [get?_removeFields, hk]
        rfl
      | false =>
        cases hv : (b.removeFields ks).get? k with
        | none =>
          cases hw : a.get? k with
          | none => rfl
          | some w =>
            have hget : a.getD k = w := by rw [getD, hw]; rfl
            simp [hget, fillMissing_self (sorted_get? ha hw)]
        | some v => simp [fillMissing_right_idem (sorted_getD ha) (sorted_get? hsb hv)]
    · have hb' : (b.removeFields ks).isObj = false := by
        rw [isRecord, Bool.or_eq_true, not_or, Bool.not_eq_true, Bool.not_eq_true] at hrec
        exact hrec.2
      rw [fillMissing_of_not_obj hnull hb', fillMissing_removeFields ha hnull]

end Json
