import Mathlib.Data.String.Basic
/-!
# JSON values

A JSON value as `serde_json` keeps it: an object's members stand in the order of their keys, and no key stands twice
(`Json.Sorted`).
-/

inductive Json where
  | null
  | bool (b : Bool)
  | num (n : Int)
  | float (literal : String)
  | str (s : String)
  | arr (items : List Json)
  | obj (fields : List (String × Json))

namespace Json

open List

/-! ## Equality is decidable -/

mutual
def decEq : (a b : Json) → Decidable (a = b)
  | .null, b => match b with
    | .null => isTrue rfl
    | .bool _ | .num _ | .float _ | .str _ | .arr _ | .obj _ => isFalse nofun
  | .bool x, b => match b with
    | .bool y => if h : x = y then isTrue (h ▸ rfl) else isFalse (fun e => h (Json.bool.inj e))
    | .null | .num _ | .float _ | .str _ | .arr _ | .obj _ => isFalse nofun
  | .num x, b => match b with
    | .num y => if h : x = y then isTrue (h ▸ rfl) else isFalse (fun e => h (Json.num.inj e))
    | .null | .bool _ | .float _ | .str _ | .arr _ | .obj _ => isFalse nofun
  | .float x, b => match b with
    | .float y => if h : x = y then isTrue (h ▸ rfl) else isFalse (fun e => h (Json.float.inj e))
    | .null | .bool _ | .num _ | .str _ | .arr _ | .obj _ => isFalse nofun
  | .str x, b => match b with
    | .str y => if h : x = y then isTrue (h ▸ rfl) else isFalse (fun e => h (Json.str.inj e))
    | .null | .bool _ | .num _ | .float _ | .arr _ | .obj _ => isFalse nofun
  | .arr x, b => match b with
    | .arr y => match decEqItems x y with
      | isTrue h => isTrue (h ▸ rfl)
      | isFalse h => isFalse (fun e => h (Json.arr.inj e))
    | .null | .bool _ | .num _ | .float _ | .str _ | .obj _ => isFalse nofun
  | .obj x, b => match b with
    | .obj y => match decEqFields x y with
      | isTrue h => isTrue (h ▸ rfl)
      | isFalse h => isFalse (fun e => h (Json.obj.inj e))
    | .null | .bool _ | .num _ | .float _ | .str _ | .arr _ => isFalse nofun

def decEqItems : (x y : List Json) → Decidable (x = y)
  | [], [] => isTrue rfl
  | [], _ :: _ => isFalse nofun
  | _ :: _, [] => isFalse nofun
  | a :: x, b :: y => match decEq a b, decEqItems x y with
    | isTrue h₁, isTrue h₂ => isTrue (by rw [h₁, h₂])
    | isFalse h, _ => isFalse (fun e => h (List.cons.inj e).1)
    | _, isFalse h => isFalse (fun e => h (List.cons.inj e).2)

def decEqFields : (x y : List (String × Json)) → Decidable (x = y)
  | [], [] => isTrue rfl
  | [], _ :: _ => isFalse nofun
  | _ :: _, [] => isFalse nofun
  | (k, a) :: x, (l, b) :: y =>
    if hk : k = l then match decEq a b, decEqFields x y with
      | isTrue h₁, isTrue h₂ => isTrue (by rw [hk, h₁, h₂])
      | isFalse h, _ => isFalse (fun e => h (Prod.mk.inj (List.cons.inj e).1).2)
      | _, isFalse h => isFalse (fun e => h (List.cons.inj e).2)
    else isFalse (fun e => hk (Prod.mk.inj (List.cons.inj e).1).1)
end

instance : DecidableEq Json := decEq

/-! ## Reading -/

def lookupField (k : String) : List (String × Json) → Option Json
  | [] => none
  | (l, v) :: rest => if l = k then some v else lookupField k rest

variable (k : String)

def get? : Json → Option Json
  | .obj fields => lookupField k fields
  | _ => none

def pointer : List String → Json → Option Json
  | [], j => some j
  | k :: ks, j => (j.get? k).bind (pointer ks)

def getD (j : Json) : Json := (j.get? k).getD .null

def asStr : Json → Option String
  | .str s => some s
  | _ => none

def asBool : Json → Option Bool
  | .bool b => some b
  | _ => none

def asArr : Json → Option (List Json)
  | .arr items => some items
  | _ => none

def isNull : Json → Bool
  | .null => true
  | _ => false

def isObj : Json → Bool
  | .obj _ => true
  | _ => false

def strField (j : Json) : Option String := (j.get? k).bind asStr

def strAt (path : List String) (j : Json) : Option String := (j.pointer path).bind asStr

/-! ## Writing -/

def hasField (fields : List (String × Json)) : Bool := fields.any (fun f => f.1 = k)

def updateField (k : String) (f : Json → Json) : List (String × Json) → List (String × Json)
  | [] => []
  | (l, v) :: rest => if l = k then (l, f v) :: rest else (l, v) :: updateField k f rest

def insertField (k : String) (v : Json) : List (String × Json) → List (String × Json)
  | [] => [(k, v)]
  | (l, w) :: rest => if k < l then (k, v) :: (l, w) :: rest else (l, w) :: insertField k v rest

def upsertField (f : Json → Json) (fields : List (String × Json)) : List (String × Json) :=
  if hasField k fields then updateField k f fields else insertField k (f .null) fields

def setField (j : Json) (k : String) (v : Json) : Json :=
  match j with
  | .obj fields => .obj (upsertField k (fun _ => v) fields)
  | .null => .obj [(k, v)]
  | _ => j

def removeFields (ks : List String) : Json → Json
  | .obj fields => .obj (fields.filter (fun f => !ks.contains f.1))
  | j => j

def mapField (f : Json → Json) : Json → Json
  | .obj fields => .obj (updateField k f fields)
  | j => j

def mkObj (fields : List (String × Json)) : Json :=
  .obj (fields.foldl (fun acc f => upsertField f.1 (fun _ => f.2) acc) [])

def ofOption : Option Json → Json
  | some v => v
  | none => .null

def ofOptStr : Option String → Json
  | some s => .str s
  | none => .null

/-! ## Filling and differencing -/

mutual
def fillMissing (latest : Json) (earlier : Json) : Json :=
  match earlier with
  | .obj fields => match latest with
    | .obj own => .obj (fillFields own fields)
    | .null => .obj fields
    | _ => latest
  | _ => if latest.isNull then earlier else latest

def fillFields (own : List (String × Json)) : List (String × Json) → List (String × Json)
  | [] => own
  | (k, v) :: rest => fillFields (upsertField k (fun old => fillMissing old v) own) rest
end

mutual
def difference (value base : Json) : Option Json :=
  if value = base then none
  else match value with
    | .obj fields => match base with
      | .obj own => match diffFields fields own with
        | [] => none
        | f :: fs => some (.obj (f :: fs))
      | _ => some value
    | _ => some value

def diffFields : List (String × Json) → List (String × Json) → List (String × Json)
  | [], _ => []
  | (k, v) :: rest, own => match difference v ((lookupField k own).getD .null) with
    | none => diffFields rest own
    | some d => (k, d) :: diffFields rest own
end

/-! ## Sorted members -/

mutual
def Sorted : Json → Prop
  | .obj fields => fields.Pairwise (fun a b => a.1 < b.1) ∧ SortedFields fields
  | .arr items => SortedItems items
  | _ => True

def SortedFields : List (String × Json) → Prop
  | [] => True
  | (_, v) :: rest => v.Sorted ∧ SortedFields rest

def SortedItems : List Json → Prop
  | [] => True
  | v :: rest => v.Sorted ∧ SortedItems rest
end

/-! ## One member after another -/

variable {k : String}

theorem lookupField_eq_none : ∀ {fields : List (String × Json)}, hasField k fields = false →
    lookupField k fields = none
  | [], _ => rfl
  | (l, v) :: rest, h => by
    simp only [hasField, any_cons, Bool.or_eq_false_iff, decide_eq_false_iff_not] at h
    rw [lookupField, if_neg h.1]
    exact lookupField_eq_none (by simpa [hasField] using h.2)

theorem lookup_updateField (k k' : String) (f : Json → Json) : ∀ fields : List (String × Json),
    lookupField k (updateField k' f fields) = if k = k' then (lookupField k fields).map f else lookupField k fields
  | [] => by simp [updateField, lookupField]
  | (l, v) :: rest => by
    have ih := lookup_updateField k k' f rest
    unfold updateField
    by_cases hl : l = k'
    · subst hl
      by_cases hk : k = l
      · subst hk; simp [lookupField]
      have hk' : ¬ l = k := fun e => hk e.symm
      simp [lookupField, hk, hk']
    · rw [if_neg hl]
      unfold lookupField
      by_cases hk : l = k
      · have : ¬ k = k' := fun e => hl (hk.trans e)
        simp [hk, this]
      · rw [if_neg hk, if_neg hk, ih]

theorem lookup_insertField (k k' : String) (v : Json) : ∀ fields : List (String × Json), hasField k' fields = false →
    lookupField k (insertField k' v fields) = if k = k' then some v else lookupField k fields
  | [], _ => by
    by_cases hk : k = k'
    · simp [insertField, lookupField, hk]
    have : ¬ k' = k := fun e => hk e.symm
    simp [insertField, lookupField, hk, this]
  | (l, w) :: rest, h => by
    simp only [hasField, any_cons, Bool.or_eq_false_iff, decide_eq_false_iff_not] at h
    have ih := lookup_insertField k k' v rest (by simpa [hasField] using h.2)
    unfold insertField
    split
    · by_cases hk : k = k'
      · simp [lookupField, hk]
      have : ¬ k' = k := fun e => hk e.symm
      simp [lookupField, hk, this]
    · unfold lookupField
      by_cases hl : l = k
      · have : ¬ k = k' := fun e => h.1 (hl.trans e)
        simp [hl, this]
      · rw [if_neg hl, if_neg hl, ih]

theorem lookup_upsertField (k k' : String) (f : Json → Json) (fields : List (String × Json)) :
    lookupField k (upsertField k' f fields)
      = if k = k' then some (f ((lookupField k' fields).getD .null)) else lookupField k fields := by
  unfold upsertField
  split
  · rename_i hhas
    rw [lookup_updateField]
    by_cases hk : k = k'
    · subst hk
      rw [if_pos rfl, if_pos rfl]
      cases hl : lookupField k fields with
      | some v => rfl
      | none =>
        exfalso
        clear f
        induction fields with
        | nil => cases hhas
        | cons x rest ih =>
          obtain ⟨l, v⟩ := x
          unfold lookupField at hl
          by_cases h : l = k
          · rw [if_pos h] at hl; cases hl
          rw [if_neg h] at hl
          refine ih ?_ hl
          simpa [hasField, h] using hhas
    · rw [if_neg hk, if_neg hk]
  · rename_i hhas
    have hnone := lookupField_eq_none (by simpa using hhas)
    rw [lookup_insertField _ _ _ _ (by simpa using hhas), hnone]
    rfl

/-! ## Sorted members -/

theorem sortedFields_iff : ∀ fields : List (String × Json), SortedFields fields ↔ ∀ f ∈ fields, f.2.Sorted
  | [] => by simp [SortedFields]
  | (k, v) :: rest => by
    simp [SortedFields, sortedFields_iff rest]

variable {fields : List (String × Json)}

theorem sorted_obj :
    (Json.obj fields).Sorted ↔ fields.Pairwise (fun a b => a.1 < b.1) ∧ ∀ f ∈ fields, f.2.Sorted := by
  simp [Sorted, sortedFields_iff]

variable {v : Json}

theorem mem_of_lookupField : ∀ {fields : List (String × Json)},
    lookupField k fields = some v → (k, v) ∈ fields
  | (l, w) :: rest, h => by
    unfold lookupField at h
    by_cases hl : l = k
    · rw [if_pos hl] at h
      cases h
      rw [hl]
      exact mem_cons_self
    · rw [if_neg hl] at h
      exact mem_cons_of_mem _ (mem_of_lookupField h)

theorem lookupField_of_mem : ∀ {fields : List (String × Json)},
    fields.Pairwise (fun a b => a.1 < b.1) → (k, v) ∈ fields → lookupField k fields = some v
  | (l, w) :: rest, hs, h => by
    unfold lookupField
    rcases mem_cons.1 h with h | h
    · cases h; simp
    have hlt : l < k := (pairwise_cons.1 hs).1 _ h
    rw [if_neg (fun e => absurd (e ▸ hlt) (lt_irrefl _))]
    exact lookupField_of_mem (pairwise_cons.1 hs).2 h

theorem sorted_of_lookup (hs : (Json.obj fields).Sorted)
    (h : lookupField k fields = some v) : v.Sorted :=
  (sorted_obj.1 hs).2 _ (mem_of_lookupField h)

theorem sizeOf_lookupField (h : lookupField k fields = some v) :
    sizeOf v < 1 + sizeOf fields := by
  have := sizeOf_lt_of_mem (mem_of_lookupField h)
  simp only [Prod.mk.sizeOf_spec] at this
  omega

/-- **Sorted objects are equal when every member is.** -/
theorem fields_ext : ∀ {a b : List (String × Json)}, a.Pairwise (fun x y => x.1 < y.1) →
    b.Pairwise (fun x y => x.1 < y.1) → (∀ k, lookupField k a = lookupField k b) → a = b
  | [], [], _, _, _ => rfl
  | [], (l, w) :: b, _, _, h => by
    have := h l
    simp [lookupField] at this
  | (k, v) :: a, [], _, _, h => by
    have := h k
    simp [lookupField] at this
  | (k, v) :: a, (l, w) :: b, ha, hb, h => by
    obtain ⟨ha1, ha2⟩ := pairwise_cons.1 ha
    obtain ⟨hb1, hb2⟩ := pairwise_cons.1 hb
    have hkl : k = l := by
      rcases lt_trichotomy k l with hlt | heq | hgt
      · have hk := h k
        rw [lookupField, if_pos rfl, lookupField, if_neg (fun e => absurd (e ▸ hlt) (lt_irrefl _))] at hk
        exact absurd (lt_trans hlt (hb1 _ (mem_of_lookupField hk.symm))) (lt_irrefl _)
      · exact heq
      · have hl := h l
        rw [lookupField, if_neg (fun e => absurd (e ▸ hgt) (lt_irrefl _)), lookupField, if_pos rfl] at hl
        exact absurd (lt_trans hgt (ha1 _ (mem_of_lookupField hl))) (lt_irrefl _)
    subst hkl
    have hvw : v = w := by
      have hk := h k
      simpa [lookupField] using hk
    subst hvw
    have hrest : ∀ m, lookupField m a = lookupField m b := fun m => by
      by_cases hm : k = m
      · subst hm
        have hna : lookupField k a = none := by
          cases hx : lookupField k a with
          | none => rfl
          | some x => exact absurd (ha1 _ (mem_of_lookupField hx)) (lt_irrefl _)
        have hnb : lookupField k b = none := by
          cases hx : lookupField k b with
          | none => rfl
          | some x => exact absurd (hb1 _ (mem_of_lookupField hx)) (lt_irrefl _)
        rw [hna, hnb]
      · have hk := h m
        rwa [lookupField, if_neg hm, lookupField, if_neg hm] at hk
    rw [fields_ext ha2 hb2 hrest]

variable {f : Json → Json}

theorem mem_updateField {x : String × Json} : ∀ {fields : List (String × Json)},
    x ∈ updateField k f fields → x ∈ fields ∨ ∃ v, (k, v) ∈ fields ∧ x = (k, f v)
  | (l, v) :: rest, h => by
    unfold updateField at h
    by_cases hl : l = k
    · rw [if_pos hl] at h
      rcases mem_cons.1 h with h | h
      · exact Or.inr ⟨v, by rw [hl]; exact mem_cons_self, by rw [h, hl]⟩
      · exact Or.inl (mem_cons_of_mem _ h)
    · rw [if_neg hl] at h
      rcases mem_cons.1 h with h | h
      · exact Or.inl (by rw [h]; exact mem_cons_self)
      rcases mem_updateField h with h | ⟨w, hw, hx⟩
      · exact Or.inl (mem_cons_of_mem _ h)
      · exact Or.inr ⟨w, mem_cons_of_mem _ hw, hx⟩

theorem keys_updateField (k : String) (f : Json → Json) : ∀ fields : List (String × Json),
    (updateField k f fields).map Prod.fst = fields.map Prod.fst
  | [] => rfl
  | (l, v) :: rest => by
    unfold updateField
    split
    · rfl
    · rw [map_cons, map_cons, keys_updateField k f rest]

theorem pairwise_keys_iff (fields : List (String × Json)) :
    fields.Pairwise (fun a b => a.1 < b.1) ↔ (fields.map Prod.fst).Pairwise (· < ·) := by
  rw [pairwise_map]

theorem mem_insertField {x : String × Json} : ∀ {fields : List (String × Json)},
    x ∈ insertField k v fields → x = (k, v) ∨ x ∈ fields
  | [], h => Or.inl (by simpa [insertField] using h)
  | (l, w) :: rest, h => by
    unfold insertField at h
    split at h
    · exact mem_cons.1 h
    rcases mem_cons.1 h with h | h
    · exact Or.inr (by rw [h]; exact mem_cons_self)
    · exact (mem_insertField h).imp_right (mem_cons_of_mem _)

theorem pairwise_insertField : ∀ {fields : List (String × Json)},
    fields.Pairwise (fun a b => a.1 < b.1) → hasField k fields = false →
    (insertField k v fields).Pairwise (fun a b => a.1 < b.1)
  | [], _, _ => by simp [insertField]
  | (l, w) :: rest, hs, h => by
    simp only [hasField, any_cons, Bool.or_eq_false_iff, decide_eq_false_iff_not] at h
    obtain ⟨h1, h2⟩ := pairwise_cons.1 hs
    unfold insertField
    split
    · rename_i hlt
      refine pairwise_cons.2 ⟨fun x hx => ?_, hs⟩
      rcases mem_cons.1 hx with rfl | hx
      · exact hlt
      · exact lt_trans hlt (h1 x hx)
    · rename_i hlt
      refine pairwise_cons.2 ⟨fun x hx => ?_, pairwise_insertField h2 (by simpa [hasField] using h.2)⟩
      rcases mem_insertField hx with rfl | hx
      · exact lt_of_le_of_ne (not_lt.1 hlt) h.1
      · exact h1 x hx

theorem pairwise_upsertField
    (hs : fields.Pairwise (fun a b => a.1 < b.1)) : (upsertField k f fields).Pairwise (fun a b => a.1 < b.1) := by
  unfold upsertField
  split
  · rw [pairwise_keys_iff, keys_updateField, ← pairwise_keys_iff]
    exact hs
  · rename_i hhas
    exact pairwise_insertField hs (by simpa using hhas)

theorem sorted_upsertField (hs : (Json.obj fields).Sorted)
    (hf : ∀ v : Json, v.Sorted → (f v).Sorted) : (Json.obj (upsertField k f fields)).Sorted := by
  obtain ⟨h1, h2⟩ := sorted_obj.1 hs
  refine sorted_obj.2 ⟨pairwise_upsertField h1, fun x hx => ?_⟩
  unfold upsertField at hx
  split at hx
  · rcases mem_updateField hx with hx | ⟨v, hv, rfl⟩
    · exact h2 x hx
    · exact hf v (h2 _ hv)
  · rcases mem_insertField hx with rfl | hx
    · exact hf .null (by simp [Sorted])
    · exact h2 x hx

/-! ## Filling -/

@[simp] theorem fillMissing_null (e : Json) : fillMissing .null e = e := by
  cases e <;> simp [fillMissing, isNull]

theorem fillMissing_obj (own fields : List (String × Json)) :
    fillMissing (.obj own) (.obj fields) = .obj (fillFields own fields) := by
  simp [fillMissing]

variable {a e : Json}

theorem fillMissing_of_not_obj (ha : a ≠ .null) (he : e.isObj = false) : fillMissing a e = a := by
  cases e <;> cases a <;> simp_all [fillMissing, isNull, isObj]

theorem fillMissing_scalar (ha : a ≠ .null) (hobj : a.isObj = false) : fillMissing a e = a := by
  cases a <;> cases e <;> simp_all [fillMissing, isNull, isObj]

theorem fillMissing_idem_of_eq (h : fillMissing a e = a) : fillMissing (fillMissing a e) e = fillMissing a e := by
  rw [h, h]

theorem pairwise_fillFields : ∀ {fields own : List (String × Json)}, own.Pairwise (fun a b => a.1 < b.1) →
    (fillFields own fields).Pairwise (fun a b => a.1 < b.1)
  | [], _, h => by simpa [fillFields] using h
  | (k, v) :: rest, own, h => by
    rw [fillFields]
    exact pairwise_fillFields (pairwise_upsertField h)

/-- **One member of a filled object**: filled from the earlier member of its key, if there is one. -/
theorem lookup_fillFields (k : String) : ∀ {fields own : List (String × Json)},
    fields.Pairwise (fun a b => a.1 < b.1) →
    lookupField k (fillFields own fields) = (match lookupField k fields with
      | none => lookupField k own
      | some v => some (fillMissing ((lookupField k own).getD .null) v))
  | [], own, _ => by simp [fillFields, lookupField]
  | (l, w) :: rest, own, hs => by
    obtain ⟨h1, h2⟩ := pairwise_cons.1 hs
    rw [fillFields, lookup_fillFields k h2, lookup_upsertField]
    by_cases hk : k = l
    · subst hk
      have hnone : lookupField k rest = none := by
        cases hx : lookupField k rest with
        | none => rfl
        | some x => exact absurd (h1 _ (mem_of_lookupField hx)) (lt_irrefl _)
      simp [hnone, lookupField]
    · have hk' : ¬ l = k := fun e => hk e.symm
      simp [if_neg hk, lookupField, if_neg hk']

mutual
theorem sorted_fillMissing : ∀ {e a : Json}, a.Sorted → e.Sorted → (fillMissing a e).Sorted
  | .obj fields, a, ha, he => by
    cases a with
    | obj own =>
      rw [fillMissing_obj]
      exact sorted_fillFields ha (sorted_obj.1 he).2
    | null => rwa [fillMissing_null]
    | bool _ | num _ | float _ | str _ | arr _ => rwa [fillMissing_scalar (by simp) rfl]
  | .null, a, ha, he | .bool _, a, ha, he | .num _, a, ha, he | .float _, a, ha, he | .str _, a, ha, he
  | .arr _, a, ha, he => by
    simp only [fillMissing]
    split
    · exact he
    · exact ha

theorem sorted_fillFields : ∀ {fields own : List (String × Json)}, (Json.obj own).Sorted →
    (∀ f ∈ fields, f.2.Sorted) → (Json.obj (fillFields own fields)).Sorted
  | [], own, h, _ => by simpa [fillFields] using h
  | (k, v) :: rest, own, h, hv => by
    rw [fillFields]
    refine sorted_fillFields (sorted_upsertField h (fun x hx => ?_)) (fun f hf => hv f (mem_cons_of_mem _ hf))
    exact sorted_fillMissing hx (hv (k, v) mem_cons_self)
end

theorem fillMissing_self : ∀ {a : Json}, a.Sorted → fillMissing a a = a
  | .obj fields, h => by
    obtain ⟨h1, h2⟩ := sorted_obj.1 h
    rw [fillMissing_obj]
    refine congrArg Json.obj (fields_ext (pairwise_fillFields h1) h1 (fun k => ?_))
    rw [lookup_fillFields k h1]
    cases hk : lookupField k fields with
    | none => rfl
    | some v =>
      have hv := sorted_of_lookup h hk
      have hlt := sizeOf_lookupField hk
      simp [fillMissing_self hv]
  | .null, _ => by simp
  | .bool _, _ | .num _, _ | .float _, _ | .str _, _ | .arr _, _ => fillMissing_scalar (by simp) rfl
termination_by a => sizeOf a

/-- **Filling twice from the same value is filling once.** -/
theorem fillMissing_idem : ∀ {e a : Json}, a.Sorted → e.Sorted → fillMissing (fillMissing a e) e = fillMissing a e
  | .obj fields, a, ha, he => by
    obtain ⟨he1, he2⟩ := sorted_obj.1 he
    cases a with
    | obj own =>
      have hown := (sorted_obj.1 ha).1
      rw [fillMissing_obj, fillMissing_obj]
      refine congrArg Json.obj (fields_ext (pairwise_fillFields (pairwise_fillFields hown)) (pairwise_fillFields hown)
        (fun k => ?_))
      rw [lookup_fillFields k he1, lookup_fillFields k he1]
      cases hk : lookupField k fields with
      | none => rfl
      | some v =>
        have hlt := sizeOf_lookupField hk
        have hown' : ((lookupField k own).getD .null).Sorted := by
          cases hx : lookupField k own with
          | none => simp [Sorted]
          | some x => exact sorted_of_lookup ha hx
        simp [fillMissing_idem hown' (sorted_of_lookup he hk)]
    | null => rw [fillMissing_null, fillMissing_self he]
    | bool _ | num _ | float _ | str _ | arr _ => exact fillMissing_idem_of_eq (fillMissing_scalar (by simp) rfl)
  | .null, a, _, _ | .bool _, a, _, _ | .num _, a, _, _ | .float _, a, _, _ | .str _, a, _, _ | .arr _, a, _, _ => by
    by_cases ha : a = .null
    · subst ha; simp [fillMissing, isNull]
    · exact fillMissing_idem_of_eq (fillMissing_of_not_obj ha rfl)
termination_by e => sizeOf e

theorem fillMissing_right_idem_of_eq (ha : a.Sorted) (h : fillMissing a e = a) :
    fillMissing a (fillMissing a e) = fillMissing a e := by
  rw [h, fillMissing_self ha]

/-- **Filling from what was already filled is filling once.** -/
theorem fillMissing_right_idem : ∀ {e a : Json}, a.Sorted → e.Sorted → fillMissing a (fillMissing a e) = fillMissing a e
  | .obj fields, a, ha, he => by
    obtain ⟨he1, he2⟩ := sorted_obj.1 he
    cases a with
    | obj own =>
      have hown := (sorted_obj.1 ha).1
      have hfill : (fillFields own fields).Pairwise (fun a b => a.1 < b.1) := pairwise_fillFields hown
      rw [fillMissing_obj, fillMissing_obj]
      refine congrArg Json.obj (fields_ext (pairwise_fillFields hown) hfill (fun k => ?_))
      rw [lookup_fillFields k hfill, lookup_fillFields k he1]
      cases hk : lookupField k fields with
      | none =>
        cases hx : lookupField k own with
        | none => rfl
        | some x => simp [fillMissing_self (sorted_of_lookup ha hx)]
      | some v =>
        have hlt := sizeOf_lookupField hk
        have hown' : ((lookupField k own).getD .null).Sorted := by
          cases hx : lookupField k own with
          | none => simp [Sorted]
          | some x => exact sorted_of_lookup ha hx
        simp [fillMissing_right_idem hown' (sorted_of_lookup he hk)]
    | null => rw [fillMissing_null, fillMissing_null]
    | bool _ | num _ | float _ | str _ | arr _ =>
      rw [fillMissing_scalar (by simp) rfl, fillMissing_scalar (by simp) rfl]
  | .null, a, ha, _ | .bool _, a, ha, _ | .num _, a, ha, _ | .float _, a, ha, _ | .str _, a, ha, _
  | .arr _, a, ha, _ => by
    by_cases hn : a = .null
    · subst hn; simp
    · exact fillMissing_right_idem_of_eq ha (fillMissing_of_not_obj hn rfl)
termination_by e => sizeOf e

/-! ## Differencing -/

theorem difference_eq_none_of_eq (a : Json) : difference a a = none := by
  unfold difference
  simp

theorem difference_scalar {v base : Json} (hne : v ≠ base) (hv : v.isObj = false) : difference v base = some v := by
  cases v <;> simp_all [difference, isObj]

/-- **One member of a difference**: the difference of the two members. -/
theorem lookup_diffFields (k : String) (own : List (String × Json)) : ∀ {fields : List (String × Json)},
    fields.Pairwise (fun a b => a.1 < b.1) →
    lookupField k (diffFields fields own)
      = (lookupField k fields).bind (fun v => difference v ((lookupField k own).getD .null))
  | [], _ => rfl
  | (l, v) :: rest, hs => by
    obtain ⟨h1, h2⟩ := pairwise_cons.1 hs
    have ih := lookup_diffFields k own h2
    by_cases hk : l = k
    · subst hk
      have hnone : lookupField l rest = none := by
        cases hx : lookupField l rest with
        | none => rfl
        | some x => exact absurd (h1 _ (mem_of_lookupField hx)) (lt_irrefl _)
      rw [hnone] at ih
      rw [lookupField, if_pos rfl, diffFields]
      cases hd : difference v ((lookupField l own).getD .null) with
      | none => simpa [hd] using ih
      | some d => simp [lookupField, hd]
    · rw [lookupField, if_neg hk, diffFields]
      split
      · exact ih
      · rw [lookupField, if_neg hk, ih]

mutual
theorem sorted_difference : ∀ {v base d : Json}, v.Sorted → difference v base = some d → d.Sorted
  | .obj fields, base, d, hv, h => by
    unfold difference at h
    split at h
    · cases h
    cases base with
    | obj own =>
      have hs := sorted_diffFields own (sorted_obj.1 hv).1 (sorted_obj.1 hv).2
      simp only at h
      split at h
      · cases h
      rename_i heq
      cases h
      rw [heq] at hs
      exact hs
    | null | bool _ | num _ | float _ | str _ | arr _ => cases h; exact hv
  | .null, base, d, hv, h | .bool _, base, d, hv, h | .num _, base, d, hv, h | .float _, base, d, hv, h
  | .str _, base, d, hv, h | .arr _, base, d, hv, h => by
    unfold difference at h
    split at h
    · cases h
    · cases h; exact hv

theorem sorted_diffFields (own : List (String × Json)) : ∀ {fields : List (String × Json)},
    fields.Pairwise (fun a b => a.1 < b.1) → (∀ f ∈ fields, f.2.Sorted) → (Json.obj (diffFields fields own)).Sorted
  | [], _, _ => by simp [diffFields, Sorted, SortedFields]
  | (k, v) :: rest, hp, hv => by
    obtain ⟨h1, h2⟩ := pairwise_cons.1 hp
    have ih := sorted_diffFields own h2 (fun f hf => hv f (mem_cons_of_mem _ hf))
    rw [diffFields]
    split
    · exact ih
    rename_i d hd
    obtain ⟨ih1, ih2⟩ := sorted_obj.1 ih
    refine sorted_obj.2 ⟨pairwise_cons.2 ⟨fun x hx => ?_, ih1⟩, fun x hx => ?_⟩
    · have hlook := lookupField_of_mem (k := x.1) (v := x.2) ih1 hx
      rw [lookup_diffFields x.1 own h2] at hlook
      cases hr : lookupField x.1 rest with
      | none => rw [hr] at hlook; cases hlook
      | some y => exact h1 (x.1, y) (mem_of_lookupField hr)
    · rcases mem_cons.1 hx with rfl | hx
      · exact sorted_difference (hv (k, v) mem_cons_self) hd
      · exact ih2 x hx
end

end Json
