import RovaiCore.JsonValue
import Mathlib.Algebra.Order.BigOperators.Group.List
import Mathlib.Algebra.Order.BigOperators.Ring.List
/-!
# The text of a JSON value

`serde_json::to_string`, and how many bytes it takes: a member more or an item more makes the text longer, and the text of an
object follows the one member that differs.
-/
namespace Json

open List

/-! ## Writing -/

def hexDigit (n : Nat) : Char := Char.ofNat (if n < 10 then 48 + n else 87 + n)

def escape (c : Char) : String :=
  if c.toNat = 0x22 then "\\\x22"
  else if c.toNat = 0x5c then "\\\\"
  else if c.toNat = 0x08 then "\\b"
  else if c.toNat = 0x09 then "\\t"
  else if c.toNat = 0x0a then "\\n"
  else if c.toNat = 0x0c then "\\f"
  else if c.toNat = 0x0d then "\\r"
  else if c.toNat < 0x20 then "\\u00" ++ String.singleton (hexDigit (c.toNat / 16)) ++ String.singleton (hexDigit (c.toNat % 16))
  else String.singleton c

variable (s : String)

def escapes : String := s.toList.foldr (fun c t => escape c ++ t) ""

def quote : String := "\x22" ++ escapes s ++ "\x22"

mutual
def encode : Json → String
  | .null => "null"
  | .bool b => if b then "true" else "false"
  | .num n => toString n
  | .float literal => literal
  | .str s => quote s
  | .arr [] => "[]"
  | .arr (v :: rest) => "[" ++ (encode v ++ encodeItems rest) ++ "]"
  | .obj [] => "\x7b\x7d"
  | .obj ((k, v) :: rest) => "\x7b" ++ (quote k ++ (":" ++ (encode v ++ encodeFields rest))) ++ "\x7d"

def encodeItems : List Json → String
  | [] => ""
  | v :: rest => "," ++ (encode v ++ encodeItems rest)

def encodeFields : List (String × Json) → String
  | [] => ""
  | (k, v) :: rest => "," ++ (quote k ++ (":" ++ (encode v ++ encodeFields rest)))
end

example : encode (.obj [("a", .arr [.num (-1), .str "x\n"]), ("b", .null)]) =
    "\x7b\x22a\x22:[-1,\x22x\\n\x22],\x22b\x22:null\x7d" := by decide

/-! ## Counting -/

def bytes (j : Json) : Nat := (encode j).utf8ByteSize

def escapedBytes : Nat := (escapes s).utf8ByteSize

theorem utf8ByteSize_foldr_escape (cs : List Char) :
    (cs.foldr (fun c t => escape c ++ t) "").utf8ByteSize = (cs.map (fun c => (escape c).utf8ByteSize)).sum := by
  induction cs with
  | nil => rfl
  | cons c cs ih => rw [foldr_cons, String.utf8ByteSize_append, ih, map_cons, sum_cons]

theorem escapedBytes_append (s t : String) : escapedBytes (s ++ t) = escapedBytes s + escapedBytes t := by
  unfold escapedBytes escapes
  rw [utf8ByteSize_foldr_escape, utf8ByteSize_foldr_escape, utf8ByteSize_foldr_escape, String.toList_append, map_append,
    sum_append]

theorem utf8ByteSize_quote : (quote s).utf8ByteSize = escapedBytes s + 2 := by
  unfold quote escapedBytes
  rw [String.utf8ByteSize_append, String.utf8ByteSize_append]
  have hmark : "\x22".utf8ByteSize = 1 := by decide
  omega

theorem bytes_str : bytes (.str s) = escapedBytes s + 2 := utf8ByteSize_quote s

def itemBytes (v : Json) : Nat := bytes v + 1

def fieldBytes (f : String × Json) : Nat := escapedBytes f.1 + bytes f.2 + 4

theorem fieldBytes_mk (k : String) (v : Json) : fieldBytes (k, v) = escapedBytes k + bytes v + 4 := rfl

theorem utf8ByteSize_encodeItems (items : List Json) :
    (encodeItems items).utf8ByteSize = (items.map itemBytes).sum := by
  induction items with
  | nil => rfl
  | cons v rest ih =>
    rw [encodeItems, String.utf8ByteSize_append, String.utf8ByteSize_append, ih, map_cons, sum_cons]
    have hcomma : ",".utf8ByteSize = 1 := by decide
    have hitem : itemBytes v = (encode v).utf8ByteSize + 1 := rfl
    omega

theorem utf8ByteSize_encodeFields (fields : List (String × Json)) :
    (encodeFields fields).utf8ByteSize = (fields.map fieldBytes).sum := by
  induction fields with
  | nil => rfl
  | cons f rest ih =>
    obtain ⟨k, v⟩ := f
    rw [encodeFields, String.utf8ByteSize_append, String.utf8ByteSize_append, String.utf8ByteSize_append,
      String.utf8ByteSize_append, utf8ByteSize_quote, ih, map_cons, sum_cons]
    have hcomma : ",".utf8ByteSize = 1 := by decide
    have hcolon : ":".utf8ByteSize = 1 := by decide
    have hfield : fieldBytes (k, v) = escapedBytes k + (encode v).utf8ByteSize + 4 := rfl
    omega

theorem bytes_arr (items : List Json) : bytes (.arr items) = 2 + ((items.map itemBytes).sum - 1) := by
  cases items with
  | nil => decide
  | cons v rest =>
    unfold bytes
    rw [encode, String.utf8ByteSize_append, String.utf8ByteSize_append, String.utf8ByteSize_append, utf8ByteSize_encodeItems,
      map_cons, sum_cons]
    have hopen : "[".utf8ByteSize = 1 := by decide
    have hclose : "]".utf8ByteSize = 1 := by decide
    have hitem : itemBytes v = (encode v).utf8ByteSize + 1 := rfl
    omega

theorem bytes_obj (fields : List (String × Json)) : bytes (.obj fields) = 2 + ((fields.map fieldBytes).sum - 1) := by
  cases fields with
  | nil => decide
  | cons f rest =>
    obtain ⟨k, v⟩ := f
    unfold bytes
    rw [encode, String.utf8ByteSize_append, String.utf8ByteSize_append, String.utf8ByteSize_append,
      String.utf8ByteSize_append, String.utf8ByteSize_append, utf8ByteSize_quote, utf8ByteSize_encodeFields, map_cons,
      sum_cons]
    have hopen : "\x7b".utf8ByteSize = 1 := by decide
    have hclose : "\x7d".utf8ByteSize = 1 := by decide
    have hcolon : ":".utf8ByteSize = 1 := by decide
    have hfield : fieldBytes (k, v) = escapedBytes k + (encode v).utf8ByteSize + 4 := rfl
    omega

/-! ## More items -/

theorem sum_itemBytes_le {items items' : List Json} (h : items.Sublist items') :
    (items.map itemBytes).sum ≤ (items'.map itemBytes).sum :=
  (h.map itemBytes).sum_le_sum (fun _ _ => Nat.zero_le _)

theorem bytes_arr_le {items items' : List Json} (h : items.Sublist items') : bytes (.arr items) ≤ bytes (.arr items') := by
  rw [bytes_arr, bytes_arr]
  have := sum_itemBytes_le h
  omega

/-! ## One member -/

theorem sum_fieldBytes_insertField (k : String) (v : Json) (fields : List (String × Json)) :
    ((insertField k v fields).map fieldBytes).sum = fieldBytes (k, v) + (fields.map fieldBytes).sum := by
  induction fields with
  | nil => rfl
  | cons f rest ih =>
    obtain ⟨l, w⟩ := f
    unfold insertField
    split
    · rfl
    rw [map_cons, sum_cons, ih, map_cons, sum_cons]
    omega

variable {fields : List (String × Json)} {k : String}

theorem hasField_eq_false_iff :
    hasField k fields = false ↔ lookupField k fields = none := by
  refine ⟨lookupField_eq_none, fun h => ?_⟩
  induction fields with
  | nil => rfl
  | cons f rest ih =>
    obtain ⟨l, v⟩ := f
    unfold lookupField at h
    split at h
    · cases h
    rename_i hl
    have hrest : hasField k rest = false := ih h
    simp only [hasField] at hrest
    simp [hasField, hl, hrest]

theorem sum_fieldBytes_upsertField (f : Json → Json)
    (habsent : lookupField k fields = none) :
    ((upsertField k f fields).map fieldBytes).sum = fieldBytes (k, f .null) + (fields.map fieldBytes).sum := by
  unfold upsertField
  rw [hasField_eq_false_iff.2 habsent, if_neg (by decide)]
  exact sum_fieldBytes_insertField k (f .null) fields

theorem fieldBytes_le_sum {v : Json} (h : lookupField k fields = some v) :
    fieldBytes (k, v) ≤ (fields.map fieldBytes).sum :=
  List.single_le_sum (fun _ _ => Nat.zero_le _) _ (mem_map_of_mem (mem_of_lookupField h))

theorem fieldBytes_add_le_sum {k l : String} {v w : Json} (hne : k ≠ l)
    (hv : lookupField k fields = some v) (hw : lookupField l fields = some w) :
    fieldBytes (k, v) + fieldBytes (l, w) ≤ (fields.map fieldBytes).sum := by
  induction fields with
  | nil => cases hv
  | cons f rest ih =>
    obtain ⟨m, x⟩ := f
    rw [map_cons, sum_cons]
    unfold lookupField at hv hw
    by_cases hk : m = k
    · subst hk
      rw [if_pos rfl] at hv
      rw [if_neg hne] at hw
      cases hv
      have := fieldBytes_le_sum hw
      omega
    · rw [if_neg hk] at hv
      by_cases hl : m = l
      · subst hl
        rw [if_pos rfl] at hw
        cases hw
        have := fieldBytes_le_sum hv
        omega
      · rw [if_neg hl] at hw
        have := ih hv hw
        omega

/-! ## The member that differs -/

structure DiffersAt (k : String) (v w : Json) (fields fields' : List (String × Json)) : Prop where
  differs : ∃ before after, fields = before ++ (k, v) :: after ∧ fields' = before ++ (k, w) :: after

variable {k l : String} {v w : Json} {fields fields' : List (String × Json)}

theorem DiffersAt.cons (h : DiffersAt k v w fields fields') (f : String × Json) :
    DiffersAt k v w (f :: fields) (f :: fields') := by
  obtain ⟨before, after, rfl, rfl⟩ := h.differs
  exact ⟨f :: before, after, rfl, rfl⟩

theorem DiffersAt.hasField_eq (h : DiffersAt k v w fields fields') (l : String) : hasField l fields = hasField l fields' := by
  obtain ⟨before, after, rfl, rfl⟩ := h.differs
  simp [hasField]

theorem differsAt_insertField (k : String) (v w : Json) (fields : List (String × Json)) :
    DiffersAt k v w (insertField k v fields) (insertField k w fields) := by
  induction fields with
  | nil => exact ⟨[], [], rfl, rfl⟩
  | cons f rest ih =>
    obtain ⟨l, x⟩ := f
    unfold insertField
    split
    · exact ⟨[], (l, x) :: rest, rfl, rfl⟩
    · exact ih.cons (l, x)

theorem differsAt_updateField (v w : Json) (hhas : hasField k fields = true) :
    DiffersAt k v w (updateField k (fun _ => v) fields) (updateField k (fun _ => w) fields) := by
  induction fields with
  | nil => cases hhas
  | cons f rest ih =>
    obtain ⟨l, x⟩ := f
    unfold updateField
    by_cases hl : l = k
    · subst hl
      rw [if_pos rfl, if_pos rfl]
      exact ⟨[], rest, rfl, rfl⟩
    · rw [if_neg hl, if_neg hl]
      exact (ih (by simpa [hasField, hl] using hhas)).cons (l, x)

theorem differsAt_upsertField (k : String) (v w : Json) (fields : List (String × Json)) :
    DiffersAt k v w (upsertField k (fun _ => v) fields) (upsertField k (fun _ => w) fields) := by
  unfold upsertField
  split
  · rename_i hhas
    exact differsAt_updateField v w hhas
  · exact differsAt_insertField k v w fields

theorem DiffersAt.upsertField (h : DiffersAt k v w fields fields') (hne : l ≠ k) (f : Json → Json) :
    DiffersAt k v w (upsertField l f fields) (upsertField l f fields') := by
  have hupdate : ∀ before after : List (String × Json),
      DiffersAt k v w (updateField l f (before ++ (k, v) :: after)) (updateField l f (before ++ (k, w) :: after)) := by
    intro before after
    induction before with
    | nil =>
      rw [nil_append, nil_append, updateField, updateField, if_neg hne.symm, if_neg hne.symm]
      exact ⟨[], _, rfl, rfl⟩
    | cons g before ih =>
      obtain ⟨m, x⟩ := g
      rw [cons_append, cons_append, updateField, updateField]
      split
      · exact ⟨_ :: before, after, rfl, rfl⟩
      · exact ih.cons (m, x)
  have hinsert : ∀ before after : List (String × Json),
      DiffersAt k v w (insertField l (f .null) (before ++ (k, v) :: after)) (insertField l (f .null) (before ++ (k, w) :: after)) := by
    intro before after
    induction before with
    | nil =>
      rw [nil_append, nil_append, insertField, insertField]
      split
      · exact ⟨[_], after, rfl, rfl⟩
      · exact ⟨[], _, rfl, rfl⟩
    | cons g before ih =>
      obtain ⟨m, x⟩ := g
      rw [cons_append, cons_append, insertField, insertField]
      split
      · exact ⟨_ :: _ :: before, after, rfl, rfl⟩
      · exact ih.cons (m, x)
  have hhas := h.hasField_eq l
  obtain ⟨before, after, rfl, rfl⟩ := h.differs
  unfold Json.upsertField
  rw [hhas]
  split
  · exact hupdate before after
  · exact hinsert before after

/-- **The text follows the member that differs.** -/
theorem DiffersAt.bytes_le {d : Nat} (h : DiffersAt k v w fields fields') (hle : bytes v ≤ bytes w + d) :
    bytes (.obj fields) ≤ bytes (.obj fields') + d := by
  obtain ⟨before, after, rfl, rfl⟩ := h.differs
  rw [bytes_obj, bytes_obj, map_append, map_append, sum_append, sum_append, map_cons, map_cons,
    sum_cons, sum_cons]
  rw [fieldBytes_mk, fieldBytes_mk]
  omega

end Json
