import RovaiCore.JsonStrings
/-!
# Reading a JSON text

`serde_json::from_str`: a value with blanks around its tokens, numbers with a fraction or an exponent by their text, strings with
all escapes, and at most 127 arrays and objects inside each other.
-/
namespace Json

open List

/-! ## Tokens -/

def skipSpace (text : List Char) : List Char :=
  text.dropWhile fun c => c = ' ' ∨ c = '\t' ∨ c = '\n' ∨ c = '\r'

def hexDigitValue (c : Char) : Option Nat :=
  if 48 ≤ c.toNat ∧ c.toNat ≤ 57 then some (c.toNat - 48)
  else if 97 ≤ c.toNat ∧ c.toNat ≤ 102 then some (c.toNat - 87)
  else if 65 ≤ c.toNat ∧ c.toNat ≤ 70 then some (c.toNat - 55)
  else none

def readHex : List Char → Option (Nat × List Char)
  | a :: b :: c :: d :: rest => (hexDigitValue a).bind fun a => (hexDigitValue b).bind fun b => (hexDigitValue c).bind fun c =>
      (hexDigitValue d).map fun d => (((a * 16 + b) * 16 + c) * 16 + d, rest)
  | _ => none

def readUnit (unit : Nat) (rest : List Char) : Option (Char × List Char) :=
  if 0xD800 ≤ unit ∧ unit ≤ 0xDBFF then
    match rest with
    | '\\' :: 'u' :: rest => (readHex rest).bind fun low =>
        if 0xDC00 ≤ low.1 ∧ low.1 ≤ 0xDFFF then
          some (Char.ofNat (0x10000 + (unit - 0xD800) * 0x400 + (low.1 - 0xDC00)), low.2)
        else none
    | _ => none
  else if 0xDC00 ≤ unit ∧ unit ≤ 0xDFFF then none
  else some (Char.ofNat unit, rest)

def readEscape : List Char → Option (Char × List Char)
  | 'u' :: rest => (readHex rest).bind fun unit => readUnit unit.1 unit.2
  | '/' :: rest => some ('/', rest)
  | c :: rest => (unescape c).map fun c => (c, rest)
  | [] => none

def readChars : Nat → List Char → Option (List Char × List Char)
  | 0, _ => none
  | _ + 1, [] => none
  | n + 1, c :: rest =>
    if c.toNat = 0x22 then some ([], rest)
    else if c.toNat = 0x5c then (readEscape rest).bind fun e => (readChars n e.2).map fun r => (e.1 :: r.1, r.2)
    else if c.toNat < 0x20 then none
    else (readChars n rest).map fun r => (c :: r.1, r.2)

def readText (text : List Char) : Option (String × List Char) :=
  (readChars (text.length + 1) text).map fun r => (String.ofList r.1, r.2)

def readFraction : List Char → Option (List Char × List Char)
  | '.' :: rest =>
    let digits := rest.takeWhile Char.isDigit
    if digits = [] then none else some ('.' :: digits, rest.dropWhile Char.isDigit)
  | text => some ([], text)

def readExponent : List Char → Option (List Char × List Char)
  | [] => some ([], [])
  | e :: rest =>
    if e = 'e' ∨ e = 'E' then
      let sign := rest.take 1 |>.filter fun c => c = '+' ∨ c = '-'
      let rest := rest.drop sign.length
      let digits := rest.takeWhile Char.isDigit
      if digits = [] then none else some (e :: (sign ++ digits), rest.dropWhile Char.isDigit)
    else some ([], e :: rest)

def readMagnitude (negative : Bool) (text : List Char) : Option (Json × List Char) :=
  let digits := text.takeWhile Char.isDigit
  if digits = [] ∨ digits.head? = some '0' ∧ digits ≠ ['0'] then none
  else (readFraction (text.dropWhile Char.isDigit)).bind fun fraction => (readExponent fraction.2).map fun exponent =>
    let magnitude := Nat.ofDigitChars 10 digits 0
    if fraction.1 = [] ∧ exponent.1 = [] ∧ ¬ (negative = true ∧ magnitude = 0) then
      (.num (if negative then -magnitude else magnitude), exponent.2)
    else (.float (String.ofList ((if negative then ['-'] else []) ++ digits ++ fraction.1 ++ exponent.1)), exponent.2)

def readScalar : List Char → Option (Json × List Char)
  | 'n' :: 'u' :: 'l' :: 'l' :: rest => some (.null, rest)
  | 't' :: 'r' :: 'u' :: 'e' :: rest => some (.bool true, rest)
  | 'f' :: 'a' :: 'l' :: 's' :: 'e' :: rest => some (.bool false, rest)
  | '\x22' :: rest => (readText rest).map fun r => (.str r.1, r.2)
  | '-' :: rest => readMagnitude true rest
  | text => readMagnitude false text

/-! ## Values -/

def readItemsWith (value : List Char → Option (Json × List Char)) : Nat → List Char → Option (List Json × List Char)
  | 0, _ => none
  | n + 1, text => (value text).bind fun item =>
    match skipSpace item.2 with
    | ',' :: rest => (readItemsWith value n rest).map fun r => (item.1 :: r.1, r.2)
    | ']' :: rest => some ([item.1], rest)
    | _ => none

def addMember (k : String) (v : Json) (fields : List (String × Json)) : List (String × Json) :=
  if hasField k fields then updateField k (fun _ => v) fields else fields ++ [(k, v)]

def readMembersWith (value : List Char → Option (Json × List Char)) :
    Nat → List (String × Json) → List Char → Option (List (String × Json) × List Char)
  | 0, _, _ => none
  | n + 1, fields, text =>
    match skipSpace text with
    | '\x22' :: text => (readText text).bind fun key =>
      match skipSpace key.2 with
      | ':' :: rest => (value rest).bind fun v =>
        match skipSpace v.2 with
        | ',' :: rest => readMembersWith value n (addMember key.1 v.1 fields) rest
        | '\x7d' :: rest => some (addMember key.1 v.1 fields, rest)
        | _ => none
      | _ => none
    | _ => none

def readValue : Nat → List Char → Option (Json × List Char)
  | 0, text => readScalar (skipSpace text)
  | depth + 1, text =>
    match skipSpace text with
    | '[' :: rest =>
      match skipSpace rest with
      | ']' :: rest => some (.arr [], rest)
      | rest => (readItemsWith (readValue depth) (rest.length + 1) rest).map fun r => (.arr r.1, r.2)
    | '\x7b' :: rest =>
      match skipSpace rest with
      | '\x7d' :: rest => some (.obj [], rest)
      | rest => (readMembersWith (readValue depth) (rest.length + 1) [] rest).map fun r => (.obj r.1, r.2)
    | rest => readScalar rest

def read (text : String) : Option Json :=
  (readValue 127 text.toList).bind fun r => if skipSpace r.2 = [] then some r.1 else none

/-! ## Numbers -/

def Ends (rest : List Char) : Prop :=
  ∀ c ∈ rest.head?, c.isDigit = false ∧ c ≠ '.' ∧ c ≠ 'e' ∧ c ≠ 'E'

variable {c : Char}

theorem ends_cons (hdigit : c.isDigit = false) (hfraction : c ≠ '.') (hlower : c ≠ 'e') (hupper : c ≠ 'E')
    (rest : List Char) : Ends (c :: rest) := by
  rintro c' ⟨⟩
  exact ⟨hdigit, hfraction, hlower, hupper⟩

variable {n : Nat}

theorem head?_toDigits (h : (Nat.toDigits 10 n).head? = some '0') : n = 0 := by
  induction n using Nat.strongRecOn with
  | ind n ih =>
    by_cases hn : n < 10
    · rw [Nat.toDigits_of_lt_base hn, head?_cons] at h
      have hdigit : ∀ m < 10, Nat.digitChar m = '0' → m = 0 := by decide
      exact hdigit n hn (Option.some.inj h)
    · rw [Nat.toDigits_of_base_le (by decide) (by omega)] at h
      have hne : Nat.toDigits 10 (n / 10) ≠ [] := Nat.toDigits_ne_nil
      rw [head?_append_of_ne_nil _ hne] at h
      have hzero := ih (n / 10) (by omega) h
      omega

theorem readMagnitude_toDigits {negative : Bool} (hn : negative = true → n ≠ 0) {rest : List Char} (h : Ends rest) :
    readMagnitude negative (Nat.toDigits 10 n ++ rest) = some (.num (if negative then -(n : Int) else n), rest) := by
  have hdigits : ∀ c ∈ Nat.toDigits 10 n, c.isDigit = true := fun c hc => Nat.isDigit_of_mem_toDigits (by decide) (by decide) hc
  have htake : (Nat.toDigits 10 n ++ rest).takeWhile Char.isDigit = Nat.toDigits 10 n := by
    rw [takeWhile_append_of_pos hdigits]
    cases rest with
    | nil => exact append_nil _
    | cons c rest => rw [takeWhile_cons, (h c rfl).1, if_neg Bool.false_ne_true, append_nil]
  have hdrop : (Nat.toDigits 10 n ++ rest).dropWhile Char.isDigit = rest := by
    rw [dropWhile_append_of_pos hdigits]
    cases rest with
    | nil => rfl
    | cons c rest => rw [dropWhile_cons, (h c rfl).1, if_neg Bool.false_ne_true]
  have hfraction : readFraction rest = some ([], rest) := by
    cases rest with
    | nil => rfl
    | cons c rest =>
      unfold readFraction
      split
      · rename_i heq
        exact absurd (List.cons.inj heq).1 (h c rfl).2.1
      · rfl
  have hexponent : readExponent rest = some ([], rest) := by
    cases rest with
    | nil => rfl
    | cons c rest => exact if_neg (not_or.2 ⟨(h c rfl).2.2.1, (h c rfl).2.2.2⟩)
  have hstart : ¬ (Nat.toDigits 10 n = [] ∨ (Nat.toDigits 10 n).head? = some '0' ∧ Nat.toDigits 10 n ≠ ['0']) := by
    rintro (hempty | ⟨hhead, hne⟩)
    · exact Nat.toDigits_ne_nil hempty
    rw [head?_toDigits hhead] at hne
    exact hne (Nat.toDigits_zero 10)
  have hsign : ¬ (negative = true ∧ n = 0) := fun hzero => hn hzero.1 hzero.2
  unfold readMagnitude
  rw [htake, hdrop]
  dsimp only
  rw [if_neg hstart, hfraction, Option.bind_some, hexponent, Option.map_some, Nat.ofDigitChars_ten_toDigits,
    if_pos ⟨rfl, rfl, hsign⟩]

/-! ## Strings -/

theorem hexDigitValue_hexDigit : ∀ n < 16, hexDigitValue (hexDigit n) = some n := by decide

theorem readChars_escape (n : Nat) (c : Char) (rest : List Char) :
    readChars (n + 1) ((escape c).toList ++ rest) = (readChars n rest).map fun r => (c :: r.1, r.2) := by
  have hletter : ∀ e : Char, readEscape (e :: rest) = some (c, rest) →
      readChars (n + 1) ('\\' :: e :: rest) = (readChars n rest).map fun r => (c :: r.1, r.2) := by
    intro e he
    rw [readChars, if_neg (by decide), if_pos (by decide), he, Option.bind_some]
  have hchar : ∀ {m : Nat}, c.toNat = m → c = Char.ofNat m := fun hm => by rw [← hm, Char.ofNat_toNat]
  unfold escape
  split
  · exact hletter '\x22' (by rw [hchar ‹_›]; rfl)
  split
  · exact hletter '\\' (by rw [hchar ‹_›]; rfl)
  split
  · exact hletter 'b' (by rw [hchar ‹_›]; rfl)
  split
  · exact hletter 't' (by rw [hchar ‹_›]; rfl)
  split
  · exact hletter 'n' (by rw [hchar ‹_›]; rfl)
  split
  · exact hletter 'f' (by rw [hchar ‹_›]; rfl)
  split
  · exact hletter 'r' (by rw [hchar ‹_›]; rfl)
  split
  · rename_i h
    have hhex : readHex ('0' :: '0' :: hexDigit (c.toNat / 16) :: hexDigit (c.toNat % 16) :: rest) = some (c.toNat, rest) := by
      have hzero : hexDigitValue '0' = some 0 := by decide
      rw [readHex, hzero, hexDigitValue_hexDigit _ (by omega), hexDigitValue_hexDigit _ (by omega)]
      simp only [Option.bind_some, Option.map_some, Option.some.injEq, Prod.mk.injEq, and_true]
      omega
    have hunit : readUnit c.toNat rest = some (c, rest) := by
      unfold readUnit
      rw [if_neg (by omega), if_neg (by omega), Char.ofNat_toNat]
    have hread : readEscape ('u' :: '0' :: '0' :: hexDigit (c.toNat / 16) :: hexDigit (c.toNat % 16) :: rest) = some (c, rest) := by
      rw [readEscape, hhex, Option.bind_some, hunit]
    have hchars : readChars (n + 1) ('\\' :: 'u' :: '0' :: '0' :: hexDigit (c.toNat / 16) :: hexDigit (c.toNat % 16) :: rest) =
        (readChars n rest).map fun r => (c :: r.1, r.2) := by
      rw [readChars, if_neg (by decide), if_pos (by decide), hread, Option.bind_some]
    refine Eq.trans (congrArg (readChars (n + 1)) ?_) hchars
    simp only [String.toList_append, String.toList_singleton]
    rfl
  · rename_i hmark hslash _ _ _ _ _ hcontrol
    rw [String.toList_singleton, singleton_append, readChars, if_neg hmark, if_neg hslash, if_neg hcontrol]

theorem readChars_escapes : ∀ (cs : List Char) (n : Nat) (rest : List Char), cs.length < n →
    readChars n ((cs.flatMap fun c => (escape c).toList) ++ '\x22' :: rest) = some (cs, rest)
  | [], n + 1, rest, _ => by
    rw [flatMap_nil, nil_append, readChars, if_pos (by decide)]
  | c :: cs, n + 1, rest, h => by
    rw [flatMap_cons, append_assoc, readChars_escape, readChars_escapes cs n rest (Nat.lt_of_succ_lt_succ h),
      Option.map_some]

theorem length_escape_pos (c : Char) : 0 < (escape c).toList.length := by
  unfold escape
  repeat' split
  all_goals simp

theorem length_le_escapes (cs : List Char) : cs.length ≤ (cs.flatMap fun c => (escape c).toList).length := by
  induction cs with
  | nil => exact Nat.le_refl _
  | cons c cs ih =>
    rw [flatMap_cons, length_append, length_cons]
    have hpos := length_escape_pos c
    omega

theorem readText_escapes (s : String) (rest : List Char) : readText ((escapes s).toList ++ '\x22' :: rest) = some (s, rest) := by
  unfold readText
  rw [toList_escapes, readChars_escapes, Option.map_some, String.ofList_toList]
  rw [length_append]
  have hle := length_le_escapes s.toList
  omega

/-! ## Values that can be read back -/

mutual
/-- No floating-point number, no key twice in an object, and at most so many arrays and objects inside each other. -/
def Readable : Json → Nat → Prop
  | .float _, _ => False
  | .arr _, 0 => False
  | .arr items, depth + 1 => ReadableItems items depth
  | .obj _, 0 => False
  | .obj fields, depth + 1 => (fields.map Prod.fst).Nodup ∧ ReadableFields fields depth
  | _, _ => True

def ReadableItems : List Json → Nat → Prop
  | [], _ => True
  | v :: rest, depth => Readable v depth ∧ ReadableItems rest depth

def ReadableFields : List (String × Json) → Nat → Prop
  | [], _ => True
  | (_, v) :: rest, depth => Readable v depth ∧ ReadableFields rest depth
end

variable {depth : Nat}

theorem readableItems_iff {items : List Json} : ReadableItems items depth ↔ ∀ v ∈ items, Readable v depth := by
  induction items with
  | nil => exact ⟨fun _ v hv => absurd hv not_mem_nil, fun _ => trivial⟩
  | cons v rest ih => rw [ReadableItems, ih, forall_mem_cons]

theorem readValue_scalar (hspace : ¬ (c = ' ' ∨ c = '\t' ∨ c = '\n' ∨ c = '\r')) (hopen : c ≠ '[') (hbrace : c ≠ '\x7b')
    (depth : Nat) (rest : List Char) : readValue depth (c :: rest) = readScalar (c :: rest) := by
  have hskip : skipSpace (c :: rest) = c :: rest := dropWhile_cons_of_neg (by simpa using hspace)
  cases depth with
  | zero => rw [readValue, hskip]
  | succ depth =>
    rw [readValue, hskip]
    split
    · rename_i heq
      exact absurd (List.cons.inj heq).1 hopen
    · rename_i heq
      exact absurd (List.cons.inj heq).1 hbrace
    · rfl

theorem toList_quote (s : String) (rest : List Char) :
    (quote s).toList ++ rest = '\x22' :: ((escapes s).toList ++ '\x22' :: rest) := by
  have hmark : "\x22".toList = ['\x22'] := rfl
  unfold quote
  simp

theorem readScalar_digits (rest : List Char) :
    readScalar (Nat.toDigits 10 n ++ rest) = readMagnitude false (Nat.toDigits 10 n ++ rest) := by
  obtain ⟨c, digits, hdigits⟩ := exists_cons_of_ne_nil (@Nat.toDigits_ne_nil n 10)
  have hdigit : c.isDigit = true := @Nat.isDigit_of_mem_toDigits 10 n c (by decide) (by decide) (hdigits ▸ mem_cons_self)
  rw [hdigits, cons_append]
  unfold readScalar
  split
  all_goals first
    | rfl
    | rename_i heq
      rw [(List.cons.inj heq).1] at hdigit
      exact absurd hdigit (by decide)

theorem readValue_num (n : Int) (depth : Nat) {rest : List Char} (h : Ends rest) :
    readValue depth ((encode (.num n)).toList ++ rest) = some (.num n, rest) := by
  rw [encode]
  cases n with
  | ofNat n =>
    have htext : (toString (Int.ofNat n)).toList = Nat.toDigits 10 n := Nat.toList_repr
    rw [htext]
    obtain ⟨c, digits, hdigits⟩ := exists_cons_of_ne_nil (@Nat.toDigits_ne_nil n 10)
    have hdigit : c.isDigit = true := @Nat.isDigit_of_mem_toDigits 10 n c (by decide) (by decide) (hdigits ▸ mem_cons_self)
    have hscalar : readValue depth (Nat.toDigits 10 n ++ rest) = readScalar (Nat.toDigits 10 n ++ rest) := by
      rw [hdigits, cons_append]
      refine readValue_scalar ?_ ?_ ?_ depth _
      · rintro (rfl | rfl | rfl | rfl) <;> exact absurd hdigit (by decide)
      · rintro rfl
        exact absurd hdigit (by decide)
      · rintro rfl
        exact absurd hdigit (by decide)
    rw [hscalar, readScalar_digits, readMagnitude_toDigits (fun h => absurd h Bool.false_ne_true) h]
    rfl
  | negSucc n =>
    have htext : (toString (Int.negSucc n)).toList = '-' :: Nat.toDigits 10 (n + 1) := by
      show ("-" ++ Nat.repr (n + 1)).toList = _
      rw [String.toList_append, Nat.toList_repr]
      rfl
    rw [htext, cons_append, readValue_scalar (by decide) (by decide) (by decide)]
    show readMagnitude true (Nat.toDigits 10 (n + 1) ++ rest) = _
    rw [readMagnitude_toDigits (fun _ => Nat.succ_ne_zero n) h]
    rfl

/-! ## Round trip -/

theorem skipSpace_of_mark (h : c = ',' ∨ c = ':' ∨ c = ']' ∨ c = '\x7d' ∨ c = '\x22') (rest : List Char) :
    skipSpace (c :: rest) = c :: rest := by
  refine dropWhile_cons_of_neg ?_
  rcases h with rfl | rfl | rfl | rfl | rfl <;> decide

theorem ends_of_mark (h : c = ',' ∨ c = ']' ∨ c = '\x7d') (rest : List Char) : Ends (c :: rest) := by
  rcases h with rfl | rfl | rfl <;> exact ends_cons (by decide) (by decide) (by decide) (by decide) rest

theorem addMember_new {k : String} {fields : List (String × Json)} (h : k ∉ fields.map Prod.fst) (v : Json) :
    addMember k v fields = fields ++ [(k, v)] := by
  have hno : ¬ hasField k fields = true := by
    intro hyes
    obtain ⟨f, hf, hk⟩ := any_eq_true.1 hyes
    exact h (of_decide_eq_true hk ▸ mem_map_of_mem hf)
  exact if_neg hno

theorem length_encodeItems (items : List Json) : items.length ≤ (encodeItems items).toList.length := by
  induction items with
  | nil => exact Nat.zero_le _
  | cons v rest ih =>
    rw [encodeItems, String.toList_append, String.toList_append, length_append, length_append, length_cons]
    have hcomma : ",".toList.length = 1 := rfl
    omega

theorem length_encodeFields (fields : List (String × Json)) : fields.length ≤ (encodeFields fields).toList.length := by
  induction fields with
  | nil => exact Nat.zero_le _
  | cons f rest ih =>
    rw [encodeFields, String.toList_append, String.toList_append, String.toList_append, String.toList_append,
      length_append, length_append, length_append, length_append, length_cons]
    have hcomma : ",".toList.length = 1 := rfl
    omega

def ReadsBack (depth : Nat) (v : Json) : Prop :=
  ∀ rest, Ends rest → readValue depth ((encode v).toList ++ rest) = some (v, rest)

theorem toList_encodeItems (v : Json) (rest : List Json) (tail : List Char) :
    (encodeItems (v :: rest)).toList ++ tail = ',' :: ((encode v).toList ++ ((encodeItems rest).toList ++ tail)) := by
  have hcomma : ",".toList = [','] := rfl
  simp [encodeItems, hcomma]

theorem toList_encodeFields (k : String) (v : Json) (rest : List (String × Json)) (tail : List Char) :
    (encodeFields ((k, v) :: rest)).toList ++ tail =
      ',' :: '\x22' :: ((escapes k).toList ++ '\x22' :: ':' :: ((encode v).toList ++ ((encodeFields rest).toList ++ tail))) := by
  have hcomma : ",".toList = [','] := rfl
  have hcolon : ":".toList = [':'] := rfl
  rw [← toList_quote]
  simp [encodeFields, hcomma, hcolon]

theorem readItemsWith_encode : ∀ (items : List Json) (v : Json) (n : Nat) (tail : List Char),
    ReadsBack depth v → (∀ item ∈ items, ReadsBack depth item) → items.length < n →
      readItemsWith (readValue depth) n ((encode v).toList ++ ((encodeItems items).toList ++ ']' :: tail)) = some (v :: items, tail)
  | [], v, n + 1, tail, hv, _, _ => by
    have hread := hv (']' :: tail) (ends_of_mark (by decide) tail)
    rw [show (encodeItems []).toList ++ ']' :: tail = ']' :: tail from rfl, readItemsWith, hread, Option.bind_some]
    dsimp only
    rw [skipSpace_of_mark (by decide)]
    rfl
  | item :: items, v, n + 1, tail, hv, hitems, hn => by
    rw [toList_encodeItems, readItemsWith, hv _ (ends_of_mark (by decide) _), Option.bind_some]
    dsimp only
    rw [skipSpace_of_mark (by decide)]
    show ((readItemsWith (readValue depth) n _).map _) = _
    rw [readItemsWith_encode items item n tail (hitems item mem_cons_self)
      (fun other hother => hitems other (mem_cons_of_mem item hother)) (Nat.lt_of_succ_lt_succ hn)]
    rfl

theorem readMembersWith_encode : ∀ (fields : List (String × Json)) (k : String) (v : Json) (n : Nat)
    (before : List (String × Json)) (tail : List Char), ReadsBack depth v → (∀ f ∈ fields, ReadsBack depth f.2) →
      ((before ++ (k, v) :: fields).map Prod.fst).Nodup → fields.length < n →
      readMembersWith (readValue depth) n before ('\x22' :: ((escapes k).toList ++ '\x22' :: ':' ::
        ((encode v).toList ++ ((encodeFields fields).toList ++ '\x7d' :: tail)))) = some (before ++ (k, v) :: fields, tail)
  | [], k, v, n + 1, before, tail, hv, _, hnodup, _ => by
    have hnew : k ∉ before.map Prod.fst := by
      rw [map_append, nodup_append] at hnodup
      exact fun hmem => hnodup.2.2 k hmem k mem_cons_self rfl
    rw [show (encodeFields []).toList ++ '\x7d' :: tail = '\x7d' :: tail from rfl, readMembersWith,
      skipSpace_of_mark (by decide)]
    show (readText _).bind _ = _
    rw [readText_escapes, Option.bind_some]
    dsimp only
    rw [skipSpace_of_mark (by decide)]
    show (readValue depth _).bind _ = _
    rw [hv _ (ends_of_mark (by decide) tail), Option.bind_some]
    dsimp only
    rw [skipSpace_of_mark (by decide), addMember_new hnew]
    rfl
  | (l, w) :: fields, k, v, n + 1, before, tail, hv, hfields, hnodup, hn => by
    have hnew : k ∉ before.map Prod.fst := by
      rw [map_append, nodup_append] at hnodup
      exact fun hmem => hnodup.2.2 k hmem k mem_cons_self rfl
    have hnodup' : (((before ++ [(k, v)]) ++ (l, w) :: fields).map Prod.fst).Nodup := by
      rw [append_assoc]
      exact hnodup
    rw [toList_encodeFields, readMembersWith, skipSpace_of_mark (by decide)]
    show (readText _).bind _ = _
    rw [readText_escapes, Option.bind_some]
    dsimp only
    rw [skipSpace_of_mark (by decide)]
    show (readValue depth _).bind _ = _
    rw [hv _ (ends_of_mark (by decide) _), Option.bind_some]
    dsimp only
    rw [skipSpace_of_mark (by decide), addMember_new hnew]
    show readMembersWith (readValue depth) n _ _ = _
    rw [readMembersWith_encode fields l w n _ tail (hfields (l, w) mem_cons_self)
      (fun other hother => hfields other (mem_cons_of_mem (l, w) hother)) hnodup' (Nat.lt_of_succ_lt_succ hn),
      append_assoc]
    rfl

theorem opens_encode {j : Json} (h : Readable j depth) : ∃ c cs, (encode j).toList = c :: cs ∧
    ¬ (c = ' ' ∨ c = '\t' ∨ c = '\n' ∨ c = '\r') ∧ c ≠ ']' := by
  cases j with
  | null => exact ⟨'n', ['u', 'l', 'l'], rfl, by decide, by decide⟩
  | bool b =>
    cases b
    · exact ⟨'f', ['a', 'l', 's', 'e'], rfl, by decide, by decide⟩
    · exact ⟨'t', ['r', 'u', 'e'], rfl, by decide, by decide⟩
  | num n =>
    cases n with
    | ofNat n =>
      obtain ⟨c, digits, hdigits⟩ := exists_cons_of_ne_nil (@Nat.toDigits_ne_nil n 10)
      have hdigit : c.isDigit = true := @Nat.isDigit_of_mem_toDigits 10 n c (by decide) (by decide) (hdigits ▸ mem_cons_self)
      refine ⟨c, digits, Nat.toList_repr.trans hdigits, ?_, ?_⟩
      · rintro (rfl | rfl | rfl | rfl) <;> exact absurd hdigit (by decide)
      rintro rfl
      exact absurd hdigit (by decide)
    | negSucc n =>
      refine ⟨'-', (Nat.repr (n + 1)).toList, ?_, by decide, by decide⟩
      show ("-" ++ Nat.repr (n + 1)).toList = _
      rw [String.toList_append]
      rfl
  | float literal => exact h.elim
  | str s =>
    refine ⟨'\x22', (escapes s).toList ++ ['\x22'], ?_, by decide, by decide⟩
    rw [encode, ← append_nil (quote s).toList]
    exact toList_quote s []
  | arr items =>
    cases items with
    | nil => exact ⟨'[', [']'], rfl, by decide, by decide⟩
    | cons v items =>
      refine ⟨'[', (encode v ++ encodeItems items).toList ++ [']'], ?_, by decide, by decide⟩
      rw [encode, String.toList_append, String.toList_append]
      rfl
  | obj fields =>
    cases fields with
    | nil => exact ⟨'\x7b', ['\x7d'], rfl, by decide, by decide⟩
    | cons f fields =>
      refine ⟨'\x7b', (quote f.1 ++ (":" ++ (encode f.2 ++ encodeFields fields))).toList ++ ['\x7d'], ?_, by decide, by decide⟩
      rw [encode, String.toList_append, String.toList_append]
      rfl

theorem readsBack_arr {items : List Json} (hreadable : ∀ v ∈ items, Readable v depth)
    (h : ∀ v ∈ items, ReadsBack depth v) : ReadsBack (depth + 1) (.arr items) := by
  intro rest _
  cases items with
  | nil => rfl
  | cons v items =>
    have htext : (encode (.arr (v :: items))).toList ++ rest =
        '[' :: ((encode v).toList ++ ((encodeItems items).toList ++ ']' :: rest)) := by
      have hopen : "[".toList = ['['] := rfl
      have hclose : "]".toList = [']'] := rfl
      simp [encode, hopen, hclose]
    obtain ⟨c, cs, hcs, hblank, hbracket⟩ := opens_encode (hreadable v mem_cons_self)
    have hskip : skipSpace ((encode v).toList ++ ((encodeItems items).toList ++ ']' :: rest)) =
        (encode v).toList ++ ((encodeItems items).toList ++ ']' :: rest) := by
      rw [hcs, cons_append]
      exact dropWhile_cons_of_neg (by simpa using hblank)
    have hlength : items.length < ((encode v).toList ++ ((encodeItems items).toList ++ ']' :: rest)).length + 1 := by
      have hle := length_encodeItems items
      rw [length_append, length_append]
      omega
    have hread := readItemsWith_encode items v _ rest (h v mem_cons_self)
      (fun item hitem => h item (mem_cons_of_mem v hitem)) hlength
    have hskip' : skipSpace ('[' :: ((encode v).toList ++ ((encodeItems items).toList ++ ']' :: rest))) =
        '[' :: ((encode v).toList ++ ((encodeItems items).toList ++ ']' :: rest)) :=
      dropWhile_cons_of_neg (by decide)
    rw [htext, readValue, hskip']
    show (match skipSpace _ with
      | ']' :: rest => some (Json.arr [], rest)
      | rest => (readItemsWith (readValue depth) (rest.length + 1) rest).map fun r : List Json × List Char => (Json.arr r.1, r.2)) = _
    rw [hskip]
    split
    · rename_i heq
      rw [hcs, cons_append] at heq
      exact absurd (List.cons.inj heq).1 hbracket
    · rw [hread]
      rfl

theorem readsBack_obj {fields : List (String × Json)} (hnodup : (fields.map Prod.fst).Nodup)
    (h : ∀ f ∈ fields, ReadsBack depth f.2) : ReadsBack (depth + 1) (.obj fields) := by
  intro rest _
  cases fields with
  | nil => rfl
  | cons f fields =>
    obtain ⟨k, v⟩ := f
    let body := '\x22' :: ((escapes k).toList ++ '\x22' :: ':' :: ((encode v).toList ++
      ((encodeFields fields).toList ++ '\x7d' :: rest)))
    have htext : (encode (.obj ((k, v) :: fields))).toList ++ rest = '\x7b' :: body := by
      have hopen : "\x7b".toList = ['\x7b'] := rfl
      have hclose : "\x7d".toList = ['\x7d'] := rfl
      have hcolon : ":".toList = [':'] := rfl
      show _ = '\x7b' :: ('\x22' :: _)
      rw [← toList_quote]
      simp [encode, hopen, hclose, hcolon]
    have hlength : fields.length < body.length + 1 := by
      have hle := length_encodeFields fields
      simp only [body, length_cons, length_append]
      omega
    have hread := readMembersWith_encode fields k v _ [] rest (h (k, v) mem_cons_self)
      (fun f hf => h f (mem_cons_of_mem (k, v) hf)) hnodup hlength
    have hskip : skipSpace ('\x7b' :: body) = '\x7b' :: body := dropWhile_cons_of_neg (by decide)
    have hskip' : skipSpace body = body := skipSpace_of_mark (by decide) _
    rw [htext, readValue, hskip]
    show (match skipSpace body with
      | '\x7d' :: rest => some (Json.obj [], rest)
      | rest => (readMembersWith (readValue depth) (rest.length + 1) [] rest).map fun r : List (String × Json) × List Char => (Json.obj r.1, r.2)) = _
    rw [hskip']
    show (readMembersWith (readValue depth) (body.length + 1) [] body).map _ = _
    rw [hread]
    rfl

mutual
theorem readsBack_of_readable : ∀ (j : Json) (depth : Nat), Readable j depth → ReadsBack depth j
  | .null, depth, _ => fun rest _ => (readValue_scalar (by decide) (by decide) (by decide) depth _).trans rfl
  | .bool true, depth, _ => fun rest _ => (readValue_scalar (by decide) (by decide) (by decide) depth _).trans rfl
  | .bool false, depth, _ => fun rest _ => (readValue_scalar (by decide) (by decide) (by decide) depth _).trans rfl
  | .num n, depth, _ => fun _ hends => readValue_num n depth hends
  | .float _, _, h => h.elim
  | .str s, depth, _ => fun rest _ => by
    rw [encode, toList_quote, readValue_scalar (by decide) (by decide) (by decide)]
    show (readText _).map _ = _
    rw [readText_escapes]
    rfl
  | .arr _, 0, h => h.elim
  | .arr items, depth + 1, h => readsBack_arr (readableItems_iff.1 h) (readsBack_of_readableItems items depth h)
  | .obj _, 0, h => h.elim
  | .obj fields, depth + 1, h => readsBack_obj h.1 (readsBack_of_readableFields fields depth h.2)

theorem readsBack_of_readableItems : ∀ (items : List Json) (depth : Nat), ReadableItems items depth → ∀ v ∈ items, ReadsBack depth v
  | [], _, _, _, hv => absurd hv not_mem_nil
  | item :: items, depth, h, _, hv => (mem_cons.1 hv).elim (fun heq => heq ▸ readsBack_of_readable item depth h.1)
      (readsBack_of_readableItems items depth h.2 _)

theorem readsBack_of_readableFields : ∀ (fields : List (String × Json)) (depth : Nat), ReadableFields fields depth →
    ∀ f ∈ fields, ReadsBack depth f.2
  | [], _, _, _, hf => absurd hf not_mem_nil
  | (_, v) :: fields, depth, h, _, hf => (mem_cons.1 hf).elim (fun heq => heq ▸ readsBack_of_readable v depth h.1)
      (readsBack_of_readableFields fields depth h.2 _)
end

/-- **What was written is read**, whole. -/
theorem read_encode {j : Json} (h : Readable j 127) : read (encode j) = some j := by
  have hread := readsBack_of_readable j 127 h [] (fun c hc => (nomatch hc))
  rw [append_nil] at hread
  unfold read
  rw [hread]
  rfl

example : read " \x7b\x22a\x22 : [1, -0, 2.50e+1], \x22b\x22: \x22\\uD83D\\uDE00\x22, \x22a\x22: null\x7d " =
    some (.obj [("a", .null), ("b", .str "😀")]) := by decide +kernel

example : read "[01]" = none ∧ read "[1,]" = none ∧ read "[1] 2" = none := by decide

end Json
