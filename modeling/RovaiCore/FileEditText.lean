import RovaiCore.FileEdit
/-!
# The bytes of an edited file

What `decode` accepts is the encoding of a text: the mark, and the line ends in the file's spelling. `encode` undoes `decode`
(`encode_decode`).
-/
namespace Rovai.FileEdit

open Newlines (replaceCrlf hasCrlf foldCrlf expandLf)
open List

/-! ## Texts and bytes -/

variable {bytes : ByteArray}

theorem fromUTF8?_eq_some {s : String} : String.fromUTF8? bytes = some s ↔ bytes = s.toByteArray := by
  unfold String.fromUTF8?
  constructor
  · intro h
    split at h
    · exact congrArg String.toByteArray (Option.some.inj h)
    · cases h
  · rintro rfl
    rw [dif_pos s.isValidUTF8]
    rfl

theorem toByteArray_mark (t : List Char) :
    (String.ofList (byteOrderMark :: t)).toByteArray = bomBytes ++ (String.ofList t).toByteArray := by
  rw [String.toByteArray_ofList, String.toByteArray_ofList, utf8Encode_cons]
  rfl

theorem size_encode_append (a b : List Char) : (a ++ b).utf8Encode.size = a.utf8Encode.size + b.utf8Encode.size := by
  rw [utf8Encode_append, ByteArray.size_append]

theorem size_expandLf (t : List Char) : t.utf8Encode.size ≤ (expandLf t).utf8Encode.size := by
  induction t with
  | nil => exact Nat.le_refl _
  | cons c t ih =>
    have hcons : (c :: t).utf8Encode.size = [c].utf8Encode.size + t.utf8Encode.size := size_encode_append [c] t
    by_cases hc : c = '\n'
    · subst hc
      have hpair : (expandLf ('\n' :: t)).utf8Encode.size = ['\r', '\n'].utf8Encode.size + (expandLf t).utf8Encode.size :=
        size_encode_append ['\r', '\n'] (expandLf t)
      have hline : ['\n'].utf8Encode.size ≤ ['\r', '\n'].utf8Encode.size := by decide
      omega
    · have hone : (expandLf (c :: t)).utf8Encode.size = [c].utf8Encode.size + (expandLf t).utf8Encode.size := by
        rw [Newlines.expandLf_cons hc]
        exact size_encode_append [c] (expandLf t)
      omega

theorem utf8ByteSize_le_encode (bom crlf : Bool) (text : String) : text.utf8ByteSize ≤ (encode bom crlf text).size := by
  have hsize : text.utf8ByteSize = text.toList.utf8Encode.size := by
    rw [String.utf8Encode_toList]
    rfl
  have hbody : text.utf8ByteSize ≤ (if crlf then String.ofList (expandLf text.toList) else text).toByteArray.size := by
    cases crlf with
    | false => exact Nat.le_refl _
    | true =>
      rw [if_pos rfl, String.toByteArray_ofList, hsize]
      exact size_expandLf text.toList
  unfold encode
  rw [ByteArray.size_append]
  omega

/-! ## The characters of a file -/

def marked (bom : Bool) (raw : List Char) : List Char :=
  if bom then byteOrderMark :: raw else raw

def spelled (crlf : Bool) (text : List Char) : List Char :=
  if crlf then expandLf text else text

theorem encode_eq (bom crlf : Bool) (text : String) :
    encode bom crlf text = (String.ofList (marked bom (spelled crlf text.toList))).toByteArray := by
  have hbody : (if crlf then String.ofList (expandLf text.toList) else text) = String.ofList (spelled crlf text.toList) := by
    cases crlf
    · exact String.ofList_toList.symm
    · rfl
  unfold encode
  rw [hbody]
  cases bom
  · exact ByteArray.empty_append
  · exact (toByteArray_mark _).symm

variable {raw : List Char} {bom : Bool}

theorem mem_marked {c : Char} (hc : c ≠ byteOrderMark) : c ∈ marked bom raw ↔ c ∈ raw := by
  cases bom
  · exact Iff.rfl
  · exact ⟨fun h => (mem_cons.1 h).resolve_left hc, mem_cons_of_mem byteOrderMark⟩

/-! ## Reading -/

/-- Line ends in one spelling: no `\r` alone, and no `\n` alone beside a pair. -/
def OneSpelling (raw : List Char) : Prop :=
  '\r' ∉ foldCrlf raw ∧ (hasCrlf raw = true → '\n' ∉ replaceCrlf [] raw)

theorem stripMark_marked (hmark : bom = true ∨ raw.head? ≠ some byteOrderMark) :
    stripMark (marked bom raw) = (bom, raw) := by
  cases bom with
  | true => rw [marked, if_pos rfl, stripMark, if_pos rfl]
  | false =>
    cases raw with
    | nil => rfl
    | cons c rest =>
      rw [marked, if_neg Bool.false_ne_true, stripMark, if_neg]
      exact fun hc => hmark.elim Bool.false_ne_true fun hne => hne (congrArg some hc)

theorem marked_stripMark (whole : List Char) : marked (stripMark whole).1 (stripMark whole).2 = whole := by
  cases whole with
  | nil => rfl
  | cons c rest =>
    by_cases hc : c = byteOrderMark
    · subst hc
      rfl
    · rw [stripMark, if_neg hc]
      rfl

variable {decoded : Decoded}

/-- **What `decode` accepts**: a text without a zero, with the mark taken off and its line ends in one spelling. -/
theorem decode_ok (h : decode bytes = .ok decoded) :
    ∃ raw, bytes = (String.ofList (marked decoded.bom raw)).toByteArray ∧ '\x00' ∉ raw ∧ OneSpelling raw ∧
      decoded.text = String.ofList (foldCrlf raw) ∧ decoded.crlf = hasCrlf raw := by
  unfold decode at h
  split at h
  · cases h
  rename_i whole hwhole
  dsimp only at h
  split at h
  · cases h
  rename_i hzero
  split at h
  · cases h
  rename_i hlines
  cases h
  rw [not_or, not_and] at hlines
  refine ⟨_, ?_, fun hmem => hzero ?_, hlines, rfl, rfl⟩
  · rw [marked_stripMark, String.ofList_toList]
    exact fromUTF8?_eq_some.1 hwhole
  · rw [← marked_stripMark whole.toList]
    exact (mem_marked (by decide)).2 hmem

theorem decode_chars (h : decode bytes = .ok decoded) :
    '\x00' ∉ decoded.text.toList ∧ '\r' ∉ decoded.text.toList := by
  obtain ⟨raw, -, hzero, hlines, htext, -⟩ := decode_ok h
  rw [htext, String.toList_ofList]
  refine ⟨fun hmem => ?_, hlines.1⟩
  exact (Newlines.mem_foldCrlf hmem).elim (fun h => absurd h (by decide)) hzero

theorem decode_marked (hzero : '\x00' ∉ raw) (hlines : OneSpelling raw)
    (hmark : bom = true ∨ raw.head? ≠ some byteOrderMark) :
    decode (String.ofList (marked bom raw)).toByteArray = .ok ⟨String.ofList (foldCrlf raw), bom, hasCrlf raw⟩ := by
  have hzero' : '\x00' ∉ marked bom raw := fun hmem => hzero ((mem_marked (by decide)).1 hmem)
  have hlines' : ¬ ('\r' ∈ foldCrlf raw ∨ hasCrlf raw = true ∧ '\n' ∈ replaceCrlf [] raw) := by
    rintro (hmem | ⟨hcrlf, hmem⟩)
    · exact hlines.1 hmem
    · exact hlines.2 hcrlf hmem
  unfold decode
  rw [fromUTF8?_eq_some.2 rfl]
  dsimp only
  rw [String.toList_ofList, if_neg hzero', stripMark_marked hmark]
  dsimp only
  rw [if_neg hlines']

/-! ## Both ways -/

/-- **A text that was read is written as the bytes that it was read from.** -/
theorem encode_decode (h : decode bytes = .ok decoded) :
    encode decoded.bom decoded.crlf decoded.text = bytes := by
  obtain ⟨raw, hbytes, -, ⟨hreturn, hline⟩, htext, hcrlf⟩ := decode_ok h
  rw [encode_eq, hbytes, htext, hcrlf, String.toList_ofList]
  congr 3
  cases hpairs : hasCrlf raw with
  | false => exact Newlines.foldCrlf_of_none hpairs
  | true => exact Newlines.expandLf_fold hreturn (hline hpairs)

theorem oneSpelling_spelled (crlf : Bool) {text : List Char} (h : '\r' ∉ text) :
    OneSpelling (spelled crlf text) ∧ foldCrlf (spelled crlf text) = text := by
  cases crlf with
  | false =>
    have hnone := Newlines.hasCrlf_of_notMem h
    have hfold : foldCrlf text = text := Newlines.foldCrlf_of_none hnone
    refine ⟨⟨?_, fun hcrlf => ?_⟩, hfold⟩
    · show '\r' ∉ foldCrlf text
      rw [hfold]
      exact h
    · exact absurd (hnone.symm.trans hcrlf) Bool.false_ne_true
  | true =>
    have hfold : foldCrlf (expandLf text) = text := Newlines.foldCrlf_expandLf h
    refine ⟨⟨?_, fun _ => Newlines.notMem_removed h⟩, hfold⟩
    show '\r' ∉ foldCrlf (expandLf text)
    rw [hfold]
    exact h

theorem notMem_spelled {crlf : Bool} {text : List Char} (h : '\x00' ∉ text) : '\x00' ∉ spelled crlf text := by
  cases crlf with
  | false => exact h
  | true =>
    intro hmem
    obtain ⟨c, hc, hmem⟩ := mem_flatMap.1 hmem
    split at hmem
    · exact absurd hmem (by decide)
    rw [mem_singleton.1 hmem] at h
    exact h hc

theorem head?_spelled (crlf : Bool) (text : List Char) :
    (spelled crlf text).head? = some byteOrderMark ↔ text.head? = some byteOrderMark := by
  cases crlf with
  | false => exact Iff.rfl
  | true =>
    cases text with
    | nil => exact Iff.rfl
    | cons c rest =>
      by_cases hc : c = '\n'
      · subst hc
        exact ⟨fun h => absurd (Option.some.inj h) (by decide), fun h => absurd (Option.some.inj h) (by decide)⟩
      · show (expandLf (c :: rest)).head? = _ ↔ _
        rw [Newlines.expandLf_cons hc, head?_cons, head?_cons]

/-- **A text that was written is read as it was**, where the file has a mark or the text does not start with one. -/
theorem decode_encode {bom crlf : Bool} {text : String} (hzero : '\x00' ∉ text.toList) (hreturn : '\r' ∉ text.toList)
    (hmark : bom = true ∨ text.toList.head? ≠ some byteOrderMark) :
    ∃ crlf', decode (encode bom crlf text) = .ok ⟨text, bom, crlf'⟩ := by
  obtain ⟨hlines, hfold⟩ := oneSpelling_spelled crlf hreturn
  have hmark' : bom = true ∨ (spelled crlf text.toList).head? ≠ some byteOrderMark :=
    hmark.imp_right fun hne heq => hne ((head?_spelled crlf _).1 heq)
  refine ⟨hasCrlf (spelled crlf text.toList), ?_⟩
  rw [encode_eq, decode_marked (notMem_spelled hzero) hlines hmark', hfold, String.ofList_toList]

/-- **A text that starts with a mark leaves it to a file without one**: the file has a mark afterwards. -/
theorem decode_taken {crlf : Bool} {text : String} (htaken : text.toList.head? = some byteOrderMark)
    (h : decode (encode false crlf text) = .ok decoded) : decoded.bom = true := by
  have hhead := (head?_spelled crlf text.toList).2 htaken
  rw [encode_eq] at h
  unfold decode at h
  rw [fromUTF8?_eq_some.2 rfl] at h
  dsimp only at h
  split at h
  · cases h
  split at h
  · cases h
  cases h
  dsimp only
  rw [String.toList_ofList]
  obtain ⟨rest, hrest⟩ := head?_eq_some_iff.1 hhead
  show (stripMark (spelled crlf text.toList)).1 = true
  rw [hrest]
  rfl

/-! ## The parts of an imprint -/

theorem append_stop_inj {α : Type} {stop : α} : ∀ {a b r s : List α}, stop ∉ a → stop ∉ b → a ++ stop :: r = b ++ stop :: s →
    a = b ∧ r = s
  | [], [], _, _, _, _, h => ⟨rfl, (List.cons.inj h).2⟩
  | [], y :: _, _, _, _, hb, h => absurd ((List.cons.inj h).1 ▸ mem_cons_self) hb
  | x :: _, [], _, _, ha, _, h => absurd ((List.cons.inj h).1 ▸ mem_cons_self) ha
  | x :: a, y :: b, r, s, ha, hb, h => by
    obtain ⟨rfl, htail⟩ := List.cons.inj h
    obtain ⟨rfl, rfl⟩ := append_stop_inj (fun hmem => ha (mem_cons_of_mem x hmem)) (fun hmem => hb (mem_cons_of_mem x hmem)) htail
    exact ⟨rfl, rfl⟩

theorem isDigit_of_mem_toString {n : Nat} {c : Char} (h : c ∈ (toString n).toList) : c.isDigit = true := by
  rw [Nat.toString_eq_repr, Nat.toList_repr] at h
  exact Nat.isDigit_of_mem_toDigits (by decide) (by decide) h

theorem toString_inj {m n : Nat} (h : (toString m).toList = (toString n).toList) : m = n := by
  rw [Nat.toString_eq_repr, Nat.toString_eq_repr, Nat.toList_repr, Nat.toList_repr] at h
  rw [← @Nat.ofDigitChars_toDigits 10 m (by decide) (by decide), h, Nat.ofDigitChars_toDigits (by decide) (by decide)]

theorem toList_identity (dev ino : Nat) : (identity dev ino).toList = (toString dev).toList ++ ':' :: (toString ino).toList := by
  unfold identity
  rw [String.toList_append, String.toList_append, append_assoc]
  rfl

theorem identity_inj {dev ino dev' ino' : Nat} (h : identity dev ino = identity dev' ino') : dev = dev' ∧ ino = ino' := by
  have hcolon : ∀ n : Nat, ':' ∉ (toString n).toList := fun n hmem => absurd (isDigit_of_mem_toString hmem) (by decide)
  have hlist := congrArg String.toList h
  rw [toList_identity, toList_identity] at hlist
  obtain ⟨hdev, hino⟩ := append_stop_inj (hcolon dev) (hcolon dev') hlist
  exact ⟨toString_inj hdev, toString_inj hino⟩

theorem bytes_toList (s : String) : s.toByteArray.data.toList = s.toList.flatMap String.utf8EncodeChar := by
  rw [← String.utf8Encode_toList, utf8Encode, data_toByteArray]

theorem notMem_identity (dev ino : Nat) : (0x50 : UInt8) ∉ (identity dev ino).toByteArray.data.toList := by
  have hdigit : ∀ c : Char, c.isDigit = true ∨ c = ':' → (0x50 : UInt8) ∉ String.utf8EncodeChar c := by
    intro c hc hmem
    have hrange : 48 ≤ c.val.toNat ∧ c.val.toNat ≤ 58 := by
      rcases hc with hc | rfl
      · rw [Char.isDigit, Bool.and_eq_true, decide_eq_true_eq, decide_eq_true_eq] at hc
        exact ⟨hc.1, Nat.le_succ_of_le hc.2⟩
      · decide
    rw [String.utf8EncodeChar, if_pos (by omega), mem_singleton] at hmem
    have hval : (0x50 : UInt8).toNat = c.val.toNat := by
      rw [hmem, UInt8.toNat_ofNat']
      omega
    have h80 : (0x50 : UInt8).toNat = 80 := rfl
    omega
  rw [bytes_toList, mem_flatMap]
  rintro ⟨c, hc, hmem⟩
  rw [toList_identity, mem_append, mem_cons] at hc
  refine hdigit c ?_ hmem
  rcases hc with hc | rfl | hc
  · exact .inl (isDigit_of_mem_toString hc)
  · exact .inr rfl
  · exact .inl (isDigit_of_mem_toString hc)

/-- **Files of different identity have different imprints**: the identity ends where the permissions begin. -/
theorem imprint_ne {w : Outside} (hpermissions : ∀ mode, (w.debugPermissions mode).toList.head? = some 'P') {key : String}
    {node node' : Node} (h : ¬ (node.dev = node'.dev ∧ node.ino = node'.ino)) : w.imprint key node ≠ w.imprint key node' := by
  intro heq
  have hshown : ∀ mode, ∃ rest, (w.debugPermissions mode).toByteArray.data.toList = 0x50 :: rest := by
    intro mode
    obtain ⟨rest, hrest⟩ := head?_eq_some_iff.1 (hpermissions mode)
    refine ⟨rest.flatMap String.utf8EncodeChar, ?_⟩
    rw [bytes_toList, hrest]
    rfl
  obtain ⟨r, hr⟩ := hshown node.mode
  obtain ⟨r', hr'⟩ := hshown node'.mode
  have hlist := congrArg (fun bytes => bytes.data.toList) heq
  simp only [Outside.imprint, ByteArray.data_append, Array.toList_append, hr, hr', append_assoc, append_cancel_left_eq,
    cons_append] at hlist
  obtain ⟨hidentity, -⟩ := append_stop_inj (notMem_identity node.dev node.ino) (notMem_identity node'.dev node'.ino) hlist
  refine h (identity_inj (String.toByteArray_inj.1 ?_))
  exact ByteArray.ext (Array.toList_inj.1 hidentity)

end Rovai.FileEdit
