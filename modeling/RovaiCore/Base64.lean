import Mathlib.Data.List.Basic
/-!
# Base64 without padding

Bytes as digits below 64, three bytes in four digits, and the digits as characters of the URL alphabet.  What was encoded is
decoded, and the length is four thirds, rounded up.
-/
namespace Base64

/-! ## Digits -/

def toDigits : List (Fin 256) → List (Fin 64)
  | a :: b :: c :: rest =>
    Fin.ofNat 64 (a / 4) :: Fin.ofNat 64 (a % 4 * 16 + b / 16) :: Fin.ofNat 64 (b % 16 * 4 + c / 64) :: Fin.ofNat 64 (c % 64) ::
      toDigits rest
  | [a, b] => [Fin.ofNat 64 (a / 4), Fin.ofNat 64 (a % 4 * 16 + b / 16), Fin.ofNat 64 (b % 16 * 4)]
  | [a] => [Fin.ofNat 64 (a / 4), Fin.ofNat 64 (a % 4 * 16)]
  | [] => []

def ofDigits : List (Fin 64) → Option (List (Fin 256))
  | w :: x :: y :: z :: rest =>
    (ofDigits rest).map fun bytes => Fin.ofNat 256 (w * 4 + x / 16) :: Fin.ofNat 256 (x % 16 * 16 + y / 4) ::
      Fin.ofNat 256 (y % 4 * 64 + z) :: bytes
  | [w, x, y] =>
    if y.val % 4 = 0 then some [Fin.ofNat 256 (w * 4 + x / 16), Fin.ofNat 256 (x % 16 * 16 + y / 4)] else none
  | [w, x] => if x.val % 16 = 0 then some [Fin.ofNat 256 (w * 4 + x / 16)] else none
  | [_] => none
  | [] => some []

theorem ofDigits_toDigits : ∀ bytes : List (Fin 256), ofDigits (toDigits bytes) = some bytes
  | a :: b :: c :: rest => by
    have ha := a.isLt
    have hb := b.isLt
    have hc := c.isLt
    rw [toDigits, ofDigits, ofDigits_toDigits rest, Option.map_some]
    congr 2
    · ext
      simp only [Fin.val_ofNat]
      omega
    · congr 1
      · ext
        simp only [Fin.val_ofNat]
        omega
      · congr 1
        ext
        simp only [Fin.val_ofNat]
        omega
  | [a, b] => by
    have ha := a.isLt
    have hb := b.isLt
    rw [toDigits, ofDigits, if_pos (by simp only [Fin.val_ofNat]; omega)]
    congr 2
    · ext
      simp only [Fin.val_ofNat]
      omega
    · congr 1
      ext
      simp only [Fin.val_ofNat]
      omega
  | [a] => by
    have ha := a.isLt
    rw [toDigits, ofDigits, if_pos (by simp only [Fin.val_ofNat]; omega)]
    congr 2
    ext
    simp only [Fin.val_ofNat]
    omega
  | [] => rfl

theorem length_toDigits : ∀ bytes : List (Fin 256), (toDigits bytes).length = (4 * bytes.length + 2) / 3
  | a :: b :: c :: rest => by
    rw [toDigits]
    simp only [List.length_cons, length_toDigits rest]
    omega
  | [_, _] => by simp [toDigits]
  | [_] => by simp [toDigits]
  | [] => rfl

/-! ## Characters -/

def alphabet : List Char := "ABCDEFGHIJKLMNOPQRSTUVWXYZabcdefghijklmnopqrstuvwxyz0123456789-_".toList

def digitChar (d : Fin 64) : Char := alphabet.getD d 'A'

def charDigit (c : Char) : Option (Fin 64) :=
  (alphabet.idxOf? c).map (Fin.ofNat 64)

theorem charDigit_digitChar : ∀ d : Fin 64, charDigit (digitChar d) = some d := by decide +kernel

theorem size_digitChar : ∀ d : Fin 64, (digitChar d).utf8Size = 1 := by decide +kernel

variable (bytes : List (Fin 256))

def encode : String := String.ofList ((toDigits bytes).map digitChar)

def decode (text : String) : Option (List (Fin 256)) := (text.toList.mapM charDigit).bind ofDigits

/-- **What was encoded is decoded.** -/
theorem decode_encode : decode (encode bytes) = some bytes := by
  have hchars : ∀ digits : List (Fin 64), (digits.map digitChar).mapM charDigit = some digits := by
    intro digits
    induction digits with
    | nil => rfl
    | cons d digits ih => rw [List.map_cons, List.mapM_cons, charDigit_digitChar, ih]; rfl
  unfold decode encode
  rw [String.toList_ofList, hchars, Option.bind_some, ofDigits_toDigits]

theorem utf8ByteSize_encode : (encode bytes).utf8ByteSize = (4 * bytes.length + 2) / 3 := by
  have hsize : ∀ digits : List (Fin 64), (String.ofList (digits.map digitChar)).utf8ByteSize = digits.length := by
    intro digits
    induction digits with
    | nil => rfl
    | cons d digits ih =>
      rw [List.map_cons, ← List.singleton_append, String.ofList_append, String.utf8ByteSize_append, ih, List.length_cons]
      have hone : (String.ofList [digitChar d]).utf8ByteSize = 1 := by
        rw [← String.singleton_eq_ofList, String.utf8ByteSize_singleton, size_digitChar]
      omega
  unfold encode
  rw [hsize, length_toDigits]

end Base64
