import RovaiCore.JsonText
/-!
# Escapes

What the escapes of a string stand for, one character after the other, and how long they can be.
-/
namespace Json

/-! ## Strings -/

def hexValue (c : Char) : Option Nat :=
  if 48 ≤ c.toNat ∧ c.toNat ≤ 57 then some (c.toNat - 48)
  else if 97 ≤ c.toNat ∧ c.toNat ≤ 102 then some (c.toNat - 87)
  else none

def unescape (c : Char) : Option Char :=
  if c.toNat = 0x22 ∨ c.toNat = 0x5c then some c
  else if c = 'b' then some (Char.ofNat 0x08)
  else if c = 't' then some (Char.ofNat 0x09)
  else if c = 'n' then some (Char.ofNat 0x0a)
  else if c = 'f' then some (Char.ofNat 0x0c)
  else if c = 'r' then some (Char.ofNat 0x0d)
  else none

theorem toList_escapes (s : String) : (escapes s).toList = s.toList.flatMap fun c => (escape c).toList := by
  unfold escapes
  induction s.toList with
  | nil => rfl
  | cons c cs ih => rw [List.foldr_cons, String.toList_append, ih, List.flatMap_cons]

/-! ## Lengths -/

theorem utf8ByteSize_escape_le (c : Char) : (escape c).utf8ByteSize ≤ 6 := by
  have hhex : ∀ n < 16, (hexDigit n).utf8Size = 1 := by decide
  unfold escape
  repeat' split
  all_goals first | decide | skip
  · rename_i h
    rw [String.utf8ByteSize_append, String.utf8ByteSize_append, String.utf8ByteSize_singleton, String.utf8ByteSize_singleton,
      hhex _ (by omega), hhex _ (by omega)]
    decide
  · rw [String.utf8ByteSize_singleton]
    exact (Char.utf8Size_le_four c).trans (by decide)

theorem escapedBytes_le (s : String) : escapedBytes s ≤ 6 * s.length := by
  have hsum : ∀ cs : List Char, (cs.map fun c => (escape c).utf8ByteSize).sum ≤ 6 * cs.length := by
    intro cs
    induction cs with
    | nil => exact Nat.le_refl 0
    | cons c cs ih =>
      rw [List.map_cons, List.sum_cons, List.length_cons]
      have hone := utf8ByteSize_escape_le c
      omega
  unfold escapedBytes escapes
  rw [utf8ByteSize_foldr_escape, ← String.length_toList]
  exact hsum s.toList

end Json
