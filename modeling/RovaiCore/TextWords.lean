import RovaiCore.ReportedPath
/-!
# Words, numbers and printed lines
-/
namespace Rovai

open Lines (Text LF splitInclusive stripLineEnding textLines)
open List

def wordsFrom : Text → Text → List Text
  | word, [] => if word.isEmpty then [] else [word]
  | word, c :: cs =>
    if isWhitespace c then (if word.isEmpty then wordsFrom [] cs else word :: wordsFrom [] cs) else wordsFrom (word ++ [c]) cs

def parseU64 (t : Text) : Option Nat :=
  let digits := if t.head? = some '+' then t.tail else t
  if digits.isEmpty || !digits.all Char.isDigit then none
  else
    let n := Nat.ofDigitChars 10 digits 0
    if n < 2 ^ 64 then some n else none

def received (l : Text) : Text := stripLineEnding (l ++ [LF])

def printLines (lines : List Text) : Text := lines.flatMap (· ++ [LF])

/-! ## Words -/

theorem wordsFrom_word : ∀ (u w rest : Text), (∀ c ∈ u, isWhitespace c = false) → w ++ u ≠ [] →
    wordsFrom w (u ++ ' ' :: rest) = (w ++ u) :: wordsFrom [] rest
  | [], w, rest, _, hne => by
    rw [append_nil] at hne ⊢
    rw [nil_append, wordsFrom, if_pos (by decide), if_neg (by simpa using hne)]
  | c :: u, w, rest, hu, _ => by
    rw [cons_append, wordsFrom, if_neg (by simp [hu c mem_cons_self]),
      wordsFrom_word u (w ++ [c]) rest (fun c hc => hu c (mem_cons_of_mem _ hc)) (by simp)]
    simp

theorem wordsFrom_last : ∀ (u w : Text), (∀ c ∈ u, isWhitespace c = false) → w ++ u ≠ [] → wordsFrom w u = [w ++ u]
  | [], w, _, hne => by
    rw [append_nil] at hne ⊢
    rw [wordsFrom, if_neg (by simpa using hne)]
  | c :: u, w, hu, _ => by
    rw [wordsFrom, if_neg (by simp [hu c mem_cons_self]),
      wordsFrom_last u (w ++ [c]) (fun c hc => hu c (mem_cons_of_mem _ hc)) (by simp)]
    simp

theorem wordsFrom_ne_nil : ∀ (t w : Text), w ≠ [] → wordsFrom w t ≠ []
  | [], w, hw => by simp [wordsFrom, hw]
  | c :: t, w, hw => by
    rw [wordsFrom]
    split
    · rw [if_neg (by simpa using hw)]
      exact cons_ne_nil _ _
    · exact wordsFrom_ne_nil t (w ++ [c]) (by simp)

theorem ne_nil_of_mem_wordsFrom : ∀ (t w : Text), ∀ x ∈ wordsFrom w t, x ≠ []
  | [], w, x, hx => by
    by_cases hw : w = [] <;> simp [wordsFrom, hw] at hx
    rwa [hx]
  | c :: t, w, x, hx => by
    rw [wordsFrom] at hx
    split at hx
    · split at hx
      · exact ne_nil_of_mem_wordsFrom t [] x hx
      · rename_i hw
        rcases mem_cons.1 hx with rfl | hx
        · simpa using hw
        · exact ne_nil_of_mem_wordsFrom t [] x hx
    · exact ne_nil_of_mem_wordsFrom t _ x hx

/-! ## Numbers -/

theorem isDigit_of_mem {n : Nat} : ∀ c ∈ Nat.toDigits 10 n, c.isDigit = true :=
  fun _ hc => Nat.isDigit_of_mem_toDigits (by decide) (by decide) hc

theorem digit_range {c : Char} (h : c.isDigit = true) : 48 ≤ c.toNat ∧ c.toNat ≤ 57 := by
  simp only [Char.isDigit, Bool.and_eq_true, decide_eq_true_eq] at h
  exact ⟨h.1, h.2⟩

theorem notWhitespace_of_digit {c : Char} (h : c.isDigit = true) : isWhitespace c = false := by
  have hrange := digit_range h
  simp [isWhitespace]
  omega

theorem parseU64_toDigits {n : Nat} (h : n < 2 ^ 64) : parseU64 (Nat.toDigits 10 n) = some n := by
  have hplus : (Nat.toDigits 10 n).head? ≠ some '+' := fun heq =>
    absurd (isDigit_of_mem '+' (mem_of_head? heq)) (by decide)
  have hall : (Nat.toDigits 10 n).all Char.isDigit = true := all_eq_true.2 isDigit_of_mem
  rw [parseU64]
  simp only [if_neg hplus, hall, Nat.ofDigitChars_ten_toDigits, if_pos h]
  simp [Nat.toDigits_ne_nil]

/-! ## Lines -/

theorem received_eq (l : Text) : received l = if l.getLast? = some '\r' then l.dropLast else l := by
  simp [received, stripLineEnding]

theorem splitInclusive_printLines : ∀ (lines : List Text) (t : Text), (∀ l ∈ lines, LF ∉ l) →
    splitInclusive (printLines lines ++ t) = lines.map (· ++ [LF]) ++ splitInclusive t
  | [], _, _ => rfl
  | l :: lines, t, h => by
    have hrest := splitInclusive_printLines lines t fun l hl => h l (mem_cons_of_mem _ hl)
    rw [printLines, flatMap_cons, append_assoc, append_assoc, singleton_append,
      Lines.splitInclusive_line l _ (h l mem_cons_self)]
    exact congrArg _ hrest

theorem textLines_printLines {lines : List Text} (h : ∀ l ∈ lines, LF ∉ l) :
    textLines (printLines lines) = lines.map received := by
  have hsplit := splitInclusive_printLines lines [] h
  rw [append_nil] at hsplit
  rw [textLines, hsplit]
  simp [received, splitInclusive]

theorem isPrefixOf_received {p : Text} (hlf : LF ∉ p) (hcr : '\r' ∉ p) (l : Text) :
    p.isPrefixOf (received l) = p.isPrefixOf l := by
  rw [received, Lines.isPrefixOf_stripLineEnding hlf hcr, Lines.isPrefixOf_append_cons LF p l [] hlf]

end Rovai
