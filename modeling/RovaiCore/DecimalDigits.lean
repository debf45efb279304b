import Mathlib.Data.List.DropRight
import Mathlib.Tactic.Ring
/-!
# Strings of decimal digits

What a string of digits counts, what trimming and padding with zeros do to it, its order, and the sum and the difference of two
strings of one length, digit by digit from the right.
-/
namespace Digits

open List

abbrev value (s : List Char) : Nat := Nat.ofDigitChars 10 s 0

def AllDigits (s : List Char) : Prop := ∀ c ∈ s, c.isDigit = true

def digitVal (c : Char) : Nat := c.toNat - '0'.toNat

variable {s t : List Char}

/-! ## Values -/

theorem digitVal_lt {c : Char} (h : c.isDigit = true) : digitVal c < 10 := by
  have hle : c.toNat ≤ 57 := (Char.isDigit_iff_toNat.1 h).2
  have hzero : '0'.toNat = 48 := rfl
  unfold digitVal
  omega

theorem digitChar_digitVal {c : Char} (h : c.isDigit = true) : (digitVal c).digitChar = c := by
  have hbounds := Char.isDigit_iff_toNat.1 h
  have hzero : '0'.toNat = 48 := rfl
  apply Char.toNat_inj.1
  rw [Nat.toNat_digitChar_of_lt_ten (digitVal_lt h)]
  unfold digitVal
  omega

theorem digitVal_digitChar {n : Nat} (h : n < 10) : digitVal n.digitChar = n :=
  Nat.toNat_digitChar_sub_48_of_lt_ten h

theorem isDigit_digitChar {n : Nat} (h : n < 10) : n.digitChar.isDigit = true := by
  rw [Nat.isDigit_digitChar]
  exact decide_eq_true h

theorem digitVal_inj {c d : Char} (hc : c.isDigit = true) (hd : d.isDigit = true) (h : digitVal c = digitVal d) : c = d := by
  rw [← digitChar_digitVal hc, ← digitChar_digitVal hd, h]

theorem value_append (s t : List Char) : value (s ++ t) = 10 ^ t.length * value s + value t := by
  unfold value
  rw [Nat.ofDigitChars_append, Nat.ofDigitChars_eq_ofDigitChars_zero]

theorem value_cons (c : Char) (s : List Char) : value (c :: s) = 10 ^ s.length * digitVal c + value s := by
  have hone : value [c] = digitVal c := by simp [value, Nat.ofDigitChars_cons, Nat.ofDigitChars_nil, digitVal]
  rw [← singleton_append, value_append, hone]

theorem value_snoc (s : List Char) (c : Char) : value (s ++ [c]) = 10 * value s + digitVal c := by
  rw [value_append, value_cons]
  simp [value, Nat.ofDigitChars_nil]

theorem value_zeros (n : Nat) : value (List.replicate n '0') = 0 :=
  Nat.ofDigitChars_replicate_zero

theorem AllDigits.append (hs : AllDigits s) (ht : AllDigits t) : AllDigits (s ++ t) :=
  fun c hc => (mem_append.1 hc).elim (hs c) (ht c)

theorem allDigits_zeros (n : Nat) : AllDigits (List.replicate n '0') := by
  intro c hc
  rw [(mem_replicate.1 hc).2]
  rfl

theorem value_lt : ∀ {s : List Char}, AllDigits s → value s < 10 ^ s.length
  | [], _ => Nat.one_pos
  | c :: s, h => by
    have ih : value s < 10 ^ s.length := value_lt fun d hd => h d (mem_cons_of_mem c hd)
    have hc : digitVal c < 10 := digitVal_lt (h c mem_cons_self)
    rw [value_cons, length_cons, Nat.pow_succ]
    have hmul : 10 ^ s.length * digitVal c ≤ 10 ^ s.length * 9 := Nat.mul_le_mul_left _ (by omega)
    omega

theorem value_eq_zero_iff : ∀ {s : List Char}, AllDigits s → (value s = 0 ↔ ∀ c ∈ s, c = '0')
  | [], _ => iff_of_true rfl fun _ hc => (not_mem_nil hc).elim
  | c :: s, h => by
    have ih := value_eq_zero_iff fun d hd => h d (mem_cons_of_mem c hd)
    have hc : digitVal c = 0 ↔ c = '0' :=
      ⟨fun hzero => digitVal_inj (h c mem_cons_self) rfl hzero, fun hzero => by rw [hzero]; rfl⟩
    rw [value_cons, Nat.add_eq_zero_iff, Nat.mul_eq_zero, ih, hc, or_iff_right (Nat.pow_pos (by decide)).ne',
      forall_mem_cons]

/-! ## Zeros -/

def trimZeros (s : List Char) : List Char := s.dropWhile (· == '0')

def trimEndZeros (s : List Char) : List Char := s.rdropWhile (· == '0')

theorem AllDigits.trimZeros (h : AllDigits s) : AllDigits (trimZeros s) :=
  fun c hc => h c ((dropWhile_suffix _).subset hc)

theorem AllDigits.trimEndZeros (h : AllDigits s) : AllDigits (trimEndZeros s) :=
  fun c hc => h c ((List.rdropWhile_prefix _ _).subset hc)

theorem AllDigits.leftpad (h : AllDigits s) (n : Nat) : AllDigits (s.leftpad n '0') :=
  (allDigits_zeros _).append h

theorem AllDigits.rightpad (h : AllDigits s) (n : Nat) : AllDigits (s.rightpad n '0') :=
  h.append (allDigits_zeros _)

theorem value_trimZeros : ∀ s : List Char, value (trimZeros s) = value s
  | [] => rfl
  | c :: s => by
    unfold trimZeros
    rw [dropWhile_cons]
    split
    · rename_i hc
      have ih := value_trimZeros s
      unfold trimZeros at ih
      rw [ih, value_cons, eq_of_beq hc]
      simp [digitVal]
    · rfl

theorem trimZeros_head (s : List Char) : (trimZeros s).head? ≠ some '0' := by
  intro h
  unfold trimZeros at h
  have hnot := head?_dropWhile_not (· == '0') s
  rw [h] at hnot
  exact absurd hnot (by decide)

theorem value_leftpad (n : Nat) (s : List Char) : value (s.leftpad n '0') = value s := by
  rw [leftpad, value_append, value_zeros, Nat.mul_zero, Nat.zero_add]

theorem value_rightpad (n : Nat) (s : List Char) : value (s.rightpad n '0') = 10 ^ (n - s.length) * value s := by
  rw [rightpad, value_append, value_zeros, length_replicate, Nat.add_zero]

theorem trimEndZeros_append (s : List Char) : ∃ k, s = trimEndZeros s ++ List.replicate k '0' := by
  refine ⟨(s.rtakeWhile (· == '0')).length, ?_⟩
  have hzeros : s.rtakeWhile (· == '0') = List.replicate (s.rtakeWhile (· == '0')).length '0' := by
    apply eq_replicate_of_mem
    intro c hc
    have hzero := mem_rtakeWhile_imp hc
    exact eq_of_beq hzero
  unfold trimEndZeros
  rw [← hzeros, rdropWhile_append_rtakeWhile]

theorem trimEndZeros_last (s : List Char) : (trimEndZeros s).getLast? ≠ some '0' := by
  intro h
  have hne : trimEndZeros s ≠ [] := by
    rintro hnil
    rw [hnil] at h
    cases h
  have hlast := rdropWhile_last_not (· == '0') s hne
  rw [getLast?_eq_some_getLast hne, Option.some.injEq] at h
  unfold trimEndZeros at h
  rw [h] at hlast
  exact hlast rfl

/-! ## Order -/

theorem lt_iff_value_lt : ∀ {s t : List Char}, AllDigits s → AllDigits t → s.length = t.length → (s < t ↔ value s < value t)
  | [], [], _, _, _ => by simp
  | c :: s, d :: t, hs, ht, hlen => by
    have hs' : AllDigits s := fun e he => hs e (mem_cons_of_mem c he)
    have ht' : AllDigits t := fun e he => ht e (mem_cons_of_mem d he)
    have hlen' : s.length = t.length := Nat.succ.inj hlen
    have hc := hs c mem_cons_self
    have hd := ht d mem_cons_self
    have ih := lt_iff_value_lt hs' ht' hlen'
    have hsmall := value_lt hs'
    have htmall := value_lt ht'
    rw [cons_lt_cons_iff, value_cons, value_cons, ← hlen']
    rw [← hlen'] at htmall
    have hchars : c < d ↔ digitVal c < digitVal d := by
      have hzero : '0'.toNat = 48 := rfl
      have hcb := Char.isDigit_iff_toNat.1 hc
      have hdb := Char.isDigit_iff_toNat.1 hd
      unfold digitVal
      rw [Char.lt_def, UInt32.lt_iff_toNat_lt]
      show c.toNat < d.toNat ↔ _
      omega
    rw [hchars, ih]
    rcases Nat.lt_trichotomy (digitVal c) (digitVal d) with hlt | heq | hgt
    · have hmul : 10 ^ s.length * (digitVal c + 1) ≤ 10 ^ s.length * digitVal d := Nat.mul_le_mul_left _ hlt
      rw [Nat.mul_add] at hmul
      exact iff_of_true (.inl hlt) (by omega)
    · rw [heq]
      refine ⟨fun h => ?_, fun h => .inr ⟨digitVal_inj hc hd heq, by omega⟩⟩
      rcases h with h | h
      · exact absurd h (Nat.lt_irrefl _)
      · omega
    · have hmul : 10 ^ s.length * (digitVal d + 1) ≤ 10 ^ s.length * digitVal c := Nat.mul_le_mul_left _ hgt
      rw [Nat.mul_add] at hmul
      have hne : c ≠ d := fun h => by
        rw [h] at hgt
        omega
      refine iff_of_false ?_ (by omega)
      rintro (h | h)
      · omega
      · exact hne h.1

theorem value_inj (hs : AllDigits s) (ht : AllDigits t) (hlen : s.length = t.length) (h : value s = value t) : s = t := by
  have hst : ¬ s < t := fun hlt => absurd ((lt_iff_value_lt hs ht hlen).1 hlt) (by omega)
  have hts : ¬ t < s := fun hlt => absurd ((lt_iff_value_lt ht hs hlen.symm).1 hlt) (by omega)
  exact List.le_antisymm (List.not_lt.1 hts) (List.not_lt.1 hst)

theorem eq_of_value (hs : AllDigits s) (ht : AllDigits t) (hs0 : s ≠ [] ∧ (s = ['0'] ∨ s.head? ≠ some '0'))
    (ht0 : t ≠ [] ∧ (t = ['0'] ∨ t.head? ≠ some '0')) (h : value s = value t) : s = t := by
  have key : ∀ {s t : List Char}, AllDigits s → AllDigits t → s ≠ [] → (t = ['0'] ∨ t.head? ≠ some '0') → value s = value t →
      ¬ s.length < t.length := by
    intro s t hs ht hne ht0 h hlt
    have hpos : 0 < s.length := length_pos_iff.2 hne
    cases t with
    | nil => exact absurd hlt (Nat.not_lt_zero _)
    | cons d t =>
      have hd0 : d ≠ '0' := by
        rintro rfl
        rcases ht0 with h0 | h0
        · rw [h0] at hlt
          exact absurd hlt (Nat.not_lt.2 hpos)
        · exact h0 rfl
      have hdpos : 0 < digitVal d := by
        apply Nat.pos_of_ne_zero
        intro hzero
        exact hd0 (digitVal_inj (ht d mem_cons_self) rfl hzero)
      have hvs := value_lt hs
      rw [h, value_cons] at hvs
      have hpow : 10 ^ s.length ≤ 10 ^ t.length := Nat.pow_le_pow_right (by omega) (Nat.lt_succ_iff.1 hlt)
      have hmul : 10 ^ t.length * 1 ≤ 10 ^ t.length * digitVal d := Nat.mul_le_mul_left _ hdpos
      omega
  have hlen : s.length = t.length :=
    Nat.le_antisymm (Nat.not_lt.1 (key ht hs ht0.1 hs0.2 h.symm)) (Nat.not_lt.1 (key hs ht hs0.1 ht0.2 h))
  exact value_inj hs ht hlen h

/-! ## Sum and difference -/

def addAligned : List (Char × Char) → Nat → List Char
  | [], carry => if carry > 0 then [carry.digitChar] else []
  | (left, right) :: rest, carry =>
    let sum := digitVal left + digitVal right + carry
    (sum % 10).digitChar :: addAligned rest (sum / 10)

/-- The digits of a difference, from the right; what is borrowed at the left end is lost. -/
def subtractAligned : List (Char × Char) → Nat → List Char
  | [], _ => []
  | (left, right) :: rest, borrow =>
    if digitVal left < borrow + digitVal right then
      (digitVal left + 10 - borrow - digitVal right).digitChar :: subtractAligned rest 1
    else (digitVal left - borrow - digitVal right).digitChar :: subtractAligned rest 0

variable (ps : List (Char × Char))

def PairDigits : Prop := ∀ p ∈ ps, p.1.isDigit = true ∧ p.2.isDigit = true

abbrev lefts : Nat := value (ps.map Prod.fst).reverse

abbrev rights : Nat := value (ps.map Prod.snd).reverse

theorem addAligned_spec : ∀ {ps : List (Char × Char)} {carry : Nat}, PairDigits ps → carry ≤ 1 →
    AllDigits (addAligned ps carry).reverse ∧ value (addAligned ps carry).reverse = lefts ps + rights ps + carry
  | [], carry, _, hcarry => by
    have hlow : carry = 0 ∨ carry = 1 := by omega
    rcases hlow with rfl | rfl
    · exact ⟨fun _ hc => (not_mem_nil hc).elim, rfl⟩
    · exact ⟨fun c hc => by rw [mem_singleton.1 hc]; rfl, rfl⟩
  | (left, right) :: rest, carry, h, hcarry => by
    obtain ⟨hl, hr⟩ : left.isDigit = true ∧ right.isDigit = true := h _ mem_cons_self
    have hlt := digitVal_lt hl
    have hrt := digitVal_lt hr
    have hnext : (digitVal left + digitVal right + carry) / 10 ≤ 1 := by omega
    have hmod : (digitVal left + digitVal right + carry) % 10 < 10 := Nat.mod_lt _ (by omega)
    obtain ⟨hall, hval⟩ := addAligned_spec (fun p hp => h p (mem_cons_of_mem _ hp)) hnext
    simp only [addAligned, reverse_cons, map_cons, value_snoc, lefts, rights]
    constructor
    · exact hall.append fun c hc => by rw [mem_singleton.1 hc, isDigit_digitChar hmod]
    rw [hval, digitVal_digitChar hmod]
    unfold lefts rights
    omega

theorem subtractAligned_spec : ∀ {ps : List (Char × Char)} {borrow : Nat}, PairDigits ps → borrow ≤ 1 →
    AllDigits (subtractAligned ps borrow).reverse ∧ (rights ps + borrow ≤ lefts ps →
      value (subtractAligned ps borrow).reverse + rights ps + borrow = lefts ps)
  | [], borrow, _, _ => by
    refine ⟨fun _ hc => (not_mem_nil hc).elim, fun hle => ?_⟩
    have hle' : 0 + borrow ≤ 0 := hle
    show 0 + 0 + borrow = 0
    omega
  | (left, right) :: rest, borrow, h, hborrow => by
    obtain ⟨hl, hr⟩ : left.isDigit = true ∧ right.isDigit = true := h _ mem_cons_self
    have hlt := digitVal_lt hl
    have hrt := digitVal_lt hr
    have hrest : PairDigits rest := fun p hp => h p (mem_cons_of_mem _ hp)
    unfold subtractAligned
    split
    · rename_i hlow
      have hdigit : digitVal left + 10 - borrow - digitVal right < 10 := by omega
      obtain ⟨hall, hval⟩ := subtractAligned_spec hrest (Nat.le_refl 1)
      simp only [reverse_cons, map_cons, value_snoc, lefts, rights, digitVal_digitChar hdigit]
      refine ⟨hall.append fun c hc => by rw [mem_singleton.1 hc, isDigit_digitChar hdigit], fun hle => ?_⟩
      have := hval (by unfold lefts rights; omega)
      unfold lefts rights at this
      omega
    · rename_i hhigh
      have hdigit : digitVal left - borrow - digitVal right < 10 := by omega
      obtain ⟨hall, hval⟩ := subtractAligned_spec hrest (Nat.zero_le 1)
      simp only [reverse_cons, map_cons, value_snoc, lefts, rights, digitVal_digitChar hdigit]
      refine ⟨hall.append fun c hc => by rw [mem_singleton.1 hc, isDigit_digitChar hdigit], fun hle => ?_⟩
      have := hval (by unfold lefts rights; omega)
      unfold lefts rights at this
      omega

theorem pairDigits_zip (hs : AllDigits s) (ht : AllDigits t) : PairDigits (s.reverse.zip t.reverse) := by
  rintro ⟨c, d⟩ hp
  obtain ⟨hc, hd⟩ := of_mem_zip hp
  exact ⟨hs c (mem_reverse.1 hc), ht d (mem_reverse.1 hd)⟩

theorem lefts_zip (hlen : s.length = t.length) : lefts (s.reverse.zip t.reverse) = value s := by
  unfold lefts
  rw [map_fst_zip (by simp [hlen]), reverse_reverse]

theorem rights_zip (hlen : s.length = t.length) : rights (s.reverse.zip t.reverse) = value t := by
  unfold rights
  rw [map_snd_zip (by simp [hlen]), reverse_reverse]

end Digits
