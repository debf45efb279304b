import RovaiCore.DecimalDigits
import RovaiCore.RuntimeUsage
import Mathlib.Tactic.FieldSimp
import Mathlib.Tactic.Positivity
import Mathlib.Tactic.Linarith
/-!
# Decimal money (`monitoring.rs`)

Amounts of money are strings of digits with at most one point, and are added and subtracted as such.
-/
namespace Rovai.Usage

open Digits (AllDigits trimZeros trimEndZeros addAligned subtractAligned)
open List

/-! ## The functions -/

/-- `split_once('.')`, where nothing follows a number without a point. -/
def decimalParts (value : String) : List Char × List Char :=
  (value.toList.takeWhile (· != '.'), (value.toList.dropWhile (· != '.')).tail)

def scaledDigits (parts : List Char × List Char) (scale : Nat) : List Char :=
  trimZeros parts.1 ++ parts.2.rightpad scale '0'

def decimalFromDigits (digits : List Char) (scale : Nat) : String :=
  let digits := if digits.isEmpty then ['0'] else digits
  if scale = 0 then
    let whole := trimZeros digits
    String.ofList (if whole.isEmpty then ['0'] else whole)
  else
    let digits := if digits.length ≤ scale then digits.leftpad (scale + 1) '0' else digits
    let fractionStart := digits.length - scale
    let whole := trimZeros (digits.take fractionStart)
    let whole := if whole.isEmpty then ['0'] else whole
    let fraction := trimEndZeros (digits.drop fractionStart)
    String.ofList (if fraction.isEmpty then whole else whole ++ '.' :: fraction)

def addDecimal (left right : String) : Except String String := do
  validateDecimal left
  validateDecimal right
  let scale := max (decimalParts left).2.length (decimalParts right).2.length
  let leftDigits := scaledDigits (decimalParts left) scale
  let rightDigits := scaledDigits (decimalParts right) scale
  let width := max leftDigits.length rightDigits.length
  let left := leftDigits.leftpad width '0'
  let right := rightDigits.leftpad width '0'
  .ok (decimalFromDigits (addAligned (left.reverse.zip right.reverse) 0).reverse scale)

def alignedDecimalDigits (left right : String) : List Char × List Char × Nat :=
  let scale := max (decimalParts left).2.length (decimalParts right).2.length
  let left := scaledDigits (decimalParts left) scale
  let right := scaledDigits (decimalParts right) scale
  let width := max (max left.length right.length) 1
  (left.leftpad width '0', right.leftpad width '0', scale)

def subtractAlignedDigits (left right : List Char) (scale : Nat) : String :=
  decimalFromDigits (subtractAligned (left.reverse.zip right.reverse) 0).reverse scale

def subtractDecimalNonnegative (left right : String) : Except String (Option String) := do
  validateDecimal left
  validateDecimal right
  let (leftDigits, rightDigits, scale) := alignedDecimalDigits left right
  if leftDigits.length < rightDigits.length ∨ leftDigits.length = rightDigits.length ∧ leftDigits < rightDigits then .ok none
  else .ok (some (subtractAlignedDigits leftDigits rightDigits scale))

def subtractDecimalSigned (left right : String) : Except String String := do
  match ← subtractDecimalNonnegative left right with
  | some value => .ok value
  | none =>
    match ← subtractDecimalNonnegative right left with
    | some value => .ok (String.ofList ('-' :: value.toList))
    | none => .error "decimal ordering must be total"

def decimalIsZero (value : String) : Bool :=
  value.toList.all fun c => c == '0' || c == '.'

/-! ## What a decimal denotes -/

variable (s : String)

def decimalValue : Rat :=
  Digits.value ((decimalParts s).1 ++ (decimalParts s).2) / 10 ^ (decimalParts s).2.length

def signedValue : Rat := match s.toList with
  | '-' :: digits => -decimalValue (String.ofList digits)
  | _ => decimalValue s

/-- No zero in front but a single one before the point, and none at the end of a fraction. -/
structure Normal (s : String) : Prop where
  accepted : validateDecimal s = .ok ()
  whole : (decimalParts s).1 = ['0'] ∨ (decimalParts s).1.head? ≠ some '0'
  fraction : (decimalParts s).2.getLast? ≠ some '0'

def NormalSigned : Prop :=
  Normal s ∨ ∃ t, s = String.ofList ('-' :: t.toList) ∧ Normal t ∧ decimalValue t ≠ 0

inductive DecimalResult : String → Prop where
  | sum {a b s : String} (h : addDecimal a b = .ok s) : DecimalResult s
  | difference {a b s : String} (h : subtractDecimalNonnegative a b = .ok (some s)) : DecimalResult s
  | signed {a b s : String} (h : subtractDecimalSigned a b = .ok s) : DecimalResult s

/-! ## Accepted decimals -/

section Accepted

def written (whole fraction : List Char) : List Char :=
  if fraction.isEmpty then whole else whole ++ '.' :: fraction

variable {whole fraction : List Char}

theorem ne_point {c : Char} (h : c.isDigit = true) : (c != '.') = true := by
  apply bne_iff_ne.2
  rintro rfl
  exact absurd h (by decide)

theorem decimalParts_written (hw : AllDigits whole) :
    decimalParts (String.ofList (written whole fraction)) = (whole, fraction) := by
  have htake : whole.takeWhile (· != '.') = whole := takeWhile_eq_self_iff.2 fun c hc => ne_point (hw c hc)
  have hdrop : whole.dropWhile (· != '.') = [] := dropWhile_eq_nil_iff.2 fun c hc => ne_point (hw c hc)
  unfold decimalParts written
  rw [String.toList_ofList]
  cases fraction with
  | nil =>
    show (whole.takeWhile _, (whole.dropWhile _).tail) = _
    rw [htake, hdrop]
    rfl
  | cons c cs =>
    show ((whole ++ '.' :: c :: cs).takeWhile _, ((whole ++ '.' :: c :: cs).dropWhile _).tail) = _
    rw [takeWhile_append_of_pos fun c hc => ne_point (hw c hc), dropWhile_append_of_pos fun c hc => ne_point (hw c hc)]
    simp

theorem count_point (h : AllDigits whole) : whole.count '.' = 0 := by
  apply count_eq_zero.2
  intro hc
  exact absurd (h '.' hc) (by decide)

theorem validateDecimal_conditions : validateDecimal s = .ok () ↔
    s.toList ≠ [] ∧ s.toList.head? ≠ some '.' ∧ s.toList.getLast? ≠ some '.' ∧ s.toList.count '.' ≤ 1 ∧
      ∀ c ∈ s.toList, c.isDigit = true ∨ c = '.' := by
  have hsigns : (∀ c ∈ s.toList, c.isDigit = true ∨ c = '.') →
      s.toList.any (fun c => c == 'e' || c == 'E' || c == '+' || c == '-') = false := by
    intro hall
    apply any_eq_false.2
    intro c hc hsign
    have hchars : c = 'e' ∨ c = 'E' ∨ c = '+' ∨ c = '-' := by simpa [or_assoc] using hsign
    rcases hchars with rfl | rfl | rfl | rfl <;> exact absurd (hall _ hc) (by decide)
  unfold validateDecimal
  dsimp only
  constructor
  · intro h
    split at h
    · cases h
    rename_i hcond
    simp only [Bool.or_eq_true, not_or, List.isEmpty_iff, beq_iff_eq, decide_eq_true_eq, Bool.not_eq_true', Bool.not_eq_false,
      List.all_eq_true] at hcond
    obtain ⟨⟨⟨⟨⟨hne, -⟩, hhead⟩, hlast⟩, hcount⟩, hall⟩ := hcond
    exact ⟨hne, hhead, hlast, by omega, hall⟩
  · rintro ⟨hne, hhead, hlast, hcount, hall⟩
    rw [if_neg]
    simp only [hsigns hall, Bool.or_false, Bool.or_eq_true, not_or, List.isEmpty_iff, beq_iff_eq, decide_eq_true_eq,
      Bool.not_eq_true', Bool.not_eq_false, List.all_eq_true]
    exact ⟨⟨⟨⟨hne, hhead⟩, hlast⟩, by omega⟩, hall⟩

theorem validateDecimal_iff : validateDecimal s = .ok () ↔
    ∃ whole fraction, AllDigits whole ∧ AllDigits fraction ∧ whole ≠ [] ∧ s = String.ofList (written whole fraction) := by
  rw [validateDecimal_conditions]
  constructor
  · rintro ⟨hne, hhead, hlast, hcount, hall⟩
    have hsplit : s.toList.takeWhile (· != '.') ++ s.toList.dropWhile (· != '.') = s.toList := takeWhile_append_dropWhile
    have hw : AllDigits (s.toList.takeWhile (· != '.')) := by
      intro c hc
      refine (hall c ((List.takeWhile_prefix _).subset hc)).resolve_right ?_
      have hpoint := mem_takeWhile_imp hc
      exact bne_iff_ne.1 hpoint
    cases hdrop : s.toList.dropWhile (· != '.') with
    | nil =>
      rw [hdrop, append_nil] at hsplit
      refine ⟨s.toList, [], hsplit ▸ hw, fun _ hc => (not_mem_nil hc).elim, hne, ?_⟩
      exact (String.ofList_toList).symm
    | cons d rest =>
      have hd : d = '.' := by
        have hnot := head?_dropWhile_not (· != '.') s.toList
        rw [hdrop] at hnot
        simpa using hnot
      subst hd
      rw [hdrop] at hsplit
      rw [← hsplit] at hhead hlast hcount hall
      have hrest : AllDigits rest := by
        intro c hc
        refine (hall c (mem_append_right _ (mem_cons_of_mem _ hc))).resolve_right ?_
        rintro rfl
        have hpos : 0 < rest.count '.' := count_pos_iff.2 hc
        rw [count_append, count_point hw, count_cons_self] at hcount
        omega
      have hrne : rest ≠ [] := by
        rintro rfl
        simp at hlast
      refine ⟨_, rest, hw, hrest, fun hnil => ?_, ?_⟩
      · rw [hnil] at hhead
        exact hhead rfl
      · unfold written
        rw [if_neg (by simp [hrne]), hsplit, String.ofList_toList]
  · rintro ⟨whole, fraction, hw, hf, hne, rfl⟩
    rw [String.toList_ofList]
    unfold written
    obtain ⟨c, cs, rfl⟩ := exists_cons_of_ne_nil hne
    have hhead : c ≠ '.' := bne_iff_ne.1 (ne_point (hw c mem_cons_self))
    have last : ∀ {l : List Char}, AllDigits l → l.getLast? ≠ some '.' := fun hl hlast =>
      absurd (hl '.' (mem_of_getLast? hlast)) (by decide)
    split
    · refine ⟨cons_ne_nil c cs, by simpa using hhead, last hw, by rw [count_point hw]; omega, fun d hd => .inl (hw d hd)⟩
    rename_i hfne
    refine ⟨by simp, by simpa using hhead, ?_, ?_, ?_⟩
    · obtain ⟨d, ds, rfl⟩ := exists_cons_of_ne_nil fun h : fraction = [] => hfne (by rw [h]; rfl)
      rw [getLast?_append_cons, getLast?_cons_cons]
      exact last hf
    · rw [count_append, count_point hw, count_cons_self, count_point hf]
    · intro d hd
      rcases mem_append.1 hd with hd | hd
      · exact .inl (hw d hd)
      · exact (mem_cons.1 hd).elim .inr fun hd => .inl (hf d hd)

theorem decimalValue_written (hw : AllDigits whole) :
    decimalValue (String.ofList (written whole fraction)) = Digits.value (whole ++ fraction) / 10 ^ fraction.length := by
  unfold decimalValue
  rw [decimalParts_written hw]

theorem normal_written (hw : AllDigits whole) (hf : AllDigits fraction) (hne : whole ≠ [])
    (hwhole : whole = ['0'] ∨ whole.head? ≠ some '0') (hfraction : fraction.getLast? ≠ some '0') :
    Normal (String.ofList (written whole fraction)) where
  accepted := (validateDecimal_iff _).2 ⟨whole, fraction, hw, hf, hne, rfl⟩
  whole := by rwa [decimalParts_written hw]
  fraction := by rwa [decimalParts_written hw]

theorem Normal.inj {s t : String} (hs : Normal s) (ht : Normal t) (h : decimalValue s = decimalValue t) : s = t := by
  obtain ⟨w, f, hw, hf, hwne, rfl⟩ := (validateDecimal_iff s).1 hs.accepted
  obtain ⟨w', f', hw', hf', hwne', rfl⟩ := (validateDecimal_iff t).1 ht.accepted
  have hsw := hs.whole
  have hsf := hs.fraction
  have htw := ht.whole
  have htf := ht.fraction
  rw [decimalParts_written hw] at hsw hsf
  rw [decimalParts_written hw'] at htw htf
  rw [decimalValue_written hw, decimalValue_written hw', div_eq_div_iff (by positivity) (by positivity)] at h
  have hnat : Digits.value (w ++ f) * 10 ^ f'.length = Digits.value (w' ++ f') * 10 ^ f.length := by exact_mod_cast h
  -- the longer of two fractions would end in a zero
  have short : ∀ {w f w' f' : List Char}, AllDigits f' → f'.getLast? ≠ some '0' →
      Digits.value (w ++ f) * 10 ^ f'.length = Digits.value (w' ++ f') * 10 ^ f.length → ¬ f.length < f'.length := by
    intro w f w' f' hf' hlast h hlt
    obtain ⟨ds, d, rfl⟩ := eq_nil_or_concat f' |>.resolve_left fun hnil => by simp [hnil] at hlt
    rw [concat_eq_append] at h hlt hlast hf'
    have hd : d.isDigit = true := hf' d (by simp)
    have hd0 : Digits.digitVal d ≠ 0 := by
      intro hzero
      rw [Digits.digitVal_inj hd (show ('0' : Char).isDigit = true from rfl) hzero] at hlast
      simp at hlast
    obtain ⟨k, hk⟩ : ∃ k, (ds ++ [d]).length = f.length + (k + 1) := ⟨(ds ++ [d]).length - f.length - 1, by omega⟩
    rw [hk, Nat.pow_add, ← append_assoc, Digits.value_snoc, Nat.pow_succ] at h
    have hcancel : Digits.value (w ++ f) * (10 ^ k * 10) = 10 * Digits.value (w' ++ ds) + Digits.digitVal d := by
      apply Nat.eq_of_mul_eq_mul_right (Nat.pow_pos (n := f.length) (show 0 < 10 by decide))
      rw [← h]
      ring
    have hlt10 := Digits.digitVal_lt hd
    rw [← Nat.mul_assoc] at hcancel
    omega
  have hlen : f.length = f'.length :=
    Nat.le_antisymm (Nat.not_lt.1 (short hf hsf hnat.symm)) (Nat.not_lt.1 (short hf' htf hnat))
  have hval : Digits.value (w ++ f) = Digits.value (w' ++ f') := by
    rw [hlen] at hnat
    exact Nat.eq_of_mul_eq_mul_right (Nat.pow_pos (by decide)) hnat
  rw [Digits.value_append, Digits.value_append, hlen] at hval
  have hlt := Digits.value_lt hf
  have hlt' := Digits.value_lt hf'
  rw [hlen] at hlt
  have hfraction : Digits.value f = Digits.value f' := by
    have hmod := congrArg (· % 10 ^ f'.length) hval
    simpa [Nat.mul_add_mod, Nat.mod_eq_of_lt hlt, Nat.mod_eq_of_lt hlt'] using hmod
  have hwhole : Digits.value w = Digits.value w' := by
    rw [hfraction] at hval
    exact Nat.eq_of_mul_eq_mul_left (Nat.pow_pos (by decide)) (Nat.add_right_cancel hval)
  rw [Digits.value_inj hf hf' hlen hfraction, Digits.eq_of_value hw hw' ⟨hwne, hsw⟩ ⟨hwne', htw⟩ hwhole]

theorem decimalIsZero_iff {s : String} (h : validateDecimal s = .ok ()) : decimalIsZero s = true ↔ decimalValue s = 0 := by
  obtain ⟨w, f, hw, hf, -, rfl⟩ := (validateDecimal_iff s).1 h
  rw [decimalValue_written hw, div_eq_zero_iff, or_iff_left (by positivity), Nat.cast_eq_zero,
    Digits.value_eq_zero_iff (hw.append hf)]
  unfold decimalIsZero written
  rw [String.toList_ofList, List.all_eq_true]
  have hzero : ∀ {c : Char}, c.isDigit = true → ((c == '0' || c == '.') = true ↔ c = '0') := by
    intro c hc
    simp [bne_iff_ne.1 (ne_point hc)]
  constructor
  · intro hall c hc
    refine (hzero ((hw.append hf) c hc)).1 (hall c ?_)
    split
    · rename_i hnil
      rwa [List.isEmpty_iff.1 hnil, append_nil] at hc
    · exact (mem_append.1 hc).elim (mem_append_left _) fun hc => mem_append_right _ (mem_cons_of_mem _ hc)
  · intro hall c hc
    split at hc
    · exact (hzero (hw c hc)).2 (hall c (mem_append_left _ hc))
    rcases mem_append.1 hc with hc | hc
    · exact (hzero (hw c hc)).2 (hall c (mem_append_left _ hc))
    rcases mem_cons.1 hc with rfl | hc
    · rfl
    · exact (hzero (hf c hc)).2 (hall c (mem_append_right _ hc))

end Accepted

/-! ## Digits at a scale -/

section Scale

variable {digits : List Char} {s : String} {scale : Nat}

theorem allDigits_scaled (h : validateDecimal s = .ok ()) (scale : Nat) : AllDigits (scaledDigits (decimalParts s) scale) := by
  obtain ⟨w, f, hw, hf, -, rfl⟩ := (validateDecimal_iff s).1 h
  rw [decimalParts_written hw]
  exact hw.trimZeros.append (hf.rightpad scale)

theorem value_scaled (h : validateDecimal s = .ok ()) (hscale : (decimalParts s).2.length ≤ scale) :
    (Digits.value (scaledDigits (decimalParts s) scale) : Rat) = decimalValue s * 10 ^ scale := by
  obtain ⟨w, f, hw, hf, -, rfl⟩ := (validateDecimal_iff s).1 h
  rw [decimalValue_written hw]
  rw [decimalParts_written hw] at hscale ⊢
  obtain ⟨k, rfl⟩ := Nat.exists_eq_add_of_le hscale
  have hlen : (f.rightpad (f.length + k) '0').length = f.length + k := by
    simp [rightpad]
  unfold scaledDigits
  rw [Digits.value_append, Digits.value_trimZeros, Digits.value_rightpad, hlen, Digits.value_append, Nat.add_sub_cancel_left]
  push_cast
  field_simp
  ring

theorem leading_spec (h : AllDigits digits) :
    AllDigits (if (trimZeros digits).isEmpty then ['0'] else trimZeros digits) ∧
      (if (trimZeros digits).isEmpty then ['0'] else trimZeros digits) ≠ [] ∧
      ((if (trimZeros digits).isEmpty then ['0'] else trimZeros digits) = ['0'] ∨
        (if (trimZeros digits).isEmpty then ['0'] else trimZeros digits).head? ≠ some '0') ∧
      Digits.value (if (trimZeros digits).isEmpty then ['0'] else trimZeros digits) = Digits.value digits := by
  split
  · rename_i hempty
    have hval := Digits.value_trimZeros digits
    rw [List.isEmpty_iff.1 hempty] at hval
    exact ⟨fun c hc => by rw [mem_singleton.1 hc]; rfl, cons_ne_nil _ _, .inl rfl, hval⟩
  · rename_i hne
    exact ⟨h.trimZeros, fun hnil => hne (by rw [hnil]; rfl), .inr (Digits.trimZeros_head digits), Digits.value_trimZeros digits⟩

theorem decimalFromDigits_spec (h : AllDigits digits) (scale : Nat) :
    Normal (decimalFromDigits digits scale) ∧ decimalValue (decimalFromDigits digits scale) = Digits.value digits / 10 ^ scale := by
  have hfirst : AllDigits (if digits.isEmpty then ['0'] else digits) ∧
      Digits.value (if digits.isEmpty then ['0'] else digits) = Digits.value digits := by
    split
    · rename_i hempty
      rw [List.isEmpty_iff.1 hempty]
      exact ⟨fun c hc => by rw [mem_singleton.1 hc]; rfl, rfl⟩
    · exact ⟨h, rfl⟩
  rw [← hfirst.2]
  unfold decimalFromDigits
  dsimp only
  generalize (if digits.isEmpty then ['0'] else digits) = ds at hfirst
  split
  · rename_i hscale
    obtain ⟨hall, hne, hhead, hval⟩ := leading_spec hfirst.1
    generalize (if (trimZeros ds).isEmpty then ['0'] else trimZeros ds) = w at hall hne hhead hval
    have hwritten : String.ofList w = String.ofList (written w []) := rfl
    rw [hwritten, decimalValue_written hall, append_nil, hval, hscale]
    exact ⟨normal_written hall (fun _ hc => (not_mem_nil hc).elim) hne hhead (by simp), rfl⟩
  · have hpad : AllDigits (if ds.length ≤ scale then ds.leftpad (scale + 1) '0' else ds) ∧
        Digits.value (if ds.length ≤ scale then ds.leftpad (scale + 1) '0' else ds) = Digits.value ds ∧
        scale ≤ (if ds.length ≤ scale then ds.leftpad (scale + 1) '0' else ds).length := by
      split
      · exact ⟨hfirst.1.leftpad _, Digits.value_leftpad _ _, by rw [length_leftpad]; omega⟩
      · exact ⟨hfirst.1, rfl, by omega⟩
    generalize (if ds.length ≤ scale then ds.leftpad (scale + 1) '0' else ds) = es at hpad
    obtain ⟨hes, hvalue, hlen⟩ := hpad
    have htake : AllDigits (es.take (es.length - scale)) := fun c hc => hes c (mem_of_mem_take hc)
    have hdrop : AllDigits (es.drop (es.length - scale)) := fun c hc => hes c (mem_of_mem_drop hc)
    obtain ⟨hall, hne, hhead, hval⟩ := leading_spec htake
    generalize (if (trimZeros (es.take (es.length - scale))).isEmpty then ['0'] else trimZeros (es.take (es.length - scale))) = w
      at hall hne hhead hval
    obtain ⟨k, hk⟩ := Digits.trimEndZeros_append (es.drop (es.length - scale))
    have hklen := congrArg List.length hk
    rw [length_drop, length_append, length_replicate] at hklen
    have hscale : scale = (trimEndZeros (es.drop (es.length - scale))).length + k := by omega
    have hsplit := congrArg Digits.value (take_append_drop (es.length - scale) es)
    rw [Digits.value_append, ← hval, hk, Digits.value_append, Digits.value_zeros, hvalue] at hsplit
    refine ⟨normal_written hall hdrop.trimEndZeros hne hhead (Digits.trimEndZeros_last _), ?_⟩
    show decimalValue (String.ofList (written w (trimEndZeros (es.drop (es.length - scale))))) = _
    rw [decimalValue_written hall, ← hsplit, Digits.value_append, length_append, length_replicate]
    generalize (trimEndZeros (es.drop (es.length - scale))).length = n at hscale ⊢
    rw [hscale, Nat.pow_add]
    push_cast
    field_simp
    ring

end Scale

/-! ## Sum and difference -/

section Arithmetic

variable {a b s : String}

theorem length_le_width {x y : Nat} {l : List Char} (h : l.length ≤ max x y) : (l.leftpad (max x y) '0').length = max x y := by
  rw [length_leftpad, Nat.max_eq_left h]

theorem addDecimal_spec (ha : validateDecimal a = .ok ()) (hb : validateDecimal b = .ok ()) :
    ∃ s, addDecimal a b = .ok s ∧ Normal s ∧ decimalValue s = decimalValue a + decimalValue b := by
  have hva := value_scaled ha (Nat.le_max_left (decimalParts a).2.length (decimalParts b).2.length)
  have hvb := value_scaled hb (Nat.le_max_right (decimalParts a).2.length (decimalParts b).2.length)
  have hda := allDigits_scaled ha (max (decimalParts a).2.length (decimalParts b).2.length)
  have hdb := allDigits_scaled hb (max (decimalParts a).2.length (decimalParts b).2.length)
  refine ⟨_, by rw [addDecimal, ha, hb]; rfl, ?_⟩
  generalize max (decimalParts a).2.length (decimalParts b).2.length = scale at hva hvb hda hdb
  generalize scaledDigits (decimalParts a) scale = left at hva hda
  generalize scaledDigits (decimalParts b) scale = right at hvb hdb
  have hlen := (length_le_width (Nat.le_max_left left.length right.length)).trans
    (length_le_width (Nat.le_max_right left.length right.length)).symm
  have hpairs := Digits.pairDigits_zip (hda.leftpad (max left.length right.length)) (hdb.leftpad (max left.length right.length))
  obtain ⟨hall, hval⟩ := Digits.addAligned_spec hpairs (Nat.zero_le 1)
  rw [Digits.lefts_zip hlen, Digits.rights_zip hlen, Digits.value_leftpad, Digits.value_leftpad, Nat.add_zero] at hval
  obtain ⟨hnormal, hvalue⟩ := decimalFromDigits_spec hall scale
  refine ⟨hnormal, ?_⟩
  rw [hvalue, hval, Nat.cast_add, hva, hvb]
  field_simp

theorem aligned_spec (ha : validateDecimal a = .ok ()) (hb : validateDecimal b = .ok ()) :
    ∃ left right scale, alignedDecimalDigits a b = (left, right, scale) ∧ AllDigits left ∧ AllDigits right ∧
      left.length = right.length ∧ (Digits.value left : Rat) = decimalValue a * 10 ^ scale ∧
      (Digits.value right : Rat) = decimalValue b * 10 ^ scale := by
  have hva := value_scaled ha (Nat.le_max_left (decimalParts a).2.length (decimalParts b).2.length)
  have hvb := value_scaled hb (Nat.le_max_right (decimalParts a).2.length (decimalParts b).2.length)
  have hda := allDigits_scaled ha (max (decimalParts a).2.length (decimalParts b).2.length)
  have hdb := allDigits_scaled hb (max (decimalParts a).2.length (decimalParts b).2.length)
  refine ⟨_, _, _, rfl, hda.leftpad _, hdb.leftpad _, ?_, ?_, ?_⟩
  · rw [length_le_width, length_le_width]
    · exact (Nat.le_max_right _ _).trans (Nat.le_max_left _ _)
    · exact (Nat.le_max_left _ _).trans (Nat.le_max_left _ _)
  · rw [Digits.value_leftpad, hva]
  · rw [Digits.value_leftpad, hvb]

theorem subtractDecimalNonnegative_spec (ha : validateDecimal a = .ok ()) (hb : validateDecimal b = .ok ()) :
    ∃ r, subtractDecimalNonnegative a b = .ok r ∧ (r = none ↔ decimalValue a < decimalValue b) ∧
      ∀ s, r = some s → Normal s ∧ decimalValue s = decimalValue a - decimalValue b := by
  obtain ⟨left, right, scale, haligned, hleft, hright, hlen, hva, hvb⟩ := aligned_spec ha hb
  have hscale : (0 : Rat) < 10 ^ scale := by positivity
  have hlt : left < right ↔ decimalValue a < decimalValue b := by
    rw [Digits.lt_iff_value_lt hleft hright hlen, ← Nat.cast_lt (α := Rat), hva, hvb, mul_lt_mul_iff_left₀ hscale]
  have hsub : subtractDecimalNonnegative a b =
      if left < right then .ok none else .ok (some (subtractAlignedDigits left right scale)) := by
    rw [subtractDecimalNonnegative, ha, hb, haligned]
    simp only [hlen, Nat.lt_irrefl, true_and, false_or]
    rfl
  rw [hsub]
  split
  · rename_i hless
    exact ⟨none, rfl, iff_of_true rfl (hlt.1 hless), fun s hs => nomatch hs⟩
  · rename_i hmore
    refine ⟨_, rfl, iff_of_false (Option.some_ne_none _) (mt hlt.2 hmore), ?_⟩
    rintro s ⟨⟩
    obtain ⟨hall, hval⟩ := Digits.subtractAligned_spec (Digits.pairDigits_zip hleft hright) (Nat.zero_le 1)
    rw [Digits.lefts_zip hlen, Digits.rights_zip hlen, Nat.add_zero, Nat.add_zero] at hval
    have hle : Digits.value right ≤ Digits.value left :=
      Nat.not_lt.1 (mt (Digits.lt_iff_value_lt hleft hright hlen).2 hmore)
    obtain ⟨hnormal, hvalue⟩ := decimalFromDigits_spec hall scale
    refine ⟨hnormal, ?_⟩
    show decimalValue (decimalFromDigits _ scale) = _
    rw [hvalue, Nat.eq_sub_of_add_eq (hval hle), Nat.cast_sub hle, hva, hvb]
    field_simp

theorem Normal.signedValue_eq (h : Normal s) : signedValue s = decimalValue s ∧ s.toList.head? ≠ some '-' := by
  have hhead : s.toList.head? ≠ some '-' := by
    intro hminus
    have hall := ((validateDecimal_conditions s).1 h.accepted).2.2.2.2 '-' (mem_of_head? hminus)
    exact absurd hall (by decide)
  refine ⟨?_, hhead⟩
  unfold signedValue
  split
  · rename_i hs
    rw [hs] at hhead
    exact absurd rfl hhead
  · rfl

theorem signedValue_minus (t : String) : signedValue (String.ofList ('-' :: t.toList)) = -decimalValue t := by
  unfold signedValue
  rw [String.toList_ofList]
  show -decimalValue (String.ofList t.toList) = _
  rw [String.ofList_toList]

theorem subtractDecimalSigned_spec (ha : validateDecimal a = .ok ()) (hb : validateDecimal b = .ok ()) :
    ∃ s, subtractDecimalSigned a b = .ok s ∧ NormalSigned s ∧ signedValue s = decimalValue a - decimalValue b ∧
      (s.toList.head? = some '-' ↔ decimalValue a < decimalValue b) := by
  obtain ⟨r, hr, hnone, hsome⟩ := subtractDecimalNonnegative_spec ha hb
  obtain ⟨r', hr', hnone', hsome'⟩ := subtractDecimalNonnegative_spec hb ha
  cases r with
  | some v =>
    obtain ⟨hnormal, hvalue⟩ := hsome v rfl
    have hge : ¬ decimalValue a < decimalValue b := fun h => Option.some_ne_none v (hnone.2 h)
    refine ⟨v, by rw [subtractDecimalSigned, hr]; rfl, .inl hnormal, ?_, iff_of_false hnormal.signedValue_eq.2 hge⟩
    rw [hnormal.signedValue_eq.1, hvalue]
  | none =>
    have hlt := hnone.1 rfl
    cases r' with
    | none => exact absurd (hnone'.1 rfl) (not_lt.2 hlt.le)
    | some v =>
      obtain ⟨hnormal, hvalue⟩ := hsome' v rfl
      refine ⟨String.ofList ('-' :: v.toList), by rw [subtractDecimalSigned, hr]; simp [bind, Except.bind, hr'], ?_, ?_, ?_⟩
      · exact .inr ⟨v, rfl, hnormal, by rw [hvalue]; linarith⟩
      · rw [signedValue_minus, hvalue, neg_sub]
      · exact iff_of_true (by rw [String.toList_ofList]; rfl) hlt

theorem accepted_of_bind {α : Type} {x : α} {f : Unit → Unit → Except String α}
    (h : ((validateDecimal a).bind fun u => (validateDecimal b).bind (f u)) = .ok x) :
    validateDecimal a = .ok () ∧ validateDecimal b = .ok () := by
  cases ha : validateDecimal a with
  | error e => simp [ha, Except.bind] at h
  | ok u =>
    cases hb : validateDecimal b with
    | error e => simp [ha, hb, Except.bind] at h
    | ok v => exact ⟨rfl, rfl⟩

theorem DecimalResult.normalSigned (h : DecimalResult s) : NormalSigned s := by
  cases h with
  | sum h =>
    obtain ⟨ha, hb⟩ := accepted_of_bind h
    obtain ⟨t, ht, hnormal, -⟩ := addDecimal_spec ha hb
    rw [h, Except.ok.injEq] at ht
    exact .inl (ht ▸ hnormal)
  | difference h =>
    obtain ⟨ha, hb⟩ := accepted_of_bind h
    obtain ⟨r, hr, -, hsome⟩ := subtractDecimalNonnegative_spec ha hb
    rw [h, Except.ok.injEq] at hr
    exact .inl (hsome s hr.symm).1
  | @signed a b s h =>
    have hfirst : ∃ r, subtractDecimalNonnegative a b = .ok r := by
      cases hr : subtractDecimalNonnegative a b with
      | error e =>
        rw [subtractDecimalSigned, hr] at h
        cases h
      | ok r => exact ⟨r, rfl⟩
    obtain ⟨r, hr⟩ := hfirst
    obtain ⟨ha, hb⟩ := accepted_of_bind hr
    obtain ⟨t, ht, hnormal, -⟩ := subtractDecimalSigned_spec ha hb
    rw [h, Except.ok.injEq] at ht
    exact ht ▸ hnormal

theorem NormalSigned.isZero_iff (h : NormalSigned s) : decimalIsZero s = true ↔ signedValue s = 0 := by
  rcases h with hs | ⟨t, rfl, ht, hne⟩
  · rw [hs.signedValue_eq.1, decimalIsZero_iff hs.accepted]
  rw [signedValue_minus]
  refine iff_of_false ?_ (neg_ne_zero.2 hne)
  unfold decimalIsZero
  rw [String.toList_ofList]
  simp

theorem decimalValue_nonneg (s : String) : 0 ≤ decimalValue s := by
  unfold decimalValue
  positivity

theorem NormalSigned.inj {t : String} (hs : NormalSigned s) (ht : NormalSigned t) (h : signedValue s = signedValue t) : s = t := by
  rcases hs with hs | ⟨s, rfl, hs, hsne⟩ <;> rcases ht with ht | ⟨t, rfl, ht, htne⟩
  · rw [hs.signedValue_eq.1, ht.signedValue_eq.1] at h
    exact hs.inj ht h
  · rw [hs.signedValue_eq.1, signedValue_minus] at h
    exact absurd (by linarith [decimalValue_nonneg s, decimalValue_nonneg t]) htne
  · rw [ht.signedValue_eq.1, signedValue_minus] at h
    exact absurd (by linarith [decimalValue_nonneg s, decimalValue_nonneg t]) hsne
  · rw [signedValue_minus, signedValue_minus, neg_inj] at h
    rw [hs.inj ht h]

end Arithmetic
end Rovai.Usage
