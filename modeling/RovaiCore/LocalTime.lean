import Mathlib.Algebra.Order.Ring.Int
import Mathlib.Tactic.Ring
/-!
# Local time

A zone shows every instant as a local time. Where the local clock jumps forward there is a gap of local times that never are
shown, where it jumps back a fold of local times that are shown twice.
-/
namespace LocalTime

def minute : Int := 60 * 1000000000
def day : Int := 1440 * minute

def dayOf (n : Int) : Int := n / day

inductive LocalResult where
  | none
  | single (u : Int)
  | ambiguous (u v : Int)

def LocalResult.Names : LocalResult → Int → Prop
  | .none, _ => False
  | .single u, w => w = u
  | .ambiguous u v, w => w = u ∨ w = v

def LocalResult.earliest : LocalResult → Option Int
  | .none => Option.none
  | .single u => some u
  | .ambiguous u v => some (min u v)

/-- A time zone: the local time of an instant, less than a day away from it, and the instants of a local time. -/
structure Zone where
  toLocal : Int → Int
  fromLocal : Int → LocalResult
  offset : ∀ u, -day < toLocal u - u ∧ toLocal u - u < day
  names : ∀ n u, (fromLocal n).Names u ↔ toLocal u = n

namespace Zone

variable (z : Zone)

def Gap (u n : Int) : Prop := z.toLocal u < n ∧ n < z.toLocal (u + 1)

def Fold (u n : Int) : Prop := z.toLocal (u + 1) ≤ n ∧ n ≤ z.toLocal u

def JumpOn (u d : Int) : Prop := ∃ n, dayOf n = d ∧ (z.Gap u n ∨ z.Fold u n)

def OneJumpPerDay : Prop := ∀ u v d, z.JumpOn u d → z.JumpOn v d → u = v

def ShortGaps : Prop := ∀ u, z.toLocal (u + 1) - z.toLocal u - 1 ≤ 180 * minute

def WholeGaps : Prop := ∀ u n, z.Gap u n →
  minute ∣ z.toLocal (u + 1) ∨ dayOf (z.toLocal u + 1) = dayOf (z.toLocal (u + 1) + minute - 1)

def first (n : Int) : Option Int := (z.fromLocal n).earliest

end Zone

section

variable {z : Zone} {n m t u v : Int}

/-! ## Crossing -/

theorem exists_crossing (P : Int → Prop) : ∀ (k : Nat) (s : Int), P s → ¬ P (s + k) →
    ∃ u, s ≤ u ∧ u < s + k ∧ P u ∧ ¬ P (u + 1)
  | 0, s, h, hn => absurd h (by simpa using hn)
  | k + 1, s, h, hn => by
    by_cases hnext : P (s + 1)
    · obtain ⟨u, hu, hlt, hp, hq⟩ := exists_crossing P k (s + 1) hnext (by
        have : s + 1 + (k : Int) = s + ((k + 1 : Nat) : Int) := by push_cast; ring
        rwa [this])
      exact ⟨u, by omega, by push_cast; omega, hp, hq⟩
    · exact ⟨s, le_rfl, by push_cast; omega, h, hnext⟩

theorem exists_crossing_between (P : Int → Prop) {s t : Int} (hst : s ≤ t) (hs : P s) (ht : ¬ P t) :
    ∃ u, s ≤ u ∧ u < t ∧ P u ∧ ¬ P (u + 1) := by
  have hk : s + ((t - s).toNat : Int) = t := by omega
  obtain ⟨u, hu, hlt, hp, hq⟩ := exists_crossing P (t - s).toNat s hs (by rwa [hk])
  exact ⟨u, hu, by omega, hp, hq⟩

/-- **A local time that the clock has passed was shown or skipped.** -/
theorem shown_or_skipped (h : n ≤ z.toLocal t) : (∃ u ≤ t, z.toLocal u = n) ∨ ∃ u < t, z.Gap u n := by
  have hstart := (z.offset (n - day)).2
  have hend := (z.offset t).2
  obtain ⟨u, -, hut, hbefore, hafter⟩ := exists_crossing_between (fun u => z.toLocal u < n) (s := n - day) (t := t)
    (by omega) (by omega) (by omega)
  rcases (not_lt.1 hafter).lt_or_eq with hlt | heq
  · exact .inr ⟨u, hut, hbefore, hlt⟩
  · exact .inl ⟨u + 1, by omega, heq.symm⟩

/-- **A skipped local time is never shown**, when no day has two jumps. -/
theorem not_shown_of_gap (hone : z.OneJumpPerDay) (hgap : z.Gap u n) (v : Int) : z.toLocal v ≠ n := by
  intro hv
  obtain ⟨hlow, hhigh⟩ := hgap
  -- the clock comes back to the time over a fold of the same day
  have hfold : ∃ w, w ≠ u ∧ z.Fold w n := by
    rcases le_or_gt v u with hle | hgt
    · obtain ⟨w, -, hwu, hbefore, hafter⟩ := exists_crossing_between (fun w => n ≤ z.toLocal w) (s := v) (t := u) hle
        (by omega) (by omega)
      exact ⟨w, by omega, by omega, hbefore⟩
    · obtain ⟨w, huw, -, hbefore, hafter⟩ := exists_crossing_between (fun w => n < z.toLocal w) (s := u + 1) (t := v)
        (by omega) hhigh (by omega)
      exact ⟨w, by omega, by omega, by omega⟩
  obtain ⟨w, hne, hw⟩ := hfold
  exact hne (hone w u (dayOf n) ⟨n, rfl, .inr hw⟩ ⟨n, rfl, .inl ⟨hlow, hhigh⟩⟩)

/-! ## First instants -/

theorem first_eq_none : z.first n = none ↔ ∀ u, z.toLocal u ≠ n := by
  unfold Zone.first
  have hnames := z.names n
  cases h : z.fromLocal n with
  | none =>
    rw [h] at hnames
    exact iff_of_true rfl (fun u hu => (hnames u).2 hu)
  | single w =>
    rw [h] at hnames
    exact iff_of_false (by simp [LocalResult.earliest]) (fun hall => hall w ((hnames w).1 rfl))
  | ambiguous w =>
    rw [h] at hnames
    exact iff_of_false (by simp [LocalResult.earliest]) (fun hall => hall w ((hnames w).1 (.inl rfl)))

theorem first_spec (h : z.first n = some u) : z.toLocal u = n ∧ ∀ v, z.toLocal v = n → u ≤ v := by
  unfold Zone.first at h
  have hnames := z.names n
  cases hr : z.fromLocal n with
  | none => rw [hr] at h; cases h
  | single w =>
    rw [hr] at h hnames
    obtain rfl : w = u := Option.some.inj h
    exact ⟨(hnames w).1 rfl, fun v hv => ((hnames v).2 hv).ge⟩
  | ambiguous w w' =>
    rw [hr] at h hnames
    obtain rfl : min w w' = u := Option.some.inj h
    refine ⟨?_, fun v hv => ?_⟩
    · rcases min_choice w w' with hmin | hmin <;> rw [hmin]
      · exact (hnames w).1 (.inl rfl)
      · exact (hnames w').1 (.inr rfl)
    · rcases (hnames v).2 hv with rfl | rfl
      · exact min_le_left _ _
      · exact min_le_right _ _

theorem gap_of_first_none (h : z.first n = none) : ∃ u, z.Gap u n := by
  have hend := (z.offset (n + day)).1
  rcases shown_or_skipped (z := z) (n := n) (t := n + day) (by omega) with ⟨u, -, hu⟩ | ⟨u, -, hu⟩
  · exact absurd hu (first_eq_none.1 h u)
  · exact ⟨u, hu⟩

/-- **What the clock has passed came first before.** -/
theorem first_le_of_le (hone : z.OneJumpPerDay) (h : z.first n = some u) (ht : n ≤ z.toLocal t) : u ≤ t := by
  obtain ⟨hu, hleast⟩ := first_spec h
  rcases shown_or_skipped ht with ⟨v, hvt, hv⟩ | ⟨v, -, hv⟩
  · exact (hleast v hv).trans hvt
  · exact absurd hu (not_shown_of_gap hone hv u)

/-! ## Days and minutes -/

theorem day_pos : 0 < day := by decide

theorem minute_eq : minute = 60000000000 := by decide

theorem day_eq : day = 86400000000000 := by decide

theorem dayOf_le (h : n ≤ m) : dayOf n ≤ dayOf m := Int.ediv_le_ediv day_pos h

theorem dayOf_bounds (n : Int) : dayOf n * day ≤ n ∧ n < (dayOf n + 1) * day := by
  unfold dayOf
  rw [day_eq]
  omega

theorem dayOf_eq {d : Int} (h : d * day ≤ n) (h' : n < (d + 1) * day) : dayOf n = d := by
  unfold dayOf
  rw [day_eq] at h h' ⊢
  omega

/-- **From any minute a shown one is at most three hours away**, and no local time of a later day is shown before it. -/
theorem exists_shown (hone : z.OneJumpPerDay) (hshort : z.ShortGaps) (hwhole : z.WholeGaps) (hn : minute ∣ n) :
    ∃ j : Nat, j ≤ 180 ∧ z.first (n + j * minute) ≠ none ∧
      ∀ t, (dayOf n + 1) * day ≤ z.toLocal t → n + j * minute ≤ z.toLocal t := by
  have hday := dayOf_bounds n
  by_cases hshown : z.first n = none
  · obtain ⟨v, hgap⟩ := gap_of_first_none hshown
    have hlen := hshort v
    obtain ⟨hlow, hhigh⟩ := hgap
    have hmin := minute_eq
    -- the first minute at or after the end of the gap
    obtain ⟨j, hj⟩ : ∃ j : Nat, z.toLocal (v + 1) ≤ n + j * minute ∧ n + j * minute < z.toLocal (v + 1) + minute :=
      ⟨((z.toLocal (v + 1) - n + minute - 1) / minute).toNat, by rw [hmin]; omega, by rw [hmin]; omega⟩
    obtain ⟨hend, hnear⟩ := hj
    have hsmall : j ≤ 180 := by
      rw [hmin] at hlen hend hnear
      omega
    have hpast : ∀ t, n ≤ z.toLocal t → z.toLocal (v + 1) ≤ z.toLocal t := fun t ht =>
      not_lt.1 (fun hlt => not_shown_of_gap hone (u := v) (n := z.toLocal t) ⟨by omega, hlt⟩ t rfl)
    refine ⟨j, hsmall, ?_⟩
    rcases hwhole v n ⟨hlow, hhigh⟩ with hgrid | hinside
    · -- the gap ends on the grid
      have heq : n + j * minute = z.toLocal (v + 1) := by
        obtain ⟨a, ha⟩ := hn
        obtain ⟨b, hb⟩ := hgrid
        rw [hmin] at ha hb hend hnear ⊢
        omega
      rw [heq]
      exact ⟨fun hnone => first_eq_none.1 hnone _ rfl, fun t ht => hpast t (by omega)⟩
    · -- the gap and the minute after it lie inside the day
      have hsame : ∀ m, z.toLocal v < m → m < z.toLocal (v + 1) + minute → dayOf m = dayOf (z.toLocal v + 1) := fun m hv hm =>
        le_antisymm (hinside ▸ dayOf_le (by omega)) (dayOf_le (by omega))
      have hslot : dayOf (n + j * minute) = dayOf n :=
        (hsame _ (by omega) (by omega)).trans (hsame n hlow (by rw [hmin]; omega)).symm
      refine ⟨fun hnone => ?_, fun t ht => ?_⟩
      · obtain ⟨w, hw⟩ := gap_of_first_none hnone
        have hvw : w = v := hone w v (dayOf n) ⟨_, hslot, .inl hw⟩ ⟨n, rfl, .inl ⟨hlow, hhigh⟩⟩
        have := hw.2
        rw [hvw] at this
        omega
      · have := (dayOf_bounds (n + j * minute)).2
        rw [hslot] at this
        omega
  · refine ⟨0, by omega, by simpa using hshown, fun t ht => ?_⟩
    simp only [Int.natCast_zero, Int.zero_mul, Int.add_zero]
    omega

end

/-! ## A zone with one jump -/

def jumping (g len : Int) (h : 0 ≤ len ∧ len < day) : Zone where
  toLocal u := if u < g then u else u + len
  fromLocal n := if n < g then .single n else if n < g + len then .none else .single (n - len)
  offset u := by
    have := h.1
    have := h.2
    split <;> omega
  names n u := by
    have := h.1
    split
    · show u = n ↔ _
      split <;> omega
    · split
      · refine iff_of_false id ?_
        split <;> omega
      · show u = n - len ↔ _
        split <;> omega

section

variable {g len : Int} {h : 0 ≤ len ∧ len < day}

theorem toLocal_jumping (u : Int) : (jumping g len h).toLocal u = if u < g then u else u + len := rfl

theorem jumping_gap {u n : Int} (hgap : (jumping g len h).Gap u n) : u = g - 1 := by
  obtain ⟨hlow, hhigh⟩ := hgap
  rw [toLocal_jumping] at hlow hhigh
  split at hlow <;> split at hhigh <;> omega

theorem jumping_one : (jumping g len h).OneJumpPerDay := by
  have hat : ∀ u d, (jumping g len h).JumpOn u d → u = g - 1 := fun u d ⟨n, _, hn⟩ => by
    rcases hn with hgap | ⟨hback, hlow⟩
    · exact jumping_gap hgap
    rw [toLocal_jumping] at hback hlow
    have := h.1
    split at hlow <;> split at hback <;> omega
  exact fun u v d hu hv => (hat u d hu).trans (hat v d hv).symm

theorem jumping_short (hlen : len ≤ 180 * minute) : (jumping g len h).ShortGaps := fun u => by
  have := h.1
  rw [toLocal_jumping, toLocal_jumping]
  rw [minute_eq] at *
  split <;> split <;> omega

theorem jumping_whole (hend : minute ∣ g + len) : (jumping g len h).WholeGaps := fun u n hgap => by
  have hu := jumping_gap hgap
  refine .inl ?_
  rw [toLocal_jumping, if_neg (by omega), hu]
  simpa using hend

end

end LocalTime
