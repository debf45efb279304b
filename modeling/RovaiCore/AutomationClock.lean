import RovaiCore.Runs
import Mathlib
/-!
# Sleep detection (`automation_clock.rs`)

The clock of the automations sees the time that the device has slept only through brackets, and keeps the least upper bound it has
seen since it last noticed a sleep.
-/
namespace Rovai.Automation

structure AutomationClock where
  recoveryBoundary : Int
  sleepOffset : Option Nat

namespace AutomationClock

def start (now : Int) (sample : Option (Nat × Nat)) : AutomationClock where
  recoveryBoundary := now
  sleepOffset := sample.map fun bounds => bounds.2

def saturatingAdd (a b : Nat) : Nat := min (a + b) (2 ^ 64 - 1)

theorem saturatingAdd_lt {a b c : Nat} (hc : c < 2 ^ 64) : saturatingAdd a b < c ↔ a + b < c := by
  have hmax : ¬2 ^ 64 - 1 < c := Nat.not_lt.2 (Nat.le_sub_one_of_lt hc)
  unfold saturatingAdd
  exact min_lt_iff.trans (or_iff_left hmax)

def observe (c : AutomationClock) (now observedAt : Int) (sample : Option (Nat × Nat)) :
    AutomationClock × Option (Int × Int) :=
  match sample with
  | none => (c, none)
  | some (lower, upper) =>
    match c.sleepOffset with
    | some previous =>
      if lower > saturatingAdd previous 1000000 then
        ({ recoveryBoundary := max c.recoveryBoundary observedAt, sleepOffset := some upper }, none)
      else ({ c with sleepOffset := some (min previous upper) }, some (now, c.recoveryBoundary))
    | none => ({ recoveryBoundary := max c.recoveryBoundary observedAt, sleepOffset := some upper }, none)

end AutomationClock

/-! ## Observations -/

/-- An observation, and how long the device had slept when it was sampled. -/
structure SleepObservation where
  (now observedAt : Int)
  sample : Option (Nat × Nat)
  offset : Nat

/-- A sample of 64 bits holds the offset between two bounds that are at most a millisecond apart. -/
def SleepObservation.Bracketed (o : SleepObservation) : Prop :=
  ∀ lower upper, o.sample = some (lower, upper) → lower ≤ o.offset ∧ o.offset ≤ upper ∧ upper ≤ lower + 1000000 ∧ upper < 2 ^ 64

/-- A clock, with the offsets it was told of: at the latest observation, at the latest sample, and at the latest sample that set
its reference, which the clock does at its start and whenever it notices a sleep. -/
structure WatchedClock where
  clock : AutomationClock
  offset : Nat
  (sampled established : Option Nat)

namespace WatchedClock

variable {w : WatchedClock} {o : SleepObservation}

def tick (w : WatchedClock) (o : SleepObservation) : Option (Int × Int) :=
  (w.clock.observe o.now o.observedAt o.sample).2

def init (o : SleepObservation) : WatchedClock where
  clock := .start o.now o.sample
  offset := o.offset
  sampled := o.sample.map fun _ => o.offset
  established := o.sample.map fun _ => o.offset

def step (w : WatchedClock) (o : SleepObservation) : WatchedClock where
  clock := (w.clock.observe o.now o.observedAt o.sample).1
  offset := o.offset
  sampled := if o.sample.isSome then some o.offset else w.sampled
  established := if o.sample.isSome ∧ w.tick o = none then some o.offset else w.established

def Follows (w : WatchedClock) (o : SleepObservation) : Prop := w.offset ≤ o.offset ∧ o.Bracketed

/-- The reference lies between the offset that established it and a millisecond above it, and not further above the latest one. -/
structure Tracks (w : WatchedClock) : Prop where
  none : w.clock.sleepOffset = none → w.sampled = none ∧ w.established = none
  some : ∀ p, w.clock.sleepOffset = some p → ∃ k e, w.sampled = some k ∧ w.established = some e ∧
    e ≤ p ∧ p ≤ e + 1000000 ∧ p ≤ k + 1000000 ∧ e ≤ w.offset

theorem tracks_init (h : o.Bracketed) : (init o).Tracks := by
  cases hs : o.sample with
  | none => exact ⟨fun _ => by simp [init, hs], fun p hp => by simp [init, AutomationClock.start, hs] at hp⟩
  | some bounds =>
    obtain ⟨hl, hu, hgap, -⟩ := h bounds.1 bounds.2 hs
    refine ⟨fun hn => by simp [init, AutomationClock.start, hs] at hn, fun p hp => ⟨o.offset, o.offset, ?_⟩⟩
    have hp' : bounds.2 = p := by simpa [init, AutomationClock.start, hs] using hp
    refine ⟨by simp [init, hs], by simp [init, hs], ?_, ?_, ?_, Nat.le_refl _⟩ <;> omega

/-! ## One tick -/

theorem boundary_step (w : WatchedClock) (o : SleepObservation) :
    w.clock.recoveryBoundary ≤ (w.step o).clock.recoveryBoundary := by
  unfold step AutomationClock.observe
  dsimp only
  split
  · exact Int.le_refl _
  split
  · split
    · exact Int.le_max_left _ _
    · exact Int.le_refl _
  · exact Int.le_max_left _ _

theorem tick_boundary {now boundary : Int} (h : w.tick o = some (now, boundary)) :
    boundary = w.clock.recoveryBoundary ∧ now = o.now := by
  unfold tick AutomationClock.observe at h
  split at h
  · cases h
  split at h
  · split at h
    · cases h
    cases h
    exact ⟨rfl, rfl⟩
  · cases h

/-- **A sample against a reference**: within a millisecond of it the tick goes through, above it the clock has slept. -/
theorem tick_sampled {p lower upper : Nat} (hp : w.clock.sleepOffset = some p) (hs : o.sample = some (lower, upper))
    (hupper : lower < 2 ^ 64) :
    (lower ≤ p + 1000000 ∧ w.tick o = some (o.now, w.clock.recoveryBoundary) ∧
      (w.step o).clock = { w.clock with sleepOffset := some (min p upper) }) ∨
    (p + 1000000 < lower ∧ w.tick o = none ∧
      (w.step o).clock = ⟨max w.clock.recoveryBoundary o.observedAt, some upper⟩) := by
  unfold tick step AutomationClock.observe
  simp only [hs, hp, gt_iff_lt, AutomationClock.saturatingAdd_lt hupper]
  by_cases hslept : p + 1000000 < lower
  · simp only [if_pos hslept]
    exact .inr ⟨hslept, trivial, trivial⟩
  · simp only [if_neg hslept]
    exact .inl ⟨Nat.le_of_not_lt hslept, trivial, trivial⟩

theorem tracks_step (h : w.Tracks) (hfollows : w.Follows o) : (w.step o).Tracks := by
  obtain ⟨hgrows, hbracketed⟩ := hfollows
  cases hs : o.sample with
  | none =>
    have hclock : (w.step o).clock = w.clock := by simp [step, AutomationClock.observe, hs]
    have hsampled : (w.step o).sampled = w.sampled := by simp [step, hs]
    have hestablished : (w.step o).established = w.established := by simp [step, hs]
    refine ⟨?_, fun p hp => ?_⟩
    · rw [hclock, hsampled, hestablished]
      exact h.none
    · rw [hclock] at hp
      obtain ⟨k, e, hk, he, hrest⟩ := h.some p hp
      exact ⟨k, e, hsampled.trans hk, hestablished.trans he, hrest.1, hrest.2.1, hrest.2.2.1,
        Nat.le_trans hrest.2.2.2 hgrows⟩
  | some bounds =>
    obtain ⟨lower, upper⟩ := bounds
    obtain ⟨hl, hu, hgap, hsize⟩ := hbracketed lower upper hs
    have hsampled : (w.step o).sampled = some o.offset := by simp [step, hs]
    -- a reference that is set anew is the upper bound of this sample
    have hreset : w.tick o = none → (w.step o).clock.sleepOffset = some upper → (w.step o).Tracks := by
      intro hnone hclock
      refine ⟨fun hn => (by rw [hclock] at hn; cases hn), fun p hp => ⟨o.offset, o.offset, hsampled, by simp [step, hs, hnone], ?_⟩⟩
      rw [hclock] at hp
      cases hp
      exact ⟨hu, by omega, by omega, Nat.le_refl _⟩
    cases hp : w.clock.sleepOffset with
    | none =>
      apply hreset
      · simp [tick, AutomationClock.observe, hs, hp]
      · simp [step, AutomationClock.observe, hs, hp]
    | some p =>
      obtain ⟨hlow, htick, hclock⟩ | ⟨-, htick, hclock⟩ := @tick_sampled w o p lower upper hp hs (by omega)
      · obtain ⟨k, e, hk, he, hep, hpe, -, hoff⟩ := h.some p hp
        refine ⟨fun hn => (by rw [hclock] at hn; cases hn), fun q hq => ⟨o.offset, e, hsampled, ?_, ?_⟩⟩
        · simp [step, htick, he]
        rw [hclock] at hq
        cases hq
        show e ≤ min p upper ∧ min p upper ≤ e + 1000000 ∧ min p upper ≤ o.offset + 1000000 ∧ e ≤ o.offset
        omega
      · exact hreset htick (by rw [hclock])

/-! ## Runs -/

/-- **The clock notices the sleeps and nothing else.**  Its boundary never falls; while the offset stands where the reference was
established a sample goes through; growth of more than three milliseconds, since the last sample or since the reference was
established, is noticed by the next sample, and no boundary before it is returned from then on. -/
theorem sleep_detected {first : SleepObservation} (hfirst : first.Bracketed) {os : List SleepObservation}
    (hrun : Runs.AllSteps step Follows (init first) os) {o : SleepObservation} (ho : (os.foldl step (init first)).Follows o) :
    (os.foldl step (init first)).clock.recoveryBoundary ≤ ((os ++ [o]).foldl step (init first)).clock.recoveryBoundary ∧
    (o.sample.isSome → (os.foldl step (init first)).established = some o.offset →
      (os.foldl step (init first)).tick o = some (o.now, (os.foldl step (init first)).clock.recoveryBoundary) ∧
      ((os ++ [o]).foldl step (init first)).clock.recoveryBoundary = (os.foldl step (init first)).clock.recoveryBoundary) ∧
    ∀ before, o.sample.isSome → ((os.foldl step (init first)).sampled = some before ∨
        (os.foldl step (init first)).established = some before) → before + 3000000 < o.offset →
      (os.foldl step (init first)).tick o = none ∧
      ∀ later o' now boundary, ((os ++ o :: later).foldl step (init first)).tick o' = some (now, boundary) →
        o.observedAt ≤ boundary := by
  have htracks := Runs.run_invariant_of_allSteps step (fun _ _ hok hw => tracks_step hw hok) os _ hrun (tracks_init hfirst)
  simp only [List.foldl_append, List.foldl_cons, List.foldl_nil]
  generalize os.foldl step (init first) = w at ho htracks ⊢
  refine ⟨boundary_step w o, fun hsome hestablished => ?_, fun before hsome hbefore hgrown => ?_⟩
  · obtain ⟨⟨lower, upper⟩, hs⟩ := Option.isSome_iff_exists.1 hsome
    obtain ⟨hl, hu, -, hsize⟩ := ho.2 lower upper hs
    cases hp : w.clock.sleepOffset with
    | none => rw [(htracks.none hp).2] at hestablished; cases hestablished
    | some p =>
      obtain ⟨k, e, -, he, hep, -⟩ := htracks.some p hp
      have heo : e = o.offset := Option.mem_unique he hestablished
      obtain ⟨-, htick, hclock⟩ | ⟨hslept, -⟩ := @tick_sampled w o p lower upper hp hs (by omega)
      · exact ⟨htick, by show (w.step o).clock.recoveryBoundary = _; rw [hclock]⟩
      · omega
  · obtain ⟨⟨lower, upper⟩, hs⟩ := Option.isSome_iff_exists.1 hsome
    obtain ⟨hl, hu, hgap, hsize⟩ := ho.2 lower upper hs
    cases hp : w.clock.sleepOffset with
    | none =>
      have hnone := htracks.none hp
      rw [hnone.1, hnone.2] at hbefore
      exact hbefore.elim nofun nofun
    | some p =>
      obtain ⟨k, e, hk, he, hep, hpe, hpk, -⟩ := htracks.some p hp
      have hpb : p ≤ before + 1000000 := by
        rcases hbefore with hb | hb
        · rwa [← Option.mem_unique hk hb]
        · rwa [← Option.mem_unique he hb]
      obtain ⟨hlow, -⟩ | ⟨-, htick, hclock⟩ := @tick_sampled w o p lower upper hp hs (by omega)
      · omega
      refine ⟨htick, fun later o' now boundary hlater => ?_⟩
      rw [(tick_boundary hlater).1]
      refine Runs.run_invariant step (P := fun w => o.observedAt ≤ w.clock.recoveryBoundary)
        (fun v a hv => Int.le_trans hv (boundary_step v a)) later _ ?_
      rw [hclock]
      exact Int.le_max_right _ _

/-- Four milliseconds of sleep, seen by the second tick. -/
theorem sleep_detected_once :
    ((init ⟨0, 0, some (0, 10), 5⟩).step ⟨7, 7, some (0, 9), 5⟩).tick ⟨20, 21, some (4000000, 4000010), 4000007⟩ = none :=
  have bracketed : ∀ {now observedAt : Int} {lower upper offset : Nat}, lower ≤ offset → offset ≤ upper → upper ≤ lower + 1000000 →
      upper < 2 ^ 64 → (SleepObservation.mk now observedAt (some (lower, upper)) offset).Bracketed := by
    rintro now observedAt lower upper offset hl hu hgap hsize _ _ ⟨⟩
    exact ⟨hl, hu, hgap, hsize⟩
  ((@sleep_detected ⟨0, 0, some (0, 10), 5⟩ (bracketed (by decide) (by decide) (by decide) (by decide)) [⟨7, 7, some (0, 9), 5⟩]
    ⟨⟨by decide, bracketed (by decide) (by decide) (by decide) (by decide)⟩, trivial⟩
    ⟨20, 21, some (4000000, 4000010), 4000007⟩
    ⟨by decide, bracketed (by decide) (by decide) (by decide) (by decide)⟩).2.2 5 rfl (.inl rfl) (by decide)).1

end WatchedClock
end Rovai.Automation
