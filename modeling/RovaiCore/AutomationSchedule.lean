import Mathlib
import RovaiCore.Fallible
import RovaiCore.LocalTime
/-!
# Automation schedules (`automation.rs`)

When a schedule is due. `nextOccurrenceAfter` walks the days from the local day of an instant, `latestOccurrenceAtOrBefore`
iterates it over the eight days before one.
-/
namespace Rovai.Automation

open LocalTime (Zone minute day dayOf)
open Fallible (orError orError_eq_ok bind_eq_ok)

/-- What `chrono` and `croner` give: the zone, their parsers, the last date of the calendar and the occurrences of a cron
expression. -/
structure Clock where
  zone : Zone
  (parseTime parseDate : String → Option Int)
  parseCron : String → Bool
  lastDate : Int
  (nextCron previousCron : String → Int → Option Int)
  time_of_day : ∀ s t, parseTime s = some t → 0 ≤ t ∧ t < day ∧ minute ∣ t
  cron_after : ∀ s t u, nextCron s t = some u → t < u

inductive AutomationWeekday where
  | monday | tuesday | wednesday | thursday | friday | saturday | sunday

def AutomationWeekday.numberFromMonday : AutomationWeekday → Int
  | .monday => 1
  | .tuesday => 2
  | .wednesday => 3
  | .thursday => 4
  | .friday => 5
  | .saturday => 6
  | .sunday => 7

inductive AutomationSchedule where
  | daily (at_ : String)
  | weekdays (at_ : String)
  | weekly (weekday : AutomationWeekday) (at_ : String)
  | once (date at_ : String)
  | cron (expression : String)
  | manual

def weekdayNumber (date : Int) : Int := (date + 3) % 7 + 1

section

variable (c : Clock)

def parseTime (value : String) : Except String Int := orError (c.parseTime value) "Automation time must use HH:MM"

def parseDate (value : String) : Except String Int := orError (c.parseDate value) "Automation date must use YYYY-MM-DD"

def parseCronExpression (expression : String) : Except String Unit :=
  if c.parseCron expression then .ok () else .error "Cron expression is invalid"

def validateSchedule : AutomationSchedule → Except String Unit
  | .daily at_ | .weekdays at_ | .weekly _ at_ => do
    let _ ← parseTime c at_
    .ok ()
  | .once date at_ => do
    let _ ← parseDate c date
    let _ ← parseTime c at_
    .ok ()
  | .cron expression => parseCronExpression c expression
  | .manual => .ok ()

/-- The loop of `local_datetime`: the earliest instant of the local time, else of the minute after it. -/
def firstShown (z : Zone) : Nat → Int → Option Int
  | 0, _ => none
  | k + 1, naive => match z.first naive with
    | some u => some u
    | none => firstShown z k (naive + minute)

def localDatetime (z : Zone) (date time : Int) : Option Int := firstShown z 181 (date * day + time)

def scanDays (time after : Int) (predicate : Int → Bool) : Nat → Int → Except String (Option Int)
  | 0, _ => .error "Automation schedule has no occurrence in the supported horizon"
  | k + 1, date =>
    match (if predicate date then (localDatetime c.zone date time).filter (fun candidate => after < candidate) else none) with
    | some candidate => .ok (some candidate)
    | none => if date = c.lastDate then .error "Automation schedule date overflow" else scanDays time after predicate k (date + 1)

def nextMatchingDay (after time : Int) (predicate : Int → Bool) : Except String (Option Int) :=
  scanDays c time after predicate 370 (dayOf (c.zone.toLocal after))

def nextOccurrenceAfter (schedule : AutomationSchedule) (after : Int) : Except String (Option Int) := do
  validateSchedule c schedule
  match schedule with
  | .manual => .ok none
  | .once date at_ => do
    let date ← parseDate c date
    let time ← parseTime c at_
    .ok ((localDatetime c.zone date time).filter (fun candidate => after < candidate))
  | .daily at_ => do
    let time ← parseTime c at_
    nextMatchingDay c after time (fun _ => true)
  | .weekdays at_ => do
    let time ← parseTime c at_
    nextMatchingDay c after time (fun date => weekdayNumber date ≤ 5)
  | .weekly weekday at_ => do
    let time ← parseTime c at_
    nextMatchingDay c after time (fun date => weekdayNumber date = weekday.numberFromMonday)
  | .cron expression => do
    parseCronExpression c expression
    let next ← orError (c.nextCron expression after) "Cron expression has no future occurrence"
    .ok (some next)

end

/-! ## The next occurrence is later -/

section

variable {c : Clock} {schedule : AutomationSchedule} {time after u date : Int} {predicate : Int → Bool} {k : Nat}

theorem scanDays_after : ∀ {k : Nat} {date : Int}, scanDays c time after predicate k date = .ok (some u) → after < u
  | 0, _, h => by cases h
  | k + 1, date, h => by
    rw [scanDays] at h
    split at h
    · rename_i candidate hc
      obtain rfl : candidate = u := by simpa using h
      split at hc
      · simpa using (Option.filter_eq_some_iff.1 hc).2
      · cases hc
    · split at h
      · cases h
      · exact scanDays_after h

theorem nextOccurrenceAfter_after (h : nextOccurrenceAfter c schedule after = .ok (some u)) : after < u := by
  unfold nextOccurrenceAfter at h
  rw [bind_eq_ok] at h
  obtain ⟨-, -, h⟩ := h
  cases schedule with
  | manual => cases h
  | once =>
    simp only [bind_eq_ok] at h
    obtain ⟨d, -, t, -, h⟩ := h
    have hfilter : (localDatetime c.zone d t).filter (fun candidate => after < candidate) = some u := by simpa using h
    simpa using (Option.filter_eq_some_iff.1 hfilter).2
  | daily at_ | weekdays at_ | weekly _ at_ =>
    simp only [bind_eq_ok] at h
    obtain ⟨t, -, h⟩ := h
    exact scanDays_after h
  | cron expression =>
    simp only [bind_eq_ok, orError_eq_ok] at h
    obtain ⟨-, -, next, hnext, h⟩ := h
    obtain rfl : next = u := by simpa using h
    exact c.cron_after _ _ _ hnext

end

/-! ## The latest occurrence -/

def latestFrom (c : Clock) (schedule : AutomationSchedule) (at_ cursor : Int) (latest : Option Int) :
    Except String (Option Int) :=
  match _hnext : nextOccurrenceAfter c schedule cursor with
  | .error e => .error e
  | .ok none => .ok latest
  | .ok (some next) =>
    if _hlate : at_ < next then .ok latest
    else latestFrom c schedule at_ next (some next)
termination_by (at_ - cursor).toNat
decreasing_by
  have := nextOccurrenceAfter_after _hnext
  omega

def latestOccurrenceAtOrBefore (c : Clock) (schedule : AutomationSchedule) (at_ : Int) : Except String (Option Int) :=
  match schedule with
  | .manual => .ok none
  | .once date time => do
    let date ← parseDate c date
    let time ← parseTime c time
    .ok ((localDatetime c.zone date time).filter (fun candidate => candidate ≤ at_))
  | .cron expression => do
    parseCronExpression c expression
    let latest ← orError (c.previousCron expression at_) "Cron expression has no previous occurrence"
    .ok (some latest)
  | schedule => latestFrom c schedule at_ (at_ - 8 * day) none

/-! ## Occurrences -/

def Selects (c : Clock) : AutomationSchedule → Int → Prop
  | .daily _, _ => True
  | .weekdays _, d => weekdayNumber d ≤ 5
  | .weekly weekday _, d => weekdayNumber d = weekday.numberFromMonday
  | .once date _, d => c.parseDate date = some d
  | .cron _, _ | .manual, _ => False

def AutomationSchedule.time : AutomationSchedule → Option String
  | .daily at_ | .weekdays at_ | .weekly _ at_ | .once _ at_ => some at_
  | .cron _ | .manual => none

def occurrences (c : Clock) (schedule : AutomationSchedule) : Set Int :=
  {u | ∃ d time, schedule.time.bind c.parseTime = some time ∧ Selects c schedule d ∧ localDatetime c.zone d time = some u}

def AutomationSchedule.Recurs : AutomationSchedule → Prop
  | .daily _ | .weekdays _ | .weekly _ _ => True
  | .once _ _ | .cron _ | .manual => False

/-- What is assumed of the zone: a gap or fold a day at most, gaps of three hours at most, that end on whole minutes when
they meet a midnight. -/
structure Regular (z : Zone) : Prop where
  one : z.OneJumpPerDay
  short : z.ShortGaps
  whole : z.WholeGaps

section

variable {c : Clock} {schedule : AutomationSchedule} {time after u d date : Int} {predicate : Int → Bool} {k : Nat} {z : Zone}

/-! ## One day -/

theorem firstShown_some : ∀ {k : Nat} {n : Int}, firstShown z k n = some u →
    ∃ j : Nat, z.first (n + j * minute) = some u ∧ ∀ i : Nat, z.first (n + i * minute) ≠ none → j ≤ i
  | 0, _, h => by cases h
  | k + 1, n, h => by
    rw [firstShown] at h
    split at h
    · rename_i v hv
      obtain rfl : v = u := Option.some.inj h
      exact ⟨0, by simpa using hv, fun i _ => Nat.zero_le i⟩
    · rename_i hv
      obtain ⟨j, hj, hleast⟩ := firstShown_some h
      refine ⟨j + 1, by rw [← hj]; congr 1; push_cast; ring, fun i hi => ?_⟩
      cases i with
      | zero => exact absurd (by simpa using hv) hi
      | succ i =>
        refine Nat.succ_le_succ (hleast i ?_)
        have : n + minute + i * minute = n + ((i + 1 : Nat) : Int) * minute := by push_cast; ring
        rwa [this]

theorem firstShown_none : ∀ {k : Nat} {n : Int}, firstShown z k n = none → ∀ j : Nat, j < k → z.first (n + j * minute) = none
  | 0, _, _, j, hj => absurd hj (Nat.not_lt_zero j)
  | k + 1, n, h, j, hj => by
    rw [firstShown] at h
    split at h
    · cases h
    rename_i hv
    cases j with
    | zero => simpa using hv
    | succ j =>
      have hrest := firstShown_none h j (Nat.lt_of_succ_lt_succ hj)
      have : n + minute + j * minute = n + ((j + 1 : Nat) : Int) * minute := by push_cast; ring
      rwa [this] at hrest

def TimeOfDay (time : Int) : Prop := 0 ≤ time ∧ time < day ∧ minute ∣ time

theorem TimeOfDay.dayOf (h : TimeOfDay time) (d : Int) : dayOf (d * day + time) = d := by
  obtain ⟨h0, h1, -⟩ := h
  exact LocalTime.dayOf_eq (by omega) (by rw [Int.add_mul]; omega)

theorem TimeOfDay.dvd (h : TimeOfDay time) (d : Int) : minute ∣ d * day + time :=
  Int.dvd_add (Int.dvd_trans ⟨1440, by decide⟩ (Int.dvd_mul_left d day)) h.2.2

/-- **What a day's occurrence is**: it shows a local time of the day or a later one, and every local time of a later day is
shown after it. -/
theorem localDatetime_spec (hz : Regular z) (htime : TimeOfDay time) (d : Int) :
    ∃ u, localDatetime z d time = some u ∧ d * day ≤ z.toLocal u ∧ ∀ t, (d + 1) * day ≤ z.toLocal t → u ≤ t := by
  obtain ⟨j, hj, hshown, hbefore⟩ := LocalTime.exists_shown hz.one hz.short hz.whole (htime.dvd d)
  rw [htime.dayOf] at hbefore
  cases h : localDatetime z d time with
  | none => exact absurd (firstShown_none h j (by omega)) hshown
  | some u =>
    obtain ⟨i, hi, hleast⟩ := firstShown_some h
    have hij := hleast j hshown
    have hpos := LocalTime.minute_eq
    have hstep : (i : Int) * minute ≤ j * minute := by rw [hpos]; omega
    refine ⟨u, rfl, ?_, fun t ht => LocalTime.first_le_of_le hz.one hi ?_⟩
    · have hnonneg : 0 ≤ (i : Int) * minute := by rw [hpos]; omega
      have := htime.1
      rw [(LocalTime.first_spec hi).1]
      omega
    · have := hbefore t ht
      omega

theorem localDatetime_mono (hz : Regular z) (htime : TimeOfDay time) {d d' v : Int} (h : localDatetime z d time = some u)
    (h' : localDatetime z d' time = some v) (hlt : d < d') : u ≤ v := by
  obtain ⟨w, hw, -, hlater⟩ := localDatetime_spec hz htime d
  obtain ⟨w', hw', hday, -⟩ := localDatetime_spec hz htime d'
  obtain rfl : u = w := Option.mem_unique h hw
  obtain rfl : v = w' := Option.mem_unique h' hw'
  refine hlater v (le_trans ?_ hday)
  exact Int.mul_le_mul_of_nonneg_right (by omega) LocalTime.day_pos.le

/-! ## The scan -/

theorem scanDays_spec : ∀ (k : Nat) {date d : Int}, date ≤ d → d < date + k → d ≤ c.lastDate → predicate d = true →
    localDatetime c.zone d time = some u → after < u → ∃ d' u', scanDays c time after predicate k date = .ok (some u') ∧
      predicate d' = true ∧ localDatetime c.zone d' time = some u' ∧ after < u' ∧
      ∀ e v, date ≤ e → e < d' → predicate e = true → localDatetime c.zone e time = some v → v ≤ after
  | 0, date, d, hge, hlt, _, _, _, _ => by omega
  | k + 1, date, d, hge, hlt, hlast, hp, hu, hafter => by
    rw [scanDays]
    cases hhere : (if predicate date then (localDatetime c.zone date time).filter (fun candidate => after < candidate)
        else none) with
    | some v =>
      split at hhere
      · rename_i hsel
        obtain ⟨hv, hlater⟩ := Option.filter_eq_some_iff.1 hhere
        exact ⟨date, v, rfl, hsel, hv, by simpa using hlater, fun e w he hed => by omega⟩
      · cases hhere
    | none =>
      have hskip : ∀ v, predicate date = true → localDatetime c.zone date time = some v → v ≤ after := fun v hsel hv => by
        rw [if_pos hsel, hv] at hhere
        simpa using hhere
      have hne : date ≠ d := fun heq => by
        subst heq
        have := hskip u hp hu
        omega
      have hon : date + 1 ≤ d := by omega
      obtain ⟨d', u', hscan, hsel', hu', hlater', hfirst⟩ := scanDays_spec k hon (by push_cast at hlt; omega) hlast hp hu hafter
      refine ⟨d', u', ?_, hsel', hu', hlater', fun e v he hed hsel hv => ?_⟩
      · dsimp only
        rw [if_neg (by omega : date ≠ c.lastDate)]
        exact hscan
      · rcases he.lt_or_eq with hgt | rfl
        · exact hfirst e v (by omega) hed hsel hv
        · exact hskip v hsel hv

theorem after_lt_of_dayOf (hz : Regular c.zone) (htime : TimeOfDay time) (hd : dayOf (c.zone.toLocal after) + 3 ≤ d) :
    ∃ u, localDatetime c.zone d time = some u ∧ after < u := by
  obtain ⟨u, hu, hday, -⟩ := localDatetime_spec hz htime d
  refine ⟨u, hu, ?_⟩
  have hlow := (c.zone.offset after).1
  have hhigh := (c.zone.offset u).2
  have hbound := (LocalTime.dayOf_bounds (c.zone.toLocal after)).2
  rw [LocalTime.day_eq] at *
  omega

/-- **The scan finds the least occurrence later than the instant**, when a week always has a selected day. -/
theorem nextMatchingDay_isLeast (hz : Regular c.zone) (htime : TimeOfDay time)
    (hweek : ∀ e, ∃ d, e ≤ d ∧ d < e + 7 ∧ predicate d = true) (hroom : dayOf (c.zone.toLocal after) + 10 ≤ c.lastDate) :
    ∃ u, nextMatchingDay c after time predicate = .ok (some u) ∧
      IsLeast {v | (∃ d, predicate d = true ∧ localDatetime c.zone d time = some v) ∧ after < v} u := by
  obtain ⟨d, hge, hlt, hsel⟩ := hweek (dayOf (c.zone.toLocal after) + 3)
  obtain ⟨u, hu, hafter⟩ := after_lt_of_dayOf hz htime hge
  have hfrom : dayOf (c.zone.toLocal after) ≤ d := by omega
  obtain ⟨d', u', hscan, hsel', hu', hafter', hfirst⟩ := scanDays_spec 370 hfrom (by push_cast; omega) (by omega) hsel hu hafter
  refine ⟨u', hscan, ⟨⟨d', hsel', hu'⟩, hafter'⟩, fun v hv => ?_⟩
  obtain ⟨⟨e, hesel, hev⟩, hvafter⟩ := hv
  rcases lt_trichotomy e d' with hed | rfl | hed
  · -- a day before today has its occurrence behind it, one from today on was passed by
    exfalso
    rcases lt_or_ge e (dayOf (c.zone.toLocal after)) with hpast | hscanned
    · obtain ⟨w, hw, -, hlater⟩ := localDatetime_spec hz htime e
      obtain rfl : v = w := Option.mem_unique hev hw
      have := hlater after (le_trans (Int.mul_le_mul_of_nonneg_right (by omega) LocalTime.day_pos.le)
        (LocalTime.dayOf_bounds (c.zone.toLocal after)).1)
      omega
    · have := hfirst e v hscanned hed hesel hev
      omega
  · exact (Option.mem_unique hu' hev).le
  · exact localDatetime_mono hz htime hu' hev hed

/-! ## Both directions -/

theorem exists_time (hvalid : validateSchedule c schedule = .ok ()) (htimed : schedule.time.isSome) :
    ∃ time, schedule.time.bind c.parseTime = some time ∧ TimeOfDay time := by
  cases schedule with
  | cron _ | manual => cases htimed
  | daily at_ | weekdays at_ | weekly _ at_ =>
    simp only [validateSchedule, bind_eq_ok, parseTime, orError_eq_ok] at hvalid
    obtain ⟨time, htime, -⟩ := hvalid
    exact ⟨time, htime, c.time_of_day _ _ htime⟩
  | once =>
    simp only [validateSchedule, bind_eq_ok, parseTime, orError_eq_ok] at hvalid
    obtain ⟨-, -, time, htime, -⟩ := hvalid
    exact ⟨time, htime, c.time_of_day _ _ htime⟩

theorem mem_occurrences (htime : schedule.time.bind c.parseTime = some time) :
    u ∈ occurrences c schedule ↔ ∃ d, Selects c schedule d ∧ localDatetime c.zone d time = some u :=
  ⟨fun ⟨d, _, ht, hsel, hu⟩ => ⟨d, hsel, Option.mem_unique ht htime ▸ hu⟩, fun ⟨d, hsel, hu⟩ => ⟨d, time, htime, hsel, hu⟩⟩

theorem nextOccurrenceAfter_of_recurs (hrec : schedule.Recurs) (htime : schedule.time.bind c.parseTime = some time) :
    ∃ predicate : Int → Bool, (∀ after, nextOccurrenceAfter c schedule after = nextMatchingDay c after time predicate) ∧
      (∀ d, predicate d = true ↔ Selects c schedule d) ∧ ∀ e, ∃ d, e ≤ d ∧ d < e + 7 ∧ predicate d = true := by
  have hok : ∀ at_, c.parseTime at_ = some time → parseTime c at_ = .ok time := fun at_ h => by
    rw [parseTime, h]
    rfl
  cases schedule with
  | once _ _ | cron _ | manual => exact hrec.elim
  | daily at_ =>
    refine ⟨fun _ => true, fun after => ?_, fun d => by simp [Selects], fun e => ⟨e, by omega, by omega, rfl⟩⟩
    simp only [nextOccurrenceAfter, validateSchedule, hok at_ htime]
    rfl
  | weekdays at_ =>
    refine ⟨fun date => weekdayNumber date ≤ 5, fun after => ?_, fun d => by simp [Selects], fun e => ?_⟩
    · simp only [nextOccurrenceAfter, validateSchedule, hok at_ htime]
      rfl
    · -- a weekend is two days long
      by_cases he : weekdayNumber e ≤ 5
      · exact ⟨e, by omega, by omega, by simpa using he⟩
      refine ⟨e + 2, by omega, by omega, decide_eq_true ?_⟩
      unfold weekdayNumber at he ⊢
      omega
  | weekly weekday at_ =>
    refine ⟨fun date => weekdayNumber date = weekday.numberFromMonday, fun after => ?_, fun d => by simp [Selects], fun e => ?_⟩
    · simp only [nextOccurrenceAfter, validateSchedule, hok at_ htime]
      rfl
    · have hnumber : 1 ≤ weekday.numberFromMonday ∧ weekday.numberFromMonday ≤ 7 := by cases weekday <;> decide
      refine ⟨e + (weekday.numberFromMonday - 1 - (e + 3)) % 7, by omega, by omega, decide_eq_true ?_⟩
      unfold weekdayNumber
      omega

/-- **The successor of a schedule that comes back.** -/
theorem nextOccurrenceAfter_isLeast (hz : Regular c.zone) (hrec : schedule.Recurs)
    (htime : schedule.time.bind c.parseTime = some time) (hday : TimeOfDay time)
    (hroom : dayOf (c.zone.toLocal after) + 10 ≤ c.lastDate) :
    ∃ u, nextOccurrenceAfter c schedule after = .ok (some u) ∧ IsLeast {v | v ∈ occurrences c schedule ∧ after < v} u := by
  obtain ⟨predicate, hnext, hsel, hweek⟩ := nextOccurrenceAfter_of_recurs hrec htime
  obtain ⟨u, hu, hleast⟩ := nextMatchingDay_isLeast hz hday hweek hroom
  refine ⟨u, (hnext after).trans hu, ?_⟩
  simpa [mem_occurrences htime, hsel] using hleast

/-- **The loop back collects the greatest occurrence of its window**, when every step in the window finds the next one. -/
theorem latestFrom_spec {occ : Set Int} {at_ : Int} (hnext : ∀ cursor ≤ at_, ∃ u,
    nextOccurrenceAfter c schedule cursor = .ok (some u) ∧ IsLeast {v | v ∈ occ ∧ cursor < v} u) (cursor : Int)
    (latest : Option Int) (hle : cursor ≤ at_) : ∃ r, latestFrom c schedule at_ cursor latest = .ok r ∧
      ((∃ u, r = some u ∧ IsGreatest {v | v ∈ occ ∧ cursor < v ∧ v ≤ at_} u) ∨
        (r = latest ∧ ∀ v ∈ occ, cursor < v → at_ < v)) := by
  obtain ⟨next, hn, hleast⟩ := hnext cursor hle
  rw [latestFrom, hn]
  dsimp only
  by_cases hlate : at_ < next
  · rw [dif_pos hlate]
    exact ⟨latest, rfl, .inr ⟨rfl, fun v hv hcv => lt_of_lt_of_le hlate (hleast.2 ⟨hv, hcv⟩)⟩⟩
  · rw [dif_neg hlate]
    have hafter := hleast.1.2
    obtain ⟨r, hr, hcase⟩ := latestFrom_spec hnext next (some next) (not_lt.1 hlate)
    refine ⟨r, hr, .inl ?_⟩
    rcases hcase with ⟨u, hu, hgreatest⟩ | ⟨hu, hnone⟩
    · exact ⟨u, hu, ⟨hgreatest.1.1, hafter.trans hgreatest.1.2.1, hgreatest.1.2.2⟩, fun v ⟨hv, hcv, hva⟩ => by
        rcases (hleast.2 ⟨hv, hcv⟩).lt_or_eq with hlt | heq
        · exact hgreatest.2 ⟨hv, hlt, hva⟩
        · exact heq ▸ hgreatest.1.2.1.le⟩
    · exact ⟨next, hu, ⟨hleast.1.1, hafter, not_lt.1 hlate⟩, fun v ⟨hv, hcv, hva⟩ => by
        rcases (hleast.2 ⟨hv, hcv⟩).lt_or_eq with hlt | heq
        · have := hnone v hv hlt
          omega
        · exact heq.symm.le⟩
termination_by (at_ - cursor).toNat
decreasing_by omega

def IsNext (c : Clock) (schedule : AutomationSchedule) (t : Int) : Option Int → Prop
  | some u => IsLeast {v | v ∈ occurrences c schedule ∧ t < v} u
  | none => ¬ schedule.Recurs ∧ ∀ v ∈ occurrences c schedule, v ≤ t

def Window (c : Clock) (schedule : AutomationSchedule) (t : Int) : Set Int :=
  {v | v ∈ occurrences c schedule ∧ v ≤ t ∧ (schedule.Recurs → t - 8 * day < v)}

def IsLatest (c : Clock) (schedule : AutomationSchedule) (t : Int) : Option Int → Prop
  | some u => IsGreatest (Window c schedule t) u
  | none => Window c schedule t = ∅

def Room (c : Clock) (t : Int) : Prop := dayOf (c.zone.toLocal t) + 12 ≤ c.lastDate

theorem Room.earlier {t : Int} (h : Room c t) {s : Int} (hst : s ≤ t) : dayOf (c.zone.toLocal s) + 10 ≤ c.lastDate := by
  have hs := (c.zone.offset s).2
  have ht := (c.zone.offset t).1
  have hbelow := (LocalTime.dayOf_bounds (c.zone.toLocal s)).1
  have habove := (LocalTime.dayOf_bounds (c.zone.toLocal t)).2
  unfold Room at h
  rw [LocalTime.day_eq] at *
  omega

variable {date_ at_ : String}

theorem next_once {d : Int} (hdate : c.parseDate date_ = some d) (htime : c.parseTime at_ = some time)
    (hu : localDatetime c.zone d time = some u) (t : Int) :
    nextOccurrenceAfter c (.once date_ at_) t = .ok ((some u).filter (fun candidate => t < candidate)) ∧
      latestOccurrenceAtOrBefore c (.once date_ at_) t = .ok ((some u).filter (fun candidate => candidate ≤ t)) := by
  have hd : parseDate c date_ = .ok d := by
    rw [parseDate, hdate]
    rfl
  have ht : parseTime c at_ = .ok time := by
    rw [parseTime, htime]
    rfl
  simp only [nextOccurrenceAfter, latestOccurrenceAtOrBefore, validateSchedule, hd, ht, hu, bind, Except.bind]
  exact ⟨trivial, trivial⟩

theorem not_once_cases (htimed : schedule.time.isSome) :
    schedule.Recurs ∨ ∃ date_ at_, schedule = .once date_ at_ := by
  cases schedule with
  | daily _ | weekdays _ | weekly _ _ => exact .inl trivial
  | once date_ at_ => exact .inr ⟨date_, at_, rfl⟩
  | cron _ | manual => cases htimed

theorem exists_once (hz : Regular c.zone) (hvalid : validateSchedule c (.once date_ at_) = .ok ()) :
    ∃ d time u, c.parseDate date_ = some d ∧ c.parseTime at_ = some time ∧ localDatetime c.zone d time = some u ∧
      occurrences c (.once date_ at_) = {u} := by
  simp only [validateSchedule, bind_eq_ok, parseTime, parseDate, orError_eq_ok] at hvalid
  obtain ⟨d, hd, time, htime, -⟩ := hvalid
  obtain ⟨u, hu, -⟩ := localDatetime_spec hz (c.time_of_day _ _ htime) d
  refine ⟨d, time, u, hd, htime, hu, Set.ext fun v => ?_⟩
  rw [@mem_occurrences c (.once date_ at_) time v htime]
  constructor
  · rintro ⟨e, he, hv⟩
    obtain rfl : d = e := Option.mem_unique hd he
    exact Option.mem_unique hv hu
  · rintro rfl
    exact ⟨d, hd, hu⟩

theorem isNext_once (hocc : occurrences c (.once date_ at_) = {u}) (t : Int) :
    IsNext c (.once date_ at_) t ((some u).filter (fun candidate => t < candidate)) := by
  by_cases hlater : t < u
  · rw [Option.filter_some_pos (by simpa using hlater)]
    refine ⟨⟨hocc ▸ rfl, hlater⟩, fun v ⟨hv, _⟩ => ?_⟩
    rw [hocc] at hv
    exact (Set.mem_singleton_iff.1 hv).ge
  · rw [Option.filter_some_neg (by simpa using hlater)]
    refine ⟨id, fun v hv => ?_⟩
    rw [hocc] at hv
    exact (Set.mem_singleton_iff.1 hv).le.trans (not_lt.1 hlater)

theorem isLatest_once (hocc : occurrences c (.once date_ at_) = {u}) (t : Int) :
    IsLatest c (.once date_ at_) t ((some u).filter (fun candidate => candidate ≤ t)) := by
  by_cases hpast : u ≤ t
  · rw [Option.filter_some_pos (by simpa using hpast)]
    refine ⟨⟨hocc ▸ rfl, hpast, fun h => h.elim⟩, fun v ⟨hv, _⟩ => ?_⟩
    rw [hocc] at hv
    exact (Set.mem_singleton_iff.1 hv).le
  · rw [Option.filter_some_neg (by simpa using hpast)]
    refine Set.eq_empty_iff_forall_notMem.2 fun v ⟨hv, hle, _⟩ => hpast ?_
    rw [hocc] at hv
    exact Set.mem_singleton_iff.1 hv ▸ hle

theorem exists_next (hz : Regular c.zone) (hvalid : validateSchedule c schedule = .ok ()) (htimed : schedule.time.isSome)
    (t : Int) (hroom : schedule.Recurs → Room c t) :
    ∃ next, nextOccurrenceAfter c schedule t = .ok next ∧ IsNext c schedule t next := by
  rcases not_once_cases htimed with hrec | ⟨date_, at_, rfl⟩
  · obtain ⟨time, htime, hday⟩ := exists_time hvalid htimed
    obtain ⟨u, hu, hleast⟩ := nextOccurrenceAfter_isLeast hz hrec htime hday ((hroom hrec).earlier le_rfl)
    exact ⟨some u, hu, hleast⟩
  · obtain ⟨d, time, u, hd, htime, hu, hocc⟩ := exists_once hz hvalid
    exact ⟨_, (next_once hd htime hu t).1, isNext_once hocc t⟩

theorem latestOccurrence_of_recurs (hrec : schedule.Recurs) (t : Int) :
    latestOccurrenceAtOrBefore c schedule t = latestFrom c schedule t (t - 8 * day) none := by
  cases schedule with
  | daily _ | weekdays _ | weekly _ _ => rfl
  | once _ _ | cron _ | manual => exact hrec.elim

theorem exists_latest (hz : Regular c.zone) (hvalid : validateSchedule c schedule = .ok ()) (htimed : schedule.time.isSome)
    (t : Int) (hroom : schedule.Recurs → Room c t) :
    ∃ latest, latestOccurrenceAtOrBefore c schedule t = .ok latest ∧ IsLatest c schedule t latest := by
  rcases not_once_cases htimed with hrec | ⟨date_, at_, rfl⟩
  · obtain ⟨time, htime, hday⟩ := exists_time hvalid htimed
    have hback : t - 8 * day ≤ t := by
      have := LocalTime.day_pos
      omega
    obtain ⟨latest, hlatest, hcase⟩ := latestFrom_spec
      (fun cursor hle => nextOccurrenceAfter_isLeast hz hrec htime hday ((hroom hrec).earlier hle)) (t - 8 * day) none hback
    refine ⟨latest, (latestOccurrence_of_recurs hrec t).trans hlatest, ?_⟩
    rcases hcase with ⟨u, rfl, hgreatest⟩ | ⟨rfl, hnone⟩
    · exact ⟨⟨hgreatest.1.1, hgreatest.1.2.2, fun _ => hgreatest.1.2.1⟩,
        fun v ⟨hv, hvt, hwindow⟩ => hgreatest.2 ⟨hv, hwindow hrec, hvt⟩⟩
    · exact Set.eq_empty_iff_forall_notMem.2 fun v ⟨hv, hvt, hwindow⟩ => not_lt.2 hvt (hnone v hv (hwindow hrec))
  · obtain ⟨d, time, u, hd, htime, hu, hocc⟩ := exists_once hz hvalid
    exact ⟨_, (next_once hd htime hu t).2, isLatest_once hocc t⟩

/-- **Successors leave no occurrence out.** -/
theorem successors_complete (hz : Regular c.zone) (hvalid : validateSchedule c schedule = .ok ()) (htimed : schedule.time.isSome)
    {f : Nat → Int} {N : Nat} (hroom : schedule.Recurs → ∀ n < N, Room c (f n))
    (hnext : ∀ n < N, nextOccurrenceAfter c schedule (f n) = .ok (some (f (n + 1)))) {v : Int} (hv : v ∈ occurrences c schedule)
    (hafter : f 0 < v) (hle : v ≤ f N) : ∃ n < N, v = f (n + 1) := by
  induction N with
  | zero => omega
  | succ N ih =>
    by_cases hold : v ≤ f N
    · obtain ⟨n, hn, hv⟩ := ih (fun hrec n hn => hroom hrec n (by omega)) (fun n hn => hnext n (by omega)) hold
      exact ⟨n, by omega, hv⟩
    · obtain ⟨next, hok, hleast⟩ := exists_next hz hvalid htimed (f N) fun hrec => hroom hrec N (by omega)
      obtain rfl : some (f (N + 1)) = next := Except.ok.inj ((hnext N (by omega)).symm.trans hok)
      exact ⟨N, by omega, le_antisymm hle (hleast.2 ⟨hv, not_le.1 hold⟩)⟩

end

/-! ## Inputs -/

def jumpingClock (g len : Int) (h : 0 ≤ len ∧ len < day) : Clock where
  zone := LocalTime.jumping g len h
  parseTime s := if s = "02:30" then some (150 * minute) else if s = "23:30" then some (1410 * minute) else none
  parseDate s := if s = "2026-03-08" then some 20520 else none
  parseCron _ := false
  -- 262142-12-31
  lastDate := 95026236
  nextCron _ _ := none
  previousCron _ _ := none
  time_of_day s t h := by
    split at h
    · obtain rfl := Option.some.inj h
      decide
    · split at h
      · obtain rfl := Option.some.inj h
        decide
      · cases h
  cron_after _ _ _ h := by cases h

def springClock : Clock := jumpingClock (20520 * day + 120 * minute) (60 * minute) (by decide)

def utcClock : Clock := jumpingClock 0 0 (by decide)

def lateClock : Clock := jumpingClock (20520 * day + 1380 * minute) (60 * minute + 30000000000) (by decide)

theorem springClock_regular : Regular springClock.zone where
  one := LocalTime.jumping_one (h := by decide)
  short := LocalTime.jumping_short (h := by decide) (by decide)
  whole := LocalTime.jumping_whole (h := by decide) (by decide)

def springMorning : Nat → Int
  | 0 => 20520 * day
  | _ => 20520 * day + 120 * minute

theorem successors_complete_spring : ∃ n < 1, 20520 * day + 120 * minute = springMorning (n + 1) := by
  refine @successors_complete springClock (.daily "02:30") springClock_regular (by decide) rfl springMorning 1 (fun _ n hn => ?_)
    (fun n hn => ?_) _ ⟨20520, 150 * minute, by decide, trivial, by decide⟩ (by decide) le_rfl
  all_goals obtain rfl : n = 0 := by omega
  · unfold Room
    decide
  · decide

example : nextOccurrenceAfter springClock (.daily "02:30") (20520 * day) = .ok (some (20520 * day + 120 * minute)) := by
  decide

end Rovai.Automation
