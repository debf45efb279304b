import RovaiCore.NetworkRecovery
import Mathlib.Data.List.Induction
/-!
# The discipline of the network recovery queue

Over every sequence of operations: an attempt that was handed out is owned until it is released, attempts are counted with the
epochs of the cycle, a delay is cut short once in a cycle, and operations of an earlier epoch change nothing
(`queue_discipline`).
-/
namespace Rovai.NetworkRecovery

open Tables (Table)
open List

variable {q : Queue} {k : String} {entry entry' : Entry} {a : Action}

/-! ## What an action leaves of an entry -/

variable (now : Nat)

@[simp] theorem take_epoch (entry : Entry) : (entry.take now).executionEpoch = entry.executionEpoch := by
  unfold Entry.take
  split <;> rfl

@[simp] theorem wake_epoch (entry : Entry) : (entry.wake now).executionEpoch = entry.executionEpoch := by
  unfold Entry.wake
  split <;> rfl

@[simp] theorem take_attempt (entry : Entry) : (entry.take now).attempt = entry.attempt := by
  unfold Entry.take
  split <;> rfl

@[simp] theorem wake_attempt (entry : Entry) : (entry.wake now).attempt = entry.attempt := by
  unfold Entry.wake
  split <;> rfl

@[simp] theorem take_dueAt (entry : Entry) : (entry.take now).dueAt = entry.dueAt := by
  unfold Entry.take
  split <;> rfl

@[simp] theorem take_wakeConsumed (entry : Entry) : (entry.take now).wakeConsumed = entry.wakeConsumed := by
  unfold Entry.take
  split <;> rfl

theorem take_inFlight {entry : Entry} (h : entry.inFlight = true) : (entry.take now).inFlight = true := by
  unfold Entry.take
  split
  · rfl
  · exact h

theorem take_inFlight_of_due {now : Nat} (h : entry.due now = true) : (entry.take now).inFlight = true := by
  unfold Entry.take
  rw [if_pos h]

@[simp] theorem wake_inFlight (entry : Entry) : (entry.wake now).inFlight = entry.inFlight := by
  unfold Entry.wake
  split <;> rfl

inductive EntryStep (k : String) (before : Option Entry) (a : Action) : Entry → Prop
  | registered (registration : Registration) (completedAt : Nat) (ha : a = .register registration completedAt)
      (hid : registration.agentRunId = k)
      (hlater : before.all (fun e => decide (e.executionEpoch < registration.executionEpoch)) = true) :
      EntryStep k before a (newEntry registration completedAt before)
  | taken (now : Nat) (entry : Entry) (ha : a = .takeDue now) (hentry : before = some entry) : EntryStep k before a (entry.take now)
  | woken (now : Nat) (entry : Entry) (ha : a = .wakeWaiting now) (hentry : before = some entry) :
      EntryStep k before a (entry.wake now)
  | deferred (epoch : Int) (completedAt : Nat) (entry : Entry) (ha : a = .deferCheck k epoch completedAt)
      (hentry : before = some entry) (hepoch : entry.executionEpoch = epoch) (hflight : entry.inFlight = true) :
      EntryStep k before a (entry.deferTo completedAt)
  | kept (entry : Entry) (hentry : before = some entry)
      (hregister : ∀ registration completedAt, a = .register registration completedAt → registration.agentRunId = k →
        ¬entry.executionEpoch < registration.executionEpoch)
      (hother : (∃ registration completedAt, a = .register registration completedAt) ∨
        (∃ id epoch completedAt, a = .deferCheck id epoch completedAt ∧
          (id = k → ¬(entry.executionEpoch = epoch ∧ entry.inFlight = true))) ∨
        ((∃ id epoch, a = .complete id epoch ∧ (id = k → ¬entry.executionEpoch ≤ epoch)) ∨
          ∃ id epoch, a = .completeAfterTerminal id epoch ∧ (id = k → ¬entry.executionEpoch < epoch))) :
      EntryStep k before a entry

theorem entryStep_cases {before : Option Entry} (h : entryStep k before a = some entry') : EntryStep k before a entry' := by
  cases a with
  | register registration completedAt =>
    unfold entryStep at h
    dsimp only at h
    split at h
    · rename_i hguard
      cases h
      exact .registered registration completedAt rfl hguard.1 hguard.2
    · rename_i hguard
      subst h
      refine .kept entry' rfl (fun _ _ ha hid hlt => ?_) (.inl ⟨_, _, rfl⟩)
      cases ha
      exact hguard ⟨hid, by simpa using hlt⟩
  | takeDue now =>
    obtain ⟨entry, rfl, rfl⟩ := Option.map_eq_some_iff.1 h
    exact .taken now entry rfl rfl
  | wakeWaiting now =>
    obtain ⟨entry, rfl, rfl⟩ := Option.map_eq_some_iff.1 h
    exact .woken now entry rfl rfl
  | complete id epoch =>
    unfold entryStep at h
    dsimp only at h
    split at h
    · cases h
    rename_i hguard
    subst h
    refine .kept entry' rfl (fun _ _ ha => nomatch ha) (.inr (.inr (.inl ⟨_, _, rfl, fun hid hle => ?_⟩)))
    exact hguard ⟨hid, by simpa using hle⟩
  | completeAfterTerminal id epoch =>
    unfold entryStep at h
    dsimp only at h
    split at h
    · cases h
    rename_i hguard
    subst h
    refine .kept entry' rfl (fun _ _ ha => nomatch ha) (.inr (.inr (.inr ⟨_, _, rfl, fun hid hlt => ?_⟩)))
    exact hguard ⟨hid, by simpa using hlt⟩
  | deferCheck id epoch completedAt =>
    unfold entryStep at h
    dsimp only at h
    split at h
    · rename_i hguard
      obtain ⟨rfl, hguard⟩ := hguard
      obtain ⟨entry, rfl, rfl⟩ := Option.map_eq_some_iff.1 h
      rw [Option.any_some, Bool.and_eq_true, decide_eq_true_eq] at hguard
      exact .deferred epoch completedAt entry rfl rfl hguard.1 hguard.2
    · rename_i hguard
      subst h
      refine .kept entry' rfl (fun _ _ ha => nomatch ha) (.inr (.inl ⟨_, _, _, rfl, fun hid hboth => ?_⟩))
      exact hguard ⟨hid, by simpa using hboth⟩
  | drain => cases h

theorem step_cases (h : (step q a).find? k = some entry') : EntryStep k (q.find? k) a entry' :=
  entryStep_cases ((find?_step q a k).symm.trans h)

/-! ## Owned attempts -/

def releases (k : String) (epoch : Int) (q : Queue) : Action → Prop
  | .register registration _ => registration.agentRunId = k ∧ (epoch < registration.executionEpoch ∨ q.find? k = none)
  | .deferCheck id epoch' _ => id = k ∧ epoch' = epoch
  | _ => False

def Owned (k : String) (epoch : Int) (q : Queue) : Prop :=
  ∀ entry, q.find? k = some entry → entry.inFlight = true ∧ entry.executionEpoch = epoch

theorem owned_step {epoch : Int} (hreleases : ¬releases k epoch q a) (h : Owned k epoch q) : Owned k epoch (step q a) := by
  intro entry' hentry'
  cases step_cases hentry' with
  | registered registration completedAt ha hid hlater =>
    subst ha
    refine absurd ⟨hid, ?_⟩ hreleases
    cases hfound : q.find? k with
    | none => exact .inr rfl
    | some entry =>
      rw [hfound, Option.all_some, decide_eq_true_eq] at hlater
      exact .inl ((h entry hfound).2 ▸ hlater)
  | taken now entry ha hentry => exact ⟨take_inFlight now (h entry hentry).1, (take_epoch now entry).trans (h entry hentry).2⟩
  | woken now entry ha hentry => exact ⟨(wake_inFlight now entry).trans (h entry hentry).1, (wake_epoch now entry).trans (h entry hentry).2⟩
  | deferred epoch' completedAt entry ha hentry hepoch =>
    subst ha
    exact absurd ⟨rfl, hepoch.symm.trans (h entry hentry).2⟩ hreleases
  | kept entry hentry => exact h entry' hentry

theorem owned_of_handedOut {attempt : Attempt} (h : attempt ∈ handedOut q a) (hid : attempt.registration.agentRunId = k) :
    Owned k attempt.registration.executionEpoch (step q a) := by
  obtain ⟨now, entry, rfl, hentry, hdue, rfl⟩ := mem_handedOut.1 h
  have hentry : q.find? k = some entry := hid ▸ hentry
  intro entry' hentry'
  rw [find?_step, hentry] at hentry'
  cases hentry'
  exact ⟨take_inFlight_of_due hdue, take_epoch now entry⟩

theorem not_handedOut_of_owned {epoch : Int} (h : Owned k epoch q) {attempt : Attempt} (hout : attempt ∈ handedOut q a) :
    attempt.registration.agentRunId ≠ k := by
  rintro rfl
  obtain ⟨now, entry, -, hentry, hdue, -⟩ := mem_handedOut.1 hout
  simp [Entry.due, (h entry hentry).1] at hdue

/-! ## Epochs of a cycle -/

/-- The increasing epochs registered for a run since it entered the queue, the latest first; none when it is not there. -/
def cycleStep (k : String) (epochs : List Int) : Action → List Int
  | .register registration _ =>
    if registration.agentRunId = k ∧ epochs.head?.all (fun epoch => decide (epoch < registration.executionEpoch)) = true then
      registration.executionEpoch :: epochs
    else epochs
  | .complete id through => if id = k ∧ epochs.head?.any (fun epoch => decide (epoch ≤ through)) = true then [] else epochs
  | .completeAfterTerminal id terminal =>
    if id = k ∧ epochs.head?.any (fun epoch => decide (epoch < terminal)) = true then [] else epochs
  | .drain => []
  | .takeDue _ | .wakeWaiting _ | .deferCheck _ _ _ => epochs

def cycle (k : String) (as : List Action) : List Int :=
  as.foldl (cycleStep k) []

theorem cycle_snoc (k : String) (as : List Action) (a : Action) : cycle k (as ++ [a]) = cycleStep k (cycle k as) a := by
  unfold cycle
  rw [foldl_append]
  rfl

theorem run_snoc (as : List Action) (a : Action) : run (as ++ [a]) = step (run as) a := by
  rw [run_append]
  rfl

def Increasing (epochs : List Int) : Prop := epochs.Pairwise (fun later earlier => earlier < later)

theorem increasing_step {epochs : List Int} (h : Increasing epochs) : Increasing (cycleStep k epochs a) := by
  cases a with
  | register registration completedAt =>
    unfold cycleStep
    dsimp only
    split
    · rename_i hguard
      refine pairwise_cons.2 ⟨fun epoch hepoch => ?_, h⟩
      cases epochs with
      | nil => cases hepoch
      | cons latest earlier =>
        have hlatest : latest < registration.executionEpoch := by simpa using hguard.2
        obtain rfl | hearlier := mem_cons.1 hepoch
        · exact hlatest
        · exact ((pairwise_cons.1 h).1 epoch hearlier).trans hlatest
    · exact h
  | takeDue now => exact h
  | wakeWaiting now => exact h
  | deferCheck => exact h
  | drain => exact List.Pairwise.nil
  | complete =>
    unfold cycleStep
    dsimp only
    split
    · exact List.Pairwise.nil
    · exact h
  | completeAfterTerminal =>
    unfold cycleStep
    dsimp only
    split
    · exact List.Pairwise.nil
    · exact h

theorem cycle_increasing (k : String) (as : List Action) : Increasing (cycle k as) := by
  induction as using List.reverseRecOn with
  | nil => exact List.Pairwise.nil
  | append_singleton as a ih =>
    rw [cycle_snoc]
    exact increasing_step ih

def Counts (epochs : List Int) : Option Entry → Prop
  | none => epochs = []
  | some entry => epochs.head? = some entry.executionEpoch ∧ entry.attempt = min epochs.length maxAttempt

theorem counts_step {epochs : List Int} {before : Option Entry} (h : Counts epochs before) :
    Counts (cycleStep k epochs a) (entryStep k before a) := by
  have hhead : epochs.head? = before.map Entry.executionEpoch := by
    cases before with
    | none => rw [show epochs = [] from h]; rfl
    | some entry => exact h.1
  cases a with
  | register =>
    unfold cycleStep entryStep
    dsimp only
    rw [hhead, Option.all_map]
    split
    · refine ⟨rfl, ?_⟩
      cases before with
      | none =>
        rw [show epochs = [] from h]
        rfl
      | some entry =>
        have hattempt : entry.attempt = min epochs.length maxAttempt := h.2
        simp only [newEntry, nextAttempt, length_cons, hattempt]
        omega
    · exact h
  | takeDue now =>
    cases before with
    | none => exact h
    | some entry => exact ⟨h.1.trans (by rw [take_epoch]), (take_attempt now entry).trans h.2⟩
  | wakeWaiting now =>
    cases before with
    | none => exact h
    | some entry => exact ⟨h.1.trans (by rw [wake_epoch]), (wake_attempt now entry).trans h.2⟩
  | complete =>
    unfold cycleStep entryStep
    dsimp only
    rw [hhead, Option.any_map]
    split
    · rfl
    · exact h
  | completeAfterTerminal =>
    unfold cycleStep entryStep
    dsimp only
    rw [hhead, Option.any_map]
    split
    · rfl
    · exact h
  | deferCheck =>
    unfold cycleStep entryStep
    dsimp only
    split
    · cases before with
      | none => exact h
      | some entry => exact h
    · exact h
  | drain => rfl

theorem counts_run (k : String) (as : List Action) : Counts (cycle k as) ((run as).find? k) := by
  induction as using List.reverseRecOn with
  | nil => rfl
  | append_singleton as a ih =>
    rw [cycle_snoc, run_snoc, find?_step]
    exact counts_step ih

/-! ## Waiting periods -/

def waitStart (k : String) (q : Queue) : Action → Option Nat
  | .register registration completedAt =>
    if registration.agentRunId = k ∧ (q.find? k).all (fun e => decide (e.executionEpoch < registration.executionEpoch)) = true then
      some completedAt
    else none
  | .deferCheck id epoch completedAt =>
    if id = k ∧ (q.find? k).any (fun e => decide (e.executionEpoch = epoch) && e.inFlight) = true then some completedAt else none
  | _ => none

def shortens (k : String) (q : Queue) (a : Action) : Prop :=
  ∃ now entry entry', a = .wakeWaiting now ∧ q.find? k = some entry ∧ (step q a).find? k = some entry' ∧ entry'.dueAt < entry.dueAt

def Waits (k : String) (entry : Entry) (bs : List Action) (b : Action) (cs : List Action) : Prop :=
  ∃ start, waitStart k (run bs) b = some start ∧
    Runs.AllSteps step (fun q a => waitStart k q a = none) (run (bs ++ [b])) cs ∧
    (entry.dueAt = start + networkRecoveryDelay entry.attempt ∨
      ∃ ds d es, cs = ds ++ d :: es ∧ shortens k (run (bs ++ b :: ds)) d)

theorem waits_of_start {as : List Action} {start : Nat} (hstart : waitStart k (run as) a = some start)
    (hdue : entry.dueAt = start + networkRecoveryDelay entry.attempt) : Waits k entry as a [] :=
  ⟨start, hstart, trivial, .inl hdue⟩

theorem Waits.later {bs cs : List Action} {b : Action} (h : Waits k entry bs b cs)
    (hnone : waitStart k (run (bs ++ b :: cs)) a = none) (hattempt : entry'.attempt = entry.attempt)
    (hdue : entry'.dueAt = entry.dueAt ∨ shortens k (run (bs ++ b :: cs)) a) : Waits k entry' bs b (cs ++ [a]) := by
  obtain ⟨start, hstart, hsteps, hcause⟩ := h
  have hrun : cs.foldl step (run (bs ++ [b])) = run (bs ++ b :: cs) := by
    rw [← run_append, append_assoc, singleton_append]
  refine ⟨start, hstart, (Runs.allSteps_append step cs [a] _).2 ⟨hsteps, ?_, trivial⟩, ?_⟩
  · rw [hrun]
    exact hnone
  · obtain hdue | hshortens := hdue
    · obtain hdue' | ⟨ds, d, es, rfl, hshortens⟩ := hcause
      · exact .inl (by rw [hdue, hdue', hattempt])
      · exact .inr ⟨ds, d, es ++ [a], by simp, hshortens⟩
    · exact .inr ⟨cs, a, [], rfl, hshortens⟩

theorem waits_run (k : String) (as : List Action) : ∀ entry, (run as).find? k = some entry →
    ∃ bs b cs, as = bs ++ b :: cs ∧ Waits k entry bs b cs := by
  induction as using List.reverseRecOn with
  | nil =>
    intro entry hentry
    cases hentry
  | append_singleton as a ih =>
    intro entry' hentry'
    rw [run_snoc] at hentry'
    have hlater : ∀ entry, (run as).find? k = some entry → waitStart k (run as) a = none → entry'.attempt = entry.attempt →
        (entry'.dueAt = entry.dueAt ∨ shortens k (run as) a) →
        ∃ bs b cs, as ++ [a] = bs ++ b :: cs ∧ Waits k entry' bs b cs := by
      intro entry hentry hnone hattempt hdue
      obtain ⟨bs, b, cs, rfl, hwaits⟩ := ih entry hentry
      exact ⟨bs, b, cs ++ [a], by simp, hwaits.later hnone hattempt hdue⟩
    cases step_cases hentry' with
    | registered registration completedAt ha hid hguard =>
      refine ⟨as, a, [], rfl, waits_of_start ?_ rfl⟩
      rw [ha, waitStart, if_pos ⟨hid, hguard⟩]
    | deferred epoch completedAt entry ha hentry hepoch hflight =>
      refine ⟨as, a, [], rfl, waits_of_start ?_ rfl⟩
      rw [ha, waitStart, if_pos ⟨rfl, by simp [hentry, hepoch, hflight]⟩]
    | taken now entry ha hentry =>
      exact hlater entry hentry (by rw [ha]; rfl) (take_attempt now entry) (.inl (take_dueAt now entry))
    | woken now entry ha hentry =>
      refine hlater entry hentry (by rw [ha]; rfl) (wake_attempt now entry) ?_
      by_cases hwakes : entry.wakes now = true
      · refine .inr ⟨now, entry, entry.wake now, ha, hentry, hentry', ?_⟩
        have hlt : now < entry.dueAt := by simp_all [Entry.wakes]
        simpa [Entry.wake, hwakes] using hlt
      · exact .inl (by rw [Entry.wake, if_neg hwakes])
    | kept entry hentry hregister hother =>
      refine hlater entry' hentry ?_ rfl (.inl rfl)
      obtain ⟨registration, completedAt, rfl⟩ | ⟨id, epoch, completedAt, rfl, hnot⟩ | ⟨id, epoch, rfl, -⟩ | ⟨id, epoch, rfl, -⟩ := hother
      · refine if_neg fun hguard => hregister registration completedAt rfl hguard.1 ?_
        simpa [hentry] using hguard.2
      · refine if_neg fun hguard => hnot hguard.1 ?_
        simpa [hentry] using hguard.2
      · rfl
      · rfl

/-! ## One wake in a cycle -/

theorem wakeConsumed_of_shortens (h : shortens k q a) : ∀ entry, (step q a).find? k = some entry → entry.wakeConsumed = true := by
  obtain ⟨now, entry, entry', rfl, hentry, hentry', hlt⟩ := h
  intro entry'' hentry''
  rw [find?_step, hentry] at hentry' hentry''
  cases hentry'
  cases hentry''
  unfold Entry.wake at hlt ⊢
  split
  · rfl
  rename_i hwakes
  rw [if_neg hwakes] at hlt
  exact absurd hlt (Nat.lt_irrefl _)

theorem not_shortens_of_wakeConsumed (h : ∀ entry, q.find? k = some entry → entry.wakeConsumed = true) : ¬shortens k q a := by
  rintro ⟨now, entry, entry', rfl, hentry, hentry', hlt⟩
  rw [find?_step, hentry] at hentry'
  cases hentry'
  have hnot : ¬entry.wakes now = true := by simp [Entry.wakes, h entry hentry]
  rw [Entry.wake, if_neg hnot] at hlt
  exact absurd hlt (Nat.lt_irrefl _)

theorem wakeConsumed_step (hfound : (q.find? k).isSome = true) (h : ∀ entry, q.find? k = some entry → entry.wakeConsumed = true) :
    ∀ entry, (step q a).find? k = some entry → entry.wakeConsumed = true := by
  intro entry' hentry'
  cases step_cases hentry' with
  | registered =>
    obtain ⟨entry, hentry⟩ := Option.isSome_iff_exists.1 hfound
    simpa [newEntry, nextAttempt, hentry] using h entry hentry
  | taken now entry ha hentry => exact (take_wakeConsumed now entry).trans (h entry hentry)
  | woken now entry ha hentry =>
    unfold Entry.wake
    split
    · rfl
    · exact h entry hentry
  | deferred epoch completedAt entry ha hentry => exact h entry hentry
  | kept entry hentry => exact h entry' hentry

theorem removed_or_wakeConsumed : ∀ (as : List Action) (q : Queue),
    (∀ entry, q.find? k = some entry → entry.wakeConsumed = true) →
    (∃ bs, bs <+: as ∧ (bs.foldl step q).find? k = none) ∨
      ∀ entry, (as.foldl step q).find? k = some entry → entry.wakeConsumed = true
  | [], q, h => .inr h
  | a :: as, q, h => by
    cases hfound : q.find? k with
    | none => exact .inl ⟨[], nil_prefix, hfound⟩
    | some entry =>
      have hnext := wakeConsumed_step (a := a) (by rw [hfound]; rfl) h
      obtain ⟨bs, hbs, hnone⟩ | hall := removed_or_wakeConsumed as (step q a) hnext
      · exact .inl ⟨a :: bs, cons_prefix_cons.2 ⟨rfl, hbs⟩, hnone⟩
      · exact .inr hall

/-! ## Stale epochs and deadlines -/

/-- The operation names a run of the queue with an epoch before its own. -/
def Stale (q : Queue) : Action → Prop
  | .register registration _ => ∃ entry, q.find? registration.agentRunId = some entry ∧
      registration.executionEpoch < entry.executionEpoch
  | .complete id epoch => ∃ entry, q.find? id = some entry ∧ epoch < entry.executionEpoch
  | .completeAfterTerminal id epoch => ∃ entry, q.find? id = some entry ∧ epoch < entry.executionEpoch
  | .deferCheck id epoch _ => ∃ entry, q.find? id = some entry ∧ epoch < entry.executionEpoch
  | _ => False

theorem step_of_stale (h : Stale q a) : step q a = q := by
  cases a with
  | register =>
    obtain ⟨entry, hentry, hlt⟩ := h
    unfold step register
    dsimp only
    rw [hentry]
    dsimp only
    rw [if_pos hlt]
  | complete =>
    obtain ⟨entry, hentry, hlt⟩ := h
    unfold step complete
    dsimp only
    rw [hentry]
    dsimp only
    rw [if_neg (not_le.2 hlt)]
  | completeAfterTerminal =>
    obtain ⟨entry, hentry, hlt⟩ := h
    unfold step completeAfterTerminal
    dsimp only
    rw [hentry]
    dsimp only
    rw [if_pos hlt.le]
  | deferCheck =>
    obtain ⟨entry, hentry, hlt⟩ := h
    unfold step deferCheck
    dsimp only
    rw [hentry]
    dsimp only
    rw [if_pos (by simp [hlt.ne'])]
  | takeDue now => exact h.elim
  | wakeWaiting now => exact h.elim
  | drain => exact h.elim

theorem nextDeadline_eq_some {deadline : Nat} : nextDeadline q = some deadline ↔
    (∃ k entry, q.find? k = some entry ∧ entry.inFlight = false ∧ entry.dueAt = deadline) ∧
      ∀ k entry, q.find? k = some entry → entry.inFlight = false → deadline ≤ entry.dueAt := by
  unfold nextDeadline
  rw [min?_eq_some_iff]
  constructor
  · rintro ⟨hmem, hleast⟩
    obtain ⟨entry, hentry, rfl⟩ := mem_map.1 hmem
    obtain ⟨hrow, hflight⟩ := mem_filter.1 hentry
    refine ⟨⟨_, entry, Table.find?_of_mem hrow, by simpa using hflight, rfl⟩, fun k entry' hentry' hflight' => ?_⟩
    exact hleast _ (mem_map.2 ⟨entry', mem_filter.2 ⟨Table.mem_of_find? hentry', by simpa using hflight'⟩, rfl⟩)
  · rintro ⟨⟨k, entry, hentry, hflight, rfl⟩, hleast⟩
    refine ⟨mem_map.2 ⟨entry, mem_filter.2 ⟨Table.mem_of_find? hentry, by simpa using hflight⟩, rfl⟩, fun due hdue => ?_⟩
    obtain ⟨entry', hentry', rfl⟩ := mem_map.1 hdue
    obtain ⟨hrow, hflight'⟩ := mem_filter.1 hentry'
    exact hleast _ entry' (Table.find?_of_mem hrow) (by simpa using hflight')

/-! ## The discipline -/

/-- **The queue's discipline**, over every sequence of operations.  The count of the attempts stops at `u32::MAX`. -/
theorem queue_discipline (as : List Action) :
    (∀ a attempt bs b attempt', attempt ∈ handedOut (run as) a →
      Runs.AllSteps step (fun q c => ¬releases attempt.registration.agentRunId attempt.registration.executionEpoch q c)
        (run (as ++ [a])) bs →
      attempt' ∈ handedOut (run (as ++ a :: bs)) b → attempt'.registration.agentRunId ≠ attempt.registration.agentRunId) ∧
    (∀ a attempt, attempt ∈ handedOut (run as) a →
      attempt.attempt = min (cycle attempt.registration.agentRunId as).length maxAttempt ∧
        (cycle attempt.registration.agentRunId as).head? = some attempt.registration.executionEpoch ∧
        Increasing (cycle attempt.registration.agentRunId as)) ∧
    ((∀ now attempt, attempt ∈ handedOut (run as) (.takeDue now) →
        ∃ bs b cs start, as = bs ++ b :: cs ∧ waitStart attempt.registration.agentRunId (run bs) b = some start ∧
          Runs.AllSteps step (fun q a => waitStart attempt.registration.agentRunId q a = none) (run (bs ++ [b])) cs ∧
          (start + networkRecoveryDelay attempt.attempt ≤ now ∨
            ∃ ds d es, cs = ds ++ d :: es ∧ shortens attempt.registration.agentRunId (run (bs ++ b :: ds)) d)) ∧
      (∀ k bs b cs c ds, as = bs ++ b :: cs ++ c :: ds → shortens k (run bs) b → shortens k (run (bs ++ b :: cs)) c →
        ∃ es, es <+: cs ∧ (run (bs ++ b :: es)).find? k = none)) ∧
    (∀ a, Stale (run as) a → step (run as) a = run as) ∧
    (∀ deadline, nextDeadline (run as) = some deadline ↔
      (∃ k entry, (run as).find? k = some entry ∧ entry.inFlight = false ∧ entry.dueAt = deadline) ∧
        ∀ k entry, (run as).find? k = some entry → entry.inFlight = false → deadline ≤ entry.dueAt) := by
  refine ⟨?_, ?_, ⟨?_, ?_⟩, ?_, ?_⟩
  · intro a attempt bs b attempt' hout hsteps hout'
    have hrun : run (as ++ a :: bs) = bs.foldl step (run (as ++ [a])) := by
      rw [← run_append, append_assoc, singleton_append]
    have howned : Owned attempt.registration.agentRunId attempt.registration.executionEpoch (run (as ++ [a])) := by
      rw [run_snoc]
      exact owned_of_handedOut hout rfl
    have howned' := Runs.run_invariant_of_allSteps step (fun _ _ => owned_step) bs _ hsteps howned
    rw [hrun] at hout'
    exact not_handedOut_of_owned howned' hout'
  · intro a attempt hout
    obtain ⟨now, entry, -, hentry, -, rfl⟩ := mem_handedOut.1 hout
    have hcounts := counts_run entry.asAttempt.registration.agentRunId as
    rw [hentry] at hcounts
    exact ⟨hcounts.2, hcounts.1, cycle_increasing _ as⟩
  · intro now attempt hout
    obtain ⟨now', entry, hnow, hentry, hdue, rfl⟩ := mem_handedOut.1 hout
    cases hnow
    obtain ⟨bs, b, cs, hsplit, start, hstart, hsteps, hcause⟩ := waits_run _ as entry hentry
    refine ⟨bs, b, cs, start, hsplit, hstart, hsteps, hcause.imp_left fun hdueAt => ?_⟩
    have hle : entry.dueAt ≤ now := by simp_all [Entry.due]
    rw [hdueAt] at hle
    exact hle
  · intro k bs b cs c ds _ hfirst hsecond
    have hrun : ∀ es, run (bs ++ b :: es) = es.foldl step (step (run bs) b) := by
      intro es
      rw [run_append]
      rfl
    obtain ⟨es, hes, hnone⟩ | hconsumed := removed_or_wakeConsumed cs _ (wakeConsumed_of_shortens hfirst)
    · exact ⟨es, hes, by rw [hrun]; exact hnone⟩
    rw [hrun] at hsecond
    exact absurd hsecond (not_shortens_of_wakeConsumed hconsumed)
  · intro a hstale
    exact step_of_stale hstale
  · intro deadline
    exact nextDeadline_eq_some

/-! ## The count stops -/

theorem networkRecoveryDelay_le (attempt : Nat) : networkRecoveryDelay attempt ≤ second * 30 := by
  have hdelays : ∀ i < delaysSeconds.length, delaysSeconds.getD i 0 ≤ 30 := by decide
  refine Nat.mul_le_mul_left second (hdelays _ ?_)
  have hlength : delaysSeconds.length = 7 := rfl
  omega

def failedIn (epoch : Nat) : Registration :=
  ⟨"run", "camp", "turn", epoch, "codex", .networkTimeout, "provider"⟩

variable (n : Nat)

def failures : List Action :=
  (List.range n).map fun epoch => .register (failedIn epoch) 0

theorem failures_succ : failures (n + 1) = failures n ++ [.register (failedIn n) 0] := by
  unfold failures
  rw [range_succ, map_append]
  rfl

theorem cycle_failures : (cycle "run" (failures n)).length = n ∧
    ∀ epoch ∈ (cycle "run" (failures n)).head?, epoch < (n : Int) := by
  induction n with
  | zero => exact ⟨rfl, fun _ h => by cases h⟩
  | succ n ih =>
    obtain ⟨hlength, hlatest⟩ := ih
    have hguard : (cycle "run" (failures n)).head?.all (fun epoch => decide (epoch < (failedIn n).executionEpoch)) = true := by
      rw [Option.all_eq_true]
      intro epoch hepoch
      exact decide_eq_true (hlatest epoch hepoch)
    have hcycle : cycle "run" (failures (n + 1)) = (n : Int) :: cycle "run" (failures n) := by
      rw [failures_succ, cycle_snoc]
      exact if_pos ⟨rfl, hguard⟩
    rw [hcycle]
    refine ⟨congrArg (· + 1) hlength, fun epoch hepoch => ?_⟩
    cases hepoch
    omega

theorem find?_failures : ∃ entry, (run (failures (n + 1))).find? "run" = some entry ∧ entry.inFlight = false ∧
    entry.dueAt = networkRecoveryDelay entry.attempt := by
  have hcounts := counts_run "run" (failures n)
  have hlatest := (cycle_failures n).2
  have hguard : ((run (failures n)).find? "run").all (fun e => decide (e.executionEpoch < (failedIn n).executionEpoch)) = true := by
    cases hfound : (run (failures n)).find? "run" with
    | none => rfl
    | some entry =>
      rw [hfound] at hcounts
      exact decide_eq_true (hlatest _ hcounts.1)
  refine ⟨newEntry (failedIn n) 0 ((run (failures n)).find? "run"), ?_, rfl, Nat.zero_add _⟩
  rw [failures_succ, run_snoc, find?_step]
  exact if_pos ⟨rfl, hguard⟩

theorem handedOut_failures : ∃ attempt ∈ handedOut (run (failures (n + 1))) (.takeDue (second * 30)),
    attempt.registration.agentRunId = "run" ∧ attempt.attempt = min (n + 1) maxAttempt := by
  obtain ⟨entry, hentry, hflight, hdueAt⟩ := find?_failures n
  have hkey : entry.agentRunId = "run" := Table.key_of_find? hentry
  have hrun : entry.asAttempt.registration.agentRunId = "run" := hkey
  have hcounts := counts_run "run" (failures (n + 1))
  rw [hentry] at hcounts
  have hdue : entry.due (second * 30) = true := by
    unfold Entry.due
    rw [hflight, hdueAt]
    exact decide_eq_true (networkRecoveryDelay_le entry.attempt)
  refine ⟨entry.asAttempt, mem_handedOut.2 ⟨_, entry, rfl, ?_, hdue, rfl⟩, hrun, ?_⟩
  · rw [hrun]
    exact hentry
  · exact hcounts.2.trans (by rw [(cycle_failures (n + 1)).1])

/-- After `2 ^ 32` epochs the attempt is numbered `2 ^ 32 - 1`. -/
theorem attempts_saturated : (cycle "run" (failures 4294967296)).length = 4294967296 ∧
    ∃ attempt ∈ handedOut (run (failures 4294967296)) (.takeDue (second * 30)),
      attempt.registration.agentRunId = "run" ∧ attempt.attempt = 4294967295 := by
  refine ⟨(cycle_failures 4294967296).1, ?_⟩
  obtain ⟨attempt, hout, hrun, hattempt⟩ := handedOut_failures 4294967295
  exact ⟨attempt, hout, hrun, hattempt.trans rfl⟩

/-! ## Runs beside each other -/

/-- An action of the run itself, or one of the clock. -/
def concerns (k : String) : Action → Bool
  | .register registration _ => registration.agentRunId == k
  | .complete agentRunId _ | .completeAfterTerminal agentRunId _ | .deferCheck agentRunId _ _ => agentRunId == k
  | .takeDue _ | .wakeWaiting _ | .drain => true

theorem entryStep_of_not_concerns (h : concerns k a = false) (entry : Option Entry) : entryStep k entry a = entry := by
  cases a with
  | takeDue | wakeWaiting | drain => cases h
  | register | complete | completeAfterTerminal | deferCheck =>
    refine if_neg fun hown => ?_
    simp [concerns, hown.1] at h

/-- **Runs do not disturb each other**: what the queue holds and hands out for a run is what it does without the others. -/
theorem runs_undisturbed (as : List Action) (k : String) :
    (run as).find? k = (run (as.filter (concerns k))).find? k ∧ ∀ a attempt, attempt.registration.agentRunId = k →
      (attempt ∈ handedOut (run as) a ↔ attempt ∈ handedOut (run (as.filter (concerns k))) a) := by
  have hfound : (run as).find? k = (run (as.filter (concerns k))).find? k := by
    induction as using reverseRecOn with
    | nil => rfl
    | append_singleton as a ih =>
      rw [run_snoc, find?_step, filter_append]
      cases h : concerns k a with
      | true => rw [filter_cons_of_pos h, filter_nil, run_snoc, find?_step, ih]
      | false => rw [filter_cons_of_neg (by simp [h]), filter_nil, append_nil, entryStep_of_not_concerns h, ih]
  refine ⟨hfound, fun a attempt hown => ?_⟩
  rw [mem_handedOut, mem_handedOut, hown, hfound]

end Rovai.NetworkRecovery
