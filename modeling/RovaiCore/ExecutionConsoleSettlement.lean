import RovaiCore.ExecutionConsoleSteps
/-!
# A card that is left behind

The settlement of a delivery is where a card can be left with an old state: the later one was not queued while the older was
attempted, and it is queued with that attempt's success alone.
-/
namespace Rovai.Consoles

open Tables (Table)
open ChannelStore (SettleChannelDelivery retries settled shown markFailed endRecall)

variable {s t : ChannelStore}

/-! ## Settling -/

section
variable {command : SettleChannelDelivery} {d : ChannelDelivery} {c : ExecutionConsole}

theorem settled_isOpen (command : SettleChannelDelivery) (d : ChannelDelivery) : (settled command d).isOpen = false := by
  unfold settled ChannelDelivery.isOpen
  cases command.outcome <;> rfl

theorem Moved.settled (command : SettleChannelDelivery) (d : ChannelDelivery) : Moved d (settled command d) := by
  refine ⟨rfl, rfl, rfl, fun h => ?_⟩
  rw [settled_isOpen] at h
  cases h

section
variable {f : ExecutionConsole → ExecutionConsole} {hf : ∀ c, (f c).id = c.id}

theorem closed_grows (s : ChannelStore) (command : SettleChannelDelivery) (d : ChannelDelivery)
    (f : ExecutionConsole → ExecutionConsole) (hf : ∀ c, (f c).id = c.id) :
    Table.Grows Moved (fun _ => False) s.deliveries (closed s command d f hf).deliveries :=
  .update Moved.refl _ _ (ChannelStore.settled command) (fun _ => rfl) fun d _ => .settled command d

theorem closed_found (hd : s.deliveries.find? command.deliveryId = some d) :
    (closed s command d f hf).deliveries.find? command.deliveryId = some (settled command d) :=
  Table.find?_update_self hd (settled command) fun _ => rfl

theorem closed_console (hc : s.consoles.find? d.consoleId = some c) :
    (closed s command d f hf).consoles.find? d.consoleId = some (f c) :=
  Table.find?_update_self hc f hf

theorem closed_other {k : String} (hk : k ≠ command.deliveryId) :
    (closed s command d f hf).deliveries.find? k = s.deliveries.find? k :=
  Table.find?_update_of_ne s.deliveries hk (settled command) fun _ => rfl

theorem closed_elsewhere (hd : s.deliveries.find? command.deliveryId = some d) :
    Elsewhere d.consoleId s (closed s command d f hf) := by
  refine ⟨rfl, fun other hne => Table.find?_update_of_ne s.consoles hne f hf, fun k d' hne => ?_⟩
  by_cases hk : k = command.deliveryId
  · subst hk
    rw [closed_found hd, hd]
    constructor
    · intro h
      cases h
      exact absurd rfl hne
    · intro h
      cases h
      exact absurd rfl hne
  · rw [closed_other hk]

theorem closed_sound (hs : Sound s) (hc : s.consoles.find? d.consoleId = some c) (h : Advances s c (f c)) :
    Sound (closed s command d f hf) :=
  (hs.updateConsole hc f hf h).moved rfl rfl (closed_grows s command d f hf)

theorem closed_none_open (hs : Sound s) {n : Nat} (hd : Carries s c.id command.deliveryId d n) (hopen : d.isOpen = true)
    (hc : s.consoles.find? c.id = some c) {k : String} {d' : ChannelDelivery} {n' : Nat}
    (hd' : Carries (closed s command d f hf) c.id k d' n') : d'.isOpen = false := by
  by_contra hopen'
  have hopen' : d'.isOpen = true := by simpa using hopen'
  obtain ⟨d₀, hd₀, ho⟩ := hd'.back (closed_grows s command d f hf)
  obtain rfl := (hs.console hc).alone hd₀ hd (ho hopen') hopen
  have := hd'.found
  rw [closed_found hd.found] at this
  cases this
  rw [settled_isOpen] at hopen'
  cases hopen'

end

structure Attempted (s : ChannelStore) (command : SettleChannelDelivery) (d : ChannelDelivery) : Prop where
  found : s.deliveries.find? command.deliveryId = some d
  attempting : d.status = .attempting
  last : retries command d = false

theorem Kept.settleSentUpsert (hs : Sound s) (hd : Attempted s command d) {n : Nat} (hn : d.carried = some n)
    {externalMessageId : String}
    (h : { s with deliveries := s.deliveries.update command.deliveryId (settled command) }.settleSentUpsert command d
      externalMessageId n = .ok t) : Kept s t := by
  unfold ChannelStore.settleSentUpsert at h
  split at h
  · cases h
  rename_i c hc
  split at h
  · cases h
  dsimp only at h hc
  have hid := Table.key_of_find? hc
  have hcarries : Carries s c.id command.deliveryId d n := ⟨hd.found, hid.symm, hn⟩
  have hopen := isOpen_of_attempting hd.attempting
  have hsound := hs.console hc
  have hle := hsound.le_latest hcarries
  have hahead := hsound.ahead hcarries hopen
  -- The card now shows what was carried.
  have hshown : (shown externalMessageId n command.now c).deliveredSequence = n := by
    unfold ChannelStore.shown
    dsimp only
    omega
  have hadvance : Advances s c (shown externalMessageId n command.now c) := by
    refine ⟨rfl, Nat.le_refl _, hshown.le.trans hle, fun hd' hopen' => ?_, id, hsound.run⟩
    obtain rfl := hsound.alone hcarries hd' hopen hopen'
    have := hd'.found
    rw [hd.found] at this
    cases this
    have := hd'.carried
    rw [hn] at this
    cases this
    exact hshown.le
  have hclosed : Sound (closed s command d (shown externalMessageId n command.now) fun _ => rfl) := closed_sound hs hc hadvance
  have helse : Elsewhere d.consoleId s (closed s command d (shown externalMessageId n command.now) fun _ => rfl) :=
    closed_elsewhere hd.found
  have hfound : (closed s command d (shown externalMessageId n command.now) fun _ => rfl).consoles.find? d.consoleId =
      some (shown externalMessageId n command.now c) := closed_console hc
  have hlater : Later c (shown externalMessageId n command.now c) := .ofSame rfl rfl rfl
  split at h
  · rename_i hbehind
    have hqueued := queueExecutionConsoleUpsert_queued hclosed hfound rfl (fun {k d' n'} hd' => by
      obtain ⟨d₀, hd₀, -⟩ := hd'.back (closed_grows s command d _ _)
      have hnewest := hsound.newest hcarries hopen (hid ▸ hd₀)
      have hlt := hbehind.1
      rw [hshown] at hlt
      exact Nat.lt_of_le_of_lt hnewest hlt) h
    obtain ⟨k, d', n', hd', hopen'⟩ := hqueued.isOpen
    refine .atConsole (helse.trans hqueued.elsewhere) hqueued.sound hc (hqueued.consoles ▸ hfound) hlater ?_
    exact fun _ => .ofOpen hd' hopen' hid
  · rename_i hdone
    cases h
    refine .atConsole helse hclosed hc hfound hlater fun _ hstate hlt => ?_
    refine absurd ⟨hlt, ?_⟩ hdone
    obtain hstate | hstate | hstate := hstate <;> simp [hstate, ConsoleState.inRecall]

theorem endRecall_inRecall (command : SettleChannelDelivery) (c : ExecutionConsole) :
    (endRecall command c).state.inRecall = true := by
  unfold ChannelStore.endRecall
  split
  · rename_i h
    simp [h, ConsoleState.inRecall]
  · split <;> rfl

theorem endRecall_frame (command : SettleChannelDelivery) (c : ExecutionConsole) :
    (endRecall command c).latestSequence = c.latestSequence ∧ (endRecall command c).deliveredSequence = c.deliveredSequence ∧
      (endRecall command c).terminalSnapshot = c.terminalSnapshot ∧ (endRecall command c).agentRunId = c.agentRunId := by
  unfold ChannelStore.endRecall
  split
  · exact ⟨rfl, rfl, rfl, rfl⟩
  · split <;> exact ⟨rfl, rfl, rfl, rfl⟩

theorem Kept.settleRecall (hs : Sound s) (hd : Attempted s command d) (hn : d.carried = none) :
    Kept s (closed s command d (endRecall command) (ChannelStore.endRecall_id command)) := by
  obtain ⟨c, hc⟩ := hs.known hd.found
  have hid := Table.key_of_find? hc
  have hsound := hs.console hc
  have hrecall := hsound.recalls hd.found hid.symm hn
  obtain ⟨hlatest, hdelivered, hsnapshot, hrunId⟩ := endRecall_frame command c
  have hadvance : Advances s c (endRecall command c) := by
    refine ⟨ChannelStore.endRecall_id command c, hlatest.ge, by rw [hdelivered, hlatest]; exact hsound.ordered,
      fun hd ho => hdelivered ▸ hsound.ahead hd ho, fun _ => endRecall_inRecall command c, ?_⟩
    obtain ⟨r, hr, hstate | hstate | hterminal⟩ := hsound.run
    · simp [hstate, ConsoleState.inRecall] at hrecall
    · simp [hstate, ConsoleState.inRecall] at hrecall
    · exact ⟨r, hrunId ▸ hr, .inr (.inr hterminal)⟩
  refine .atConsole (closed_elsewhere hd.found) (closed_sound hs hc hadvance) hc (closed_console hc)
    (.ofRecall (endRecall_inRecall command c) hlatest hsnapshot) ?_
  exact fun _ => .ofState (.inr (endRecall_inRecall command c))

/-! ## An older state that fails -/

/-- The worker gives up showing a state of a card that has a later one. -/
structure StaleFailure (s : ChannelStore) (command : SettleChannelDelivery) (d : ChannelDelivery) (c : ExecutionConsole)
    (n : Nat) : Prop where
  attempted : Attempted s command d
  owner : d.leaseOwner = some command.workerId
  failed : command.outcome = .failed
  console : s.consoles.find? d.consoleId = some c
  carried : d.carried = some n
  shows : c.state = .opening ∨ c.state = .active ∨ c.state = .terminalSealed
  stale : n < c.latestSequence

section
variable {n : Nat}

theorem markFailed_sound (hs : Sound s) (hc : s.consoles.find? d.consoleId = some c) :
    Sound (closed s command d (markFailed command.failureCode command.now) fun _ => rfl) := by
  have hsound := hs.console hc
  refine closed_sound hs hc ⟨rfl, Nat.le_refl _, hsound.ordered, fun hd ho => hsound.ahead hd ho, id, hsound.run⟩

theorem Kept.settleFailed (hs : Sound s) (hd : Attempted s command d) (hn : d.carried = some n) (hfailed : command.outcome = .failed)
    (hc : s.consoles.find? d.consoleId = some c)
    (hnot : c.state = .opening ∨ c.state = .active ∨ c.state = .terminalSealed → c.latestSequence ≤ n) :
    Kept s (closed s command d (markFailed command.failureCode command.now) fun _ => rfl) := by
  refine .atConsole (closed_elsewhere hd.found) (markFailed_sound hs hc) hc (closed_console hc) (.ofSame rfl rfl rfl) ?_
  intro _ hstate _
  have hid := Table.key_of_find? hc
  have hle := (hs.console hc).le_latest ⟨hd.found, hid.symm, hn⟩
  have hn' : n = c.latestSequence := Nat.le_antisymm hle (hnot hstate)
  -- It is the latest state itself that has failed.
  refine .inr (anyFailed_iff.2 ⟨command.deliveryId, settled command d, ⟨closed_found hd.found, hid.symm, ?_⟩, ?_⟩)
  · exact hn.trans (congrArg some hn')
  unfold ChannelStore.settled
  dsimp only
  rw [hfailed]

/-- **The card is left behind**: the later state is not on its way and has not failed. -/
theorem StaleFailure.left (hs : Sound s) (h : StaleFailure s command d c n) :
    ¬ OnItsWay (closed s command d (markFailed command.failureCode command.now) fun _ => rfl)
      (markFailed command.failureCode command.now c) := by
  intro hway
  have hid := Table.key_of_find? h.console
  have hc : s.consoles.find? c.id = some c := Table.find?_key h.console
  have hsound := hs.console h.console
  have hcarries : Carries s c.id command.deliveryId d n := ⟨h.attempted.found, hid.symm, h.carried⟩
  have hopen := isOpen_of_attempting h.attempted.attempting
  have hahead := hsound.ahead hcarries hopen
  obtain hway | hway := hway h.shows (Nat.lt_of_le_of_lt hahead h.stale)
  · obtain ⟨k, d', n', hd', hopen'⟩ := anyOpen_iff.1 hway
    rw [closed_none_open hs hcarries hopen hc hd'] at hopen'
    cases hopen'
  · obtain ⟨k, d', hd', -⟩ := anyFailed_iff.1 hway
    obtain ⟨d₀, hd₀, -⟩ := hd'.back (closed_grows s command d _ _)
    have hnewest := hsound.newest hcarries hopen hd₀
    have hstale := h.stale
    dsimp only [ChannelStore.markFailed] at hnewest
    omega

end

/-! ## Any step -/

theorem payload_of_carried {d : ChannelDelivery} {n : Nat} (h : d.carried = some n) :
    ∃ agentRunId, d.payload = .upsert agentRunId n := by
  unfold ChannelDelivery.carried at h
  split at h
  · rename_i agentRunId _ hpayload
    cases h
    exact ⟨agentRunId, hpayload⟩
  · cases h

def LeavesBehind (s : ChannelStore) : Action → Prop
  | .settle command => ∃ d c n, StaleFailure s command d c n
  | _ => False

theorem settleDelivery_cases (h : s.settleDelivery command = .ok t) : t = s ∨
    (∃ d, s.deliveries.find? command.deliveryId = some d ∧ d.status = .attempting ∧ t = { s with
      deliveries := s.deliveries.update command.deliveryId (ChannelStore.retryScheduled command.failureCode command.now) }) ∨
    ∃ d, Attempted s command d ∧ d.leaseOwner = some command.workerId ∧
      { s with deliveries := s.deliveries.update command.deliveryId (settled command) }.settleConsole command d = .ok t := by
  unfold ChannelStore.settleDelivery at h
  split at h
  · cases h
    exact .inl rfl
  rename_i d hd
  split at h
  · cases h
    exact .inl rfl
  rename_i howner
  obtain ⟨hattempting, howner⟩ := not_or.1 howner
  split at h
  · cases h
    exact .inr (.inl ⟨d, hd, by simpa using hattempting, rfl⟩)
  · rename_i hlast
    exact .inr (.inr ⟨d, ⟨hd, by simpa using hattempting, by simpa using hlast⟩, by simpa using howner, h⟩)

theorem settleConsole_cases (h : s.settleConsole command d = .ok t) :
    (∃ n externalMessageId, d.carried = some n ∧ command.outcome = .sent externalMessageId ∧
      s.settleSentUpsert command d externalMessageId n = .ok t) ∨
    (∃ n, d.carried = some n ∧ command.outcome = .failed ∧
      t = { s with consoles := s.consoles.update d.consoleId (markFailed command.failureCode command.now) }) ∨
    d.carried = none ∧ t = { s with
      consoles := s.consoles.update d.consoleId (endRecall command) (ChannelStore.endRecall_id command) } := by
  unfold ChannelStore.settleConsole at h
  split at h
  · rename_i expectedSequence externalMessageId hpayload houtcome
    exact .inl ⟨expectedSequence, externalMessageId, by rw [ChannelDelivery.carried, hpayload], houtcome, h⟩
  · rename_i expectedSequence hpayload houtcome
    cases h
    exact .inr (.inl ⟨expectedSequence, by rw [ChannelDelivery.carried, hpayload], houtcome, rfl⟩)
  · rename_i hpayload
    cases h
    exact .inr (.inr ⟨by rw [ChannelDelivery.carried, hpayload], rfl⟩)

theorem Kept.retry (hs : Sound s) (hd : s.deliveries.find? command.deliveryId = some d) (hattempting : d.status = .attempting) :
    Kept s { s with
      deliveries := s.deliveries.update command.deliveryId (ChannelStore.retryScheduled command.failureCode command.now) } := by
  refine .ofPassed hs (.update Passed.refl _ _ (ChannelStore.retryScheduled command.failureCode command.now) (fun _ => rfl)
    fun d' hd' => ?_)
  rw [hd] at hd'
  cases hd'
  exact .ofOpen rfl rfl rfl (isOpen_of_attempting hattempting) rfl

theorem Kept.settle (hs : Sound s) (hnot : ∀ d c n, ¬ StaleFailure s command d c n) (h : s.settleDelivery command = .ok t) :
    Kept s t := by
  obtain rfl | ⟨d, hd, hattempting, rfl⟩ | ⟨d, hd, howner, h⟩ := settleDelivery_cases h
  · exact .refl hs
  · exact .retry hs hd hattempting
  obtain ⟨n, externalMessageId, hn, -, h⟩ | ⟨n, hn, hfailed, rfl⟩ | ⟨hn, rfl⟩ := settleConsole_cases h
  · exact .settleSentUpsert hs hd hn h
  · obtain ⟨c, hc⟩ := hs.known hd.found
    refine .settleFailed hs hd hn hfailed hc fun hshows => ?_
    by_contra hlt
    exact hnot d c n ⟨hd, howner, hfailed, hc, hn, hshows, Nat.lt_of_not_le hlt⟩
  · exact .settleRecall hs hd hn

end

variable {digest : AgentRunStatus → Nat → Nat → Nat → String} {a : Action}

theorem step_kept (hs : Sound s) (hnot : ¬ LeavesBehind s a) : Kept s (s.step digest a) := by
  unfold ChannelStore.step
  cases hperform : s.perform digest a with
  | error e => exact .refl hs
  | ok t =>
    cases a with
    | addRun run =>
      cases hperform
      exact .addRun hs run
    | changeRun agentRunId facts =>
      cases hperform
      exact .changeRun hs agentRunId facts
    | materialize p => exact .materialize hs hperform
    | reconcileSuperseded => exact .reconcileSuperseded hs hperform
    | expireLeases now =>
      cases hperform
      exact .expireLeases hs now
    | claim deliveryId workerId now =>
      cases hperform
      exact .claimDelivery hs deliveryId workerId now
    | settle command => exact .settle hs (fun d c n h => hnot ⟨d, c, n, h⟩) hperform

theorem step_left (hs : Sound s) (h : LeavesBehind s a) : Sound (s.step digest a) ∧
    Table.Grows Later (fun _ => True) s.consoles (s.step digest a).consoles ∧ ¬ AllOnTheirWay (s.step digest a) := by
  cases a with
  | settle command =>
    obtain ⟨d, c, n, h⟩ := h
    have hstep : s.step digest (.settle command) = closed s command d (markFailed command.failureCode command.now) fun _ => rfl := by
      have hretries : retries command d = false := h.attempted.last
      unfold ChannelStore.step ChannelStore.perform ChannelStore.settleDelivery
      dsimp only
      rw [h.attempted.found]
      dsimp only
      rw [if_neg (by simp [h.attempted.attempting, h.owner]), if_neg (by simp [hretries])]
      unfold ChannelStore.settleConsole
      obtain ⟨agentRunId, hpayload⟩ := payload_of_carried h.carried
      rw [hpayload, h.failed]
      rfl
    rw [hstep]
    refine ⟨markFailed_sound hs h.console,
      (closed_elsewhere h.attempted.found).later h.console (closed_console h.console) (.ofSame rfl rfl rfl), fun hall => ?_⟩
    exact h.left hs (hall _ _ (closed_console h.console))
  | _ => exact h.elim

theorem step_sound (hs : Sound s) : Sound (s.step digest a) := by
  by_cases h : LeavesBehind s a
  · exact (step_left hs h).1
  · exact (step_kept hs h).sound

theorem step_later (hs : Sound s) : Table.Grows Later (fun _ => True) s.consoles (s.step digest a).consoles := by
  by_cases h : LeavesBehind s a
  · exact (step_left hs h).2.1
  · exact (step_kept hs h).later

/-! ## Runs -/

theorem run_sound (as : List Action) (hs : Sound s) : Sound (s.run digest as) :=
  Runs.run_invariant (ChannelStore.step digest) (fun _ _ h => step_sound h) as s hs

theorem run_later : ∀ (as : List Action) {s : ChannelStore}, Sound s →
    Table.Grows Later (fun _ => True) s.consoles (s.run digest as).consoles
  | [], s, _ => .refl Later.refl s.consoles
  | _ :: as, _, hs => .trans Later.trans (fun _ _ => trivial) (step_later hs) (run_later as (step_sound hs))

structure CardsSafe (s : ChannelStore) : Prop where
  ordered : ∀ {id c}, s.consoles.find? id = some c → c.deliveredSequence ≤ c.latestSequence
  alone : ∀ {id c k k' d d'}, s.consoles.find? id = some c → s.deliveries.find? k = some d → s.deliveries.find? k' = some d' →
    d.isUpsertOf id = true → d'.isUpsertOf id = true → d.isOpen = true → d'.isOpen = true → k = k'
  recalled : ∀ {id c r}, s.consoles.find? id = some c → s.runs.find? c.agentRunId = some r → c.state.inRecall = true →
    r.facts.status.terminal = true

theorem Sound.safe (hs : Sound s) : CardsSafe s where
  ordered hc := (hs.console hc).ordered
  alone hc hd hd' hupsert hupsert' := by
    obtain rfl := Table.key_of_find? hc
    obtain ⟨hconsole, n, hn⟩ := isUpsertOf_iff.1 hupsert
    obtain ⟨hconsole', n', hn'⟩ := isUpsertOf_iff.1 hupsert'
    exact (hs.console hc).alone ⟨hd, hconsole, hn⟩ ⟨hd', hconsole', hn'⟩
  recalled hc hr hrecall := by
    obtain ⟨r', hr', hstate⟩ := (hs.console hc).run
    rw [hr] at hr'
    cases hr'
    obtain hstate | hstate | hterminal := hstate
    · simp [hstate, ConsoleState.inRecall] at hrecall
    · simp [hstate, ConsoleState.inRecall] at hrecall
    · exact hterminal

/-- **A card is kept up exactly as long as no older state fails for good.**  In every run a card is safe and moves on; its latest
state is on its way, was shown or has failed in every state of the run exactly when no step of the run gave up an older one. -/
theorem cards_on_their_way (digest : AgentRunStatus → Nat → Nat → Nat → String) (as : List Action) :
    (∀ bs, bs <+: as → CardsSafe (ChannelStore.empty.run digest bs) ∧
      ∀ {id c}, (ChannelStore.empty.run digest bs).consoles.find? id = some c →
        ∃ c', (ChannelStore.empty.run digest as).consoles.find? id = some c' ∧ Later c c') ∧
    ((∀ bs, bs <+: as → AllOnTheirWay (ChannelStore.empty.run digest bs)) ↔
      Runs.AllSteps (ChannelStore.step digest) (fun s a => ¬ LeavesBehind s a) .empty as) := by
  constructor
  · rintro bs ⟨cs, rfl⟩
    have hs : Sound (ChannelStore.empty.run digest bs) := run_sound bs .initial
    refine ⟨hs.safe, fun hc => ?_⟩
    have := (@run_later digest cs _ hs).kept hc
    rwa [ChannelStore.run, ChannelStore.run, ← List.foldl_append] at this
  constructor
  · intro hall
    refine (Runs.allSteps_iff (ChannelStore.step digest)).2 fun bs a hprefix hleaves => ?_
    refine (@step_left _ digest _ (run_sound bs .initial) hleaves).2.2 ?_
    have := hall (bs ++ [a]) hprefix
    rwa [ChannelStore.run, List.foldl_append] at this
  · rintro hnot bs ⟨cs, rfl⟩
    have hstart : Sound ChannelStore.empty ∧ AllOnTheirWay ChannelStore.empty := ⟨.initial, fun id c hc => by cases hc⟩
    refine (Runs.run_invariant_of_allSteps (ChannelStore.step digest) (P := fun s => Sound s ∧ AllOnTheirWay s)
      (fun s a hnot h => ?_) bs .empty ((Runs.allSteps_append _ bs cs ChannelStore.empty).1 hnot).1 hstart).2
    have hkept := @step_kept _ digest _ h.1 hnot
    exact ⟨hkept.sound, hkept.onTheirWay h.2⟩

/-! ## A run that leaves a card behind

The Run starts, its card is attempted, and the Run succeeds and is sealed while the attempt is under way; then the attempt fails and
may not be repeated. -/

def startedRun : AgentRun :=
  ⟨"run", 0, ⟨.running, 1, 0, 0, false, some 0, none⟩⟩

def endedFacts : RunFacts :=
  ⟨.succeeded, 2, 0, 0, false, some 0, some 1⟩

def projection (now : Nat) : ChannelStore.Projection :=
  ⟨"request", "conversation", "run", "agent", "app", now, "console", "delivery", "snapshot"⟩

def giveUp : SettleChannelDelivery :=
  ⟨"delivery", "worker", .failed, none, some "channel.card_rejected", false, 950, "other"⟩

def staleRun : List Action :=
  [.addRun startedRun, .materialize (projection 0), .claim "delivery" "worker" 0, .changeRun "run" endedFacts,
    .materialize (projection 1), .materialize (projection 901), .settle giveUp]

def versionDigest (_ : AgentRunStatus) (version _ _ : Nat) : String :=
  toString version

theorem cards_not_on_their_way : ¬ ∀ (digest : AgentRunStatus → Nat → Nat → Nat → String) (as bs : List Action), bs <+: as →
    AllOnTheirWay (ChannelStore.empty.run digest bs) := by
  intro h
  have hstale := h versionDigest staleRun staleRun List.prefix_rfl
  have hc : ∃ c, (ChannelStore.empty.run versionDigest staleRun).consoles.find? "console" = some c ∧
      c.state = .terminalSealed ∧ c.deliveredSequence < c.latestSequence ∧ c.id = "console" ∧ c.latestSequence = 3 :=
    ⟨_, rfl, by decide⟩
  obtain ⟨c, hc, hstate, hlt, hid, hlatest⟩ := hc
  obtain hway | hway := hstale "console" c hc (.inr (.inr hstate)) hlt
  · rw [hid] at hway
    revert hway
    decide
  · rw [hid, hlatest] at hway
    revert hway
    decide

end Rovai.Consoles
