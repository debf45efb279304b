import RovaiCore.ExecutionConsoleQueue
/-!
# What a step does to a card

Every operation keeps what holds of the consoles and moves each of them on.
-/
namespace Rovai.Consoles

open Tables (Table)

variable {s t : ChannelStore}

structure Later (c c' : ExecutionConsole) : Prop where
  latestSequence : c.latestSequence ≤ c'.latestSequence
  ofSealed : c.state.sealed = true →
    c'.state.sealed = true ∧ c'.latestSequence = c.latestSequence ∧ c'.terminalSnapshot = c.terminalSnapshot
  inRecall : c.state.inRecall = true → c'.state.inRecall = true

theorem Later.refl (c : ExecutionConsole) : Later c c :=
  ⟨Nat.le_refl _, fun h => ⟨h, rfl, rfl⟩, id⟩

theorem Later.trans {c c' c'' : ExecutionConsole} (h : Later c c') (h' : Later c' c'') : Later c c'' := by
  refine ⟨h.latestSequence.trans h'.latestSequence, fun hsealed => ?_, fun hrecall => h'.inRecall (h.inRecall hrecall)⟩
  obtain ⟨hsealed', hlatest, hsnapshot⟩ := h.ofSealed hsealed
  obtain ⟨hsealed'', hlatest', hsnapshot'⟩ := h'.ofSealed hsealed'
  exact ⟨hsealed'', hlatest'.trans hlatest, hsnapshot'.trans hsnapshot⟩

variable {c c' : ExecutionConsole}

theorem Later.ofOpen (h : c.state.sealed = false) (hlatest : c.latestSequence ≤ c'.latestSequence) :
    Later c c' := by
  refine ⟨hlatest, fun hsealed => ?_, fun hrecall => ?_⟩
  · rw [h] at hsealed
    cases hsealed
  · cases hstate : c.state <;> simp [hstate, ConsoleState.sealed, ConsoleState.inRecall] at h hrecall

theorem Later.ofSame (hstate : c'.state = c.state) (hlatest : c'.latestSequence = c.latestSequence)
    (hsnapshot : c'.terminalSnapshot = c.terminalSnapshot) : Later c c' :=
  ⟨hlatest.ge, fun h => ⟨hstate ▸ h, hlatest, hsnapshot⟩, fun h => hstate ▸ h⟩

theorem Later.ofRecall (hstate : c'.state.inRecall = true) (hlatest : c'.latestSequence = c.latestSequence)
    (hsnapshot : c'.terminalSnapshot = c.terminalSnapshot) : Later c c' := by
  refine ⟨hlatest.ge, fun _ => ⟨?_, hlatest, hsnapshot⟩, fun _ => hstate⟩
  cases hs : c'.state <;> simp [hs, ConsoleState.inRecall, ConsoleState.sealed] at hstate ⊢

def AllOnTheirWay (s : ChannelStore) : Prop :=
  ∀ id c, s.consoles.find? id = some c → OnItsWay s c

structure Kept (s t : ChannelStore) : Prop where
  sound : Sound t
  later : Table.Grows Later (fun _ => True) s.consoles t.consoles
  onTheirWay : AllOnTheirWay s → AllOnTheirWay t

theorem Kept.refl (hs : Sound s) : Kept s s :=
  ⟨hs, .refl Later.refl _, id⟩

theorem OnItsWay.ofOpen {id k : String} {d : ChannelDelivery} {n : Nat} {c : ExecutionConsole} (hd : Carries s id k d n)
    (hopen : d.isOpen = true) (hid : c.id = id) : OnItsWay s c :=
  fun _ _ => .inl (anyOpen_iff.2 ⟨k, d, n, hid ▸ hd, hopen⟩)

theorem OnItsWay.ofState {c : ExecutionConsole} (h : c.state = .terminalPending ∨ c.state.inRecall = true) : OnItsWay s c := by
  intro hstate
  obtain h | h := h
  · simp [h] at hstate
  · obtain hstate | hstate | hstate := hstate <;> simp [hstate, ConsoleState.inRecall] at h

variable {id : String}

theorem AllOnTheirWay.at (h : AllOnTheirWay s) (helse : Elsewhere id s t)
    (hc : ∀ c, t.consoles.find? id = some c → OnItsWay t c) : AllOnTheirWay t := by
  intro id' c' hc'
  by_cases hne : id' = id
  · subst hne
    exact hc c' hc'
  · rw [helse.consoles id' hne] at hc'
    exact (h id' c' hc').elsewhere helse (Table.key_of_find? hc' ▸ hne)

/-! ## Deliveries that move -/

/-- A delivery changes hands: what it carries, its key and whether it is over stay. -/
structure Moved (d d' : ChannelDelivery) : Prop where
  consoleId : d'.consoleId = d.consoleId
  payload : d'.payload = d.payload
  dedupeKey : d'.dedupeKey = d.dedupeKey
  isOpen : d'.isOpen = true → d.isOpen = true

theorem Moved.refl (d : ChannelDelivery) : Moved d d :=
  ⟨rfl, rfl, rfl, id⟩

variable {d d' : ChannelDelivery}

theorem Moved.carried (h : Moved d d') : d'.carried = d.carried := by
  unfold ChannelDelivery.carried
  rw [h.payload]

theorem Moved.keyed (h : Moved d d') (hd : Keyed d) : Keyed d' := by
  unfold Keyed
  rw [h.carried, h.dedupeKey, h.consoleId]
  exact hd

section
variable {New : ChannelDelivery → Prop}

theorem Carries.back (h : Table.Grows Moved (fun _ => False) s.deliveries t.deliveries) {id k : String} {d' : ChannelDelivery}
    {n : Nat} (hd : Carries t id k d' n) : ∃ d, Carries s id k d n ∧ (d'.isOpen = true → d.isOpen = true) := by
  obtain ⟨d, hold, hmoved⟩ | ⟨-, hfalse⟩ := h.origin hd.found
  · exact ⟨d, ⟨hold, hmoved.consoleId.symm.trans hd.consoleId, hmoved.carried.symm.trans hd.carried⟩, hmoved.isOpen⟩
  · exact hfalse.elim

theorem Carries.forth {R : ChannelDelivery → ChannelDelivery → Prop} (hR : ∀ {d d'}, R d d' → Moved d d')
    (h : Table.Grows R New s.deliveries t.deliveries) {id k : String} {d : ChannelDelivery} {n : Nat}
    (hd : Carries s id k d n) : ∃ d', Carries t id k d' n ∧ R d d' := by
  obtain ⟨d', hd', hr⟩ := h.kept hd.found
  have hmoved := hR hr
  exact ⟨d', ⟨hd', hmoved.consoleId.trans hd.consoleId, hmoved.carried.trans hd.carried⟩, hr⟩

theorem Sound.moved (hs : Sound s) (hruns : t.runs = s.runs) (hconsoles : t.consoles = s.consoles)
    (h : Table.Grows Moved (fun _ => False) s.deliveries t.deliveries) : Sound t where
  console {id c} hc := by
    rw [hconsoles] at hc
    have hsound := hs.console hc
    refine ⟨hsound.ordered, fun hd => ?_, fun hd hd' ho ho' => ?_, fun hd ho hd' => ?_, fun hd ho => ?_,
      fun {k d} hd hconsole hnone => ?_, hruns ▸ hsound.run⟩
    · obtain ⟨d₀, hd₀, -⟩ := hd.back h
      exact hsound.le_latest hd₀
    · obtain ⟨d₀, hd₀, hopen⟩ := hd.back h
      obtain ⟨d₁, hd₁, hopen'⟩ := hd'.back h
      exact hsound.alone hd₀ hd₁ (hopen ho) (hopen' ho')
    · obtain ⟨d₀, hd₀, hopen⟩ := hd.back h
      obtain ⟨d₁, hd₁, -⟩ := hd'.back h
      exact hsound.newest hd₀ (hopen ho) hd₁
    · obtain ⟨d₀, hd₀, hopen⟩ := hd.back h
      exact hsound.ahead hd₀ (hopen ho)
    · obtain ⟨d₀, hd₀, hmoved⟩ | ⟨-, hfalse⟩ := h.origin hd
      · exact hsound.recalls hd₀ (hmoved.consoleId ▸ hconsole) (hmoved.carried ▸ hnone)
      · exact hfalse.elim
  keyed {k d} hd := by
    obtain ⟨d₀, hd₀, hmoved⟩ | ⟨-, hfalse⟩ := h.origin hd
    · exact hmoved.keyed (hs.keyed hd₀)
    · exact hfalse.elim
  known {k d} hd := by
    obtain ⟨d₀, hd₀, hmoved⟩ | ⟨-, hfalse⟩ := h.origin hd
    · rw [hconsoles, hmoved.consoleId]
      exact hs.known hd₀
    · exact hfalse.elim

end

structure Passed (d d' : ChannelDelivery) : Prop where
  moved : Moved d d'
  isOpen : d.isOpen = true → d'.isOpen = true
  failed : d.status = .failed → d'.status = .failed

theorem Passed.refl (d : ChannelDelivery) : Passed d d :=
  ⟨.refl d, id, id⟩

theorem Passed.ofOpen (hconsole : d'.consoleId = d.consoleId) (hpayload : d'.payload = d.payload)
    (hkey : d'.dedupeKey = d.dedupeKey) (hopen : d.isOpen = true) (hopen' : d'.isOpen = true) : Passed d d' := by
  refine ⟨⟨hconsole, hpayload, hkey, fun _ => hopen⟩, fun _ => hopen', fun hfailed => ?_⟩
  simp [ChannelDelivery.isOpen, hfailed] at hopen

theorem Kept.ofPassed (hs : Sound s) {ds : Table ChannelDelivery.id} (h : Table.Grows Passed (fun _ => False) s.deliveries ds) :
    Kept s { s with deliveries := ds } where
  sound := hs.moved rfl rfl (h.mono Passed.moved id)
  later := .refl Later.refl _
  onTheirWay hway id c hc hstate hlt := by
    obtain hopen | hfailed := hway id c hc hstate hlt
    · obtain ⟨k, d, n, hd, hopen⟩ := anyOpen_iff.1 hopen
      obtain ⟨d', hd', hpassed⟩ := hd.forth (t := { s with deliveries := ds }) Passed.moved h
      exact .inl (anyOpen_iff.2 ⟨k, d', n, hd', hpassed.isOpen hopen⟩)
    · obtain ⟨k, d, hd, hfailed⟩ := anyFailed_iff.1 hfailed
      obtain ⟨d', hd', hpassed⟩ := hd.forth (t := { s with deliveries := ds }) Passed.moved h
      exact .inr (anyFailed_iff.2 ⟨k, d', hd', hpassed.failed hfailed⟩)

theorem Kept.expireLeases (hs : Sound s) (now : Nat) : Kept s (s.expireLeases now) := by
  refine Kept.ofPassed hs (.updateWhere Passed.refl _ _ (ChannelStore.expired now) (fun _ => rfl) fun k d _ hexpired => ?_)
  simp only [Bool.and_eq_true, beq_iff_eq] at hexpired
  exact .ofOpen rfl rfl rfl (isOpen_of_attempting hexpired.1) rfl

theorem Kept.claimDelivery (hs : Sound s) (deliveryId workerId : String) (now : Nat) :
    Kept s (s.claimDelivery deliveryId workerId now) := by
  unfold ChannelStore.claimDelivery
  split
  · exact .refl hs
  rename_i d hd
  split
  · exact .refl hs
  rename_i hclaim
  refine Kept.ofPassed hs (.update Passed.refl _ _ (ChannelStore.claimed workerId now) (fun _ => rfl) fun d' hd' => ?_)
  rw [hd] at hd'
  cases hd'
  have hpending : d.status = .pending := by
    by_contra hne
    exact hclaim (.inl hne)
  exact .ofOpen rfl rfl rfl (isOpen_of_pending hpending) rfl

/-! ## Runs that change -/

theorem Kept.ofRuns (hs : Sound s) {rs : Table AgentRun.id}
    (h : ∀ {id r}, s.runs.find? id = some r →
      ∃ r', rs.find? id = some r' ∧ (r.facts.status.terminal = true → r'.facts.status.terminal = true)) :
    Kept s { s with runs := rs } where
  sound := by
    refine ⟨fun hc => ?_, hs.keyed, hs.known⟩
    have hsound := hs.console hc
    have back : ∀ {id k d n}, Carries { s with runs := rs } id k d n → Carries s id k d n :=
      fun hd => ⟨hd.found, hd.consoleId, hd.carried⟩
    refine ⟨hsound.ordered, fun hd => hsound.le_latest (back hd), fun hd hd' => hsound.alone (back hd) (back hd'),
      fun hd ho hd' => hsound.newest (back hd) ho (back hd'), fun hd => hsound.ahead (back hd), hsound.recalls, ?_⟩
    obtain ⟨r, hr, hstate⟩ := hsound.run
    obtain ⟨r', hr', hterminal⟩ := h hr
    exact ⟨r', hr', hstate.imp_right (.imp_right hterminal)⟩
  later := .refl Later.refl _
  onTheirWay hway id c hc := hway id c hc

theorem Kept.changeRun (hs : Sound s) (agentRunId : String) (facts : RunFacts) :
    Kept s { s with runs := s.runs.update agentRunId (changedRun facts) (changedRun_id facts) } := by
  refine Kept.ofRuns hs fun {runId r} hr => ?_
  rw [Table.find?_update, hr]
  split
  · refine ⟨_, rfl, fun hterminal => ?_⟩
    unfold changedRun
    split
    · exact hterminal
    rename_i hsame
    have : facts.status = r.facts.status := by
      by_contra hne
      exact hsame ⟨hterminal, hne⟩
    exact this ▸ hterminal
  · exact ⟨r, rfl, id⟩

theorem Kept.addRun (hs : Sound s) (run : AgentRun) : Kept s { s with runs := s.runs.insert run } :=
  .ofRuns hs fun hr => ⟨_, Table.find?_insert_of_found hr run, id⟩

/-! ## Projecting -/

theorem Elsewhere.later (helse : Elsewhere id s t) (hc : s.consoles.find? id = some c)
    (hc' : t.consoles.find? id = some c') (hlater : Later c c') : Table.Grows Later (fun _ => True) s.consoles t.consoles := by
  constructor
  · intro id' r hr
    by_cases hne : id' = id
    · subst hne
      rw [hc] at hr
      cases hr
      exact ⟨c', hc', hlater⟩
    · exact ⟨r, (helse.consoles id' hne).trans hr, .refl r⟩
  · intro id' r hr
    by_cases hne : id' = id
    · subst hne
      rw [hc'] at hr
      cases hr
      exact .inl ⟨c, hc, hlater⟩
    · exact .inl ⟨r, (helse.consoles id' hne).symm.trans hr, .refl r⟩

theorem Kept.atConsole (helse : Elsewhere id s t) (ht : Sound t)
    (hc : s.consoles.find? id = some c) (hc' : t.consoles.find? id = some c') (hlater : Later c c')
    (hway : OnItsWay s c → OnItsWay t c') : Kept s t where
  sound := ht
  later := helse.later hc hc' hlater
  onTheirWay hall := by
    refine AllOnTheirWay.at hall helse fun c₁ hc₁ => ?_
    rw [hc'] at hc₁
    cases hc₁
    exact hway (hall _ _ hc)

section
variable {p : ChannelStore.Projection} {c : ExecutionConsole}

theorem Advances.next (hs : Sound s) (hc : s.consoles.find? c.id = some c) {c' : ExecutionConsole} (hid : c'.id = c.id)
    (hlatest : c'.latestSequence = c.latestSequence + 1) (hdelivered : c'.deliveredSequence = c.deliveredSequence)
    (hlive : c.state.sealed = false) (hrun : ∃ r, s.runs.find? c'.agentRunId = some r ∧
      (c'.state = .opening ∨ c'.state = .active ∨ r.facts.status.terminal = true)) : Advances s c c' := by
  have hsound := hs.console hc
  have hordered := hsound.ordered
  refine ⟨hid, by omega, by omega, fun hd hopen => hdelivered ▸ hsound.ahead hd hopen, fun hrecall => ?_, hrun⟩
  cases hstate : c.state <;> simp [hstate, ConsoleState.inRecall, ConsoleState.sealed] at hrecall hlive

theorem Kept.queueFor (hs : Sound s) (hc : s.consoles.find? c.id = some c) (f : ExecutionConsole → ExecutionConsole)
    (hf : ∀ c, (f c).id = c.id) (hadvance : Advances s c (f c)) (hlive : c.state.sealed = false)
    (hlatest : (f c).latestSequence = c.latestSequence + 1)
    (h : { s with consoles := s.consoles.update c.id f hf }.queueFor p c.id (c.latestSequence + 1) = .ok t) : Kept s t := by
  have hadvanced := hs.updateConsole hc f hf hadvance
  have hfound := Table.find?_update_self hc f hf
  have helse := Elsewhere.updateConsole s c.id f hf
  have hqueued := queueExecutionConsoleUpsert_queued hadvanced hfound hlatest.symm
    (fun {k d n} hd => by
      have := (hs.console hc).le_latest ⟨hd.found, hd.consoleId, hd.carried⟩
      omega) h
  obtain ⟨k, d, n, hd, hopen⟩ := hqueued.isOpen
  have hfound' : t.consoles.find? c.id = some (f c) := by
    rw [hqueued.consoles]
    exact hfound
  refine .atConsole (helse.trans hqueued.elsewhere) hqueued.sound hc hfound' (.ofOpen hlive (by omega)) ?_
  exact fun _ => .ofOpen hd hopen (hf c)

theorem Kept.pend (hs : Sound s) (hc : s.consoles.find? c.id = some c) (digest : String) (now : Nat)
    (hlive : c.state.sealed = false) (hrun : ∃ r, s.runs.find? c.agentRunId = some r ∧ r.facts.status.terminal = true) :
    Kept s { s with consoles := s.consoles.update c.id (ChannelStore.advanced digest .terminalPending now) } := by
  obtain ⟨r, hr, hterminal⟩ := hrun
  have hadvance : Advances s c (ChannelStore.advanced digest .terminalPending now c) :=
    .next hs hc rfl rfl rfl hlive ⟨r, hr, .inr (.inr hterminal)⟩
  have hfound := Table.find?_update_self hc (ChannelStore.advanced digest .terminalPending now) (fun _ => rfl)
  refine .atConsole (.updateConsole s c.id _ _) (hs.updateConsole hc _ _ hadvance) hc hfound (.ofOpen hlive hadvance.latestSequence) ?_
  exact fun _ => .ofState (.inl rfl)

theorem liveState_cases (status : AgentRunStatus) :
    ChannelStore.liveState status = .opening ∨ ChannelStore.liveState status = .active := by
  unfold ChannelStore.liveState
  split
  · exact .inl rfl
  · exact .inr rfl

theorem Kept.projectExisting (hs : Sound s) (hc : s.consoles.find? c.id = some c) {run : AgentRun}
    (hrun : s.runs.find? c.agentRunId = some run) {digest : String} (h : s.projectExisting p run.facts digest c = .ok t) :
    Kept s t := by
  unfold ChannelStore.projectExisting at h
  split at h
  · cases h
    exact .refl hs
  rename_i hsealed
  have hlive : c.state.sealed = false := by simpa using hsealed
  split at h
  · rename_i hterminal
    split at h
    · cases h
      exact .pend hs hc digest p.now hlive ⟨run, hrun, hterminal⟩
    split at h
    · refine .queueFor hs hc _ _ (.next hs hc rfl rfl rfl hlive ⟨run, hrun, .inr (.inr hterminal)⟩) hlive rfl h
    cases h
    exact .refl hs
  · split at h
    · cases h
      exact .refl hs
    · have hstate := liveState_cases run.facts.status
      refine .queueFor hs hc _ _ (.next hs hc rfl rfl rfl hlive ⟨run, hrun, ?_⟩) hlive rfl h
      exact hstate.imp_right .inl

theorem Kept.atNew {id : String} (helse : Elsewhere id s t) (ht : Sound t) (hfresh : s.consoles.find? id = none)
    (hway : ∀ c, t.consoles.find? id = some c → OnItsWay t c) : Kept s t where
  sound := ht
  later := by
    constructor
    · intro id' r hr
      have hne : id' ≠ id := by
        rintro rfl
        rw [hfresh] at hr
        cases hr
      exact ⟨r, (helse.consoles id' hne).trans hr, .refl r⟩
    · intro id' r hr
      by_cases hne : id' = id
      · subst hne
        exact .inr ⟨hfresh, trivial⟩
      · exact .inl ⟨r, (helse.consoles id' hne).symm.trans hr, .refl r⟩
  onTheirWay hall := AllOnTheirWay.at hall helse hway

theorem Kept.insertQueued (hs : Sound s) (hfresh : s.consoles.find? c.id = none) (hlatest : c.latestSequence = 1)
    (hdelivered : c.deliveredSequence = 0) (hrun : ∃ r, s.runs.find? c.agentRunId = some r ∧
      (c.state = .opening ∨ c.state = .active ∨ r.facts.status.terminal = true))
    (h : { s with consoles := s.consoles.insert c }.queueFor p c.id 1 = .ok t) : Kept s t := by
  have hinserted := hs.insertConsole hfresh (by omega) hrun
  have hfound : (s.consoles.insert c).find? c.id = some c := (Table.find?_insert hfresh _).trans (if_pos rfl)
  have helse := Elsewhere.insertConsole hfresh
  have hqueued := queueExecutionConsoleUpsert_queued hinserted hfound hlatest.symm
    (fun {k d n} hd => by
      -- A console that is new has no deliveries.
      obtain ⟨c', hc'⟩ := hs.known hd.found
      rw [hd.consoleId, hfresh] at hc'
      cases hc') h
  obtain ⟨k, d, n, hd, hopen⟩ := hqueued.isOpen
  refine .atNew (helse.trans hqueued.elsewhere) hqueued.sound hfresh fun c' hc' => .ofOpen hd hopen (Table.key_of_find? hc')

theorem Kept.projectNew (hs : Sound s) {run : AgentRun} (hrun : s.runs.find? p.agentRunId = some run) {digest : String}
    (h : s.projectNew p run.facts digest = .ok t) : Kept s t := by
  unfold ChannelStore.projectNew at h
  split at h
  · cases h
  rename_i htaken
  have hfresh : s.consoles.find? p.newConsoleId = none := by simpa using htaken
  split at h
  · rename_i hterminal
    split at h
    · exact .insertQueued (c := ChannelStore.newConsole p digest .terminalSealed (some p.snapshot)) hs hfresh rfl rfl
        ⟨run, hrun, .inr (.inr hterminal)⟩ h
    · cases h
      have hnew := hs.insertConsole (c := ChannelStore.newConsole p digest .terminalPending none) hfresh (Nat.zero_le _)
        ⟨run, hrun, .inr (.inr hterminal)⟩
      refine .atNew (.insertConsole (c := ChannelStore.newConsole p digest .terminalPending none) hfresh) hnew hfresh
        fun c hc => ?_
      dsimp only at hc
      rw [Table.find?_insert hfresh, if_pos rfl] at hc
      cases hc
      exact .ofState (.inl rfl)
  · refine .insertQueued (c := ChannelStore.newConsole p digest (ChannelStore.liveState run.facts.status) none) hs hfresh rfl rfl
      ⟨run, hrun, ?_⟩ h
    exact (liveState_cases run.facts.status).imp_right .inl

/-- **A projection puts what it changed on its way.** -/
theorem Kept.materialize (hs : Sound s) {digest : AgentRunStatus → Nat → Nat → Nat → String}
    (h : s.materializeExecutionConsole digest p = .ok t) : Kept s t := by
  unfold ChannelStore.materializeExecutionConsole at h
  split at h
  · cases h
  rename_i run hrun
  dsimp only at h
  split at h
  · rename_i c hc
    have hown : c.agentRunId = p.agentRunId := by simpa using List.find?_some hc
    exact .projectExisting hs (Table.find?_of_mem (List.mem_of_find?_eq_some hc)) (hown ▸ hrun) h
  · exact .projectNew hs hrun h

end

/-! ## Superseding -/

section
variable {c : ExecutionConsole} {successorRunId newDeliveryId : String} {now : Nat}

structure Reduced (id : String) (s t : ChannelStore) : Prop where
  runs : t.runs = s.runs
  deliveries : ∀ {k d}, t.deliveries.find? k = some d → s.deliveries.find? k = some d ∨
    d.consoleId = id ∧ d.carried = none ∧ Keyed d
  others : ∀ {k d}, s.deliveries.find? k = some d → d.consoleId ≠ id → t.deliveries.find? k = some d

theorem Reduced.trans {id : String} {u : ChannelStore} (h : Reduced id s t) (h' : Reduced id t u) : Reduced id s u := by
  refine ⟨h'.runs.trans h.runs, fun hd => ?_, fun hd hne => h'.others (h.others hd hne) hne⟩
  obtain hold | hnew := h'.deliveries hd
  · exact h.deliveries hold
  · exact .inr hnew

theorem Reduced.deletePending (s : ChannelStore) (id : String) :
    Reduced id s { s with deliveries := s.deliveries.deleteWhere (ChannelStore.isPendingUpsert id) } where
  runs := rfl
  deliveries {k d} hd := by
    rw [Table.find?_deleteWhere] at hd
    exact .inl (Option.filter_eq_some_iff.1 hd).1
  others {k d} hd hne := by
    rw [Table.find?_deleteWhere, hd, Option.filter_some_pos]
    simp [ChannelStore.isPendingUpsert, ChannelDelivery.isUpsertOf, hne]

theorem Reduced.insertRecall {d : ChannelDelivery} (hcarried : d.carried = none) (hkeyed : Keyed d)
    (h : s.insertConsoleDelivery d = .ok t) : Reduced d.consoleId s t ∧ t.consoles = s.consoles := by
  unfold ChannelStore.insertConsoleDelivery at h
  split at h
  · cases h
    exact ⟨⟨rfl, fun hd => .inl hd, fun hd _ => hd⟩, rfl⟩
  split at h
  · cases h
  cases h
  refine ⟨⟨rfl, fun hd => ?_, fun hd _ => Table.find?_insert_of_found hd d⟩, rfl⟩
  obtain hold | ⟨rfl, -, -⟩ := Table.insert_cases hd
  · exact .inl hold
  · exact .inr ⟨rfl, hcarried, hkeyed⟩

theorem Kept.ofRecall (hs : Sound s) (hc : s.consoles.find? c.id = some c) (f : ExecutionConsole → ExecutionConsole)
    (hf : ∀ c, (f c).id = c.id) (hrecall : (f c).state.inRecall = true) (hlatest : (f c).latestSequence = c.latestSequence)
    (hdelivered : (f c).deliveredSequence = c.deliveredSequence) (hsnapshot : (f c).terminalSnapshot = c.terminalSnapshot)
    (hrun : ∃ r, s.runs.find? (f c).agentRunId = some r ∧ r.facts.status.terminal = true) (h : Reduced c.id s t)
    (hconsoles : t.consoles = s.consoles.update c.id f hf) : Kept s t := by
  have hsound := hs.console hc
  have hfound : t.consoles.find? c.id = some (f c) := by
    rw [hconsoles]
    exact Table.find?_update_self hc f hf
  have helse : Elsewhere c.id s t := by
    refine ⟨h.runs, fun other hne => ?_, fun k d hne => ⟨fun hd => ?_, fun hd => h.others hd hne⟩⟩
    · rw [hconsoles]
      exact Table.find?_update_of_ne s.consoles hne f hf
    · obtain hold | ⟨hconsole, -⟩ := h.deliveries hd
      · exact hold
      · exact absurd hconsole hne
  have back : ∀ {k d n}, Carries t (f c).id k d n → Carries s c.id k d n := by
    intro k d n hd
    obtain hold | ⟨-, hnone, -⟩ := h.deliveries hd.found
    · exact ⟨hold, hd.consoleId.trans (hf c), hd.carried⟩
    rw [hd.carried] at hnone
    cases hnone
  have hsound' : ConsoleSound t (f c) := by
    obtain ⟨r, hr, hterminal⟩ := hrun
    refine ⟨by rw [hdelivered, hlatest]; exact hsound.ordered, fun hd => hlatest ▸ hsound.le_latest (back hd),
      fun hd hd' => hsound.alone (back hd) (back hd'), fun hd ho hd' => hsound.newest (back hd) ho (back hd'),
      fun hd ho => hdelivered ▸ hsound.ahead (back hd) ho, fun _ _ _ => hrecall, r, h.runs ▸ hr, .inr (.inr hterminal)⟩
  refine .atConsole helse (hs.at helse hfound hsound' fun hd _ => ?_) hc hfound (.ofRecall hrecall hlatest hsnapshot) ?_
  · obtain hold | ⟨-, -, hkeyed⟩ := h.deliveries hd
    · exact hs.keyed hold
    · exact hkeyed
  · exact fun _ => .ofState (.inr hrecall)

theorem Kept.recallConsole (hs : Sound s) (hc : s.consoles.find? c.id = some c)
    (hrun : ∃ r, s.runs.find? c.agentRunId = some r ∧ r.facts.status.terminal = true)
    (h : s.recallConsole c successorRunId newDeliveryId now = .ok t) : Kept s t := by
  unfold ChannelStore.recallConsole at h
  dsimp only at h
  have hdeleted := Reduced.deletePending s c.id
  split at h
  · cases h
    exact .ofRecall hs hc (ChannelStore.markRecalled now) (fun _ => rfl) rfl rfl rfl rfl hrun
      ⟨rfl, hdeleted.deliveries, hdeleted.others⟩ rfl
  · obtain ⟨hinserted, hconsoles⟩ := Reduced.insertRecall (by rfl) (.inr ⟨rfl, successorRunId, rfl⟩) h
    refine .ofRecall hs hc (ChannelStore.markRecallPending now) (fun _ => rfl) rfl rfl rfl rfl hrun (.trans ?_ hinserted)
      hconsoles
    exact ⟨rfl, hdeleted.deliveries, hdeleted.others⟩

theorem Kept.reconcileSuperseded (hs : Sound s) {consoleId : String}
    (h : s.reconcileSupersededExecutionConsole consoleId newDeliveryId now = .ok t) : Kept s t := by
  unfold ChannelStore.reconcileSupersededExecutionConsole at h
  split at h
  · cases h
    exact .refl hs
  rename_i c hc
  split at h
  · cases h
    exact .refl hs
  rename_i hready
  split at h
  · cases h
    exact .refl hs
  rename_i successorRunId _
  split at h
  · cases h
    exact .refl hs
  split at h
  · cases h
    exact .refl hs
  · refine .recallConsole hs (Table.find?_key hc) ?_ h
    simp only [Bool.or_eq_true, Bool.not_eq_true', not_or, Bool.not_eq_false] at hready
    obtain ⟨r, hr, hterminal⟩ := (Option.any_eq_true _ _).1 hready.1
    exact ⟨r, hr, hterminal⟩

end
end Rovai.Consoles
