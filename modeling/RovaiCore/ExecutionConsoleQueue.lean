import RovaiCore.ExecutionConsole
import RovaiCore.Runs
import Mathlib.Data.Nat.Basic
import Mathlib.Order.Basic
/-!
# One delivery for a card at a time

What holds of a console and its deliveries in every state: one upsert is open at a time, it carries more than any other, and the
card shows no more than what was carried.
-/
namespace Rovai.Consoles

open Tables (Table)

variable {s t u : ChannelStore}

structure Carries (s : ChannelStore) (consoleId k : String) (d : ChannelDelivery) (n : Nat) : Prop where
  found : s.deliveries.find? k = some d
  consoleId : d.consoleId = consoleId
  carried : d.carried = some n

structure ConsoleSound (s : ChannelStore) (c : ExecutionConsole) : Prop where
  ordered : c.deliveredSequence ≤ c.latestSequence
  le_latest : ∀ {k d n}, Carries s c.id k d n → n ≤ c.latestSequence
  alone : ∀ {k d n k' d' n'}, Carries s c.id k d n → Carries s c.id k' d' n' → d.isOpen = true → d'.isOpen = true → k = k'
  newest : ∀ {k d n k' d' n'}, Carries s c.id k d n → d.isOpen = true → Carries s c.id k' d' n' → n' ≤ n
  ahead : ∀ {k d n}, Carries s c.id k d n → d.isOpen = true → c.deliveredSequence ≤ n
  recalls : ∀ {k d}, s.deliveries.find? k = some d → d.consoleId = c.id → d.carried = none → c.state.inRecall = true
  run : ∃ r, s.runs.find? c.agentRunId = some r ∧
    (c.state = .opening ∨ c.state = .active ∨ r.facts.status.terminal = true)

def Keyed (d : ChannelDelivery) : Prop :=
  (∃ n m, d.carried = some n ∧ d.dedupeKey = .upsert d.consoleId m ∧ m ≤ n) ∨
    d.carried = none ∧ ∃ successor, d.dedupeKey = .recall d.consoleId successor

structure Sound (s : ChannelStore) : Prop where
  console : ∀ {id c}, s.consoles.find? id = some c → ConsoleSound s c
  keyed : ∀ {k d}, s.deliveries.find? k = some d → Keyed d
  known : ∀ {k d}, s.deliveries.find? k = some d → ∃ c, s.consoles.find? d.consoleId = some c

def OnItsWay (s : ChannelStore) (c : ExecutionConsole) : Prop :=
  c.state = .opening ∨ c.state = .active ∨ c.state = .terminalSealed → c.deliveredSequence < c.latestSequence →
    s.deliveries.any (fun d => d.isUpsertOf c.id && d.isOpen) = true ∨
      s.deliveries.any (fun d => d.isUpsertOf c.id && d.carried == some c.latestSequence && d.status == .failed) = true

theorem Sound.initial : Sound .empty where
  console h := by cases h
  keyed h := by cases h
  known h := by cases h

variable {consoleId : String}

theorem isUpsertOf_iff {d : ChannelDelivery} :
    d.isUpsertOf consoleId = true ↔ d.consoleId = consoleId ∧ ∃ n, d.carried = some n := by
  simp [ChannelDelivery.isUpsertOf, Option.isSome_iff_exists]

theorem anyOpen_iff : s.deliveries.any (fun d => d.isUpsertOf consoleId && d.isOpen) = true ↔
    ∃ k d n, Carries s consoleId k d n ∧ d.isOpen = true := by
  rw [Table.any_iff]
  constructor
  · rintro ⟨k, d, hd, h⟩
    obtain ⟨hupsert, hopen⟩ := Bool.and_eq_true_iff.1 h
    obtain ⟨hconsole, n, hn⟩ := isUpsertOf_iff.1 hupsert
    exact ⟨k, d, n, ⟨hd, hconsole, hn⟩, hopen⟩
  · rintro ⟨k, d, n, h, hopen⟩
    exact ⟨k, d, h.found, Bool.and_eq_true_iff.2 ⟨isUpsertOf_iff.2 ⟨h.consoleId, n, h.carried⟩, hopen⟩⟩

theorem anyFailed_iff {n : Nat} :
    s.deliveries.any (fun d => d.isUpsertOf consoleId && d.carried == some n && d.status == .failed) = true ↔
      ∃ k d, Carries s consoleId k d n ∧ d.status = .failed := by
  rw [Table.any_iff]
  constructor
  · rintro ⟨k, d, hd, h⟩
    simp only [Bool.and_eq_true, beq_iff_eq] at h
    exact ⟨k, d, ⟨hd, (isUpsertOf_iff.1 h.1.1).1, h.1.2⟩, h.2⟩
  · rintro ⟨k, d, h, hfailed⟩
    refine ⟨k, d, h.found, ?_⟩
    simp only [Bool.and_eq_true, beq_iff_eq]
    exact ⟨⟨isUpsertOf_iff.2 ⟨h.consoleId, n, h.carried⟩, h.carried⟩, hfailed⟩

/-! ## What happens elsewhere -/

structure Elsewhere (id : String) (s t : ChannelStore) : Prop where
  runs : t.runs = s.runs
  consoles : ∀ other, other ≠ id → t.consoles.find? other = s.consoles.find? other
  deliveries : ∀ k d, d.consoleId ≠ id → (t.deliveries.find? k = some d ↔ s.deliveries.find? k = some d)

theorem Elsewhere.refl (id : String) (s : ChannelStore) : Elsewhere id s s :=
  ⟨rfl, fun _ _ => rfl, fun _ _ _ => Iff.rfl⟩

variable {id : String}

theorem Elsewhere.trans (h : Elsewhere id s t) (h' : Elsewhere id t u) : Elsewhere id s u :=
  ⟨h'.runs.trans h.runs, fun other hne => (h'.consoles other hne).trans (h.consoles other hne),
    fun k d hne => (h'.deliveries k d hne).trans (h.deliveries k d hne)⟩

theorem Elsewhere.updateConsole (s : ChannelStore) (id : String) (f : ExecutionConsole → ExecutionConsole)
    (hf : ∀ c, (f c).id = c.id) : Elsewhere id s { s with consoles := s.consoles.update id f hf } :=
  ⟨rfl, fun _ hne => Table.find?_update_of_ne s.consoles hne f hf, fun _ _ _ => Iff.rfl⟩

variable {c : ExecutionConsole}

theorem Elsewhere.insertConsole (hfresh : s.consoles.find? c.id = none) :
    Elsewhere c.id s { s with consoles := s.consoles.insert c } :=
  ⟨rfl, fun _ hne => (Table.find?_insert hfresh _).trans (if_neg hne), fun _ _ _ => Iff.rfl⟩

theorem Elsewhere.carries {id other k : String} {d : ChannelDelivery} {n : Nat} (h : Elsewhere id s t) (hne : other ≠ id) :
    Carries t other k d n ↔ Carries s other k d n := by
  constructor
  · exact fun hc => ⟨(h.deliveries k d (hc.consoleId ▸ hne)).1 hc.found, hc.consoleId, hc.carried⟩
  · exact fun hc => ⟨(h.deliveries k d (hc.consoleId ▸ hne)).2 hc.found, hc.consoleId, hc.carried⟩

theorem ConsoleSound.elsewhere (hc : ConsoleSound s c) (h : Elsewhere id s t)
    (hne : c.id ≠ id) : ConsoleSound t c where
  ordered := hc.ordered
  le_latest hd := hc.le_latest ((h.carries hne).1 hd)
  alone hd hd' := hc.alone ((h.carries hne).1 hd) ((h.carries hne).1 hd')
  newest hd hopen hd' := hc.newest ((h.carries hne).1 hd) hopen ((h.carries hne).1 hd')
  ahead hd := hc.ahead ((h.carries hne).1 hd)
  recalls hd hconsole := hc.recalls ((h.deliveries _ _ (hconsole ▸ hne)).1 hd) hconsole
  run := by
    rw [h.runs]
    exact hc.run

theorem OnItsWay.elsewhere (hc : OnItsWay s c) (h : Elsewhere id s t) (hne : c.id ≠ id) :
    OnItsWay t c := by
  intro hstate hlt
  obtain hopen | hfailed := hc hstate hlt
  · obtain ⟨k, d, n, hd, hopen⟩ := anyOpen_iff.1 hopen
    exact .inl (anyOpen_iff.2 ⟨k, d, n, (h.carries hne).2 hd, hopen⟩)
  · obtain ⟨k, d, hd, hfailed⟩ := anyFailed_iff.1 hfailed
    exact .inr (anyFailed_iff.2 ⟨k, d, (h.carries hne).2 hd, hfailed⟩)

theorem Sound.at (hs : Sound s) (h : Elsewhere id s t) (hc : t.consoles.find? id = some c)
    (hsound : ConsoleSound t c) (hkeyed : ∀ {k d}, t.deliveries.find? k = some d → d.consoleId = id → Keyed d) : Sound t where
  console {id' c'} hc' := by
    by_cases hne : id' = id
    · subst hne
      rw [hc] at hc'
      cases hc'
      exact hsound
    · rw [h.consoles id' hne] at hc'
      exact (hs.console hc').elsewhere h (Table.key_of_find? hc' ▸ hne)
  keyed {k d} hd := by
    by_cases hne : d.consoleId = id
    · exact hkeyed hd hne
    · exact hs.keyed ((h.deliveries k d hne).1 hd)
  known {k d} hd := by
    by_cases hne : d.consoleId = id
    · exact ⟨c, hne ▸ hc⟩
    obtain ⟨c', hc'⟩ := hs.known ((h.deliveries k d hne).1 hd)
    exact ⟨c', (h.consoles _ hne).trans hc'⟩

/-! ## A console's own changes -/

structure Advances (s : ChannelStore) (c c' : ExecutionConsole) : Prop where
  id : c'.id = c.id
  latestSequence : c.latestSequence ≤ c'.latestSequence
  deliveredSequence : c'.deliveredSequence ≤ c'.latestSequence
  ahead : ∀ {k d n}, Carries s c.id k d n → d.isOpen = true → c'.deliveredSequence ≤ n
  inRecall : c.state.inRecall = true → c'.state.inRecall = true
  run : ∃ r, s.runs.find? c'.agentRunId = some r ∧
    (c'.state = .opening ∨ c'.state = .active ∨ r.facts.status.terminal = true)

theorem Sound.updateConsole (hs : Sound s) (hc : s.consoles.find? id = some c)
    (f : ExecutionConsole → ExecutionConsole) (hf : ∀ c, (f c).id = c.id) (h : Advances s c (f c)) :
    Sound { s with consoles := s.consoles.update id f hf } := by
  have hsound := hs.console hc
  refine hs.at (.updateConsole s id f hf) (Table.find?_update_self hc f hf) ?_ fun hd _ => hs.keyed hd
  have hback : ∀ {k d n}, Carries { s with consoles := s.consoles.update id f hf } (f c).id k d n → Carries s c.id k d n :=
    fun hd => ⟨hd.found, hd.consoleId.trans h.id, hd.carried⟩
  exact ⟨h.deliveredSequence, fun hd => (hsound.le_latest (hback hd)).trans h.latestSequence,
    fun hd hd' => hsound.alone (hback hd) (hback hd'), fun hd hopen hd' => hsound.newest (hback hd) hopen (hback hd'),
    fun hd hopen => h.ahead (hback hd) hopen,
    fun hd hconsole hnone => h.inRecall (hsound.recalls hd (hconsole.trans h.id) hnone), h.run⟩

theorem Sound.insertConsole (hs : Sound s) (hfresh : s.consoles.find? c.id = none)
    (hordered : c.deliveredSequence ≤ c.latestSequence)
    (hrun : ∃ r, s.runs.find? c.agentRunId = some r ∧
      (c.state = .opening ∨ c.state = .active ∨ r.facts.status.terminal = true)) :
    Sound { s with consoles := s.consoles.insert c } := by
  have hnone : ∀ {k d}, s.deliveries.find? k = some d → d.consoleId ≠ c.id := by
    intro k d hd hconsole
    obtain ⟨c', hc'⟩ := hs.known hd
    rw [hconsole, hfresh] at hc'
    cases hc'
  refine hs.at (.insertConsole hfresh) ((Table.find?_insert hfresh _).trans (if_pos rfl)) ?_ fun hd _ => hs.keyed hd
  exact ⟨hordered, fun hd => absurd hd.consoleId (hnone hd.found), fun hd => absurd hd.consoleId (hnone hd.found),
    fun hd => absurd hd.consoleId (hnone hd.found), fun hd => absurd hd.consoleId (hnone hd.found),
    fun hd hconsole => absurd hconsole (hnone hd), hrun⟩

/-! ## Queueing -/

section
variable {newId requestId id agentRunId agentId targetAppId : String} {latest now : Nat} {c : ExecutionConsole}

theorem isOpen_of_pending {d : ChannelDelivery} (h : d.status = .pending) : d.isOpen = true := by
  simp [ChannelDelivery.isOpen, h]

theorem isOpen_of_attempting {d : ChannelDelivery} (h : d.status = .attempting) : d.isOpen = true := by
  simp [ChannelDelivery.isOpen, h]

structure Queued (id : String) (s t : ChannelStore) : Prop where
  sound : Sound t
  elsewhere : Elsewhere id s t
  consoles : t.consoles = s.consoles
  isOpen : ∃ k d n, Carries t id k d n ∧ d.isOpen = true

theorem queued_of_row (hs : Sound s) (hc : s.consoles.find? id = some c)
    (hlt : ∀ {k d n}, Carries s id k d n → n < c.latestSequence) {p : String} {row : ChannelDelivery} (hruns : t.runs = s.runs)
    (hconsoles : t.consoles = s.consoles) (hfound : t.deliveries.find? p = some row) (hconsole : row.consoleId = id)
    (hcarried : row.carried = some c.latestSequence) (hisOpen : row.isOpen = true) (hkeyed : Keyed row)
    (hcases : ∀ {k d}, t.deliveries.find? k = some d → s.deliveries.find? k = some d ∧
      (∀ n, Carries s id k d n → d.isOpen = false) ∨ k = p ∧ d = row)
    (hkept : ∀ {k d}, d.consoleId ≠ id → s.deliveries.find? k = some d → t.deliveries.find? k = some d) : Queued id s t := by
  have hsound := hs.console hc
  have hid := Table.key_of_find? hc
  have helse : Elsewhere id s t := by
    refine ⟨hruns, fun other _ => by rw [hconsoles], fun k d hne => ⟨fun hd => ?_, hkept hne⟩⟩
    obtain ⟨hold, -⟩ | ⟨rfl, rfl⟩ := hcases hd
    · exact hold
    · exact absurd hconsole hne
  have hcarries : ∀ {k d n}, Carries t id k d n → n ≤ c.latestSequence ∧ (d.isOpen = true → k = p ∧ n = c.latestSequence) := by
    intro k d n hd
    obtain ⟨hold, hclosed⟩ | ⟨rfl, rfl⟩ := hcases hd.found
    · have hd' : Carries s id k d n := ⟨hold, hd.consoleId, hd.carried⟩
      exact ⟨(hlt hd').le, fun hopen => Bool.noConfusion (hopen.symm.trans (hclosed n hd'))⟩
    · obtain rfl := Option.mem_unique hcarried hd.carried
      exact ⟨Nat.le_refl _, fun _ => ⟨rfl, rfl⟩⟩
  refine ⟨hs.at helse (hconsoles ▸ hc) ?_ fun {k d} hd _ => ?_, helse, hconsoles, p, row, _, ⟨hfound, hconsole, hcarried⟩, hisOpen⟩
  · subst hid
    refine ⟨hsound.ordered, fun hd => (hcarries hd).1, fun hd hd' ho ho' => ((hcarries hd).2 ho).1.trans ((hcarries hd').2 ho').1.symm,
      fun hd ho hd' => (hcarries hd').1.trans ((hcarries hd).2 ho).2.ge, fun hd ho => hsound.ordered.trans ((hcarries hd).2 ho).2.ge,
      fun {k d} hd hconsole' hnone => ?_, by rw [hruns]; exact hsound.run⟩
    obtain ⟨hold, -⟩ | ⟨rfl, rfl⟩ := hcases hd
    · exact hsound.recalls hold hconsole' hnone
    rw [hcarried] at hnone
    cases hnone
  · obtain ⟨hold, -⟩ | ⟨rfl, rfl⟩ := hcases hd
    · exact hs.keyed hold
    · exact hkeyed

theorem queued_coalesced (hs : Sound s) (hc : s.consoles.find? id = some c)
    (hlt : ∀ {k d n}, Carries s id k d n → n < c.latestSequence)
    (hpending : s.deliveries.any (ChannelStore.isPendingUpsert id) = true) :
    Queued id s { s with
      deliveries := s.deliveries.updateWhere (ChannelStore.isPendingUpsert id)
        (fun d => { d with payload := .upsert agentRunId c.latestSequence }) } := by
  obtain ⟨p, dp, hdp, hisPending⟩ := Table.any_iff.1 hpending
  have hyes := hisPending
  simp only [ChannelStore.isPendingUpsert, Bool.and_eq_true, beq_iff_eq] at hisPending
  obtain ⟨hconsole, np, hnp⟩ := isUpsertOf_iff.1 hisPending.1
  have hp : Carries s id p dp np := ⟨hdp, hconsole, hnp⟩
  -- No other row of the console is open, and so none but this one is rewritten.
  have halone : ∀ {k d n}, Carries s id k d n → d.isOpen = true → k = p := by
    intro k d n hd hopen
    obtain rfl := Table.key_of_find? hc
    exact (hs.console hc).alone hd hp hopen (isOpen_of_pending hisPending.2)
  have hfind := fun k => Table.find?_updateWhere s.deliveries (ChannelStore.isPendingUpsert id)
    (fun d => { d with payload := .upsert agentRunId c.latestSequence }) (fun _ => rfl) k
  refine queued_of_row hs hc hlt rfl rfl
    (show _ = some { dp with payload := .upsert agentRunId c.latestSequence } by rw [hfind, hdp, Option.map_some, if_pos hyes])
    hconsole rfl (isOpen_of_pending hisPending.2) ?_
    (fun {k d} hd => ?_) fun {k d} hne hd => ?_
  · obtain ⟨n, m, hn, hkey, hle⟩ | ⟨hnone, -⟩ := hs.keyed hdp
    · obtain rfl := Option.mem_unique hnp hn
      exact .inl ⟨c.latestSequence, m, rfl, hkey, hle.trans (hlt hp).le⟩
    · rw [hnp] at hnone
      cases hnone
  · rw [hfind] at hd
    obtain ⟨d₀, hd₀, rfl⟩ := Option.map_eq_some_iff.1 hd
    by_cases hk : k = p
    · subst hk
      rw [hdp] at hd₀
      cases hd₀
      exact .inr ⟨rfl, if_pos hyes⟩
    · have hno : ∀ n, Carries s id k d₀ n → d₀.isOpen = false := fun n hd =>
        Bool.eq_false_iff.2 fun hopen => hk (halone hd hopen)
      rw [if_neg fun hpending => ?_]
      · exact .inl ⟨hd₀, hno⟩
      simp only [ChannelStore.isPendingUpsert, Bool.and_eq_true, beq_iff_eq] at hpending
      obtain ⟨hconsole', n, hn⟩ := isUpsertOf_iff.1 hpending.1
      exact hk (halone ⟨hd₀, hconsole', hn⟩ (isOpen_of_pending hpending.2))
  · rw [hfind, hd, Option.map_some, if_neg]
    simp [ChannelStore.isPendingUpsert, ChannelDelivery.isUpsertOf, hne]

theorem queued_inserted (hs : Sound s) (hc : s.consoles.find? id = some c)
    (hlt : ∀ {k d n}, Carries s id k d n → n < c.latestSequence)
    (hnone : ∀ {k d n}, Carries s id k d n → d.isOpen = false)
    (h : s.insertConsoleDelivery (ChannelStore.newDelivery newId requestId id (.upsert id c.latestSequence) targetAppId agentId
      (.upsert agentRunId c.latestSequence) now) = .ok t) : Queued id s t := by
  unfold ChannelStore.insertConsoleDelivery at h
  split at h
  · -- The key of another delivery is no later than what that one carries.
    rename_i htaken
    exfalso
    obtain ⟨k, d, hd, hkey⟩ := Table.any_iff.1 htaken
    have hkey : d.dedupeKey = .upsert id c.latestSequence := by simpa [ChannelStore.newDelivery] using hkey
    obtain ⟨n, m, hn, hown, hle⟩ | ⟨-, successor, hown⟩ := hs.keyed hd
    · rw [hkey] at hown
      cases hown
      have := hlt ⟨hd, rfl, hn⟩
      omega
    · rw [hkey] at hown
      cases hown
  split at h
  · cases h
  rename_i hfresh
  have hfresh : s.deliveries.find? newId = none := by simpa [ChannelStore.newDelivery] using hfresh
  cases h
  refine queued_of_row hs hc hlt rfl rfl (Table.find?_insert_self hfresh) rfl rfl rfl
    (.inl ⟨c.latestSequence, c.latestSequence, rfl, rfl, Nat.le_refl _⟩) (fun hd => ?_)
    fun _ hd => Table.find?_insert_of_found hd _
  obtain hold | ⟨rfl, rfl, -⟩ := Table.insert_cases hd
  · exact .inl ⟨hold, fun _ => hnone⟩
  · exact .inr ⟨rfl, rfl⟩

/-- **After a queueing one upsert of the console is open**, and it is one that will show the latest state or be followed by one. -/
theorem queueExecutionConsoleUpsert_queued (hs : Sound s) (hc : s.consoles.find? id = some c) (hlatest : latest = c.latestSequence)
    (hlt : ∀ {k d n}, Carries s id k d n → n < c.latestSequence)
    (h : s.queueExecutionConsoleUpsert newId requestId id agentRunId agentId targetAppId latest now = .ok t) : Queued id s t := by
  subst hlatest
  unfold ChannelStore.queueExecutionConsoleUpsert at h
  dsimp only at h
  split at h
  · cases h
    exact queued_coalesced hs hc hlt ‹_›
  split at h
  · rename_i hattempting
    cases h
    obtain ⟨k, d, hd, hupsert⟩ := Table.any_iff.1 hattempting
    simp only [ChannelStore.isAttemptingUpsert, Bool.and_eq_true, beq_iff_eq] at hupsert
    obtain ⟨hconsole, n, hn⟩ := isUpsertOf_iff.1 hupsert.1
    exact ⟨hs, .refl id s, rfl, k, d, n, ⟨hd, hconsole, hn⟩, isOpen_of_attempting hupsert.2⟩
  · rename_i hpending hattempting
    refine queued_inserted hs hc hlt (fun {k d n} hd => ?_) h
    have hp := Table.any_eq_false (by simpa using hpending) hd.found
    have ha := Table.any_eq_false (by simpa using hattempting) hd.found
    have hupsert : d.isUpsertOf id = true := isUpsertOf_iff.2 ⟨hd.consoleId, n, hd.carried⟩
    simp only [ChannelStore.isPendingUpsert, ChannelStore.isAttemptingUpsert, hupsert, Bool.true_and] at hp ha
    simp [ChannelDelivery.isOpen, hp, ha]

end
end Rovai.Consoles
