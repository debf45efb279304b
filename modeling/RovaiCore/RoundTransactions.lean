import RovaiCore.RoundSteps
/-!
# What a transaction does to the rounds

The transactions are made of statements: rows of deliveries that are rewritten, a new Run and its inputs, a publication, and flags of
messages that the graph does not read.
-/
namespace Rovai.Rounds

open Tables (Table)
open List
open RoundStore (DeliveryWrite)

variable {s t u : RoundStore}

/-! ## Several deliveries -/

structure SameBut (w : DeliveryWrite) (deliveryId : String) (s t : RoundStore) : Prop where
  inputs : t.inputs = s.inputs
  markers : t.inputMarkers = s.inputMarkers
  messages : t.messages = s.messages
  runs : t.runs = s.runs
  deliveries : t.deliveries = s.deliveries.update deliveryId w.write w.id

theorem insertProbe_tables (s : RoundStore) (runId : String) : (s.insertProbe runId).inputs = s.inputs ∧
    (s.insertProbe runId).inputMarkers = s.inputMarkers ∧ (s.insertProbe runId).messages = s.messages ∧
    (s.insertProbe runId).runs = s.runs ∧ (s.insertProbe runId).deliveries = s.deliveries := by
  unfold RoundStore.insertProbe
  split
  · exact ⟨rfl, rfl, rfl, rfl, rfl⟩
  · exact ⟨rfl, rfl, rfl, rfl, rfl⟩

variable {w : DeliveryWrite}

variable {d : CampMessageDelivery}

theorem updateDelivery_tables {deliveryId : String}
    (hd : s.deliveries.find? deliveryId = some d) : SameBut w deliveryId s (s.updateDelivery w deliveryId) := by
  unfold RoundStore.updateDelivery
  rw [hd]
  dsimp only
  split
  · split
    · obtain ⟨hinputs, hmarkers, hmessages, hruns, hdeliveries⟩ := insertProbe_tables
        { s with deliveries := s.deliveries.update deliveryId w.write w.id } _
      exact ⟨hinputs, hmarkers, hmessages, hruns, hdeliveries⟩
    · exact ⟨rfl, rfl, rfl, rfl, rfl⟩
  · exact ⟨rfl, rfl, rfl, rfl, rfl⟩

structure Open (s : RoundStore) (w : DeliveryWrite) (d : CampMessageDelivery) : Prop where
  notSettled : d.status ≠ .settled
  notCancelled : d.status ≠ .cancelled
  agrees : Agrees s (w.write d)

theorem passes_one (hs : Sound s) {deliveryId : String}
    (hd : s.deliveries.find? deliveryId = some d) (h : Open s w d) : Passes s (s.updateDelivery w deliveryId) :=
  passes_updateDelivery hs hd h.notSettled h.notCancelled h.agrees

theorem passes_rows (w : DeliveryWrite) : ∀ (ids : List String) {s : RoundStore}, ids.Nodup → Sound s →
    (∀ id ∈ ids, ∃ d, s.deliveries.find? id = some d ∧ Open s w d) → Passes s (ids.foldl (fun t id => t.updateDelivery w id) s)
  | [], _, _, hs, _ => .refl hs
  | id :: ids, s, hnodup, hs, h => by
    obtain ⟨d, hd, hopen⟩ := h id mem_cons_self
    have hfirst := passes_one hs hd hopen
    have htables := updateDelivery_tables (w := w) hd
    obtain ⟨hnot, hnodup⟩ := nodup_cons.1 hnodup
    refine hfirst.trans (passes_rows w ids hnodup hfirst.sound fun id' hid' => ?_)
    obtain ⟨d', hd', hopen'⟩ := h id' (mem_cons_of_mem id hid')
    have hne : id' ≠ id := by
      rintro rfl
      exact hnot hid'
    refine ⟨d', by rw [htables.deliveries, Table.find?_update_of_ne s.deliveries hne, hd'], hopen'.notSettled,
      hopen'.notCancelled, hopen'.agrees.waiting, fun hm hr => ?_, fun hm => ?_, hopen'.agrees.settled⟩
    · rw [htables.inputs]
      exact hopen'.agrees.started hm hr
    · rw [htables.markers]
      exact hopen'.agrees.steered hm

theorem passes_updateDeliveries (hs : Sound s) {p : CampMessageDelivery → Bool}
    (h : ∀ {k d}, s.deliveries.find? k = some d → p d = true → Open s w d) : Passes s (s.updateDeliveries p w) := by
  refine passes_rows w _ (s.deliveries.nodup.sublist (filter_sublist.map _)) hs fun id hid => ?_
  obtain ⟨d, hd, rfl⟩ := mem_map.1 hid
  obtain ⟨hd, hp⟩ := mem_filter.1 hd
  exact ⟨d, Table.find?_of_mem hd, h (Table.find?_of_mem hd) hp⟩

theorem open_backToQueue (h : d.status = .claimed ∨ d.status = .failed) : Open s RoundStore.backToQueue d := by
  refine ⟨fun he => ?_, fun he => ?_, ⟨fun _ => rfl, fun _ hr => (by cases hr), fun hm => (by cases hm), fun he => (by cases he)⟩⟩
  · simp [he] at h
  · simp [he] at h

theorem open_endedAs (hs : Sound s) {k : String} (hd : s.deliveries.find? k = some d)
    (h : d.status = .waiting ∨ d.status = .claimed ∨ d.status = .failed) {status : DeliveryStatus} {failureCode : Option String}
    (hstatus : status ≠ .waiting) (hsettled : status = .settled → ∃ r, d.claimedAgentRunId = some r) :
    Open s (RoundStore.endedAs status failureCode) d := by
  have hagrees := hs.agrees hd
  refine ⟨fun he => ?_, fun he => ?_, ⟨fun he => absurd he hstatus, hagrees.started, hagrees.steered, hsettled⟩⟩
  · simp [he] at h
  · simp [he] at h

/-! ## Flags of messages -/

section
variable {ms : Table CampMessage.id} {c : String → CampMessage → Bool} {f : CampMessage → CampMessage}

theorem passes_messages (hs : Sound s) (hfind : ∀ k, ms.find? k = (s.messages.find? k).map fun m => if c k m then f m else m)
    (hf : ∀ m, (f m).sourceAgentRunId = m.sourceAgentRunId ∧ (f m).campId = m.campId ∧ (f m).authorType = m.authorType ∧
      ((f m).tombstoned = false → m.tombstoned = false) ∧ ((f m).recallState = .recallable → m.recallState = .recallable))
    (hwithdrawn : ∀ {k m}, s.messages.find? k = some m → c k m = true → (f m).recallState = .withdrawn →
      ∃ k' d, s.deliveries.find? k' = some d ∧ d.messageId = k ∧ d.status = .cancelled) :
    Sound { s with messages := ms } ∧ Grown s { s with messages := ms } := by
  have hforth : ∀ {k m}, s.messages.find? k = some m → ∃ m', ms.find? k = some m' ∧ m'.sourceAgentRunId = m.sourceAgentRunId ∧
      m'.campId = m.campId ∧ m'.authorType = m.authorType ∧ (m'.tombstoned = false → m.tombstoned = false) ∧
      (m'.recallState = .recallable → m.recallState = .recallable) ∧
      (m'.recallState = .withdrawn → ∃ k' d, s.deliveries.find? k' = some d ∧ d.messageId = k ∧ d.status = .cancelled) := by
    intro k m hm
    obtain ⟨hsource, hcamp, hauthor, htombstoned, hrecallable⟩ := hf m
    refine ⟨_, by rw [hfind, hm]; rfl, ?_⟩
    dsimp only
    split
    · exact ⟨hsource, hcamp, hauthor, htombstoned, hrecallable, hwithdrawn hm ‹_›⟩
    · exact ⟨rfl, rfl, rfl, id, id, hs.withdrawn hm⟩
  have hback : ∀ {k m'}, ms.find? k = some m' → ∃ m, s.messages.find? k = some m := by
    intro k m' hm'
    rw [hfind] at hm'
    obtain ⟨m, hm, -⟩ := Option.map_eq_some_iff.1 hm'
    exact ⟨m, hm⟩
  have hof : ∀ {k m'}, ms.find? k = some m' → ∃ m, s.messages.find? k = some m ∧ m'.sourceAgentRunId = m.sourceAgentRunId ∧
      m'.campId = m.campId ∧ (m'.recallState = .recallable → m.recallState = .recallable) ∧
      (m'.recallState = .withdrawn → ∃ k' d, s.deliveries.find? k' = some d ∧ d.messageId = k ∧ d.status = .cancelled) := by
    intro k m' hm'
    obtain ⟨m, hm⟩ := hback hm'
    obtain ⟨_, hm'', hsource, hcamp, -, -, hrecall⟩ := hforth hm
    cases hm'.symm.trans hm''
    exact ⟨m, hm, hsource, hcamp, hrecall⟩
  have hgraph : SameGraph s { s with messages := ms } := by
    refine sameGraph_of rfl (fun h => ?_) fun h => ?_
    · obtain ⟨m', hm', hsource, -⟩ := hforth h
      exact ⟨m', hm', hsource⟩
    · obtain ⟨m, hm, hsource, -⟩ := hof h
      exact ⟨m, hm, hsource.symm⟩
  have hwell : WellFormed { s with messages := ms } := by
    refine ⟨hs.probe, fun hi => ?_, fun hm hr => ?_, hs.batch, fun hm => ?_, fun hd => ?_, hs.waiting, hs.started, hs.steered,
      hs.settled, fun hm hrecall => ?_, fun hm hrecall => ?_⟩
    · obtain ⟨r, m, hr, hm, hcamp⟩ := hs.input hi
      obtain ⟨m', hm', -, hcamp', -⟩ := hforth hm
      exact ⟨r, m', hr, hm', hcamp.trans hcamp'.symm⟩
    · obtain ⟨m, hm, hsource, hcamp, -⟩ := hof hm
      obtain ⟨r, hr, hsame⟩ := hs.source hm (hsource.symm.trans hr)
      exact ⟨r, hr, hsame.trans hcamp.symm⟩
    · obtain ⟨m, hm⟩ := hback hm
      exact hs.published hm
    · obtain ⟨m, hm⟩ := hs.delivery hd
      obtain ⟨m', hm', -⟩ := hforth hm
      exact ⟨m', hm'⟩
    · obtain ⟨m, hm, -, -, hrecallable, -⟩ := hof hm
      exact hs.recallable hm (hrecallable hrecall)
    · obtain ⟨m, hm, -, -, -, hwithdrawn⟩ := hof hm
      exact hwithdrawn hrecall
  refine ⟨⟨hwell, fun hc hr hu => hgraph.announced (s := s) hs (fun h => ?_) hback hc hr hu (fun hr _ => hr) fun hd _ => hd⟩,
    hgraph.grown rfl rfl (fun h => ?_) (fun _ hr _ => hr) fun _ hd _ => hd⟩
  all_goals obtain ⟨m', hm', -, -, hauthor, htombstoned, -⟩ := hforth h
  · exact ⟨m', hm', hauthor, htombstoned⟩
  · exact ⟨m', hm', hauthor⟩

theorem passes_flags (hs : Sound s) (hfind : ∀ k, ms.find? k = (s.messages.find? k).map fun m => if c k m then f m else m)
    (hf : ∀ m, (f m).sourceAgentRunId = m.sourceAgentRunId ∧ (f m).campId = m.campId ∧ (f m).authorType = m.authorType ∧
      (f m).tombstoned = m.tombstoned ∧ ((f m).recallState = .recallable → m.recallState = .recallable))
    (hwithdrawn : ∀ {k m}, s.messages.find? k = some m → c k m = true → (f m).recallState = .withdrawn →
      ∃ k' d, s.deliveries.find? k' = some d ∧ d.messageId = k ∧ d.status = .cancelled) :
    Passes s { s with messages := ms } := by
  obtain ⟨hsound, hgrown⟩ := passes_messages hs hfind
    (fun m => ⟨(hf m).1, (hf m).2.1, (hf m).2.2.1, fun h => (hf m).2.2.2.1 ▸ h, (hf m).2.2.2.2⟩) hwithdrawn
  refine ⟨hsound, hgrown, fun {k m m'} hm hm' => ?_, .inl⟩
  cases ((hfind k).trans (congrArg _ hm)).symm.trans hm'
  dsimp only
  split
  · exact (hf m).2.2.2.1
  · rfl

end

theorem passes_closeRecalls (hs : Sound s) (p : CampMessage → Bool) :
    Passes s { s with messages := s.messages.updateWhere p RoundStore.closeRecall RoundStore.closeRecall_id } := by
  refine passes_flags (c := fun _ => p) hs (Table.find?_updateWhere s.messages p RoundStore.closeRecall RoundStore.closeRecall_id)
    (fun m => ?_) fun {k m} hm _ hwithdrawn => hs.withdrawn hm ?_
  · unfold RoundStore.closeRecall
    split
    · exact ⟨rfl, rfl, rfl, rfl, fun _ => ‹_›⟩
    · exact ⟨rfl, rfl, rfl, rfl, id⟩
  · unfold RoundStore.closeRecall at hwithdrawn
    split at hwithdrawn
    · cases hwithdrawn
    · exact hwithdrawn

theorem find?_flagged {messageId : String} {f : CampMessage → CampMessage} {hf : ∀ m, (f m).id = m.id} (k : String) :
    (s.messages.update messageId f hf).find? k =
      (s.messages.find? k).map fun m => if decide (k = messageId) = true then f m else m := by
  rw [Table.find?_update]
  by_cases hk : k = messageId <;> simp [hk]

/-! ## New rows -/

structure Adds (Hub : String → Prop) (s t : RoundStore) : Prop where
  rounds : t.rounds = s.rounds
  markers : ∀ {p}, p ∈ s.inputMarkers → p ∈ t.inputMarkers
  runs : ∀ {k r}, s.runs.find? k = some r → t.runs.find? k = some r
  messages : ∀ {k m}, s.messages.find? k = some m → t.messages.find? k = some m
  deliveries : ∀ {k d}, s.deliveries.find? k = some d → t.deliveries.find? k = some d
  newDelivery : ∀ {k d}, t.deliveries.find? k = some d → s.deliveries.find? k = some d ∨ s.messages.find? d.messageId = none
  joined : ∀ {a b}, Joined s a b → Joined t a b
  newEdge : ∀ {a b}, Joined t a b → Joined s a b ∨
    (∃ r, Hub r ∧ (a = .run r ∨ b = .run r)) ∧ ∀ {root}, Quiet s root → ¬ Together s (.message root) a
  unfinished : ∀ {r run}, Hub r → t.runs.find? r = some run → run.status ≠ .succeeded
  newMessage : ∀ {k m}, t.messages.find? k = some m → (∃ m', s.messages.find? k = some m') ∨
    (∃ r, Hub r ∧ Together t (.message k) (.run r)) ∨ ∀ {b}, ¬ Joined t (.message k) b

section
variable {Hub : String → Prop} {root : String}

theorem Adds.together (h : Adds Hub s t) {a b : Node} (hab : Together t a b) :
    Together s a b ∨ ∃ r, Hub r ∧ Together t a (.run r) := by
  induction hab with
  | refl => exact .inl .refl
  | tail hpath hjoined ih =>
    obtain ih | ih := ih
    · obtain hold | ⟨⟨r, hr, rfl | rfl⟩, -⟩ := h.newEdge hjoined
      · exact .inl (ih.tail hold)
      · exact .inr ⟨r, hr, hpath⟩
      · exact .inr ⟨r, hr, hpath.tail hjoined⟩
    · exact .inr ih

theorem Adds.quiet_together (h : Adds Hub s t) (hq : Quiet s root) {a : Node} (hab : Together t (.message root) a) :
    Together s (.message root) a := by
  induction hab with
  | refl => exact .refl
  | tail _ hjoined ih =>
    obtain hold | ⟨-, hout⟩ := h.newEdge hjoined
    · exact ih.tail hold
    · exact absurd ih (hout hq)

theorem Adds.not_together (ht : WellFormed t) (h : Adds Hub s t) (hc : Complete t root) :
    ¬ ∃ r, Hub r ∧ Together t (.message root) (.run r) := by
  rintro ⟨r, hr, htogether⟩
  obtain ⟨m, hm⟩ := hc.found
  obtain ⟨run, hrun, -⟩ := @Together.inCamp _ ht m.campId _ _ htogether ⟨m, hm, rfl⟩
  exact h.unfinished hr hrun (hc.succeeded hrun htogether)

/-- **New rows announce nothing** and leave what is quiet. -/
theorem Adds.passes (hs : Sound s) (ht : WellFormed t) (h : Adds Hub s t) : Passes s t where
  sound := by
    refine ⟨ht, fun {root} hc hr hu => ?_⟩
    have hnot := h.not_together ht hc
    have hback : ∀ {a}, Together t (.message root) a → Together s (.message root) a :=
      fun hab => (h.together hab).resolve_right hnot
    have hforth : ∀ {a}, Together s (.message root) a → Together t (.message root) a := fun hab => hab.mono h.joined
    obtain ⟨m, hm, hasks⟩ := hr.asks
    obtain ⟨r, hstarted⟩ := hc.started
    have hold : ∃ m', s.messages.find? root = some m' := by
      obtain hold | hin | halone := h.newMessage hm
      · exact hold
      · exact absurd hin hnot
      obtain heq | ⟨b, hjoined, -⟩ := hstarted.cases_head
      · cases heq
      · exact absurd hjoined halone
    obtain ⟨m', hm'⟩ := hold
    obtain rfl := Option.mem_unique hm (h.messages hm')
    rw [h.rounds]
    exact hs.announced ⟨⟨⟨m, hm'⟩, fun hr htogether => hc.succeeded (h.runs hr) (hforth htogether),
      fun hd htogether => hc.settled (h.deliveries hd) (hforth htogether)⟩, ⟨r, hback hstarted⟩,
      fun hm htogether => hc.kept (h.messages hm) (hforth htogether)⟩
      ⟨⟨m, hm', hasks⟩, fun hm htogether => hr.least (h.messages hm) (hforth htogether)⟩
      (fun hd htogether => hu (h.deliveries hd) (hforth htogether))
  forward := by
    refine ⟨⟨h.joined, fun hround => h.rounds ▸ hround, h.markers, fun hm => ⟨_, h.messages hm, rfl⟩, fun {root} hq => ?_⟩,
      fun hm hm' => ?_, fun hround => .inl (h.rounds ▸ hround)⟩
    · have hback : ∀ {a}, Together t (.message root) a → Together s (.message root) a := h.quiet_together hq
      obtain ⟨m, hm⟩ := hq.found
      refine ⟨⟨⟨m, h.messages hm⟩, fun hr htogether => ?_, fun hd htogether => ?_⟩, hback⟩
      · obtain ⟨run, hrun, -⟩ := @Together.inCamp _ hs.toWellFormed m.campId _ _ (hback htogether) ⟨m, hm, rfl⟩
        obtain rfl := Option.mem_unique hr (h.runs hrun)
        exact hq.succeeded hrun (hback htogether)
      · obtain hold | hnone := h.newDelivery hd
        · exact hq.settled hold (hback htogether)
        obtain ⟨m', hm'⟩ := message_of_together hs.toWellFormed hm (hback htogether)
        rw [hnone] at hm'
        cases hm'
    · obtain rfl := Option.mem_unique hm' (h.messages hm)
      rfl

end

/-! ## Claiming -/

section
variable {runId campId : String} {failed : Bool}

theorem passes_insertRun (hs : Sound s) (hfresh : s.runs.find? runId = none) :
    Passes s { s with runs := s.runs.insert (RoundStore.newRun runId campId failed) } := by
  have hfresh' : s.runs.find? (RoundStore.newRun runId campId failed).id = none := hfresh
  have hforth : ∀ {k r}, s.runs.find? k = some r →
      (s.runs.insert (RoundStore.newRun runId campId failed)).find? k = some r := fun hr => Table.find?_insert_of_found hr _
  have hgraph : SameGraph s { s with runs := s.runs.insert (RoundStore.newRun runId campId failed) } :=
    sameGraph_of rfl (fun h => ⟨_, h, rfl⟩) fun h => ⟨_, h, rfl⟩
  have hwell : WellFormed { s with runs := s.runs.insert (RoundStore.newRun runId campId failed) } := by
    refine ⟨hs.probe, fun hi => ?_, fun hm hr => ?_, fun hr => ?_, hs.published, hs.delivery, hs.waiting, hs.started, hs.steered,
      hs.settled, hs.recallable, hs.withdrawn⟩
    · obtain ⟨r, m, hr, hm, hcamp⟩ := hs.input hi
      exact ⟨r, m, hforth hr, hm, hcamp⟩
    · obtain ⟨r, hr, hcamp⟩ := hs.source hm hr
      exact ⟨r, hforth hr, hcamp⟩
    · obtain hold | ⟨rfl, -, -⟩ := Table.insert_cases hr
      · exact hs.batch hold
      · rfl
  refine @Adds.passes _ _ (· = runId) hs hwell ⟨rfl, id, hforth, id, id, .inl, (hgraph _ _).2, fun h => .inl ((hgraph _ _).1 h), ?_,
    fun hm => .inl ⟨_, hm⟩⟩
  intro r run hr hrun
  subst hr
  have : run = RoundStore.newRun r campId failed := by
    obtain hold | ⟨rfl, -, -⟩ := Table.insert_cases hrun
    · rw [hfresh] at hold
      cases hold
    · rfl
  subst this
  unfold RoundStore.newRun
  cases failed <;> simp

theorem passes_appendInput (hs : Sound s) {run : AgentRun} (hrun : s.runs.find? runId = some run) (hopen : run.status ≠ .succeeded)
    {k : String} {d : CampMessageDelivery} (hd : s.deliveries.find? k = some d) (hwaiting : d.status ≠ .settled) {m : CampMessage}
    (hm : s.messages.find? d.messageId = some m) (hcamp : run.campId = m.campId) :
    Passes s { s with inputs := s.inputs ++ [⟨runId, d.messageId⟩] } := by
  have hjoined : ∀ {a b}, Joined s a b → Joined { s with inputs := s.inputs ++ [⟨runId, d.messageId⟩] } a b := by
    intro a b h
    cases h with
    | input h => exact .input (mem_append_left _ h)
    | ofInput h => exact .ofInput (mem_append_left _ h)
    | output h hr => exact .output h hr
    | ofOutput h hr => exact .ofOutput h hr
  have hwell : WellFormed { s with inputs := s.inputs ++ [⟨runId, d.messageId⟩] } := by
    refine ⟨hs.probe, fun hi => ?_, hs.source, hs.batch, hs.published, hs.delivery, hs.waiting,
      fun hd' hmode hr => mem_append_left _ (hs.started hd' hmode hr), hs.steered, hs.settled, hs.recallable, hs.withdrawn⟩
    obtain hi | hi := mem_append.1 hi
    · exact hs.input hi
    obtain rfl := mem_singleton.1 hi
    exact ⟨run, m, hrun, hm, hcamp⟩
  have hRun : ∀ {root}, Quiet s root → ¬ Together s (.message root) (.run runId) :=
    fun hq htogether => hopen (hq.succeeded hrun htogether)
  have hMessage : ∀ {root}, Quiet s root → ¬ Together s (.message root) (.message d.messageId) :=
    fun hq htogether => hwaiting (hq.settled hd htogether)
  refine @Adds.passes _ _ (· = runId) hs hwell ⟨rfl, id, id, id, id, .inl, hjoined, fun h => ?_, fun {r} _ hrunId hr => ?_, fun hm => .inl ⟨_, hm⟩⟩
  · cases h with
    | input h =>
      obtain h | h := mem_append.1 h
      · exact .inl (.input h)
      obtain rfl := mem_singleton.1 h
      exact .inr ⟨⟨runId, rfl, .inl rfl⟩, hRun⟩
    | ofInput h =>
      obtain h | h := mem_append.1 h
      · exact .inl (.ofInput h)
      obtain rfl := mem_singleton.1 h
      exact .inr ⟨⟨runId, rfl, .inr rfl⟩, hMessage⟩
    | output h hr => exact .inl (.output h hr)
    | ofOutput h hr => exact .inl (.ofOutput h hr)
  · subst hrunId
    obtain rfl := Option.mem_unique hrun hr
    exact hopen

structure Claimable (s : RoundStore) (campId deliveryId : String) : Prop where
  waits : ∃ d, s.deliveries.find? deliveryId = some d ∧ d.status = .waiting ∧
    ∃ m, s.messages.find? d.messageId = some m ∧ m.campId = campId

theorem claimable_iff {deliveryId : String} : s.claimable campId deliveryId = true ↔ Claimable s campId deliveryId := by
  unfold RoundStore.claimable
  rw [Option.any_eq_true]
  constructor
  · rintro ⟨d, hd, h⟩
    simp only [Bool.and_eq_true, beq_iff_eq, Option.any_eq_true] at h
    exact ⟨d, hd, h.1, h.2⟩
  · rintro ⟨d, hd, hwaiting, m, hm, hcamp⟩
    refine ⟨d, hd, ?_⟩
    simp only [Bool.and_eq_true, beq_iff_eq, Option.any_eq_true]
    exact ⟨hwaiting, m, hm, hcamp⟩

def Unfinished (s : RoundStore) (runId campId : String) : Prop :=
  ∃ run, s.runs.find? runId = some run ∧ run.campId = campId ∧ run.status ≠ .succeeded

theorem claimInput_spec (hs : Sound s) (hrun : Unfinished s runId campId) {deliveryId : String} (hclaim : Claimable s campId deliveryId) :
    Passes s (s.claimInput runId failed deliveryId) ∧ Unfinished (s.claimInput runId failed deliveryId) runId campId ∧
      ∀ {other}, other ≠ deliveryId → Claimable s campId other → Claimable (s.claimInput runId failed deliveryId) campId other := by
  obtain ⟨run, hfound, hcamp, hopen⟩ := hrun
  obtain ⟨d, hd, hwaiting, m, hm, hm'⟩ := hclaim.waits
  have hnotSettled : d.status ≠ .settled := by simp [hwaiting]
  have happend := passes_appendInput hs hfound hopen hd hnotSettled hm (hcamp.trans hm'.symm)
  unfold RoundStore.claimInput
  rw [hd]
  dsimp only
  have hmode := hs.waiting hd hwaiting
  have hnew : Open { s with inputs := s.inputs ++ [⟨runId, d.messageId⟩] } (RoundStore.claimedBy runId failed) d := by
    refine ⟨hnotSettled, by simp [hwaiting], fun _ => hmode, fun _ hr => ?_, fun h => ?_, fun h => ?_⟩
    · cases hr
      exact mem_append_right _ mem_cons_self
    · exact absurd (hmode.symm.trans h) (by decide)
    · cases failed <;> cases h
  have hwritten := passes_one happend.sound hd hnew
  have htables := @updateDelivery_tables { s with inputs := s.inputs ++ [⟨runId, d.messageId⟩] } (RoundStore.claimedBy runId failed) _ _ hd
  refine ⟨happend.trans hwritten, ⟨run, by rw [htables.runs]; exact hfound, hcamp, hopen⟩, fun hne hother => ⟨?_⟩⟩
  rw [htables.messages, htables.deliveries, Table.find?_update_of_ne _ hne]
  exact hother.waits

theorem passes_claimInputs : ∀ (ids : List String) {s : RoundStore}, ids.Nodup → Sound s → Unfinished s runId campId →
    (∀ id ∈ ids, Claimable s campId id) → Passes s (ids.foldl (fun t id => t.claimInput runId failed id) s)
  | [], _, _, hs, _, _ => .refl hs
  | id :: ids, s, hnodup, hs, hrun, h => by
    obtain ⟨hnot, hnodup⟩ := nodup_cons.1 hnodup
    obtain ⟨hpasses, hrun', hkept⟩ := @claimInput_spec _ _ _ failed hs hrun _ (h id mem_cons_self)
    refine hpasses.trans (passes_claimInputs ids hnodup hpasses.sound hrun' fun id' hid' => ?_)
    refine hkept ?_ (h id' (mem_cons_of_mem id hid'))
    rintro rfl
    exact hnot hid'

theorem passes_claimBatch (hs : Sound s) {deliveryIds : List String} (h : s.claimBatch runId campId deliveryIds failed = .ok t) :
    Passes s t := by
  unfold RoundStore.claimBatch at h
  split at h
  · cases h
  rename_i hfresh
  have hfresh : s.runs.find? runId = none := by simpa using hfresh
  split at h
  · rename_i hclaim
    cases h
    have hinsert := @passes_insertRun s runId campId failed hs hfresh
    have hfound : (s.runs.insert (RoundStore.newRun runId campId failed)).find? runId = some (RoundStore.newRun runId campId failed) :=
      (Table.find?_insert (show s.runs.find? (RoundStore.newRun runId campId failed).id = none from hfresh) _).trans (if_pos rfl)
    have hunfinished : Unfinished { s with runs := s.runs.insert (RoundStore.newRun runId campId failed) } runId campId := by
      refine ⟨_, hfound, rfl, ?_⟩
      unfold RoundStore.newRun
      cases failed <;> simp
    refine hinsert.trans ?_
    have hclaims := @passes_claimInputs runId campId failed deliveryIds _ hclaim.1 hinsert.sound hunfinished fun id hid =>
      ⟨(claimable_iff.1 (all_eq_true.1 hclaim.2 id hid)).waits⟩
    exact hclaims.trans (passes_closeRecalls hclaims.sound _)
  · cases h

end

/-! ## Publishing -/

theorem passes_insertProbe (hs : Sound s) (runId : String) : Passes s (s.insertProbe runId) := by
  rw [insertProbe_eq hs.probe]
  exact passes_announce hs.toWellFormed (.refl s) fun hc hr hu => .inl (hs.announced hc hr hu)

section
variable {message : CampMessage} {deliveryIds : List String}

variable {messageId : String}

theorem find?_newDeliveries : ∀ (ids : List String) {ds : Table CampMessageDelivery.id} {k : String}
    {d : CampMessageDelivery}, (ids.foldl (fun t id => t.insert (RoundStore.newDelivery messageId id)) ds).find? k = some d →
      ds.find? k = some d ∨ d = RoundStore.newDelivery messageId k
  | [], _, _, _, h => .inl h
  | id :: ids, ds, k, d, h => by
    obtain h | h := find?_newDeliveries ids h
    · obtain h | ⟨rfl, rfl, -⟩ := Table.insert_cases h
      · exact .inl h
      · exact .inr rfl
    · exact .inr h

theorem find?_newDeliveries_of : ∀ (ids : List String) {ds : Table CampMessageDelivery.id} {k : String}
    {d : CampMessageDelivery}, ds.find? k = some d →
      (ids.foldl (fun t id => t.insert (RoundStore.newDelivery messageId id)) ds).find? k = some d
  | [], _, _, _, h => h
  | _ :: ids, _, _, _, h => find?_newDeliveries_of ids (Table.find?_insert_of_found h _)

theorem newDeliveries_found : ∀ (ids : List String) {ds : Table CampMessageDelivery.id} {id : String}, id ∈ ids →
    (ids.foldl (fun t id => t.insert (RoundStore.newDelivery messageId id)) ds).find? id ≠ none
  | id :: ids, ds, id', hid => by
    by_cases hmem : id' ∈ ids
    · exact newDeliveries_found ids hmem
    obtain rfl := (mem_cons.1 hid).resolve_right hmem
    have hfound : ∃ d, (ds.insert (RoundStore.newDelivery messageId id')).find? id' = some d := by
      cases htaken : ds.find? id' with
      | some d => exact ⟨d, Table.find?_insert_of_found htaken _⟩
      | none => exact ⟨_, (Table.find?_insert (show ds.find? (RoundStore.newDelivery messageId id').id = none from htaken) _).trans
          (if_pos rfl)⟩
    obtain ⟨d, hd⟩ := hfound
    rw [foldl_cons, find?_newDeliveries_of ids hd]
    simp

def withMessage (s : RoundStore) (message : CampMessage) (deliveryIds : List String) : RoundStore :=
  { s with
    messages := s.messages.insert message
    deliveries := deliveryIds.foldl (fun t id => t.insert (RoundStore.newDelivery message.id id)) s.deliveries
    published := message.id :: s.published }

structure Fits (s : RoundStore) (message : CampMessage) (deliveryIds : List String) : Prop where
  fresh : s.messages.find? message.id = none
  freshDelivery : ∀ id ∈ deliveryIds, s.deliveries.find? id = none
  source : ∀ {r}, message.sourceAgentRunId = some r → ∃ run, s.runs.find? r = some run ∧ run.campId = message.campId ∧ run.status ≠ .succeeded
  recallable : message.recallState = .recallable → deliveryIds ≠ []
  notWithdrawn : message.recallState ≠ .withdrawn

theorem passes_withMessage (hs : Sound s) (h : Fits s message deliveryIds) : Passes s (withMessage s message deliveryIds) := by
  have hmessage : ∀ {k m}, (withMessage s message deliveryIds).messages.find? k = some m →
      s.messages.find? k = some m ∨ m = message ∧ k = message.id := by
    intro k m hm
    obtain hold | ⟨rfl, rfl, -⟩ := Table.insert_cases hm
    · exact .inl hold
    · exact .inr ⟨rfl, rfl⟩
  have hmessages : ∀ {k m}, s.messages.find? k = some m → (withMessage s message deliveryIds).messages.find? k = some m :=
    fun hm => Table.find?_insert_of_found hm message
  have hnew : (withMessage s message deliveryIds).messages.find? message.id = some message :=
    (Table.find?_insert h.fresh _).trans (if_pos rfl)
  have hdelivery : ∀ {k d}, (withMessage s message deliveryIds).deliveries.find? k = some d →
      s.deliveries.find? k = some d ∨ d = RoundStore.newDelivery message.id k := fun hd => find?_newDeliveries deliveryIds hd
  have hdeliveries : ∀ {k d}, s.deliveries.find? k = some d → (withMessage s message deliveryIds).deliveries.find? k = some d :=
    fun hd => find?_newDeliveries_of deliveryIds hd
  have hjoined : ∀ {a b}, Joined s a b → Joined (withMessage s message deliveryIds) a b := by
    intro a b hab
    cases hab with
    | input hi => exact .input hi
    | ofInput hi => exact .ofInput hi
    | output hm hr => exact .output (hmessages hm) hr
    | ofOutput hm hr => exact .ofOutput (hmessages hm) hr
  have hunfinished : ∀ {r run}, message.sourceAgentRunId = some r → s.runs.find? r = some run → run.status ≠ .succeeded := by
    intro r run hr hrun
    obtain ⟨run', hrun', -, hopen⟩ := h.source hr
    obtain rfl := Option.mem_unique hrun hrun'
    exact hopen
  have hnewDelivery : deliveryIds ≠ [] → ∃ k d, (withMessage s message deliveryIds).deliveries.find? k = some d ∧
      d.messageId = message.id := by
    intro hne
    obtain ⟨id, hid⟩ := exists_mem_of_ne_nil _ hne
    cases hfound : (withMessage s message deliveryIds).deliveries.find? id with
    | none => exact absurd hfound (newDeliveries_found deliveryIds hid)
    | some d =>
      obtain hold | rfl := hdelivery hfound
      · rw [h.freshDelivery id hid] at hold
        cases hold
      · exact ⟨id, _, hfound, rfl⟩
  have hwell : WellFormed (withMessage s message deliveryIds) := by
    refine ⟨hs.probe, fun hi => ?_, fun hm hr => ?_, hs.batch, fun {k m} hm => ?_, fun hd => ?_, fun hd hwaiting => ?_,
      fun hd hmode hr => ?_, fun hd hmode => ?_, fun hd hsettled => ?_, fun hm hrecall => ?_, fun hm hrecall => ?_⟩
    · obtain ⟨r, m, hr, hm, hcamp⟩ := hs.input hi
      exact ⟨r, m, hr, hmessages hm, hcamp⟩
    · obtain hold | ⟨rfl, rfl⟩ := hmessage hm
      · exact hs.source hold hr
      obtain ⟨run, hrun, hcamp, -⟩ := h.source hr
      exact ⟨run, hrun, hcamp⟩
    · obtain hold | ⟨-, rfl⟩ := hmessage hm
      · exact mem_cons_of_mem _ (hs.published hold)
      · exact mem_cons_self
    · obtain hold | rfl := hdelivery hd
      · obtain ⟨m, hm⟩ := hs.delivery hold
        exact ⟨m, hmessages hm⟩
      · exact ⟨message, hnew⟩
    · obtain hold | rfl := hdelivery hd
      · exact hs.waiting hold hwaiting
      · rfl
    · obtain hold | rfl := hdelivery hd
      · exact hs.started hold hmode hr
      · cases hr
    · obtain hold | rfl := hdelivery hd
      · exact hs.steered hold hmode
      · cases hmode
    · obtain hold | rfl := hdelivery hd
      · exact hs.settled hold hsettled
      · cases hsettled
    · obtain hold | ⟨rfl, rfl⟩ := hmessage hm
      · obtain ⟨k', d, hd, hmessageId⟩ := hs.recallable hold hrecall
        exact ⟨k', d, hdeliveries hd, hmessageId⟩
      · exact hnewDelivery (h.recallable hrecall)
    · obtain hold | ⟨rfl, rfl⟩ := hmessage hm
      · obtain ⟨k', d, hd, hmessageId, hcancelled⟩ := hs.withdrawn hold hrecall
        exact ⟨k', d, hdeliveries hd, hmessageId, hcancelled⟩
      · exact absurd hrecall h.notWithdrawn
  refine @Adds.passes _ _ (fun r => message.sourceAgentRunId = some r) hs hwell ⟨rfl, id, id, hmessages, hdeliveries, fun hd => ?_,
    hjoined, fun hab => ?_, fun hr hrun => hunfinished hr hrun, fun {k m} hm => ?_⟩
  · obtain hold | rfl := hdelivery hd
    · exact .inl hold
    · exact .inr h.fresh
  · cases hab with
    | input hi => exact .inl (.input hi)
    | ofInput hi => exact .inl (.ofInput hi)
    | output hm hr =>
      obtain hold | ⟨rfl, rfl⟩ := hmessage hm
      · exact .inl (.output hold hr)
      obtain ⟨run, hrun, -, hopen⟩ := h.source hr
      exact .inr ⟨⟨_, hr, .inl rfl⟩, fun hq htogether => hopen (hq.succeeded hrun htogether)⟩
    | ofOutput hm hr =>
      obtain hold | ⟨rfl, rfl⟩ := hmessage hm
      · exact .inl (.ofOutput hold hr)
      refine .inr ⟨⟨_, hr, .inr rfl⟩, fun hq htogether => ?_⟩
      obtain ⟨m', hm'⟩ := hq.found
      obtain ⟨m'', hm''⟩ := message_of_together hs.toWellFormed hm' htogether
      rw [h.fresh] at hm''
      cases hm''
  · obtain hold | ⟨rfl, rfl⟩ := hmessage hm
    · exact .inl ⟨m, hold⟩
    cases hsource : m.sourceAgentRunId with
    | some r => exact .inr (.inl ⟨r, rfl, .single (.ofOutput hm hsource)⟩)
    | none =>
      refine .inr (.inr fun {b} hab => ?_)
      -- No input names the message and it has no source.
      generalize ha : Node.message m.id = a at hab
      cases hab with
      | input hi => cases ha
      | output => cases ha
      | ofInput hi =>
        obtain ⟨-, m', -, hm', -⟩ := hs.input hi
        rw [← Node.message.inj ha, h.fresh] at hm'
        cases hm'
      | ofOutput hm' hr =>
        rw [← Node.message.inj ha] at hm'
        obtain rfl := Option.mem_unique hm hm'
        rw [hsource] at hr
        cases hr

end

end Rovai.Rounds
