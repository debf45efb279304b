import RovaiCore.RoundTransactions
/-!
# Every transaction passes

One lemma for each transaction of the system, and from them what a step does: it keeps what is complete and announced, and only a
tombstone can take something of a component back.
-/
namespace Rovai.Rounds

open Tables (Table)
open List
open RoundStore (DeliveryWrite SettlementStatement Settlement SteerReceipts)

variable {s t : RoundStore}

/-! ## Publishing -/

variable {deliveryIds : List String}

theorem logPublication_passes (hs : Sound s) {message : CampMessage} (h : Fits s message deliveryIds) :
    Passes s ({ s with
      messages := s.messages.insert message
      deliveries := deliveryIds.foldl (fun t id => t.insert (RoundStore.newDelivery message.id id)) s.deliveries }.logPublication
        message) := by
  have hmessage := passes_withMessage hs h
  unfold RoundStore.logPublication
  dsimp only
  split
  · exact hmessage.trans (passes_insertProbe hmessage.sound _)
  · exact hmessage

theorem passes_publish (hs : Sound s) {message : CampMessage}
    (hsource : ∀ {r}, message.sourceAgentRunId = some r → ∃ run, s.runs.find? r = some run ∧ run.campId = message.campId ∧
      run.status ≠ .succeeded) (hrecallable : message.recallState = .recallable → deliveryIds ≠ [])
    (hwithdrawn : message.recallState ≠ .withdrawn) (h : s.publish message deliveryIds = .ok t) : Passes s t := by
  unfold RoundStore.publish at h
  split at h
  · cases h
  rename_i hfresh
  split at h
  · cases h
  rename_i hfreshDelivery
  cases h
  refine logPublication_passes hs ⟨by simpa using hfresh, fun id hid => ?_, hsource, hrecallable, hwithdrawn⟩
  cases hd : s.deliveries.find? id with
  | none => rfl
  | some d => exact absurd (any_eq_true.2 ⟨id, hid, by simp [hd]⟩) hfreshDelivery

theorem passes_publishFromRun (hs : Sound s) {messageId agentRunId : String}
    (h : s.publishFromRun messageId agentRunId deliveryIds = .ok t) : Passes s t := by
  unfold RoundStore.publishFromRun at h
  split at h
  · cases h
  rename_i run hrun
  split at h
  · cases h
  rename_i hrunning
  have hrunning : run.status = .running := by simpa using hrunning
  refine passes_publish hs (fun {r} hr => ?_) (fun hrecall => by cases hrecall) (by intro hrecall; cases hrecall) h
  cases hr
  exact ⟨run, hrun, rfl, by simp [hrunning]⟩

/-! ## Steering -/

theorem passes_marker (hs : Sound s) (marker : String × String) : Passes s { s with inputMarkers := marker :: s.inputMarkers } := by
  have hgraph : SameGraph s { s with inputMarkers := marker :: s.inputMarkers } :=
    sameGraph_of rfl (fun h => ⟨_, h, rfl⟩) fun h => ⟨_, h, rfl⟩
  have hwell : WellFormed { s with inputMarkers := marker :: s.inputMarkers } := by
    refine ⟨hs.probe, hs.input, hs.source, hs.batch, hs.published, hs.delivery, hs.waiting, hs.started, fun hd hmode => ?_,
      hs.settled, hs.recallable, hs.withdrawn⟩
    obtain ⟨r, hr, hmem⟩ := hs.steered hd hmode
    exact ⟨r, hr, mem_cons_of_mem _ hmem⟩
  exact @Adds.passes _ _ (fun _ => False) hs hwell ⟨rfl, mem_cons_of_mem _, id, id, id, .inl, (hgraph _ _).2,
    fun h => .inl ((hgraph _ _).1 h), fun h => h.elim, fun hm => .inl ⟨_, hm⟩⟩

variable {w : DeliveryWrite}

theorem updateDelivery_marked {deliveryId : String} {d : CampMessageDelivery}
    (hd : s.deliveries.find? deliveryId = some d) (h : (w.write d).status ≠ .settled) (markers : List (String × String)) :
    { s.updateDelivery w deliveryId with inputMarkers := markers } = { s with inputMarkers := markers }.updateDelivery w deliveryId := by
  unfold RoundStore.updateDelivery
  rw [hd]
  dsimp only
  split
  · rw [if_neg (fun hsettled => h hsettled.1), if_neg (fun hsettled => h hsettled.1)]
  · rfl

theorem passes_routeTo (hs : Sound s) (message : CampMessage) (target : String × String) : Passes s (s.routeTo message target) := by
  unfold RoundStore.routeTo
  split
  · rename_i hroute
    obtain ⟨hwaits, -⟩ := Bool.and_eq_true_iff.1 hroute
    obtain ⟨d, hd, hwaits⟩ := (Option.any_eq_true _ _).1 hwaits
    simp only [Bool.and_eq_true, beq_iff_eq] at hwaits
    obtain ⟨hmessage, hwaiting⟩ := hwaits
    have hmarked := passes_marker hs (target.2, message.id)
    have hnew : Open { s with inputMarkers := (target.2, message.id) :: s.inputMarkers } (RoundStore.steered target.2) d := by
      refine ⟨by simp [hwaiting], by simp [hwaiting], by simp [RoundStore.steered], by simp [RoundStore.steered], fun _ => ?_, by
        simp [RoundStore.steered]⟩
      exact ⟨target.2, rfl, hmessage ▸ mem_cons_self⟩
    have hsteered := passes_one hmarked.sound hd hnew
    have hclosed := passes_closeRecalls hsteered.sound (fun m => decide (m.id = message.id))
    have htables := updateDelivery_tables (w := RoundStore.steered target.2) hd
    have hsame := updateDelivery_marked (w := RoundStore.steered target.2) hd (by intro h; cases h)
      ((target.2, message.id) :: s.inputMarkers)
    refine hmarked.trans (hsteered.trans ?_)
    dsimp only
    rw [htables.markers]
    rw [← hsame] at hclosed ⊢
    exact hclosed
  · exact .refl hs

theorem passes_publishAsked (hs : Sound s) {authorType : AuthorType} {id campId : String}
    {targets : List (String × String)} (h : s.publishAsked authorType id campId deliveryIds targets = .ok t) : Passes s t := by
  unfold RoundStore.publishAsked at h
  dsimp only at h
  split at h
  · cases h
  rename_i published hpublished
  cases h
  have hpublish : Passes s published := by
    refine passes_publish hs (fun hr => by cases hr) (fun hrecall => ?_) (fun hrecall => ?_) hpublished
    · unfold RoundStore.askedMessage at hrecall
      dsimp only at hrecall
      split at hrecall
      · rename_i huser
        exact huser.2
      · cases hrecall
    · unfold RoundStore.askedMessage at hrecall
      dsimp only at hrecall
      split at hrecall <;> cases hrecall
  split
  · exact hpublish.trans (passes_foldl (fun target hs => passes_routeTo hs _ target) targets hpublish.sound)
  · exact hpublish

/-! ## Settling -/

theorem steeredInto_claimed {runId : String} {d : CampMessageDelivery} (h : RoundStore.steeredInto runId d = true) : d.status = .claimed := by
  unfold RoundStore.steeredInto at h
  simp only [Bool.and_eq_true, beq_iff_eq] at h
  exact h.2

theorem passes_settleExecution (hs : Sound s) (runId : String) (settlement : Settlement) (receipts : SteerReceipts) :
    Passes s (s.settleExecution runId settlement receipts) := by
  have hreturned : Passes s (if settlement = .succeeded then
      s.updateDeliveries (fun d => RoundStore.steeredInto runId d && receipts.notAccepted.contains d.id) RoundStore.backToQueue
    else s) := by
    split
    · refine passes_updateDeliveries hs fun _ h => open_backToQueue (.inl ?_)
      exact steeredInto_claimed (Bool.and_eq_true_iff.1 h).1
    · exact .refl hs
  unfold RoundStore.settleExecution
  refine hreturned.trans (passes_updateDeliveries hreturned.sound fun hd h => ?_)
  exact open_endedAs hreturned.sound hd (.inr (.inl (steeredInto_claimed (Bool.and_eq_true_iff.1 h).1))) (by decide)
    nofun

theorem deliveryStatus_ne_waiting (settlement : Settlement) : settlement.deliveryStatus ≠ .waiting := by
  cases settlement <;> decide

theorem passes_settleRunDeliveries (hs : Sound s) (runId : String) (settlement : Settlement) (failureCode : Option String)
    (receipts : SteerReceipts) : Passes s (s.settleRunDeliveries runId settlement failureCode receipts) := by
  have hexecution := passes_settleExecution hs runId settlement receipts
  unfold RoundStore.settleRunDeliveries
  refine hexecution.trans (passes_updateDeliveries hexecution.sound fun hd h => ?_)
  simp only [Bool.and_eq_true, beq_iff_eq] at h
  exact open_endedAs hexecution.sound hd (.inr (.inl h.2)) (deliveryStatus_ne_waiting settlement) fun _ => ⟨runId, h.1⟩

theorem passes_settleRun (hs : Sound s) (runId : String) (settlement : Settlement) : Passes s (s.settleRun runId settlement) := by
  unfold RoundStore.settleRun
  split
  · rename_i hopen
    obtain ⟨run, hrun, hopen⟩ := (Option.any_eq_true _ _).1 hopen
    exact passes_updateRunStatus hs hrun (by simpa using hopen) _
  · exact .refl hs

theorem passes_settleStatement (hs : Sound s) (runId : String) (statement : SettlementStatement) :
    Passes s (s.settleStatement runId statement) := by
  cases statement with
  | run settlement => exact passes_settleRun hs runId settlement
  | deliveries settlement failureCode receipts => exact passes_settleRunDeliveries hs runId settlement failureCode receipts

theorem passes_settle (hs : Sound s) {runId : String} {finalMessageId : Option String} {statements : List SettlementStatement}
    (h : s.settle runId finalMessageId statements = .ok t) : Passes s t := by
  unfold RoundStore.settle at h
  split at h
  · cases h
    exact passes_foldl (fun statement hs => passes_settleStatement hs runId statement) statements hs
  split at h
  · cases h
  rename_i published hpublished
  cases h
  have hpublish := passes_publishFromRun hs hpublished
  exact hpublish.trans (passes_foldl (fun statement hs => passes_settleStatement hs runId statement) statements hpublish.sound)

theorem passes_moveRun (hs : Sound s) (runId : String) (status : RunStatus) : Passes s (s.moveRun runId status) := by
  unfold RoundStore.moveRun
  split
  · rename_i hopen
    obtain ⟨run, hrun, hopen⟩ := (Option.any_eq_true _ _).1 (Bool.and_eq_true_iff.1 hopen).1
    exact passes_updateRunStatus hs hrun (by simpa using hopen) _
  · exact .refl hs

/-! ## Single deliveries -/

theorem passes_acceptInput (hs : Sound s) (deliveryId : String) : Passes s (s.acceptInput deliveryId) := by
  unfold RoundStore.acceptInput
  split
  · rename_i haccept
    obtain ⟨d, hd, haccept⟩ := (Option.any_eq_true _ _).1 haccept
    simp only [Bool.and_eq_true, Bool.or_eq_true, beq_iff_eq] at haccept
    obtain ⟨r, hr, -⟩ := hs.steered hd haccept.1
    exact passes_one hs hd (open_endedAs hs hd (.inr haccept.2) (by decide) fun _ => ⟨r, hr⟩)
  · exact .refl hs

theorem passes_returnToQueue (hs : Sound s) (deliveryId : String) : Passes s (s.returnToQueue deliveryId) := by
  unfold RoundStore.returnToQueue
  split
  · rename_i hreturn
    obtain ⟨d, hd, hreturn⟩ := (Option.any_eq_true _ _).1 hreturn
    simp only [Bool.and_eq_true, Bool.or_eq_true, beq_iff_eq] at hreturn
    exact passes_one hs hd (open_backToQueue (hreturn.1.2.imp_right And.left))
  · exact .refl hs

theorem passes_failPreparation (hs : Sound s) (deliveryId : String) : Passes s (s.failPreparation deliveryId) := by
  unfold RoundStore.failPreparation
  split
  · rename_i hfail
    obtain ⟨d, hd, hclaimed⟩ := (Option.any_eq_true _ _).1 hfail
    exact passes_one hs hd (open_endedAs hs hd (.inr (.inl (by simpa using hclaimed))) (by decide) (by simp))
  · exact .refl hs

theorem passes_cancelDelivery (hs : Sound s) (deliveryId failureCode : String) : Passes s (s.cancelDelivery deliveryId failureCode) := by
  unfold RoundStore.cancelDelivery
  split
  · rename_i hcancel
    obtain ⟨d, hd, hwaiting⟩ := (Option.any_eq_true _ _).1 hcancel
    exact passes_one hs hd (open_endedAs hs hd (.inl (by simpa using hwaiting)) (by decide) (by simp))
  · exact .refl hs

/-! ## Taking a message back -/

theorem updateDelivery_of_ne {k deliveryId : String} (h : k ≠ deliveryId) :
    (s.updateDelivery w deliveryId).deliveries.find? k = s.deliveries.find? k := by
  cases hd : s.deliveries.find? deliveryId with
  | none =>
    unfold RoundStore.updateDelivery
    rw [hd]
  | some d =>
    rw [(updateDelivery_tables (w := w) hd).deliveries]
    exact Table.find?_update_of_ne s.deliveries h w.write w.id

theorem rows_written {k : String} {d : CampMessageDelivery} : ∀ (ids : List String) {s : RoundStore}, ids.Nodup →
    s.deliveries.find? k = some d →
    (ids.foldl (fun t id => t.updateDelivery w id) s).deliveries.find? k = some (if k ∈ ids then w.write d else d)
  | [], _, _, hd => hd
  | id :: ids, s, hnodup, hd => by
    obtain ⟨hnot, hrest⟩ := nodup_cons.1 hnodup
    rw [foldl_cons]
    by_cases hk : k = id
    · subst hk
      have hnew : (s.updateDelivery w k).deliveries.find? k = some (w.write d) := by
        rw [(updateDelivery_tables (w := w) hd).deliveries]
        exact Table.find?_update_self hd w.write w.id
      rw [rows_written ids hrest hnew, if_neg hnot, if_pos mem_cons_self]
    · rw [rows_written ids hrest ((updateDelivery_of_ne hk).trans hd)]
      simp [hk]

theorem updateDeliveries_written {p : CampMessageDelivery → Bool} {k : String} {d : CampMessageDelivery}
    (hd : s.deliveries.find? k = some d) (hp : p d = true) : (s.updateDeliveries p w).deliveries.find? k = some (w.write d) := by
  have hmem : k ∈ (s.deliveries.rows.filter p).map (·.id) :=
    mem_map.2 ⟨d, mem_filter.2 ⟨Table.mem_of_find? hd, hp⟩, Table.key_of_find? hd⟩
  unfold RoundStore.updateDeliveries
  rw [rows_written _ (s.deliveries.nodup.sublist (filter_sublist.map _)) hd, if_pos hmem]

theorem passes_withdraw (hs : Sound s) (messageId : String) : Passes s (s.withdraw messageId) := by
  unfold RoundStore.withdraw
  split
  · rename_i hwithdraw
    obtain ⟨m, hm, hwithdraw⟩ := (Option.any_eq_true _ _).1 hwithdraw
    unfold RoundStore.withdrawable at hwithdraw
    simp only [Bool.and_eq_true, beq_iff_eq, Bool.not_eq_true', any_eq_false, bne_iff_ne, Table.any] at hwithdraw
    obtain ⟨⟨⟨⟨-, hrecall⟩, -⟩, hwaiting⟩, -⟩ := hwithdraw
    dsimp only
    have hcancelled : Passes s (s.updateDeliveries (fun d => d.messageId == messageId && d.status == .waiting)
        (RoundStore.endedAs .cancelled (some "message_withdrawn"))) := by
      refine passes_updateDeliveries hs fun hd h => open_endedAs hs hd (.inl ?_) (by decide) (by simp)
      simp only [Bool.and_eq_true, beq_iff_eq] at h
      exact h.2
    -- The message has a delivery, and no Agent has seen it.
    obtain ⟨k', d, hd, hmessage⟩ := hs.recallable hm hrecall
    have hwaits : d.status = .waiting := by
      have hno := hwaiting d (Table.mem_of_find? hd)
      rw [Table.key_of_find? hm] at hno
      by_contra hne
      exact hno ⟨hmessage, hne⟩
    have hwritten := updateDeliveries_written (w := RoundStore.endedAs .cancelled (some "message_withdrawn")) hd
      (p := fun d => d.messageId == messageId && d.status == .waiting) (by simp [hmessage, hwaits])
    refine hcancelled.trans ?_
    generalize s.updateDeliveries (fun d => d.messageId == messageId && d.status == .waiting)
      (RoundStore.endedAs .cancelled (some "message_withdrawn")) = t at hcancelled hwritten ⊢
    refine passes_flags (c := fun k _ => decide (k = messageId)) (f := fun m => { m with recallState := .withdrawn }) hcancelled.sound
      find?_flagged (fun m => ⟨rfl, rfl, rfl, rfl, by simp⟩) fun {k m} _ hk _ => ?_
    exact ⟨k', _, hwritten, hmessage.trans (of_decide_eq_true hk).symm, rfl⟩
  · exact .refl hs

theorem sound_tombstone (hs : Sound s) (messageId : String) : Sound (s.tombstone messageId) ∧ Grown s (s.tombstone messageId) := by
  refine passes_messages (c := fun k _ => decide (k = messageId)) (f := fun m => { m with tombstoned := true }) hs find?_flagged
    (fun m => ⟨rfl, rfl, rfl, nofun, id⟩) fun hm _ h => hs.withdrawn hm h

/-! ## Steps -/

structure Steps (s t : RoundStore) : Prop where
  sound : Sound t
  grown : Grown s t
  fresh : ∀ {id round}, t.rounds.find? id = some round → s.rounds.find? id = some round ∨ Complete t id ∧ Root t id

theorem Passes.steps (h : Passes s t) : Steps s t :=
  ⟨h.sound, h.forward.toGrown, h.forward.fresh⟩

theorem steps_perform (hs : Sound s) (a : Action) (h : s.perform a = .ok t) : Steps s t := by
  cases a with
  | publishUser => exact (passes_publishAsked hs h).steps
  | publishExternal => exact (passes_publishAsked hs h).steps
  | publishFromRun => exact (passes_publishFromRun hs h).steps
  | claimBatch => exact (passes_claimBatch hs h).steps
  | moveRun runId status =>
    cases h
    exact (passes_moveRun hs runId status).steps
  | settle => exact (passes_settle hs h).steps
  | acceptInput deliveryId =>
    cases h
    exact (passes_acceptInput hs deliveryId).steps
  | returnToQueue deliveryId =>
    cases h
    exact (passes_returnToQueue hs deliveryId).steps
  | failPreparation deliveryId =>
    cases h
    exact (passes_failPreparation hs deliveryId).steps
  | cancelDelivery deliveryId failureCode =>
    cases h
    exact (passes_cancelDelivery hs deliveryId failureCode).steps
  | withdraw messageId =>
    cases h
    exact (passes_withdraw hs messageId).steps
  | tombstone messageId =>
    cases h
    obtain ⟨hsound, hgrown⟩ := sound_tombstone hs messageId
    exact ⟨hsound, hgrown, .inl⟩

/-- **A transaction leaves the store sound**, whether it fails or not. -/
theorem steps_step (hs : Sound s) (a : Action) : Steps s (s.step a) := by
  unfold RoundStore.step
  cases h : s.perform a with
  | ok t => exact steps_perform hs a h
  | error e => exact (Passes.refl hs).steps

end Rovai.Rounds
