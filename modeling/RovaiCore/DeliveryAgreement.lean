import RovaiCore.RunDeliveries
/-!
# Runs and their Deliveries agree

Every write leaves the Deliveries that have started a Run, ends that Run with them, or launches one.
-/
namespace Rovai.AgentRuns

open Tables (Table)
open Store

/-! ## Moves -/

inductive DeliveryMove (s s' : Store) (runId : String) : Prop
  | kept (hruns : BatchRunsKept s s') (hdeliveries : DeliveriesKept s s')
      (hmanifests : ∀ l m, s'.manifests.find? l = some m → s.manifests.find? l = some m ∨
        ∀ k d, m.sourceDeliveryId = some k → s'.deliveries.find? k = some d → d.requestedMode = .steer)
  | ended (run ended : AgentRun) (status : DeliveryStatus) (code : Option String) (h : EndsWith s s' run ended status code)
      (houtcome : runId = run.id → deliveryStatus ended.status = some status ∧ code = ended.terminalReason)
  | launched (claim : LaneClaim) (conversationId : String) (selected : List String)
      (hfresh : s.runs.find? claim.runId = none) (hs' : s' = s.insertBatchRun claim conversationId selected)

variable {s s' : Store} {runId : String}

theorem DeliveryMove.of_kept (hruns : BatchRunsKept s s') (hdeliveries : DeliveriesKept s s')
    (hmanifests : s'.manifests = s.manifests) : DeliveryMove s s' runId :=
  .kept hruns hdeliveries fun l m hm => .inl (by rw [← hmanifests, hm])

theorem DeliveryMove.of_eq (hruns : s'.runs = s.runs)
    (hdeliveries : s'.deliveries = s.deliveries) (hmanifests : s'.manifests = s.manifests) : DeliveryMove s s' runId :=
  .of_kept (.of_eq hruns) (.of_eq hdeliveries) hmanifests

theorem DeliveryMove.placed (h : DeliveryMove s s' runId) (hregistered : Registered s)
    (hplaced : Placed s) : Placed s' := by
  cases h with
  | kept hruns hdeliveries hmanifests => exact hplaced.of_kept hruns hdeliveries hmanifests
  | ended run ended status code h => exact h.placed hplaced
  | launched claim conversationId selected hfresh hs' =>
    subst hs'
    exact hplaced.launched hregistered hfresh

theorem DeliveryMove.agrees (h : DeliveryMove s s' runId) (hplaced : Placed s)
    (hagrees : Agrees s runId) : Agrees s' runId := by
  cases h with
  | kept hruns hdeliveries => exact hagrees.of_kept hplaced hruns hdeliveries
  | ended run ended status code h houtcome => exact h.agrees hplaced hagrees houtcome
  | launched claim conversationId selected hfresh hs' =>
    subst hs'
    exact hagrees.launched hplaced hfresh

variable {d : CampMessageDelivery} {run : AgentRun}

variable {k runId : String}

theorem DeliveryMove.fixed {other : String} (h : DeliveryMove s s' other) (hplaced : Placed s)
    (hd : s.deliveries.find? k = some d)
    (hstarts : starts d runId) (hrun : s.runs.find? runId = some run) (hended : terminal run.status = true) :
    s'.deliveries.find? k = some d ∧ s'.runs.find? runId = some run := by
  cases h with
  | kept hruns hdeliveries =>
    obtain ⟨r, hr, hbatch, -⟩ := hplaced.started hd hstarts
    rw [hrun] at hr
    cases hr
    obtain ⟨run', hrun', -, rfl | ⟨hopen, -⟩⟩ := hruns runId run hrun hbatch
    · obtain ⟨d', hd', hkept⟩ := hdeliveries.kept hd
      cases hkept with
      | same => exact ⟨hd', hrun'⟩
      | queued before => exact absurd hstarts (before runId)
    · rw [hopen] at hended
      cases hended
  | ended run' ended status code h => exact h.fixed hd hstarts hrun hended
  | launched claim conversationId selected hfresh hs' =>
    subst hs'
    refine ⟨insertBatchRun_fixed hplaced hd hstarts, ?_⟩
    rw [insertBatchRun_run hfresh, if_neg (hplaced.not_fresh hd hstarts hfresh), hrun]

/-! ## Every move is one -/

variable {s : Store}

theorem Placed.idle (h : Placed s) {k : String} (hd : s.deliveries.find? k = some d)
    (hwaiting : d.status = .waiting) (runId : String) : ¬starts d runId := by
  rintro ⟨-, hclaimed⟩
  rw [h.waiting hd hwaiting] at hclaimed
  cases hclaimed

theorem not_starts_of_steer (h : d.requestedMode = .steer) (runId : String) : ¬starts d runId := by
  rintro ⟨hstart, -⟩
  rw [h] at hstart
  cases hstart

theorem settleAgain_kept (hplaced : Placed s) (code : Option String)
    (hrun : s.runs.find? run.id = some run) (hended : terminal run.status = true) :
    DeliveriesKept s (s.settleBatchDeliveries run run.status code) := by
  obtain ⟨status, hstatus⟩ := deliveryStatus_of_terminal hended
  by_cases hbatch : run.campTurnId = none
  · have hrows := @settleBatchDeliveries_rows s run run.status status code hbatch hstatus
    have hrow : ∀ {k d d'}, s.deliveries.find? k = some d → SettledRow run.id status code d d' → DeliveryKept d d' := by
      intro k d d' hd hrow
      cases hrow with
      | kept => exact .same
      | settled hclaimed hstatus' =>
        have hnot : ∀ runId, ¬starts d runId := by
          rintro runId ⟨hstart, hclaimed'⟩
          obtain rfl : run.id = runId := Option.mem_unique hclaimed hclaimed'
          obtain ⟨r, hr, -, hopen⟩ := hplaced.started hd ⟨hstart, hclaimed⟩
          rw [hrun] at hr
          cases hr
          rw [hopen.1 hstatus'] at hended
          cases hended
        exact .queued hnot hnot fun hwaiting => absurd hwaiting (deliveryStatus_done hstatus).1
      | steered hsteer h =>
        cases h with
        | kept => exact .same
        | unknown hsteer hmode hfailed =>
          exact .queued (not_starts_of_steer hsteer) (not_starts_of_steer hmode) fun hwaiting => by simp [hfailed] at hwaiting
        | returned hsteer hnone =>
          refine .queued (not_starts_of_steer hsteer) (fun runId hstarts => ?_) fun _ => hnone
          rw [hstarts.2] at hnone
          cases hnone
    constructor
    · intro k d hd
      obtain ⟨d', hd', h⟩ := hrows.kept hd
      exact ⟨d', hd', hrow hd h⟩
    · intro k d' hd'
      obtain ⟨d, hd, h⟩ | ⟨-, hnew⟩ := hrows.origin hd'
      · exact .inl ⟨d, hd, hrow hd h⟩
      · exact hnew.elim
  · unfold settleBatchDeliveries
    rw [if_neg hbatch]
    exact .of_eq rfl

theorem Move.deliveryMove (h : Move s s') (hregistered : Registered s) (hplaced : Placed s) (runId : String) :
    DeliveryMove s s' runId := by
  cases h with
  | endRun run f hf closed hrun hclosed h =>
    obtain ⟨status, hstatus⟩ := deliveryStatus_of_terminal h.ended
    exact .ended run (f run) status _ (endsWith_settled hf hrun hclosed h hstatus) fun _ => ⟨hstatus, rfl⟩
  | insertBatchRun claim conversationId selected hfresh =>
    exact .launched claim conversationId selected hfresh rfl
  | endChatRun run f hf hrun hkind =>
    refine .of_kept (fun k r hr hbatch => ⟨r, ?_, hbatch, .inl rfl⟩) (.of_eq rfl) rfl
    dsimp only
    rw [Table.find?_update_of_ne, hr]
    rintro rfl
    rw [hrun] at hr
    cases hr
    rw [hkind] at hbatch
    cases hbatch
  | rewriteRuns p f hf h =>
    refine .of_kept (fun k r hr hbatch => ?_) (.of_eq rfl) rfl
    by_cases hp : p r = true
    · have hcontinues := h k r hr hp
      refine ⟨f r, ?_, hcontinues.invocationKind.trans hbatch, .inr ⟨hcontinues.open_before, hcontinues.open_after⟩⟩
      dsimp only
      rw [Table.find?_updateWhere, hr, Option.map_some, if_pos hp]
    · refine ⟨r, ?_, hbatch, .inl rfl⟩
      dsimp only
      rw [Table.find?_updateWhere, hr, Option.map_some, if_neg hp]
  | queueRun run =>
    refine .of_kept (fun k r hr hbatch => ⟨r, ?_, hbatch, .inl rfl⟩) (.of_eq rfl) rfl
    have hgrows : Table.Grows (· = ·) (fun _ => True) s.runs (s.runs.insert (queuedRun run)) :=
      .insert (fun _ => rfl) s.runs (queuedRun run) trivial
    obtain ⟨r', hr', hsame⟩ := hgrows.kept hr
    rw [hsame]
    exact hr'
  | settleAgain run hrun hended =>
    refine .of_kept (.of_eq ?_) (settleAgain_kept hplaced _ hrun hended) ?_
    · rw [settleBatchDeliveries_eq]
    · rw [settleBatchDeliveries_eq]
  | insertManifest manifest run hrun hactive hfirst hsource =>
    refine .kept (.of_eq rfl) (.of_eq rfl) fun l m hm => ?_
    obtain hm | ⟨rfl, -, -⟩ := Table.insert_cases hm
    · exact .inl hm
    refine .inr fun k d hk hd => ?_
    have hsteers := hsource k hk
    unfold steersInto at hsteers
    have hd' : s.deliveries.find? k = some d := hd
    rw [hd', Option.any_some] at hsteers
    simp only [Bool.and_eq_true, beq_iff_eq] at hsteers
    exact hsteers.1.2
  | insertDelivery =>
    refine .of_kept (.of_eq rfl) (.insert (fun _ => .same) s.deliveries _ ⟨?_, fun _ => rfl⟩) rfl
    rintro runId ⟨-, hclaimed⟩
    cases hclaimed
  | cancelExpired expired =>
    refine .of_kept (.of_eq rfl) (.updateWhere (fun _ => .same) s.deliveries _ _ (by intro _; rfl) fun k d hd hguard => ?_) rfl
    simp only [Bool.and_eq_true, beq_iff_eq] at hguard
    have hidle := hplaced.idle hd hguard.2
    exact .queued hidle hidle nofun
  | steerDelivery target =>
    refine .of_kept (.of_eq rfl) (.updateWhere (fun _ => .same) s.deliveries _ _ (by intro _; rfl) fun k d hd hguard => ?_) rfl
    simp only [Bool.and_eq_true, beq_iff_eq] at hguard
    exact .queued (hplaced.idle hd hguard.2) (not_starts_of_steer rfl) nofun
  | returnToQueue deliveryId =>
    refine .of_kept (.of_eq rfl) (.updateWhere (fun _ => .same) s.deliveries _ _ (by intro _; rfl) fun k d hd hguard => ?_) rfl
    simp only [Bool.and_eq_true, beq_iff_eq] at hguard
    refine .queued (not_starts_of_steer hguard.1.1.1.2) (fun runId hstarts => ?_) fun _ => rfl
    obtain ⟨-, hclaimed⟩ := hstarts
    cases hclaimed
  | settleSource owner deliveryId i m hi hrun hmanifest hm hsource =>
    refine .of_kept (.of_eq rfl) (.updateWhere (fun _ => .same) s.deliveries _ _ (by intro _; rfl) fun k d hd hguard => ?_) rfl
    simp only [Bool.and_eq_true, beq_iff_eq] at hguard
    -- The input of a Delivery is an input of the Run that the Delivery was steered into.
    obtain ⟨m', hm', howner, -⟩ := hregistered.input_manifest hi
    rw [hmanifest, hm] at hm'
    cases hm'
    have hk : k = deliveryId := by rw [← hguard.1.1, Table.key_of_find? hd]
    have hnot : ∀ runId, ¬starts d runId := by
      rintro runId ⟨hstart, hclaimed⟩
      refine hplaced.unsteered hd hm (by rw [hsource, hk]) ⟨hstart, ?_⟩
      rw [howner, hrun, hguard.2]
    exact .queued hnot hnot nofun
  | changeTurn turn =>
    rw [changeTurn_eq]
    exact .of_eq rfl rfl rfl
  | _ => exact .of_eq rfl rfl rfl

theorem Moves.placed (h : Moves s s') (hregistered : Registered s) (hplaced : Placed s) : Placed s' :=
  (h.preserves (P := fun s => Registered s ∧ Placed s)
    (fun hmove ⟨hregistered, hplaced⟩ =>
      ⟨hmove.registered hregistered, (hmove.deliveryMove hregistered hplaced "").placed hregistered hplaced⟩)
    ⟨hregistered, hplaced⟩).2

theorem Moves.agrees (h : Moves s s') (hregistered : Registered s) (hplaced : Placed s)
    (hagrees : Agrees s runId) : Agrees s' runId :=
  (h.preserves (P := fun s => Registered s ∧ Placed s ∧ Agrees s runId)
    (fun hmove ⟨hregistered, hplaced, hagrees⟩ => by
      have hdelivery := hmove.deliveryMove hregistered hplaced runId
      exact ⟨hmove.registered hregistered, hdelivery.placed hregistered hplaced, hdelivery.agrees hplaced hagrees⟩)
    ⟨hregistered, hplaced, hagrees⟩).2.2

theorem Moves.fixed (h : Moves s s') (hregistered : Registered s) (hplaced : Placed s)
    (hd : s.deliveries.find? k = some d) (hstarts : starts d runId)
    (hrun : s.runs.find? runId = some run) (hended : terminal run.status = true) :
    s'.deliveries.find? k = some d ∧ s'.runs.find? runId = some run :=
  (h.preserves
    (P := fun s => Registered s ∧ Placed s ∧ s.deliveries.find? k = some d ∧ s.runs.find? runId = some run)
    (fun hmove ⟨hregistered, hplaced, hd, hrun⟩ => by
      have hdelivery := hmove.deliveryMove hregistered hplaced runId
      exact ⟨hmove.registered hregistered, hdelivery.placed hregistered hplaced,
        hdelivery.fixed hplaced hd hstarts hrun hended⟩)
    ⟨hregistered, hplaced, hd, hrun⟩).2.2

/-! ## Transactions -/

def resolves (runId : String) : Action → Bool
  | .resolveAcceptedInputRecoveryBlocker _ runId' _ _ _ => runId' == runId
  | _ => false

theorem step_deliveries (s : Store) (a : Action) (hregistered : Registered s) (runId : String) :
    (∃ s', DeliveryMove s s' runId ∧ Registered s' ∧ Moves s' (s.step a)) ∨
      resolves runId a = true ∧ ∃ run status code, EndsWith s (s.step a) run (closeUnknownOutcome run) status code := by
  have hregistered' := registered_step s a hregistered
  have hone : DeliveryMove s (s.step a) runId → ∃ s', DeliveryMove s s' runId ∧ Registered s' ∧ Moves s' (s.step a) :=
    fun h => ⟨s.step a, h, hregistered', .refl _⟩
  have heffect := step_effect s a
  generalize s.step a = s' at heffect hregistered' hone ⊢
  cases heffect with
  | moved h => exact .inl ⟨s, .of_eq rfl rfl rfl, hregistered, h⟩
  | requested =>
    rw [requestRedelivery_eq] at hone ⊢
    exact .inl (hone (.of_eq rfl rfl rfl))
  | claimed envelope command facts run workspace hrun hversion hrefusal h =>
    refine .inl (hone (.of_kept (fun k r hr hbatch => ?_) (.of_eq rfl) rfl))
    by_cases hk : k = run.id
    · have hid := Table.find?_key hrun
      rw [hk, hid] at hr
      cases hr
      refine ⟨claimRun workspace run, ?_, hbatch, .inr ⟨open_of_claimableState h.state, rfl⟩⟩
      rw [hk]
      exact Table.find?_update_self hid (claimRun workspace) fun _ => rfl
    · refine ⟨r, ?_, hbatch, .inl rfl⟩
      exact (Table.find?_update_of_ne s.runs hk (claimRun workspace) fun _ => rfl).trans hr
  | resolved envelope owner campId version effects run hrun hstatus =>
    obtain rfl : run.id = owner := Table.key_of_find? hrun
    have hends := @endsWith_settled s s run closeUnknownOutcome (fun _ => rfl) .cancelled .cancelled
      (some "user_requested_agent_run_stop") hrun (.inl rfl) (ends_closeUnknownOutcome (by rw [hstatus]; rfl)) rfl
    by_cases howner : runId = run.id
    · exact .inr ⟨by simp [resolves, howner], run, _, _, hends⟩
    · exact .inl (hone (.ended run _ _ _ hends fun h => absurd h howner))
  | preparedAgain => exact .inl (hone (.of_eq rfl rfl rfl))
  | prepared => exact .inl (hone (.of_eq rfl rfl rfl))
  | begun => exact .inl (hone (.of_eq rfl rfl rfl))
  | acknowledged nativeInputId now resume target s' hack =>
    obtain ⟨acknowledged, hredelivery, hmoves, -⟩ := hack.outcome
    have heq := acknowledged_eq hredelivery
    refine .inl ⟨acknowledged, .of_eq ?_ ?_ ?_, hregistered.acknowledged heq, hmoves⟩
    · rw [heq]
      rfl
    · rw [heq]
      rfl
    · rw [heq]
      rfl

theorem placed_step (s : Store) (a : Action) (hregistered : Registered s) (hplaced : Placed s) : Placed (s.step a) := by
  obtain ⟨s', h, hregistered', hmoves⟩ | ⟨-, run, status, code, h⟩ := step_deliveries s a hregistered ""
  · exact hmoves.placed hregistered' (h.placed hregistered hplaced)
  · exact h.placed hplaced

theorem agrees_step (s : Store) (a : Action) (hregistered : Registered s) (hplaced : Placed s)
    (hagrees : Agrees s runId) (hnot : resolves runId a = true → s.step a = s) : Agrees (s.step a) runId := by
  obtain ⟨s', h, hregistered', hmoves⟩ | ⟨hresolves, -⟩ := step_deliveries s a hregistered runId
  · exact hmoves.agrees hregistered' (h.placed hregistered hplaced) (h.agrees hplaced hagrees)
  rw [hnot hresolves]
  exact hagrees

theorem startedDelivery_step (a : Action) (hregistered : Registered s) (hplaced : Placed s)
    (hd : s.deliveries.find? k = some d) (hstarts : starts d runId)
    (hrun : s.runs.find? runId = some run) (hended : terminal run.status = true) :
    (s.step a).deliveries.find? k = some d ∧ (s.step a).runs.find? runId = some run := by
  obtain ⟨s', h, hregistered', hmoves⟩ | ⟨-, other, status, code, h⟩ := step_deliveries s a hregistered runId
  · obtain ⟨hd', hrun'⟩ := h.fixed hplaced hd hstarts hrun hended
    exact hmoves.fixed hregistered' (h.placed hregistered hplaced) hd' hstarts hrun' hended
  · exact h.fixed hd hstarts hrun hended

/-! ## Runs and Deliveries agree -/

/-- What has started a Run that is there is claimed, and the Run is a batch Run that has not ended; the tables agree, what
waits is claimed by no Run, and an input of a Delivery belongs to a steered one. -/
structure Unsettled (s : Store) : Prop where
  registered : Registered s
  waiting : ∀ {k d}, s.deliveries.find? k = some d → d.status = .waiting → d.claimedAgentRunId = none
  started : ∀ {k d runId}, s.deliveries.find? k = some d → starts d runId → d.status = .claimed ∧
    ∃ run, s.runs.find? runId = some run ∧ run.invocationKind = .batch ∧ terminal run.status = false
  unsteered : ∀ {k d l m}, s.deliveries.find? k = some d → s.manifests.find? l = some m → m.sourceDeliveryId = some k →
    ¬starts d m.agentRunId

theorem Unsettled.placed (h : Unsettled s) : Placed s where
  waiting := h.waiting
  started hd hstarts := by
    obtain ⟨hclaimed, run, hrun, hbatch, hopen⟩ := h.started hd hstarts
    exact ⟨run, hrun, hbatch, by simp [hclaimed, hopen]⟩
  unsteered := h.unsteered

theorem Unsettled.agrees (h : Unsettled s) (runId : String) : Agrees s runId := by
  intro run hrun hended k d hd hstarts
  obtain ⟨-, r, hr, -, hopen⟩ := h.started hd hstarts
  rw [hrun] at hr
  cases hr
  rw [hopen] at hended
  cases hended

/-- **A Run and its Deliveries end alike**: once a Run has ended, each Delivery that started it has the status of the
settlement and the reason of the Run, and neither row changes any more.  Of a Run whose recovery blocker was closed nothing is
said. -/
theorem runDeliveries_agree (w : Store) (hw : Unsettled w) (runId : String) (as : List Action)
    (hnot : Runs.AllSteps step (fun s a => resolves runId a = true → s.step a = s) w as) :
    ∀ run, (w.run as).runs.find? runId = some run → terminal run.status = true →
      ∀ k d, (w.run as).deliveries.find? k = some d → d.requestedMode = .start → d.claimedAgentRunId = some runId →
        deliveryStatus run.status = some d.status ∧ d.failureCode = run.terminalReason ∧
          ∀ bs, ((w.run as).run bs).deliveries.find? k = some d ∧ ((w.run as).run bs).runs.find? runId = some run := by
  obtain ⟨hregistered, hplaced, hagrees⟩ := Runs.run_invariant_of_allSteps
    (P := fun s => Registered s ∧ Placed s ∧ Agrees s runId) step
    (fun s a hok ⟨hregistered, hplaced, hagrees⟩ => ⟨registered_step s a hregistered, placed_step s a hregistered hplaced,
      agrees_step s a hregistered hplaced hagrees hok⟩)
    as w hnot ⟨hw.registered, hw.placed, hw.agrees runId⟩
  intro run hrun hended k d hd hmode hclaimed
  obtain ⟨hstatus, hreason⟩ := hagrees run hrun hended k d hd ⟨hmode, hclaimed⟩
  refine ⟨hstatus, hreason, fun bs => ?_⟩
  exact (Runs.run_invariant
    (P := fun s => Registered s ∧ Placed s ∧ s.deliveries.find? k = some d ∧ s.runs.find? runId = some run) step
    (fun s a ⟨hregistered, hplaced, hd, hrun⟩ => ⟨registered_step s a hregistered, placed_step s a hregistered hplaced,
      startedDelivery_step a hregistered hplaced hd ⟨hmode, hclaimed⟩ hrun hended⟩)
    bs _ ⟨hregistered, hplaced, hd, hrun⟩).2.2

theorem unsettled_empty : Unsettled Store.empty where
  registered := NoInputs.registered ⟨rfl, rfl⟩
  waiting h := by cases h
  started h := by cases h
  unsteered h := by cases h

/-- The message that started the Run is cancelled with it, for the reason of the Run. -/
theorem runDeliveries_agree_steered : ∃ run d, (Store.empty.run steeredActions).runs.find? "run" = some run ∧
    (Store.empty.run steeredActions).deliveries.find? "first delivery" = some d ∧ d.failureCode = some "stop" ∧
    deliveryStatus run.status = some d.status ∧ d.failureCode = run.terminalReason := by
  have hrun : ((Store.empty.run steeredActions).runs.find? "run").any (fun run => terminal run.status) = true := by
    decide
  have hdelivery : ((Store.empty.run steeredActions).deliveries.find? "first delivery").any
      (fun d => d.requestedMode == .start && d.claimedAgentRunId == some "run" && d.failureCode == some "stop") = true := by
    decide
  obtain ⟨run, hrun, hended⟩ := (Option.any_eq_true _ _).1 hrun
  obtain ⟨d, hd, hstarts⟩ := (Option.any_eq_true _ _).1 hdelivery
  simp only [Bool.and_eq_true, beq_iff_eq] at hstarts
  have hnot : ∀ a ∈ steeredActions, resolves "run" a = false := by
    simp [steeredActions, resolves, claimOf, bindOf, prepareOf]
  have h := runDeliveries_agree Store.empty unsettled_empty "run" steeredActions
    (Runs.allSteps_of_forall step Store.empty fun a ha s hresolves => by
      rw [hnot a ha] at hresolves
      cases hresolves)
    run hrun hended "first delivery" d hd hstarts.1.1 hstarts.1.2
  exact ⟨run, d, hrun, hd, hstarts.2, h.1, h.2.1⟩

/-! ## Runs that end apart from their Deliveries -/

def blockedStore : Store :=
  let accepted := Store.empty.run (steeredActions.take 8)
  { accepted with
    runs := accepted.runs.update "run" (fun run => { run with status := .waiting, waitReason := some .recoveryBlocked }) }

/-- A planned shutdown cancels a Run without a reason to cancel it, and the user closes a recovery blocker. -/
theorem runDeliveries_disagree :
    ((Store.empty.run (steeredActions.take 8 ++
        [.settlePlannedShutdownAbortiveTerminal true "run" 1 .cancelled "runtime.cancelled"])).runs.find? "run").map
          (fun run => (run.status, run.cancelReasonCode)) = some (.cancelled, none) ∧
      ((Store.empty.run (steeredActions.take 8 ++
        [.settlePlannedShutdownAbortiveTerminal true "run" 1 .cancelled "runtime.cancelled"])).deliveries.find?
          "first delivery").map (fun d => (d.requestedMode, d.claimedAgentRunId, d.failureCode)) =
            some (.start, some "run", some "runtime.cancelled") ∧
      ((blockedStore.step (.resolveAcceptedInputRecoveryBlocker ⟨.user, some "camp"⟩ "run" "camp" 2 0)).runs.find? "run").map
        (fun run => (run.invocationKind, run.status, run.lastErrorCode)) =
          some (.batch, .failed, some "accepted_input_outcome_unknown") ∧
      ((blockedStore.step (.resolveAcceptedInputRecoveryBlocker ⟨.user, some "camp"⟩ "run" "camp" 2 0)).deliveries.find?
        "first delivery").map (fun d => (d.requestedMode, d.status, d.failureCode)) =
          some (.start, .cancelled, some "user_requested_agent_run_stop") := by
  refine ⟨?_, ?_, ?_, ?_⟩ <;> decide

end Rovai.AgentRuns
