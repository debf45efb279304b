import RovaiCore.ActionDelivery
/-!
# What a command of the action service has done

A command that succeeded, read backwards: the rows it found, what it asked of them, and the store it left.
-/
namespace Rovai.Actions

open Tables (Table)
open Fallible (bind_eq_ok orError_eq_ok)

variable {s t : Store} {e : Envelope}

/-! ## Statements -/

theorem insertAction_ok {a : ActionExecution} (h : s.insertAction a = .ok t) :
    s.actions.find? a.id = none ∧ t = { s with actions := s.actions.insert a } := by
  unfold Store.insertAction at h
  split at h
  · cases h
  rename_i hfresh
  split at h
  · cases h
  cases h
  exact ⟨by simpa using hfresh, rfl⟩

variable {p : Approval}

theorem insertApproval_ok (h : s.insertApproval p = .ok t) :
    s.approvals.find? p.id = none ∧ t = { s with approvals := s.approvals.insert p } := by
  unfold Store.insertApproval at h
  split at h
  · cases h
  rename_i hfresh
  cases h
  exact ⟨by simpa using hfresh, rfl⟩

theorem insertAttempt_ok {x : ActionAttempt} (h : s.insertAttempt x = .ok t) :
    s.attempts.find? x.id = none ∧ t = { s with attempts := s.attempts.insert x } := by
  unfold Store.insertAttempt at h
  split at h
  · cases h
  rename_i hfresh
  cases h
  rw [not_or] at hfresh
  exact ⟨by simpa using hfresh.1, rfl⟩

theorem createRuntimeDelivery_ok {d : RuntimeDelivery} (h : s.createRuntimeDelivery d = .ok t) :
    (t = s ∧ ∃ k d', s.deliveries.find? k = some d' ∧ d'.actionId = d.actionId ∧ d'.deliveryKind = d.deliveryKind) ∨
      s.deliveries.find? d.id = none ∧ t = { s with deliveries := s.deliveries.insert d } := by
  unfold Store.createRuntimeDelivery at h
  split at h
  · rename_i hsame
    cases h
    obtain ⟨k, d', hd', hsame⟩ := Table.any_iff.1 hsame
    simp only [Bool.and_eq_true, beq_iff_eq] at hsame
    exact .inl ⟨rfl, k, d', hd', hsame.1.1, hsame.1.2⟩
  · split at h
    · cases h
    rename_i hfresh
    cases h
    exact .inr ⟨by simpa using hfresh, rfl⟩

def notExecuted (reason : String) (a : ActionExecution) : ActionExecution :=
  { a with status := .notExecuted, notExecutedReason := some reason, version := a.version + 1 }

variable {actionId : String}

theorem setActionNotExecuted_ok {version : Int} {reason : String}
    (h : s.setActionNotExecuted actionId version reason = .ok t) :
    ∃ a, s.actions.find? actionId = some a ∧ a.status = .prepared ∧
      t = { s with actions := s.actions.update actionId (notExecuted reason) } := by
  unfold Store.setActionNotExecuted at h
  split at h
  · rename_i hprepared
    cases h
    obtain ⟨a, ha, hprepared⟩ := (Option.any_eq_true _ _).1 hprepared
    simp only [Bool.and_eq_true, beq_iff_eq] at hprepared
    exact ⟨a, ha, hprepared.1, rfl⟩
  · cases h

/-! ## Preparing and observing -/

structure Acting (s : Store) (run : AgentRun) : Prop where
  found : s.runs.find? run.id = some run
  active : run.status.active = true

variable {run : AgentRun}

theorem agentActionContext_acting {memberActive requireEffectAdmission : Bool}
    (h : s.agentActionContext e memberActive requireEffectAdmission = some run) : Acting s run := by
  unfold Store.agentActionContext at h
  split at h
  · obtain ⟨hrun, hguard⟩ := Option.filter_eq_some_iff.1 h
    simp only [Bool.and_eq_true] at hguard
    exact ⟨Table.find?_key hrun, hguard.1.1.2⟩
  · cases h

variable {c : PrepareActionCommand}

theorem preparedDecision_observed {decision : PolicyDecision}
    (h : Store.preparedDecision run c = .ok decision) : decision = .observed ↔ c.controlMode = .observed := by
  unfold Store.preparedDecision at h
  split at h
  · cases h
    simp_all
  · rename_i hmode
    split at h
    · cases h
      simp [hmode]
    · unfold evaluatePolicy at h
      dsimp only at h
      split_ifs at h <;> cases h <;> simp [hmode]

theorem prepareAction_ok (h : s.prepareAction e c = .ok t) :
    t = s ∨ ∃ run decision, Acting s run ∧ s.actions.find? c.actionId = none ∧
      (decision = .observed ↔ c.controlMode = .observed) ∧ s.writePrepared run e c decision = .ok t := by
  unfold Store.prepareAction at h
  simp only [bind_eq_ok, reject_eq_ok, orError_eq_ok, exists_const] at h
  obtain ⟨-, -, -, run, hrun, -, -, -, h⟩ := h
  split at h
  · simp only [bind_eq_ok, reject_eq_ok, exists_const] at h
    obtain ⟨-, h⟩ := h
    cases h
    exact .inl rfl
  · rename_i hfresh
    obtain ⟨decision, hdecision, h⟩ := bind_eq_ok.1 h
    exact .inr ⟨run, decision, agentActionContext_acting hrun, hfresh, preparedDecision_observed hdecision, h⟩

theorem writePrepared_ok {decision : PolicyDecision}
    (h : s.writePrepared run e c decision = .ok t) :
    ∃ written asked : Store, s.insertAction (preparedAction run c decision) = .ok written ∧
      (if decision = .ask then written.insertApproval (preparedApproval e c) = .ok asked else asked = written) ∧
      (∀ d, preparedDelivery run e c decision = some d →
        (asked.waitPrepared run.id (preparedWaitReason decision c.controlMode)).createRuntimeDelivery d = .ok t) ∧
      (preparedDelivery run e c decision = none → t = asked.waitPrepared run.id (preparedWaitReason decision c.controlMode)) := by
  unfold Store.writePrepared at h
  simp only [bind_eq_ok] at h
  obtain ⟨written, hwritten, asked, hasked, h⟩ := h
  refine ⟨written, asked, hwritten, ?_, fun d hd => ?_, fun hnone => ?_⟩
  · split_ifs at hasked ⊢
    · exact hasked
    cases hasked
    rfl
  · rw [hd] at h
    exact h
  · rw [hnone] at h
    cases h
    rfl

theorem recordObservedAction_ok {c : RecordObservedActionCommand} (h : s.recordObservedAction e c = .ok t) :
    t = s ∨ ∃ run written, Acting s run ∧ s.insertAction (Store.observedAction run c) = .ok written ∧
      t = if c.outcome = .unknown then written.markAgentRunWaiting run.id .unknownActionOutcome else written := by
  unfold Store.recordObservedAction at h
  simp only [bind_eq_ok, reject_eq_ok, orError_eq_ok, exists_const] at h
  obtain ⟨-, -, -, run, hrun, -, h⟩ := h
  split at h
  · simp only [bind_eq_ok, reject_eq_ok, exists_const] at h
    obtain ⟨-, h⟩ := h
    cases h
    exact .inl rfl
  · obtain ⟨written, hwritten, h⟩ := bind_eq_ok.1 h
    cases h
    exact .inr ⟨run, written, agentActionContext_acting hrun, hwritten, rfl⟩

/-! ## Approvals -/

structure Resolvable (s : Store) (e : Envelope) (c : ResolveActionApprovalCommand) (p : Approval) (action : ActionExecution)
    (run : AgentRun) (option : RuntimePermissionOption) : Prop where
  user : e.actor = .user p.requestedForUserId
  approval : s.approvals.find? c.approvalId = some p
  actionFound : s.actions.find? p.actionId = some action
  runFound : s.runs.find? action.agentRunId = some run
  pending : p.status = .pending
  prepared : action.status = .prepared
  epoch : action.sourceAgentRunExecutionEpoch = run.executionEpoch
  offered : option ∈ p.nativeOptions
  selected : option.optionId = c.optionId
  admitted : option.allowsAction = true → Store.acceptsNewEffects run = true

theorem resolveApproval_ok {c : ResolveActionApprovalCommand} (h : s.resolveApproval e c = .ok t) :
    ∃ p action run option, Resolvable s e c p action run option ∧
      (s.expireApproval e p action run = .ok t ∨
        (∀ expiry, p.decisionExpiresAt = some expiry → e.now ≤ expiry) ∧
          s.answerApproval e p.requestedForUserId p action run option = .ok t) := by
  unfold Store.resolveApproval at h
  split at h
  · rename_i userId hactor
    simp only [bind_eq_ok, reject_eq_ok, orError_eq_ok, exists_const] at h
    obtain ⟨p, hp, action, haction, run, hrun, -, huser, hpending, -, hprepared, hepoch, option, hoption, hadmitted, -, h⟩ := h
    obtain rfl := not_not.1 huser
    refine ⟨p, action, run, option, ⟨hactor, hp, haction, hrun, not_not.1 hpending, not_not.1 hprepared, not_not.1 hepoch,
      List.mem_of_find?_eq_some hoption, by simpa using List.find?_some hoption, fun hallows => ?_⟩, ?_⟩
    · exact Bool.of_not_eq_false fun hno => hadmitted ⟨hallows, hno⟩
    split at h
    · exact .inl h
    rename_i hexpiry
    refine .inr ⟨fun expiry he => ?_, h⟩
    rw [he] at hexpiry
    simpa using hexpiry
  · cases h

theorem expireApproval_ok {action : ActionExecution} (h : s.expireApproval e p action run = .ok t) :
    ∃ (option : RuntimePermissionOption) (closed : Store),
      (s.resolvedApproval p.id .expired "approval-expirer" "expired").setActionNotExecuted action.id action.version
        "approval_expired" = .ok closed ∧
      if Store.acceptsNewEffects run then closed.createRuntimeDelivery (Store.resolutionDelivery e run action .expired option) = .ok t
      else t = closed := by
  unfold Store.expireApproval at h
  simp only [bind_eq_ok, orError_eq_ok] at h
  obtain ⟨option, -, closed, hclosed, h⟩ := h
  refine ⟨option, closed, hclosed, ?_⟩
  split_ifs at h ⊢
  · exact h
  cases h
  rfl

theorem answerApproval_ok {userId : String} {action : ActionExecution}
    {option : RuntimePermissionOption} (h : s.answerApproval e userId p action run option = .ok t) :
    ∃ answered : Store,
      (if option.allowsAction then
          answered = s.resolvedApproval p.id (Store.resolutionStatus option) userId (Store.resolutionCode option)
        else (s.resolvedApproval p.id (Store.resolutionStatus option) userId (Store.resolutionCode option)).setActionNotExecuted
          action.id action.version "approval_denied" = .ok answered) ∧
      ((Store.acceptsNewEffects run = true ∧ (action.controlMode = .intercepted ∨ option.allowsAction = false) ∧
          ∃ told, answered.createRuntimeDelivery
            (Store.resolutionDelivery e run action (Store.resolutionStatus option) option) = .ok told ∧
            t = told.markAgentRunWaiting run.id .runtimeDelivery) ∨
        ¬ (Store.acceptsNewEffects run = true ∧ (action.controlMode = .intercepted ∨ option.allowsAction = false)) ∧
          t = if option.allowsAction then answered.markAgentRunWaiting run.id .actionExecution else answered) := by
  unfold Store.answerApproval at h
  simp only [bind_eq_ok] at h
  obtain ⟨answered, hanswered, h⟩ := h
  refine ⟨answered, ?_, ?_⟩
  · split_ifs at hanswered ⊢
    · cases hanswered
      rfl
    · exact hanswered
  · split at h
    · rename_i htold
      obtain ⟨told, hcreated, h⟩ := bind_eq_ok.1 h
      cases h
      exact .inl ⟨htold.1, htold.2, told, hcreated, rfl⟩
    · refine .inr ⟨‹_›, ?_⟩
      split_ifs at h ⊢
      · cases h
        rfl
      · cases h
        rfl

/-! ## Claims and results -/

structure Claimable (s : Store) (e : Envelope) (c : ClaimActionCommand) (action : ActionExecution) (run : AgentRun) : Prop where
  actionFound : s.actions.find? c.actionId = some action
  runFound : s.runs.find? action.agentRunId = some run
  prepared : action.status = .prepared
  active : run.status.active = true
  approved : action.policyDecision = .ask → s.approvedCount c.actionId = 1
  policy : action.policyDecision = .ask ∨ action.policyDecision = .allow
  component : Store.validComponent e.actor action.controlMode = true

theorem claimAction_ok {c : ClaimActionCommand} (h : s.claimAction e c = .ok t) :
    ∃ action run, Claimable s e c action run ∧ s.attempts.find? e.uuid = none ∧
      t = { s with
        actions := s.actions.update c.actionId (Store.claimedAction e run c)
        attempts := s.attempts.insert (Store.claimedAttempt e action c) } := by
  unfold Store.claimAction at h
  simp only [bind_eq_ok, reject_eq_ok, orError_eq_ok, exists_const] at h
  obtain ⟨-, -, action, haction, run, hrun, -, hprepared, hactive, -, -, happroved, hpolicy, hcomponent, -, -, claimed, hattempt, h⟩ := h
  obtain ⟨hfresh, rfl⟩ := insertAttempt_ok hattempt
  cases h
  refine ⟨action, run, ⟨haction, hrun, ?_, by simpa using hactive, fun hask => ?_, ?_, by simpa using hcomponent⟩, hfresh, rfl⟩
  · exact not_not.1 fun hne => hprepared (.inl hne)
  · exact not_not.1 fun hne => happroved ⟨hask, hne⟩
  by_contra hneither
  exact hpolicy (not_or.1 hneither)

def marked (now : Int) (a : ActionExecution) : ActionExecution :=
  { a with dispatchMayHaveStartedAt := a.dispatchMayHaveStartedAt <|> some now, version := a.version + 1 }

theorem markDispatchStarted_ok {c : MarkActionDispatchStartedCommand} (h : s.markDispatchStarted e c = .ok t) :
    ∃ action, s.actions.find? c.actionId = some action ∧ action.status = .executing ∧
      ∃ attempts, t = { s with actions := s.actions.update c.actionId (marked e.now), attempts := attempts } ∧
        ∀ k x, attempts.find? k = some x → ∃ x', s.attempts.find? k = some x' ∧ x.actionId = x'.actionId := by
  unfold Store.markDispatchStarted at h
  simp only [bind_eq_ok, reject_eq_ok, orError_eq_ok, exists_const] at h
  obtain ⟨-, action, haction, hfenced, run, -, -, h⟩ := h
  cases h
  refine ⟨action, haction, ?_, _, rfl, fun k x hx => ?_⟩
  · exact not_not.1 fun hne => hfenced (.inr (.inr (.inr hne)))
  rw [Table.find?_updateWhere] at hx
  obtain ⟨x', hx', rfl⟩ := Option.map_eq_some_iff.1 hx
  exact ⟨x', hx', by split_ifs <;> rfl⟩

structure Settleable (s : Store) (c : RecordActionResultCommand) (action : ActionExecution) (run : AgentRun) : Prop where
  actionFound : s.actions.find? c.actionId = some action
  runFound : s.runs.find? action.agentRunId = some run
  open_ : action.status = .executing ∨ action.status = .unknown
  dispatched : action.dispatchMayHaveStartedAt ≠ none
  mode : action.controlMode = .mediated ∨ action.controlMode = .intercepted

theorem recordResult_ok {c : RecordActionResultCommand} (h : s.recordResult e c = .ok t) :
    ∃ action run, Settleable s c action run ∧ ∃ settled : Store,
      settled = { s with actions := s.actions.update c.actionId (Store.settledAction c) } ∧
      (c.outcome = .unknown ∧ t = settled.markAgentRunWaiting run.id .unknownActionOutcome ∨
        c.outcome ≠ .unknown ∧ action.controlMode = .mediated ∧
          (∃ told, settled.createRuntimeDelivery (Store.resultDelivery e run c) = .ok told ∧
            t = told.markAgentRunWaiting run.id .runtimeDelivery) ∨
        c.outcome ≠ .unknown ∧ action.controlMode = .intercepted ∧ t = settled.resumeAgentRunIfUnblocked run.id) := by
  unfold Store.recordResult at h
  simp only [bind_eq_ok, reject_eq_ok, orError_eq_ok, exists_const] at h
  obtain ⟨-, -, action, haction, run, hrun, -, hfenced, hsource, h⟩ := h
  have hmode : action.controlMode = .mediated ∨ action.controlMode = .intercepted := by
    cases hm : action.controlMode with
    | mediated => exact .inl rfl
    | intercepted => exact .inr rfl
    | observed =>
      rw [hm] at hsource
      exact absurd (.inl rfl) hsource
  refine ⟨action, run, ⟨haction, hrun, ?_, fun hnone => hsource (.inr hnone), hmode⟩, _, rfl, ?_⟩
  · by_contra hclosed
    rw [not_or] at hclosed
    refine hfenced (.inl ⟨hclosed.1, ?_⟩)
    rw [Bool.and_eq_false_iff]
    exact .inl (by simpa using hclosed.2)
  · split at h
    · cases h
      exact .inl ⟨‹_›, rfl⟩
    · rename_i houtcome
      split at h
      · rename_i hmediated
        obtain ⟨told, htold, h⟩ := bind_eq_ok.1 h
        cases h
        exact .inr (.inl ⟨houtcome, hmediated, told, htold, rfl⟩)
      · rename_i hmediated
        cases h
        exact .inr (.inr ⟨houtcome, hmode.resolve_left hmediated, rfl⟩)

/-! ## Deliveries -/

def leased (c : AcquireRuntimeDeliveryCommand) (now : Int) (d : RuntimeDelivery) : RuntimeDelivery :=
  { d with status := .delivering, leaseOwner := some c.leaseOwner, leaseExpiresAt := some (now + c.leaseSeconds), version := d.version + 1 }

theorem acquireRuntimeDelivery_ok {c : AcquireRuntimeDeliveryCommand} (h : s.acquireRuntimeDelivery e c = .ok t) :
    ∃ d, s.deliveries.find? c.deliveryId = some d ∧ (d.status = .pending ∨ d.status = .delivering) ∧
      t = { s with deliveries := s.deliveries.update c.deliveryId (leased c e.now) } := by
  unfold Store.acquireRuntimeDelivery at h
  simp only [bind_eq_ok, reject_eq_ok, orError_eq_ok, exists_const] at h
  obtain ⟨-, -, d, hd, run, -, -, hclaimable, -, h⟩ := h
  cases h
  refine ⟨d, hd, ?_, rfl⟩
  have hopen := not_not.1 fun hno => hclaimable (.inl hno)
  exact hopen.imp_right And.left

theorem acknowledgeRuntimeDelivery_ok {c : LeasedDeliveryCommand} (h : s.acknowledgeRuntimeDelivery e c = .ok t) :
    ∃ d run, s.deliveries.find? c.deliveryId = some d ∧ d.status = .delivering ∧ s.runs.find? d.agentRunId = some run ∧
      t = ({ s with deliveries := s.deliveries.update c.deliveryId (Store.closedDelivery .acked) } : Store).resumeAgentRunIfUnblocked
        run.id := by
  unfold Store.acknowledgeRuntimeDelivery at h
  simp only [bind_eq_ok, reject_eq_ok, orError_eq_ok, exists_const] at h
  obtain ⟨-, d, hd, run, hrun, hfenced, h⟩ := h
  cases h
  exact ⟨d, run, hd, not_not.1 fun hne => hfenced (.inr (.inl hne)), hrun, rfl⟩

theorem failRuntimeDelivery_ok {c : LeasedDeliveryCommand} {error : String} (h : s.failRuntimeDelivery e c error = .ok t) :
    ∃ d, s.deliveries.find? c.deliveryId = some d ∧ d.status = .delivering ∧
      t = { s with deliveries := s.deliveries.update c.deliveryId (Store.closedDelivery .failed) } := by
  unfold Store.failRuntimeDelivery at h
  simp only [bind_eq_ok, reject_eq_ok, orError_eq_ok, exists_const] at h
  obtain ⟨-, -, d, hd, run, -, -, hraced, h⟩ := h
  cases h
  exact ⟨d, hd, not_not.1 fun hne => hraced (.inl hne), rfl⟩

/-! ## Requests that the Runtime resolved -/

theorem confirmRuntimeRequestResolved_ok {c : ConfirmRuntimeRequestResolvedCommand}
    (h : s.confirmRuntimeRequestResolved e c = .ok t) :
    ∃ action run settled, s.actions.find? c.actionId = some action ∧ action.controlMode = .intercepted ∧
      s.runs.find? action.agentRunId = some run ∧ s.settleRequest (Store.componentId e.actor) action = .ok settled ∧
      t = settled.resumeAgentRunIfUnblocked run.id := by
  unfold Store.confirmRuntimeRequestResolved at h
  simp only [bind_eq_ok, reject_eq_ok, orError_eq_ok, exists_const] at h
  obtain ⟨-, action, haction, run, hrun, -, settled, hsettled, h⟩ := h
  cases h
  obtain ⟨haction, hmatches⟩ := Option.filter_eq_some_iff.1 haction
  unfold Store.requestMatches at hmatches
  simp only [Bool.and_eq_true, beq_iff_eq] at hmatches
  exact ⟨action, run, settled, haction, hmatches.1.1.2, hrun, hsettled, rfl⟩

theorem find?_authorizationOf {d : RuntimeDelivery} (h : s.authorizationOf actionId = some d) :
    s.deliveries.find? d.id = some d ∧ d.actionId = actionId ∧ d.deliveryKind = .authorizationResolution := by
  unfold Store.authorizationOf at h
  have hmatches := List.find?_some h
  simp only [Bool.and_eq_true, beq_iff_eq] at hmatches
  exact ⟨Table.find?_of_mem (List.mem_of_find?_eq_some h), hmatches⟩

theorem find?_approvalOf (h : s.approvalOf actionId = some p) :
    s.approvals.find? p.id = some p ∧ p.actionId = actionId := by
  unfold Store.approvalOf at h
  exact ⟨Table.find?_of_mem (List.mem_of_find?_eq_some h), by simpa using List.find?_some h⟩

/-! ## Lost Runtimes -/

theorem reconcileRuntimeLoss_ok {c : ReconcileRuntimeLossCommand} (h : s.reconcileRuntimeLoss e c = .ok t) :
    ∃ run, s.runs.find? c.agentRunId = some run ∧ run.status.active = true ∧
      (s.settleInterruptedRun c.agentRunId "runtime_connection_lost" false = .ok t ∨
        s.failLostAgentRun c run = .ok t ∨
        ∃ hasUnknown, t = { s.closeLostRequests c with
          runs := (s.closeLostRequests c).runs.update c.agentRunId (Store.recoveringRun hasUnknown) }) := by
  unfold Store.reconcileRuntimeLoss at h
  simp only [bind_eq_ok, reject_eq_ok, orError_eq_ok, exists_const] at h
  obtain ⟨-, run, hrun, hfenced, -, h⟩ := h
  refine ⟨run, hrun, ?_, ?_⟩
  · exact Bool.of_not_eq_false fun hno => hfenced (.inr (.inr (.inr hno)))
  split at h
  · exact .inl h
  split at h
  · exact .inr (.inl h)
  cases h
  exact .inr (.inr ⟨_, rfl⟩)

end Rovai.Actions
