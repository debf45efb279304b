import RovaiCore.ActionInversion
/-!
# How actions and approvals evolve

What an event can do to an action and to an approval, row by row: an action is claimed from where it was prepared, with an
authorization.
-/
namespace Rovai.Actions

open Tables (Table)
open Tables.Table (Grows)
open Fallible (bind_eq_ok orError_eq_ok)

variable {s t : Store} {event : Event}

/-! ## Moves -/

structure SameRequest (a a' : ActionExecution) : Prop where
  id : a'.id = a.id
  run : a'.agentRunId = a.agentRunId
  mode : a'.controlMode = a.controlMode
  decision : a'.policyDecision = a.policyDecision
  epoch : a'.sourceAgentRunExecutionEpoch = a.sourceAgentRunExecutionEpoch

def Permitted (s : Store) (a : ActionExecution) : Prop :=
  a.policyDecision = .allow ∨
    a.policyDecision = .ask ∧ ∃ k p, s.approvals.find? k = some p ∧ p.actionId = a.id ∧ p.status = .approved

def Claims (event : Event) (actionId : String) : Prop :=
  ∃ e c, event = .command e (.claimAction c) ∧ c.actionId = actionId

inductive ActionMove (s : Store) (event : Event) (a a' : ActionExecution) : Prop
  | same (h : a' = a)
  | claimed (hsame : SameRequest a a') (hmarker : a'.dispatchMayHaveStartedAt = a.dispatchMayHaveStartedAt)
      (hevent : Claims event a.id) (h : a.status = .prepared) (h' : a'.status = .executing) (hpermitted : Permitted s a)
  | marked (hsame : SameRequest a a') (hmarker : a'.dispatchMayHaveStartedAt ≠ none) (h : a.status = .executing)
      (h' : a'.status = .executing)
  | settled (hsame : SameRequest a a') (hmarker : a'.dispatchMayHaveStartedAt = a.dispatchMayHaveStartedAt)
      (h : a.status = .executing ∨ a.status = .unknown) (hdispatched : a.dispatchMayHaveStartedAt ≠ none)
      (h' : a'.status = .succeeded ∨ a'.status = .failed ∨ a'.status = .unknown)
  | closed (hsame : SameRequest a a') (hmarker : a'.dispatchMayHaveStartedAt = a.dispatchMayHaveStartedAt)
      (h : a.status = .prepared ∨ a.status = .executing ∧ a.dispatchMayHaveStartedAt = none) (h' : a'.status = .notExecuted)

structure NewAction (event : Event) (a : ActionExecution) : Prop where
  unmarked : a.dispatchMayHaveStartedAt = none
  idle : a.status ≠ .executing
  prepared : a.status = .prepared → ∃ e c, event = .command e (.prepareAction c)

structure Authorized (s : Store) (event : Event) (p : Approval) : Prop where
  pending : s.approvals.find? p.id = some p ∧ p.status = .pending
  resolved : ∃ e c, event = .command e (.resolveApproval c) ∧ c.approvalId = p.id ∧ e.actor = .user p.requestedForUserId ∧
    (∀ expiry, p.decisionExpiresAt = some expiry → e.now ≤ expiry) ∧
    ∃ option ∈ p.nativeOptions, option.optionId = c.optionId ∧ option.allowsAction = true
  admitted : ∃ action run, s.actions.find? p.actionId = some action ∧ s.runs.find? action.agentRunId = some run ∧
    run.status.active = true ∧ run.cancelRequested = false ∧ run.executionEpoch = action.sourceAgentRunExecutionEpoch

inductive ApprovalMove (s : Store) (event : Event) (p p' : Approval) : Prop
  | same (h : p' = p)
  | resolved (hid : p'.id = p.id) (haction : p'.actionId = p.actionId) (h : p.status = .pending) (h' : p'.status ≠ .pending)
      (happroved : p'.status = .approved → Authorized s event p)

def NewApproval (p : Approval) : Prop :=
  p.status = .pending

structure Evolves (s : Store) (event : Event) (t : Store) : Prop where
  actions : Grows (ActionMove s event) (NewAction event) s.actions t.actions
  approvals : Grows (ApprovalMove s event) NewApproval s.approvals t.approvals

theorem actions_kept (s : Store) (event : Event) : Grows (ActionMove s event) (NewAction event) s.actions s.actions :=
  .refl (fun _ => .same rfl) _

theorem approvals_kept (s : Store) (event : Event) : Grows (ApprovalMove s event) NewApproval s.approvals s.approvals :=
  .refl (fun _ => .same rfl) _

theorem Evolves.of_eq (hactions : t.actions = s.actions) (happrovals : t.approvals = s.approvals) : Evolves s event t :=
  ⟨hactions ▸ actions_kept s event, happrovals ▸ approvals_kept s event⟩

/-! ## The statements -/

structure Aside (s t : Store) : Prop where
  actions : t.actions = s.actions
  approvals : t.approvals = s.approvals

theorem aside_markAgentRunWaiting (s : Store) (agentRunId : String) (reason : WaitReason) :
    Aside s (s.markAgentRunWaiting agentRunId reason) :=
  ⟨rfl, rfl⟩

theorem aside_waitPrepared (s : Store) (agentRunId : String) (reason : Option WaitReason) :
    Aside s (s.waitPrepared agentRunId reason) := by
  cases reason <;> exact ⟨rfl, rfl⟩

theorem aside_resumeAgentRunIfUnblocked (s : Store) (agentRunId : String) : Aside s (s.resumeAgentRunIfUnblocked agentRunId) := by
  unfold Store.resumeAgentRunIfUnblocked
  split <;> exact ⟨rfl, rfl⟩

theorem aside_createRuntimeDelivery {d : RuntimeDelivery} (h : s.createRuntimeDelivery d = .ok t) : Aside s t := by
  obtain ⟨rfl, -⟩ | ⟨-, rfl⟩ := createRuntimeDelivery_ok h
  · exact ⟨rfl, rfl⟩
  · exact ⟨rfl, rfl⟩

theorem Evolves.aside {u : Store} (h : Evolves s event t) (h' : Aside t u) : Evolves s event u :=
  ⟨h'.actions ▸ h.actions, h'.approvals ▸ h.approvals⟩

theorem closed_notExecuted {a : ActionExecution} (h : a.status = .prepared) (reason : String) :
    ActionMove s event a (notExecuted reason a) :=
  .closed ⟨rfl, rfl, rfl, rfl, rfl⟩ rfl (.inl h) rfl

theorem evolves_setActionNotExecuted {u : Store} {actionId : String} {version : Int} {reason : String}
    (hactions : t.actions = s.actions) (happrovals : Grows (ApprovalMove s event) NewApproval s.approvals t.approvals)
    (h : t.setActionNotExecuted actionId version reason = .ok u) : Evolves s event u := by
  obtain ⟨a, ha, hprepared, rfl⟩ := setActionNotExecuted_ok h
  refine ⟨?_, happrovals⟩
  dsimp only
  rw [hactions] at ha ⊢
  refine .update (fun _ => .same rfl) _ _ (notExecuted reason) (fun _ => rfl) fun a' ha' => ?_
  obtain rfl := Option.mem_unique ha ha'
  exact closed_notExecuted hprepared reason

theorem evolves_resolvedApproval {p : Approval} {status : ApprovalStatus} {resolvedById resolutionCode : String}
    (hp : s.approvals.find? p.id = some p) (hpending : p.status = .pending) (hstatus : status ≠ .pending)
    (h : status = .approved → Authorized s event p) :
    Grows (ApprovalMove s event) NewApproval s.approvals (s.resolvedApproval p.id status resolvedById resolutionCode).approvals := by
  unfold Store.resolvedApproval
  refine .update (fun _ => .same rfl) _ _ (Store.resolvedAs status resolvedById resolutionCode) (fun _ => rfl) fun p' hp' => ?_
  obtain rfl := Option.mem_unique hp hp'
  exact .resolved rfl rfl hpending hstatus h

/-! ## The commands -/

section
variable {e : Envelope}

theorem preparedStatus_ne_executing (decision : PolicyDecision) : preparedStatus decision ≠ .executing := by
  cases decision <;> decide

theorem outcome_status (outcome : ActionResultOutcome) :
    outcome.status = .succeeded ∨ outcome.status = .failed ∨ outcome.status = .unknown := by
  cases outcome <;> decide

theorem evolves_prepareAction {c : PrepareActionCommand} (h : s.prepareAction e c = .ok t) :
    Evolves s (.command e (.prepareAction c)) t := by
  obtain rfl | ⟨run, decision, -, -, -, h⟩ := prepareAction_ok h
  · exact .of_eq rfl rfl
  obtain ⟨written, asked, hwritten, hasked, hdelivery, hnone⟩ := writePrepared_ok h
  obtain ⟨-, rfl⟩ := insertAction_ok hwritten
  have hnew : NewAction (.command e (.prepareAction c)) (preparedAction run c decision) :=
    ⟨rfl, preparedStatus_ne_executing decision, fun _ => ⟨e, c, rfl⟩⟩
  have hactions : Grows (ActionMove s (.command e (.prepareAction c))) (NewAction (.command e (.prepareAction c))) s.actions
      (s.actions.insert (preparedAction run c decision)) :=
    .insert (fun _ => .same rfl) _ _ hnew
  have hevolves : Evolves s (.command e (.prepareAction c)) asked := by
    split at hasked
    · obtain ⟨-, rfl⟩ := insertApproval_ok hasked
      exact ⟨hactions, .insert (fun _ => .same rfl) _ _ rfl⟩
    · subst hasked
      exact ⟨hactions, approvals_kept s _⟩
  have hwaits := hevolves.aside (aside_waitPrepared asked run.id (preparedWaitReason decision c.controlMode))
  cases hd : preparedDelivery run e c decision with
  | some d => exact hwaits.aside (aside_createRuntimeDelivery (hdelivery d hd))
  | none =>
    rw [hnone hd]
    exact hwaits

theorem evolves_recordObservedAction {c : RecordObservedActionCommand} (h : s.recordObservedAction e c = .ok t) : Evolves s event t := by
  obtain rfl | ⟨run, written, -, hwritten, rfl⟩ := recordObservedAction_ok h
  · exact .of_eq rfl rfl
  obtain ⟨-, rfl⟩ := insertAction_ok hwritten
  have hnew : NewAction event (Store.observedAction run c) := by
    refine ⟨rfl, fun hexecuting => ?_, fun hprepared => ?_⟩
    · obtain h | h | h := outcome_status c.outcome <;> cases h.symm.trans hexecuting
    · obtain h | h | h := outcome_status c.outcome <;> cases h.symm.trans hprepared
  have hevolves : Evolves s event { s with actions := s.actions.insert (Store.observedAction run c) } :=
    ⟨.insert (fun _ => .same rfl) _ _ hnew, approvals_kept s event⟩
  split
  · exact hevolves.aside (aside_markAgentRunWaiting _ _ _)
  · exact hevolves

theorem resolutionStatus_approved {option : RuntimePermissionOption} (h : Store.resolutionStatus option = .approved) :
    option.allowsAction = true := by
  unfold Store.resolutionStatus at h
  split_ifs at h with hcancel hallows
  exact hallows

theorem resolutionStatus_ne_pending (option : RuntimePermissionOption) : Store.resolutionStatus option ≠ .pending := by
  unfold Store.resolutionStatus
  split_ifs <;> decide

theorem evolves_resolveApproval {c : ResolveActionApprovalCommand} (h : s.resolveApproval e c = .ok t) :
    Evolves s (.command e (.resolveApproval c)) t := by
  obtain ⟨p, action, run, option, hresolvable, h⟩ := resolveApproval_ok h
  have hkey := Table.key_of_find? hresolvable.approval
  have hfound : s.approvals.find? p.id = some p := Table.find?_key hresolvable.approval
  obtain hexpired | ⟨hexpiry, hanswer⟩ := h
  · obtain ⟨option', closed, hclosed, hdelivery⟩ := expireApproval_ok hexpired
    have hevolves := @evolves_setActionNotExecuted s (s.resolvedApproval p.id .expired "approval-expirer" "expired")
      (.command e (.resolveApproval c)) _ _ _ _ rfl (evolves_resolvedApproval hfound hresolvable.pending (by decide) (nofun)) hclosed
    split at hdelivery
    · exact hevolves.aside (aside_createRuntimeDelivery hdelivery)
    subst hdelivery
    exact hevolves
  · obtain ⟨answered, hanswered, htold⟩ := answerApproval_ok hanswer
    have hauthorized : Store.resolutionStatus option = .approved → Authorized s (.command e (.resolveApproval c)) p := by
      intro happroved
      have hallows := resolutionStatus_approved happroved
      have hadmitted := hresolvable.admitted hallows
      unfold Store.acceptsNewEffects at hadmitted
      simp only [Bool.and_eq_true, Bool.not_eq_true'] at hadmitted
      exact ⟨⟨hfound, hresolvable.pending⟩, ⟨e, c, rfl, hkey.symm, hresolvable.user, hexpiry, option, hresolvable.offered,
        hresolvable.selected, hallows⟩, action, run, hresolvable.actionFound, hresolvable.runFound, hadmitted.1, hadmitted.2,
        hresolvable.epoch.symm⟩
    have happrovals := @evolves_resolvedApproval s (.command e (.resolveApproval c)) p (Store.resolutionStatus option)
      p.requestedForUserId (Store.resolutionCode option) hfound hresolvable.pending (resolutionStatus_ne_pending option) hauthorized
    have hevolves : Evolves s (.command e (.resolveApproval c)) answered := by
      split at hanswered
      · subst hanswered
        exact ⟨actions_kept s _, happrovals⟩
      · exact @evolves_setActionNotExecuted s (s.resolvedApproval p.id (Store.resolutionStatus option) p.requestedForUserId
          (Store.resolutionCode option)) (.command e (.resolveApproval c)) _ _ _ _ rfl happrovals hanswered
    obtain ⟨-, -, told, hcreated, rfl⟩ | ⟨-, rfl⟩ := htold
    · exact (hevolves.aside (aside_createRuntimeDelivery hcreated)).aside (aside_markAgentRunWaiting _ _ _)
    split
    · exact hevolves.aside (aside_markAgentRunWaiting _ _ _)
    · exact hevolves

theorem exists_approved {actionId : String} (h : s.approvedCount actionId = 1) :
    ∃ k p, s.approvals.find? k = some p ∧ p.actionId = actionId ∧ p.status = .approved := by
  obtain ⟨p, hp, hmatches⟩ := List.countP_pos_iff.1 (Nat.lt_of_lt_of_eq Nat.one_pos h.symm)
  simp only [Bool.and_eq_true, beq_iff_eq] at hmatches
  exact ⟨p.id, p, Table.find?_of_mem hp, hmatches⟩

theorem Claimable.permitted {c : ClaimActionCommand} {action : ActionExecution} {run : AgentRun} (h : Claimable s e c action run) :
    Permitted s action := by
  obtain hask | hallow := h.policy
  · obtain ⟨k, p, hp, haction, happroved⟩ := exists_approved (h.approved hask)
    exact .inr ⟨hask, k, p, hp, haction.trans (Table.key_of_find? h.actionFound).symm, happroved⟩
  · exact .inl hallow

theorem evolves_claimAction {c : ClaimActionCommand} (h : s.claimAction e c = .ok t) :
    Evolves s (.command e (.claimAction c)) t := by
  obtain ⟨action, run, hclaimable, -, rfl⟩ := claimAction_ok h
  refine ⟨.update (fun _ => .same rfl) _ _ (Store.claimedAction e run c) (fun _ => rfl) fun a ha => ?_, approvals_kept s _⟩
  obtain rfl := Option.mem_unique hclaimable.actionFound ha
  exact .claimed ⟨rfl, rfl, rfl, rfl, rfl⟩ rfl ⟨e, c, rfl, (Table.key_of_find? ha).symm⟩ hclaimable.prepared rfl
    hclaimable.permitted

theorem evolves_markDispatchStarted {c : MarkActionDispatchStartedCommand} (h : s.markDispatchStarted e c = .ok t) : Evolves s event t := by
  obtain ⟨action, haction, hexecuting, attempts, rfl, -⟩ := markDispatchStarted_ok h
  refine ⟨.update (fun _ => .same rfl) _ _ (marked e.now) (fun _ => rfl) fun a ha => ?_, approvals_kept s _⟩
  obtain rfl := Option.mem_unique haction ha
  refine .marked ⟨rfl, rfl, rfl, rfl, rfl⟩ ?_ hexecuting hexecuting
  unfold marked
  cases action.dispatchMayHaveStartedAt <;> simp

theorem evolves_recordResult {c : RecordActionResultCommand} (h : s.recordResult e c = .ok t) : Evolves s event t := by
  obtain ⟨action, run, hsettleable, settled, rfl, h⟩ := recordResult_ok h
  have hevolves : Evolves s event { s with actions := s.actions.update c.actionId (Store.settledAction c) } := by
    refine ⟨.update (fun _ => .same rfl) _ _ (Store.settledAction c) (fun _ => rfl) fun a ha => ?_, approvals_kept s _⟩
    obtain rfl := Option.mem_unique hsettleable.actionFound ha
    exact .settled ⟨rfl, rfl, rfl, rfl, rfl⟩ rfl hsettleable.open_ hsettleable.dispatched (outcome_status c.outcome)
  obtain ⟨-, rfl⟩ | ⟨-, -, told, htold, rfl⟩ | ⟨-, -, rfl⟩ := h
  · exact hevolves.aside (aside_markAgentRunWaiting _ _ _)
  · exact (hevolves.aside (aside_createRuntimeDelivery htold)).aside (aside_markAgentRunWaiting _ _ _)
  · exact hevolves.aside (aside_resumeAgentRunIfUnblocked _ _)

theorem evolves_closeRequest {componentId : String} {action : ActionExecution} {delivery : Option RuntimeDelivery}
    (h : s.closeRequest componentId action delivery = .ok t) : Evolves s event t := by
  unfold Store.closeRequest at h
  simp only [bind_eq_ok] at h
  obtain ⟨closed, hclosed, h⟩ := h
  have haside : Aside s (s.closeDelivery delivery) := by
    cases delivery <;> exact ⟨rfl, rfl⟩
  have hevolves : Evolves s event closed := by
    split at hclosed
    · exact evolves_setActionNotExecuted haside.actions (haside.approvals ▸ approvals_kept s event) hclosed
    cases hclosed
    exact .of_eq haside.actions haside.approvals
  have happrovals : closed.approvals = s.approvals := by
    rw [← haside.approvals]
    split at hclosed
    · obtain ⟨-, -, -, rfl⟩ := setActionNotExecuted_ok hclosed
      rfl
    · cases hclosed
      rfl
  split at h
  · rename_i p hp
    cases h
    split
    · rename_i hpending
      refine ⟨hevolves.actions, ?_⟩
      have hfound := (find?_approvalOf hp).1
      have hresolved := @evolves_resolvedApproval s event p .cancelled componentId "native_request_resolved"
        (happrovals ▸ hfound) hpending (by decide) nofun
      unfold Store.resolvedApproval at hresolved ⊢
      rw [happrovals]
      exact hresolved
    · exact hevolves
  · cases h
    exact hevolves

theorem evolves_confirmRuntimeRequestResolved {c : ConfirmRuntimeRequestResolvedCommand}
    (h : s.confirmRuntimeRequestResolved e c = .ok t) : Evolves s event t := by
  obtain ⟨action, run, settled, -, -, -, hsettled, rfl⟩ := confirmRuntimeRequestResolved_ok h
  refine Evolves.aside ?_ (aside_resumeAgentRunIfUnblocked _ _)
  unfold Store.settleRequest at hsettled
  split at hsettled
  · exact evolves_closeRequest hsettled
  split at hsettled
  · exact evolves_closeRequest hsettled
  all_goals
    cases hsettled
    exact .of_eq rfl rfl

/-! ## Ends of Runs -/

theorem move_interruptedAction {a : ActionExecution} (h : a.status = .prepared ∨ a.status = .executing) (reason : String) :
    ActionMove s event a (Store.interruptedAction reason a) := by
  unfold Store.interruptedAction
  split
  · rename_i hdispatched
    exact .settled ⟨rfl, rfl, rfl, rfl, rfl⟩ rfl (.inl hdispatched.1) hdispatched.2 (.inr (.inr rfl))
  · rename_i hidle
    refine .closed ⟨rfl, rfl, rfl, rfl, rfl⟩ rfl (h.imp_right fun hexecuting => ⟨hexecuting, ?_⟩) rfl
    exact not_not.1 fun hne => hidle ⟨hexecuting, hne⟩

theorem move_cancelled {p : Approval} (h : p.status = .pending) (resolverId reason : String) :
    ApprovalMove s event p (Store.resolvedAs .cancelled resolverId reason p) :=
  .resolved rfl rfl h nofun nofun

theorem evolves_closeAbortiveRunEffects (agentRunId resolverId reason : String) :
    Evolves s event (s.closeAbortiveRunEffects agentRunId resolverId reason) := by
  constructor
  · refine .updateWhere (fun _ => .same rfl) _ _ _ (Store.interruptedAction_id reason) fun k a ha hguard => ?_
    simp only [Bool.and_eq_true, Bool.or_eq_true, beq_iff_eq] at hguard
    exact move_interruptedAction hguard.2 reason
  · refine .updateWhere (fun _ => .same rfl) _ _ (Store.resolvedAs .cancelled resolverId reason) (fun _ => rfl) fun k p hp hguard => ?_
    unfold Store.pendingApproval at hguard
    simp only [Bool.and_eq_true, beq_iff_eq] at hguard
    exact move_cancelled hguard.1 resolverId reason

theorem evolves_closeLostRequests (c : ReconcileRuntimeLossCommand) : Evolves s event (s.closeLostRequests c) := by
  constructor
  · refine .updateWhere (fun _ => .same rfl) _ _ _ (Store.interruptedAction_id "runtime_request_lost") fun k a ha hguard => ?_
    simp only [Bool.and_eq_true, Bool.or_eq_true, beq_iff_eq] at hguard
    exact move_interruptedAction (hguard.2.imp_right And.left) "runtime_request_lost"
  · refine .updateWhere (fun _ => .same rfl) _ _
      (Store.resolvedAs .cancelled "runtime-recovery-coordinator" "runtime_request_lost") (fun _ => rfl) fun k p hp hguard => ?_
    simp only [Bool.and_eq_true, beq_iff_eq] at hguard
    exact move_cancelled hguard.1 _ _

theorem evolves_settleInterruptedRun {agentRunId reason : String} {runtimeLost : Bool}
    (h : s.settleInterruptedRun agentRunId reason runtimeLost = .ok t) : Evolves s event t := by
  unfold Store.settleInterruptedRun at h
  simp only [bind_eq_ok, orError_eq_ok] at h
  obtain ⟨run, -, h⟩ := h
  split at h
  · cases h
    exact .of_eq rfl rfl
  · cases h
    exact (evolves_closeAbortiveRunEffects _ _ _).aside ⟨rfl, rfl⟩

theorem evolves_reconcileRuntimeLoss {c : ReconcileRuntimeLossCommand} (h : s.reconcileRuntimeLoss e c = .ok t) : Evolves s event t := by
  obtain ⟨run, -, -, h | h | ⟨hasUnknown, rfl⟩⟩ := reconcileRuntimeLoss_ok h
  · exact evolves_settleInterruptedRun h
  · unfold Store.failLostAgentRun at h
    simp only [bind_eq_ok, reject_eq_ok, exists_const] at h
    obtain ⟨-, h⟩ := h
    cases h
    exact (evolves_closeAbortiveRunEffects _ _ _).aside ⟨rfl, rfl⟩
  · exact (evolves_closeLostRequests c).aside ⟨rfl, rfl⟩

end

/-- **Every event moves actions and approvals** along these lines. -/
theorem evolves_happen (h : s.happen event = .ok t) : Evolves s event t := by
  cases event with
  | command e c =>
    cases c with
    | prepareAction c => exact evolves_prepareAction h
    | recordObservedAction c => exact evolves_recordObservedAction h
    | resolveApproval c => exact evolves_resolveApproval h
    | claimAction c => exact evolves_claimAction h
    | markDispatchStarted c => exact evolves_markDispatchStarted h
    | recordResult c => exact evolves_recordResult h
    | acquireRuntimeDelivery c =>
      obtain ⟨-, -, -, rfl⟩ := acquireRuntimeDelivery_ok h
      exact .of_eq rfl rfl
    | acknowledgeRuntimeDelivery c =>
      obtain ⟨-, run, -, -, -, rfl⟩ := acknowledgeRuntimeDelivery_ok h
      refine Evolves.aside ?_ (aside_resumeAgentRunIfUnblocked _ _)
      exact .of_eq rfl rfl
    | failRuntimeDelivery =>
      obtain ⟨-, -, -, rfl⟩ := failRuntimeDelivery_ok h
      exact .of_eq rfl rfl
    | confirmRuntimeRequestResolved c => exact evolves_confirmRuntimeRequestResolved h
    | reconcileRuntimeLoss c => exact evolves_reconcileRuntimeLoss h
  | requestCancel agentRunId =>
    cases h
    exact .of_eq rfl rfl
  | claimRun agentRunId =>
    cases h
    exact .of_eq rfl rfl
  | settleInterruptedRun => exact evolves_settleInterruptedRun h

theorem evolves_step (s : Store) (event : Event) : Evolves s event (s.step event) := by
  unfold Store.step
  cases h : s.happen event with
  | ok t => exact evolves_happen h
  | error e => exact .of_eq rfl rfl

end Rovai.Actions
