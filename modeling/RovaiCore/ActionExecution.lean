import RovaiCore.ActionCommands
/-!
# From the approval of an action to its result

An approval is resolved by its user, an action is claimed by the component of its control mode, the claim is marked before the
effect may start, and the result of the attempt settles it.
-/
namespace Rovai.Actions

open Tables (Table)
open Fallible (orError)

namespace Store

variable (s : Store)

/-! ## Approvals -/

def acceptsNewEffects (run : AgentRun) : Bool :=
  run.status.active && !run.cancelRequested

def resolvedAs (status : ApprovalStatus) (resolvedById resolutionCode : String) (p : Approval) : Approval :=
  { p with status := status, resolvedById := some resolvedById, resolutionCode := some resolutionCode, version := p.version + 1 }

def resolvedApproval (s : Store) (approvalId : String) (status : ApprovalStatus) (resolvedById resolutionCode : String) : Store :=
  { s with approvals := s.approvals.update approvalId (resolvedAs status resolvedById resolutionCode) }

def resolutionStatus (option : RuntimePermissionOption) : ApprovalStatus :=
  if option.kind = "cancel" then .cancelled else if option.allowsAction then .approved else .denied

def resolutionCode (option : RuntimePermissionOption) : String :=
  if option.kind = "cancel" then "user_cancelled" else if option.allowsAction then "user_selected_allow" else "user_selected_deny"

def decisionText : ApprovalStatus → String
  | .pending => "pending"
  | .approved => "approved"
  | .denied => "denied"
  | .cancelled => "cancelled"
  | .expired => "expired"

variable (e : Envelope)

def resolutionDelivery (run : AgentRun) (action : ActionExecution) (status : ApprovalStatus)
    (option : RuntimePermissionOption) : RuntimeDelivery :=
  newDelivery e.uuid run.id action.id .authorizationResolution (.resolution (decisionText status) option) run.executionEpoch e.now

def expireApproval (p : Approval) (action : ActionExecution) (run : AgentRun) : Except String Store := do
  let option ← orError (p.nativeOptions.find? (·.failClosed)) "Approval has no fail-closed Runtime option"
  let s ← (s.resolvedApproval p.id .expired "approval-expirer" "expired").setActionNotExecuted action.id action.version
    "approval_expired"
  if acceptsNewEffects run then s.createRuntimeDelivery (resolutionDelivery e run action .expired option) else .ok s

def answerApproval (userId : String) (p : Approval) (action : ActionExecution) (run : AgentRun)
    (option : RuntimePermissionOption) : Except String Store := do
  let s := s.resolvedApproval p.id (resolutionStatus option) userId (resolutionCode option)
  let s ← (if option.allowsAction then .ok s else s.setActionNotExecuted action.id action.version "approval_denied")
  if acceptsNewEffects run ∧ (action.controlMode = .intercepted ∨ option.allowsAction = false) then
    let s ← s.createRuntimeDelivery (resolutionDelivery e run action (resolutionStatus option) option)
    .ok (s.markAgentRunWaiting run.id .runtimeDelivery)
  else if option.allowsAction then .ok (s.markAgentRunWaiting run.id .actionExecution)
  else .ok s

def resolveApproval (c : ResolveActionApprovalCommand) : Except String Store :=
  match e.actor with
  | .user userId => do
    let p ← orError (s.approvals.find? c.approvalId) "approval.not_found"
    let action ← orError (s.actions.find? p.actionId) "approval.not_found"
    let run ← orError (s.runs.find? action.agentRunId) "approval.not_found"
    reject (e.campId ≠ some run.campId) "approval.camp_mismatch"
    reject (p.requestedForUserId ≠ userId) "approval.wrong_user"
    reject (p.status ≠ .pending) "approval.not_pending"
    reject (p.version ≠ c.expectedVersion) "approval.version_conflict"
    reject (action.status ≠ .prepared) "approval.action_not_prepared"
    reject (action.sourceAgentRunExecutionEpoch ≠ run.executionEpoch) "approval.runtime_request_fenced"
    let option ← orError (p.nativeOptions.find? (·.optionId == c.optionId)) "approval.option_not_found"
    reject (option.allowsAction ∧ acceptsNewEffects run = false) "approval.agent_run_effects_fenced"
    reject (run.permissionSemantics = .runtimeManagedV2 ∧ option.valid = false) "approval.option_invalid"
    if p.decisionExpiresAt.any (fun expiry => decide (expiry < e.now)) then s.expireApproval e p action run
    else s.answerApproval e userId p action run option
  | _ => .error "approval.user_required"

/-! ## Claims -/

def approvedCount (actionId : String) : Nat :=
  s.approvals.rows.countP (fun p => p.actionId == actionId && p.status == .approved)

def validComponent (actor : ActorRef) (mode : ControlMode) : Bool :=
  match mode with
  | .mediated => actor == .system "action-executor"
  | .intercepted => actor.isRuntimeAdapter
  | .observed => false

def authorizationLeased (actionId deliveryId leaseOwner : String) (executionEpoch : Int) : Bool :=
  (s.deliveries.find? deliveryId).any (fun d => d.actionId == actionId && d.deliveryKind == .authorizationResolution &&
    d.status == .delivering && d.targetExecutionEpoch == executionEpoch && d.leaseOwner == some leaseOwner)

variable (action : ActionExecution) (run : AgentRun) (c : ClaimActionCommand)

def authorizationOwned : Except String Unit :=
  if action.controlMode = .intercepted then do
    let deliveryId ← orError c.authorizationDeliveryId "action.authorization_delivery_required"
    let leaseOwner ← orError c.authorizationDeliveryLeaseOwner "action.authorization_delivery_required"
    reject (s.authorizationLeased action.id deliveryId leaseOwner run.executionEpoch = false) "action.authorization_delivery_not_owned"
  else reject (c.authorizationDeliveryId.isSome ∨ c.authorizationDeliveryLeaseOwner.isSome) "action.authorization_delivery_unexpected"

def claimedAttempt : ActionAttempt where
  id := e.uuid
  actionId := action.id
  attemptNumber := action.attemptCount + 1
  actionExecutionEpoch := action.version + 1
  leaseOwner := c.leaseOwner
  dispatchMayHaveStartedAt := none

def claimedAction (a : ActionExecution) : ActionExecution :=
  { a with
    status := .executing
    attemptCount := a.attemptCount + 1
    activeAttemptId := some e.uuid
    actionExecutionEpoch := a.version + 1
    agentRunExecutionEpochAtDispatch := some run.executionEpoch
    executionLeaseOwner := some c.leaseOwner
    version := a.version + 1 }

def claimAction : Except String Store := do
  reject (¬ (e.actor = .system "action-executor" ∨ e.actor.isRuntimeAdapter)) "action.executor_required"
  reject (isBlank c.leaseOwner ∨ c.leaseSeconds ≤ 0) "action.invalid_lease"
  let action ← orError (s.actions.find? c.actionId) "action.not_found"
  let run ← orError (s.runs.find? action.agentRunId) "action.not_found"
  reject (e.campId ≠ some run.campId) "action.camp_mismatch"
  reject (action.status ≠ .prepared ∨ action.version ≠ c.expectedVersion) "action.not_claimable"
  reject (run.status.active = false) "action.agent_run_terminal"
  reject (run.cancelRequested = true) "action.agent_run_effects_fenced"
  reject (action.executeBefore.any (fun expiry => decide (expiry < e.now)) = true) "action.expired"
  reject (action.policyDecision = .ask ∧ s.approvedCount c.actionId ≠ 1) "action.approval_required"
  reject (action.policyDecision ≠ .ask ∧ action.policyDecision ≠ .allow) "action.policy_denied"
  reject (validComponent e.actor action.controlMode = false) "action.control_mode_mismatch"
  s.authorizationOwned action run c
  let s ← s.insertAttempt (claimedAttempt e action c)
  .ok { s with actions := s.actions.update c.actionId (claimedAction e run c) }

def markDispatchStarted (c : MarkActionDispatchStartedCommand) : Except String Store := do
  reject (e.actor.isSystem = false) "action.system_required"
  let action ← orError (s.actions.find? c.actionId) "action.attempt_fenced"
  reject (action.activeAttemptId ≠ some c.attemptId ∨ action.actionExecutionEpoch ≠ c.actionExecutionEpoch ∨
    action.executionLeaseOwner ≠ some c.leaseOwner ∨ action.status ≠ .executing) "action.attempt_fenced"
  let run ← orError (s.runs.find? action.agentRunId) "action.attempt_fenced"
  reject (run.status.active = false ∨ some run.executionEpoch ≠ action.agentRunExecutionEpochAtDispatch ∨ run.cancelRequested = true)
    "action.attempt_fenced"
  .ok { s with
    actions := s.actions.update c.actionId fun a =>
      { a with dispatchMayHaveStartedAt := a.dispatchMayHaveStartedAt <|> some e.now, version := a.version + 1 }
    attempts := s.attempts.updateWhere (fun x => x.id == c.attemptId && x.actionId == c.actionId &&
      x.actionExecutionEpoch == c.actionExecutionEpoch) fun x =>
        { x with dispatchMayHaveStartedAt := x.dispatchMayHaveStartedAt <|> some e.now } }

/-! ## Results -/

def reconciler (actor : ActorRef) : Bool :=
  actor == .system "action-reconciler"

variable (c : RecordActionResultCommand)

def zcodeBackgroundResult : Bool :=
  e.actor == .system "runtime-adapter:zcode-app" && action.controlMode == .intercepted &&
    run.executionEpoch == action.sourceAgentRunExecutionEpoch && c.backgroundEnded

def validResultComponent (actor : ActorRef) (mode : ControlMode) : Bool :=
  match mode with
  | .mediated => actor == .system "action-executor" || reconciler actor
  | .intercepted => actor.isRuntimeAdapter || reconciler actor
  | .observed => false

def settledAction (a : ActionExecution) : ActionExecution :=
  { a with
    status := c.outcome.status
    unknownDisposition := c.outcome.unknownDisposition
    executionLeaseOwner := none
    version := a.version + 1 }

def resultDelivery : RuntimeDelivery :=
  newDelivery e.uuid run.id c.actionId .actionResult
    (.result c.outcome.status c.resultCode c.resultSummary c.effectDisposition) run.executionEpoch e.now

def recordResult : Except String Store := do
  reject (resultInvalid c.outcome c.resultCode c.resultSummary c.effectDisposition) "Action result is invalid"
  reject (e.actor.isSystem = false) "action.system_required"
  let action ← orError (s.actions.find? c.actionId) "action.not_found"
  let run ← orError (s.runs.find? action.agentRunId) "action.not_found"
  reject (e.campId ≠ some run.campId) "action.camp_mismatch"
  let reconcilingUnknown := action.status == .unknown && (zcodeBackgroundResult e action run c || reconciler e.actor)
  reject ((action.status ≠ .executing ∧ reconcilingUnknown = false) ∨ action.activeAttemptId ≠ some c.attemptId ∨
    action.actionExecutionEpoch ≠ c.actionExecutionEpoch) "action.attempt_fenced"
  reject (validResultComponent e.actor action.controlMode = false ∨ action.dispatchMayHaveStartedAt = none)
    "action.result_source_invalid"
  let s : Store := { s with actions := s.actions.update c.actionId (settledAction c) }
  if c.outcome = .unknown then .ok (s.markAgentRunWaiting run.id .unknownActionOutcome)
  else if action.controlMode = .mediated then
    let s ← s.createRuntimeDelivery (resultDelivery e run c)
    .ok (s.markAgentRunWaiting run.id .runtimeDelivery)
  else .ok (s.resumeAgentRunIfUnblocked run.id)

end Store
end Rovai.Actions
