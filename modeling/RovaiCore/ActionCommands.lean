import RovaiCore.ActionSafety
/-!
# The commands of the action service

Each command reads what it needs, rejects what does not fit, and changes the rows of one action and its Run.  A command that is
rejected, or whose statement fails, changes nothing.
-/
namespace Rovai.Actions

open Tables (Table)
open Fallible (orError)

/-! ## Requests -/

structure Envelope where
  actor : ActorRef
  campId : Option String
  executionEpoch : Option Int
  now : Int
  uuid : String

structure CanonicalActionInput where
  (actionKind digest : String)
  invalid : Option String

def CanonicalActionInput.observed (input : CanonicalActionInput) : Bool :=
  input.actionKind == "runtime_observed_unknown"

structure RuntimeActionRequestBinding where
  (nativeRequestId nativeThreadId digest : String)
  complete : Bool
  options : List RuntimePermissionOption

/-- `memberActive` and `scopeDenied` are what the membership and the files say at the time. -/
structure PrepareActionCommand where
  actionId : String
  input : CanonicalActionInput
  controlMode : ControlMode
  nativeActionId : Option String
  runtimeRequest : Option RuntimeActionRequestBinding
  executeBefore : Option Int
  requestedForUserId : String
  (memberActive scopeDenied : Bool)

inductive ActionResultOutcome where
  | succeeded | failed | unknown
  deriving DecidableEq

def ActionResultOutcome.status : ActionResultOutcome → ActionStatus
  | .succeeded => .succeeded
  | .failed => .failed
  | .unknown => .unknown

def ActionResultOutcome.unknownDisposition : ActionResultOutcome → Option UnknownDisposition
  | .unknown => some .active
  | .succeeded | .failed => none

structure RecordObservedActionCommand where
  (actionId nativeActionId : String)
  input : CanonicalActionInput
  outcome : ActionResultOutcome
  (resultCode resultSummary effectDisposition : String)
  memberActive : Bool

structure ResolveActionApprovalCommand where
  (approvalId optionId : String)
  expectedVersion : Int

structure ClaimActionCommand where
  actionId : String
  expectedVersion : Int
  leaseOwner : String
  leaseSeconds : Int
  (authorizationDeliveryId authorizationDeliveryLeaseOwner : Option String)

structure MarkActionDispatchStartedCommand where
  (actionId attemptId : String)
  actionExecutionEpoch : Int
  leaseOwner : String

/-- `backgroundEnded` tells whether the evidence log has the end of the background tool. -/
structure RecordActionResultCommand where
  (actionId attemptId : String)
  actionExecutionEpoch : Int
  outcome : ActionResultOutcome
  (resultCode resultSummary effectDisposition : String)
  backgroundEnded : Bool

structure AcquireRuntimeDeliveryCommand where
  deliveryId : String
  expectedVersion : Int
  leaseOwner : String
  leaseSeconds : Int

structure LeasedDeliveryCommand where
  deliveryId : String
  payload : DeliveryPayload
  targetExecutionEpoch : Int
  leaseOwner : String

/-- `actionId` is the action of the request, among those that match. -/
structure ConfirmRuntimeRequestResolvedCommand where
  agentRunId : String
  executionEpoch : Int
  (nativeThreadId nativeRequestId actionId : String)

/-- The Runtime that failed is that of the Run; its input may have been executed; the Run has published its end. -/
structure ReconcileRuntimeLossCommand where
  agentRunId : String
  (expectedVersion executionEpoch : Int)
  (failureMatches inputMayHaveExecuted hasFinalMessage : Bool)

def reject (p : Prop) [Decidable p] (code : String) : Except String Unit :=
  if p then .error code else .ok ()

theorem reject_eq_ok {p : Prop} [Decidable p] {code : String} {u : Unit} : reject p code = .ok u ↔ ¬ p := by
  unfold reject
  by_cases h : p <;> simp [h]

/-! ## Preparing -/

def PrepareActionCommand.invalid (c : PrepareActionCommand) : Bool :=
  isBlank c.actionId || isBlank c.requestedForUserId || (c.controlMode == .observed) != c.input.observed ||
    match c.controlMode with
    | .intercepted => !c.nativeActionId.any (fun id => !isBlank id) || !c.runtimeRequest.any (·.complete)
    | .mediated | .observed => c.runtimeRequest.isSome

def RuntimePermissionOption.valid (option : RuntimePermissionOption) : Bool :=
  !isBlank option.optionId && !isBlank option.label && !isBlank option.consequence &&
    ["allow_once", "allow_session", "deny", "cancel", "other"].contains option.kind && option.digestMatches

def RuntimePermissionOption.failClosed (option : RuntimePermissionOption) : Bool :=
  option.kind == "cancel" || option.kind == "deny"

def optionsRejected (options : List RuntimePermissionOption) : Option String :=
  if options = [] then some "action.native_options_missing"
  else if ¬ options.all (·.valid) then some "action.native_option_invalid"
  else if ¬ (options.map (·.optionId)).Nodup then some "action.native_option_conflict"
  else if ¬ options.any (·.failClosed) then some "action.native_deny_option_missing"
  else none

def evaluatePolicy (config : EffectiveConfig) (actionKind : String) : Except String PolicyDecision :=
  let effects := (config.rules.filter (fun rule => rule.actionKind == some actionKind || rule.actionKind == some "*")).map (·.effect)
  if effects.any (fun effect => effect != some "allow" && effect != some "ask" && effect != some "deny") then
    .error "Action permission rule has an invalid effect"
  else if effects.contains (some "deny") then .ok .deny
  else if effects.contains (some "ask") then .ok .ask
  else if effects.contains (some "allow") then .ok .allow
  else .ok .deny

def coreOptions : List RuntimePermissionOption :=
  [⟨"core.deny", "deny", "拒绝", "拒绝当前 Core 管理的领域动作。", true, false⟩,
    ⟨"core.allow_once", "allow_once", "允许一次", "仅批准当前 Core 管理的领域动作。", true, true⟩]

def preparedStatus : PolicyDecision → ActionStatus
  | .deny => .notExecuted
  | .observed => .unknown
  | .allow | .ask => .prepared

def preparedAction (run : AgentRun) (c : PrepareActionCommand) (decision : PolicyDecision) : ActionExecution where
  id := c.actionId
  agentRunId := run.id
  actionKind := c.input.actionKind
  actionDigest := c.input.digest
  nativeRequestDigest := c.runtimeRequest.map (·.digest)
  controlMode := c.controlMode
  nativeActionId := c.nativeActionId
  sourceAgentRunExecutionEpoch := run.executionEpoch
  nativeRequestId := c.runtimeRequest.map (·.nativeRequestId)
  nativeThreadId := c.runtimeRequest.map (·.nativeThreadId)
  executeBefore := c.executeBefore
  policyDecision := decision
  status := preparedStatus decision
  notExecutedReason := if decision = .deny then some "policy_denied" else none
  unknownDisposition := if decision = .observed then some .active else none
  attemptCount := 0
  activeAttemptId := none
  actionExecutionEpoch := 0
  agentRunExecutionEpochAtDispatch := none
  executionLeaseOwner := none
  dispatchMayHaveStartedAt := none
  version := 1

def preparedApproval (e : Envelope) (c : PrepareActionCommand) : Approval where
  id := e.uuid
  actionId := c.actionId
  requestedForUserId := c.requestedForUserId
  status := .pending
  decisionExpiresAt := c.executeBefore
  version := 1
  nativeOptions := match c.runtimeRequest with
    | some binding => binding.options
    | none => coreOptions
  resolvedById := none
  resolutionCode := none

def preparedWaitReason (decision : PolicyDecision) (mode : ControlMode) : Option WaitReason :=
  match decision with
  | .ask => some .approval
  | .deny => some .runtimeDelivery
  | .observed => some .unknownActionOutcome
  | .allow =>
    match mode with
    | .mediated => some .actionExecution
    | .intercepted => some .runtimeDelivery
    | .observed => none

def preparedDelivery (run : AgentRun) (e : Envelope) (c : PrepareActionCommand) (decision : PolicyDecision) : Option RuntimeDelivery :=
  match decision, c.controlMode with
  | .deny, .intercepted =>
    some (Store.newDelivery e.uuid run.id c.actionId .authorizationResolution (.policy "denied_by_policy") run.executionEpoch e.now)
  | .deny, _ => some (Store.newDelivery e.uuid run.id c.actionId .actionResult (.policy "policy_denied") run.executionEpoch e.now)
  | .allow, .intercepted =>
    some (Store.newDelivery e.uuid run.id c.actionId .authorizationResolution (.policy "approved_by_policy") run.executionEpoch e.now)
  | _, _ => none

namespace Store

variable (s : Store)

def agentActionContext (e : Envelope) (memberActive requireEffectAdmission : Bool) : Option AgentRun :=
  match e.actor, e.executionEpoch with
  | .agent agentId sourceAgentRunId, some executionEpoch =>
    (s.runs.find? sourceAgentRunId).filter fun r =>
      some r.campId == e.campId && r.agentId == agentId && r.executionEpoch == executionEpoch && r.status.active &&
        (!requireEffectAdmission || !r.cancelRequested) && memberActive
  | _, _ => none

variable (run : AgentRun)

def preparedDecision (c : PrepareActionCommand) : Except String PolicyDecision :=
  if c.controlMode = .observed then .ok .observed
  else if run.permissionSemantics = .runtimeManagedV2 ∧ c.controlMode = .intercepted then .ok .ask
  else evaluatePolicy run.effectiveConfig c.input.actionKind

def waitPrepared (agentRunId : String) : Option WaitReason → Store
  | some reason => s.markAgentRunWaiting agentRunId reason
  | none => s

def writePrepared (e : Envelope) (c : PrepareActionCommand) (decision : PolicyDecision) : Except String Store := do
  let s ← s.insertAction (preparedAction run c decision)
  let s ← (if decision = .ask then s.insertApproval (preparedApproval e c) else .ok s)
  let s := s.waitPrepared run.id (preparedWaitReason decision c.controlMode)
  match preparedDelivery run e c decision with
  | some d => s.createRuntimeDelivery d
  | none => .ok s

def prepareAction (e : Envelope) (c : PrepareActionCommand) : Except String Store := do
  reject (c.input.invalid.isSome) "Action input is invalid"
  reject (c.invalid) "Action command is invalid"
  reject (e.campId = none) "action.camp_required"
  let run ← orError (s.agentActionContext e c.memberActive (c.controlMode != .observed)) "action.stale_agent_run"
  let managed := run.permissionSemantics == .runtimeManagedV2 && c.controlMode == .intercepted
  reject (!managed && !run.effectiveConfig.capabilities.contains "action.request") "action.capability_denied"
  reject (run.permissionSemantics == .coreEnforcedV1 && c.scopeDenied) "action.workspace_scope_denied"
  reject (managed && (optionsRejected ((c.runtimeRequest.map (·.options)).getD [])).isSome) "action.native_options_rejected"
  match s.actions.find? c.actionId with
  | some existing =>
    reject (existing.actionKind ≠ c.input.actionKind ∨ existing.actionDigest ≠ c.input.digest ∨
      existing.nativeRequestDigest ≠ c.runtimeRequest.map (·.digest)) "action.action_id_conflict"
    .ok s
  | none =>
    let decision ← preparedDecision run c
    s.writePrepared run e c decision

/-! ## Observing -/

def resultInvalid (outcome : ActionResultOutcome) (resultCode resultSummary effectDisposition : String) : Bool :=
  isBlank resultCode || isBlank resultSummary || !(match outcome with
    | .succeeded => ["none", "complete", "partial"]
    | .failed => ["none", "partial", "unknown"]
    | .unknown => ["partial", "unknown"]).contains effectDisposition

def observedAction (c : RecordObservedActionCommand) : ActionExecution where
  id := c.actionId
  agentRunId := run.id
  actionKind := "runtime_observed_unknown"
  actionDigest := c.input.digest
  nativeRequestDigest := none
  controlMode := .observed
  nativeActionId := some c.nativeActionId
  sourceAgentRunExecutionEpoch := run.executionEpoch
  nativeRequestId := none
  nativeThreadId := none
  executeBefore := none
  policyDecision := .observed
  status := c.outcome.status
  notExecutedReason := none
  unknownDisposition := c.outcome.unknownDisposition
  attemptCount := 0
  activeAttemptId := none
  actionExecutionEpoch := 0
  agentRunExecutionEpochAtDispatch := none
  executionLeaseOwner := none
  dispatchMayHaveStartedAt := none
  version := 1

def recordObservedAction (e : Envelope) (c : RecordObservedActionCommand) : Except String Store := do
  reject (c.input.invalid.isSome) "Action input is invalid"
  reject (resultInvalid c.outcome c.resultCode c.resultSummary c.effectDisposition) "Action result is invalid"
  reject (e.campId = none) "action.camp_required"
  let run ← orError (s.agentActionContext e c.memberActive false) "action.stale_agent_run"
  reject (run.permissionSemantics == .coreEnforcedV1 && !run.effectiveConfig.capabilities.contains "action.request")
    "action.capability_denied"
  match s.actions.find? c.actionId with
  | some existing =>
    reject (existing.actionDigest ≠ c.input.digest) "action.action_id_conflict"
    .ok s
  | none =>
    let s ← s.insertAction (observedAction run c)
    .ok (if c.outcome = .unknown then s.markAgentRunWaiting run.id .unknownActionOutcome else s)

end Store
end Rovai.Actions
