import RovaiCore.Tables
import RovaiCore.Fallible
import RovaiCore.ReportedPath
/-!
# Actions, their approvals and their deliveries (`action.rs`)

An action of a Run is prepared, claimed for one attempt, marked as dispatched and given a result.
-/
namespace Rovai.Actions

open Tables (Table)
open Fallible (orError)

/-! ## Vocabulary -/

inductive ActorRef where
  | user (userId : String)
  | agent (agentId sourceAgentRunId : String)
  | system (componentId : String)
  deriving DecidableEq

def ActorRef.isRuntimeAdapter : ActorRef → Bool
  | .system componentId => "runtime-adapter:".isPrefixOf componentId
  | _ => false

def ActorRef.isSystem : ActorRef → Bool
  | .system _ => true
  | _ => false

def isBlank (text : String) : Bool :=
  text.toList.all isWhitespace

inductive RunStatus where
  | queued | running | waiting | succeeded | failed | cancelled
  deriving DecidableEq

def RunStatus.active : RunStatus → Bool
  | .running | .waiting => true
  | .queued | .succeeded | .failed | .cancelled => false

inductive WaitReason where
  | approval | actionExecution | runtimeDelivery | unknownActionOutcome | runtimeRecovery
  | other (reason : String)
  deriving DecidableEq

inductive PermissionSemantics where
  | coreEnforcedV1 | runtimeManagedV2
  deriving DecidableEq

structure PermissionRule where
  (actionKind effect : Option String)

structure EffectiveConfig where
  capabilities : List String
  rules : List PermissionRule

structure AgentRun where
  (id campId agentId : String)
  singleChat : Bool
  status : RunStatus
  waitReason : Option WaitReason
  (executionEpoch version : Int)
  (cancelRequested runtimeRecoveryRequired : Bool)
  permissionSemantics : PermissionSemantics
  effectiveConfig : EffectiveConfig

inductive ControlMode where
  | mediated | intercepted | observed
  deriving DecidableEq

inductive PolicyDecision where
  | allow | ask | deny | observed
  deriving DecidableEq

inductive ActionStatus where
  | prepared | executing | succeeded | failed | unknown | notExecuted
  deriving DecidableEq

inductive UnknownDisposition where
  | active | abandoned
  deriving DecidableEq

structure ActionExecution where
  (id agentRunId actionKind actionDigest : String)
  nativeRequestDigest : Option String
  controlMode : ControlMode
  nativeActionId : Option String
  sourceAgentRunExecutionEpoch : Int
  (nativeRequestId nativeThreadId : Option String)
  executeBefore : Option Int
  policyDecision : PolicyDecision
  status : ActionStatus
  notExecutedReason : Option String
  unknownDisposition : Option UnknownDisposition
  attemptCount : Nat
  activeAttemptId : Option String
  actionExecutionEpoch : Int
  agentRunExecutionEpochAtDispatch : Option Int
  executionLeaseOwner : Option String
  dispatchMayHaveStartedAt : Option Int
  version : Int

structure ActionAttempt where
  (id actionId : String)
  attemptNumber : Nat
  actionExecutionEpoch : Int
  leaseOwner : String
  dispatchMayHaveStartedAt : Option Int

/-- `digestMatches` tells whether the digest is that of the native response. -/
structure RuntimePermissionOption where
  (optionId kind label consequence : String)
  (digestMatches allowsAction : Bool)
  deriving DecidableEq

inductive ApprovalStatus where
  | pending | approved | denied | cancelled | expired
  deriving DecidableEq

structure Approval where
  (id actionId requestedForUserId : String)
  status : ApprovalStatus
  decisionExpiresAt : Option Int
  version : Int
  nativeOptions : List RuntimePermissionOption
  (resolvedById resolutionCode : Option String)

inductive DeliveryKind where
  | authorizationResolution | actionResult
  deriving DecidableEq

/-- A payload stands for its digest; what its action and its Run fix is left out. -/
inductive DeliveryPayload where
  | policy (decision : String)
  | resolution (decision : String) (option : RuntimePermissionOption)
  | result (outcome : ActionStatus) (resultCode resultSummary effectDisposition : String)
  deriving DecidableEq

inductive DeliveryStatus where
  | pending | delivering | acked | safelyClosed | failed
  deriving DecidableEq

def DeliveryStatus.unsettled : DeliveryStatus → Bool
  | .pending | .delivering | .failed => true
  | .acked | .safelyClosed => false

structure RuntimeDelivery where
  (id agentRunId actionId : String)
  deliveryKind : DeliveryKind
  payload : DeliveryPayload
  targetExecutionEpoch : Int
  status : DeliveryStatus
  availableAt : Int
  leaseOwner : Option String
  leaseExpiresAt : Option Int
  version : Int

structure Store where
  runs : Table AgentRun.id
  actions : Table ActionExecution.id
  attempts : Table ActionAttempt.id
  approvals : Table Approval.id
  deliveries : Table RuntimeDelivery.id

/-! ## What several commands do -/

namespace Store

variable (s : Store)

def setActionNotExecuted (actionId : String) (expectedVersion : Int) (reason : String) : Except String Store :=
  if (s.actions.find? actionId).any (fun a => a.status == .prepared && a.version == expectedVersion) then
    .ok { s with actions := s.actions.update actionId fun a =>
      { a with status := .notExecuted, notExecutedReason := some reason, version := a.version + 1 } }
  else .error "Action changed while resolving Approval"

variable (agentRunId : String)

def markAgentRunWaiting (reason : WaitReason) : Store :=
  { s with runs := s.runs.updateWhere (fun r => r.id == agentRunId && r.status.active) fun r =>
    { r with status := .waiting, waitReason := some reason, version := r.version + 1 } }

def pendingApproval (p : Approval) : Bool :=
  p.status == .pending && (s.actions.find? p.actionId).any (·.agentRunId == agentRunId)

def activeUnknown (a : ActionExecution) : Bool :=
  a.agentRunId == agentRunId && a.status == .unknown && a.unknownDisposition == some .active

def openDelivery (d : RuntimeDelivery) : Bool :=
  d.agentRunId == agentRunId && d.status.unsettled

def otherBlockers : Nat :=
  s.approvals.rows.countP (s.pendingApproval agentRunId) + s.actions.rows.countP (activeUnknown agentRunId) +
    s.deliveries.rows.countP (openDelivery agentRunId)

def resumable : Option WaitReason → Bool
  | some .approval | some .actionExecution | some .runtimeDelivery => true
  | _ => false

def resumeAgentRunIfUnblocked : Store :=
  if s.otherBlockers agentRunId = 0 then
    { s with runs := s.runs.updateWhere (fun r => r.id == agentRunId && r.status == .waiting && resumable r.waitReason) fun r =>
      { r with
        status := if r.runtimeRecoveryRequired then .waiting else .running
        waitReason := if r.runtimeRecoveryRequired then some .runtimeRecovery else none
        version := r.version + 1 } }
  else s

def newDelivery (id agentRunId actionId : String) (kind : DeliveryKind) (payload : DeliveryPayload) (targetExecutionEpoch now : Int) :
    RuntimeDelivery where
  id := id
  agentRunId := agentRunId
  actionId := actionId
  deliveryKind := kind
  payload := payload
  targetExecutionEpoch := targetExecutionEpoch
  status := .pending
  availableAt := now
  leaseOwner := none
  leaseExpiresAt := none
  version := 1

def createRuntimeDelivery (d : RuntimeDelivery) : Except String Store :=
  if s.deliveries.any (fun d' => d'.actionId == d.actionId && d'.deliveryKind == d.deliveryKind && d'.payload == d.payload) then .ok s
  else if (s.deliveries.find? d.id).isSome then .error "Query returned no rows"
  else .ok { s with deliveries := s.deliveries.insert d }

def insertAction (a : ActionExecution) : Except String Store :=
  if (s.actions.find? a.id).isSome then .error "UNIQUE constraint failed: action_execution.id"
  else if a.nativeActionId.isSome ∧ s.actions.any (fun a' => a'.agentRunId == a.agentRunId && a'.nativeActionId == a.nativeActionId) then
    .error "UNIQUE constraint failed: action_execution.agent_run_id, action_execution.native_action_id"
  else .ok { s with actions := s.actions.insert a }

def insertApproval (p : Approval) : Except String Store :=
  if (s.approvals.find? p.id).isSome then .error "UNIQUE constraint failed: approval.id"
  else .ok { s with approvals := s.approvals.insert p }

def insertAttempt (x : ActionAttempt) : Except String Store :=
  if (s.attempts.find? x.id).isSome ∨ s.attempts.any (fun x' => x'.actionId == x.actionId && x'.attemptNumber == x.attemptNumber) then
    .error "UNIQUE constraint failed: action_attempt"
  else .ok { s with attempts := s.attempts.insert x }

end Store
end Rovai.Actions
