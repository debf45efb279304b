import Mathlib.Data.String.Basic
import RovaiCore.Fallible
import RovaiCore.Tables
/-!
# The settlement of an interrupted Run (`runtime.rs`)

`settleInterruptedRun` ends a Run that is cut off, by a cancellation or by the loss of its Runtime.
-/
namespace Rovai.Interrupted

open Tables (Table)
open Fallible (orError)

/-! ## Rows -/

inductive RunStatus where
  | queued | running | waiting | succeeded | failed | cancelled
  deriving DecidableEq

def RunStatus.terminal : RunStatus → Bool
  | .succeeded | .failed | .cancelled => true
  | .queued | .running | .waiting => false

structure AgentRun where
  id : String
  (campId campTurnId : Option String)
  conversationId : String
  executionEpoch : Int
  status : RunStatus
  (waitReason waitDeadlineAt : Option String)
  runtimeRecoveryRequired : Bool
  (executionLeaseOwner executionLeaseExpiresAt cancelRequestedAt cancelReasonCode cancelAcknowledgedAt : Option String)
  (lastErrorCode lastErrorDetailsRef : Option String)
  manualRetryAllowed : Bool
  (terminalResolutionSource terminalReasonCode publicRuntimeFailure endedAt : Option String)
  updatedAt : String
  version : Int

structure CampTurn where
  (id campId : String)

inductive ActionStatus where
  | prepared | executing | succeeded | failed | unknown | notExecuted
  deriving DecidableEq

inductive UnknownDisposition where
  | active | abandoned
  deriving DecidableEq

inductive EffectDisposition where
  | none | complete | partly | unknown

structure ActionExecution where
  (id agentRunId : String)
  status : ActionStatus
  notExecutedReason : Option String
  unknownDisposition : Option UnknownDisposition
  effectDisposition : Option EffectDisposition
  (resolutionSource executionLeaseOwner executionLeaseExpiresAt dispatchMayHaveStartedAt lastErrorCode : Option String)
  (nextReconcileAt endedAt : Option String)
  updatedAt : String
  version : Int

inductive AttemptOutcome where
  | succeeded | failed | unknown | notDispatched
  deriving DecidableEq

structure ActionAttempt where
  (id actionId : String)
  outcome : Option AttemptOutcome
  endedAt : Option String

inductive ApprovalStatus where
  | pending | approved | declined | denied | cancelled | expired
  deriving DecidableEq

structure Approval where
  id : String
  actionId : Option String
  status : ApprovalStatus
  (decisionReason resolvedByType resolvedById resolutionCode resolvedAt : Option String)
  updatedAt : String
  version : Int

inductive CheckpointStatus where
  | pending | delivering | acked | safelyClosed | failed
  deriving DecidableEq

def CheckpointStatus.unsettled : CheckpointStatus → Bool
  | .pending | .delivering | .failed => true
  | .acked | .safelyClosed => false

structure RuntimeDeliveryCheckpoint where
  (id agentRunId : String)
  status : CheckpointStatus
  (safelyClosedAt leaseOwner leaseExpiresAt lastError : Option String)
  updatedAt : String
  version : Int

inductive InputKind where
  | start | steer
  deriving DecidableEq

inductive InputStatus where
  | prepared | accepted | deliveryUnknown | notAccepted
  deriving DecidableEq

structure RuntimeInputDelivery where
  (id agentRunId contextManifestId : String)
  inputKind : InputKind
  status : InputStatus
  (dispatchStartedAt resolvedAt lastError : Option String)
  updatedAt : String

structure ContextManifest where
  id : String
  sourceDeliveryId : Option String

inductive DeliveryMode where
  | start | steer
  deriving DecidableEq

inductive CampDeliveryStatus where
  | waiting | claimed | settled | failed | cancelled
  deriving DecidableEq

structure CampMessageDelivery where
  id : String
  claimedAgentRunId : Option String
  requestedMode : DeliveryMode
  status : CampDeliveryStatus
  targetExecutionEpoch : Option Int
  (claimedAt failureCode endedAt : Option String)
  updatedAt : String
  version : Int

inductive MessageDeliveryStatus where
  | pending | running | settled | failed | cancelled
  deriving DecidableEq

structure FailureDetail where
  (agentRunErrorCode terminalResolutionSource terminalReasonCode : Option String)

structure MessageDelivery where
  (id campId recipientAgentId : String)
  targetAgentRunId : Option String
  status : MessageDeliveryStatus
  (materialized phaseTerminal : Bool)
  (waitCondition activeDispatchAttemptId : Option String)
  manualInterventionRequired : Bool
  failureCode : Option String
  failureDetail : Option FailureDetail
  endedAt : Option String
  updatedAt : String
  version : Int

/-! ## The store -/

inductive ActorRef where
  | user (id : String)
  | agent (id sourceAgentRunId : String)
  | system (component : String)

structure AbortiveEffectClosure where
  (actionsMarkedUnknown actionsClosed approvalsCancelled deliveriesClosed preparedInputsClosed : Nat)

inductive DomainEventPayload where
  | cancelRequested (threadTurnId reasonCode : String)
  | runEnded (reasonCode resolutionSource : String) (acceptedInputPreserved externalEffectEvidencePreserved : Bool)
      (closure : AbortiveEffectClosure)
  | deliveryEnded (targetAgentRunId recipientAgentId : String) (status : MessageDeliveryStatus) (failureCode : Option String)
      (detail : FailureDetail)

structure DomainEvent where
  (eventType campId entityType entityId : String)
  actor : ActorRef
  executionEpoch : Int
  payload : DomainEventPayload

/-- `inputChanges` are the deliveries whose marker in the execution log was moved on. -/
structure Store where
  runs : Table AgentRun.id
  turns : Table CampTurn.id
  actions : Table ActionExecution.id
  attempts : Table ActionAttempt.id
  approvals : Table Approval.id
  checkpoints : Table RuntimeDeliveryCheckpoint.id
  inputs : Table RuntimeInputDelivery.id
  manifests : Table ContextManifest.id
  campDeliveries : Table CampMessageDelivery.id
  messageDeliveries : Table MessageDelivery.id
  inputChanges : List String
  events : List DomainEvent

/-! ## Closing what is open -/

structure AbortiveEffectClosureReason where
  (actionUnknownErrorCode actionNotExecutedReason approvalReason approvalResolverId runtimeDeliveryError : String)
  preparedInputError : String

def runtimeLoss : AbortiveEffectClosureReason where
  actionUnknownErrorCode := "runtime_lost_after_dispatch"
  actionNotExecutedReason := "runtime_request_lost"
  approvalReason := "runtime_request_lost"
  approvalResolverId := "runtime-recovery-coordinator"
  runtimeDeliveryError := "runtime_request_lost"
  preparedInputError := "runtime_request_lost"

def cancellation : AbortiveEffectClosureReason where
  actionUnknownErrorCode := "agent_run_cancelled_after_dispatch"
  actionNotExecutedReason := "agent_run_cancelled"
  approvalReason := "agent_run_cancelled"
  approvalResolverId := "cancellation-transaction"
  runtimeDeliveryError := "agent_run_cancelled"
  preparedInputError := "agent_run_cancelled"

namespace Store

variable (s : Store) (runId now : String) (reason : AbortiveEffectClosureReason) (a : ActionExecution)

def dispatchedAction : Bool :=
  a.agentRunId == runId && a.status == .executing && a.dispatchMayHaveStartedAt.isSome

def unknownAction : ActionExecution :=
  { a with
    status := .unknown, unknownDisposition := some .active, effectDisposition := some .unknown,
    resolutionSource := some "reconciler", executionLeaseOwner := none, executionLeaseExpiresAt := none,
    lastErrorCode := some reason.actionUnknownErrorCode, nextReconcileAt := some now, version := a.version + 1,
    updatedAt := now }

def lostAttempt (t : ActionAttempt) : Bool :=
  t.outcome == none && s.actions.any (fun a => a.id == t.actionId && a.agentRunId == runId && a.status == .unknown &&
    a.lastErrorCode == some reason.actionUnknownErrorCode)

def unknownAttempt (t : ActionAttempt) : ActionAttempt :=
  { t with outcome := some .unknown, endedAt := t.endedAt.or (some now) }

def undispatchedAction : Bool :=
  a.agentRunId == runId && (a.status == .prepared || a.status == .executing && a.dispatchMayHaveStartedAt.isNone)

def notExecutedAction : ActionExecution :=
  { a with
    status := .notExecuted, notExecutedReason := some reason.actionNotExecutedReason, effectDisposition := some .none,
    endedAt := some now, executionLeaseOwner := none, executionLeaseExpiresAt := none, version := a.version + 1,
    updatedAt := now }

def pendingApproval (p : Approval) : Bool :=
  p.status == .pending && p.actionId.any (fun actionId => s.actions.any (fun a => a.id == actionId && a.agentRunId == runId))

def cancelledApproval (p : Approval) : Approval :=
  { p with
    status := .cancelled, decisionReason := some reason.approvalReason, resolvedByType := some "system",
    resolvedById := some reason.approvalResolverId, resolutionCode := some reason.approvalReason, version := p.version + 1,
    resolvedAt := some now, updatedAt := now }

def openCheckpoint (d : RuntimeDeliveryCheckpoint) : Bool :=
  d.agentRunId == runId && d.status.unsettled

def closedCheckpoint (d : RuntimeDeliveryCheckpoint) : RuntimeDeliveryCheckpoint :=
  { d with
    status := .safelyClosed, safelyClosedAt := some now, leaseOwner := none, leaseExpiresAt := none,
    lastError := some reason.runtimeDeliveryError, version := d.version + 1, updatedAt := now }

variable (i : RuntimeInputDelivery)

def preparedInput : Bool :=
  i.agentRunId == runId && i.status == .prepared

def closedInput : RuntimeInputDelivery :=
  { i with
    status := if i.dispatchStartedAt.isNone then .notAccepted else .deliveryUnknown,
    resolvedAt := if i.dispatchStartedAt.isNone then some now else none,
    lastError := some reason.preparedInputError, updatedAt := now }

/-! The statements of `close_abortive_run_effects`, in their order. -/

def markActionsUnknown : Store :=
  { s with actions := s.actions.updateWhere (dispatchedAction runId) (unknownAction now reason) (fun _ => rfl) }

def loseAttempts : Store :=
  { s with attempts := s.attempts.updateWhere (s.lostAttempt runId reason) (unknownAttempt now) (fun _ => rfl) }

def closeActions : Store :=
  { s with actions := s.actions.updateWhere (undispatchedAction runId) (notExecutedAction now reason) (fun _ => rfl) }

def cancelApprovals : Store :=
  { s with approvals := s.approvals.updateWhere (s.pendingApproval runId) (cancelledApproval now reason) (fun _ => rfl) }

def closeCheckpoints : Store :=
  { s with checkpoints := s.checkpoints.updateWhere (openCheckpoint runId) (closedCheckpoint now reason) (fun _ => rfl) }

def closeInputs : Store :=
  { s with inputs := s.inputs.updateWhere (preparedInput runId) (closedInput now reason) (fun _ => rfl) }

def closeAbortiveRunEffects : Store × AbortiveEffectClosure :=
  let marked := s.markActionsUnknown runId now reason
  let lost := marked.loseAttempts runId now reason
  let closed := lost.closeActions runId now reason
  let cancelled := closed.cancelApprovals runId now reason
  let settled := cancelled.closeCheckpoints runId now reason
  (settled.closeInputs runId now reason,
    { actionsMarkedUnknown := s.actions.rows.countP (dispatchedAction runId)
      actionsClosed := lost.actions.rows.countP (undispatchedAction runId)
      approvalsCancelled := closed.approvals.rows.countP (closed.pendingApproval runId)
      deliveriesClosed := cancelled.checkpoints.rows.countP (openCheckpoint runId)
      preparedInputsClosed := settled.inputs.rows.countP (preparedInput runId) })

/-! ## The deliveries of a Run -/

variable (status : RunStatus)

def deliveryTerminalSemantics (terminalReasonCode : Option String) :
    Except String (MessageDeliveryStatus × Option String × Bool) :=
  match status with
  | .succeeded => .ok (.settled, none, false)
  | .failed => .ok (.failed, some "target_agent_run_failed", true)
  | .cancelled =>
    if terminalReasonCode = some "planned_shutdown_cancelled" then
      .ok (.cancelled, some "target_agent_run_planned_shutdown_cancelled", false)
    else .ok (.cancelled, some "target_agent_run_cancelled", false)
  | _ => .error "non-terminal AgentRun cannot settle a Message Delivery"

def materializedDelivery (d : MessageDelivery) : Bool :=
  d.targetAgentRunId == some runId && d.status == .running && d.materialized

def MessageDeliveryStatus.eventType : MessageDeliveryStatus → String
  | .pending => "message_delivery.pending"
  | .running => "message_delivery.running"
  | .settled => "message_delivery.settled"
  | .failed => "message_delivery.failed"
  | .cancelled => "message_delivery.cancelled"

def endedDelivery (deliveryStatus : MessageDeliveryStatus) (failureCode errorCode : Option String)
    (manualInterventionRequired : Bool) (d : MessageDelivery) : MessageDelivery :=
  { d with
    status := deliveryStatus, materialized := false, phaseTerminal := true, waitCondition := none,
    activeDispatchAttemptId := none, manualInterventionRequired := manualInterventionRequired, failureCode := failureCode,
    failureDetail := if deliveryStatus ≠ .settled ∧ errorCode.isSome then some ⟨errorCode, none, none⟩ else none,
    version := d.version + 1, updatedAt := now, endedAt := some now }

def chosenDelivery (d r : MessageDelivery) : Bool :=
  r.id == d.id && materializedDelivery runId r

def deliveryEndedEvent (d : MessageDelivery) (deliveryStatus : MessageDeliveryStatus) (failureCode errorCode : Option String)
    (actor : ActorRef) (executionEpoch : Int) : DomainEvent where
  eventType := MessageDeliveryStatus.eventType deliveryStatus
  campId := d.campId
  entityType := "message_delivery"
  entityId := d.id
  actor := actor
  executionEpoch := executionEpoch
  payload := .deliveryEnded runId d.recipientAgentId deliveryStatus failureCode ⟨errorCode, none, none⟩

def settleMaterializedDelivery (errorCode : Option String) (actor : ActorRef) (executionEpoch : Int) :
    Except String Store :=
  match s.messageDeliveries.rows.find? (materializedDelivery runId) with
  | none => .ok s
  | some d => do
    let (deliveryStatus, failureCode, manual) ← deliveryTerminalSemantics status none
    if s.messageDeliveries.rows.countP (chosenDelivery runId d) = 1 then
      .ok { s with
        messageDeliveries := s.messageDeliveries.updateWhere (chosenDelivery runId d)
          (endedDelivery now deliveryStatus failureCode errorCode manual) (fun _ => rfl)
        events := s.events ++ [deliveryEndedEvent runId d deliveryStatus failureCode errorCode actor executionEpoch] }
    else .error "Message Delivery changed before AgentRun terminal settlement"

def steerInputs (deliveryId : String) : List RuntimeInputDelivery :=
  s.inputs.rows.filter (fun i => i.inputKind == .steer &&
    s.manifests.any (fun m => m.id == i.contextManifestId && m.sourceDeliveryId == some deliveryId))

def sourceInput (deliveryId : String) (p : InputStatus → Bool) : Bool :=
  s.inputs.any (fun i => p i.status &&
    s.manifests.any (fun m => m.id == i.contextManifestId && m.sourceDeliveryId == some deliveryId))

def claimedSteer (d : CampMessageDelivery) : Bool :=
  d.claimedAgentRunId == some runId && d.requestedMode == .steer && d.status == .claimed

def changedSources : List String :=
  ((s.campDeliveries.rows.filter (claimedSteer runId)).filter (fun d => (s.steerInputs d.id).isEmpty ||
    (s.steerInputs d.id).any (fun i => i.status == .prepared || status == .succeeded && i.status == .notAccepted))).map
      CampMessageDelivery.id

def refusedInput : RuntimeInputDelivery :=
  { i with status := .notAccepted, resolvedAt := some now, updatedAt := now }

def refuseUnsentSteer : Store :=
  { s with
    inputs := s.inputs.updateWhere
      (fun i => i.agentRunId == runId && i.inputKind == .steer && i.status == .prepared && i.dispatchStartedAt.isNone)
      (refusedInput now) (fun _ => rfl) }

def returnUnsentSteer : Store :=
  { s with
    campDeliveries := s.campDeliveries.updateWhere
      (fun d => claimedSteer runId d &&
        !s.sourceInput d.id (fun status => status == .prepared || status == .accepted || status == .deliveryUnknown))
      (fun d =>
        { d with
          requestedMode := .start, status := .waiting, claimedAgentRunId := none, targetExecutionEpoch := none,
          claimedAt := none, endedAt := none, updatedAt := now, version := d.version + 1 }) (fun _ => rfl) }

def lostInput : RuntimeInputDelivery :=
  { i with status := .deliveryUnknown, updatedAt := now }

def loseSentSteer : Store :=
  { s with
    inputs := s.inputs.updateWhere
      (fun i => i.agentRunId == runId && i.inputKind == .steer && i.status == .prepared && i.dispatchStartedAt.isSome)
      (lostInput now) (fun _ => rfl) }

def failUnknownSteer : Store :=
  { s with
    campDeliveries := s.campDeliveries.updateWhere
      (fun d => claimedSteer runId d && s.sourceInput d.id (fun status => status == .deliveryUnknown))
      (fun d =>
        { d with
          status := .failed, failureCode := some "input_delivery_unknown", endedAt := some now, updatedAt := now,
          version := d.version + 1 }) (fun _ => rfl) }

def settleExecution : Store :=
  let refused := s.refuseUnsentSteer runId now
  let returned := if status = .succeeded then refused.returnUnsentSteer runId now else refused
  let failed := (returned.loseSentSteer runId now).failUnknownSteer runId now
  { failed with inputChanges := failed.inputChanges ++ s.changedSources runId status }

def campDeliveryStatus : RunStatus → Option CampDeliveryStatus
  | .succeeded => some .settled
  | .cancelled => some .cancelled
  | .failed => some .failed
  | _ => none

def settleRunDeliveries (failureCode : Option String) : Store :=
  match campDeliveryStatus status with
  | none => s
  | some deliveryStatus =>
    let settled := s.settleExecution runId now status
    { settled with
      campDeliveries := settled.campDeliveries.updateWhere (fun d => d.claimedAgentRunId == some runId && d.status == .claimed)
        (fun d =>
          { d with
            status := deliveryStatus, failureCode := failureCode, endedAt := some now, version := d.version + 1,
            updatedAt := now }) (fun _ => rfl) }

def settleDeliveries (campTurnId : Option String) (status : RunStatus) (errorCode : Option String) (actor : ActorRef)
    (executionEpoch : Int) : Except String Store := do
  let settled ← s.settleMaterializedDelivery runId now status errorCode actor executionEpoch
  .ok (if campTurnId = none then settled.settleRunDeliveries runId now status errorCode else settled)

end Store

/-! ## The settlement -/

structure AbortiveRunSettlement where
  (agentRunId campId campTurnId conversationId : String)
  executionEpoch : Int
  terminalStatus : RunStatus
  terminalCode : String
  (runtimeCleanupRequired externalEffectEvidencePreserved : Bool)

namespace Store

variable (s : Store) (run : AgentRun)

def campOf : Option String :=
  run.campId.or ((run.campTurnId.bind s.turns.find?).map CampTurn.campId)

variable (runId : String)

def acceptedInputPreserved : Bool :=
  s.inputs.any (fun i => i.agentRunId == runId && (i.status == .accepted || i.status == .deliveryUnknown ||
    i.status == .prepared && i.dispatchStartedAt.isSome))

def actionEffectEvidence : Bool :=
  s.actions.any (fun a => a.agentRunId == runId && (a.status == .executing && a.dispatchMayHaveStartedAt.isSome ||
    a.status == .unknown && a.unknownDisposition == some .active))

def runtimeDeliveryEvidence : Bool :=
  s.checkpoints.any (fun d => d.agentRunId == runId && d.status == .delivering)

def effectEvidence : Bool :=
  s.acceptedInputPreserved runId || s.actionEffectEvidence runId || s.runtimeDeliveryEvidence runId

def endedRun (lost : Bool) (reasonCode now : String) (cleanupRequired : Bool) (run : AgentRun) : AgentRun :=
  { run with
    status := if lost then .failed else .cancelled, waitReason := none, waitDeadlineAt := none,
    runtimeRecoveryRequired := false, executionLeaseOwner := none, executionLeaseExpiresAt := none,
    cancelRequestedAt := run.cancelRequestedAt.or (some now), cancelReasonCode := some reasonCode,
    cancelAcknowledgedAt := run.cancelAcknowledgedAt.or (if cleanupRequired then none else some now),
    lastErrorCode := if lost then some reasonCode else none, lastErrorDetailsRef := none, manualRetryAllowed := false,
    terminalResolutionSource := none, terminalReasonCode := none, publicRuntimeFailure := none, endedAt := some now,
    updatedAt := now, version := run.version + 1 }

def endRun (lost : Bool) (reasonCode now : String) (cleanupRequired : Bool) : Store :=
  { s with
    runs := s.runs.updateWhere (fun run => run.id == runId && !run.status.terminal)
      (endedRun lost reasonCode now cleanupRequired) (fun _ => rfl) }

def endEvents (campId : String) (lost : Bool) (reasonCode : String) (actor : ActorRef)
    (closure : AbortiveEffectClosure) : List DomainEvent :=
  (if run.cancelRequestedAt = none then
    [{ eventType := "agent_run.cancel_requested", campId, entityType := "agent_run", entityId := run.id, actor,
       executionEpoch := run.executionEpoch, payload := .cancelRequested (run.campTurnId.getD "") reasonCode }] else []) ++
  [{ eventType := if lost then "agent_run.failed" else "agent_run.cancelled", campId, entityType := "agent_run",
     entityId := run.id, actor, executionEpoch := run.executionEpoch,
     payload := .runEnded reasonCode (if lost then "runtime_loss" else "cancellation_transaction")
       (s.acceptedInputPreserved run.id) (s.effectEvidence run.id) closure }]

def interruptedLost (runtimeLost : Bool) : Bool := runtimeLost && run.cancelRequestedAt.isNone

def cleanupNeeded : Bool := decide (run.status ≠ .queued) || s.effectEvidence run.id

def closingReason (lost : Bool) : AbortiveEffectClosureReason := if lost then runtimeLoss else cancellation

def cutOff (campId : String) (lost : Bool) (reasonCode : String) (actor : ActorRef) (now : String) : Store :=
  let (closed, closure) := s.closeAbortiveRunEffects run.id now (closingReason lost)
  let ended := closed.endRun run.id lost reasonCode now (s.cleanupNeeded run)
  { ended with events := ended.events ++ s.endEvents run campId lost reasonCode actor closure }

def settleInterruptedRun (runId reasonCode : String) (actor : ActorRef) (now : String) (runtimeLost : Bool) :
    Except String (Store × AbortiveRunSettlement) := do
  let run ← orError (s.runs.find? runId) "Query returned no rows"
  let campId ← orError (s.campOf run) "Invalid column type Null"
  if run.status.terminal then do
    let settled ← s.settleDeliveries runId now run.campTurnId run.status run.lastErrorCode actor run.executionEpoch
    .ok (settled,
      { agentRunId := runId, campId, campTurnId := run.campTurnId.getD "", conversationId := run.conversationId,
        executionEpoch := run.executionEpoch, terminalStatus := run.status, terminalCode := "agent_run.already_terminal",
        runtimeCleanupRequired := run.cancelRequestedAt.isSome && run.cancelAcknowledgedAt.isNone,
        externalEffectEvidencePreserved := false })
  else do
    -- a reason that was recorded first is kept
    let reasonCode := run.cancelReasonCode.getD reasonCode
    let lost := interruptedLost run runtimeLost
    let status : RunStatus := if lost then .failed else .cancelled
    let settled ← (s.cutOff run campId lost reasonCode actor now).settleDeliveries runId now run.campTurnId status
      (some reasonCode) actor run.executionEpoch
    .ok (settled,
      { agentRunId := runId, campId, campTurnId := run.campTurnId.getD "", conversationId := run.conversationId,
        executionEpoch := run.executionEpoch, terminalStatus := status,
        terminalCode := if lost then "agent_run.failed" else "agent_run.cancelled",
        runtimeCleanupRequired := s.cleanupNeeded run, externalEffectEvidencePreserved := s.effectEvidence runId })

end Store

end Rovai.Interrupted
