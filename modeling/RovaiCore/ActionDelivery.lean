import RovaiCore.ActionExecution
/-!
# Deliveries to a Runtime, and the loss of one

A delivery is leased, acknowledged or failed by an adapter.
-/
namespace Rovai.Actions

open Tables (Table)
open Fallible (orError)

namespace Store

variable (s : Store)

/-! ## Leases -/

variable (e : Envelope)

def acquireRuntimeDelivery (c : AcquireRuntimeDeliveryCommand) : Except String Store := do
  reject (e.actor.isRuntimeAdapter = false) "runtime_delivery.adapter_required"
  reject (isBlank c.leaseOwner ∨ c.leaseSeconds ≤ 0) "runtime_delivery.invalid_lease"
  let d ← orError (s.deliveries.find? c.deliveryId) "runtime_delivery.not_found"
  let run ← orError (s.runs.find? d.agentRunId) "runtime_delivery.not_found"
  reject (e.campId ≠ some run.campId ∨ d.version ≠ c.expectedVersion) "runtime_delivery.version_or_scope_conflict"
  let leaseExpired := d.leaseExpiresAt.any (fun expiry => decide (expiry ≤ e.now))
  reject (¬ (d.status = .pending ∨ d.status = .delivering ∧ leaseExpired) ∨ ¬ d.availableAt ≤ e.now) "runtime_delivery.not_claimable"
  reject (run.status.active = false ∨ run.executionEpoch ≠ d.targetExecutionEpoch ∨ run.cancelRequested) "runtime_delivery.target_fenced"
  .ok { s with deliveries := s.deliveries.update c.deliveryId fun d =>
    { d with status := .delivering, leaseOwner := some c.leaseOwner, leaseExpiresAt := some (e.now + c.leaseSeconds)
             version := d.version + 1 } }

def closedDelivery (status : DeliveryStatus) (d : RuntimeDelivery) : RuntimeDelivery :=
  { d with status := status, leaseOwner := none, leaseExpiresAt := none, version := d.version + 1 }

def acknowledgeRuntimeDelivery (c : LeasedDeliveryCommand) : Except String Store := do
  reject (e.actor.isRuntimeAdapter = false) "runtime_delivery.adapter_required"
  let d ← orError (s.deliveries.find? c.deliveryId) "runtime_delivery.not_found"
  let run ← orError (s.runs.find? d.agentRunId) "runtime_delivery.not_found"
  reject (e.campId ≠ some run.campId ∨ d.status ≠ .delivering ∨ d.payload ≠ c.payload ∨
    d.targetExecutionEpoch ≠ c.targetExecutionEpoch ∨ d.leaseOwner ≠ some c.leaseOwner ∨
    run.executionEpoch ≠ d.targetExecutionEpoch ∨ run.status.active = false) "runtime_delivery.ack_fenced"
  let acked : Store := { s with deliveries := s.deliveries.update c.deliveryId (closedDelivery .acked) }
  .ok (acked.resumeAgentRunIfUnblocked run.id)

def failRuntimeDelivery (c : LeasedDeliveryCommand) (error : String) : Except String Store := do
  reject (e.actor.isRuntimeAdapter = false) "runtime_delivery.adapter_required"
  reject (isBlank error) "runtime_delivery.error_required"
  let d ← orError (s.deliveries.find? c.deliveryId) "runtime_delivery.not_found"
  let run ← orError (s.runs.find? d.agentRunId) "runtime_delivery.not_found"
  reject (e.campId ≠ some run.campId ∨ run.executionEpoch ≠ c.targetExecutionEpoch) "runtime_delivery.failure_fenced"
  reject (d.status ≠ .delivering ∨ d.payload ≠ c.payload ∨ d.targetExecutionEpoch ≠ c.targetExecutionEpoch ∨
    d.leaseOwner ≠ some c.leaseOwner) "runtime_delivery.failure_race_lost"
  .ok { s with deliveries := s.deliveries.update c.deliveryId (closedDelivery .failed) }

/-! ## Requests that the Runtime resolved -/

def requestMatches (c : ConfirmRuntimeRequestResolvedCommand) (a : ActionExecution) : Bool :=
  a.agentRunId == c.agentRunId && a.controlMode == .intercepted && a.sourceAgentRunExecutionEpoch == c.executionEpoch &&
    a.nativeRequestId == some c.nativeRequestId

def authorizationOf (actionId : String) : Option RuntimeDelivery :=
  s.deliveries.rows.find? (fun d => d.actionId == actionId && d.deliveryKind == .authorizationResolution)

def approvalOf (actionId : String) : Option Approval :=
  s.approvals.rows.find? (fun p => p.actionId == actionId)

def closeDelivery : Option RuntimeDelivery → Store
  | some d => { s with deliveries := s.deliveries.update d.id (closedDelivery .safelyClosed) }
  | none => s

def closeRequest (componentId : String) (action : ActionExecution) (delivery : Option RuntimeDelivery) : Except String Store := do
  let s := s.closeDelivery delivery
  let s ← (if action.status = .prepared then s.setActionNotExecuted action.id action.version "runtime_request_resolved" else .ok s)
  match s.approvalOf action.id with
  | some p =>
    .ok (if p.status = .pending then s.resolvedApproval p.id .cancelled componentId "native_request_resolved" else s)
  | none => .ok s

def settleRequest (componentId : String) (action : ActionExecution) : Except String Store :=
  match s.authorizationOf action.id with
  | none => s.closeRequest componentId action none
  | some d =>
    match d.status with
    | .pending => s.closeRequest componentId action (some d)
    | .delivering => .ok { s with deliveries := s.deliveries.update d.id (closedDelivery .acked) }
    | .failed => .ok { s with deliveries := s.deliveries.update d.id (closedDelivery .safelyClosed) }
    | .acked | .safelyClosed => .ok s

def componentId : ActorRef → String
  | .system componentId => componentId
  | _ => ""

def confirmRuntimeRequestResolved (c : ConfirmRuntimeRequestResolvedCommand) : Except String Store := do
  reject (e.actor.isRuntimeAdapter = false) "runtime_request.adapter_required"
  let action ← orError ((s.actions.find? c.actionId).filter (requestMatches c)) "runtime_request.not_found"
  let run ← orError (s.runs.find? action.agentRunId) "runtime_request.not_found"
  reject (e.campId.any (· != run.campId) ∨ action.nativeThreadId ≠ some c.nativeThreadId ∨ run.executionEpoch ≠ c.executionEpoch ∨
    run.status.active = false) "runtime_request.resolution_fenced"
  let settled ← s.settleRequest (componentId e.actor) action
  .ok (settled.resumeAgentRunIfUnblocked run.id)

/-! ## Lost Runtimes -/

def lostAction (a : ActionExecution) : ActionExecution :=
  { a with status := .unknown, unknownDisposition := some .active, executionLeaseOwner := none, version := a.version + 1 }

variable (reason : String) (a : ActionExecution)

def closedAction : ActionExecution :=
  { a with status := .notExecuted, notExecutedReason := some reason, executionLeaseOwner := none, version := a.version + 1 }

def interruptedAction : ActionExecution :=
  if a.status = .executing ∧ a.dispatchMayHaveStartedAt ≠ none then lostAction a else closedAction reason a

theorem interruptedAction_id : (interruptedAction reason a).id = a.id := by
  unfold interruptedAction
  split <;> rfl

def closeAbortiveRunEffects (agentRunId resolverId reason : String) : Store :=
  { s with
    actions := s.actions.updateWhere (fun a => a.agentRunId == agentRunId && (a.status == .prepared || a.status == .executing))
      (interruptedAction reason) (interruptedAction_id reason)
    approvals := s.approvals.updateWhere (s.pendingApproval agentRunId) (resolvedAs .cancelled resolverId reason)
    deliveries := s.deliveries.updateWhere (openDelivery agentRunId) (closedDelivery .safelyClosed) }

def endedRun (status : RunStatus) (cancelled : Bool) (r : AgentRun) : AgentRun :=
  { r with status := status, waitReason := none, runtimeRecoveryRequired := false, cancelRequested := r.cancelRequested || cancelled
           version := r.version + 1 }

def settleInterruptedRun (agentRunId reason : String) (runtimeLost : Bool) : Except String Store := do
  let run ← orError (s.runs.find? agentRunId) "agent_run.not_found"
  if run.status = .succeeded ∨ run.status = .failed ∨ run.status = .cancelled then .ok s
  else
    let lost := runtimeLost && !run.cancelRequested
    let closed := s.closeAbortiveRunEffects agentRunId (if lost then "runtime-recovery-coordinator" else "cancellation-transaction")
      (if lost then "runtime_request_lost" else reason)
    .ok { closed with runs := closed.runs.update agentRunId (endedRun (if lost then .failed else .cancelled) true) }

variable (c : ReconcileRuntimeLossCommand)

def failLostAgentRun (run : AgentRun) : Except String Store := do
  reject (run.cancelRequested = true ∨ c.hasFinalMessage = true) "runtime_loss.fenced"
  let closed := s.closeAbortiveRunEffects run.id "runtime-recovery-coordinator" "runtime_request_lost"
  .ok { closed with runs := closed.runs.update run.id (endedRun .failed false) }

def ofLostRuntime (a : ActionExecution) : Bool :=
  a.agentRunId == c.agentRunId && a.sourceAgentRunExecutionEpoch == c.executionEpoch && a.controlMode == .intercepted

def closeLostRequests : Store :=
  { s with
    actions := s.actions.updateWhere
      (fun a => ofLostRuntime c a && (a.status == .prepared || a.status == .executing && a.dispatchMayHaveStartedAt.isSome))
      (interruptedAction "runtime_request_lost") (interruptedAction_id "runtime_request_lost")
    approvals := s.approvals.updateWhere
      (fun p => p.status == .pending && (s.actions.find? p.actionId).any (ofLostRuntime c))
      (resolvedAs .cancelled "runtime-recovery-coordinator" "runtime_request_lost")
    deliveries := s.deliveries.updateWhere
      (fun d => openDelivery c.agentRunId d && d.targetExecutionEpoch == c.executionEpoch &&
        d.deliveryKind == .authorizationResolution)
      (closedDelivery .safelyClosed) }

def recoveringRun (hasUnknown : Bool) (r : AgentRun) : AgentRun :=
  { r with
    status := .waiting
    waitReason :=
      if hasUnknown then some .unknownActionOutcome
      else if r.status = .running ∨ resumable r.waitReason then some .runtimeRecovery
      else r.waitReason
    runtimeRecoveryRequired := true
    version := r.version + 1 }

def reconcileRuntimeLoss (c : ReconcileRuntimeLossCommand) : Except String Store := do
  reject (e.actor ≠ .system "runtime-recovery-coordinator") "runtime_loss.coordinator_required"
  let run ← orError (s.runs.find? c.agentRunId) "agent_run.not_found"
  reject (e.campId ≠ some run.campId ∨ run.version ≠ c.expectedVersion ∨ run.executionEpoch ≠ c.executionEpoch ∨
    run.status.active = false) "runtime_loss.fenced"
  reject (c.failureMatches = false) "Runtime loss failure must match the active Runtime"
  if run.singleChat then s.settleInterruptedRun c.agentRunId "runtime_connection_lost" false
  else if c.inputMayHaveExecuted then s.failLostAgentRun c run
  else
    let closed := s.closeLostRequests c
    let hasUnknown := closed.actions.any (activeUnknown c.agentRunId)
    .ok { closed with runs := closed.runs.update c.agentRunId (recoveringRun hasUnknown) }

/-! ## The Run around its actions -/

def requestCancel (agentRunId : String) : Store :=
  { s with runs := s.runs.updateWhere (fun r => r.id == agentRunId && r.status.active) fun r =>
    { r with cancelRequested := true, version := r.version + 1 } }

def claimRun (agentRunId : String) : Store :=
  { s with
    runs := s.runs.updateWhere
      (fun r => r.id == agentRunId && (r.status == .queued || r.status == .waiting && r.waitReason == some .runtimeRecovery &&
        r.runtimeRecoveryRequired) && !r.cancelRequested) fun r =>
      { r with
        status := .running
        waitReason := some (.other "runtime_initializing")
        runtimeRecoveryRequired := false
        executionEpoch := r.executionEpoch + 1
        version := r.version + 1 } }

end Store

/-! ## The system -/

inductive Command where
  | prepareAction (c : PrepareActionCommand)
  | recordObservedAction (c : RecordObservedActionCommand)
  | resolveApproval (c : ResolveActionApprovalCommand)
  | claimAction (c : ClaimActionCommand)
  | markDispatchStarted (c : MarkActionDispatchStartedCommand)
  | recordResult (c : RecordActionResultCommand)
  | acquireRuntimeDelivery (c : AcquireRuntimeDeliveryCommand)
  | acknowledgeRuntimeDelivery (c : LeasedDeliveryCommand)
  | failRuntimeDelivery (c : LeasedDeliveryCommand) (error : String)
  | confirmRuntimeRequestResolved (c : ConfirmRuntimeRequestResolvedCommand)
  | reconcileRuntimeLoss (c : ReconcileRuntimeLossCommand)

inductive Event where
  | command (e : Envelope) (c : Command)
  | requestCancel (agentRunId : String)
  | claimRun (agentRunId : String)
  | settleInterruptedRun (agentRunId reason : String) (runtimeLost : Bool)

namespace Store

variable (s : Store)

def perform (e : Envelope) : Command → Except String Store
  | .prepareAction c => s.prepareAction e c
  | .recordObservedAction c => s.recordObservedAction e c
  | .resolveApproval c => s.resolveApproval e c
  | .claimAction c => s.claimAction e c
  | .markDispatchStarted c => s.markDispatchStarted e c
  | .recordResult c => s.recordResult e c
  | .acquireRuntimeDelivery c => s.acquireRuntimeDelivery e c
  | .acknowledgeRuntimeDelivery c => s.acknowledgeRuntimeDelivery e c
  | .failRuntimeDelivery c error => s.failRuntimeDelivery e c error
  | .confirmRuntimeRequestResolved c => s.confirmRuntimeRequestResolved e c
  | .reconcileRuntimeLoss c => s.reconcileRuntimeLoss e c

def happen : Event → Except String Store
  | .command e c => s.perform e c
  | .requestCancel agentRunId => .ok (s.requestCancel agentRunId)
  | .claimRun agentRunId => .ok (s.claimRun agentRunId)
  | .settleInterruptedRun agentRunId reason runtimeLost => s.settleInterruptedRun agentRunId reason runtimeLost

def step (event : Event) : Store :=
  match s.happen event with
  | .ok t => t
  | .error _ => s

def run (events : List Event) : Store :=
  events.foldl step s

end Store
end Rovai.Actions
