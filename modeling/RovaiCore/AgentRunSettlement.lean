import RovaiCore.AgentRunStore
/-!
# How an AgentRun ends

The transaction bodies that make a Run terminal (`runtime.rs`) and what they do to its inputs and its deliveries (`steer.rs`,
`delivery_queue.rs`).
-/
namespace Rovai.AgentRuns

open Tables (Table)

namespace Store

variable (s : Store)

/-! ## The effects of a Run that is cut off -/

variable (runId : String)

def closeAbortiveRunEffects : Store :=
  { s with
    inputs := s.inputs.updateWhere (fun i => i.agentRunId == runId && i.status == .prepared)
      (fun i => { i with status := if i.dispatchStarted then .deliveryUnknown else .notAccepted }) }

/-! ## The deliveries of a settled Run -/

def sourceInput (deliveryId : String) (p : RuntimeInputDelivery → Bool) : Bool :=
  s.manifests.any (fun m => m.sourceDeliveryId == some deliveryId && s.inputs.any (fun i => i.contextManifestId == m.id && p i))

def refuseUnsentSteer : Store :=
  { s with
    inputs := s.inputs.updateWhere
      (fun i => i.agentRunId == runId && i.inputKind == .steer && i.status == .prepared && !i.dispatchStarted)
      (fun i => { i with status := .notAccepted }) }

def returnUnsentSteer : Store :=
  { s with
    deliveries := s.deliveries.updateWhere
      (fun d => d.claimedAgentRunId == some runId && d.requestedMode == .steer && d.status == .claimed &&
        !s.sourceInput d.id (fun i => i.status == .prepared || i.status == .accepted || i.status == .deliveryUnknown))
      (fun d => { d with requestedMode := .start, status := .waiting, claimedAgentRunId := none,
                         targetExecutionEpoch := none }) }

def loseSentSteer : Store :=
  { s with
    inputs := s.inputs.updateWhere
      (fun i => i.agentRunId == runId && i.inputKind == .steer && i.status == .prepared && i.dispatchStarted)
      (fun i => { i with status := .deliveryUnknown }) }

def failUnknownSteer : Store :=
  { s with
    deliveries := s.deliveries.updateWhere
      (fun d => d.claimedAgentRunId == some runId && d.requestedMode == .steer && d.status == .claimed &&
        s.sourceInput d.id (fun i => i.status == .deliveryUnknown))
      (fun d => { d with status := .failed, failureCode := some "input_delivery_unknown" }) }

def settleExecution (runStatus : AgentRunStatus) : Store :=
  let refused := s.refuseUnsentSteer runId
  let returned := if runStatus = .succeeded then refused.returnUnsentSteer runId else refused
  (returned.loseSentSteer runId).failUnknownSteer runId

def deliveryStatus : AgentRunStatus → Option DeliveryStatus
  | .succeeded => some .settled
  | .cancelled => some .cancelled
  | .failed => some .failed
  | _ => none

def settleClaimedDeliveries (status : DeliveryStatus) (failureCode : Option String) : Store :=
  { s with
    deliveries := s.deliveries.updateWhere (fun d => d.claimedAgentRunId == some runId && d.status == .claimed)
      (fun d => { d with status := status, failureCode := failureCode }) }

def settleRunDeliveries (runStatus : AgentRunStatus) (failureCode : Option String) : Store :=
  match deliveryStatus runStatus with
  | none => s
  | some status => (s.settleExecution runId runStatus).settleClaimedDeliveries runId status failureCode

def settleBatchDeliveries (run : AgentRun) (runStatus : AgentRunStatus) (failureCode : Option String) : Store :=
  if run.campTurnId = none then s.settleRunDeliveries run.id runStatus failureCode else s

/-! ## Failure -/

structure Failure where
  (expectedVersion executionEpoch : Nat)
  errorCode : String

def cleanupReason (errorCode : String) (terminalResolutionSource : Option String) : String :=
  if errorCode = "accepted_input_outcome_unknown" then "accepted_input_outcome_unknown"
  else if terminalResolutionSource = none then "runtime_terminal_unconfirmed"
  else "runtime_terminal_host_failed"

def failRun (failure : Failure) (terminalResolutionSource : Option String) (cleanupRequired : Bool) (run : AgentRun) :
    AgentRun :=
  { run with
    status := .failed, waitReason := none, runtimeRecoveryRequired := false
    cancelRequested := run.cancelRequested || cleanupRequired
    cancelReasonCode :=
      if cleanupRequired then some (run.cancelReasonCode.getD (cleanupReason failure.errorCode terminalResolutionSource))
      else run.cancelReasonCode
    terminalResolutionSource := terminalResolutionSource, terminalReasonCode := none
    lastErrorCode := some failure.errorCode, version := run.version + 1 }

def settleFailedAgentRunInTx (run : AgentRun) (failure : Failure) (terminalResolutionSource : Option String)
    (cleanupRequired : Bool) : Handled :=
  if active run.status && run.version == failure.expectedVersion && run.executionEpoch == failure.executionEpoch then
    .ok (.applied "agent_run.failed",
      { s with runs := s.runs.update run.id (failRun failure terminalResolutionSource cleanupRequired)
        }.settleBatchDeliveries run .failed (some failure.errorCode))
  else .error "AgentRun changed inside its failure transaction"

def failLostAgentRunInTx : Handled :=
  match s.runs.find? runId with
  | none => .error "lost AgentRun does not exist"
  | some run =>
    if !active run.status || run.cancelRequested || run.hasFinalOutput then
      reject s "runtime_loss.fenced" "AgentRun is no longer active"
    else (s.closeAbortiveRunEffects runId).settleFailedAgentRunInTx run
      ⟨run.version, run.executionEpoch, "accepted_input_outcome_unknown"⟩ none true

/-! ## Interruption -/

def interruptRun (reasonCode : String) (runtimeLost : Bool) (run : AgentRun) : AgentRun :=
  let reason := run.cancelReasonCode.getD reasonCode
  let lost := runtimeLost && !run.cancelRequested
  { run with
    status := if lost then .failed else .cancelled, waitReason := none, runtimeRecoveryRequired := false
    cancelRequested := true, cancelReasonCode := some reason
    lastErrorCode := if lost then some reason else none
    terminalResolutionSource := none, terminalReasonCode := none, version := run.version + 1 }

def settleInterruptedRunInTx (runId reasonCode : String) (runtimeLost : Bool) : Except String Store :=
  match s.runs.find? runId with
  | none => .error "Query returned no rows"
  | some run =>
    if terminal run.status then .ok (s.settleBatchDeliveries run run.status run.lastErrorCode)
    else
      let ended := interruptRun reasonCode runtimeLost run
      let closed := s.closeAbortiveRunEffects runId
      .ok ({ closed with runs := closed.runs.update runId (interruptRun reasonCode runtimeLost)
        }.settleBatchDeliveries run ended.status ended.cancelReasonCode)

def settleAbortiveAgentRunInTx (runId reasonCode : String) : Except String Store :=
  s.settleInterruptedRunInTx runId reasonCode false

def settleLostAgentRunInTx : Except String Store :=
  s.settleInterruptedRunInTx runId "accepted_input_outcome_unknown" true

def settleAbortiveAgentRuns (reasonCode : String) : Store → List String → Except String Store
  | s, [] => .ok s
  | s, runId :: rest =>
    match s.settleAbortiveAgentRunInTx runId reasonCode with
    | .error message => .error message
    | .ok s' => settleAbortiveAgentRuns reasonCode s' rest

def nonterminalRuns (p : AgentRun → Bool) : List String :=
  (s.runs.rows.filter (fun run => !terminal run.status && p run)).map AgentRun.id

def settleAbortiveCampTurnInTx (campTurnId reasonCode : String) : Except String Store :=
  settleAbortiveAgentRuns reasonCode s (s.nonterminalRuns (fun run => run.campTurnId == some campTurnId))

def exhaustCampTurnExecutionBudget (campTurnId : String) : Except String Store :=
  match s.turns.find? campTurnId with
  | none => .error "ThreadTurn Execution Budget target does not exist"
  | some turn =>
    if turn.executionBudgetExhausted then .ok s
    else if !turn.live then .error "terminal ThreadTurn cannot newly exhaust its Execution Budget"
    else { s with turns := s.turns.update campTurnId (fun turn => { turn with executionBudgetExhausted := true })
      }.settleAbortiveCampTurnInTx campTurnId "execution_budget_exhausted"

end Store
end Rovai.AgentRuns
