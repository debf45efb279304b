import RovaiCore.RuntimeInputs
import RovaiCore.DeliveryQueue
/-!
# Runs of the AgentRun store

An action is one transaction: a command, a settlement, an input receipt, a change of a binding or of the queue, or what another
component does to the rows the store shares with it.
-/
namespace Rovai.AgentRuns

open Tables (Table)
open Store

inductive Action where
  | claimAgentRun (envelope : Envelope) (command : ClaimAgentRun) (facts : ClaimFacts)
  | markForRecovery (envelope : Envelope) (command : FencedCommand)
  | markForNetworkRecovery (envelope : Envelope) (command : FencedCommand) (unsettledEffects now : Nat)
  | armNetworkRecoveryAttempt (envelope : Envelope) (command : FencedCommand) (attempt : Nat) (facts : ClaimFacts)
  | completeNetworkRecovery (envelope : Envelope) (command : FencedCommand)
  | resolveAcceptedInputRecoveryBlocker (envelope : Envelope) (runId campId : String) (expectedVersion unsettledEffects : Nat)
  | requestAgentRunCancellation (envelope : Envelope) (runId campId : String) (expectedVersion : Nat)
  | succeedAgentRun (envelope : Envelope) (command : FencedCommand) (nativeTurnId : String)
      (terminalReasonCode : Option String) (cleanupRequired finalOutput : Bool) (facts : TerminalFacts)
  | failAgentRun (envelope : Envelope) (command : FencedCommand) (errorCode : String)
      (terminalResolutionSource : Option String) (cleanupRequired : Bool) (facts : TerminalFacts)
  | rejectAgentRunDispatch (envelope : Envelope) (runId : String) (expectedVersion : Nat) (errorCode : String)
  | rebindAgentRunRuntime (envelope : Envelope) (runId : String) (expectedVersion : Nat) (adapterKind : AdapterKind)
      (runtimeRefusal : Option (String × String))
  | settleInterruptedRun (runId reasonCode : String) (runtimeLost : Bool)
  | settleAbortiveCampTurn (campTurnId reasonCode : String)
  | settlePlannedShutdownAbortiveTerminal (permitAuthorizes : Bool) (runId : String) (executionEpoch : Nat)
      (outcome : TerminalOutcome) (errorCode : String)
  | settleControlledShutdownRuns (cycle : ShutdownCycle)
  | materializeContext (manifest : ContextManifest) (executionEpoch : Nat)
  | prepareInputDelivery (runId : String) (executionEpoch : Nat) (manifestId : String) (options : PrepareOptions)
  | beginRuntimeInputDispatch (deliveryId runId : String) (executionEpoch : Nat)
  | acknowledgeInputDelivery (deliveryId nativeInputId : String) (now : Nat) (resumeActiveExecution : Bool)
  | markInputDeliveryUnknown (deliveryId : String)
  | markInputDeliveryNotAccepted (deliveryId : String)
  | bindNativeSession (envelope : Envelope) (command : BindNativeSession) (frozenRuntimeMatches metadataChanged : Bool)
      (now : Nat)
  | prepareBinding (command : PrepareBinding) (now : Nat)
  | restartNativeSession (envelope : Envelope) (conversationId : String) (expectedVersion : Nat)
  | enqueueDeliveries (campId : String) (sourceKind : DeliverySourceKind) (recipients : List Recipient)
  | claimWaitingDeliveryBatches (limit : Nat) (claims : List LaneClaim)
  | routeUserMessage (deliveryIds : List String) (canSteer : AgentRun → Bool)
  | returnToQueue (deliveryId : String)
  | requestRedelivery (conversationId bindingId : String) (generation : Nat) (adapterKind : AdapterKind)
  | queueRun (run : AgentRun)
  | openConversation (campId : String) (kind : ConversationKind) (recipient : Recipient)
  | endConversation (conversationId : String)
  | changeTurn (turn : CampTurn)

namespace Store

/-! ## What other components do -/

def queuedRun (run : AgentRun) : AgentRun :=
  { run with
    status := .queued, waitReason := none, runtimeRecoveryRequired := false, executionEpoch := 0, version := 1
    cancelRequested := false, cancelReasonCode := none, lastErrorCode := none, hasFinalOutput := false
    terminalResolutionSource := none, terminalReasonCode := none }

variable (s : Store)

def queueRun (run : AgentRun) : Store :=
  if (s.conversations.find? run.conversationId).isSome && run.campTurnId.all (fun turnId => (s.turns.find? turnId).isSome) then
    { s with runs := s.runs.insert (queuedRun run) }
  else s

def endSingleChat (c : Conversation) : Conversation :=
  { c with ended := c.ended || c.kind == .singleChat, version := c.version + 1 }

/-- A ThreadTurn that is closed stays closed while a Run of it executes: it becomes terminal when its Runs have ended, and
a cancellation and an exhausted budget end them. -/
def changeTurn (turn : CampTurn) : Store :=
  match s.turns.find? turn.id with
  | none => { s with turns := s.turns.insert turn }
  | some old =>
    if !old.accepts && s.runs.any (fun run => run.campTurnId == some turn.id && active run.status) then s
    else
      { s with
        turns := s.turns.update turn.id (fun old => { old with
          status := turn.status, cancelRequested := turn.cancelRequested
          executionBudgetExhausted := turn.executionBudgetExhausted
          executionBudgetDeadline := turn.executionBudgetDeadline }) }

/-! ## Steps -/

def committed {α : Type} (s : Store) : Except String (α × Store) → Store
  | .ok (_, s') => s'
  | .error _ => s

def written : Except String Store → Store
  | .ok s' => s'
  | .error _ => s

def step : Action → Store
  | .claimAgentRun envelope command facts => s.committed (s.claimAgentRun envelope command facts)
  | .markForRecovery envelope command => s.committed (s.markForRecovery envelope command)
  | .markForNetworkRecovery envelope command effects now => s.committed (s.markForNetworkRecovery envelope command effects now)
  | .armNetworkRecoveryAttempt envelope command attempt facts =>
    s.committed (s.armNetworkRecoveryAttempt envelope command attempt facts)
  | .completeNetworkRecovery envelope command => s.committed (s.completeNetworkRecovery envelope command)
  | .resolveAcceptedInputRecoveryBlocker envelope runId campId version effects =>
    s.committed (s.resolveAcceptedInputRecoveryBlocker envelope runId campId version effects)
  | .requestAgentRunCancellation envelope runId campId version =>
    s.committed (s.requestAgentRunCancellation envelope runId campId version)
  | .succeedAgentRun envelope command nativeTurnId reason cleanup finalOutput facts =>
    s.committed (s.succeedAgentRun envelope command nativeTurnId reason cleanup finalOutput facts)
  | .failAgentRun envelope command errorCode source cleanup facts =>
    s.committed (s.failAgentRun envelope command errorCode source cleanup facts)
  | .rejectAgentRunDispatch envelope runId version errorCode =>
    s.committed (s.rejectAgentRunDispatch envelope runId version errorCode)
  | .rebindAgentRunRuntime envelope runId version adapterKind refusal =>
    s.committed (s.rebindAgentRunRuntime envelope runId version adapterKind refusal)
  | .settleInterruptedRun runId reasonCode runtimeLost => s.written (s.settleInterruptedRunInTx runId reasonCode runtimeLost)
  | .settleAbortiveCampTurn campTurnId reasonCode => s.written (s.settleAbortiveCampTurnInTx campTurnId reasonCode)
  | .settlePlannedShutdownAbortiveTerminal permit runId epoch outcome errorCode =>
    s.committed (s.settlePlannedShutdownAbortiveTerminal permit runId epoch outcome errorCode)
  | .settleControlledShutdownRuns cycle => s.written (s.settleControlledShutdownRuns cycle)
  | .materializeContext manifest epoch => s.written (s.materializeContext manifest epoch)
  | .prepareInputDelivery runId epoch manifestId options => s.committed (s.prepareInputDelivery runId epoch manifestId options)
  | .beginRuntimeInputDispatch deliveryId runId epoch => (s.beginRuntimeInputDispatch deliveryId runId epoch).2
  | .acknowledgeInputDelivery deliveryId nativeInputId now resume =>
    s.committed (s.acknowledgeInputDelivery deliveryId nativeInputId now resume)
  | .markInputDeliveryUnknown deliveryId => s.written (s.markInputDeliveryUnknown deliveryId)
  | .markInputDeliveryNotAccepted deliveryId => s.written (s.markInputDeliveryNotAccepted deliveryId)
  | .bindNativeSession envelope command frozenRuntimeMatches metadataChanged now =>
    s.committed (s.bindNativeSession envelope command frozenRuntimeMatches metadataChanged now)
  | .prepareBinding command now => s.written (s.prepareBinding command now)
  | .restartNativeSession envelope conversationId version =>
    s.committed (s.restartNativeSession envelope conversationId version)
  | .enqueueDeliveries campId sourceKind recipients => s.enqueueDeliveries campId sourceKind recipients
  | .claimWaitingDeliveryBatches limit claims => s.written (s.claimWaitingDeliveryBatches limit claims)
  | .routeUserMessage deliveryIds canSteer => s.routeUserMessage deliveryIds canSteer
  | .returnToQueue deliveryId => s.returnToQueue deliveryId
  | .requestRedelivery conversationId bindingId generation adapterKind =>
    s.requestRedelivery conversationId bindingId generation adapterKind
  | .queueRun run => s.queueRun run
  | .openConversation campId kind recipient =>
    { s with conversations := s.conversations.insert { newConversation campId recipient with kind := kind } }
  | .endConversation conversationId =>
    { s with conversations := s.conversations.update conversationId endSingleChat }
  | .changeTurn turn => s.changeTurn turn

def run (actions : List Action) : Store :=
  actions.foldl step s

@[simp] theorem run_nil : s.run [] = s := rfl

@[simp] theorem run_cons (a : Action) (as : List Action) : s.run (a :: as) = (s.step a).run as := rfl

theorem run_append (as bs : List Action) : s.run (as ++ bs) = (s.run as).run bs :=
  List.foldl_append

theorem run_snoc (as : List Action) (a : Action) : s.run (as ++ [a]) = (s.run as).step a := by
  rw [run_append, run_cons, run_nil]

end Store
end Rovai.AgentRuns
