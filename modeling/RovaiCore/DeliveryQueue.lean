import RovaiCore.NativeBindings
import Mathlib.Data.List.Sort
/-!
# The Delivery queue (`delivery_queue.rs`, `steer.rs`)

A Delivery waits in the lane of its recipient until a claim takes a prefix of the lane into a new batch Run, or until a user's
message is steered into the Run that the recipient already executes.
-/
namespace Rovai.AgentRuns

open Tables (Table)

namespace Store

variable (s : Store)

/-! ## Enqueueing -/

variable (campId : String)

def lastDeliverySequence : Nat :=
  ((s.deliveries.rows.filter (fun d => d.campId == campId)).map CampMessageDelivery.queueSequence).foldl max 0

structure Recipient where
  (agentId deliveryId conversationId : String)

def newConversation (r : Recipient) : Conversation where
  id := r.conversationId
  campId := campId
  agentId := r.agentId
  kind := .campMember
  ended := false
  version := 1
  nativeAdapterInstallationId := none
  nativeSessionId := none
  nativeBindingCompatibilityDigest := none
  nativeBindingId := none
  nativeBindingGeneration := 0
  nativeBindingSecretDigest := none
  lastAcceptedPublicBoundarySequence := 0
  nativeCharterDigest := none
  nativeCollaborationStateDigest := none
  nativeWorkspaceFactDigest := none
  missionDetailsDeliveredVersion := none

def ensureCampMemberConversation (r : Recipient) : Store :=
  if s.conversations.any (fun c => c.campId == campId && c.agentId == r.agentId && c.kind == .campMember) then s
  else { s with conversations := s.conversations.insert (newConversation campId r) }

variable (sourceKind : DeliverySourceKind)

def newDelivery (sequence : Nat) (r : Recipient) : CampMessageDelivery where
  id := r.deliveryId
  campId := campId
  sourceKind := sourceKind
  recipientAgentId := r.agentId
  queueSequence := sequence
  requestedMode := .start
  status := .waiting
  claimedAgentRunId := none
  targetExecutionEpoch := none
  failureCode := none

def enqueueDelivery (sequence : Nat) (r : Recipient) : Store :=
  let ensured := s.ensureCampMemberConversation campId r
  { ensured with deliveries := ensured.deliveries.insert (newDelivery campId sourceKind sequence r) }

def enqueueDeliveries (recipients : List Recipient) : Store :=
  let sequence := s.lastDeliverySequence campId + 1
  recipients.foldl (fun s r => s.enqueueDelivery campId sourceKind sequence r) s

/-! ## Claiming a lane -/

/-- What a claim of a lane reads elsewhere: which messages are still to be read (neither withdrawn nor a tombstone), which
continuations are still authorized, the Runtime that was resolved, how much of the lane fits and why it cannot run. -/
structure LaneClaim where
  (campId recipientAgentId runId : String)
  (readable eligibleSource : String → Bool)
  freshSession : Bool
  runtimeAdapterKind : Option AdapterKind
  workspace : Option String
  count : Nat
  errorCode : Option String

variable (claim : LaneClaim)

def waitingLane : List CampMessageDelivery :=
  (s.deliveries.rows.filter (fun d => d.campId == claim.campId && d.recipientAgentId == claim.recipientAgentId &&
    d.status == .waiting && (d.sourceKind == .continuation || claim.readable d.id))).insertionSort
    (fun a b => a.queueSequence ≤ b.queueSequence)

def expiredHead (lane : List CampMessageDelivery) : List CampMessageDelivery :=
  lane.takeWhile (fun d => d.sourceKind == .continuation && !claim.eligibleSource d.id)

def cancelExpired (expired : List String) : Store :=
  { s with
    deliveries := s.deliveries.updateWhere (fun d => expired.contains d.id && d.status == .waiting)
      (fun d => { d with status := .cancelled, failureCode := some "agent_run.continuation_unavailable" }) }

def waitingPrefix (lane : List CampMessageDelivery) : List CampMessageDelivery :=
  match lane with
  | [] => []
  | d :: rest =>
    if d.sourceKind = .continuation then [d] else d :: rest.takeWhile (fun d => d.sourceKind == .message)

def newBatchRun (conversationId : String) : AgentRun where
  id := claim.runId
  campId := claim.campId
  campTurnId := none
  conversationId := conversationId
  invocationKind := .batch
  runtimeAdapterKind := claim.runtimeAdapterKind
  inputReady := true
  workspace := claim.workspace
  status := if claim.errorCode.isSome then .failed else .queued
  waitReason := none
  runtimeRecoveryRequired := false
  runtimeRebindCount := 0
  executionEpoch := 0
  version := 1
  cancelRequested := false
  cancelReasonCode := none
  lastErrorCode := claim.errorCode
  hasFinalOutput := false
  terminalResolutionSource := none
  terminalReasonCode := none
  turn_of_batch := fun _ => rfl

/-- A launch that already failed fails its Deliveries with it. -/
def insertBatchRun (conversationId : String) (selected : List String) : Store :=
  { s with
    runs := s.runs.insert (newBatchRun claim conversationId)
    deliveries := s.deliveries.updateWhere (fun d => selected.contains d.id && d.status == .waiting)
      (fun d => { d with
        status := if claim.errorCode.isSome then .failed else .claimed
        claimedAgentRunId := some claim.runId, failureCode := claim.errorCode }) }

def claimLane : Store :=
  match s.conversations.rows.find? (fun c =>
      c.campId == claim.campId && c.agentId == claim.recipientAgentId && c.kind == .campMember) with
  | none => s
  | some c =>
    if s.runs.any (fun run => run.conversationId == c.id && !terminal run.status) || (s.runs.find? claim.runId).isSome then s
    else
      let lane := s.waitingLane claim
      let expired := (expiredHead claim lane).map CampMessageDelivery.id
      let cleared := s.cancelExpired expired
      match waitingPrefix (lane.drop expired.length) with
      | [] => cleared
      | d :: rest =>
        let rested := if d.sourceKind = .continuation ∧ claim.freshSession then cleared.clearNativeSession c.id else cleared
        rested.insertBatchRun claim c.id ((d :: rest.take (claim.count - 1)).map CampMessageDelivery.id)

def claimWaitingDeliveryBatches (limit : Nat) (claims : List LaneClaim) : Except String Store :=
  if limit = 0 ∨ 100 < limit then .error "Delivery claim limit must be between 1 and 100"
  else .ok ((claims.take limit).foldl claimLane s)

/-! ## Steering -/

def steerTargets (deliveryIds : List String) : List (String × AgentRun) :=
  deliveryIds.flatMap fun deliveryId =>
    match s.deliveries.find? deliveryId with
    | none => []
    | some d =>
      if d.status = .waiting then
        (s.runs.rows.filter (fun run => run.campId == d.campId && run.invocationKind == .batch && !terminal run.status &&
          !run.cancelRequested && s.conversations.any (fun c => c.id == run.conversationId && c.agentId == d.recipientAgentId))).map
          (fun run => (deliveryId, run))
      else []

def steerDelivery (target : String × AgentRun) : Store :=
  { s with
    deliveries := s.deliveries.updateWhere (fun d => d.id == target.1 && d.status == .waiting)
      (fun d => { d with
        requestedMode := .steer, status := .claimed, claimedAgentRunId := some target.2.id
        targetExecutionEpoch := some (target.2.executionEpoch + if target.2.status = .queued then 1 else 0) }) }

def routeUserMessage (deliveryIds : List String) (canSteer : AgentRun → Bool) : Store :=
  ((s.steerTargets deliveryIds).filter (fun target => canSteer target.2)).foldl steerDelivery s

def returnToQueue (deliveryId : String) : Store :=
  { s with
    deliveries := s.deliveries.updateWhere
      (fun d => d.id == deliveryId && d.requestedMode == .steer &&
        (d.status == .claimed || (d.status == .failed && d.failureCode == some "input_delivery_unknown")) &&
        s.runs.any (fun run => d.claimedAgentRunId == some run.id && !run.cancelRequested &&
          (active run.status || run.status == .succeeded)) &&
        !s.sourceInput deliveryId RuntimeInputDelivery.mayHaveRun)
      (fun d => { d with
        requestedMode := .start, status := .waiting, claimedAgentRunId := none, targetExecutionEpoch := none
        failureCode := none }) }

end Store
end Rovai.AgentRuns
