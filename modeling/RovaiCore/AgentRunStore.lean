import RovaiCore.Tables
import RovaiCore.ExecutionText
/-!
# The AgentRun store

The rows that the AgentRun commands, the Runtime input receipts and the Delivery queue share, and what a command returns.
-/
namespace Rovai.AgentRuns

open Tables (Table)

/-! ## Vocabulary -/

inductive ActorRef where
  | user
  | agent (sourceAgentRunId : String)
  | system (componentId : String)
  deriving DecidableEq

inductive AdapterKind where
  | codexCli
  | pi
  | opencodeCli
  | copilotCli
  | claudeCodeCli
  | clineCli
  | commandCodeCli
  | kiroCli
  | qoderCli
  | codebuddyCli
  | qwenCode
  | traeCnCli
  | cursorAgent
  | kimiCodeCli
  | minimaxCodeCli
  | hermesCli
  | grokBuild
  | deepseekHarness
  | zcodeApp
  | antigravityApp
  deriving DecidableEq

inductive InvocationKind where
  | direct
  | a2a
  | gatherCompletion
  | singleChat
  | batch
  deriving DecidableEq

/-- `other` is a reason that no function of this model sets or asks for (`approval`, `runtime_delivery`). -/
inductive WaitReason where
  | runtimeInitializing
  | runtimeRecovery
  | networkRecovery
  | networkRecoveryBlocked
  | recoveryBlocked
  | deliveryUnknown
  | other (reason : String)
  deriving DecidableEq

inductive CampTurnStatus where
  | running
  | waiting
  | completed
  | failed
  | cancelled
  deriving DecidableEq

inductive InputStatus where
  | prepared
  | accepted
  | deliveryUnknown
  | notAccepted
  deriving DecidableEq

inductive InputKind where
  | start
  | steer
  deriving DecidableEq

inductive DeliverySourceKind where
  | message
  | continuation
  deriving DecidableEq

inductive DeliveryMode where
  | start
  | steer
  deriving DecidableEq

inductive DeliveryStatus where
  | waiting
  | claimed
  | settled
  | failed
  | cancelled
  deriving DecidableEq

inductive ConversationKind where
  | campMember
  | singleChat
  deriving DecidableEq

def terminal (status : AgentRunStatus) : Bool :=
  status == .succeeded || status == .failed || status == .cancelled

def active (status : AgentRunStatus) : Bool :=
  status == .running || status == .waiting

/-! ## Rows -/

/-- `campId` is the Run's own, or that of its ThreadTurn.  A batch Run has no ThreadTurn (a check of the table). -/
structure AgentRun where
  (id campId : String)
  campTurnId : Option String
  conversationId : String
  invocationKind : InvocationKind
  runtimeAdapterKind : Option AdapterKind
  inputReady : Bool
  workspace : Option String
  status : AgentRunStatus
  waitReason : Option WaitReason
  runtimeRecoveryRequired : Bool
  (runtimeRebindCount executionEpoch version : Nat)
  cancelRequested : Bool
  (cancelReasonCode lastErrorCode : Option String)
  hasFinalOutput : Bool
  (terminalResolutionSource terminalReasonCode : Option String)
  turn_of_batch : invocationKind = .batch → campTurnId = none := by decide

theorem batch_turnless : InvocationKind.batch = .batch → (none : Option String) = none :=
  fun _ => rfl

structure CampTurn where
  id : String
  status : CampTurnStatus
  (cancelRequested executionBudgetExhausted : Bool)
  executionBudgetDeadline : Option Nat

structure Conversation where
  (id campId agentId : String)
  kind : ConversationKind
  ended : Bool
  version : Nat
  (nativeAdapterInstallationId nativeSessionId nativeBindingCompatibilityDigest nativeBindingId : Option String)
  nativeBindingGeneration : Nat
  nativeBindingSecretDigest : Option String
  lastAcceptedPublicBoundarySequence : Nat
  (nativeCharterDigest nativeCollaborationStateDigest nativeWorkspaceFactDigest : Option String)
  missionDetailsDeliveredVersion : Option Nat

/-- `workspaceFactDigest` is there when the fact is included; the charter digest is the one of the frozen bootstrap. -/
structure ContextManifest where
  (id agentRunId : String)
  (nativeBindingGeneration campMessageBoundarySequence : Nat)
  sourceDeliveryId : Option String
  (charterDigest collaborationStateDigest : String)
  workspaceFactDigest : Option String
  missionDetailsVersion : Option Nat

structure RuntimeInputDelivery where
  (id agentRunId : String)
  executionEpoch : Nat
  (contextManifestId nativeBindingId : String)
  (nativeBindingGeneration boundaryCampMessageSequence : Nat)
  status : InputStatus
  dispatchStarted : Bool
  acceptedAt : Option Nat
  nativeInputId : Option String
  bootstrapRedeliveryRevision : Option Nat
  inputKind : InputKind
  inputSequence : Nat
  deriving DecidableEq

structure CampMessageDelivery where
  (id campId : String)
  sourceKind : DeliverySourceKind
  recipientAgentId : String
  queueSequence : Nat
  requestedMode : DeliveryMode
  status : DeliveryStatus
  claimedAgentRunId : Option String
  targetExecutionEpoch : Option Nat
  failureCode : Option String

structure BootstrapRedeliveryRequirement where
  (conversationId nativeBindingId : String)
  nativeBindingGeneration : Nat
  adapterKind : AdapterKind
  (requestedRevision acknowledgedRevision : Nat)
  deriving DecidableEq

def BootstrapRedeliveryRequirement.binding (r : BootstrapRedeliveryRequirement) : String × Nat :=
  (r.nativeBindingId, r.nativeBindingGeneration)

/-! ## The store -/

structure Store where
  runs : Table AgentRun.id
  turns : Table CampTurn.id
  conversations : Table Conversation.id
  manifests : Table ContextManifest.id
  inputs : Table RuntimeInputDelivery.id
  deliveries : Table CampMessageDelivery.id
  requirements : Table BootstrapRedeliveryRequirement.binding

def Store.empty : Store :=
  ⟨.empty, .empty, .empty, .empty, .empty, .empty, .empty⟩

inductive CommandResult where
  | rejected (code : String) (message : String)
  | accepted (code : String)
  | applied (code : String)

def CommandResult.isRejected : CommandResult → Bool
  | .rejected .. => true
  | _ => false

abbrev Handled := Except String (CommandResult × Store)

variable (s : Store)

def reject (code message : String) : Handled :=
  .ok (.rejected code message, s)

structure Envelope where
  actor : ActorRef
  campId : Option String

def isRuntimeAdapter : ActorRef → Bool
  | .system componentId => "runtime-adapter:".isPrefixOf componentId
  | _ => false

def isBlank (text : String) : Bool :=
  text.toList.all isWhitespace

def ActorRef.isUser : ActorRef → Bool
  | .user => true
  | _ => false

/-! ## What several functions ask -/

def Store.turnOf (run : AgentRun) : Option CampTurn :=
  run.campTurnId.bind s.turns.find?

variable (turn : CampTurn)

def CampTurn.live : Bool :=
  turn.status == .running || turn.status == .waiting

def CampTurn.accepts : Bool :=
  turn.live && !turn.cancelRequested && !turn.executionBudgetExhausted

def Store.turnAccepts (run : AgentRun) : Bool :=
  run.invocationKind == .batch || (s.turnOf run).any CampTurn.accepts

def CampTurn.deadlineElapsed (now : Nat) : Bool :=
  turn.executionBudgetDeadline.any (fun deadline => decide (deadline ≤ now))

def RuntimeInputDelivery.mayHaveRun (i : RuntimeInputDelivery) : Bool :=
  i.status == .accepted || i.status == .deliveryUnknown || (i.status == .prepared && i.dispatchStarted)

variable (runId : String)

def Store.hasAcceptedRuntimeInput : Bool :=
  s.inputs.any (fun i => i.agentRunId == runId && i.status == .accepted)

def Store.networkRecoveryInputIsSafe (executionEpoch : Nat) : Bool :=
  !s.inputs.any (fun i => i.agentRunId == runId && i.executionEpoch == executionEpoch && i.inputKind == .start &&
    !(i.status == .notAccepted || (i.status == .prepared && !i.dispatchStarted)))

def Store.hasRecoverySafetyBlocker (others : Nat) : Bool :=
  decide (others ≠ 0) || s.inputs.any (fun i => i.agentRunId == runId && i.status == .deliveryUnknown)

def Store.hasTerminalSafetyBlocker (others : Nat) : Bool :=
  decide (others ≠ 0) || s.inputs.any (fun i =>
    i.agentRunId == runId && i.inputKind == .start && (i.status == .prepared || i.status == .deliveryUnknown))

end Rovai.AgentRuns
