import RovaiCore.AgentRunCommands
/-!
# Native Bindings (`runtime.rs`, `team_tool.rs`, `run_continuation.rs`)

The native session a conversation is bound to: an identity and a generation that every replacement raises.
-/
namespace Rovai.AgentRuns

open Tables (Table)

namespace Store

variable (s : Store)

def forgetSession (c : Conversation) : Conversation :=
  { c with
    lastAcceptedPublicBoundarySequence := if c.kind = .singleChat then 0 else c.lastAcceptedPublicBoundarySequence
    nativeCharterDigest := none, nativeCollaborationStateDigest := none }

def turnBinds (run : AgentRun) (now : Nat) : Bool :=
  run.campTurnId == none || (s.turnOf run).any (fun turn => turn.accepts && !turn.deadlineElapsed now)

/-! ## Binding a session -/

/-- `newBindingId` is the identity that is drawn when none is proposed. -/
structure BindNativeSession where
  (agentRunId conversationId : String)
  (expectedConversationVersion expectedExecutionEpoch : Nat)
  (previousAdapterInstallationId previousNativeSessionId previousBindingCompatibilityDigest : Option String)
  (adapterInstallationId nativeSessionId : String)
  (bindingCompatibilityDigest proposedBindingId : Option String)
  newBindingId : String

def identityBinding (run : AgentRun) : Bool :=
  run.runtimeAdapterKind == some .commandCodeCli || run.runtimeAdapterKind == some .hermesCli

variable (command : BindNativeSession)

def BindNativeSession.reuses (run : AgentRun) (c : Conversation) : Bool :=
  c.nativeBindingId.isSome && decide (1 ≤ c.nativeBindingGeneration) &&
    (identityBinding run || c.nativeAdapterInstallationId == some command.adapterInstallationId) &&
    c.nativeSessionId == some command.nativeSessionId &&
    (identityBinding run || c.nativeBindingCompatibilityDigest == command.bindingCompatibilityDigest)

variable (c : Conversation)

def BindNativeSession.completes : Bool :=
  c.nativeBindingId.isSome && decide (1 ≤ c.nativeBindingGeneration) && command.proposedBindingId == c.nativeBindingId

/-- A reserved binding is completed: identity, generation and what was prepared for them stay. -/
def completeBinding : Conversation :=
  { c with
    nativeSessionId := some command.nativeSessionId
    nativeAdapterInstallationId := some command.adapterInstallationId
    nativeBindingCompatibilityDigest := command.bindingCompatibilityDigest, version := c.version + 1 }

def nextGeneration : Nat :=
  max (c.nativeBindingGeneration + 1) 1

def replaceBinding : Conversation :=
  { forgetSession c with
    nativeAdapterInstallationId := some command.adapterInstallationId
    nativeSessionId := some command.nativeSessionId
    nativeBindingCompatibilityDigest := command.bindingCompatibilityDigest
    nativeBindingId := some (command.proposedBindingId.getD command.newBindingId)
    nativeBindingGeneration := nextGeneration c, nativeBindingSecretDigest := none, version := c.version + 1 }

def touchConversation : Conversation :=
  { c with version := c.version + 1 }

def bindNativeSession (envelope : Envelope) (command : BindNativeSession) (frozenRuntimeMatches metadataChanged : Bool)
    (now : Nat) : Handled :=
  if isBlank command.adapterInstallationId || isBlank command.nativeSessionId ||
      command.bindingCompatibilityDigest.any isBlank then .error "Native Binding fields must not be empty"
  else if !isRuntimeAdapter envelope.actor then
    reject s "runtime.adapter_required" "Native Session binding requires a Runtime Adapter"
  else
    match s.runs.find? command.agentRunId, s.conversations.find? command.conversationId with
    | some run, some c =>
      if run.conversationId ≠ c.id || run.cancelRequested || !s.turnBinds run now then
        reject s "runtime.binding_not_found" "Conversation and AgentRun binding does not exist"
      else if envelope.campId ≠ some c.campId || c.version ≠ command.expectedConversationVersion ||
          run.executionEpoch ≠ command.expectedExecutionEpoch || !active run.status then
        reject s "runtime.binding_fenced" "Conversation or AgentRun binding is stale"
      else if !identityBinding run && command.bindingCompatibilityDigest == none then
        reject s "runtime.binding_configuration_mismatch" "Native Binding compatibility digest missing"
      else if !frozenRuntimeMatches then
        reject s "runtime.binding_configuration_mismatch" "Native Binding does not match the AgentRun frozen Runtime"
      else if c.nativeAdapterInstallationId ≠ command.previousAdapterInstallationId ||
          c.nativeSessionId ≠ command.previousNativeSessionId ||
          (!identityBinding run && c.nativeBindingCompatibilityDigest != command.previousBindingCompatibilityDigest) then
        reject s "runtime.session_changed" "Native Binding changed before replacement"
      else if command.reuses run c then
        if command.proposedBindingId.isSome && command.proposedBindingId != c.nativeBindingId then
          reject s "runtime.binding_proposal_conflict" "Proposed Native Binding ID conflicts with the reusable binding"
        else if !identityBinding run && metadataChanged then
          .ok (.applied "conversation.native_session_bound",
            { s with conversations := s.conversations.update c.id touchConversation })
        else .ok (.applied "conversation.native_session_bound", s)
      else if command.completes c then
        if c.nativeBindingSecretDigest.isSome then
          .ok (.applied "conversation.native_session_bound",
            { s with conversations := s.conversations.update c.id (completeBinding command) })
        else reject s "runtime.binding_race_lost" "Conversation changed before Native Session binding"
      else
        .ok (.applied "conversation.native_session_bound",
          { s with conversations := s.conversations.update c.id (replaceBinding command) })
    | _, _ => reject s "runtime.binding_not_found" "Conversation and AgentRun binding does not exist"

/-! ## Reserving a binding -/

/-- `sessionKindMatches` says that the adapter of the stored session, if one is known, is the Run's. -/
structure PrepareBinding where
  agentRunId : String
  executionEpoch : Nat
  (forceNewBinding sessionKindMatches memberMatches : Bool)
  (newBindingId frozenInstallationId : String)
  frozenCompatibilityDigest : Option String
  credentialDigest : String → Nat → String

def reserveBinding (command : PrepareBinding) (c : Conversation) : Conversation :=
  { forgetSession c with
    nativeAdapterInstallationId :=
      if c.nativeSessionId = none then some command.frozenInstallationId else c.nativeAdapterInstallationId
    nativeBindingCompatibilityDigest :=
      if c.nativeSessionId = none then command.frozenCompatibilityDigest else c.nativeBindingCompatibilityDigest
    nativeBindingId := some command.newBindingId
    nativeBindingGeneration := nextGeneration c
    nativeBindingSecretDigest := some (command.credentialDigest command.newBindingId (nextGeneration c))
    version := c.version + 1 }

def refreshCredential (digest : String) (c : Conversation) : Conversation :=
  { c with nativeBindingSecretDigest := some digest, version := c.version + 1 }

def prepareBinding (command : PrepareBinding) (now : Nat) : Except String Store :=
  if isBlank command.agentRunId || command.executionEpoch = 0 then .error "AgentRun ID and execution epoch are required"
  else if command.forceNewBinding &&
      !s.canReplaceSessionBeforeDispatch command.agentRunId command.executionEpoch then
    .error "Replacement requires a current execution with no dispatched input"
  else
    match s.runs.find? command.agentRunId with
    | none => .error "AgentRun is not current and active"
    | some run =>
      match s.conversations.find? run.conversationId with
      | none => .error "AgentRun is not current and active"
      | some c =>
        if run.executionEpoch ≠ command.executionEpoch || run.status ≠ .running || run.cancelRequested ||
            !s.turnBinds run now || !command.memberMatches then .error "AgentRun is not current and active"
        else if command.forceNewBinding || !(c.nativeBindingId.isSome && decide (1 ≤ c.nativeBindingGeneration) &&
            command.sessionKindMatches) then
          .ok { s with conversations := s.conversations.update c.id (reserveBinding command) }
        else
          let digest := command.credentialDigest (c.nativeBindingId.getD "") c.nativeBindingGeneration
          if c.nativeBindingSecretDigest = some digest then .ok s
          else .ok { s with conversations := s.conversations.update c.id (refreshCredential digest) }

/-! ## Dropping a session -/

def dropSession : Conversation :=
  { c with
    nativeAdapterInstallationId := none, nativeSessionId := none, nativeBindingCompatibilityDigest := none
    nativeBindingId := none, nativeBindingSecretDigest := none
    nativeCharterDigest := none, nativeCollaborationStateDigest := none, version := c.version + 1 }

def restartNativeSession (envelope : Envelope) (conversationId : String) (expectedVersion : Nat) : Handled :=
  if isBlank conversationId then .error "conversationId must not be empty"
  else if !envelope.actor.isUser then
    reject s "conversation.user_required" "Only the local user may restart a Native Session"
  else
    match s.conversations.find? conversationId with
    | none => reject s "conversation.not_found" "Conversation does not exist"
    | some c =>
      if envelope.campId.any (fun id => id != c.campId) then
        reject s "conversation.camp_mismatch" "Conversation is outside the requested Thread"
      else if c.version ≠ expectedVersion then
        reject s "conversation.version_conflict" "Conversation changed before its Native Session was restarted"
      else if s.runs.any (fun run => run.conversationId == c.id && !terminal run.status) then
        reject s "conversation.active_run" "Native Session cannot be restarted while this Conversation has active work"
      else if c.nativeAdapterInstallationId = none ∧ c.nativeSessionId = none ∧ c.nativeBindingId = none then
        .ok (.applied "conversation_native_session_already_clear", s)
      else
        .ok (.applied "conversation_native_session_restarted",
          { s with conversations := s.conversations.update c.id (fun c => dropSession (forgetSession c)) })

def clearNativeSession (conversationId : String) : Store :=
  { s with conversations := s.conversations.update conversationId dropSession }

end Store
end Rovai.AgentRuns
