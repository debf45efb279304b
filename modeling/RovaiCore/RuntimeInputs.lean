import RovaiCore.AgentRunStore
/-!
# Runtime inputs and their receipts (`context.rs`)

A Run's context is frozen in a manifest, one for its start and one for each delivery steered into it.
-/
namespace Rovai.AgentRuns

open Tables (Table)

namespace Store

variable (s : Store)

/-! ## Manifests -/

def steersInto (run : AgentRun) (deliveryId : String) : Bool :=
  (s.deliveries.find? deliveryId).any (fun d => d.claimedAgentRunId == some run.id && d.status == .claimed &&
    d.requestedMode == .steer && d.targetExecutionEpoch == some run.executionEpoch)

def materializeContext (manifest : ContextManifest) (executionEpoch : Nat) : Except String Store :=
  if executionEpoch < 1 then .error "Context materialization requires a claimed AgentRun epoch"
  else
    match s.runs.find? manifest.agentRunId with
    | none => .error "AgentRun is not active for context materialization"
    | some run =>
      if !active run.status || run.executionEpoch ≠ executionEpoch then
        .error "AgentRun is not active for context materialization"
      else if s.manifests.any (fun m => m.agentRunId == run.id && m.sourceDeliveryId == manifest.sourceDeliveryId) then .ok s
      else
        let generationMatches := (s.conversations.find? run.conversationId).any
          (fun c => c.nativeBindingGeneration == manifest.nativeBindingGeneration)
        match manifest.sourceDeliveryId with
        | some deliveryId =>
          if !s.steersInto run deliveryId then .error "Query returned no rows"
          else if run.cancelRequested || !generationMatches then .error "Input target ended during context construction"
          else if s.manifests.any (fun m => m.sourceDeliveryId == some deliveryId) ||
              (s.manifests.find? manifest.id).isSome then .error "Query returned no rows"
          else .ok { s with manifests := s.manifests.insert manifest }
        | none =>
          if run.status ≠ .running || !generationMatches then
            .error "AgentRun changed while its ContextManifest was being built"
          else if (s.manifests.find? manifest.id).isSome then .error "Query returned no rows"
          else .ok { s with manifests := s.manifests.insert manifest }

/-! ## Preparation -/

structure InputReceipt where
  id : String
  status : InputStatus
  nativeInputId : Option String
  boundaryCampMessageSequence : Nat
  bootstrapRedeliveryRevision : Option Nat

end Store

def RuntimeInputDelivery.asPublic (i : RuntimeInputDelivery) : Store.InputReceipt :=
  ⟨i.id, i.status, i.nativeInputId, i.boundaryCampMessageSequence, i.bootstrapRedeliveryRevision⟩

namespace Store

variable (s : Store)

/-- `newDeliveryId` is the identity that is drawn when none is proposed. -/
structure PrepareOptions where
  (proposedBindingId proposedDeliveryId : Option String)
  newDeliveryId : String
  bootstrapRedeliveryRevision : Option Nat

variable (runId : String) (executionEpoch : Nat)

def inputAccepted : Bool :=
  (s.runs.find? runId).any (fun run =>
    run.executionEpoch == executionEpoch && active run.status && !run.cancelRequested && s.turnAccepts run)

variable (i : RuntimeInputDelivery) (c : Conversation)

def onCurrentBinding : Bool :=
  c.nativeBindingId == some i.nativeBindingId && c.nativeBindingGeneration == i.nativeBindingGeneration

def laterReceipt (a b : RuntimeInputDelivery) : Bool :=
  decide (a.acceptedAt.getD 0 < b.acceptedAt.getD 0) || (a.acceptedAt == b.acceptedAt && decide (a.id < b.id))

def latestReceipt (found : Option RuntimeInputDelivery) (i : RuntimeInputDelivery) : Option RuntimeInputDelivery :=
  match found with
  | none => some i
  | some other => if laterReceipt other i then some i else some other

def loadAcceptedDeliveryForCurrentBinding :
    Except String (Option RuntimeInputDelivery) :=
  match (s.inputs.rows.filter (fun i => i.agentRunId == runId && i.inputKind == .start && i.status == .accepted &&
      onCurrentBinding i c)).foldl latestReceipt none with
  | some i => .ok (some i)
  | none =>
    if s.hasAcceptedRuntimeInput runId then
      .error "AgentRun input was accepted by a replaced Native Binding and cannot be resent"
    else .ok none

def nextInputSequence : Nat :=
  ((s.inputs.rows.filter (fun i => i.agentRunId == runId && i.executionEpoch == executionEpoch)).map
    (fun i => i.inputSequence + 1)).foldl max 0

def prepareAgain (revision : Option Nat) (i : RuntimeInputDelivery) : RuntimeInputDelivery :=
  { i with
    status := .prepared, nativeInputId := none, acceptedAt := none, dispatchStarted := false
    bootstrapRedeliveryRevision := revision }

def prepareExisting (options : PrepareOptions) :
    Except String (InputReceipt × Store) :=
  if options.proposedDeliveryId.any (fun identity => identity != i.id) then
    .error "Runtime Input Delivery identity changed after preparation"
  else if !onCurrentBinding i c then
    .error "AgentRun input belongs to a replaced Native Binding and cannot be resent"
  else if i.status = .notAccepted then
    .ok ((prepareAgain options.bootstrapRedeliveryRevision i).asPublic,
      { s with inputs := s.inputs.update i.id (prepareAgain options.bootstrapRedeliveryRevision) })
  else .ok (i.asPublic, s)

def inputSourceMatches (m : ContextManifest) (i : RuntimeInputDelivery) : Bool :=
  match m.sourceDeliveryId with
  | none => i.inputKind == .start && i.inputSequence == 0
  | some deliveryId => i.inputKind == .steer && decide (0 < i.inputSequence) &&
      (s.deliveries.find? deliveryId).any (fun d => d.claimedAgentRunId == some i.agentRunId &&
        d.targetExecutionEpoch == some i.executionEpoch && d.status == .claimed)

variable (run : AgentRun) (m : ContextManifest)

def newInput (bindingId : String) (options : PrepareOptions) : RuntimeInputDelivery where
  id := options.proposedDeliveryId.getD options.newDeliveryId
  agentRunId := run.id
  executionEpoch := run.executionEpoch
  contextManifestId := m.id
  nativeBindingId := bindingId
  nativeBindingGeneration := m.nativeBindingGeneration
  boundaryCampMessageSequence := m.campMessageBoundarySequence
  status := .prepared
  dispatchStarted := false
  acceptedAt := none
  nativeInputId := none
  bootstrapRedeliveryRevision := options.bootstrapRedeliveryRevision
  inputKind := if m.sourceDeliveryId = none then .start else .steer
  inputSequence := s.nextInputSequence run.id run.executionEpoch

def preparedBinding (c : Conversation) (proposedBindingId : Option String) : Except String String :=
  match proposedBindingId with
  | some proposed =>
    if m.nativeBindingGeneration ≠ c.nativeBindingGeneration || c.nativeBindingId ≠ some proposed then
      .error "ContextManifest does not target the prepared Native Binding"
    else .ok proposed
  | none =>
    match c.nativeBindingId with
    | none => .error "Native Binding must exist before input delivery"
    | some bindingId =>
      if m.nativeBindingGeneration ≠ c.nativeBindingGeneration then
        .error "ContextManifest does not target the current Native Binding"
      else .ok bindingId

def prepareNew (c : Conversation) (options : PrepareOptions) :
    Except String (InputReceipt × Store) :=
  match preparedBinding m c options.proposedBindingId with
  | .error message => .error message
  | .ok bindingId =>
    if !(run.status == .running || (m.sourceDeliveryId != none && run.status == .waiting)) then
      .error "AgentRun or Native Binding changed before input delivery"
    else
      let i := s.newInput run m bindingId options
      if !s.inputSourceMatches m i then .error "Runtime input source does not match its Manifest"
      else if (s.inputs.find? i.id).isSome then .error "UNIQUE constraint failed: runtime_input_delivery.id"
      else .ok (i.asPublic, { s with inputs := s.inputs.insert i })

def loadDeliveryForManifest (manifestId : String) : Option RuntimeInputDelivery :=
  s.inputs.rows.find? (fun i =>
    i.agentRunId == runId && i.executionEpoch == executionEpoch && i.contextManifestId == manifestId)

def prepareInputDelivery (manifestId : String) (options : PrepareOptions) :
    Except String (InputReceipt × Store) :=
  if !s.inputAccepted runId executionEpoch then .error "Runtime input preparation was fenced by Run settlement"
  else
    match s.runs.find? runId with
    | none => .error "Runtime input preparation was fenced by Run settlement"
    | some run =>
      match s.conversations.find? run.conversationId with
      | none => .error "Runtime Input Delivery target does not exist"
      | some c =>
        match s.loadDeliveryForManifest runId executionEpoch manifestId with
        | some existing => s.prepareExisting existing c options
        | none =>
          match s.manifests.find? manifestId with
          | none => .error "Query returned no rows"
          | some m =>
            match (if m.sourceDeliveryId = none then s.loadAcceptedDeliveryForCurrentBinding runId c else .ok none) with
            | .error message => .error message
            | .ok (some accepted) =>
              if options.proposedDeliveryId.any (fun identity => identity != accepted.id) then
                .error "Runtime Input Delivery identity changed after acceptance"
              else .ok (accepted.asPublic, s)
            | .ok none =>
              if m.agentRunId ≠ runId then .error "ContextManifest does not belong to the AgentRun"
              else s.prepareNew run m c options

/-! ## Dispatch -/

def beginRuntimeInputDispatch (deliveryId runId : String) (executionEpoch : Nat) : Bool × Store :=
  match s.inputs.find? deliveryId with
  | none => (false, s)
  | some i =>
    if i.agentRunId = runId ∧ i.executionEpoch = executionEpoch ∧ i.status = .prepared ∧ i.dispatchStarted = false ∧
        s.inputAccepted runId executionEpoch = true then
      (true, { s with inputs := s.inputs.update deliveryId (fun i => { i with dispatchStarted := true }) })
    else (false, s)

/-! ## Receipts -/

structure DeliveryTarget where
  input : RuntimeInputDelivery
  manifest : ContextManifest
  run : AgentRun
  conversation : Conversation

variable (deliveryId : String)

def loadDeliveryTarget : Option DeliveryTarget :=
  (s.inputs.find? deliveryId).bind fun input =>
  (s.manifests.find? input.contextManifestId).bind fun manifest =>
  (s.runs.find? input.agentRunId).bind fun run =>
  (s.conversations.find? run.conversationId).map fun conversation => ⟨input, manifest, run, conversation⟩

variable (target : DeliveryTarget)

def currentExecution : Bool :=
  target.run.executionEpoch == target.input.executionEpoch && active target.run.status && !target.run.cancelRequested &&
    s.turnAccepts target.run && onCurrentBinding target.input target.conversation &&
    (target.conversation.kind != .singleChat || !target.conversation.ended)

def acceptInput (nativeInputId : String) (now : Nat) (i : RuntimeInputDelivery) : RuntimeInputDelivery :=
  { i with
    status := .accepted, nativeInputId := some nativeInputId, acceptedAt := some (i.acceptedAt.getD now) }

def laterAccepted : Bool :=
  s.inputs.any (fun later => later.agentRunId == i.agentRunId && later.executionEpoch == i.executionEpoch &&
    later.status == .accepted && decide (i.inputSequence < later.inputSequence))

def deliverContext (m : ContextManifest) (c : Conversation) : Conversation :=
  { c with
    lastAcceptedPublicBoundarySequence := max c.lastAcceptedPublicBoundarySequence i.boundaryCampMessageSequence
    nativeCharterDigest := some m.charterDigest
    nativeCollaborationStateDigest := some m.collaborationStateDigest
    nativeWorkspaceFactDigest := m.workspaceFactDigest.or c.nativeWorkspaceFactDigest
    missionDetailsDeliveredVersion :=
      match m.missionDetailsVersion with
      | none => c.missionDetailsDeliveredVersion
      | some version => some (max (c.missionDetailsDeliveredVersion.getD 0) version)
    version := c.version + 1 }

def deliverCurrentContext : Store :=
  { s with
    runs := s.runs.updateWhere
      (fun run => run.id == target.run.id && run.executionEpoch == target.input.executionEpoch && run.status == .running &&
        run.waitReason == some .runtimeInitializing)
      (fun run => { run with waitReason := none })
    conversations :=
      if s.laterAccepted target.input then s.conversations
      else s.conversations.update target.conversation.id (deliverContext target.input target.manifest) }

def requestRedelivery (conversationId bindingId : String) (generation : Nat) (adapterKind : AdapterKind) : Store :=
  match s.requirements.find? (bindingId, generation) with
  | some _ =>
    { s with
      requirements := s.requirements.update (bindingId, generation)
        (fun r => { r with requestedRevision := r.requestedRevision + 1 }) }
  | none => { s with requirements := s.requirements.insert ⟨conversationId, bindingId, generation, adapterKind, 1, 0⟩ }

def acknowledgeRedelivery : Except String Store :=
  match i.bootstrapRedeliveryRevision with
  | none => .ok s
  | some revision =>
    match s.requirements.find? (i.nativeBindingId, i.nativeBindingGeneration) with
    | none => .error "Bootstrap Redelivery Requirement changed before input acknowledgement"
    | some requirement =>
      if revision ≤ requirement.requestedRevision ∧ requirement.acknowledgedRevision ≤ revision then
        .ok { s with
          requirements := s.requirements.update requirement.binding
            (fun r => { r with acknowledgedRevision := max r.acknowledgedRevision revision }) }
      else .error "Bootstrap Redelivery Requirement changed before input acknowledgement"

def resumeRun : AgentRun :=
  { run with
    status := .running, waitReason := none, runtimeRecoveryRequired := false
    lastErrorCode := if run.lastErrorCode = some "runtime_network_interrupted" then run.lastErrorCode else none
    version := run.version + 1 }

def awaitReconciliation : AgentRun :=
  { run with
    waitReason := some .runtimeRecovery, runtimeRecoveryRequired := true, lastErrorCode := none
    version := run.version + 1 }

/-- The Run that waited for this start input goes on, or is handed to recovery. -/
def leaveDeliveryUnknown (resumeActiveExecution : Bool) : Store :=
  if target.manifest.sourceDeliveryId = none ∧ target.input.status = .deliveryUnknown then
    { s with
      runs := s.runs.updateWhere
        (fun run => run.id == target.run.id && run.executionEpoch == target.input.executionEpoch &&
          run.status == .waiting && run.waitReason == some .deliveryUnknown && !run.cancelRequested)
        (fun run => if resumeActiveExecution then resumeRun run else awaitReconciliation run)
        (by intro run; cases resumeActiveExecution <;> rfl) }
  else s

def settleSource : Store :=
  match target.manifest.sourceDeliveryId with
  | none => s
  | some deliveryId =>
    { s with
      deliveries := s.deliveries.updateWhere
        (fun d => d.id == deliveryId && (d.status == .claimed || d.status == .failed) &&
          d.claimedAgentRunId == some target.run.id)
        (fun d => { d with status := .settled, failureCode := none }) }

def nativeIdentityTaken (nativeInputId : String) : Bool :=
  i.inputKind == .start && s.inputs.any (fun other => other.id != i.id && other.inputKind == .start &&
    other.nativeBindingId == i.nativeBindingId && other.nativeInputId == some nativeInputId)

def acknowledgeInputDelivery (deliveryId nativeInputId : String) (now : Nat) (resumeActiveExecution : Bool) :
    Except String ((InputReceipt × Bool) × Store) :=
  if isBlank nativeInputId then .error "Native Input ID must not be empty"
  else
    match s.loadDeliveryTarget deliveryId with
    | none => .error "Runtime Input Delivery does not exist"
    | some target =>
      if target.input.status = .accepted then
        if target.input.nativeInputId ≠ some nativeInputId then
          .error "Runtime Input Delivery was accepted with another Native Input ID"
        else .ok ((target.input.asPublic, false), s)
      else if target.input.status = .notAccepted then .error "Runtime Input Delivery is not acknowledgeable"
      else if s.nativeIdentityTaken target.input nativeInputId then
        .error "UNIQUE constraint failed: runtime_input_delivery.native_binding_id, runtime_input_delivery.native_input_id"
      else
        let accepted := { s with inputs := s.inputs.update deliveryId (acceptInput nativeInputId now) }
        let receipt := ((acceptInput nativeInputId now target.input).asPublic, true)
        -- A late acceptance is evidence only: it moves neither the conversation nor the Run.
        if s.currentExecution target then
          match (accepted.deliverCurrentContext target).acknowledgeRedelivery target.input with
          | .error message => .error message
          | .ok acknowledged =>
            .ok (receipt, (acknowledged.leaveDeliveryUnknown target resumeActiveExecution).settleSource target)
        else .ok (receipt, accepted.settleSource target)

def waitForReceipt : AgentRun :=
  { run with
    status := .waiting, waitReason := some .deliveryUnknown, runtimeRecoveryRequired := true, version := run.version + 1 }

theorem status_id (status : InputStatus) (i : RuntimeInputDelivery) :
    ({ i with status := status } : RuntimeInputDelivery).id = i.id :=
  rfl

def markInputDeliveryUnknown : Except String Store :=
  match s.loadDeliveryTarget deliveryId with
  | none => .error "Runtime Input Delivery does not exist"
  | some target =>
    if target.input.status = .accepted ∨ target.input.status = .notAccepted then .ok s
    else
      let unknown := { s with
        inputs := s.inputs.update deliveryId (fun i => { i with status := .deliveryUnknown }) (status_id .deliveryUnknown) }
      if target.manifest.sourceDeliveryId = none then
        .ok { unknown with
          runs := s.runs.updateWhere
            (fun run => run.id == target.run.id && active run.status && run.executionEpoch == target.input.executionEpoch &&
              !run.cancelRequested && s.turnAccepts run)
            waitForReceipt }
      else .ok unknown

def markInputDeliveryNotAccepted : Except String Store :=
  match s.loadDeliveryTarget deliveryId with
  | none => .error "Runtime Input Delivery does not exist"
  | some target =>
    if target.input.status = .accepted ∨ target.input.status = .notAccepted then .ok s
    else if target.input.status = .deliveryUnknown ∧ target.manifest.sourceDeliveryId = none then
      .error "Runtime Input Delivery is not in prepared state"
    else .ok { s with inputs := s.inputs.update deliveryId (fun i => { i with status := .notAccepted }) (status_id .notAccepted) }

def startRun (s : Store) (runId : String) (executionEpoch : Nat) : Store :=
  { s with
    runs := s.runs.updateWhere
      (fun run => run.id == runId && run.executionEpoch == executionEpoch && run.status == .running &&
        run.waitReason == some .runtimeInitializing)
      (fun run => { run with waitReason := none }) }

end Store

/-- What an acceptance writes at once: the receipt, and, of the current execution, what its session has now read. -/
def Store.received (s : Store) (target : Store.DeliveryTarget) (nativeInputId : String) (now : Nat) : Store :=
  { s with
    inputs := s.inputs.update target.input.id (Store.acceptInput nativeInputId now)
    conversations :=
      if s.currentExecution target && !s.laterAccepted target.input then
        s.conversations.update target.conversation.id (Store.deliverContext target.input target.manifest)
      else s.conversations }

end Rovai.AgentRuns
