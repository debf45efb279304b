import RovaiCore.AgentRunSettlement
/-!
# The AgentRun commands (`runtime.rs`)

The handlers that claim a Run, put it aside for recovery and end it.
-/
namespace Rovai.AgentRuns

open Tables (Table)

namespace Store

variable (s : Store)

def loadRun (runId : String) : Option AgentRun :=
  (s.runs.find? runId).filter (fun run => (s.conversations.find? run.conversationId).isSome)

def runNotFound : Handled :=
  reject s "agent_run.not_found" "AgentRun does not exist"

/-! ## Claim -/

structure ClaimAgentRun where
  agentRunId : String
  expectedVersion : Nat
  leaseOwner : String
  leaseSeconds : Int
  workspace : Option String

/-- What a claim reads of the other components: the member, the authorization, the workspace of the Thread, the approvals,
actions and checkpoints that are not settled, and the clock. -/
structure ClaimFacts where
  (memberActive authorizationCoversSnapshot : Bool)
  workspaceMatchesCamp : String → Bool
  (unsettledEffects now : Nat)

def claimableState (run : AgentRun) : Bool :=
  run.status == .queued ||
    (run.status == .waiting && run.waitReason == some .runtimeRecovery && run.runtimeRecoveryRequired)

def otherActiveRun (run : AgentRun) : Bool :=
  s.runs.any (fun other => other.conversationId == run.conversationId && other.id != run.id && active other.status)

/-- The part of `claim_admission_rejection` that follows the ThreadTurn's checks. -/
def claimRefusal (run : AgentRun) (facts : ClaimFacts) : Option (String × String) :=
  if !claimableState run || !run.inputReady || run.cancelRequested then
    some ("agent_run.not_claimable", "AgentRun is not ready for execution")
  else if run.status == .waiting && run.waitReason == some .runtimeRecovery && s.hasAcceptedRuntimeInput run.id then
    some ("agent_run.accepted_input_requires_reconciliation",
      "An accepted Runtime input cannot be resent or assumed complete after restart")
  else if !facts.memberActive then
    some ("agent_run.member_unavailable", "Agent is no longer an executable current Thread member")
  else if !facts.authorizationCoversSnapshot then
    some ("agent_run.authorization_revoked", "Current Thread authorization no longer covers the frozen AgentRun")
  else if run.status == .waiting && s.hasRecoverySafetyBlocker run.id facts.unsettledEffects then
    some ("agent_run.recovery_blocked", "Approval, Action or Runtime Delivery must settle before recovery")
  else if s.otherActiveRun run then
    some ("agent_run.conversation_busy", "Conversation already has an active AgentRun")
  else none

def frozenWorkspace (run : AgentRun) (requested : Option String) : Option (Option String) :=
  match run.workspace, requested with
  | some existing, some requested => if existing = requested then some (some existing) else none
  | some existing, none => some (some existing)
  | none, requested => some requested

def claimRun (workspace : Option String) (run : AgentRun) : AgentRun :=
  { run with
    workspace := run.workspace.or workspace
    status := .running, waitReason := some .runtimeInitializing, runtimeRecoveryRequired := false
    executionEpoch := run.executionEpoch + 1, version := run.version + 1 }

def clearBindingSecret (conversation : Conversation) : Conversation :=
  { conversation with nativeBindingSecretDigest := none, version := conversation.version + 1 }

def claimAdmitted (run : AgentRun) (workspace : Option String) (facts : ClaimFacts) : Handled :=
  match frozenWorkspace run workspace with
  | none => reject s "agent_run.workspace_frozen" "AgentRun workspace cannot be changed after it is frozen"
  | some workspace =>
    if workspace.any (fun workspace => !facts.workspaceMatchesCamp workspace) then
      reject s "agent_run.workspace_scope_mismatch" "AgentRun workspace does not match the Thread project path"
    else if !(run.invocationKind == .batch ||
        (s.turnOf run).any (fun turn => turn.accepts && !turn.deadlineElapsed facts.now)) then
      reject s "agent_run.claim_race_lost" "AgentRun changed before its lease was acquired"
    else
      .ok (.accepted "agent_run.claimed",
        { s with
          runs := s.runs.update run.id (claimRun workspace)
          conversations := s.conversations.update run.conversationId clearBindingSecret })

def claimAgentRun (envelope : Envelope) (command : ClaimAgentRun) (facts : ClaimFacts) : Handled :=
  if !(envelope.actor == .system "agent-run-scheduler" || envelope.actor == .system "runtime-recovery-coordinator") then
    reject s "agent_run.scheduler_required" "AgentRun claim requires the scheduler or recovery coordinator"
  else if isBlank command.leaseOwner || decide (command.leaseSeconds ≤ 0) then
    reject s "agent_run.invalid_lease" "Execution lease is invalid"
  else
    match s.loadRun command.agentRunId with
    | none => s.runNotFound
    | some run =>
      if envelope.campId ≠ some run.campId then
        reject s "agent_run.camp_mismatch" "AgentRun is outside the Thread"
      else if run.version ≠ command.expectedVersion then
        reject s "agent_run.version_conflict" "AgentRun version is stale"
      else
        match s.turnOf run with
        | some turn =>
          if turn.executionBudgetExhausted then
            reject s "agent_run.execution_budget_exhausted" "ThreadTurn Execution Budget is already exhausted"
          else if !turn.live || turn.cancelRequested then
            reject s "agent_run.turn_fenced" "ThreadTurn is no longer accepting AgentRun execution"
          else if turn.deadlineElapsed facts.now then
            -- The one refusal that writes: the claim finds the deadline past and ends the Runs of the ThreadTurn.
            match s.exhaustCampTurnExecutionBudget turn.id with
            | .error message => .error message
            | .ok exhausted =>
              reject exhausted "agent_run.execution_budget_exhausted" "ThreadTurn Execution Budget deadline has elapsed"
          else
            match s.claimRefusal run facts with
            | some (code, message) => reject s code message
            | none => s.claimAdmitted run command.workspace facts
        | none =>
          match s.claimRefusal run facts with
          | some (code, message) => reject s code message
          | none => s.claimAdmitted run command.workspace facts

/-! ## Recovery -/

structure FencedCommand where
  agentRunId : String
  (expectedVersion executionEpoch : Nat)

def FencedCommand.fences (command : FencedCommand) (run : AgentRun) : Bool :=
  run.version == command.expectedVersion && run.executionEpoch == command.executionEpoch

def recoverRun (run : AgentRun) : AgentRun :=
  { run with
    status := .waiting, waitReason := if run.status = .running then some .runtimeRecovery else run.waitReason
    runtimeRecoveryRequired := true, lastErrorCode := some "runtime_connection_lost", version := run.version + 1 }

def markForRecovery (envelope : Envelope) (command : FencedCommand) : Handled :=
  if envelope.actor ≠ .system "runtime-recovery-coordinator" then
    reject s "agent_run.recovery_coordinator_required" "Runtime recovery requires its coordinator"
  else
    match s.runs.find? command.agentRunId with
    | none => s.runNotFound
    | some run =>
      if envelope.campId ≠ some run.campId then
        reject s "agent_run.camp_mismatch" "AgentRun is outside the Thread"
      else if active run.status && command.fences run && !run.cancelRequested &&
          !(run.status == .waiting && run.waitReason == some .recoveryBlocked) then
        .ok (.accepted "agent_run.runtime_recovery_requested", { s with runs := s.runs.update run.id recoverRun })
      else reject s "agent_run.recovery_fenced" "AgentRun is stale or is not active"

/-- What the recovery commands read of the ThreadTurn; a batch Run has none, and its status counts as running. -/
def turnRecovers (run : AgentRun) : Bool :=
  (s.turnOf run).all CampTurn.accepts

def deadlineElapsed (run : AgentRun) (now : Nat) : Bool :=
  (s.turnOf run).any (fun turn => turn.deadlineElapsed now)

def waitForNetwork (run : AgentRun) : AgentRun :=
  { run with
    status := .waiting, waitReason := some .networkRecovery, runtimeRecoveryRequired := true
    lastErrorCode := some "runtime_network_interrupted", version := run.version + 1 }

def networkCoordinator : ActorRef :=
  .system "network-recovery-coordinator"

def coordinatorRequired : Handled :=
  reject s "agent_run.network_recovery_coordinator_required" "Network recovery requires its coordinator"

def markForNetworkRecovery (envelope : Envelope) (command : FencedCommand) (unsettledEffects now : Nat) : Handled :=
  if envelope.actor ≠ networkCoordinator then s.coordinatorRequired
  else
    match s.loadRun command.agentRunId with
    | none => s.runNotFound
    | some run =>
      if envelope.campId ≠ some run.campId then
        reject s "agent_run.camp_mismatch" "AgentRun is outside the Thread"
      else if !command.fences run then
        reject s "agent_run.network_recovery_fenced" "AgentRun network failure evidence is stale"
      else if run.status ≠ .running || run.cancelRequested then
        reject s "agent_run.network_recovery_fenced" "AgentRun is no longer running"
      else if !s.networkRecoveryInputIsSafe run.id run.executionEpoch then
        reject s "agent_run.network_recovery_input_unsafe" "Runtime input was accepted or its delivery outcome is unknown"
      else if s.hasRecoverySafetyBlocker run.id unsettledEffects then
        reject s "agent_run.network_recovery_effect_unsafe"
          "Approval, Action or Runtime Delivery must settle before network recovery"
      else if s.deadlineElapsed run now || !s.turnRecovers run then
        reject s "agent_run.network_recovery_deadline_fenced" "ThreadTurn is no longer accepting network recovery"
      else
        .ok (.accepted "agent_run.network_recovery_waiting", { s with runs := s.runs.update run.id waitForNetwork })

def blockNetworkRecovery (run : AgentRun) : AgentRun :=
  { run with
    waitReason := some .networkRecoveryBlocked, runtimeRecoveryRequired := false, version := run.version + 1 }

def armRun (run : AgentRun) : AgentRun :=
  { run with waitReason := some .runtimeRecovery, version := run.version + 1 }

def armNetworkRecoveryAttempt (envelope : Envelope) (command : FencedCommand) (attempt : Nat) (facts : ClaimFacts) : Handled :=
  if attempt = 0 then .error "AgentRun network recovery attempt must be positive"
  else if envelope.actor ≠ networkCoordinator then s.coordinatorRequired
  else
    match s.loadRun command.agentRunId with
    | none => s.runNotFound
    | some run =>
      if envelope.campId ≠ some run.campId then
        reject s "agent_run.camp_mismatch" "AgentRun is outside the Thread"
      else if !command.fences run || run.status ≠ .waiting ||
          !(run.waitReason == some .networkRecovery || run.waitReason == some .runtimeRecovery) ||
          !run.runtimeRecoveryRequired then
        reject s "agent_run.network_recovery_fenced" "AgentRun changed before the recovery attempt"
      else if run.cancelRequested || !s.turnRecovers run then
        reject s "agent_run.network_recovery_stopped" "AgentRun recovery is cancelled or no longer active"
      else if s.deadlineElapsed run facts.now then
        reject s "agent_run.network_recovery_stopped" "ThreadTurn Execution Budget deadline has elapsed"
      else if !facts.memberActive || !facts.authorizationCoversSnapshot ||
          !s.networkRecoveryInputIsSafe run.id run.executionEpoch ||
          s.hasRecoverySafetyBlocker run.id facts.unsettledEffects then
        .ok (.applied "agent_run.network_recovery_needs_attention",
          { s with runs := s.runs.update run.id blockNetworkRecovery })
      else
        .ok (.accepted "agent_run.network_recovery_attempt_admitted", { s with runs := s.runs.update run.id armRun })

def recoverNetwork (run : AgentRun) : AgentRun :=
  { run with lastErrorCode := none, version := run.version + 1 }

def completeNetworkRecovery (envelope : Envelope) (command : FencedCommand) : Handled :=
  if envelope.actor ≠ networkCoordinator then s.coordinatorRequired
  else
    match s.loadRun command.agentRunId with
    | none => s.runNotFound
    | some run =>
      if envelope.campId ≠ some run.campId then
        reject s "agent_run.camp_mismatch" "AgentRun is outside the Thread"
      else if !command.fences run || run.status ≠ .running then
        reject s "agent_run.network_recovery_fenced" "AgentRun changed before recovery progress was recorded"
      else if !s.inputs.any (fun i =>
          i.agentRunId == run.id && i.executionEpoch == run.executionEpoch && i.status == .accepted) then
        reject s "agent_run.network_recovery_progress_unproven"
          "Accepted Runtime input is required to complete network recovery"
      else if run.lastErrorCode ≠ some "runtime_network_interrupted" then
        reject s "agent_run.network_recovery_not_active" "AgentRun has no active network recovery cycle"
      else
        .ok (.accepted "agent_run.network_recovery_progressed", { s with runs := s.runs.update run.id recoverNetwork })

/-! ## The end of a Run -/

def closeUnknownOutcome (run : AgentRun) : AgentRun :=
  { run with
    status := .failed, waitReason := none, runtimeRecoveryRequired := false
    lastErrorCode := some "accepted_input_outcome_unknown", version := run.version + 1 }

def resolveAcceptedInputRecoveryBlocker (envelope : Envelope) (runId campId : String) (expectedVersion unsettledEffects : Nat) :
    Handled :=
  if !envelope.actor.isUser then
    reject s "agent_run.recovery_blocker_user_required" "Only the local user may close an accepted-input recovery blocker"
  else
    match s.runs.find? runId with
    | none => s.runNotFound
    | some run =>
      if campId ≠ run.campId || envelope.campId ≠ some run.campId then
        reject s "agent_run.camp_mismatch" "AgentRun is outside the Thread"
      else if run.version ≠ expectedVersion then
        reject s "agent_run.version_conflict" "AgentRun version is stale"
      else if run.status ≠ .waiting || run.waitReason ≠ some .recoveryBlocked || run.runtimeRecoveryRequired then
        reject s "agent_run.recovery_blocker_fenced" "AgentRun is not an accepted-input recovery blocker"
      else if run.cancelRequested then
        reject s "agent_run.recovery_blocker_fenced" "AgentRun is already being closed by another command"
      else if !s.hasAcceptedRuntimeInput runId then
        reject s "agent_run.accepted_input_missing" "Recovery blocker no longer has accepted Runtime input evidence"
      else if s.hasTerminalSafetyBlocker runId unsettledEffects then
        reject s "agent_run.terminal_safety_blocked"
          "Approval, Action or Runtime Delivery must settle before the blocker can close"
      else
        .ok (.applied "agent_run.accepted_input_outcome_unknown",
          { s with runs := s.runs.update runId closeUnknownOutcome
            }.settleBatchDeliveries run .cancelled (some "user_requested_agent_run_stop"))

def requestAgentRunCancellation (envelope : Envelope) (runId campId : String) (expectedVersion : Nat) : Handled :=
  if !envelope.actor.isUser then
    reject s "agent_run.cancel_user_required" "Only a User can stop an AgentRun"
  else
    match s.runs.find? runId with
    | none => s.runNotFound
    | some run =>
      if envelope.campId ≠ some run.campId || campId ≠ run.campId then
        reject s "agent_run.camp_mismatch" "AgentRun is outside the Thread"
      else if terminal run.status then .ok (.applied "agent_run.already_terminal", s)
      else if run.version ≠ expectedVersion then
        reject s "command.version_conflict" ""
      else if run.status = .waiting ∧ run.waitReason = some .recoveryBlocked then
        reject s "agent_run.recovery_blocker_requires_resolution"
          "Recovery-blocked AgentRuns must use their dedicated resolution action"
      else if (s.turnOf run).any CampTurn.cancelRequested then
        reject s "agent_run.turn_cancellation_in_progress" "The owning ThreadTurn is already stopping"
      else
        match s.settleAbortiveAgentRunInTx runId "user_requested_agent_run_stop" with
        | .error message => .error message
        | .ok settled => .ok (.applied "agent_run.cancelled", settled)

structure TerminalFacts where
  unsettledEffects : Nat
  singleChatRouteMatches : Bool

def validateTerminalTarget (campId : Option String) (run : AgentRun) (command : FencedCommand) (facts : TerminalFacts) :
    Option (String × String) :=
  if campId ≠ some run.campId then some ("agent_run.camp_mismatch", "AgentRun is outside the Thread")
  else if run.version ≠ command.expectedVersion then some ("agent_run.version_conflict", "AgentRun version is stale")
  else if run.status ≠ .running || run.executionEpoch ≠ command.executionEpoch then
    some ("agent_run.terminal_fenced", "AgentRun terminal update is stale or the Run is not active")
  else if run.cancelRequested then
    some ("agent_run.terminal_fenced", "AgentRun was stopped before its terminal output arrived")
  else if run.hasFinalOutput then some ("agent_run.output_already_recorded", "AgentRun already has a final output")
  else if run.invocationKind == .singleChat && (!facts.singleChatRouteMatches ||
      !(s.conversations.find? run.conversationId).any (fun c => c.kind == .singleChat && !c.ended)) then
    some ("agent_run.terminal_fenced", "Single Chat output route is closed or does not match the active Conversation")
  else if s.hasTerminalSafetyBlocker run.id facts.unsettledEffects then
    some ("agent_run.terminal_safety_blocked",
      "Approval, Action or Runtime Delivery must settle before the Run can become terminal")
  else none

def succeedRun (terminalReasonCode : Option String) (cleanupRequired finalOutput : Bool) (run : AgentRun) : AgentRun :=
  { run with
    status := .succeeded, waitReason := none, runtimeRecoveryRequired := false
    terminalResolutionSource := some "runtime_terminal", terminalReasonCode := terminalReasonCode
    cancelRequested := run.cancelRequested || cleanupRequired
    cancelReasonCode :=
      if cleanupRequired then some (run.cancelReasonCode.getD "runtime_host_release_pending") else run.cancelReasonCode
    hasFinalOutput := finalOutput, version := run.version + 1 }

def recordChatOutput (conversation : Conversation) : Conversation :=
  { conversation with version := conversation.version + 1 }

def succeedAgentRun (envelope : Envelope) (command : FencedCommand) (nativeTurnId : String)
    (terminalReasonCode : Option String) (cleanupRequired finalOutput : Bool) (facts : TerminalFacts) : Handled :=
  if isBlank nativeTurnId then .error "nativeTurnId must not be empty"
  else if !isRuntimeAdapter envelope.actor then
    reject s "runtime.adapter_required" "AgentRun completion requires a Runtime Adapter"
  else
    match s.loadRun command.agentRunId with
    | none => s.runNotFound
    | some run =>
      match s.validateTerminalTarget envelope.campId run command facts with
      | some (code, message) => reject s code message
      | none =>
        let succeeded := s.runs.update run.id (succeedRun terminalReasonCode cleanupRequired finalOutput)
        if run.invocationKind = .singleChat then
          .ok (.applied "agent_run.succeeded",
            { s with runs := succeeded, conversations := s.conversations.update run.conversationId recordChatOutput })
        else
          .ok (.applied "agent_run.succeeded", { s with runs := succeeded }.settleBatchDeliveries run .succeeded none)

def failAgentRun (envelope : Envelope) (command : FencedCommand) (errorCode : String) (terminalResolutionSource : Option String)
    (cleanupRequired : Bool) (facts : TerminalFacts) : Handled :=
  if isBlank errorCode then .error "AgentRun errorCode must not be empty"
  else if !isRuntimeAdapter envelope.actor then
    reject s "runtime.adapter_required" "AgentRun failure requires a Runtime Adapter"
  else
    match s.loadRun command.agentRunId with
    | none => s.runNotFound
    | some run =>
      if terminalResolutionSource = none && run.runtimeAdapterKind == some .codexCli && command.fences run &&
          envelope.campId == some run.campId &&
          s.inputs.any (fun i => i.agentRunId == run.id && i.mayHaveRun) then
        s.failLostAgentRunInTx run.id
      else
        match s.validateTerminalTarget envelope.campId run command facts with
        | some (code, message) => reject s code message
        | none => s.settleFailedAgentRunInTx run ⟨command.expectedVersion, command.executionEpoch, errorCode⟩
            terminalResolutionSource cleanupRequired

def rejectRun (errorCode : String) (run : AgentRun) : AgentRun :=
  { run with
    status := .failed, waitReason := none, runtimeRecoveryRequired := false
    lastErrorCode := some errorCode, version := run.version + 1 }

def rejectAgentRunDispatch (envelope : Envelope) (runId : String) (expectedVersion : Nat) (errorCode : String) : Handled :=
  if isBlank errorCode then .error "AgentRun dispatch errorCode must not be empty"
  else if envelope.actor ≠ .system "agent-run-scheduler" then
    reject s "agent_run.scheduler_required" "AgentRun dispatch rejection requires the scheduler"
  else
    match s.loadRun runId with
    | none => s.runNotFound
    | some run =>
      if envelope.campId ≠ some run.campId then
        reject s "agent_run.camp_mismatch" "AgentRun is outside the Thread"
      else if run.version ≠ expectedVersion then
        reject s "agent_run.version_conflict" "AgentRun version is stale"
      else if !(run.status == .queued || run.status == .waiting) || run.cancelRequested then
        reject s "agent_run.dispatch_fenced" "AgentRun is no longer awaiting dispatch"
      else if !claimableState run then
        reject s "agent_run.dispatch_fenced" "AgentRun changed before dispatch rejection was persisted"
      else
        .ok (.applied "agent_run.dispatch_rejected",
          { s with runs := s.runs.update run.id (rejectRun errorCode)
            }.settleBatchDeliveries run .failed (some errorCode))

def canReplaceSessionBeforeDispatch (runId : String) (executionEpoch : Nat) : Bool :=
  (s.runs.find? runId).any (fun run => run.executionEpoch == executionEpoch && active run.status &&
    !run.cancelRequested && !run.runtimeRecoveryRequired) &&
  !s.inputs.any (fun i => i.agentRunId == runId &&
    (i.status == .accepted || i.status == .deliveryUnknown || i.dispatchStarted))

def rebindRun (adapterKind : AdapterKind) (run : AgentRun) : AgentRun :=
  { run with
    runtimeAdapterKind := some adapterKind, runtimeRebindCount := run.runtimeRebindCount + 1
    version := run.version + 1 }

def rebindAgentRunRuntime (envelope : Envelope) (runId : String) (expectedVersion : Nat) (adapterKind : AdapterKind)
    (runtimeRefusal : Option (String × String)) : Handled :=
  if envelope.actor ≠ .system "agent-run-scheduler" then
    reject s "agent_run.scheduler_required" "AgentRun Runtime rebind requires the scheduler"
  else
    match s.loadRun runId with
    | none => s.runNotFound
    | some run =>
      let initializing := run.status == .running && run.waitReason == some .runtimeInitializing &&
        s.canReplaceSessionBeforeDispatch run.id run.executionEpoch
      if envelope.campId ≠ some run.campId then
        reject s "agent_run.camp_mismatch" "AgentRun is outside the Thread"
      else if run.version ≠ expectedVersion then
        reject s "agent_run.version_conflict" "AgentRun version is stale"
      else if (!(run.status == .queued || run.status == .waiting) && !initializing) || run.cancelRequested then
        reject s "agent_run.runtime_rebind_fenced" "AgentRun is no longer awaiting dispatch"
      else if 1 ≤ run.runtimeRebindCount then
        reject s "agent_run.runtime_rebind_limit_reached" "AgentRun Runtime was already rebound once"
      else
        match runtimeRefusal with
        | some (code, message) => reject s code message
        | none =>
          if claimableState run || (run.status == .running && run.waitReason == some .runtimeInitializing) then
            .ok (.applied "agent_run.runtime_rebound", { s with runs := s.runs.update run.id (rebindRun adapterKind) })
          else reject s "agent_run.runtime_rebind_fenced" "AgentRun changed before Runtime rebind was persisted"

/-! ## Planned shutdown -/

inductive TerminalOutcome where
  | succeeded
  | failed
  | cancelled
  | interrupted

def plannedShutdownAbortiveTerminalFacts : TerminalOutcome → Except String (AgentRunStatus × String)
  | .failed => .ok (.failed, "planned_shutdown_failed")
  | .cancelled => .ok (.cancelled, "planned_shutdown_cancelled")
  | .interrupted => .ok (.failed, "runtime_interrupted")
  | .succeeded => .error "planned shutdown abortive settlement cannot record success"

def abortRun (status : AgentRunStatus) (terminalReasonCode errorCode : String) (run : AgentRun) : AgentRun :=
  { run with
    status := status, waitReason := none, runtimeRecoveryRequired := false
    terminalResolutionSource := some "runtime_terminal", terminalReasonCode := some terminalReasonCode
    cancelRequested := run.cancelRequested || run.runtimeAdapterKind == some .codexCli
    cancelReasonCode :=
      if run.runtimeAdapterKind = some .codexCli then some "runtime_host_release_pending" else run.cancelReasonCode
    lastErrorCode := some errorCode, version := run.version + 1 }

def settlePlannedShutdownAbortiveTerminal (permitAuthorizes : Bool) (runId : String) (executionEpoch : Nat)
    (outcome : TerminalOutcome) (errorCode : String) : Except String (AgentRunStatus × Store) :=
  match plannedShutdownAbortiveTerminalFacts outcome with
  | .error message => .error message
  | .ok (status, reason) =>
    if isBlank errorCode then .error "planned shutdown terminal errorCode must not be empty"
    else if !permitAuthorizes then .error "planned shutdown terminal permit does not match the terminal target"
    else
      match s.loadRun runId with
      | none => .error "planned shutdown terminal AgentRun does not exist"
      | some run =>
        if run.executionEpoch ≠ executionEpoch then .error "planned shutdown terminal execution epoch is stale"
        else if terminal run.status then
          if run.status ≠ status || run.terminalResolutionSource ≠ some "runtime_terminal" ||
              run.terminalReasonCode ≠ some reason then
            .error "AgentRun already has a conflicting terminal settlement"
          else .ok (status, s)
        else if !active run.status || run.cancelRequested then
          .error "planned shutdown terminal target is no longer active"
        else if run.hasFinalOutput then
          .error "planned shutdown abortive terminal target already has final output"
        else
          let closed := s.closeAbortiveRunEffects runId
          .ok (status, { closed with runs := closed.runs.update runId (abortRun status reason errorCode)
            }.settleBatchDeliveries run status (some errorCode))

structure ShutdownCycle where
  protocolVersion : Nat
  settled : Bool

def settleAbortiveCampTurns (reasonCode : String) : Store → List String → Except String Store
  | s, [] => .ok s
  | s, campTurnId :: rest =>
    match s.settleAbortiveCampTurnInTx campTurnId reasonCode with
    | .error message => .error message
    | .ok s' => settleAbortiveCampTurns reasonCode s' rest

def settleControlledShutdownRuns (cycle : ShutdownCycle) : Except String Store :=
  if !(cycle.protocolVersion == 2 || cycle.protocolVersion == 3) then
    .error "controlled shutdown cycle protocol is unsupported"
  else if cycle.settled then .ok s
  else
    let reason := if cycle.protocolVersion = 3 then "app_shutdown_cancel_all" else "planned_shutdown_cancelled"
    let targets := s.nonterminalRuns (fun run => run.campTurnId == none)
    match settleAbortiveCampTurns reason s ((s.turns.rows.filter CampTurn.live).map CampTurn.id) with
    | .error message => .error message
    | .ok s' => settleAbortiveAgentRuns reason s' targets

end Store
end Rovai.AgentRuns
