import RovaiCore.Tables
/-!
# The execution card of a Run (`channel.rs`)

A console is the card that shows one Run in an external conversation.
-/
namespace Rovai.Consoles

open Tables (Table)

/-! ## Rows -/

inductive AgentRunStatus where
  | queued | running | waiting | succeeded | failed | cancelled
  deriving DecidableEq

def AgentRunStatus.terminal : AgentRunStatus → Bool
  | .succeeded | .failed | .cancelled => true
  | .queued | .running | .waiting => false

/-- What the cards show of a Run: its status and version, the last of its evidence and of its public output, and whether a text of
it is still being written. -/
structure RunFacts where
  status : AgentRunStatus
  (version evidenceSequence outputSequence : Nat)
  streamingText : Bool
  (startedAt endedAt : Option Nat)

structure AgentRun where
  id : String
  createdAt : Nat
  facts : RunFacts

inductive ConsoleState where
  | opening | active | terminalPending | terminalSealed | recallPending | recalled | recallFailed
  deriving DecidableEq

def ConsoleState.sealed : ConsoleState → Bool
  | .terminalSealed | .recallPending | .recalled | .recallFailed => true
  | .opening | .active | .terminalPending => false

def ConsoleState.inRecall : ConsoleState → Bool
  | .recallPending | .recalled | .recallFailed => true
  | .opening | .active | .terminalPending | .terminalSealed => false

structure ExecutionConsole where
  (id agentRunId requestId channelConversationId agentId targetAppId : String)
  externalMessageId : Option String
  (latestSequence deliveredSequence : Nat)
  latestSnapshotDigest : String
  state : ConsoleState
  (terminalSnapshot failureCode : Option String)
  updatedAt : Nat
  recalledAt : Option Nat

inductive DeliveryStatus where
  | pending | attempting | sent | failed
  deriving DecidableEq

/-- `execution_console_upsert:{console}:{sequence}` or `execution_console_recall:{console}:{successor}`. -/
inductive DedupeKey where
  | upsert (consoleId : String) (sequence : Nat)
  | recall (consoleId successorRunId : String)
  deriving DecidableEq

inductive DeliveryPayload where
  | upsert (agentRunId : String) (expectedSequence : Nat)
  | recall

structure ChannelDelivery where
  (id requestId consoleId : String)
  dedupeKey : DedupeKey
  (targetAppId sourceAgentId : String)
  payload : DeliveryPayload
  status : DeliveryStatus
  (attemptCount availableAt : Nat)
  leaseOwner : Option String
  leaseExpiresAt : Option Nat
  (externalDeliveryMessageId failureCode : Option String)

structure ChannelStore where
  runs : Table AgentRun.id
  consoles : Table ExecutionConsole.id
  deliveries : Table ChannelDelivery.id

def ChannelStore.empty : ChannelStore := ⟨.empty, .empty, .empty⟩

def ChannelDelivery.carried (d : ChannelDelivery) : Option Nat :=
  match d.payload with
  | .upsert _ expectedSequence => some expectedSequence
  | .recall => none

variable (consoleId : String) (d : ChannelDelivery)

def ChannelDelivery.isUpsertOf : Bool :=
  d.consoleId == consoleId && d.carried.isSome

def ChannelDelivery.isRecallOf : Bool :=
  d.consoleId == consoleId && d.carried.isNone

def ChannelDelivery.isOpen : Bool :=
  d.status == .pending || d.status == .attempting

def quietWindowMilliseconds : Nat := 900
def deliveryLeaseMilliseconds : Nat := 30000
def maxDeliveryAttempts : Nat := 5

def quietWindowElapsed (previous now : Nat) : Bool :=
  decide (previous + quietWindowMilliseconds ≤ now)

namespace ChannelStore

variable (s : ChannelStore)

/-! ## Queueing -/

def insertConsoleDelivery (delivery : ChannelDelivery) : Except String ChannelStore :=
  if s.deliveries.any (fun d => d.dedupeKey == delivery.dedupeKey) then .ok s
  else if (s.deliveries.find? delivery.id).isSome then .error "UNIQUE constraint failed: channel_delivery.id"
  else .ok { s with deliveries := s.deliveries.insert delivery }

def newDelivery (id requestId consoleId : String) (dedupeKey : DedupeKey) (targetAppId sourceAgentId : String)
    (payload : DeliveryPayload) (now : Nat) : ChannelDelivery where
  id := id
  requestId := requestId
  consoleId := consoleId
  dedupeKey := dedupeKey
  targetAppId := targetAppId
  sourceAgentId := sourceAgentId
  payload := payload
  status := .pending
  attemptCount := 0
  availableAt := now
  leaseOwner := none
  leaseExpiresAt := none
  externalDeliveryMessageId := none
  failureCode := none

def isPendingUpsert (d : ChannelDelivery) : Bool :=
  d.isUpsertOf consoleId && d.status == .pending

def isAttemptingUpsert (d : ChannelDelivery) : Bool :=
  d.isUpsertOf consoleId && d.status == .attempting

def queueExecutionConsoleUpsert (newDeliveryId requestId consoleId agentRunId agentId targetAppId : String)
    (latestSequence now : Nat) : Except String ChannelStore :=
  let payload := DeliveryPayload.upsert agentRunId latestSequence
  if s.deliveries.any (isPendingUpsert consoleId) then
    .ok { s with deliveries := s.deliveries.updateWhere (isPendingUpsert consoleId) (fun d => { d with payload := payload }) }
  else if s.deliveries.any (isAttemptingUpsert consoleId) then .ok s
  else
    s.insertConsoleDelivery (newDelivery newDeliveryId requestId consoleId (.upsert consoleId latestSequence) targetAppId
      agentId payload now)

/-! ## Projecting a Run -/

/-- The arguments of a projection, the ids it makes and the snapshot it would capture. -/
structure Projection where
  (requestId channelConversationId agentRunId agentId targetAppId : String)
  now : Nat
  (newConsoleId newDeliveryId snapshot : String)

def liveState (status : AgentRunStatus) : ConsoleState :=
  if status = .queued then .opening else .active

variable (p : Projection)

def newConsole (digest : String) (state : ConsoleState) (snapshot : Option String) : ExecutionConsole where
  id := p.newConsoleId
  agentRunId := p.agentRunId
  requestId := p.requestId
  channelConversationId := p.channelConversationId
  agentId := p.agentId
  targetAppId := p.targetAppId
  externalMessageId := none
  latestSequence := 1
  deliveredSequence := 0
  latestSnapshotDigest := digest
  state := state
  terminalSnapshot := snapshot
  failureCode := none
  updatedAt := p.now
  recalledAt := none

def advanced (digest : String) (state : ConsoleState) (now : Nat) (console : ExecutionConsole) : ExecutionConsole :=
  { console with
    latestSequence := console.latestSequence + 1, latestSnapshotDigest := digest, state := state, updatedAt := now }

def sealWith (snapshot : String) (now : Nat) (console : ExecutionConsole) : ExecutionConsole :=
  { console with
    latestSequence := console.latestSequence + 1, state := .terminalSealed, updatedAt := now, terminalSnapshot := some snapshot }

def queueFor (consoleId : String) (latestSequence : Nat) : Except String ChannelStore :=
  s.queueExecutionConsoleUpsert p.newDeliveryId p.requestId consoleId p.agentRunId p.agentId p.targetAppId latestSequence p.now

def projectExisting (facts : RunFacts) (digest : String) (console : ExecutionConsole) :
    Except String ChannelStore :=
  if console.state.sealed then .ok s
  else if facts.status.terminal then
    if console.state ≠ .terminalPending ∨ console.latestSnapshotDigest ≠ digest then
      .ok { s with consoles := s.consoles.update console.id (advanced digest .terminalPending p.now) }
    else if !facts.streamingText && quietWindowElapsed console.updatedAt p.now then
      { s with consoles := s.consoles.update console.id (sealWith p.snapshot p.now) }.queueFor p console.id
        (console.latestSequence + 1)
    else .ok s
  else if console.latestSnapshotDigest = digest ∧ console.state = liveState facts.status then .ok s
  else
    { s with consoles := s.consoles.update console.id (advanced digest (liveState facts.status) p.now) }.queueFor p console.id
      (console.latestSequence + 1)

def projectNew (facts : RunFacts) (digest : String) : Except String ChannelStore :=
  if (s.consoles.find? p.newConsoleId).isSome then .error "UNIQUE constraint failed: channel_execution_console.id"
  else if facts.status.terminal then
    if !facts.streamingText && facts.endedAt.any (fun endedAt => quietWindowElapsed endedAt p.now) then
      { s with consoles := s.consoles.insert (newConsole p digest .terminalSealed (some p.snapshot)) }.queueFor p p.newConsoleId 1
    else .ok { s with consoles := s.consoles.insert (newConsole p digest .terminalPending none) }
  else
    { s with consoles := s.consoles.insert (newConsole p digest (liveState facts.status) none) }.queueFor p p.newConsoleId 1

def materializeExecutionConsole (digest : AgentRunStatus → Nat → Nat → Nat → String) (p : Projection) :
    Except String ChannelStore :=
  match s.runs.find? p.agentRunId with
  | none => .error "FOREIGN KEY constraint failed"
  | some run =>
    let latest := digest run.facts.status run.facts.version run.facts.evidenceSequence run.facts.outputSequence
    match s.consoles.rows.find? (fun console => console.agentRunId == p.agentRunId) with
    | some console => s.projectExisting p run.facts latest console
    | none => s.projectNew p run.facts latest

/-! ## Superseding a card -/

def startOf (agentRunId : String) : Option Nat :=
  (s.runs.find? agentRunId).map (fun run => run.facts.startedAt.getD run.createdAt)

def successorStart (console successor : ExecutionConsole) : Option (Nat × String) :=
  match s.startOf console.agentRunId, (s.runs.find? successor.agentRunId).bind (fun run => run.facts.startedAt) with
  | some own, some started =>
    if successor.channelConversationId = console.channelConversationId ∧ successor.agentId = console.agentId ∧
        (own < started ∨ own = started ∧ console.agentRunId < successor.agentRunId) then some (started, successor.agentRunId)
    else none
  | _, _ => none

def laterSuccessor (a b : Nat × String) : Nat × String :=
  if a.1 < b.1 ∨ a.1 = b.1 ∧ a.2 < b.2 then b else a

def successorRun (console : ExecutionConsole) : Option String :=
  match s.consoles.rows.filterMap (s.successorStart console) with
  | [] => none
  | first :: rest => some (rest.foldl laterSuccessor first).2

variable (now : Nat) (console : ExecutionConsole)

def markRecalled : ExecutionConsole :=
  { console with state := .recalled, failureCode := none, recalledAt := some now, updatedAt := now }

def markRecallPending : ExecutionConsole :=
  { console with state := .recallPending, failureCode := none, recalledAt := none, updatedAt := now }

def recallConsole (successorRunId newDeliveryId : String) (now : Nat) : Except String ChannelStore :=
  let left := { s with deliveries := s.deliveries.deleteWhere (isPendingUpsert console.id) }
  if console.externalMessageId.isNone && !left.deliveries.any (isAttemptingUpsert console.id) then
    .ok { left with consoles := left.consoles.update console.id (markRecalled now) }
  else
    { left with consoles := left.consoles.update console.id (markRecallPending now) }.insertConsoleDelivery
      (newDelivery newDeliveryId console.requestId console.id (.recall console.id successorRunId) console.targetAppId
        console.agentId .recall now)

def reconcileSupersededExecutionConsole (consoleId newDeliveryId : String) (now : Nat) : Except String ChannelStore :=
  match s.consoles.find? consoleId with
  | none => .ok s
  | some console =>
    if !(s.runs.find? console.agentRunId).any (fun run => run.facts.status.terminal) ||
        !(console.state == .terminalSealed || console.state == .recallFailed) then .ok s
    else
      match s.successorRun console with
      | none => .ok s
      | some successorRunId =>
        if s.deliveries.any (fun d => d.dedupeKey == .recall console.id successorRunId) then .ok s
        else if s.deliveries.any (fun d => d.isRecallOf console.id && d.isOpen) then .ok s
        else s.recallConsole console successorRunId newDeliveryId now

/-! ## Claiming and settling -/

def expired (d : ChannelDelivery) : ChannelDelivery :=
  { d with
    status := .pending, leaseOwner := none, leaseExpiresAt := none, failureCode := d.failureCode <|> some "lease_expired"
    availableAt := now }

def expireLeases : ChannelStore :=
  { s with
    deliveries := s.deliveries.updateWhere (fun d => d.status == .attempting && d.leaseExpiresAt.any (fun expires => decide (expires ≤ now))) (expired now) }

def claimed (workerId : String) (now : Nat) (d : ChannelDelivery) : ChannelDelivery :=
  { d with
    status := .attempting, attemptCount := d.attemptCount + 1, leaseOwner := some workerId
    leaseExpiresAt := some (now + deliveryLeaseMilliseconds) }

def claimDelivery (deliveryId workerId : String) (now : Nat) : ChannelStore :=
  match s.deliveries.find? deliveryId with
  | none => s
  | some d =>
    if d.status ≠ .pending ∨ now < d.availableAt ∨
        (d.carried = none ∧ s.deliveries.any (fun d' => d'.isUpsertOf d.consoleId && d'.isOpen)) then s
    else { s with deliveries := s.deliveries.update deliveryId (claimed workerId now) }

inductive Outcome where
  | sent (externalUpdateMessageId : String)
  | failed
  deriving DecidableEq

structure SettleChannelDelivery where
  (deliveryId workerId : String)
  outcome : Outcome
  (externalDeliveryMessageId failureCode : Option String)
  retryable : Bool
  now : Nat
  newDeliveryId : String

def retryScheduled (failureCode : Option String) (now : Nat) (d : ChannelDelivery) : ChannelDelivery :=
  { d with
    status := .pending, availableAt := now + 2 ^ min d.attemptCount 5 * 1000, leaseOwner := none, leaseExpiresAt := none
    failureCode := failureCode }

variable (command : SettleChannelDelivery) (d : ChannelDelivery)

def settled : ChannelDelivery :=
  { d with
    status := match command.outcome with
      | .sent _ => .sent
      | .failed => .failed
    externalDeliveryMessageId := command.externalDeliveryMessageId, failureCode := command.failureCode, leaseOwner := none
    leaseExpiresAt := none }

def shown (externalMessageId : String) (expectedSequence now : Nat) (console : ExecutionConsole) : ExecutionConsole :=
  { console with
    externalMessageId := console.externalMessageId <|> some externalMessageId
    deliveredSequence := max console.deliveredSequence (min console.latestSequence expectedSequence)
    failureCode := none, updatedAt := now }

def markFailed (failureCode : Option String) (now : Nat) (console : ExecutionConsole) : ExecutionConsole :=
  { console with failureCode := failureCode, updatedAt := now }

def endRecall (console : ExecutionConsole) : ExecutionConsole :=
  if console.state = .recalled then console
  else
    match command.outcome with
    | .sent _ => markRecalled command.now console
    | .failed =>
      { console with
        state := .recallFailed, failureCode := command.failureCode, recalledAt := some command.now, updatedAt := command.now }

theorem endRecall_id (console : ExecutionConsole) :
    (endRecall command console).id = console.id := by
  unfold endRecall
  split
  · rfl
  · split <;> rfl

def settleSentUpsert (externalMessageId : String)
    (expectedSequence : Nat) : Except String ChannelStore :=
  match s.consoles.find? d.consoleId with
  | none => .error "execution console external message identity changed unexpectedly"
  | some console =>
    if console.externalMessageId.any (· != externalMessageId) then
      .error "execution console external message identity changed unexpectedly"
    else
      let now := shown externalMessageId expectedSequence command.now console
      let after := { s with consoles := s.consoles.update d.consoleId (shown externalMessageId expectedSequence command.now) }
      if now.deliveredSequence < now.latestSequence ∧ now.state.inRecall = false then
        after.queueExecutionConsoleUpsert command.newDeliveryId d.requestId d.consoleId console.agentRunId d.sourceAgentId
          d.targetAppId now.latestSequence command.now
      else .ok after

def settleConsole : Except String ChannelStore :=
  match d.payload, command.outcome with
  | .upsert _ expectedSequence, .sent externalMessageId => s.settleSentUpsert command d externalMessageId expectedSequence
  | .upsert _ _, .failed =>
    .ok { s with consoles := s.consoles.update d.consoleId (markFailed command.failureCode command.now) }
  | .recall, _ => .ok { s with consoles := s.consoles.update d.consoleId (endRecall command) (endRecall_id command) }

def retries : Bool :=
  command.outcome == .failed && command.retryable && decide (d.attemptCount < maxDeliveryAttempts)

def settleDelivery : Except String ChannelStore :=
  match s.deliveries.find? command.deliveryId with
  | none => .ok s
  | some d =>
    if d.status ≠ .attempting ∨ d.leaseOwner ≠ some command.workerId then .ok s
    else if retries command d then
      .ok { s with
        deliveries := s.deliveries.update command.deliveryId (retryScheduled command.failureCode command.now) }
    else { s with deliveries := s.deliveries.update command.deliveryId (settled command) }.settleConsole command d

end ChannelStore

open ChannelStore (SettleChannelDelivery settled) in
def closed (s : ChannelStore) (command : SettleChannelDelivery) (d : ChannelDelivery) (f : ExecutionConsole → ExecutionConsole)
    (hf : ∀ c, (f c).id = c.id) : ChannelStore :=
  { s with
    deliveries := s.deliveries.update command.deliveryId (settled command), consoles := s.consoles.update d.consoleId f hf }

/-! ## The system -/

inductive Action where
  | addRun (run : AgentRun)
  | changeRun (agentRunId : String) (facts : RunFacts)
  | materialize (p : ChannelStore.Projection)
  | reconcileSuperseded (consoleId newDeliveryId : String) (now : Nat)
  | expireLeases (now : Nat)
  | claim (deliveryId workerId : String) (now : Nat)
  | settle (command : ChannelStore.SettleChannelDelivery)

def changedRun (facts : RunFacts) (run : AgentRun) : AgentRun :=
  if run.facts.status.terminal ∧ facts.status ≠ run.facts.status then run else { run with facts := facts }

theorem changedRun_id (facts : RunFacts) (run : AgentRun) : (changedRun facts run).id = run.id := by
  unfold changedRun
  split <;> rfl

section
variable (digest : AgentRunStatus → Nat → Nat → Nat → String) (s : ChannelStore)

def ChannelStore.perform : Action → Except String ChannelStore
  | .addRun run => .ok { s with runs := s.runs.insert run }
  | .changeRun agentRunId facts =>
    .ok { s with runs := s.runs.update agentRunId (changedRun facts) (changedRun_id facts) }
  | .materialize p => s.materializeExecutionConsole digest p
  | .reconcileSuperseded consoleId newDeliveryId now => s.reconcileSupersededExecutionConsole consoleId newDeliveryId now
  | .expireLeases now => .ok (s.expireLeases now)
  | .claim deliveryId workerId now => .ok (s.claimDelivery deliveryId workerId now)
  | .settle command => s.settleDelivery command

def ChannelStore.step (a : Action) : ChannelStore :=
  match s.perform digest a with
  | .ok t => t
  | .error _ => s

def ChannelStore.run (as : List Action) : ChannelStore :=
  as.foldl (ChannelStore.step digest) s

end
end Rovai.Consoles
