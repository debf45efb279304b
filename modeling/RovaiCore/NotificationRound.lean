import RovaiCore.Tables
import RovaiCore.RecursiveQuery
import Mathlib.Data.List.Sort
import Mathlib.Data.String.Basic
/-!
# The end of a round (`notification_model_schema.sql`)

A round of a Thread is a component of the graph of its public messages and its batch Runs.
-/
namespace Rovai.Rounds

open Tables (Table)

/-! ## Rows -/

inductive RunStatus where
  | queued | running | waiting | succeeded | failed | cancelled
  deriving DecidableEq

def RunStatus.terminal : RunStatus → Bool
  | .succeeded | .failed | .cancelled => true
  | .queued | .running | .waiting => false

inductive InvocationKind where
  | batch | singleChat
  deriving DecidableEq

structure AgentRun where
  (id campId : String)
  invocationKind : InvocationKind
  status : RunStatus

inductive AuthorType where
  | user | externalPrincipal | agent
  deriving DecidableEq

def AuthorType.asks : AuthorType → Bool
  | .user | .externalPrincipal => true
  | .agent => false

inductive RecallState where
  | ineligible | recallable | closed | withdrawn
  deriving DecidableEq

structure CampMessage where
  (id campId : String)
  sequence : Nat
  authorType : AuthorType
  sourceAgentRunId : Option String
  tombstoned : Bool
  recallState : RecallState

structure AgentRunInput where
  (agentRunId messageId : String)
  deriving DecidableEq

inductive DeliveryMode where
  | start | steer
  deriving DecidableEq

inductive DeliveryStatus where
  | waiting | claimed | settled | failed | cancelled
  deriving DecidableEq

structure CampMessageDelivery where
  (id messageId : String)
  requestedMode : DeliveryMode
  status : DeliveryStatus
  (claimedAgentRunId failureCode : Option String)

structure NotificationRound where
  (id campId lastAgentRunId : String)
  sourceMessageId : Option String
  runIds : List String

/-- The tables; `published` holds the messages whose publication is in the event log, `inputMarkers` the Run and the message of each
marker that `execution_input::record` leaves. -/
structure RoundStore where
  runs : Table AgentRun.id
  messages : Table CampMessage.id
  inputs : List AgentRunInput
  deliveries : Table CampMessageDelivery.id
  published : List String
  inputMarkers : List (String × String)
  rounds : Table NotificationRound.id
  probe : List String

def RoundStore.empty : RoundStore := ⟨.empty, .empty, [], .empty, [], [], .empty, []⟩

inductive Node where
  | run (id : String)
  | message (id : String)
  deriving DecidableEq

namespace RoundStore

variable (s : RoundStore)

/-! ## The component of a Run -/

def linked (campId : String) : Node → List Node
  | .run id =>
    (s.inputs.filter (fun input => input.agentRunId == id)).map (fun input => .message input.messageId) ++
      (s.messages.rows.filter (fun m => m.sourceAgentRunId == some id && m.campId == campId)).map (fun m => .message m.id)
  | .message id =>
    (s.inputs.filter (fun input => input.messageId == id)).map (fun input => .run input.agentRunId) ++
      (s.messages.rows.filter (fun m => m.id == id)).flatMap (fun m =>
        (s.runs.rows.filter (fun r =>
          m.sourceAgentRunId == some r.id && r.campId == m.campId && r.invocationKind == .batch)).map (fun r => .run r.id))

def component (run : AgentRun) : Finset Node :=
  RecursiveQuery.close (s.linked run.campId) (s.runs.rows.length + s.messages.rows.length) {.run run.id}

def latest : List CampMessage → Option CampMessage
  | [] => none
  | m :: ms => some (ms.foldl (fun a b => if a.sequence < b.sequence then b else a) m)

def roundOf (runId : String) : Option NotificationRound :=
  match s.runs.find? runId with
  | none => none
  | some run =>
    let component := s.component run
    let messages := s.messages.rows.filter (fun m => decide (.message m.id ∈ component))
    let runs := s.runs.rows.filter (fun r => decide (.run r.id ∈ component))
    if runs ≠ [] ∧ runs.all (fun r => r.status == .succeeded && r.invocationKind == .batch) ∧
        s.deliveries.rows.all (fun d => decide (.message d.messageId ∈ component → d.status = .settled)) ∧
        messages.all (fun m => !m.tombstoned && s.published.contains m.id) then
      ((messages.filter (fun m => m.authorType.asks)).map (·.id)).min?.map fun root =>
        { id := root, campId := run.campId, lastAgentRunId := runId,
          sourceMessageId := (latest (messages.filter (fun m => m.authorType == .agent && !m.tombstoned))).map (·.id)
          runIds := (runs.map (·.id)).insertionSort (· ≤ ·) }
    else none

/-! ## Triggers -/

def roundCheck (runId : String) : RoundStore :=
  { s with
    rounds := match s.roundOf runId with
      | some round => s.rounds.insert round
      | none => s.rounds
    probe := s.probe.filter (fun probed => probed != runId) }

def insertProbe (runId : String) : RoundStore :=
  if s.probe.contains runId then s else { s with probe := runId :: s.probe }.roundCheck runId

def updateRunStatus (runId : String) (status : RunStatus) : RoundStore :=
  match s.runs.find? runId with
  | none => s
  | some run =>
    let updated := { s with runs := s.runs.update runId (fun r => { r with status := status }) }
    if run.invocationKind = .batch ∧ status = .succeeded ∧ run.status ≠ .succeeded then updated.insertProbe runId else updated

structure DeliveryWrite where
  write : CampMessageDelivery → CampMessageDelivery
  id : ∀ d, (write d).id = d.id
  messageId : ∀ d, (write d).messageId = d.messageId

def updateDelivery (w : DeliveryWrite) (deliveryId : String) : RoundStore :=
  match s.deliveries.find? deliveryId with
  | none => s
  | some d =>
    let updated := { s with deliveries := s.deliveries.update deliveryId w.write w.id }
    match (w.write d).claimedAgentRunId with
    | some runId => if (w.write d).status = .settled ∧ d.status ≠ .settled then updated.insertProbe runId else updated
    | none => updated

/-- The rows that meet the condition of the statement, one after the other. -/
def updateDeliveries (p : CampMessageDelivery → Bool) (w : DeliveryWrite) : RoundStore :=
  ((s.deliveries.rows.filter p).map (·.id)).foldl (fun t id => t.updateDelivery w id) s

def logPublication (message : CampMessage) : RoundStore :=
  let logged := { s with published := message.id :: s.published }
  match message.sourceAgentRunId with
  | some runId => logged.insertProbe runId
  | none => logged

/-! ## Publishing -/

def newDelivery (messageId id : String) : CampMessageDelivery where
  id := id
  messageId := messageId
  requestedMode := .start
  status := .waiting
  claimedAgentRunId := none
  failureCode := none

def nextSequence (campId : String) : Nat :=
  (s.messages.rows.filter (fun m => m.campId == campId)).length + 1

def publish (message : CampMessage) (deliveryIds : List String) : Except String RoundStore :=
  if (s.messages.find? message.id).isSome then .error "UNIQUE constraint failed: camp_message.id"
  else if deliveryIds.any (fun id => (s.deliveries.find? id).isSome) then
    .error "UNIQUE constraint failed: camp_message_delivery.id"
  else
    .ok ({ s with
      messages := s.messages.insert message
      deliveries := deliveryIds.foldl (fun t id => t.insert (newDelivery message.id id)) s.deliveries }.logPublication message)

def askedMessage (authorType : AuthorType) (id campId : String) (deliveryIds : List String) : CampMessage where
  id := id
  campId := campId
  sequence := s.nextSequence campId
  authorType := authorType
  sourceAgentRunId := none
  tombstoned := false
  recallState := if authorType = .user ∧ deliveryIds ≠ [] then .recallable else .ineligible

def agentMessage (id campId agentRunId : String) : CampMessage where
  id := id
  campId := campId
  sequence := s.nextSequence campId
  authorType := .agent
  sourceAgentRunId := some agentRunId
  tombstoned := false
  recallState := .ineligible

def publishFromRun (messageId agentRunId : String) (deliveryIds : List String) : Except String RoundStore :=
  match s.runs.find? agentRunId with
  | none => .error "agent_run.not_found"
  | some run =>
    if run.status ≠ .running then .error "agent_run.not_running"
    else s.publish (s.agentMessage messageId run.campId agentRunId) deliveryIds

/-! ## Steering -/

def steered (runId : String) : DeliveryWrite where
  write d := { d with requestedMode := .steer, status := .claimed, claimedAgentRunId := some runId }
  id _ := rfl
  messageId _ := rfl

/-- `status IN ('queued', 'running', 'waiting')` of a batch Run of the Thread. -/
def steerable (campId runId : String) : Bool :=
  (s.runs.find? runId).any (fun run => run.campId == campId && run.invocationKind == .batch && !run.status.terminal)

def closeRecall (message : CampMessage) : CampMessage :=
  if message.recallState = .recallable then { message with recallState := .closed } else message

theorem closeRecall_id (message : CampMessage) : (closeRecall message).id = message.id := by
  unfold closeRecall
  split <;> rfl

def routeTo (message : CampMessage) (target : String × String) : RoundStore :=
  if (s.deliveries.find? target.1).any (fun d => d.messageId == message.id && d.status == .waiting) &&
      s.steerable message.campId target.2 then
    let claimed := s.updateDelivery (steered target.2) target.1
    { claimed with
      inputMarkers := (target.2, message.id) :: claimed.inputMarkers
      messages := claimed.messages.update message.id closeRecall closeRecall_id }
  else s

def routeUserMessage (message : CampMessage) (targets : List (String × String)) : RoundStore :=
  targets.foldl (fun t target => t.routeTo message target) s

/-- A user's message may be steered with its publication, an external one never is. -/
def publishAsked (authorType : AuthorType) (id campId : String) (deliveryIds : List String) (targets : List (String × String)) :
    Except String RoundStore :=
  let message := s.askedMessage authorType id campId deliveryIds
  match s.publish message deliveryIds with
  | .error e => .error e
  | .ok t => .ok (if authorType = .user then t.routeUserMessage message targets else t)

/-! ## Claiming -/

def claimedBy (runId : String) (failed : Bool) : DeliveryWrite where
  write d :=
    { d with
      status := if failed then .failed else .claimed
      claimedAgentRunId := some runId }
  id _ := rfl
  messageId _ := rfl

def claimInput (runId : String) (failed : Bool) (deliveryId : String) : RoundStore :=
  match s.deliveries.find? deliveryId with
  | none => s
  | some d =>
    let given : RoundStore := { s with inputs := s.inputs ++ [⟨runId, d.messageId⟩] }
    given.updateDelivery (claimedBy runId failed) deliveryId

def claimable (campId deliveryId : String) : Bool :=
  (s.deliveries.find? deliveryId).any (fun d =>
    d.status == .waiting && (s.messages.find? d.messageId).any (fun m => m.campId == campId))

def closeRecalls (messageIds : List String) : RoundStore :=
  { s with messages := s.messages.updateWhere (fun m => messageIds.contains m.id) closeRecall closeRecall_id }

def newRun (id campId : String) (failed : Bool) : AgentRun where
  id := id
  campId := campId
  invocationKind := .batch
  status := if failed then .failed else .queued

def claimBatch (runId campId : String) (deliveryIds : List String) (failed : Bool) : Except String RoundStore :=
  if (s.runs.find? runId).isSome then .error "UNIQUE constraint failed: agent_run.id"
  else if deliveryIds.Nodup ∧ deliveryIds.all (s.claimable campId) then
    let started := { s with runs := s.runs.insert (newRun runId campId failed) }
    let claimed := deliveryIds.foldl (fun t id => t.claimInput runId failed id) started
    .ok (claimed.closeRecalls (deliveryIds.filterMap (fun id => (s.deliveries.find? id).map (·.messageId))))
  else .error "delivery changed"

/-! ## Settling -/

inductive Settlement where
  | succeeded | failed | cancelled
  deriving DecidableEq

def Settlement.runStatus : Settlement → RunStatus
  | .succeeded => .succeeded
  | .failed => .failed
  | .cancelled => .cancelled

def Settlement.deliveryStatus : Settlement → DeliveryStatus
  | .succeeded => .settled
  | .failed => .failed
  | .cancelled => .cancelled

def backToQueue : DeliveryWrite where
  write d := { d with requestedMode := .start, status := .waiting, claimedAgentRunId := none, failureCode := none }
  id _ := rfl
  messageId _ := rfl

def endedAs (status : DeliveryStatus) (failureCode : Option String) : DeliveryWrite where
  write d := { d with status := status, failureCode := failureCode }
  id _ := rfl
  messageId _ := rfl

/-- The inputs that were steered into a Run, by what is known of them: not sent, or perhaps. -/
structure SteerReceipts where
  (notAccepted unknown : List String)

def steeredInto (runId : String) (d : CampMessageDelivery) : Bool :=
  d.claimedAgentRunId == some runId && d.requestedMode == .steer && d.status == .claimed

def settleExecution (runId : String) (settlement : Settlement) (receipts : SteerReceipts) : RoundStore :=
  let returned :=
    if settlement = .succeeded then
      s.updateDeliveries (fun d => steeredInto runId d && receipts.notAccepted.contains d.id) backToQueue
    else s
  returned.updateDeliveries (fun d => steeredInto runId d && receipts.unknown.contains d.id)
    (endedAs .failed (some "input_delivery_unknown"))

def settleRunDeliveries (runId : String) (settlement : Settlement) (failureCode : Option String) (receipts : SteerReceipts) :
    RoundStore :=
  (s.settleExecution runId settlement receipts).updateDeliveries
    (fun d => d.claimedAgentRunId == some runId && d.status == .claimed) (endedAs settlement.deliveryStatus failureCode)

def settleRun (runId : String) (settlement : Settlement) : RoundStore :=
  if (s.runs.find? runId).any (fun run => !run.status.terminal) then s.updateRunStatus runId settlement.runStatus else s

inductive SettlementStatement where
  | run (settlement : Settlement)
  | deliveries (settlement : Settlement) (failureCode : Option String) (receipts : SteerReceipts)

def settleStatement (runId : String) : SettlementStatement → RoundStore
  | .run settlement => s.settleRun runId settlement
  | .deliveries settlement failureCode receipts => s.settleRunDeliveries runId settlement failureCode receipts

def settle (runId : String) (finalMessageId : Option String) (statements : List SettlementStatement) : Except String RoundStore :=
  match finalMessageId with
  | none => .ok (statements.foldl (fun t statement => t.settleStatement runId statement) s)
  | some messageId =>
    match s.publishFromRun messageId runId [] with
    | .error e => .error e
    | .ok t => .ok (statements.foldl (fun t statement => t.settleStatement runId statement) t)

/-! ## Single deliveries -/

variable (deliveryId : String)

def acceptInput : RoundStore :=
  if (s.deliveries.find? deliveryId).any (fun d => d.requestedMode == .steer && (d.status == .claimed || d.status == .failed)) then
    s.updateDelivery (endedAs .settled none) deliveryId
  else s

def returnToQueue : RoundStore :=
  if (s.deliveries.find? deliveryId).any (fun d =>
      d.requestedMode == .steer &&
        (d.status == .claimed || d.status == .failed && d.failureCode == some "input_delivery_unknown") &&
        ((d.claimedAgentRunId.bind s.runs.find?).any fun run =>
          run.status == .running || run.status == .waiting || run.status == .succeeded)) then
    s.updateDelivery backToQueue deliveryId
  else s

def failPreparation : RoundStore :=
  if (s.deliveries.find? deliveryId).any (fun d => d.status == .claimed) then
    s.updateDelivery (endedAs .failed (some "input_preparation_failed")) deliveryId
  else s

def cancelDelivery (deliveryId failureCode : String) : RoundStore :=
  if (s.deliveries.find? deliveryId).any (fun d => d.status == .waiting) then
    s.updateDelivery (endedAs .cancelled (some failureCode)) deliveryId
  else s

/-! ## Taking a message back -/

def withdrawable (message : CampMessage) : Bool :=
  message.authorType == .user && message.recallState == .recallable && !message.tombstoned &&
    !s.deliveries.any (fun d => d.messageId == message.id && d.status != .waiting) &&
    !s.inputs.any (fun input => input.messageId == message.id)

def withdraw (messageId : String) : RoundStore :=
  if (s.messages.find? messageId).any s.withdrawable then
    let cancelled := s.updateDeliveries (fun d => d.messageId == messageId && d.status == .waiting)
      (endedAs .cancelled (some "message_withdrawn"))
    { cancelled with messages := cancelled.messages.update messageId (fun m => { m with recallState := .withdrawn }) }
  else s

def tombstone (messageId : String) : RoundStore :=
  { s with messages := s.messages.update messageId (fun m => { m with tombstoned := true }) }

def moveRun (runId : String) (status : RunStatus) : RoundStore :=
  if (s.runs.find? runId).any (fun run => !run.status.terminal) && !status.terminal then s.updateRunStatus runId status else s

end RoundStore

/-! ## The system -/

open RoundStore (SettlementStatement)

inductive Action where
  | publishUser (id campId : String) (deliveryIds : List String) (targets : List (String × String))
  | publishExternal (id campId : String) (deliveryIds : List String)
  | publishFromRun (messageId agentRunId : String) (deliveryIds : List String)
  | claimBatch (runId campId : String) (deliveryIds : List String) (failed : Bool)
  | moveRun (runId : String) (status : RunStatus)
  | settle (runId : String) (finalMessageId : Option String) (statements : List SettlementStatement)
  | acceptInput (deliveryId : String)
  | returnToQueue (deliveryId : String)
  | failPreparation (deliveryId : String)
  | cancelDelivery (deliveryId failureCode : String)
  | withdraw (messageId : String)
  | tombstone (messageId : String)

def RoundStore.perform (s : RoundStore) : Action → Except String RoundStore
  | .publishUser id campId deliveryIds targets => s.publishAsked .user id campId deliveryIds targets
  | .publishExternal id campId deliveryIds => s.publishAsked .externalPrincipal id campId deliveryIds []
  | .publishFromRun messageId agentRunId deliveryIds => s.publishFromRun messageId agentRunId deliveryIds
  | .claimBatch runId campId deliveryIds failed => s.claimBatch runId campId deliveryIds failed
  | .moveRun runId status => .ok (s.moveRun runId status)
  | .settle runId finalMessageId statements => s.settle runId finalMessageId statements
  | .acceptInput deliveryId => .ok (s.acceptInput deliveryId)
  | .returnToQueue deliveryId => .ok (s.returnToQueue deliveryId)
  | .failPreparation deliveryId => .ok (s.failPreparation deliveryId)
  | .cancelDelivery deliveryId failureCode => .ok (s.cancelDelivery deliveryId failureCode)
  | .withdraw messageId => .ok (s.withdraw messageId)
  | .tombstone messageId => .ok (s.tombstone messageId)

def RoundStore.step (s : RoundStore) (a : Action) : RoundStore :=
  match s.perform a with
  | .ok t => t
  | .error _ => s

def RoundStore.run (as : List Action) : RoundStore :=
  as.foldl RoundStore.step .empty

end Rovai.Rounds
