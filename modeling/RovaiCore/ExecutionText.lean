import RovaiCore.EvidenceWriter
import RovaiCore.ReportedPath
import RovaiCore.TextBody
/-!
# Streaming text (`execution_text.rs`)

A text message of a run is one block: a row of the evidence log and, while it streams, a body in the process.
-/
namespace Rovai

/-! ## Blocks -/

abbrev RunId := String

/-- What tells blocks apart; the source writes the tuple as JSON text. -/
structure BlockKey where
  run : RunId
  epoch : Nat
  kind : String
  native : Option String
  deriving DecidableEq

structure TextBlock where
  id : EvidenceId
  run : RunId
  epoch : Nat
  nativeId : Option String
  kind : String
  (sequence revision changeSequence : Nat)
  startedAt : Timestamp
  body : Body
  utf16Len : Nat

def TextBlock.key (b : TextBlock) : BlockKey := { run := b.run, epoch := b.epoch, kind := b.kind, native := b.nativeId }

structure TextEvidence where
  id : String
  agentRunId : RunId
  (executionEpoch sequence : Nat)
  (revision changeSequence : Option Nat)
  (eventType kind phase : String)
  payload : Json
  contentByteCount : Nat
  occurredAt : Timestamp

def TextBlock.payload (b : TextBlock) (text status : String) : Json :=
  .obj [("blockId", .str b.id), ("blockStartedAt", .num b.startedAt), ("contentLimitExceeded", .bool false),
    ("itemId", .str b.id), ("nativeItemId", Json.ofOptStr b.nativeId), ("status", .str status), ("text", .str text),
    ("textLength", .num b.utf16Len)]

def blockEvent : String := "agent.text.block"

def TextBlock.event (store : ContentStore) (b : TextBlock) (payload : Json) (phase : String) : TextEvidence where
  id := b.id
  agentRunId := b.run
  executionEpoch := b.epoch
  sequence := b.sequence
  revision := some b.revision
  changeSequence := some b.changeSequence
  eventType := blockEvent
  kind := b.kind
  phase := phase
  payload := payload
  contentByteCount := store.encodedLength payload
  occurredAt := b.startedAt

def TextBlock.liveDelta (store : ContentStore) (b : TextBlock) (event text : String) (offset : Nat) : TextEvidence :=
  { b.event store (.obj [("blockId", .str b.id), ("blockStartedAt", .num b.startedAt), ("delta", .str text),
      ("itemId", .str b.id), ("textOffset", .num offset)]) "updated" with
    id := b.id ++ ":delta:" ++ toString offset
    eventType := event
    revision := none
    changeSequence := none }

/-! ## The state -/

inductive AgentRunStatus where
  | queued
  | running
  | waiting
  | succeeded
  | failed
  | cancelled
  deriving DecidableEq

structure AgentRunRecord where
  status : AgentRunStatus
  executionEpoch : Nat
  cancelRequested : Bool

/-- What happened to a block: a delta of an event with a native id was published, or the block was finished. -/
inductive TextChange where
  | published (native : Option String) (delta : TextEvidence)
  | finished (run : RunId) (id : EvidenceId) (authoritative : Option String)

structure FlushRetry where
  (failures retryNotBefore : Nat)

structure TextState where
  runs : RunId → Option AgentRunRecord
  logs : RunId → RunLog
  blocks : List TextBlock
  retry : Option FlushRetry
  history : List TextChange

def TextState.initial : TextState where
  runs := fun _ => none
  logs := fun _ => RunLog.empty
  blocks := []
  retry := none
  history := []

variable (s : TextState)

def TextState.setLog (run : RunId) (log : RunLog) : TextState :=
  { s with logs := fun r => if r = run then log else s.logs r }

def TextState.find (k : BlockKey) : Option TextBlock := s.blocks.find? (fun b => b.key = k)

def maxOpenBlocks : Nat := 128

/-! ## Native ids -/

def jsonEscape (c : Char) : List Char :=
  if c = Char.ofNat 34 then ['\\', Char.ofNat 34]
  else if c = '\\' then ['\\', '\\']
  else if c.toNat = 8 then ['\\', 'b']
  else if c.toNat = 9 then ['\\', 't']
  else if c.toNat = 10 then ['\\', 'n']
  else if c.toNat = 12 then ['\\', 'f']
  else if c.toNat = 13 then ['\\', 'r']
  else if c.toNat < 32 then ['\\', 'u', '0', '0', Nat.digitChar (c.toNat / 16), Nat.digitChar (c.toNat % 16)]
  else [c]

def jsonQuote (s : String) : String := "\"" ++ String.ofList (s.toList.flatMap jsonEscape) ++ "\""

def sourceKey (epoch : Nat) (kind native : String) : String :=
  "text-block:[\"\"," ++ toString epoch ++ "," ++ jsonQuote kind ++ "," ++ jsonQuote native ++ "]"

def isBlank (s : String) : Bool := (trim s.toList).isEmpty

variable (payload : Json)

def nativeIdentity : Option String :=
  ((payload.strField "itemId").filter (fun id => !isBlank id)).or
    ((payload.strField "messageId").filter (fun id => !isBlank id))

def narration : String := "narration"

/-! ## Events -/

def childFields : List String :=
  ["agentId", "sourceAgentId", "subagentId", "parentAgentId", "parentSessionId", "parent_tool_use_id", "parentToolCallId",
    "parent_tool_call_id", "opencode/child-session", "subAgentId", "source_agent_id", "codebuddy.ai/parentToolCallId",
    "replay", "isReplay", "historical", "snapshot", "isSnapshot"]

def marksChild (value : Json) : Bool := childFields.any (fun field => (value.get? field).any (fun v => !v.isNull && v ≠ .bool false))

def isRootOutput : Bool :=
  payload.get? "runtimeRootOutput" ≠ some (.bool false) &&
    [payload, payload.getD "_meta", payload.getD "content", (payload.getD "content").getD "_meta", payload.getD "message",
      payload.getD "assistantMessageEvent", (payload.getD "assistantMessageEvent").getD "partial", payload.getD "payload",
      (payload.getD "payload").getD "_meta", (payload.getD "_meta").getD "github.com/copilot"].all (fun v => !marksChild v)

variable (event : String)

def isTextDelta : Bool := event = "agent.text.delta"

def nativeType : Option String := payload.strAt ["item", "type"]

def privateReasoning (payload : Json) : Bool :=
  ["agent.thought.delta", "agent.thought.block", "agent.thought.started", "agent.thought.completed", "agent.thinking.title",
    "agent.reasoning.summary.delta", "agent.reasoning.summary.block"].contains event || nativeType payload = some "reasoning"

def nativeText : Bool := nativeType payload = some "agentMessage"

def nativeUserMessage : Bool := nativeType payload = some "userMessage"

def isCompletion (payload : Json) : Bool :=
  event = "agent.text.completed" || (event = "activity.completed" && nativeText payload)

def isBoundary : Bool := event = "agent.text.boundary"

def admitted (run : RunId) (epoch : Nat) : Bool :=
  (s.runs run).any (fun r => r.executionEpoch = epoch && [AgentRunStatus.running, .waiting].contains r.status && !r.cancelRequested)

def deltaText : String :=
  (((payload.strField "delta").or (payload.strField "text")).or (payload.strAt ["content", "text"])).getD ""

def completionNative : Option String :=
  ((payload.strAt ["item", "id"]).filter (fun id => !isBlank id)).or (nativeIdentity payload)

def completeText : Option String :=
  ((((payload.pointer ["item", "text"]).or (payload.get? "text")).bind Json.asStr).or
    (((payload.pointer ["item", "summary"]).bind Json.asArr).map (fun items =>
      String.intercalate "\n" (items.filterMap (fun v => v.asStr.or (v.strField "text")))))).filter (fun text => text ≠ "")

def completionStatus : String :=
  if (((payload.pointer ["item", "status"]).or (payload.get? "status")).bind Json.asStr).any
      (fun status => ["failed", "interrupted", "cancelled", "aborted", "error"].contains status) then "interrupted"
  else "completed"

def sourceExists (k : BlockKey) : Bool :=
  k.native.any (fun native => (s.logs k.run).rows.any (fun r =>
    r.executionEpoch = k.epoch && r.sourceEventKey = some (sourceKey k.epoch k.kind native)))

/-! ## Starting and finishing -/

structure ObserveIo where
  id : EvidenceId
  now : Timestamp
  starts : Bool
  append : AppendIo
  persists : BlockKey → Bool

def andThen {α β : Type} (r : TextState × Except String α) (f : TextState → α → TextState × Except String β) :
    TextState × Except String β :=
  match r.2 with
  | .ok a => f r.1 a
  | .error e => (r.1, .error e)

def newBlock (id : EvidenceId) (now : Timestamp) (k : BlockKey) : TextBlock where
  id := id
  run := k.run
  epoch := k.epoch
  nativeId := k.native
  kind := k.kind
  sequence := nextSequence (s.logs k.run)
  revision := 1
  changeSequence := allocateChangeSequence (s.logs k.run)
  startedAt := now
  body := Body.empty
  utf16Len := 0

def start (io : ObserveIo) (k : BlockKey) : TextState × Except String Unit :=
  let block := newBlock s io.id io.now k
  match if io.starts then
      insertTextBlock (s.logs k.run) k.epoch io.id io.now (k.native.map (sourceKey k.epoch k.kind)) (block.payload "" "streaming")
    else none with
  | none => (s, .error "Execution text block could not be started")
  | some log => ({ s.setLog k.run log with blocks := s.blocks ++ [block] }, .ok ())

def finishedPayload (b : TextBlock) (text status : String) : Json :=
  ((b.payload text status).setField "contentLimitExceeded" (.bool false)).setField "textLength" (.num (utf16Length text))

variable (store : ContentStore)

def finishedPreview (payload : Json) (text : String) : Json :=
  if store.encodedLength payload > 16 * 1024 then payload.setField "text" (.str (String.ofList (text.toList.take 4000)))
  else payload

def finishedPhase (status : String) : String := if status = "completed" then "completed" else "failed"

def finish (s : TextState) (persists : Bool) (k : BlockKey) (authoritative : Option String)
    (status : String) : TextState × Except String (Option TextEvidence) :=
  match s.find k with
  | none => (s, .ok none)
  | some block =>
    match if persists then authoritative.or block.body.text else none with
    | none => (s, .error "Execution text could not be stored")
    | some text =>
      let payload := finishedPayload block text status
      match updateTextBlock (s.logs block.run) block.id (finishedPhase status) payload (finishedPreview store payload text)
          (block.revision + 1) with
      | none => (s, .error "Execution text block disappeared before finalization")
      | some log =>
        ({ s.setLog block.run log with
            blocks := s.blocks.filter (fun b => b.key ≠ k)
            history := s.history ++ [.finished block.run block.id authoritative] },
          .ok (some { block.event store payload (finishedPhase status) with
            revision := some (block.revision + 1)
            changeSequence := some (allocateChangeSequence (s.logs block.run)) }))

def finishAll (store : ContentStore) (persists : BlockKey → Bool) : TextState → List (BlockKey × String) →
    TextState × Except String (List TextEvidence)
  | s, [] => (s, .ok [])
  | s, (k, status) :: ks =>
    andThen (finish store s (persists k) k none status) (fun s' e =>
      andThen (finishAll store persists s' ks) (fun s'' es => (s'', .ok (e.toList ++ es))))

def anonymousKeys (run : RunId) (epoch : Nat) (closes : TextBlock → Bool) : List (BlockKey × String) :=
  (s.blocks.filter (fun b => b.run = run && b.epoch = epoch && b.nativeId.isNone && closes b)).map
    (fun b => (b.key, "completed"))

/-! ## Observing -/

/-- What `observe` answers: some none for a handled event that is not public, none for ordinary evidence. -/
abbrev Observed := Except String (Option (Option TextEvidence))

def openBlock (io : ObserveIo) (k : BlockKey) : TextState × Except String Bool :=
  if (s.find k).isSome then (s, .ok true)
  else if sourceExists s k then (s, .ok false)
  else andThen (start s io k) (fun s' _ => (s', .ok true))

def TextState.setBlock (k : BlockKey) (block : TextBlock) : TextState :=
  { s with blocks := s.blocks.map (fun b => if b.key = k then block else b) }

def appendDelta (s : TextState) (io : ObserveIo) (k : BlockKey) (event text : String) :
    TextState × Observed :=
  match s.find k with
  | none => (s, .error "created block")
  | some block =>
    let appended := block.body.append io.append text
    if appended.2 then
      let live := block.liveDelta store event text block.utf16Len
      ({ s.setBlock k { block with body := appended.1, utf16Len := block.utf16Len + utf16Length text } with
          history := s.history ++ [.published k.native live] },
        .ok (some (some live)))
    else (s.setBlock k { block with body := appended.1 }, .error "Execution text could not be kept")

def tooManyBlocks : String := "Too many unfinished Execution text items (limit 128)"

def observeDelta (s : TextState) (io : ObserveIo) (run : RunId) (epoch : Nat) (event : String)
    (payload : Json) : TextState × Observed :=
  let native := nativeIdentity payload
  let k : BlockKey := { run := run, epoch := epoch, kind := narration, native := native }
  andThen (finishAll store io.persists s (anonymousKeys s run epoch (fun b => native.isSome || b.kind ≠ narration)))
    (fun s _ =>
      let text := deltaText payload
      if text = "" then (s, .ok (some none))
      else if (s.find k).isNone && maxOpenBlocks ≤ s.blocks.length then (s, .error tooManyBlocks)
      else andThen (openBlock s io k) (fun s isOpen =>
        if isOpen then appendDelta store s io k event text else (s, .ok (some none))))

def observeCompletion (s : TextState) (io : ObserveIo) (run : RunId) (epoch : Nat) (payload : Json) :
    TextState × Observed :=
  let k : BlockKey := { run := run, epoch := epoch, kind := narration, native := completionNative payload }
  let complete := completeText payload
  if (s.find k).isNone && maxOpenBlocks ≤ s.blocks.length then (s, .error tooManyBlocks)
  else if (s.find k).isNone && complete.isNone then (s, .ok (some none))
  else andThen (openBlock s io k) (fun s isOpen =>
    if isOpen then
      andThen (finish store s (io.persists k) k complete (completionStatus payload)) (fun s e => (s, .ok (some e)))
    else (s, .ok (some none)))

def closingEvents : List String :=
  ["runtime.action", "activity.started", "activity.completed", "runtime.plan", "runtime.compaction.display"]

def observeBoundary (s : TextState) (io : ObserveIo) (run : RunId) (epoch : Nat) (event : String)
    (payload : Json) : TextState × Observed :=
  andThen (finishAll store io.persists s
      (if isBoundary event || closingEvents.contains event then anonymousKeys s run epoch (fun _ => true) else []))
    (fun s _ => (s, .ok (if isBoundary event ||
        (nativeUserMessage payload && ["activity.started", "activity.completed"].contains event) then some none else none)))

def observe (s : TextState) (io : ObserveIo) (run : RunId) (epoch : Nat) (event : String)
    (payload : Json) : TextState × Observed :=
  let textual := isTextDelta event || nativeText payload || isCompletion event payload || isBoundary event
    || privateReasoning event payload
  if textual && !(isRootOutput payload && isRootOutput (payload.getD "item")) then (s, .ok (some none))
  else if !admitted s run epoch then (s, .ok (if textual || nativeUserMessage payload then some none else none))
  else if privateReasoning event payload then
    andThen (finishAll store io.persists s (anonymousKeys s run epoch (fun _ => true))) (fun s _ => (s, .ok (some none)))
  else if isTextDelta event then observeDelta store s io run epoch event payload
  else if isCompletion event payload then observeCompletion store s io run epoch payload
  else if event = "activity.started" && nativeText payload then (s, .ok (some none))
  else observeBoundary store s io run epoch event payload

/-! ## Settlement -/

def settledStatus (b : TextBlock) : Option String :=
  match s.runs b.run with
  | some r =>
    if r.executionEpoch ≠ b.epoch then some "interrupted"
    else if r.cancelRequested || [AgentRunStatus.succeeded, .failed, .cancelled].contains r.status then
      some (if r.status = .succeeded && !r.cancelRequested then "completed" else "interrupted")
    else none
  | none => some "interrupted"

/-- What the world does in one settlement: the order of the map's keys, the time, and which blocks are stored in time. -/
structure SettleIo where
  keys : List BlockKey
  now : Nat
  deadline : Option Nat
  walks : Bool
  persists : BlockKey → Bool

def attemptFlushSettled (s : TextState) (io : SettleIo) : TextState × Except String (List TextEvidence) :=
  if !io.walks then (s, .error "Execution text shutdown persistence exceeded its deadline")
  else finishAll store io.persists s
    (io.keys.filterMap (fun k => (s.find k).bind (fun b => (settledStatus s b).map (fun status => (k, status)))))

def retryDelay (failures : Nat) : Nat := min (500 * 2 ^ min (failures - 1) 6) 30000

def scheduleRetry (retry : Option FlushRetry) (now : Nat) : FlushRetry :=
  let failures := (retry.map (fun r => r.failures + 1)).getD 1
  { failures := failures, retryNotBefore := now + retryDelay failures }

def requestSettlement (now : Nat) : TextState :=
  if s.blocks.isEmpty || s.retry.isSome then s else { s with retry := some { failures := 0, retryNotBefore := now } }

def maintainSettledUntil (s : TextState) (io : SettleIo) : TextState :=
  if !s.retry.any (fun r => r.retryNotBefore ≤ io.now) && io.deadline.isNone then s
  else if s.blocks.isEmpty then { s with retry := none }
  else
    let attempt := attemptFlushSettled store s io
    { attempt.1 with retry := match attempt.2 with
      | .ok _ => none
      | .error _ => some (scheduleRetry s.retry io.now) }

/-! ## Steps -/

inductive TextAction where
  | observe (io : ObserveIo) (run : RunId) (epoch : Nat) (event : String) (payload : Json)
  | settle (io : SettleIo)
  | request (now : Nat)
  | evidence (run : RunId) (w : Write)
  | runs (runs : RunId → Option AgentRunRecord)

def TextState.step (s : TextState) : TextAction → TextState
  | .observe io run epoch event payload => (Rovai.observe store s io run epoch event payload).1
  | .settle io => maintainSettledUntil store s io
  | .request now => requestSettlement s now
  | .evidence run w => if w.isTextBlock then s else s.setLog run ((s.logs run).write store w)
  | .runs runs => { s with runs := runs }

end Rovai
