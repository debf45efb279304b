import RovaiCore.EvidenceLog
/-!
# Recording an operation (`record_operation_lifecycle`)

All observations of one operation share one row.
-/
namespace Rovai

open Json (fillMissing difference)

/-- The encoder and the preview a part keeps when no Blob can hold it. -/
structure ContentStore where
  encodedLength : Json → Nat
  lossyPreview : Json → Json

def inlinePayloadLimitBytes : Nat := 16 * 1024
def maxBlobBytes : Nat := 64 * 1024 * 1024

variable (store : ContentStore)

def prepareLifecyclePart (value : Json) : ContentPart :=
  if store.encodedLength value ≤ inlinePayloadLimitBytes then ⟨value, .inline⟩
  else if store.encodedLength value ≤ maxBlobBytes then ⟨value, .blob⟩
  else ⟨store.lossyPreview value, .tooLarge⟩

def newOperationStorageVersion : Nat := 4

/-! ## Values -/

def inputOmittedFields : List String :=
  ["output", "rawOutputDigest", "resultDigest", "errorCode", "runtimeDiff", "runtimeFileOperation", "runtimeRunDiff",
    "coreEnvelope"]

def inputOmittedItemFields : List String :=
  ["durationMs", "exitCode", "aggregatedOutput", "output", "result", "summary", "changes", "error", "errorCode"]

variable (payload : Json)

def lifecycleInputPayload : Json :=
  (payload.removeFields inputOmittedFields).mapField "item" (fun item => item.removeFields inputOmittedItemFields)

def combineLifecycleValues (input : Json) (result : Option Json) : Json :=
  fillMissing (result.getD .null) input

def terminalStatuses : List String :=
  ["completed", "succeeded", "success", "failed", "error", "declined", "denied", "cancelled", "canceled", "not_executed"]

def reportedStatus : Option String := (payload.strField "status").or (payload.strAt ["item", "status"])

def lifecycleTerminalStatus : Option String :=
  (reportedStatus payload).filter (fun s => terminalStatuses.contains s)

def lifecycleHasTerminalConflict : Bool :=
  ((payload.pointer ["_rovaiLifecycle", "terminalConflict"]).bind Json.asBool).getD false

def lifecycleObservedTerminalStatuses : List String :=
  (((payload.pointer ["_rovaiLifecycle", "observedStatuses"]).bind Json.asArr).getD []).filterMap Json.asStr

def withResultDigest (value : Json) (digest : Option String) : Json :=
  match digest with
  | some d => value.setField "resultDigest" (.str d)
  | none => value

def Operation.combined (o : Operation) : Json :=
  withResultDigest (combineLifecycleValues o.input.value (o.result.map (·.value))) o.resultDigest

def outputFields : List String := ["output", "stdout", "stderr", "content", "summary", "error"]

def itemOutputFields : List String :=
  ["aggregatedOutput", "output", "result", "stdout", "stderr", "content", "summary", "error"]

def removePersistedOutputAliases : Json :=
  (payload.removeFields outputFields).mapField "item" (fun item => item.removeFields itemOutputFields)

def persistedOutputText : Option String :=
  (((payload.pointer ["item", "aggregatedOutput"]).or (payload.pointer ["item", "output"])).or (payload.get? "output")).bind
    Json.asStr

def setExistingPersistedOutput (output : String) : Json :=
  if (payload.pointer ["item", "aggregatedOutput"]).isSome then
    payload.mapField "item" (fun item => item.setField "aggregatedOutput" (.str output))
  else if (payload.pointer ["item", "output"]).isSome then
    payload.mapField "item" (fun item => item.setField "output" (.str output))
  else payload.setField "output" (.str output)

def persistedToolOutputLimitBytes : Nat := 7680

def utf8Prefix : Nat → List Char → List Char
  | _, [] => []
  | budget, c :: cs => if c.utf8Size ≤ budget then c :: utf8Prefix (budget - c.utf8Size) cs else []

def truncateUtf8Prefix (value : String) (maxBytes : Nat) : String × Bool :=
  if value.utf8ByteSize ≤ maxBytes then (value, false) else (String.ofList (utf8Prefix maxBytes value.toList), true)

def appendOrderedDelta (existing incoming : Json) (existingTruncated incomingTruncated : Option Bool) : Json × Bool :=
  if existingTruncated = some true then (existing, true)
  else
    let combined := (persistedOutputText existing).getD "" ++ (persistedOutputText incoming).getD ""
    let (persisted, truncated) := truncateUtf8Prefix combined persistedToolOutputLimitBytes
    (setExistingPersistedOutput existing persisted, truncated || incomingTruncated = some true)

def conflictMarker (statuses : List String) : Json :=
  .obj [("observedStatuses", .arr (statuses.map .str)), ("terminalConflict", .bool true)]

def addStatuses (statuses : List String) (new : List String) : List String :=
  new.foldl (fun acc s => if acc.contains s then acc else acc ++ [s]) statuses

def resultObservedMarker : Json := .obj [("_rovaiLifecycle", .obj [("resultObserved", .bool true)])]

/-! ## The next row -/

@[ext] structure Lifecycle where
  input : Json
  result : Option Json
  outputTruncated : Option Bool
  resultDigest : Option String
  (phase eventType kind : String)

def compactPayload (e : RuntimeEvent) : Json := e.payload.removeFields ["resultDigest"]

def incomingIsStart (e : RuntimeEvent) : Bool :=
  e.phase = "started" || (compactPayload e).strField "status" = some "started"

def terminalPhase (phase : String) : Bool := phase = "completed" || phase = "failed"

variable (existing : Option (EvidenceRow × Operation))

def existingPayload : Json :=
  (existing.map (fun x => x.2.combined)).getD .null

variable (e : RuntimeEvent)

def terminalConflict : Bool :=
  match existing with
  | none => false
  | some (_, o) => lifecycleHasTerminalConflict o.combined
    || (match lifecycleTerminalStatus o.combined, lifecycleTerminalStatus (compactPayload e) with
      | some old, some new => old != new
      | _, _ => false)

def nextInput : Json :=
  fillMissing ((existing.map (fun x => x.2.input.value)).getD .null) (lifecycleInputPayload (compactPayload e))

def incomingResult : Json :=
  (difference (compactPayload e) (nextInput existing e)).getD resultObservedMarker

def conflictResult (old incoming : Json) (existingTerminal incomingTerminal : Option String) : Json :=
  let old := fillMissing old incoming
  let statuses := addStatuses (lifecycleObservedTerminalStatuses old) (existingTerminal.toList ++ incomingTerminal.toList)
  (old.setField "status" (.str "unsettled")).setField "_rovaiLifecycle" (conflictMarker statuses)

/-- The result part and the truncation flag after an observation that is not a start. -/
def nextResult : Json × Option Bool :=
  let truncated := existing.bind (fun x => x.2.outputTruncated)
  let incoming := incomingResult existing e
  match (existing.bind (fun x => x.2.result)).map (·.value) with
  | some old =>
    if terminalConflict existing e then
      (conflictResult old incoming (lifecycleTerminalStatus (existingPayload existing)) (lifecycleTerminalStatus (compactPayload e)),
        truncated)
    else match e.outputUpdate with
      | some .orderedDelta =>
        let (old, truncated) := appendOrderedDelta old incoming truncated e.outputTruncated
        (fillMissing (removePersistedOutputAliases incoming) old, some truncated)
      | some .completeSnapshot => (fillMissing incoming (removePersistedOutputAliases old), e.outputTruncated)
      | _ => (fillMissing incoming old, truncated)
  | none =>
    (incoming, match e.outputUpdate with
      | some .completeSnapshot => e.outputTruncated
      | some .orderedDelta => some (e.outputTruncated.getD false)
      | _ => truncated)

def nextResultDigest : Option String :=
  let digest := existing.bind (fun x => x.2.resultDigest)
  let incoming := e.payload.strField "resultDigest"
  if !incomingIsStart e && (!terminalConflict existing e || digest.isNone) && incoming.isSome then incoming else digest

def nextPhase : String :=
  match existing with
  | some (r, _) => if terminalPhase r.phase then r.phase else e.phase
  | none => e.phase

def keepsEventType : Bool :=
  incomingIsStart e && existing.any (fun x => terminalPhase x.1.phase)

def nextLifecycle : Lifecycle where
  input := nextInput existing e
  result := if incomingIsStart e then (existing.bind (fun x => x.2.result)).map (·.value) else some (nextResult existing e).1
  outputTruncated :=
    if incomingIsStart e || terminalConflict existing e then existing.bind (fun x => x.2.outputTruncated)
    else (nextResult existing e).2
  resultDigest := nextResultDigest existing e
  phase := nextPhase existing e
  eventType := if keepsEventType existing e then (existing.map (fun x => x.1.eventType)).getD e.eventType else e.eventType
  kind := if keepsEventType existing e then (existing.map (fun x => x.1.kind)).getD e.kind else e.kind

def currentLifecycle (r : EvidenceRow) (o : Operation) : Lifecycle where
  input := o.input.value
  result := o.result.map (·.value)
  outputTruncated := o.outputTruncated
  resultDigest := o.resultDigest
  phase := r.phase
  eventType := r.eventType
  kind := r.kind

def semanticallyUnchanged (r : EvidenceRow) (o : Operation) (e : RuntimeEvent) (next : Lifecycle) : Bool :=
  o.input.value = next.input && o.result.map (·.value) = next.result && r.phase = next.phase
  && r.eventType = next.eventType && r.kind = next.kind && o.outputTruncated = next.outputTruncated
  && (o.resultDigest = next.resultDigest
    || (!terminalPhase r.phase && (lifecycleTerminalStatus (compactPayload e)).isNone && !terminalPhase next.phase))

def nextPart (current : Option ContentPart) (value : Json) : ContentPart :=
  match current with
  | some part => if part.value = value then part else prepareLifecyclePart store value
  | none => prepareLifecyclePart store value

/-! ## The transaction -/

def writtenOperation (existing : Option (EvidenceRow × Operation)) (operationId : String)
    (next : Lifecycle) : Operation where
  operationId := operationId
  input := nextPart store (existing.map (fun x => x.2.input)) next.input
  result := next.result.map (nextPart store (existing.bind (fun x => x.2.result)))
  outputTruncated := next.outputTruncated
  resultDigest := next.resultDigest
  storageVersion := (existing.map (fun x => x.2.storageVersion)).getD newOperationStorageVersion
  activityClassifier := (existing.bind (fun x => x.2.activityClassifier)).or (some .current)

variable (log : RunLog) (epoch : Nat) (id : EvidenceId) (now : Timestamp) (operationId : String)

def insertedRow (e : RuntimeEvent) (next : Lifecycle) : EvidenceRow where
  id := id
  executionEpoch := epoch
  sequence := nextSequence log
  eventType := next.eventType
  kind := next.kind
  phase := next.phase
  sourceEventKey := e.sourceEventKey
  payload := .obj []
  preview := .obj []
  occurredAt := now
  revision := 1
  changeSequence := some (allocateChangeSequence log)
  operation := some (writtenOperation store none operationId next)

variable (r : EvidenceRow)

def updatedRow (o : Operation) (e : RuntimeEvent)
    (next : Lifecycle) : EvidenceRow :=
  { r with
    eventType := next.eventType
    kind := next.kind
    phase := next.phase
    sourceEventKey := r.sourceEventKey.or e.sourceEventKey
    revision := r.revision + 1
    changeSequence := some (allocateChangeSequence log)
    operation := some (writtenOperation store (some (r, o)) o.operationId next) }

def watermarkAfter (before after : Json) : Nat → Nat :=
  if before = after then log.watermark else advanceFileFactsWatermark log.watermark epoch (allocateChangeSequence log)

def existingFileFacts : Json :=
  (existing.map (fun x => fileFactProjection x.2.combined)).getD .null

def insertOperation (e : RuntimeEvent) : RunLog :=
  let next := nextLifecycle none e
  if idTaken log id || sourceKeyTaken log e.sourceEventKey then log
  else { log with
    changeCounter := allocateChangeSequence log
    rows := log.rows ++ [insertedRow store log epoch id now operationId e next]
    watermark := watermarkAfter log epoch .null (fileFactProjection (writtenOperation store none operationId next).combined) }

def sourceKeyClash (key : Option String) : Bool :=
  r.sourceEventKey.isNone && sourceKeyTaken log key

def updateOperation (o : Operation) (e : RuntimeEvent) : RunLog :=
  let next := nextLifecycle (some (r, o)) e
  if semanticallyUnchanged r o e next then
    { log with rows := updateRow log r.id (fun row => { row with
        operation := some { o with resultDigest := next.resultDigest } }) }
  else if sourceKeyClash log r e.sourceEventKey then log
  else { log with
    changeCounter := allocateChangeSequence log
    rows := updateRow log r.id (fun _ => updatedRow store log r o e next)
    watermark := watermarkAfter log r.executionEpoch (existingFileFacts (some (r, o)))
      (fileFactProjection (writtenOperation store (some (r, o)) o.operationId next).combined) }

def legacyStarted : Bool :=
  log.activities.any (fun a => a.executionEpoch = epoch && a.operationId = operationId
    && a.sourceEvidenceIds.any (fun id => log.rows.any (fun r => r.id = id && r.operation.isNone)))

def recordOperationLifecycle (e : RuntimeEvent) : Option RunLog :=
  if !isActivity e then none
  else if (operationIdentity e.payload).isNone && sourceKeyTaken log e.sourceEventKey then some log
  else match lifecycleRow log epoch (operationOf id e) with
    | some r => match r.operation with
      | some o => some (updateOperation store log r o e)
      | none => none
    | none =>
      if legacyStarted log epoch (operationOf id e) then none
      else some (insertOperation store log epoch id now (operationOf id e) e)

def recordRuntimeEvent (e : RuntimeEvent) : RunLog :=
  if evidenceEventTypes.contains e.eventType then
    (recordOperationLifecycle store log epoch id now e).getD (recordPlain log epoch id now e)
  else log

end Rovai
