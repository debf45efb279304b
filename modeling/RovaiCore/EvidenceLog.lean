import RovaiCore.FileFacts
/-!
# The evidence log of one run (`execution_evidence.rs`)

The rows of `agent_run_execution_evidence` of one run, the run's change counter, the rows of `canonical_runtime_activity` that
name them, and the file-facts watermark of each execution epoch.
-/
namespace Rovai

abbrev EvidenceId := String
abbrev Timestamp := Nat

inductive Classifier where
  | current
  | v4
  | previous
  | intermediate
  | legacy
  deriving DecidableEq

inductive PartState where
  | inline
  | blob
  | tooLarge
  deriving DecidableEq

structure ContentPart where
  value : Json
  state : PartState
  deriving DecidableEq

structure Operation where
  operationId : String
  input : ContentPart
  result : Option ContentPart
  outputTruncated : Option Bool
  resultDigest : Option String
  storageVersion : Nat
  activityClassifier : Option Classifier
  deriving DecidableEq

structure EvidenceRow where
  id : EvidenceId
  (executionEpoch sequence : Nat)
  (eventType kind phase : String)
  sourceEventKey : Option String
  (payload preview : Json)
  occurredAt : Timestamp
  revision : Nat
  changeSequence : Option Nat
  operation : Option Operation
  deriving DecidableEq

structure ActivityRow where
  executionEpoch : Nat
  operationId : String
  classifierVersion : Classifier
  sourceEvidenceIds : List EvidenceId
  firstEvidenceSequence : Nat
  deriving DecidableEq

structure RunLog where
  changeCounter : Nat
  rows : List EvidenceRow
  activities : List ActivityRow
  /-- `file_facts_change_sequence` of an execution epoch, 0 when it has no row. -/
  watermark : Nat → Nat

def RunLog.empty : RunLog := { changeCounter := 0, rows := [], activities := [], watermark := fun _ => 0 }

/-! ## Sequences -/

def maxSequence (rows : List EvidenceRow) : Nat := rows.foldl (fun m r => max m r.sequence) 0

def nextSequence (log : RunLog) : Nat := maxSequence log.rows + 1

def allocateChangeSequence (log : RunLog) : Nat := max log.changeCounter (maxSequence log.rows) + 1

def advanceFileFactsWatermark (watermark : Nat → Nat) (epoch changeSequence : Nat) : Nat → Nat :=
  fun e => if e = epoch then max (watermark e) changeSequence else watermark e

/-! ## Constraints -/

def idTaken (log : RunLog) (id : EvidenceId) : Bool := log.rows.any (fun r => r.id = id)

def sourceKeyTaken (log : RunLog) (key : Option String) : Bool :=
  key.isSome && log.rows.any (fun r => r.sourceEventKey = key)

def isLifecycleRow (epoch : Nat) (operationId : String) (r : EvidenceRow) : Bool :=
  r.executionEpoch = epoch && r.operation.any (fun o => o.operationId = operationId)

def lifecycleRow (log : RunLog) (epoch : Nat) (operationId : String) : Option EvidenceRow :=
  log.rows.find? (isLifecycleRow epoch operationId)

/-! ## Activities -/

def Classifier.rank : Classifier → Nat
  | .current => 0
  | .v4 => 1
  | .previous => 2
  | .intermediate => 3
  | .legacy => 4

def bestActivity (activities : List ActivityRow) (epoch : Nat) (operationId : String) : Option ActivityRow :=
  (activities.filter (fun a => a.executionEpoch = epoch && a.operationId = operationId)).foldl
    (fun best a => match best with
      | none => some a
      | some b => if a.classifierVersion.rank < b.classifierVersion.rank then some a else some b) none

def ActivityRow.join (a : ActivityRow) (id : EvidenceId) : ActivityRow :=
  { a with sourceEvidenceIds := if a.sourceEvidenceIds.contains id then a.sourceEvidenceIds else a.sourceEvidenceIds ++ [id] }

def newActivity (epoch : Nat) (operationId : String) (id : EvidenceId) (sequence : Nat) : ActivityRow where
  executionEpoch := epoch
  operationId := operationId
  classifierVersion := .current
  sourceEvidenceIds := [id]
  firstEvidenceSequence := sequence

def upsertCanonicalActivity (activities : List ActivityRow) (epoch : Nat) (operationId : String) (id : EvidenceId)
    (sequence : Nat) : List ActivityRow :=
  match bestActivity activities epoch operationId with
  | some best => activities.map (fun a => if a = best then a.join id else a)
  | none => activities ++ [newActivity epoch operationId id sequence]

/-- The trigger `execution_activity_no_copy`: the operation has a row of its own. -/
def unifiedOperationExists (log : RunLog) (epoch : Nat) (operationId : String) : Bool :=
  log.rows.any (fun r => isLifecycleRow epoch operationId r && r.operation.any (fun o => 3 ≤ o.storageVersion))

/-! ## Events -/

inductive OutputUpdate where
  | orderedDelta
  | completeSnapshot
  | metadataOnly
  deriving DecidableEq

/-- One observation as the recorder holds it: classified, normalized, its output made persistable and, for an
operation, its diff deduplicated (`deduplicate_codex_diff`). -/
structure RuntimeEvent where
  (eventType kind phase : String)
  (payload preview : Json)
  sourceEventKey : Option String
  outputUpdate : Option OutputUpdate
  outputTruncated : Option Bool
  deriving DecidableEq

def evidenceEventTypes : List String :=
  ["agent.reasoning.summary.delta", "agent.thought.delta", "agent.text.delta", "runtime.plan", "runtime.plan.delta",
    "runtime.diagnostic", "runtime.fast.observed", "runtime.compaction.display", "file.change.updated",
    "runtime.file_changes.snapshot", "runtime.action", "activity.started", "activity.completed"]

def isActivity (e : RuntimeEvent) : Bool :=
  !(["reasoning_summary", "narration", "plan"].contains e.kind)
  && !(["agent.reasoning.summary.delta", "agent.thought.delta", "agent.text.delta", "runtime.plan", "runtime.plan.delta",
      "runtime.diagnostic", "runtime.fast.observed", "runtime.file_changes.snapshot", "runtime.compaction.display"].contains
      e.eventType)

def operationIdentity (payload : Json) : Option String :=
  (((((if payload.strField "sourceAuthority" = some "core" then payload.strField "coreActionId" else none).or
    (payload.strField "operationId")).or (payload.strField "toolCallId")).or (payload.strField "itemId")).or
    (payload.strAt ["item", "id"]))

def operationOf (id : EvidenceId) (e : RuntimeEvent) : String := (operationIdentity e.payload).getD ("evidence:" ++ id)

/-! ## Writes to rows without an operation -/

def plainRow (log : RunLog) (epoch : Nat) (id : EvidenceId) (now : Timestamp) (e : RuntimeEvent) : EvidenceRow where
  id := id
  executionEpoch := epoch
  sequence := nextSequence log
  eventType := e.eventType
  kind := e.kind
  phase := e.phase
  sourceEventKey := e.sourceEventKey
  payload := e.payload
  preview := e.preview
  occurredAt := now
  revision := 1
  changeSequence := some (allocateChangeSequence log)
  operation := none

def insertPlain (log : RunLog) (epoch : Nat) (id : EvidenceId) (now : Timestamp) (e : RuntimeEvent) : Option RunLog :=
  if idTaken log id || sourceKeyTaken log e.sourceEventKey then none
  else if isActivity e && unifiedOperationExists log epoch (operationOf id e) then none
  else some {
    changeCounter := allocateChangeSequence log
    rows := log.rows ++ [plainRow log epoch id now e]
    activities := if isActivity e then
        upsertCanonicalActivity log.activities epoch (operationOf id e) id (nextSequence log)
      else log.activities
    watermark := if payloadAffectsFileFacts e.payload then
        advanceFileFactsWatermark log.watermark epoch (allocateChangeSequence log)
      else log.watermark }

def recordPlain (log : RunLog) (epoch : Nat) (id : EvidenceId) (now : Timestamp) (e : RuntimeEvent) : RunLog :=
  if sourceKeyTaken log e.sourceEventKey then log
  else (insertPlain log epoch id now e).getD log

def batchable (e : RuntimeEvent) : Bool :=
  e.sourceEventKey.isNone && ["runtime.plan.delta", "file.change.updated"].contains e.eventType

def recordBatch (log : RunLog) (epoch : Nat) (events : List (EvidenceId × Timestamp × RuntimeEvent)) : RunLog :=
  if events.all (fun e => batchable e.2.2) then
    (events.foldl (fun acc e => acc.bind (fun l => insertPlain l epoch e.1 e.2.1 e.2.2)) (some log)).getD log
  else log

def textBlockRow (log : RunLog) (epoch : Nat) (id : EvidenceId) (now : Timestamp) (key : Option String) (payload : Json) :
    EvidenceRow where
  id := id
  executionEpoch := epoch
  sequence := nextSequence log
  eventType := "agent.text.block"
  kind := "narration"
  phase := "updated"
  sourceEventKey := key
  payload := payload
  preview := payload
  occurredAt := now
  revision := 1
  changeSequence := some (allocateChangeSequence log)
  operation := none

def insertTextBlock (log : RunLog) (epoch : Nat) (id : EvidenceId) (now : Timestamp) (key : Option String) (payload : Json) :
    Option RunLog :=
  if idTaken log id || sourceKeyTaken log key then none
  else some { log with
    changeCounter := allocateChangeSequence log
    rows := log.rows ++ [textBlockRow log epoch id now key payload] }

def updateRow (log : RunLog) (id : EvidenceId) (f : EvidenceRow → EvidenceRow) : List EvidenceRow :=
  log.rows.map (fun r => if r.id = id then f r else r)

def updateTextBlock (log : RunLog) (id : EvidenceId) (phase : String) (payload preview : Json) (revision : Nat) :
    Option RunLog :=
  if log.rows.any (fun r => r.id = id && r.eventType = "agent.text.block") then
    some { log with
      changeCounter := allocateChangeSequence log
      rows := updateRow log id (fun r => { r with
        phase := phase, payload := payload, preview := preview, revision := revision
        changeSequence := some (allocateChangeSequence log) }) }
  else none

def inputMarkerRow (log : RunLog) (epoch : Nat) (key : EvidenceId) (now : Timestamp) (payload : Json) : EvidenceRow where
  id := key
  executionEpoch := epoch
  sequence := nextSequence log
  eventType := "agent_run.input"
  kind := "step"
  phase := "updated"
  sourceEventKey := some key
  payload := payload
  preview := payload
  occurredAt := now
  revision := 1
  changeSequence := some (allocateChangeSequence log)
  operation := none

def recordInput (log : RunLog) (epoch : Nat) (key : EvidenceId) (now : Timestamp) (payload : Json) : RunLog :=
  if sourceKeyTaken log (some key) || idTaken log key then log
  else { log with
    changeCounter := allocateChangeSequence log
    rows := log.rows ++ [inputMarkerRow log epoch key now payload] }

def inputChanged (log : RunLog) (key : EvidenceId) : RunLog :=
  if log.rows.any (fun r => r.id = key && r.eventType = "agent_run.input") then
    { log with
      changeCounter := allocateChangeSequence log
      rows := updateRow log key (fun r => { r with
        revision := r.revision + 1, changeSequence := some (allocateChangeSequence log) }) }
  else log

/-! ## Sequences grow -/

theorem lt_allocateChangeSequence (log : RunLog) : log.changeCounter < allocateChangeSequence log := by
  have := Nat.le_max_left log.changeCounter (maxSequence log.rows)
  unfold allocateChangeSequence
  omega

end Rovai
