import RovaiCore.UsageBuffer
import RovaiCore.Tallies
/-!
# The usage tables (`persist_usage_record`)

A record is counted in the summary of its run and in the hour it fell in.
-/
namespace Rovai.Usage

open Tables (Table)
open Tallies (SqlNumber accumulate)

/-! ## Tables -/

structure RunSummary where
  agentRunId : String
  runtimeKind : AgentRuns.AdapterKind
  (providerKey modelKey : Option String)
  counters : UsageCounter → Option SqlNumber

structure HourlyUsage where
  bucketStartAt : Int
  runtimeKind : AgentRuns.AdapterKind
  (providerKey modelKey : Option String)
  counters : UsageCounter → Option SqlNumber

/-- The unique index of the hours, which takes an absent key for an empty one. -/
def HourlyUsage.identity (row : HourlyUsage) : Int × AgentRuns.AdapterKind × String × String :=
  (row.bucketStartAt, row.runtimeKind, row.providerKey.getD "", row.modelKey.getD "")

inductive CheckpointKey where
  | source (source : SourceKey)
  | call (source : SourceKey) (identities : List String)
  deriving DecidableEq

structure EventDigest where
  identities : List String
  (dialect suffix : String)
  deriving DecidableEq

structure Checkpoint where
  agentRunId : String
  executionEpoch : Nat
  checkpointKey : CheckpointKey
  lastEventDigest : EventDigest
  baseline : UsageCounters

def Checkpoint.identity (row : Checkpoint) : String × Nat × CheckpointKey :=
  (row.agentRunId, row.executionEpoch, row.checkpointKey)

structure UsageDatabase where
  summaries : Table RunSummary.agentRunId
  hourly : Table HourlyUsage.identity
  checkpoints : Table Checkpoint.identity

namespace UsageDatabase

def empty : UsageDatabase := ⟨.empty, .empty, .empty⟩

/-! ## Enrolment -/

def enrolledUsageRun (db : UsageDatabase) (key : UsageRunKey) : Option RuntimeUsageRun :=
  (db.summaries.find? key.agentRunId).map fun row =>
    { key := key, runtimeKind := row.runtimeKind, providerKey := row.providerKey, modelKey := row.modelKey }

def enrollRun (db : UsageDatabase) (createdAt : Option Int) (collectionStartedAt : Int) (run : RuntimeUsageRun) :
    UsageDatabase × Option RuntimeUsageRun :=
  match createdAt with
  | none => (db, none)
  | some created =>
    if created < collectionStartedAt then (db, none)
    else
      let enrolled := { db with
        summaries := db.summaries.insert
          { agentRunId := run.key.agentRunId, runtimeKind := run.runtimeKind, providerKey := run.providerKey,
            modelKey := run.modelKey, counters := fun _ => none } }
      (enrolled, enrolled.enrolledUsageRun run.key)

end UsageDatabase

/-! ## Counting -/

def addCounters (counters : UsageCounter → Option SqlNumber) (delta : UsageCounters) : UsageCounter → Option SqlNumber :=
  fun c => accumulate (counters c) ((delta c).map SqlNumber.ofNat)

def RunSummary.add (delta : UsageCounters) (row : RunSummary) : RunSummary :=
  { row with counters := addCounters row.counters delta }

def HourlyUsage.add (delta : UsageCounters) (row : HourlyUsage) : HourlyUsage :=
  { row with counters := addCounters row.counters delta }

def exceeds : Option SqlNumber → Option SqlNumber → Bool
  | some (.integer a), some (.integer b) => decide (a > b)
  | some .real, some (.integer _) => true
  | _, _ => false

def RunSummary.refused (row : RunSummary) : Bool :=
  exceeds (row.counters .reasoningOutputTokens) (row.counters .outputTokens) ||
    exceeds (row.counters .cacheHitRequestCount) (row.counters .cacheObservableRequestCount)

def updateRunSummary (summaries : Table RunSummary.agentRunId) (run : RuntimeUsageRun) (delta : UsageCounters) :
    Option (Table RunSummary.agentRunId) :=
  let updated := summaries.update run.key.agentRunId (RunSummary.add delta) (fun _ => rfl)
  if (updated.find? run.key.agentRunId).any RunSummary.refused then none else some updated

def hourBucket (time : Int) : Int :=
  time - time % 3600000000000

def HourlyUsage.holds (bucket : Int) (run : RuntimeUsageRun) (row : HourlyUsage) : Bool :=
  row.bucketStartAt = bucket && row.runtimeKind = run.runtimeKind && row.providerKey = run.providerKey &&
    row.modelKey = run.modelKey

def updateHourly (hourly : Table HourlyUsage.identity) (run : RuntimeUsageRun) (delta : UsageCounters) (occurredAt : Int) :
    Option (Table HourlyUsage.identity) :=
  if !delta.anyObserved then some hourly
  else
    let bucket := hourBucket occurredAt
    if hourly.any (HourlyUsage.holds bucket run) then
      some (hourly.updateWhere (HourlyUsage.holds bucket run) (HourlyUsage.add delta) (fun _ => rfl))
    else
      let row : HourlyUsage :=
        { bucketStartAt := bucket, runtimeKind := run.runtimeKind, providerKey := run.providerKey, modelKey := run.modelKey,
          counters := fun c => (delta c).map SqlNumber.ofNat }
      if (hourly.find? row.identity).isSome then none else some (hourly.insert row)

def recordDelta (run : RuntimeUsageRun) (record : BufferedUsageRecord) (existing : Option Checkpoint) : UsageCounters :=
  match record.usage.counterMode with
  | .delta => record.normalized
  | .cumulative | .gauge =>
    match existing with
    | some checkpoint => subtractCounters record.normalized checkpoint.baseline
    | none =>
      if run.runtimeKind = .claudeCodeCli && record.usage.scope == "model_call" &&
          record.usage.dialectId == "claude-stream-call-usage-v1" then record.normalized
      else fun _ => none

def checkpointKey (run : RuntimeUsageRun) (record : BufferedUsageRecord) : CheckpointKey :=
  if record.usage.counterMode = .delta then .call (sourceKey run record.usage) record.sourceIdentities
  else .source (sourceKey run record.usage)

def eventDigest (record : BufferedUsageRecord) : EventDigest where
  identities := record.sourceIdentities
  dialect := record.usage.dialectId
  suffix := record.usage.identitySuffix

def Checkpoint.renew (row old : Checkpoint) : Checkpoint :=
  { old with lastEventDigest := row.lastEventDigest, baseline := row.baseline }

theorem Checkpoint.renew_identity (row old : Checkpoint) : (row.renew old).identity = old.identity := rfl

def upsertCheckpoint (checkpoints : Table Checkpoint.identity) (row : Checkpoint) : Table Checkpoint.identity :=
  (checkpoints.update row.identity row.renew row.renew_identity).insert row

def countRecord (db : UsageDatabase) (run : RuntimeUsageRun) (record : BufferedUsageRecord) (delta : UsageCounters)
    (occurredAt : Int) : Option UsageDatabase :=
  (if delta.anyObserved then updateRunSummary db.summaries run delta else some db.summaries).bind fun summaries =>
    (updateHourly db.hourly run delta occurredAt).map fun hourly =>
      { summaries := summaries
        hourly := hourly
        checkpoints := upsertCheckpoint db.checkpoints
          { agentRunId := run.key.agentRunId, executionEpoch := run.key.executionEpoch,
            checkpointKey := checkpointKey run record, lastEventDigest := eventDigest record,
            baseline := record.normalized } }

section Persist

variable (parseTime : String → Option Int)

/-- The context of a Session is a record without a counter or a cost: it leaves these tables. -/
def persistUsageRecord (now : String) (db : UsageDatabase) (run : RuntimeUsageRun) (record : BufferedUsageRecord) :
    Option UsageDatabase :=
  if (db.summaries.find? run.key.agentRunId).isNone then some db
  else if record.usage.scope = "session" ∧ record.usage.counterMode = .gauge ∧ record.normalized.anyObserved = false ∧
      record.usage.cost = none then some db
  else
    let existing := db.checkpoints.find? (run.key.agentRunId, run.key.executionEpoch, checkpointKey run record)
    if existing.any (fun checkpoint => checkpoint.lastEventDigest = eventDigest record) then some db
    else
      (parseTime (record.usage.occurredAt.getD now)).bind fun occurredAt =>
        countRecord db run record (recordDelta run record existing) occurredAt

def persistBatch (now : String) (db : UsageDatabase) (batch : RuntimeUsageFlushBatch) : Option UsageDatabase :=
  batch.records.foldlM (fun db record => persistUsageRecord parseTime now db batch.run record) db

def recordUsageBatches (now : String) (db : UsageDatabase) (batches : List RuntimeUsageFlushBatch) : Option UsageDatabase :=
  batches.foldlM (persistBatch parseTime now) db

end Persist
end Rovai.Usage
