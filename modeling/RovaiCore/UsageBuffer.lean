import RovaiCore.RuntimeUsage
import Mathlib.Data.List.Dedup
import Mathlib.Data.List.Sort
/-!
# The usage buffer (`RuntimeUsageBuffer`)

The reports that wait in memory for the next flush.
-/
namespace Rovai.Usage

structure BufferedUsageRecord where
  key : BufferedUsageKey
  usage : ParsedRuntimeUsage
  normalized : UsageCounters
  sourceIdentities : List String

def BufferedUsageRecord.of (run : RuntimeUsageRun) (sourceIdentity : String) (usage : ParsedRuntimeUsage)
    (normalized : UsageCounters) : BufferedUsageRecord where
  key := .new run.key usage
  usage := usage
  normalized := normalized
  sourceIdentities := [sourceIdentity]

structure RuntimeUsageFlushBatch where
  run : RuntimeUsageRun
  records : List BufferedUsageRecord
  pendingSince : Nat

inductive RuntimeUsageFlushTarget where
  | periodic
  | run (key : UsageRunKey)
  | all

structure RuntimeUsageBuffer where
  runs : UsageRunKey → Option RuntimeUsageRun
  (finished nativeTails : UsageRunKey → Bool)
  pending : List BufferedUsageRecord
  pendingSince : UsageRunKey → Option Nat
  seenSourceIdentities : List (BufferedUsageKey × String)
  latestContextSources : UsageRunKey × String × Option String → Option (String × RuntimeUsageFields × Option String)

namespace RuntimeUsageBuffer

def empty : RuntimeUsageBuffer where
  runs := fun _ => none
  finished := fun _ => false
  nativeTails := fun _ => false
  pending := []
  pendingSince := fun _ => none
  seenSourceIdentities := []
  latestContextSources := fun _ => none

/-! ## Runs -/

variable (b : RuntimeUsageBuffer) (key : UsageRunKey)

def beginNativeTail : RuntimeUsageBuffer × Bool :=
  if (b.runs key).isSome then
    ({ b with nativeTails := Function.update b.nativeTails key true }, !b.nativeTails key)
  else (b, false)

def endNativeTail : RuntimeUsageBuffer :=
  { b with nativeTails := Function.update b.nativeTails key false }

def finishRun : RuntimeUsageBuffer :=
  if (b.runs key).isSome then { b with finished := Function.update b.finished key true } else b

variable (run : RuntimeUsageRun)

def registerRun : RuntimeUsageBuffer :=
  { b with runs := Function.update b.runs run.key (some run) }

/-! ## Observations -/

def hold (now : Nat) (incoming : BufferedUsageRecord) : RuntimeUsageBuffer :=
  { b with
    pendingSince := Function.update b.pendingSince incoming.key.run (some ((b.pendingSince incoming.key.run).getD now))
    pending := b.pending ++ [incoming] }

variable (sourceIdentity : String)

def observe (now : Nat)
    (usage : ParsedRuntimeUsage) (normalized : UsageCounters) : RuntimeUsageBuffer :=
  let incoming := BufferedUsageRecord.of run sourceIdentity usage normalized
  if usage.scope = "session" ∧ usage.counterMode = .gauge then
    let contextKey := (run.key, usage.dialectId, usage.nativeSessionId)
    let source := (sourceIdentity, usage.fields, usage.contextModelId)
    if b.latestContextSources contextKey = some source then b
    else hold { b with latestContextSources := Function.update b.latestContextSources contextKey (some source) } now incoming
  else if (incoming.key, sourceIdentity) ∈ b.seenSourceIdentities then b
  else hold { b with seenSourceIdentities := (incoming.key, sourceIdentity) :: b.seenSourceIdentities } now incoming

def stamp (utcNow : String) (usage : ParsedRuntimeUsage) : ParsedRuntimeUsage :=
  { usage with occurredAt := some (usage.occurredAt.getD utcNow) }

/-- The loop of `observe_run`: it ends at the first report that is refused and keeps what it has observed.  The clock is read at
every report; `utcNow n` is its reading when `n` more reports follow. -/
def observeAll (run : RuntimeUsageRun) (sourceIdentity : String) (now : Nat) (utcNow : Nat → String) :
    List ParsedRuntimeUsage → RuntimeUsageBuffer → RuntimeUsageBuffer × Except String Unit
  | [], b => (b, .ok ())
  | usage :: rest, b =>
    let usage := stamp (utcNow rest.length) usage
    match normalizeUsage usage with
    | .error error => (b, .error error)
    | .ok normalized => observeAll run sourceIdentity now utcNow rest (b.observe run sourceIdentity now usage normalized)

def observeRun
    (observations : List ParsedRuntimeUsage) (now : Nat) (utcNow : Nat → String) : RuntimeUsageBuffer × Except String Unit :=
  observeAll run sourceIdentity now utcNow observations (b.registerRun run)

def observeRegisteredRun
    (observations : List ParsedRuntimeUsage) (now : Nat) (utcNow : Nat → String) : RuntimeUsageBuffer × Except String Bool :=
  match b.runs key with
  | none => (b, .ok false)
  | some run =>
    let (b, result) := b.observeRun run sourceIdentity observations now utcNow
    (b, result.map fun _ => true)

/-! ## Flushing -/

variable (target : RuntimeUsageFlushTarget)

def selects (key : UsageRunKey) : Bool := match target with
  | .periodic | .all => (b.pendingSince key).isSome
  | .run target => decide (key = target)

section Drain

-- `parse_time`: a timestamp in nanoseconds, where it is one
variable (parseTime : String → Option Int)

def sortByTime (records : List BufferedUsageRecord) : List BufferedUsageRecord :=
  records.insertionSort fun a b =>
    (compare (a.usage.occurredAt.bind parseTime) (b.usage.occurredAt.bind parseTime)).isLE = true

def pendingKeys (b : RuntimeUsageBuffer) : List BufferedUsageKey :=
  (b.pending.map (·.key)).dedup.insertionSort fun a b => (compare a b).isLE = true

def drainedRecords (b : RuntimeUsageBuffer) (key : UsageRunKey) : List BufferedUsageRecord :=
  sortByTime parseTime ((b.pendingKeys.filter (fun k => k.run = key)).flatMap fun k => b.pending.filter (fun r => r.key = k))

def drainedRuns (b : RuntimeUsageBuffer) (target : RuntimeUsageFlushTarget) : List UsageRunKey :=
  ((b.pendingKeys.map (·.run)).filter (b.selects target)).dedup

def drain (b : RuntimeUsageBuffer) (target : RuntimeUsageFlushTarget) : RuntimeUsageBuffer × List RuntimeUsageFlushBatch :=
  let drained := b.drainedRuns target
  let batches := drained.filterMap fun key =>
    match b.runs key, b.pendingSince key with
    | some run, some since => some { run := run, records := b.drainedRecords parseTime key, pendingSince := since }
    | _, _ => none
  ({ b with
      pending := b.pending.filter (fun r => !b.selects target r.key.run)
      pendingSince := fun key => if key ∈ drained ∧ (b.runs key).isSome then none else b.pendingSince key },
    batches)

end Drain

def restoreBatch (batch : RuntimeUsageFlushBatch) : RuntimeUsageBuffer :=
  { b with
    runs := Function.update b.runs batch.run.key (some batch.run)
    pendingSince := Function.update b.pendingSince batch.run.key
      (some (((b.pendingSince batch.run.key).map (min batch.pendingSince)).getD batch.pendingSince))
    pending := b.pending ++ batch.records }

def restore (batches : List RuntimeUsageFlushBatch) : RuntimeUsageBuffer :=
  let restored := batches.foldl restoreBatch { b with pending := [] }
  { restored with pending := restored.pending ++ b.pending }

def idle (key : UsageRunKey) : Bool :=
  (match target with
    | .run target => decide (key = target)
    | .all => (b.runs key).isSome
    | .periodic => b.finished key) &&
  (b.pendingSince key).isNone && !b.nativeTails key

def finishIdleTargetAfterFlush : RuntimeUsageBuffer :=
  { b with
    runs := fun key => if b.idle target key then none else b.runs key
    finished := fun key => b.finished key && !b.idle target key
    seenSourceIdentities := b.seenSourceIdentities.filter (fun seen => !b.idle target seen.1.run)
    latestContextSources := fun context => if b.idle target context.1 then none else b.latestContextSources context }

end RuntimeUsageBuffer
end Rovai.Usage
