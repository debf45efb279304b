import RovaiCore.UsageLedger
/-!
# Cumulative sources (`subtract_counters`, `upsert_checkpoint`)

A source that reports totals is counted by their growth.
-/
namespace Rovai.Usage

open Tables (Table)
open List
open Tallies (SqlNumber accumulate nullableSum)

/-! ## Growth -/

def growth : Option Nat → List (Option Nat) → List (Option Nat)
  | _, [] => []
  | baseline, value :: values => counterDelta value baseline :: growth value values

def additions (startsAtZero : Bool) : List (Option Nat) → List (Option Nat)
  | [] => []
  | value :: values => (if startsAtZero then value else none) :: growth value values

abbrev added (startsAtZero : Bool) (values : List (Option Nat)) : Option Nat :=
  nullableSum (additions startsAtZero values)

theorem counterDelta_getD {v b : Nat} (h : b ≤ v) : b + (counterDelta (some v) (some b)).getD 0 = v := by
  show b + (if v > b then some (v - b) else none).getD 0 = v
  by_cases hlt : v > b
  · rw [if_pos hlt, Option.getD_some]
    omega
  · rw [if_neg hlt, Option.getD_none]
    omega

theorem getD_accumulate (x d : Option Nat) : (accumulate x d).getD 0 = x.getD 0 + d.getD 0 := by
  cases d <;> rfl

theorem growth_nones (n : Nat) (baseline : Option Nat) :
    (nullableSum (growth baseline (List.replicate n none))).getD 0 = 0 := by
  induction n generalizing baseline with
  | zero => rfl
  | succ n ih =>
    rw [replicate_succ, growth, Tallies.nullableSum_cons, getD_accumulate, ih]
    cases baseline <;> rfl

/-- **Growth telescopes**: reports that never fall, and then none, add what the last one is above the baseline. -/
theorem growth_telescopes (n : Nat) : ∀ {first : Nat} {rest : List Nat}, (first :: rest).Pairwise (· ≤ ·) →
    first + (nullableSum (growth (some first) (rest.map some ++ List.replicate n none))).getD 0 =
      (first :: rest).getLast (cons_ne_nil _ _)
  | first, [], _ => by
    rw [map_nil, nil_append, growth_nones]
    rfl
  | first, next :: rest, h => by
    have hnext : first ≤ next := rel_of_pairwise_cons h mem_cons_self
    have ih := growth_telescopes n h.of_cons
    rw [map_cons, cons_append, growth, Tallies.nullableSum_cons, getD_accumulate, getLast_cons (cons_ne_nil _ _),
      ← ih, ← Nat.add_assoc, counterDelta_getD hnext]

theorem added_telescopes (starts : Bool) (m n : Nat) {first : Nat} {rest : List Nat} (h : (first :: rest).Pairwise (· ≤ ·)) :
    (added starts (List.replicate m none ++ ((first :: rest).map some ++ List.replicate n none))).getD 0 =
      (first :: rest).getLast (cons_ne_nil _ _) - (if starts ∧ m = 0 then 0 else first) := by
  have htele := growth_telescopes n h
  -- reports before the first that carries the counter add nothing, and leave it no baseline
  have hlead : ∀ k baseline, (nullableSum (growth baseline
      (List.replicate (k + 1) none ++ ((first :: rest).map some ++ List.replicate n none)))).getD 0 =
        (nullableSum (growth (some first) (rest.map some ++ List.replicate n none))).getD 0 := by
    intro k
    induction k with
    | zero =>
      intro baseline
      show (nullableSum (counterDelta none baseline :: counterDelta (some first) none :: growth (some first) _)).getD 0 = _
      rw [Tallies.nullableSum_cons, Tallies.nullableSum_cons, getD_accumulate, getD_accumulate]
      cases baseline <;> simp [counterDelta]
    | succ k ih =>
      intro baseline
      rw [replicate_succ, cons_append, growth, Tallies.nullableSum_cons, getD_accumulate, ih]
      cases baseline <;> simp [counterDelta]
  unfold added
  cases m with
  | zero =>
    rw [replicate_zero, nil_append, map_cons, cons_append, additions, Tallies.nullableSum_cons, getD_accumulate]
    cases starts with
    | true =>
      rw [if_pos rfl, if_pos ⟨rfl, rfl⟩, Option.getD_some]
      omega
    | false =>
      rw [if_neg Bool.false_ne_true, if_neg (by simp), Option.getD_none]
      omega
  | succ m =>
    have hzero : ¬ (starts = true ∧ m + 1 = 0) := by simp
    have hnone : (if starts = true then none else none : Option Nat) = none := ite_self _
    rw [if_neg hzero, replicate_succ, cons_append, additions, hnone, Tallies.nullableSum_cons, getD_accumulate,
      Option.getD_none]
    cases m with
    | zero =>
      rw [replicate_zero, nil_append, map_cons, cons_append, growth, Tallies.nullableSum_cons, getD_accumulate,
        show (counterDelta (some first) none).getD 0 = 0 from rfl]
      omega
    | succ m =>
      rw [hlead]
      omega

/-! ## Records -/

section Records

variable {parseTime : String → Option Int} {now : String} {db db' : UsageDatabase} {run : RuntimeUsageRun}
  {record : BufferedUsageRecord}

def SourceKey.startsAtZero (source : SourceKey) : Bool :=
  source.runtimeKind = .claudeCodeCli && source.scope == "model_call" && source.dialect == "claude-stream-call-usage-v1"

def cumulativeDelta (o : Observation) (existing : Option Checkpoint) (c : UsageCounter) : Option Nat := match existing with
  | some checkpoint => counterDelta (o.record.normalized c) (checkpoint.baseline c)
  | none => if (sourceKey o.run o.record.usage).startsAtZero then o.record.normalized c else none

theorem recordDelta_cumulative {o : Observation} (h : o.record.usage.counterMode = .cumulative) (existing : Option Checkpoint)
    (c : UsageCounter) : recordDelta o.run o.record existing c = cumulativeDelta o existing c := by
  unfold recordDelta cumulativeDelta SourceKey.startsAtZero
  rw [h]
  cases existing with
  | some checkpoint => rfl
  | none => exact apply_ite (fun counters : UsageCounters => counters c) _ _ _

def sourceCheckpoint (o : Observation) : String × Nat × CheckpointKey :=
  (o.run.key.agentRunId, o.run.key.executionEpoch, .source (sourceKey o.run o.record.usage))

/-- **What a new report of a cumulative source does**: its growth is added to the run, and it is the source's baseline. -/
theorem persist_cumulative {o : Observation} {row : RunSummary} (hmode : o.record.usage.counterMode = .cumulative)
    (hrun : db.summaries.find? o.agentRunId = some row)
    (hnew : ∀ checkpoint, db.checkpoints.find? (sourceCheckpoint o) = some checkpoint →
      checkpoint.lastEventDigest ≠ eventDigest o.record)
    (h : persistUsageRecord parseTime now db o.run o.record = some db') :
    (∃ row', db'.summaries.find? o.agentRunId = some row' ∧ ∀ c, row'.counters c =
      accumulate (row.counters c) ((cumulativeDelta o (db.checkpoints.find? (sourceCheckpoint o)) c).map SqlNumber.ofNat)) ∧
    ∃ checkpoint, db'.checkpoints.find? (sourceCheckpoint o) = some checkpoint ∧
      checkpoint.lastEventDigest = eventDigest o.record ∧ checkpoint.baseline = o.record.normalized := by
  have hkey : (o.run.key.agentRunId, o.run.key.executionEpoch, checkpointKey o.run o.record) = sourceCheckpoint o := by
    rw [checkpointKey, if_neg (by rw [hmode]; decide)]
    rfl
  obtain ⟨occurredAt, checkpoint, hid, hlast, hbaseline, hcheckpoints, -, hsummaries⟩ :=
    persistUsageRecord_counts (by simp [hmode]) (Option.isSome_iff_exists.2 ⟨row, hrun⟩) hkey hnew h
  constructor
  · have hfind := find?_persisted hsummaries o.agentRunId
    rw [show o.agentRunId = o.run.key.agentRunId from rfl, if_pos rfl,
      show db.summaries.find? o.run.key.agentRunId = some row from hrun, Option.map_some] at hfind
    refine ⟨_, hfind, fun c => ?_⟩
    show accumulate (row.counters c) ((recordDelta _ _ _ c).map SqlNumber.ofNat) = _
    rw [recordDelta_cumulative hmode]
  · obtain ⟨kept, hkept, hdigest, hbase⟩ := upsertCheckpoint_self db.checkpoints checkpoint
    rw [← hcheckpoints, hid] at hkept
    exact ⟨kept, hkept, hdigest.trans hlast, hbase.trans hbaseline⟩

structure SourceReports (key : UsageRunKey) (source : SourceKey) (observations : List Observation) : Prop where
  ofRun : ∀ o ∈ observations, o.run.key = key
  ofSource : ∀ o ∈ observations, sourceKey o.run o.record.usage = source
  cumulative : ∀ o ∈ observations, o.record.usage.counterMode = .cumulative
  distinct : (observations.map fun o => o.record.sourceIdentities).Nodup

def valuesOf (c : UsageCounter) (observations : List Observation) : List (Option Nat) :=
  observations.map fun o => o.record.normalized c

def addsAfter (source : SourceKey) (existing : Option Checkpoint) (c : UsageCounter) (values : List (Option Nat)) :
    List (Option Nat) := match existing with
  | none => additions source.startsAtZero values
  | some checkpoint => growth (checkpoint.baseline c) values

theorem map_accumulate (x d : Option Nat) :
    (accumulate x d).map SqlNumber.ofNat = accumulate (x.map SqlNumber.ofNat) (d.map SqlNumber.ofNat) := by
  cases x <;> cases d <;> simp [accumulate, Tallies.SqlNumber.ofNat_add]

theorem counters_cumulative {key : UsageRunKey} {source : SourceKey} : ∀ {observations : List Observation}
    {db db' : UsageDatabase} {row : RunSummary}, SourceReports key source observations →
    db.summaries.find? key.agentRunId = some row →
    (∀ checkpoint, db.checkpoints.find? (key.agentRunId, key.executionEpoch, .source source) = some checkpoint →
      checkpoint.lastEventDigest.identities ∉ observations.map fun o => o.record.sourceIdentities) →
    observations.foldlM (fun db o => persistUsageRecord parseTime now db o.run o.record) db = some db' →
    ∃ row', db'.summaries.find? key.agentRunId = some row' ∧ ∀ c, row'.counters c = accumulate (row.counters c)
      ((nullableSum (addsAfter source (db.checkpoints.find? (key.agentRunId, key.executionEpoch, .source source)) c
        (valuesOf c observations))).map SqlNumber.ofNat)
  | [], db, _, row, _, hrun, _, h => by
    cases h
    refine ⟨row, hrun, fun c => ?_⟩
    have hnil : ∀ existing, addsAfter source existing c (valuesOf c []) = [] := fun existing => by cases existing <;> rfl
    rw [hnil]
    rfl
  | o :: observations, db, db', row, hreports, hrun, hnew, h => by
    obtain ⟨mid, hmid, hrest⟩ := Option.bind_eq_some_iff.1 ((foldlM_cons ..).symm.trans h)
    have hkey := hreports.ofRun o mem_cons_self
    have hsource := hreports.ofSource o mem_cons_self
    have hcheckpoint : sourceCheckpoint o = (key.agentRunId, key.executionEpoch, .source source) := by
      rw [sourceCheckpoint, hkey, hsource]
    have hid : o.agentRunId = key.agentRunId := congrArg (·.agentRunId) hkey
    rw [← hid] at hrun
    obtain ⟨⟨row₁, hrow₁, hcounters₁⟩, checkpoint, hfound, hdigest, hbaseline⟩ :=
      persist_cumulative (hreports.cumulative o mem_cons_self) hrun (fun old hold hsame => by
        rw [hcheckpoint] at hold
        exact hnew old hold (by rw [hsame]; exact mem_cons_self)) hmid
    rw [hcheckpoint] at hcounters₁ hfound
    have hdistinct := nodup_cons.1 ((map_cons ..) ▸ hreports.distinct)
    obtain ⟨row', hrow', hcounters'⟩ := counters_cumulative
      ⟨fun p hp => hreports.ofRun p (mem_cons_of_mem _ hp), fun p hp => hreports.ofSource p (mem_cons_of_mem _ hp),
        fun p hp => hreports.cumulative p (mem_cons_of_mem _ hp), hdistinct.2⟩ (hid ▸ hrow₁)
      (fun later hlater => by
        rw [hfound] at hlater
        rw [← Option.some.inj hlater, hdigest]
        exact hdistinct.1) hrest
    refine ⟨row', hrow', fun c => ?_⟩
    have hadds : addsAfter source (db.checkpoints.find? (key.agentRunId, key.executionEpoch, .source source)) c
        (valuesOf c (o :: observations)) =
        cumulativeDelta o (db.checkpoints.find? (key.agentRunId, key.executionEpoch, .source source)) c ::
          growth (o.record.normalized c) (valuesOf c observations) := by
      unfold addsAfter cumulativeDelta
      rw [hsource]
      cases db.checkpoints.find? (key.agentRunId, key.executionEpoch, CheckpointKey.source source) <;> rfl
    have hlater : addsAfter source (mid.checkpoints.find? (key.agentRunId, key.executionEpoch, .source source)) c
        (valuesOf c observations) = growth (o.record.normalized c) (valuesOf c observations) := by
      rw [hfound, ← hbaseline]
      rfl
    rw [hcounters', hcounters₁, hlater, hadds, Tallies.nullableSum_cons, map_accumulate, Tallies.accumulate_assoc]

theorem recordUsageBatches_eq {batches : List RuntimeUsageFlushBatch} {db : UsageDatabase} :
    recordUsageBatches parseTime now db batches = (batches.flatMap RuntimeUsageFlushBatch.observations).foldlM
      (fun db o => persistUsageRecord parseTime now db o.run o.record) db :=
  foldlM_observations fun _ _ _ => rfl

theorem sortByTime_eq {records : List BufferedUsageRecord}
    (h : records.Pairwise fun a b => (compare (a.usage.occurredAt.bind parseTime) (b.usage.occurredAt.bind parseTime)).isLE = true) :
    RuntimeUsageBuffer.sortByTime parseTime records = records :=
  List.Pairwise.insertionSort_eq h

/-- **A cumulative source is counted by its growth**: from the first to the last report of a stretch that carries a counter, or
from zero where the source starts there.  A counter that falls adds nothing, and records that come in the order of their times are
flushed in that order. -/
theorem cumulative_counters_telescope {key : UsageRunKey} {source : SourceKey} {batches : List RuntimeUsageFlushBatch}
    {row : RunSummary} (hreports : SourceReports key source (batches.flatMap RuntimeUsageFlushBatch.observations))
    (hrun : db.summaries.find? key.agentRunId = some row)
    (hnew : db.checkpoints.find? (key.agentRunId, key.executionEpoch, .source source) = none)
    (h : recordUsageBatches parseTime now db batches = some db') :
    (∃ row', db'.summaries.find? key.agentRunId = some row' ∧ ∀ c,
      let values := valuesOf c (batches.flatMap RuntimeUsageFlushBatch.observations)
      row'.counters c = accumulate (row.counters c) ((added source.startsAtZero values).map SqlNumber.ofNat) ∧
      (∀ (m n first : Nat) (rest : List Nat), (first :: rest).Pairwise (· ≤ ·) →
        values = List.replicate m none ++ ((first :: rest).map some ++ List.replicate n none) →
        (added source.startsAtZero values).getD 0 =
          (first :: rest).getLast (cons_ne_nil _ _) - (if source.startsAtZero ∧ m = 0 then 0 else first))) ∧
    (∀ baseline value : Nat, value ≤ baseline → counterDelta (some value) (some baseline) = none) ∧
    ∀ records : List BufferedUsageRecord, records.Pairwise (fun a b =>
      (compare (a.usage.occurredAt.bind parseTime) (b.usage.occurredAt.bind parseTime)).isLE = true) →
      RuntimeUsageBuffer.sortByTime parseTime records = records := by
  rw [recordUsageBatches_eq] at h
  obtain ⟨row', hrow', hcounters⟩ := counters_cumulative hreports hrun (fun _ hold => by rw [hnew] at hold; cases hold) h
  refine ⟨⟨row', hrow', fun c => ⟨?_, ?_⟩⟩, fun baseline value hle => if_neg (Nat.not_lt.2 hle), fun _ => sortByTime_eq⟩
  · rw [hcounters c, hnew]
    rfl
  · intro m n first rest hsorted hvalues
    rw [hvalues]
    exact added_telescopes source.startsAtZero m n hsorted

end Records

/-! ## Reports of one counter -/

def outputReports (outputs : List (Option Nat)) : List RuntimeUsageFlushBatch :=
  outputs.zipIdx.map fun (output, i) =>
    let run : RuntimeUsageRun := { key := ⟨"run-1", 1⟩, runtimeKind := .opencodeCli, providerKey := none, modelKey := none }
    let usage : ParsedRuntimeUsage :=
      { identitySuffix := "run", dialectId := "usage-v1", source := "runtime_event", scope := "run", counterMode := .cumulative,
        inputSemantics := .exclusiveBuckets, fields := { outputTokens := output.map Int.ofNat }, occurredAt := some "t" }
    ⟨run, [.of run (toString i) usage fun c => if c = .outputTokens then output else none], 0⟩

def enrolledDatabase : UsageDatabase :=
  (UsageDatabase.empty.enrollRun (some 0) 0
    { key := ⟨"run-1", 1⟩, runtimeKind := .opencodeCli, providerKey := none, modelKey := none }).1

def sourceOfReports : SourceKey := ⟨.opencodeCli, "usage-v1", "run", "run", "runtime_event", none, none⟩

theorem cumulative_counters_telescope_steady : ∃ db' row',
    recordUsageBatches (fun _ => some 0) "t" enrolledDatabase (outputReports [some 10, some 10, some 30]) = some db' ∧
    db'.summaries.find? "run-1" = some row' ∧ row'.counters .outputTokens = some (SqlNumber.ofNat 20) := by
  have hreports : SourceReports ⟨"run-1", 1⟩ sourceOfReports
      ((outputReports [some 10, some 10, some 30]).flatMap RuntimeUsageFlushBatch.observations) :=
    ⟨by decide, by decide, by decide, by decide⟩
  obtain ⟨db', hdb'⟩ := Option.isSome_iff_exists.1 (show (recordUsageBatches (fun _ => some 0) "t" enrolledDatabase
    (outputReports [some 10, some 10, some 30])).isSome = true by decide)
  obtain ⟨⟨row', hrow', hcounters⟩, -⟩ := cumulative_counters_telescope hreports rfl rfl hdb'
  exact ⟨db', row', hdb', hrow', (hcounters .outputTokens).1⟩

/-- **The growth over a report that leaves the counter out is lost**: nothing is added where the counter went from 10 to 30. -/
theorem cumulative_counters_sparse :
    valuesOf .outputTokens ((outputReports [some 10, none, some 30]).flatMap RuntimeUsageFlushBatch.observations) =
      [some 10, none, some 30] ∧
    (recordUsageBatches (fun _ => some 0) "t" enrolledDatabase (outputReports [some 10, none, some 30])).map (fun db =>
      (db.summaries.find? "run-1").map fun row => row.counters .outputTokens) = some (some none) := by
  decide

end Rovai.Usage
