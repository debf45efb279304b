import RovaiCore.UsageStore
/-!
# The ledger of the usage tables

What the tables stand for: the list of the observations that have been counted, one for each call of a run (`Accounts`).
-/
namespace Rovai.Usage

open Tables (Table)
open List
open Tallies (SqlNumber accumulate nullableSum columnSum addOnce addAll)

structure Observation where
  run : RuntimeUsageRun
  record : BufferedUsageRecord

namespace Observation

variable (o : Observation)

def call : UsageRunKey × SourceKey × List String :=
  (o.run.key, sourceKey o.run o.record.usage, o.record.sourceIdentities)

def agentRunId : String := o.run.key.agentRunId

def isDelta : Bool := o.record.usage.counterMode = .delta

end Observation

variable (c : UsageCounter)

def observedTotal (observations : List Observation) : Option SqlNumber :=
  let carried := observations.filterMap fun o => o.record.normalized c
  if carried = [] then none else some (SqlNumber.ofNat carried.sum)

theorem observedTotal_eq (l : List Observation) :
    observedTotal c l = nullableSum (l.map fun o => (o.record.normalized c).map SqlNumber.ofNat) := by
  have hmap : (l.filterMap fun o => (o.record.normalized c).map SqlNumber.ofNat) =
      (l.filterMap fun o => o.record.normalized c).map SqlNumber.ofNat := by
    rw [map_filterMap]
  rw [Tallies.nullableSum_map, hmap, ← SqlNumber.ofNat_sum]
  simp [observedTotal]

theorem observedTotal_snoc (l : List Observation) (o : Observation) :
    observedTotal c (l ++ [o]) = accumulate (observedTotal c l) ((o.record.normalized c).map SqlNumber.ofNat) := by
  simp [observedTotal_eq, Tallies.nullableSum_snoc]

def checkpointOf (call : UsageRunKey × SourceKey × List String) : String × Nat × CheckpointKey :=
  (call.1.agentRunId, call.1.executionEpoch, .call call.2.1 call.2.2)

def digestOf (call : UsageRunKey × SourceKey × List String) : EventDigest :=
  ⟨call.2.2, call.2.1.dialect, call.2.1.suffix⟩

theorem checkpointOf_inj {call call' : UsageRunKey × SourceKey × List String} (h : checkpointOf call = checkpointOf call') :
    call = call' := by
  obtain ⟨⟨id, epoch⟩, source, identities⟩ := call
  obtain ⟨⟨id', epoch'⟩, source', identities'⟩ := call'
  simp only [checkpointOf, Prod.mk.injEq, CheckpointKey.call.injEq] at h
  obtain ⟨rfl, rfl, rfl, rfl⟩ := h
  rfl

structure Accounts (db : UsageDatabase) (counted : List Observation) : Prop where
  once : (counted.map Observation.call).Nodup
  marked : ∀ o ∈ counted, ∃ row, db.checkpoints.find? (checkpointOf o.call) = some row
  marks : ∀ key row, db.checkpoints.find? key = some row →
    ∃ o ∈ counted, key = checkpointOf o.call ∧ row.lastEventDigest = digestOf o.call
  summaries : ∀ id row, db.summaries.find? id = some row → ∀ c,
    row.counters c = observedTotal c (counted.filter (fun o => o.agentRunId = id))
  totals : ∀ c, columnSum (fun row => row.counters c) db.hourly = columnSum (fun row => row.counters c) db.summaries

theorem Accounts.empty : Accounts .empty [] where
  once := nodup_nil
  marked := by simp
  marks := by simp [UsageDatabase.empty]
  summaries := by simp [UsageDatabase.empty]
  totals := fun _ => rfl

/-! ## Enrolment -/

def RunsKept (db db' : UsageDatabase) : Prop :=
  ∀ key run, db.enrolledUsageRun key = some run → db'.enrolledUsageRun key = some run

theorem RunsKept.refl (db : UsageDatabase) : RunsKept db db := fun _ _ h => h

theorem RunsKept.trans {a b c : UsageDatabase} (h : RunsKept a b) (h' : RunsKept b c) : RunsKept a c := fun key run hrun => h' key run (h key run hrun)

variable {run : RuntimeUsageRun} {db : UsageDatabase}

theorem enrolledUsageRun_key {key : UsageRunKey}
    (h : db.enrolledUsageRun key = some run) : run.key = key := by
  obtain ⟨row, -, rfl⟩ := Option.map_eq_some_iff.1 h
  rfl

theorem find?_of_enrolled {key : UsageRunKey}
    (h : db.enrolledUsageRun key = some run) : (db.summaries.find? run.key.agentRunId).isSome := by
  rw [enrolledUsageRun_key h]
  obtain ⟨row, hrow, -⟩ := Option.map_eq_some_iff.1 h
  rw [hrow]
  rfl

theorem enrollRun_kept (db : UsageDatabase) (createdAt : Option Int) (startedAt : Int) (run : RuntimeUsageRun) :
    RunsKept db (db.enrollRun createdAt startedAt run).1 := by
  intro key run' h
  obtain ⟨row, hrow, rfl⟩ := Option.map_eq_some_iff.1 h
  cases createdAt with
  | none => exact h
  | some created =>
    rw [UsageDatabase.enrollRun]
    by_cases hbefore : created < startedAt
    · rw [if_pos hbefore]
      exact h
    · rw [if_neg hbefore]
      rw [UsageDatabase.enrolledUsageRun, Table.find?_insert_of_found hrow]
      rfl

theorem Accounts.enroll {counted : List Observation} (h : Accounts db counted)
    (hruns : ∀ o ∈ counted, (db.summaries.find? o.agentRunId).isSome) (createdAt : Option Int) (startedAt : Int)
    (run : RuntimeUsageRun) : Accounts (db.enrollRun createdAt startedAt run).1 counted := by
  cases createdAt with
  | none => exact h
  | some created =>
    rw [UsageDatabase.enrollRun]
    by_cases hbefore : created < startedAt
    · rw [if_pos hbefore]
      exact h
    · rw [if_neg hbefore]
      cases htaken : db.summaries.find? run.key.agentRunId with
      | some row =>
        rw [Table.insert_of_taken htaken]
        exact h
      | none =>
        refine { h with summaries := ?_, totals := ?_ }
        · intro id row hrow c
          obtain hold | ⟨rfl, rfl, -⟩ := Table.insert_cases hrow
          · exact h.summaries id row hold c
          -- nothing of a run is counted before it is enrolled
          have hnone : counted.filter (fun o => o.agentRunId = run.key.agentRunId) = [] := by
            refine filter_eq_nil_iff.2 fun o ho heq => ?_
            have hsome := hruns o ho
            rw [of_decide_eq_true heq, htaken] at hsome
            cases hsome
          rw [hnone]
          rfl
        · intro c
          rw [Tallies.columnSum_insert _ htaken, h.totals c]
          rfl

/-! ## One record -/

variable {delta : UsageCounters}

theorem sum_updateRunSummary {summaries summaries' : Table RunSummary.agentRunId}
    (h : updateRunSummary summaries run delta = some summaries')
    (hrun : (summaries.find? run.key.agentRunId).isSome) (c : UsageCounter) :
    columnSum (fun row => row.counters c) summaries' =
      accumulate (columnSum (fun row => row.counters c) summaries) ((delta c).map SqlNumber.ofNat) := by
  obtain ⟨row, hrow⟩ := Option.isSome_iff_exists.1 hrun
  rw [updateRunSummary] at h
  split at h
  · cases h
  cases h
  exact Tallies.columnSum_update (f := fun row : RunSummary => row.counters c) (g := RunSummary.add delta) (fun _ => rfl) hrow rfl

theorem find?_updateRunSummary {summaries summaries' : Table RunSummary.agentRunId}
    (h : updateRunSummary summaries run delta = some summaries') (id : String) :
    summaries'.find? id =
      if id = run.key.agentRunId then
        (summaries.find? id).map (RunSummary.add delta)
      else summaries.find? id := by
  rw [updateRunSummary] at h
  split at h
  · cases h
  cases h
  exact Table.find?_update summaries _ (RunSummary.add delta) (fun _ => rfl) id

theorem holds_iff {bucket : Int} {row : HourlyUsage} : HourlyUsage.holds bucket run row = true ↔
    row.bucketStartAt = bucket ∧ row.runtimeKind = run.runtimeKind ∧ row.providerKey = run.providerKey ∧
      row.modelKey = run.modelKey := by
  simp [HourlyUsage.holds, and_assoc]

theorem updateWhere_holds {hourly : Table HourlyUsage.identity} {bucket : Int} {row : HourlyUsage}
    (hrow : hourly.find? row.identity = some row) (hholds : HourlyUsage.holds bucket run row = true)
    (f : HourlyUsage → HourlyUsage) (hf : ∀ r, HourlyUsage.identity (f r) = HourlyUsage.identity r) :
    hourly.updateWhere (HourlyUsage.holds bucket run) f hf = hourly.update row.identity f hf := by
  have hguard : hourly.rows.map (fun r => if HourlyUsage.holds bucket run r then f r else r) =
      hourly.rows.map (fun r => if decide (r.identity = row.identity) then f r else r) := by
    refine map_congr_left fun r hr => ?_
    have hiff : HourlyUsage.holds bucket run r = decide (r.identity = row.identity) := by
      rw [Bool.eq_iff_iff, decide_eq_true_eq]
      constructor
      · intro h
        obtain ⟨hb, hk, hp, hm⟩ := holds_iff.1 h
        obtain ⟨hb', hk', hp', hm'⟩ := holds_iff.1 hholds
        simp [HourlyUsage.identity, hb, hk, hp, hm, hb', hk', hp', hm']
      · intro h
        have hsame := Table.find?_of_mem hr
        rw [h, hrow] at hsame
        cases hsame
        exact hholds
    rw [hiff]
  simp [Table.update, Table.updateWhere, hguard]

theorem sum_updateHourly {hourly hourly' : Table HourlyUsage.identity}
    {occurredAt : Int} (h : updateHourly hourly run delta occurredAt = some hourly') (c : UsageCounter) :
    columnSum (fun row => row.counters c) hourly' =
      accumulate (columnSum (fun row => row.counters c) hourly) ((delta c).map SqlNumber.ofNat) := by
  rw [updateHourly] at h
  by_cases hany : delta.anyObserved = false
  · rw [if_pos (by simp [hany])] at h
    cases h
    rw [UsageCounters.none_of_unobserved hany c]
    rfl
  · rw [if_neg (by simpa using hany)] at h
    dsimp only at h
    by_cases hfound : hourly.any (HourlyUsage.holds (hourBucket occurredAt) run) = true
    · rw [if_pos hfound] at h
      cases h
      obtain ⟨k, row, hrow, hholds⟩ := Table.any_iff.1 hfound
      have hself := Table.find?_key hrow
      rw [updateWhere_holds hself hholds (HourlyUsage.add delta) (fun _ => rfl)]
      exact Tallies.columnSum_update (f := fun row : HourlyUsage => row.counters c) (g := HourlyUsage.add delta) (fun _ => rfl) hself rfl
    · rw [if_neg hfound] at h
      split at h
      · cases h
      rename_i htaken
      cases h
      rw [Tallies.columnSum_insert _ (by simpa using htaken)]

theorem find?_upsertCheckpoint (checkpoints : Table Checkpoint.identity) (row : Checkpoint)
    (hnew : checkpoints.find? row.identity = none) (key : String × Nat × CheckpointKey) :
    (upsertCheckpoint checkpoints row).find? key = if key = row.identity then some row else checkpoints.find? key := by
  have hnone : (checkpoints.update row.identity row.renew row.renew_identity).find? row.identity = none := by
    rw [Table.find?_update, if_pos rfl, hnew]
    rfl
  rw [upsertCheckpoint, Table.find?_insert hnone]
  by_cases hk : key = row.identity
  · rw [if_pos hk, if_pos hk]
  · rw [if_neg hk, if_neg hk, Table.find?_update_of_ne _ hk row.renew row.renew_identity]

theorem upsertCheckpoint_self (checkpoints : Table Checkpoint.identity) (row : Checkpoint) :
    ∃ kept, (upsertCheckpoint checkpoints row).find? row.identity = some kept ∧ kept.lastEventDigest = row.lastEventDigest ∧
      kept.baseline = row.baseline := by
  cases hold : checkpoints.find? row.identity with
  | none => exact ⟨row, (find?_upsertCheckpoint checkpoints row hold _).trans (if_pos rfl), rfl, rfl⟩
  | some old =>
    exact ⟨row.renew old, Table.find?_insert_of_found (Table.find?_update_self hold _ row.renew_identity) row, rfl, rfl⟩

section Persist

variable {parseTime : String → Option Int} {now : String} {db db' : UsageDatabase} {counted : List Observation}
  {run : RuntimeUsageRun} {record : BufferedUsageRecord}

theorem persistUsageRecord_counts {key : String × Nat × CheckpointKey} (hmode : record.usage.counterMode ≠ .gauge)
    (hrun : (db.summaries.find? run.key.agentRunId).isSome)
    (hkey : (run.key.agentRunId, run.key.executionEpoch, checkpointKey run record) = key)
    (hnew : ∀ row, db.checkpoints.find? key = some row → row.lastEventDigest ≠ eventDigest record)
    (h : persistUsageRecord parseTime now db run record = some db') :
    ∃ occurredAt row, row.identity = key ∧ row.lastEventDigest = eventDigest record ∧ row.baseline = record.normalized ∧
      db'.checkpoints = upsertCheckpoint db.checkpoints row ∧
      updateHourly db.hourly run (recordDelta run record (db.checkpoints.find? key)) occurredAt = some db'.hourly ∧
      if (recordDelta run record (db.checkpoints.find? key)).anyObserved
        then updateRunSummary db.summaries run (recordDelta run record (db.checkpoints.find? key)) = some db'.summaries
        else db'.summaries = db.summaries := by
  have hgauge : ¬ (record.usage.scope = "session" ∧ record.usage.counterMode = .gauge ∧
      record.normalized.anyObserved = false ∧ record.usage.cost = none) := fun hg => hmode hg.2.1
  have hany : ¬ ((db.checkpoints.find? key).any fun row => row.lastEventDigest = eventDigest record) = true := by
    cases hold : db.checkpoints.find? key with
    | none => simp
    | some row => simpa using hnew row hold
  rw [persistUsageRecord, if_neg (by simpa [Option.isSome_iff_ne_none] using hrun), if_neg hgauge, hkey] at h
  dsimp only at h
  rw [if_neg hany] at h
  obtain ⟨occurredAt, -, h⟩ := Option.bind_eq_some_iff.1 h
  obtain ⟨summaries, hsummaries, h⟩ := Option.bind_eq_some_iff.1 h
  obtain ⟨hourly, hhourly, h⟩ := Option.map_eq_some_iff.1 h
  cases h
  refine ⟨occurredAt, ⟨_, _, _, _, _⟩, hkey, rfl, rfl, rfl, hhourly, ?_⟩
  split at hsummaries
  · rename_i hobserved
    rwa [if_pos hobserved]
  · rename_i hobserved
    cases hsummaries
    rw [if_neg hobserved]

/-- **What a call of an enrolled run does to the tables**: nothing where its checkpoint is there; otherwise its counters are added
to the run's row and to an hour's, and its checkpoint is written. -/
theorem persistUsageRecord_cases (hdelta : record.usage.counterMode = .delta)
    (hrun : (db.summaries.find? run.key.agentRunId).isSome)
    (hmarks : ∀ row, db.checkpoints.find? (checkpointOf (Observation.call ⟨run, record⟩)) = some row →
      row.lastEventDigest = eventDigest record)
    (h : persistUsageRecord parseTime now db run record = some db') :
    ((db.checkpoints.find? (checkpointOf (Observation.call ⟨run, record⟩))).isSome ∧ db' = db) ∨
    (db.checkpoints.find? (checkpointOf (Observation.call ⟨run, record⟩)) = none ∧
      ∃ occurredAt row, row.identity = checkpointOf (Observation.call ⟨run, record⟩) ∧ row.lastEventDigest = eventDigest record ∧
        db'.checkpoints = upsertCheckpoint db.checkpoints row ∧
        updateHourly db.hourly run record.normalized occurredAt = some db'.hourly ∧
        if record.normalized.anyObserved then updateRunSummary db.summaries run record.normalized = some db'.summaries
        else db'.summaries = db.summaries) := by
  have hfind : (run.key.agentRunId, run.key.executionEpoch, checkpointKey run record) =
      checkpointOf (Observation.call ⟨run, record⟩) := by
    rw [checkpointKey, if_pos hdelta]
    rfl
  cases hold : db.checkpoints.find? (checkpointOf (Observation.call ⟨run, record⟩)) with
  | some row =>
    have hsame := hmarks row hold
    rw [persistUsageRecord, if_neg (by simpa [Option.isSome_iff_ne_none] using hrun),
      if_neg fun hg => by simp [hdelta] at hg, hfind, hold, if_pos (by simp [hsame])] at h
    cases h
    exact .inl ⟨rfl, rfl⟩
  | none =>
    obtain ⟨occurredAt, row, hid, hlast, -, hcheckpoints, hwrites⟩ :=
      persistUsageRecord_counts (by simp [hdelta]) hrun hfind (fun row hrow => by simp [hold] at hrow) h
    rw [hold, show recordDelta run record none = record.normalized by simp [recordDelta, hdelta]] at hwrites
    exact .inr ⟨rfl, occurredAt, row, hid, hlast, hcheckpoints, hwrites⟩

theorem sum_persisted {summaries : Table RunSummary.agentRunId} (hrun : (db.summaries.find? run.key.agentRunId).isSome)
    {counters : UsageCounters} (h : if counters.anyObserved then updateRunSummary db.summaries run counters = some summaries
      else summaries = db.summaries) (c : UsageCounter) :
    columnSum (fun row => row.counters c) summaries =
      accumulate (columnSum (fun row => row.counters c) db.summaries) ((counters c).map SqlNumber.ofNat) := by
  by_cases hany : counters.anyObserved = true
  · rw [if_pos hany] at h
    exact sum_updateRunSummary h hrun c
  · rw [if_neg hany] at h
    have hnone : counters c = none := UsageCounters.none_of_unobserved (by simpa using hany) c
    rw [h, hnone]
    rfl

theorem find?_persisted {summaries : Table RunSummary.agentRunId} {counters : UsageCounters}
    (h : if counters.anyObserved then updateRunSummary db.summaries run counters = some summaries
      else summaries = db.summaries) (id : String) :
    summaries.find? id = if id = run.key.agentRunId then (db.summaries.find? id).map (RunSummary.add counters)
      else db.summaries.find? id := by
  by_cases hany : counters.anyObserved = true
  · rw [if_pos hany] at h
    exact find?_updateRunSummary h id
  · rw [if_neg hany] at h
    have hsame : ∀ row : RunSummary, row.add counters = row := by
      intro row
      have hcounters : addCounters row.counters counters = row.counters := by
        funext c
        have hnone : counters c = none := UsageCounters.none_of_unobserved (by simpa using hany) c
        rw [addCounters, hnone]
        rfl
      rw [RunSummary.add, hcounters]
    rw [h]
    by_cases hid : id = run.key.agentRunId
    · rw [if_pos hid, funext hsame, Option.map_id']
    · rw [if_neg hid]

theorem Accounts.digest (h : Accounts db counted) (row : Checkpoint)
    (hrow : db.checkpoints.find? (checkpointOf (Observation.call ⟨run, record⟩)) = some row) :
    row.lastEventDigest = eventDigest record := by
  obtain ⟨o, -, hkey, hlast⟩ := h.marks _ row hrow
  rw [hlast, ← checkpointOf_inj hkey]
  rfl

/-- **Persisting a call records its observation once.** -/
theorem Accounts.persist (h : Accounts db counted) (hdelta : record.usage.counterMode = .delta)
    (hrun : (db.summaries.find? run.key.agentRunId).isSome) (hp : persistUsageRecord parseTime now db run record = some db') :
    Accounts db' (addOnce Observation.call counted ⟨run, record⟩) := by
  obtain ⟨hsome, rfl⟩ | ⟨hnew, occurredAt, row, hid, hlast, hcheckpoints, hhourly, hsummaries⟩ :=
    persistUsageRecord_cases hdelta hrun h.digest hp
  · obtain ⟨row, hrow⟩ := Option.isSome_iff_exists.1 hsome
    obtain ⟨o, ho, hkey, -⟩ := h.marks _ row hrow
    rw [Tallies.addOnce_of_taken _ (checkpointOf_inj hkey ▸ mem_map_of_mem ho)]
    exact h
  · have hfresh : Observation.call ⟨run, record⟩ ∉ counted.map Observation.call := by
      intro hmem
      obtain ⟨o, ho, hcall⟩ := mem_map.1 hmem
      obtain ⟨row', hrow'⟩ := h.marked o ho
      rw [hcall, hnew] at hrow'
      cases hrow'
    have hfind := find?_upsertCheckpoint db.checkpoints row (hid ▸ hnew)
    rw [← hcheckpoints, hid] at hfind
    rw [Tallies.addOnce_of_new _ hfresh]
    refine ⟨?_, ?_, ?_, ?_, ?_⟩
    · rw [← Tallies.addOnce_of_new _ hfresh]
      exact Tallies.nodup_addOnce _ h.once
    · intro o ho
      rw [hfind]
      obtain hold | rfl := mem_append.1 ho |>.imp_right mem_singleton.1
      · by_cases hcall : checkpointOf o.call = checkpointOf (Observation.call ⟨run, record⟩)
        · exact ⟨row, if_pos hcall⟩
        rw [if_neg hcall]
        exact h.marked o hold
      · exact ⟨row, if_pos rfl⟩
    · intro key row' hrow'
      rw [hfind] at hrow'
      by_cases hkey : key = checkpointOf (Observation.call ⟨run, record⟩)
      · rw [if_pos hkey] at hrow'
        cases hrow'
        exact ⟨⟨run, record⟩, by simp, hkey, hlast⟩
      · rw [if_neg hkey] at hrow'
        obtain ⟨o, ho, hold⟩ := h.marks key row' hrow'
        exact ⟨o, mem_append_left _ ho, hold⟩
    · intro id row' hrow' c
      rw [find?_persisted hsummaries] at hrow'
      by_cases hown : id = run.key.agentRunId
      · rw [if_pos hown] at hrow'
        obtain ⟨old, hold, rfl⟩ := Option.map_eq_some_iff.1 hrow'
        have hmine : decide (Observation.agentRunId ⟨run, record⟩ = id) = true := decide_eq_true hown.symm
        rw [filter_append, filter_cons_of_pos (by exact hmine), filter_nil, observedTotal_snoc,
          ← h.summaries id old hold c]
        rfl
      · rw [if_neg hown] at hrow'
        have hother : ¬ decide (Observation.agentRunId ⟨run, record⟩ = id) = true := by
          rw [decide_eq_true_eq]
          exact fun heq => hown heq.symm
        rw [filter_append, filter_cons_of_neg (by exact hother), filter_nil, append_nil]
        exact h.summaries id row' hrow' c
    · intro c
      rw [sum_updateHourly hhourly c, sum_persisted hrun hsummaries c, h.totals c]

theorem Accounts.persist_kept (h : Accounts db counted) (hdelta : record.usage.counterMode = .delta)
    (hrun : (db.summaries.find? run.key.agentRunId).isSome) (hp : persistUsageRecord parseTime now db run record = some db') :
    RunsKept db db' := by
  obtain ⟨-, rfl⟩ | ⟨-, occurredAt, row, -, -, -, -, hsummaries⟩ := persistUsageRecord_cases hdelta hrun h.digest hp
  · exact .refl _
  intro key run' henrolled
  obtain ⟨row', hrow', rfl⟩ := Option.map_eq_some_iff.1 henrolled
  rw [UsageDatabase.enrolledUsageRun, find?_persisted hsummaries, hrow']
  split <;> rfl

/-! ## A transaction -/

def RuntimeUsageFlushBatch.observations (batch : RuntimeUsageFlushBatch) : List Observation :=
  batch.records.map (⟨batch.run, ·⟩)

theorem foldlM_observations {σ : Type} {f : σ → RuntimeUsageRun → BufferedUsageRecord → Option σ}
    {g : σ → RuntimeUsageFlushBatch → Option σ} : ∀ {batches : List RuntimeUsageFlushBatch} {s : σ},
    (∀ batch ∈ batches, ∀ s, g s batch = batch.records.foldlM (fun s record => f s batch.run record) s) →
    batches.foldlM g s = (batches.flatMap RuntimeUsageFlushBatch.observations).foldlM (fun s o => f s o.run o.record) s
  | [], _, _ => rfl
  | batch :: batches, s, h => by
    rw [foldlM_cons, h batch mem_cons_self, flatMap_cons, foldlM_append, RuntimeUsageFlushBatch.observations,
      foldlM_map]
    congr 1
    funext mid
    exact foldlM_observations fun b hb => h b (mem_cons_of_mem _ hb)

theorem Accounts.persistBatch {batch : RuntimeUsageFlushBatch} : ∀ {db db' : UsageDatabase} {counted : List Observation},
    Accounts db counted → (∀ record ∈ batch.records, record.usage.counterMode = .delta) →
    db.enrolledUsageRun batch.run.key = some batch.run → Usage.persistBatch parseTime now db batch = some db' →
    Accounts db' (addAll Observation.call counted batch.observations) ∧ RunsKept db db' := by
  obtain ⟨run, records, since⟩ := batch
  induction records with
  | nil =>
    intro db db' counted h _ _ hp
    cases hp
    exact ⟨h, .refl _⟩
  | cons record records ih =>
    intro db db' counted h hdelta henrolled hp
    rw [Usage.persistBatch, foldlM_cons] at hp
    obtain ⟨mid, hmid, hrest⟩ := Option.bind_eq_some_iff.1 hp
    have hmode := hdelta record mem_cons_self
    have hrun := find?_of_enrolled henrolled
    have hkept := h.persist_kept hmode hrun hmid
    obtain ⟨haccounts, hkept'⟩ := ih (h.persist hmode hrun hmid) (fun r hr => hdelta r (mem_cons_of_mem _ hr))
      (hkept _ _ henrolled) hrest
    exact ⟨haccounts, hkept.trans hkept'⟩

/-- **A transaction records the observations of its batches, each once.** -/
theorem Accounts.recordBatches : ∀ {batches : List RuntimeUsageFlushBatch} {db db' : UsageDatabase} {counted : List Observation},
    Accounts db counted → (∀ batch ∈ batches, ∀ record ∈ batch.records, record.usage.counterMode = .delta) →
    (∀ batch ∈ batches, db.enrolledUsageRun batch.run.key = some batch.run) →
    recordUsageBatches parseTime now db batches = some db' →
    Accounts db' (addAll Observation.call counted (batches.flatMap RuntimeUsageFlushBatch.observations)) ∧ RunsKept db db'
  | [], _, _, _, h, _, _, hp => by
    cases hp
    exact ⟨h, .refl _⟩
  | batch :: batches, db, db', counted, h, hdelta, henrolled, hp => by
    rw [recordUsageBatches, foldlM_cons] at hp
    obtain ⟨mid, hmid, hrest⟩ := Option.bind_eq_some_iff.1 hp
    obtain ⟨haccounts, hkept⟩ := h.persistBatch (hdelta batch mem_cons_self) (henrolled batch mem_cons_self) hmid
    obtain ⟨haccounts', hkept'⟩ := haccounts.recordBatches (fun b hb => hdelta b (mem_cons_of_mem _ hb))
      (fun b hb => hkept _ _ (henrolled b (mem_cons_of_mem _ hb))) hrest
    rw [flatMap_cons, addAll, foldl_append]
    exact ⟨haccounts', hkept.trans hkept'⟩

end Persist
end Rovai.Usage
