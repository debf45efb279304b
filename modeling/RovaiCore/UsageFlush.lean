import RovaiCore.UsageBuffer
/-!
# What happens to a buffered record

A report that is observed waits in the buffer, or one of its call has been seen before (`observed_observeRun`).
-/
namespace Rovai.Usage

open RuntimeUsageBuffer
open List

/-- The records that an observation makes of the reports in front of the first that is refused. -/
def reportsOf (run : RuntimeUsageRun) (sourceIdentity : String) (utcNow : Nat → String) :
    List ParsedRuntimeUsage → List BufferedUsageRecord
  | [] => []
  | usage :: rest =>
    match normalizeUsage (stamp (utcNow rest.length) usage) with
    | .error _ => []
    | .ok normalized =>
      .of run sourceIdentity (stamp (utcNow rest.length) usage) normalized :: reportsOf run sourceIdentity utcNow rest

theorem of_mem_reportsOf {run : RuntimeUsageRun} {sourceIdentity : String} {utcNow : Nat → String}
    {record : BufferedUsageRecord} : ∀ {observations : List ParsedRuntimeUsage},
    record ∈ reportsOf run sourceIdentity utcNow observations →
    record.key = .new run.key record.usage ∧ record.sourceIdentities = [sourceIdentity] ∧
      ∃ usage ∈ observations, record.usage.counterMode = usage.counterMode
  | [], h => by cases h
  | usage :: rest, h => by
    rw [reportsOf] at h
    cases hn : normalizeUsage (stamp (utcNow rest.length) usage) with
    | error e => simp [hn] at h
    | ok normalized =>
      simp only [hn, mem_cons] at h
      obtain rfl | hmem := h
      · exact ⟨rfl, rfl, usage, mem_cons_self, rfl⟩
      obtain ⟨hkey, hids, usage', hmem', hmode⟩ := of_mem_reportsOf hmem
      exact ⟨hkey, hids, usage', mem_cons_of_mem _ hmem', hmode⟩

/-! ## Observing -/

structure Observes (b b' : RuntimeUsageBuffer) (sourceIdentity : String) (reports held : List BufferedUsageRecord) : Prop where
  runs : b'.runs = b.runs
  pending : b'.pending = b.pending ++ held
  reported : ∀ record ∈ held, record ∈ reports
  clocks : ∀ key, (b.pendingSince key).isSome → (b'.pendingSince key).isSome
  started : ∀ record ∈ held, (b'.pendingSince record.key.run).isSome
  known : ∀ seen ∈ b.seenSourceIdentities, seen ∈ b'.seenSourceIdentities
  seen : ∀ record ∈ reports, (record.key, sourceIdentity) ∈ b'.seenSourceIdentities
  learnt : ∀ seen ∈ b'.seenSourceIdentities, seen ∈ b.seenSourceIdentities ∨ ∃ record ∈ held, seen = (record.key, sourceIdentity)

theorem Observes.refl (b : RuntimeUsageBuffer) (sourceIdentity : String) : Observes b b sourceIdentity [] [] where
  runs := rfl
  pending := (append_nil _).symm
  reported := by simp
  clocks := fun _ h => h
  started := by simp
  known := fun _ h => h
  seen := by simp
  learnt := fun _ h => .inl h

theorem Observes.trans {a b c : RuntimeUsageBuffer} {sourceIdentity : String}
    {reports held reports' held' : List BufferedUsageRecord} (h : Observes a b sourceIdentity reports held)
    (h' : Observes b c sourceIdentity reports' held') : Observes a c sourceIdentity (reports ++ reports') (held ++ held') where
  runs := h'.runs.trans h.runs
  pending := by rw [h'.pending, h.pending, append_assoc]
  reported record hmem := by
    obtain hmem | hmem := mem_append.1 hmem
    · exact mem_append_left _ (h.reported record hmem)
    · exact mem_append_right _ (h'.reported record hmem)
  clocks key hkey := h'.clocks key (h.clocks key hkey)
  started record hmem := by
    obtain hmem | hmem := mem_append.1 hmem
    · exact h'.clocks _ (h.started record hmem)
    · exact h'.started record hmem
  known seen hseen := h'.known seen (h.known seen hseen)
  seen record hmem := by
    obtain hmem | hmem := mem_append.1 hmem
    · exact h'.known _ (h.seen record hmem)
    · exact h'.seen record hmem
  learnt seen hseen := by
    obtain hseen | ⟨record, hmem, rfl⟩ := h'.learnt seen hseen
    · obtain hseen | ⟨record, hmem, rfl⟩ := h.learnt seen hseen
      · exact .inl hseen
      · exact .inr ⟨record, mem_append_left _ hmem, rfl⟩
    · exact .inr ⟨record, mem_append_right _ hmem, rfl⟩

theorem isSome_update {b : RuntimeUsageBuffer} {run key : UsageRunKey} {since : Nat} (h : (b.pendingSince key).isSome) :
    (Function.update b.pendingSince run (some since) key).isSome := by
  by_cases hk : key = run
  · rw [hk, Function.update_self]
    rfl
  · rw [Function.update_of_ne hk]
    exact h

theorem observes_observe (b : RuntimeUsageBuffer) (run : RuntimeUsageRun) (sourceIdentity : String) (now : Nat)
    {usage : ParsedRuntimeUsage} (normalized : UsageCounters) (hdelta : usage.counterMode = .delta) :
    ∃ held, Observes b (b.observe run sourceIdentity now usage normalized) sourceIdentity
      [.of run sourceIdentity usage normalized] held := by
  have hcontext : ¬ (usage.scope = "session" ∧ usage.counterMode = .gauge) := fun hg => by simp [hdelta] at hg
  by_cases hseen : ((BufferedUsageRecord.of run sourceIdentity usage normalized).key, sourceIdentity) ∈ b.seenSourceIdentities
  · have hsame : b.observe run sourceIdentity now usage normalized = b := (if_neg hcontext).trans (if_pos hseen)
    rw [hsame]
    exact ⟨[], { Observes.refl b sourceIdentity with reported := by simp, seen := by simpa using hseen }⟩
  · have hheld : b.observe run sourceIdentity now usage normalized =
        hold { b with seenSourceIdentities :=
          ((BufferedUsageRecord.of run sourceIdentity usage normalized).key, sourceIdentity) :: b.seenSourceIdentities } now
          (.of run sourceIdentity usage normalized) := (if_neg hcontext).trans (if_neg hseen)
    rw [hheld]
    refine ⟨[.of run sourceIdentity usage normalized], ⟨rfl, rfl, fun _ h => h, fun key h => isSome_update h, ?_, ?_, ?_, ?_⟩⟩
    · intro record hmem
      obtain rfl := mem_singleton.1 hmem
      simp [hold, Function.update_self]
    · intro seen hmem
      exact mem_cons_of_mem _ hmem
    · intro record hmem
      obtain rfl := mem_singleton.1 hmem
      exact mem_cons_self
    · intro seen hmem
      obtain rfl | hmem := mem_cons.1 hmem
      · exact .inr ⟨_, mem_singleton_self _, rfl⟩
      · exact .inl hmem

theorem observes_observeAll (run : RuntimeUsageRun) (sourceIdentity : String) (now : Nat) (utcNow : Nat → String) :
    ∀ (observations : List ParsedRuntimeUsage) (b : RuntimeUsageBuffer), (∀ usage ∈ observations, usage.counterMode = .delta) →
    ∃ held, Observes b (observeAll run sourceIdentity now utcNow observations b).1 sourceIdentity
      (reportsOf run sourceIdentity utcNow observations) held
  | [], b, _ => ⟨[], .refl b sourceIdentity⟩
  | usage :: rest, b, hdelta => by
    rw [observeAll, reportsOf]
    cases hn : normalizeUsage (stamp (utcNow rest.length) usage) with
    | error e => exact ⟨[], .refl b sourceIdentity⟩
    | ok normalized =>
      have hstamped : (stamp (utcNow rest.length) usage).counterMode = .delta := hdelta usage mem_cons_self
      obtain ⟨held, hfirst⟩ := observes_observe b run sourceIdentity now normalized hstamped
      obtain ⟨held', hrest⟩ := observes_observeAll run sourceIdentity now utcNow rest
        (b.observe run sourceIdentity now (stamp (utcNow rest.length) usage) normalized)
        (fun u hu => hdelta u (mem_cons_of_mem _ hu))
      exact ⟨held ++ held', hfirst.trans hrest⟩

/-! ## Draining -/

section Drain

variable (parseTime : String → Option Int) (b : RuntimeUsageBuffer) (target : RuntimeUsageFlushTarget)

variable {record : BufferedUsageRecord}

theorem mem_drainedRecords {b : RuntimeUsageBuffer} {key : UsageRunKey} :
    record ∈ b.drainedRecords parseTime key ↔ record ∈ b.pending ∧ record.key.run = key := by
  rw [drainedRecords, sortByTime, mem_insertionSort]
  simp only [pendingKeys, mem_flatMap, mem_filter, mem_insertionSort, mem_dedup, mem_map,
    decide_eq_true_eq]
  constructor
  · rintro ⟨k, ⟨-, hrun⟩, hmem, rfl⟩
    exact ⟨hmem, hrun⟩
  · rintro ⟨hmem, hrun⟩
    exact ⟨record.key, ⟨⟨record, hmem, rfl⟩, hrun⟩, hmem, rfl⟩

theorem mem_drainedRuns {b : RuntimeUsageBuffer} {target : RuntimeUsageFlushTarget} {key : UsageRunKey} :
    key ∈ b.drainedRuns target ↔ (∃ record ∈ b.pending, record.key.run = key) ∧ b.selects target key = true := by
  simp only [drainedRuns, pendingKeys, mem_dedup, mem_filter, mem_map, mem_insertionSort]
  constructor
  · rintro ⟨⟨k, ⟨record, hmem, rfl⟩, rfl⟩, hsel⟩
    exact ⟨⟨record, hmem, rfl⟩, hsel⟩
  · rintro ⟨⟨record, hmem, rfl⟩, hsel⟩
    exact ⟨⟨record.key, ⟨record, hmem, rfl⟩, rfl⟩, hsel⟩

theorem drain_takes {batch : RuntimeUsageFlushBatch} (h : batch ∈ (b.drain parseTime target).2) :
    ∃ key, b.runs key = some batch.run ∧ ∀ record ∈ batch.records, record ∈ b.pending ∧ record.key.run = key := by
  obtain ⟨key, -, hbatch⟩ := mem_filterMap.1 h
  cases hrun : b.runs key with
  | none => simp [hrun] at hbatch
  | some run =>
    cases hsince : b.pendingSince key with
    | none => simp [hrun, hsince] at hbatch
    | some since =>
      simp only [hrun, hsince, Option.some.injEq] at hbatch
      subst hbatch
      exact ⟨key, hrun, fun record hmem => (mem_drainedRecords parseTime).1 hmem⟩

/-- **A drain loses no record** whose run has its owner and its clock. -/
theorem drain_keeps (hmem : record ∈ b.pending) (hrun : (b.runs record.key.run).isSome)
    (hsince : (b.pendingSince record.key.run).isSome) : record ∈ (b.drain parseTime target).1.pending ∨
    ∃ batch ∈ (b.drain parseTime target).2, record ∈ batch.records := by
  by_cases hsel : b.selects target record.key.run = true
  · obtain ⟨run, hrun⟩ := Option.isSome_iff_exists.1 hrun
    obtain ⟨since, hsince⟩ := Option.isSome_iff_exists.1 hsince
    refine .inr ⟨⟨run, b.drainedRecords parseTime record.key.run, since⟩, ?_, (mem_drainedRecords parseTime).2 ⟨hmem, rfl⟩⟩
    refine mem_filterMap.2 ⟨record.key.run, mem_drainedRuns.2 ⟨⟨record, hmem, rfl⟩, hsel⟩, ?_⟩
    simp [hrun, hsince]
  · exact .inl (mem_filter.2 ⟨hmem, by simpa using hsel⟩)

theorem drain_left (hmem : record ∈ (b.drain parseTime target).1.pending) :
    record ∈ b.pending ∧ (b.drain parseTime target).1.pendingSince record.key.run = b.pendingSince record.key.run := by
  obtain ⟨hpending, hsel⟩ := mem_filter.1 hmem
  refine ⟨hpending, if_neg fun hdrained => ?_⟩
  have := (mem_drainedRuns.1 hdrained.1).2
  simp [this] at hsel

end Drain

/-! ## Restoring -/

structure Restores (b b' : RuntimeUsageBuffer) (batches : List RuntimeUsageFlushBatch) : Prop where
  pending : ∀ record, record ∈ b'.pending ↔ record ∈ b.pending ∨ ∃ batch ∈ batches, record ∈ batch.records
  owners : ∀ key, b'.runs key = b.runs key ∨ ∃ batch ∈ batches, batch.run.key = key ∧ b'.runs key = some batch.run
  owned : ∀ batch ∈ batches, (b'.runs batch.run.key).isSome
  started : ∀ batch ∈ batches, (b'.pendingSince batch.run.key).isSome
  clocks : ∀ key, (b.pendingSince key).isSome → (b'.pendingSince key).isSome
  seen : b'.seenSourceIdentities = b.seenSourceIdentities

theorem Restores.isSome {b b' : RuntimeUsageBuffer} {batches : List RuntimeUsageFlushBatch} (h : Restores b b' batches)
    {key : UsageRunKey} (hkey : (b.runs key).isSome) : (b'.runs key).isSome := by
  obtain hsame | ⟨batch, -, -, hrun⟩ := h.owners key
  · rwa [hsame]
  rw [hrun]
  rfl

theorem restores_foldl : ∀ (batches : List RuntimeUsageFlushBatch) (b : RuntimeUsageBuffer),
    Restores b (batches.foldl restoreBatch b) batches
  | [], b => ⟨by simp, fun _ => .inl rfl, by simp, by simp, fun _ h => h, rfl⟩
  | batch :: batches, b => by
    have hrest := restores_foldl batches (b.restoreBatch batch)
    have howner : (b.restoreBatch batch).runs batch.run.key = some batch.run := Function.update_self ..
    have hclock : ((b.restoreBatch batch).pendingSince batch.run.key).isSome := by
      simp [restoreBatch]
    refine ⟨?_, ?_, ?_, ?_, fun key h => hrest.clocks key (isSome_update h), hrest.seen⟩
    · intro record
      rw [foldl_cons, hrest.pending record, restoreBatch, mem_append, or_assoc]
      simp
    · intro key
      obtain hsame | ⟨batch', hmem, hkey, hrun⟩ := hrest.owners key
      · by_cases hk : key = batch.run.key
        · rw [hk] at hsame ⊢
          exact .inr ⟨batch, mem_cons_self, rfl, hsame.trans howner⟩
        · exact .inl (hsame.trans (Function.update_of_ne hk _ _))
      · exact .inr ⟨batch', mem_cons_of_mem _ hmem, hkey, hrun⟩
    · intro batch' hmem
      obtain rfl | hmem := mem_cons.1 hmem
      · exact hrest.isSome (by rw [howner]; rfl)
      · exact hrest.owned batch' hmem
    · intro batch' hmem
      obtain rfl | hmem := mem_cons.1 hmem
      · exact hrest.clocks _ hclock
      · exact hrest.started batch' hmem

theorem restores_restore (b : RuntimeUsageBuffer) (batches : List RuntimeUsageFlushBatch) :
    Restores b (b.restore batches) batches := by
  have h := restores_foldl batches { b with pending := [] }
  refine ⟨fun record => ?_, h.owners, h.owned, h.started, h.clocks, h.seen⟩
  rw [restore, mem_append, h.pending record, or_comm]
  simp

/-! ## Letting go -/

theorem idle_eq_false {b : RuntimeUsageBuffer} {key : UsageRunKey} (target : RuntimeUsageFlushTarget)
    (h : (b.pendingSince key).isSome) : b.idle target key = false := by
  simp [idle, Option.isNone_eq_false_iff.2 h]

end Rovai.Usage
