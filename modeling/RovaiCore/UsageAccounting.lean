import RovaiCore.UsageFlush
import RovaiCore.UsageLedger
/-!
# Usage is counted once

The buffer and the tables together, with the batches that are on their way between them.
-/
namespace Rovai.Usage

open Tallies (columnSum addAll)
open List
open RuntimeUsageBuffer

structure UsageCollection where
  buffer : RuntimeUsageBuffer
  database : UsageDatabase
  drained : List (List RuntimeUsageFlushBatch)
  committed : List RuntimeUsageFlushBatch
  observed : List Observation
  accepted : List BufferedUsageRecord

inductive UsageAction where
  | enroll (createdAt : Option Int) (collectionStartedAt : Int) (run : RuntimeUsageRun)
  | registerRun (key : UsageRunKey)
  | observeRegisteredRun (key : UsageRunKey) (sourceIdentity : String) (observations : List ParsedRuntimeUsage) (now : Nat)
      (utcNow : Nat → String)
  | observeRun (key : UsageRunKey) (sourceIdentity : String) (observations : List ParsedRuntimeUsage) (now : Nat)
      (utcNow : Nat → String)
  | finishRun (key : UsageRunKey)
  | beginNativeTail (key : UsageRunKey)
  | endNativeTail (key : UsageRunKey)
  | drain (target : RuntimeUsageFlushTarget)
  /-- `record_usage_batches` for the batches of an earlier drain. -/
  | commit (drain : Nat) (now : String)
  /-- The same, failing for a reason of its own; `restore` follows. -/
  | fail (drain : Nat)
  | restore (drain : Nat)
  | replay (batches : List Nat) (now : String)
  | finishIdleTargetAfterFlush (target : RuntimeUsageFlushTarget)

namespace UsageAction

def isDelta : UsageAction → Bool
  | observeRegisteredRun _ _ observations _ _ | observeRun _ _ observations _ _ =>
    observations.all (fun usage => usage.counterMode = .delta)
  | _ => true

end UsageAction

namespace UsageCollection

def init : UsageCollection where
  buffer := .empty
  database := .empty
  drained := []
  committed := []
  observed := []
  accepted := []

variable (s : UsageCollection)

def noteObserved (run : RuntimeUsageRun) (sourceIdentity : String)
    (observations : List ParsedRuntimeUsage) (utcNow : Nat → String) (buffer : RuntimeUsageBuffer) : UsageCollection :=
  { s with
    buffer := buffer
    observed := s.observed ++ (reportsOf run sourceIdentity utcNow observations).map (⟨run, ·⟩)
    accepted := s.accepted ++ buffer.pending.drop s.buffer.pending.length }

section Step

variable (parseTime : String → Option Int)

def step (s : UsageCollection) : UsageAction → UsageCollection
  | .enroll createdAt collectionStartedAt run =>
    { s with database := (s.database.enrollRun createdAt collectionStartedAt run).1 }
  | .registerRun key =>
    match s.database.enrolledUsageRun key with
    | none => s
    | some run => { s with buffer := s.buffer.registerRun run }
  | .observeRegisteredRun key sourceIdentity observations now utcNow =>
    match s.buffer.runs key with
    | none => s
    | some run => s.noteObserved run sourceIdentity observations utcNow
        (s.buffer.observeRegisteredRun key sourceIdentity observations now utcNow).1
  | .observeRun key sourceIdentity observations now utcNow =>
    match s.database.enrolledUsageRun key with
    | none => s
    | some run => s.noteObserved run sourceIdentity observations utcNow
        (s.buffer.observeRun run sourceIdentity observations now utcNow).1
  | .finishRun key => { s with buffer := s.buffer.finishRun key }
  | .beginNativeTail key => { s with buffer := (s.buffer.beginNativeTail key).1 }
  | .endNativeTail key => { s with buffer := s.buffer.endNativeTail key }
  | .drain target =>
    { s with buffer := (s.buffer.drain parseTime target).1, drained := s.drained ++ [(s.buffer.drain parseTime target).2] }
  | .commit drain now =>
    match s.drained[drain]? with
    | none => s
    | some batches =>
      match recordUsageBatches parseTime now s.database batches with
      | none => s
      | some database =>
        { s with database := database, drained := s.drained.eraseIdx drain, committed := s.committed ++ batches }
  | .fail _ => s
  | .restore drain =>
    match s.drained[drain]? with
    | none => s
    | some batches => { s with buffer := s.buffer.restore batches, drained := s.drained.eraseIdx drain }
  | .replay batches now =>
    match recordUsageBatches parseTime now s.database (batches.filterMap (s.committed[·]?)) with
    | none => s
    | some database => { s with database := database }
  | .finishIdleTargetAfterFlush target => { s with buffer := s.buffer.finishIdleTargetAfterFlush target }

def run (actions : List UsageAction) : UsageCollection :=
  actions.foldl (step parseTime) init

end Step

/-! ## Where a record is -/

def batches : List RuntimeUsageFlushBatch :=
  s.drained.flatten ++ s.committed

def Held (record : BufferedUsageRecord) : Prop :=
  record ∈ s.buffer.pending ∨ ∃ batch ∈ s.batches, record ∈ batch.records

/-- **The invariant of every run**: owners are enrolled, what waits has its owner and its clock, what was taken is held, what is
held was taken from an observation of its run, and the tables count one observation of each call that has been committed. -/
structure Sound (s : UsageCollection) : Prop where
  owners : ∀ key run, s.buffer.runs key = some run → s.database.enrolledUsageRun key = some run
  waiting : ∀ record ∈ s.buffer.pending, (s.buffer.runs record.key.run).isSome ∧ (s.buffer.pendingSince record.key.run).isSome
  batched : ∀ batch ∈ s.batches, s.database.enrolledUsageRun batch.run.key = some batch.run ∧
    ∀ record ∈ batch.records, record.key.run = batch.run.key
  held : ∀ record, record ∈ s.accepted ↔ s.Held record
  observed : ∀ o ∈ s.observed, s.database.enrolledUsageRun o.run.key = some o.run ∧
    o.record.key = .new o.run.key o.record.usage ∧ o.record.usage.counterMode = .delta
  taken : ∀ record ∈ s.accepted, ∃ run, ⟨run, record⟩ ∈ s.observed
  seen : ∀ key identity, (key, identity) ∈ s.buffer.seenSourceIdentities →
    ∃ record ∈ s.accepted, record.key = key ∧ record.sourceIdentities = [identity]
  met : ∀ o ∈ s.observed, ∃ record ∈ s.accepted, record.key = o.record.key ∧
    record.sourceIdentities = o.record.sourceIdentities
  counted : ∃ counted, Accounts s.database counted ∧ (∀ o ∈ counted, o ∈ s.observed) ∧
    ∀ batch ∈ s.committed, ∀ o ∈ batch.observations, o.call ∈ counted.map Observation.call

variable {s : UsageCollection}

theorem sound_init : Sound init where
  owners := by simp [init, RuntimeUsageBuffer.empty]
  waiting := by simp [init, RuntimeUsageBuffer.empty]
  batched := by simp [init, batches]
  held := by simp [init, Held, batches, RuntimeUsageBuffer.empty]
  observed := by simp [init]
  taken := by simp [init]
  seen := by simp [init, RuntimeUsageBuffer.empty]
  met := by simp [init]
  counted := ⟨[], .empty, by simp, by simp [init]⟩

theorem Sound.observed_batch (h : Sound s) {batch : RuntimeUsageFlushBatch} (hbatch : batch ∈ s.batches) {o : Observation}
    (ho : o ∈ batch.observations) : o ∈ s.observed := by
  obtain ⟨record, hrecord, rfl⟩ := mem_map.1 ho
  obtain ⟨henrolled, hkeys⟩ := h.batched batch hbatch
  obtain ⟨run, hrun⟩ := h.taken record ((h.held record).2 (.inr ⟨batch, hbatch, hrecord⟩))
  obtain ⟨hrunning, hkey, -⟩ := h.observed _ hrun
  -- a run is enrolled once, so that the batch's owner is the run that observed the record
  have hsame : run.key = batch.run.key := by
    have := congrArg BufferedUsageKey.run hkey
    rw [BufferedUsageKey.new_run, hkeys record hrecord] at this
    exact this.symm
  rw [hsame, henrolled, Option.some.injEq] at hrunning
  rwa [hrunning]

/-! ## One step -/

theorem Sound.withBuffer (h : Sound s) {b : RuntimeUsageBuffer} (hpending : b.pending = s.buffer.pending)
    (howners : ∀ key run, b.runs key = some run → s.database.enrolledUsageRun key = some run)
    (hwaiting : ∀ record ∈ s.buffer.pending, (b.runs record.key.run).isSome ∧ (b.pendingSince record.key.run).isSome)
    (hseen : ∀ seen ∈ b.seenSourceIdentities, seen ∈ s.buffer.seenSourceIdentities) : Sound { s with buffer := b } := by
  refine { h with owners := howners, waiting := ?_, held := ?_, seen := ?_ }
  · intro record hmem
    exact hwaiting record (hpending ▸ hmem)
  · intro record
    rw [h.held record, Held, Held, hpending]
    rfl
  · intro key identity hmem
    exact h.seen key identity (hseen _ hmem)

variable {db : UsageDatabase}

theorem Sound.withDatabase (h : Sound s) (hkept : RunsKept s.database db)
    (hcounted : ∃ counted, Accounts db counted ∧ (∀ o ∈ counted, o ∈ s.observed) ∧
      ∀ batch ∈ s.committed, ∀ o ∈ batch.observations, o.call ∈ counted.map Observation.call) :
    Sound { s with database := db } where
  owners key run hrun := hkept key run (h.owners key run hrun)
  waiting := h.waiting
  batched batch hbatch := ⟨hkept _ _ (h.batched batch hbatch).1, (h.batched batch hbatch).2⟩
  held := h.held
  observed o ho := ⟨hkept _ _ (h.observed o ho).1, (h.observed o ho).2⟩
  taken := h.taken
  seen := h.seen
  met := h.met
  counted := hcounted

theorem Sound.enroll (h : Sound s) (createdAt : Option Int) (startedAt : Int) (run : RuntimeUsageRun) :
    Sound { s with database := (s.database.enrollRun createdAt startedAt run).1 } := by
  refine h.withDatabase (enrollRun_kept s.database createdAt startedAt run) ?_
  obtain ⟨counted, haccounts, hsub, hcommitted⟩ := h.counted
  refine ⟨counted, haccounts.enroll (fun o ho => ?_) createdAt startedAt run, hsub, hcommitted⟩
  exact find?_of_enrolled (h.observed o (hsub o ho)).1

theorem Sound.registerRun (h : Sound s) {key : UsageRunKey} {run : RuntimeUsageRun}
    (hrun : s.database.enrolledUsageRun key = some run) : Sound { s with buffer := s.buffer.registerRun run } := by
  have hkey := enrolledUsageRun_key hrun
  refine h.withBuffer rfl ?_ ?_ (fun _ hmem => hmem)
  · intro key' run' hrun'
    by_cases hk : key' = run.key
    · simp only [RuntimeUsageBuffer.registerRun, hk, Function.update_self, Option.some.injEq] at hrun'
      rw [hk, hkey, hrun, hrun']
    · simp only [RuntimeUsageBuffer.registerRun, Function.update_of_ne hk] at hrun'
      exact h.owners key' run' hrun'
  · intro record hmem
    refine ⟨?_, (h.waiting record hmem).2⟩
    by_cases hk : record.key.run = run.key
    · simp [RuntimeUsageBuffer.registerRun, hk]
    simp only [RuntimeUsageBuffer.registerRun, Function.update_of_ne hk]
    exact (h.waiting record hmem).1

/-- **An observation**: every report waits or is of a call that has been taken before. -/
theorem Sound.noteObserved (h : Sound s) {run : RuntimeUsageRun} {sourceIdentity : String}
    {observations : List ParsedRuntimeUsage} {utcNow : Nat → String} {b : RuntimeUsageBuffer} {held : List BufferedUsageRecord}
    (hrun : s.database.enrolledUsageRun run.key = some run) (howner : (s.buffer.runs run.key).isSome)
    (hdelta : ∀ usage ∈ observations, usage.counterMode = .delta)
    (hobserves : Observes s.buffer b sourceIdentity (reportsOf run sourceIdentity utcNow observations) held) :
    Sound (s.noteObserved run sourceIdentity observations utcNow b) := by
  have haccepted : b.pending.drop s.buffer.pending.length = held := by
    rw [hobserves.pending, drop_left]
  have hreports : ∀ record ∈ reportsOf run sourceIdentity utcNow observations,
      record.key = .new run.key record.usage ∧ record.sourceIdentities = [sourceIdentity] ∧ record.usage.counterMode = .delta := by
    intro record hmem
    obtain ⟨hkey, hids, usage, husage, hmode⟩ := of_mem_reportsOf hmem
    exact ⟨hkey, hids, hmode.trans (hdelta usage husage)⟩
  have hseen : ∀ key identity, (key, identity) ∈ b.seenSourceIdentities →
      ∃ record ∈ s.accepted ++ held, record.key = key ∧ record.sourceIdentities = [identity] := by
    intro key identity hmem
    obtain hold | ⟨record, hheld, heq⟩ := hobserves.learnt _ hmem
    · obtain ⟨record, hrecord, hrest⟩ := h.seen key identity hold
      exact ⟨record, mem_append_left _ hrecord, hrest⟩
    · cases heq
      exact ⟨record, mem_append_right _ hheld, rfl, (hreports record (hobserves.reported record hheld)).2.1⟩
  have hnote : s.noteObserved run sourceIdentity observations utcNow b =
      { s with
        buffer := b
        observed := s.observed ++ (reportsOf run sourceIdentity utcNow observations).map (⟨run, ·⟩)
        accepted := s.accepted ++ held } := by
    rw [UsageCollection.noteObserved, haccepted]
  rw [hnote]
  refine { owners := ?_, waiting := ?_, batched := h.batched, held := ?_, observed := ?_, taken := ?_, seen := hseen,
           met := ?_, counted := ?_ }
  · intro key run' hrun'
    exact h.owners key run' (hobserves.runs ▸ hrun')
  · intro record hmem
    rw [hobserves.pending] at hmem
    rw [hobserves.runs]
    obtain hold | hheld := List.mem_append.1 hmem
    · exact ⟨(h.waiting record hold).1, hobserves.clocks _ (h.waiting record hold).2⟩
    refine ⟨?_, hobserves.started record hheld⟩
    rw [(hreports record (hobserves.reported record hheld)).1]
    exact howner
  · intro record
    rw [List.mem_append, h.held record, Held, Held, hobserves.pending, List.mem_append, or_right_comm]
    rfl
  · intro o ho
    obtain hold | hnew := List.mem_append.1 ho
    · exact h.observed o hold
    obtain ⟨record, hmem, rfl⟩ := mem_map.1 hnew
    exact ⟨hrun, (hreports record hmem).1, (hreports record hmem).2.2⟩
  · intro record hmem
    obtain hold | hheld := List.mem_append.1 hmem
    · obtain ⟨run', hrun'⟩ := h.taken record hold
      exact ⟨run', mem_append_left _ hrun'⟩
    · exact ⟨run, mem_append_right _ (mem_map.2 ⟨record, hobserves.reported record hheld, rfl⟩)⟩
  · intro o ho
    obtain hold | hnew := List.mem_append.1 ho
    · obtain ⟨record, hmem, hrest⟩ := h.met o hold
      exact ⟨record, mem_append_left _ hmem, hrest⟩
    · obtain ⟨record, hmem, rfl⟩ := mem_map.1 hnew
      obtain ⟨taken, htaken, hkey, hids⟩ := hseen _ _ (hobserves.seen record hmem)
      exact ⟨taken, htaken, hkey, hids.trans (hreports record hmem).2.1.symm⟩
  · obtain ⟨counted, haccounts, hsub, hcommitted⟩ := h.counted
    exact ⟨counted, haccounts, fun o ho => mem_append_left _ (hsub o ho), hcommitted⟩

theorem Sound.drain (h : Sound s) (parseTime : String → Option Int) (target : RuntimeUsageFlushTarget) :
    Sound { s with buffer := (s.buffer.drain parseTime target).1,
                   drained := s.drained ++ [(s.buffer.drain parseTime target).2] } := by
  have hbatches : ∀ batch ∈ (s.drained ++ [(s.buffer.drain parseTime target).2]).flatten ++ s.committed,
      batch ∈ s.batches ∨ batch ∈ (s.buffer.drain parseTime target).2 := by
    intro batch hmem
    simp only [flatten_append, List.flatten_cons, flatten_nil, append_nil, List.mem_append] at hmem
    simp only [batches, List.mem_append]
    tauto
  have hmore : ∀ batch, batch ∈ s.batches ∨ batch ∈ (s.buffer.drain parseTime target).2 →
      batch ∈ (s.drained ++ [(s.buffer.drain parseTime target).2]).flatten ++ s.committed := by
    intro batch hmem
    simp only [batches, List.mem_append] at hmem
    simp only [flatten_append, List.flatten_cons, flatten_nil, append_nil, List.mem_append]
    tauto
  refine { h with waiting := ?_, batched := ?_, held := ?_ }
  · intro record hmem
    obtain ⟨hpending, hsince⟩ := drain_left parseTime s.buffer target hmem
    exact ⟨(h.waiting record hpending).1, by rw [hsince]; exact (h.waiting record hpending).2⟩
  · intro batch hmem
    obtain hold | hnew := hbatches batch hmem
    · exact h.batched batch hold
    obtain ⟨key, howner, hrecords⟩ := drain_takes parseTime s.buffer target hnew
    have hrun := h.owners key batch.run howner
    have hkey := enrolledUsageRun_key hrun
    exact ⟨hkey ▸ hrun, fun record hr => (hrecords record hr).2.trans hkey.symm⟩
  · intro record
    rw [h.held record]
    constructor
    · rintro (hpending | ⟨batch, hbatch, hmem⟩)
      · obtain ⟨hrun, hsince⟩ := h.waiting record hpending
        obtain hleft | ⟨batch, hbatch, hmem⟩ := drain_keeps parseTime s.buffer target hpending hrun hsince
        · exact .inl hleft
        · exact .inr ⟨batch, hmore batch (.inr hbatch), hmem⟩
      · exact .inr ⟨batch, hmore batch (.inl hbatch), hmem⟩
    · rintro (hpending | ⟨batch, hbatch, hmem⟩)
      · exact .inl (drain_left parseTime s.buffer target hpending).1
      obtain hold | hnew := hbatches batch hbatch
      · exact .inr ⟨batch, hold, hmem⟩
      obtain ⟨key, -, hrecords⟩ := drain_takes parseTime s.buffer target hnew
      exact .inl (hrecords record hmem).1

variable {i : Nat}

theorem mem_flatten_eraseIdx {α : Type} {l : List (List α)} {xs : List α} (h : l[i]? = some xs) {x : α} :
    x ∈ l.flatten ↔ x ∈ xs ∨ x ∈ (l.eraseIdx i).flatten := by
  obtain ⟨hi, rfl⟩ := List.getElem?_eq_some_iff.1 h
  have hperm := (List.getElem_cons_eraseIdx_perm hi).flatten
  rw [← hperm.mem_iff, List.flatten_cons, List.mem_append]

theorem Sound.restore (h : Sound s) {back : List RuntimeUsageFlushBatch} (hi : s.drained[i]? = some back) :
    Sound { s with buffer := s.buffer.restore back, drained := s.drained.eraseIdx i } := by
  have hrestores := restores_restore s.buffer back
  have hbatches : ∀ batch, batch ∈ s.batches ↔ batch ∈ back ∨ batch ∈ (s.drained.eraseIdx i).flatten ++ s.committed := by
    intro batch
    rw [batches, List.mem_append, mem_flatten_eraseIdx hi, or_assoc, List.mem_append]
  refine { h with owners := ?_, waiting := ?_, batched := ?_, held := ?_, seen := ?_ }
  · intro key run hrun
    obtain hsame | ⟨batch, hmem, hkey, howner⟩ := hrestores.owners key
    · exact h.owners key run (hsame ▸ hrun)
    rw [howner] at hrun
    cases hrun
    rw [← hkey]
    exact (h.batched batch ((hbatches batch).2 (.inl hmem))).1
  · intro record hmem
    obtain hold | ⟨batch, hbatch, hrecord⟩ := (hrestores.pending record).1 hmem
    · exact ⟨hrestores.isSome (h.waiting record hold).1, hrestores.clocks _ (h.waiting record hold).2⟩
    rw [(h.batched batch ((hbatches batch).2 (.inl hbatch))).2 record hrecord]
    exact ⟨hrestores.owned batch hbatch, hrestores.started batch hbatch⟩
  · intro batch hmem
    exact h.batched batch ((hbatches batch).2 (.inr hmem))
  · intro record
    rw [h.held record, Held, Held, hrestores.pending record, or_assoc]
    refine or_congr_right ?_
    constructor
    · rintro ⟨batch, hbatch, hmem⟩
      exact ((hbatches batch).1 hbatch).imp (fun hb => ⟨batch, hb, hmem⟩) (fun hb => ⟨batch, hb, hmem⟩)
    · rintro (⟨batch, hbatch, hmem⟩ | ⟨batch, hbatch, hmem⟩)
      · exact ⟨batch, (hbatches batch).2 (.inl hbatch), hmem⟩
      · exact ⟨batch, (hbatches batch).2 (.inr hbatch), hmem⟩
  · intro key identity hmem
    exact h.seen key identity (hrestores.seen ▸ hmem)

/-- **A transaction over batches that a drain has handed out** counts one observation of each of their calls. -/
theorem Sound.record (h : Sound s) {parseTime : String → Option Int} {now : String}
    {recorded : List RuntimeUsageFlushBatch} (hsub : ∀ batch ∈ recorded, batch ∈ s.batches)
    (hp : recordUsageBatches parseTime now s.database recorded = some db) : RunsKept s.database db ∧
    ∃ counted, Accounts db counted ∧ (∀ o ∈ counted, o ∈ s.observed) ∧
      ∀ batch, batch ∈ s.committed ∨ batch ∈ recorded → ∀ o ∈ batch.observations, o.call ∈ counted.map Observation.call := by
  obtain ⟨counted, haccounts, hobserved, hcommitted⟩ := h.counted
  have hdelta : ∀ batch ∈ recorded, ∀ record ∈ batch.records, record.usage.counterMode = .delta := by
    intro batch hbatch record hrecord
    exact (h.observed ⟨batch.run, record⟩ (h.observed_batch (hsub batch hbatch) (mem_map_of_mem hrecord))).2.2
  obtain ⟨haccounts', hkept⟩ := haccounts.recordBatches hdelta (fun batch hbatch => (h.batched batch (hsub batch hbatch)).1) hp
  refine ⟨hkept, _, haccounts', ?_, ?_⟩
  · intro o ho
    obtain hold | hnew := Tallies.mem_of_mem_addAll _ ho
    · exact hobserved o hold
    obtain ⟨batch, hbatch, hmem⟩ := mem_flatMap.1 hnew
    exact h.observed_batch (hsub batch hbatch) hmem
  · intro batch hbatch o ho
    rw [Tallies.key_mem_addAll]
    obtain hold | hnew := hbatch
    · exact .inl (hcommitted batch hold o ho)
    · exact .inr (mem_map_of_mem (mem_flatMap.2 ⟨batch, hnew, ho⟩))

theorem Sound.commit (h : Sound s) {parseTime : String → Option Int} {now : String}
    {recorded : List RuntimeUsageFlushBatch} (hi : s.drained[i]? = some recorded)
    (hp : recordUsageBatches parseTime now s.database recorded = some db) :
    Sound { s with database := db, drained := s.drained.eraseIdx i, committed := s.committed ++ recorded } := by
  have hbatches : ∀ batch, batch ∈ (s.drained.eraseIdx i).flatten ++ (s.committed ++ recorded) ↔ batch ∈ s.batches := by
    intro batch
    rw [batches, List.mem_append, List.mem_append, List.mem_append, mem_flatten_eraseIdx hi]
    tauto
  have hsub : ∀ batch ∈ recorded, batch ∈ s.batches := fun batch hmem =>
    (hbatches batch).1 (mem_append_right _ (mem_append_right _ hmem))
  obtain ⟨hkept, counted, haccounts, hobserved, hcommitted⟩ := h.record hsub hp
  have hdatabase : Sound { s with database := db } :=
    h.withDatabase hkept ⟨counted, haccounts, hobserved, fun batch hmem => hcommitted batch (.inl hmem)⟩
  refine { hdatabase with batched := ?_, held := ?_, counted := ?_ }
  · intro batch hmem
    exact hdatabase.batched batch ((hbatches batch).1 hmem)
  · intro record
    rw [h.held record, Held, Held]
    refine or_congr_right ⟨?_, ?_⟩
    · rintro ⟨batch, hbatch, hmem⟩
      exact ⟨batch, (hbatches batch).2 hbatch, hmem⟩
    · rintro ⟨batch, hbatch, hmem⟩
      exact ⟨batch, (hbatches batch).1 hbatch, hmem⟩
  · exact ⟨counted, haccounts, hobserved, fun batch hmem => hcommitted batch (List.mem_append.1 hmem)⟩

theorem Sound.finishIdle (h : Sound s) (target : RuntimeUsageFlushTarget) :
    Sound { s with buffer := s.buffer.finishIdleTargetAfterFlush target } := by
  refine h.withBuffer rfl ?_ ?_ ?_
  · intro key run hrun
    by_cases hidle : s.buffer.idle target key = true
    · simp [finishIdleTargetAfterFlush, hidle] at hrun
    simp only [finishIdleTargetAfterFlush, if_neg hidle] at hrun
    exact h.owners key run hrun
  · intro record hmem
    obtain ⟨hrun, hsince⟩ := h.waiting record hmem
    refine ⟨?_, hsince⟩
    simp only [finishIdleTargetAfterFlush, idle_eq_false target hsince, Bool.false_eq_true, if_false]
    exact hrun
  · intro seen hmem
    exact (mem_filter.1 hmem).1

section Run

variable (parseTime : String → Option Int)

theorem Sound.observeRun (h : Sound s) {key : UsageRunKey} {run : RuntimeUsageRun}
    (hrun : s.database.enrolledUsageRun key = some run) (sourceIdentity : String) {observations : List ParsedRuntimeUsage}
    (now : Nat) (utcNow : Nat → String) (hdelta : observations.all (fun usage => usage.counterMode = .delta) = true) :
    Sound (s.noteObserved run sourceIdentity observations utcNow
      (s.buffer.observeRun run sourceIdentity observations now utcNow).1) := by
  have hmode : ∀ usage ∈ observations, usage.counterMode = .delta := by simpa using hdelta
  obtain ⟨held, hobserves⟩ := observes_observeAll run sourceIdentity now utcNow observations (s.buffer.registerRun run) hmode
  have hregistered := h.registerRun hrun
  refine hregistered.noteObserved ?_ ?_ hmode hobserves
  · rw [enrolledUsageRun_key hrun]
    exact hrun
  · simp [RuntimeUsageBuffer.registerRun]

theorem sound_step (a : UsageAction) (hdelta : a.isDelta = true) (h : Sound s) : Sound (step parseTime s a) := by
  cases a with
  | enroll createdAt startedAt run => exact h.enroll createdAt startedAt run
  | registerRun key =>
    cases hrun : s.database.enrolledUsageRun key with
    | none => simpa [step, hrun] using h
    | some run => simpa [step, hrun] using h.registerRun hrun
  | observeRegisteredRun key sourceIdentity observations now utcNow =>
    cases hrun : s.buffer.runs key with
    | none => simpa [step, hrun] using h
    | some run =>
      have henrolled := h.owners key run hrun
      simpa [step, RuntimeUsageBuffer.observeRegisteredRun, hrun] using
        h.observeRun henrolled sourceIdentity now utcNow hdelta
  | observeRun key sourceIdentity observations now utcNow =>
    cases hrun : s.database.enrolledUsageRun key with
    | none => simpa [step, hrun] using h
    | some run => simpa [step, hrun] using h.observeRun hrun sourceIdentity now utcNow hdelta
  | finishRun key =>
    by_cases hrun : (s.buffer.runs key).isSome
    · simp only [step, RuntimeUsageBuffer.finishRun, if_pos hrun]
      exact h.withBuffer rfl h.owners h.waiting fun _ hmem => hmem
    · simpa [step, RuntimeUsageBuffer.finishRun, if_neg hrun] using h
  | beginNativeTail key =>
    by_cases hrun : (s.buffer.runs key).isSome
    · simp only [step, RuntimeUsageBuffer.beginNativeTail, if_pos hrun]
      exact h.withBuffer rfl h.owners h.waiting fun _ hmem => hmem
    · simpa [step, RuntimeUsageBuffer.beginNativeTail, if_neg hrun] using h
  | endNativeTail key => exact h.withBuffer rfl h.owners h.waiting fun _ hmem => hmem
  | drain target => exact h.drain parseTime target
  | commit i now =>
    cases hi : s.drained[i]? with
    | none => simpa [step, hi] using h
    | some batches =>
      cases hp : recordUsageBatches parseTime now s.database batches with
      | none => simpa [step, hi, hp] using h
      | some db => simpa [step, hi, hp] using h.commit hi hp
  | fail i => exact h
  | restore i =>
    cases hi : s.drained[i]? with
    | none => simpa [step, hi] using h
    | some batches => simpa [step, hi] using h.restore hi
  | replay indices now =>
    cases hp : recordUsageBatches parseTime now s.database (indices.filterMap (s.committed[·]?)) with
    | none => simpa [step, hp] using h
    | some db =>
      have hsub : ∀ batch ∈ indices.filterMap (s.committed[·]?), batch ∈ s.batches := by
        intro batch hmem
        obtain ⟨i, -, hi⟩ := mem_filterMap.1 hmem
        exact mem_append_right _ (mem_of_getElem? hi)
      obtain ⟨hkept, counted, haccounts, hobserved, hcommitted⟩ := h.record hsub hp
      simpa [step, hp] using
        h.withDatabase hkept ⟨counted, haccounts, hobserved, fun batch hmem => hcommitted batch (.inl hmem)⟩
  | finishIdleTargetAfterFlush target => exact h.finishIdle target

theorem sound_run {actions : List UsageAction} (hdelta : ∀ a ∈ actions, a.isDelta = true) : Sound (run parseTime actions) :=
  Runs.run_invariant_of_allSteps (step parseTime) (fun _ a ha h => sound_step parseTime a ha h) actions init
    (Runs.allSteps_of_forall (step parseTime) init fun a ha _ => hdelta a ha) sound_init

/-! ## The account -/

def Flushed (s : UsageCollection) : Prop :=
  s.buffer.pending = [] ∧ ∀ batches ∈ s.drained, ∀ batch ∈ batches, batch.records = []

def CountsOnce {κ : Type} (call : Observation → κ) (s : UsageCollection) : Prop :=
  ∃ counted : List Observation, (counted.map call).Nodup ∧ (∀ o ∈ counted, o ∈ s.observed) ∧
    (∀ o ∈ s.observed, call o ∈ counted.map call) ∧
    ∀ id row, s.database.summaries.find? id = some row → ∀ c,
      row.counters c = observedTotal c (counted.filter (fun o => o.agentRunId = id))

def sourceCall (o : Observation) : String × SourceKey × List String :=
  (o.run.key.agentRunId, sourceKey o.run o.record.usage, o.record.sourceIdentities)

theorem Sound.countsOnce (h : Sound s) (hflushed : Flushed s) : CountsOnce Observation.call s := by
  obtain ⟨counted, haccounts, hobserved, hcommitted⟩ := h.counted
  refine ⟨counted, haccounts.once, hobserved, fun o ho => ?_, haccounts.summaries⟩
  obtain ⟨record, htaken, hkey, hids⟩ := h.met o ho
  obtain ⟨run, hrun⟩ := h.taken record htaken
  obtain hpending | ⟨batch, hbatch, hmem⟩ := (h.held record).1 htaken
  · rw [hflushed.1] at hpending
    cases hpending
  obtain ⟨hsettled, -⟩ | hsettled : (batch.records = [] ∧ True) ∨ batch ∈ s.committed := by
    obtain hdrained | hsettled := List.mem_append.1 hbatch
    · obtain ⟨batches, hbatches, hin⟩ := mem_flatten.1 hdrained
      exact .inl ⟨hflushed.2 batches hbatches batch hin, trivial⟩
    · exact .inr hsettled
  · rw [hsettled] at hmem
    cases hmem
  -- the record that was committed for the call of `o` is of its run and of its source
  have hcall : Observation.call ⟨batch.run, record⟩ = o.call := by
    obtain ⟨henrolled, hokey, -⟩ := h.observed o ho
    obtain ⟨-, hrkey, -⟩ := h.observed _ (h.observed_batch hbatch (mem_map_of_mem hmem))
    have hsame : batch.run.key = o.run.key := by
      have := congrArg BufferedUsageKey.run (hrkey.symm.trans (hkey.trans hokey))
      exact this
    have hrun : batch.run = o.run := by
      have hbatched := (h.batched batch hbatch).1
      rw [hsame, henrolled, Option.some.injEq] at hbatched
      exact hbatched.symm
    have hnew : BufferedUsageKey.new batch.run.key record.usage = .new o.run.key o.record.usage :=
      hrkey.symm.trans (hkey.trans hokey)
    simp only [BufferedUsageKey.new, BufferedUsageKey.mk.injEq] at hnew
    simp [Observation.call, sourceKey, hrun, hids, hnew]
  rw [← hcall]
  exact hcommitted batch hsettled _ (mem_map_of_mem hmem)

/-- **Token usage is counted exactly once** in every run of the collection, where every report is in delta mode: what the buffer
took waits, stands in a drained batch or is committed; when all is flushed a summary's counter is the sum over the calls of its
run's executions, one observation of each; and the hours of the collection epoch sum up to its summaries. -/
theorem usage_counted_once (actions : List UsageAction) (hdelta : ∀ a ∈ actions, a.isDelta = true) :
    (∀ record ∈ (run parseTime actions).accepted, record ∈ (run parseTime actions).buffer.pending ∨
      (∃ batches ∈ (run parseTime actions).drained, ∃ batch ∈ batches, record ∈ batch.records) ∨
      ∃ batch ∈ (run parseTime actions).committed, record ∈ batch.records) ∧
    (Flushed (run parseTime actions) → CountsOnce Observation.call (run parseTime actions)) ∧
    ∀ c, columnSum (fun row => row.counters c) (run parseTime actions).database.hourly =
      columnSum (fun row => row.counters c) (run parseTime actions).database.summaries := by
  have h := sound_run parseTime hdelta
  refine ⟨fun record htaken => ?_, h.countsOnce, ?_⟩
  · obtain hpending | ⟨batch, hbatch, hmem⟩ := (h.held record).1 htaken
    · exact .inl hpending
    obtain hdrained | hsettled := List.mem_append.1 hbatch
    · obtain ⟨batches, hbatches, hin⟩ := mem_flatten.1 hdrained
      exact .inr (.inl ⟨batches, hbatches, batch, hin, hmem⟩)
    · exact .inr (.inr ⟨batch, hsettled, hmem⟩)
  · obtain ⟨counted, haccounts, -⟩ := h.counted
    exact haccounts.totals

end Run

def executedTwice : List UsageAction :=
  let report : ParsedRuntimeUsage :=
    { identitySuffix := "model_call", dialectId := "opencode-acp-usage-v1", source := "runtime_event", scope := "model_call",
      counterMode := .delta, inputSemantics := .exclusiveBuckets, fields := { outputTokens := some 7 },
      occurredAt := some "2026-01-01T00:30:00Z" }
  let execution (epoch : Nat) : List UsageAction :=
    [.registerRun ⟨"run-1", epoch⟩, .observeRegisteredRun ⟨"run-1", epoch⟩ "call-1" [report, report] 0 (fun _ => "now"),
      .drain .all, .fail 0, .restore 0, .drain .periodic, .commit 0 "now", .finishIdleTargetAfterFlush .all]
  .enroll (some 0) 0 { key := ⟨"run-1", 1⟩, runtimeKind := .opencodeCli, providerKey := none, modelKey := none } ::
    (execution 1 ++ execution 2 ++ [.replay [0, 1] "now"])

def readTime (at_ : String) : Option Int :=
  if at_ = "2026-01-01T00:30:00Z" then some 1767227400000000000 else none

theorem usage_counted_once_executedTwice :
    Flushed (run readTime executedTwice) ∧ CountsOnce Observation.call (run readTime executedTwice) ∧
    ((run readTime executedTwice).database.summaries.find? "run-1").map (fun row => row.counters .outputTokens) =
      some (some (Tallies.SqlNumber.ofNat 14)) := by
  have hflushed : Flushed (run readTime executedTwice) :=
    ⟨eq_nil_of_length_eq_zero (by decide), by decide⟩
  exact ⟨hflushed, (usage_counted_once readTime executedTwice (by decide)).2.1 hflushed, by decide⟩

theorem CountsOnce.single {κ : Type} {call : Observation → κ} {k : κ} {s : UsageCollection} (h : CountsOnce call s)
    (hne : s.observed ≠ []) (hcall : ∀ o ∈ s.observed, call o = k) : ∃ o ∈ s.observed,
    ∀ id row, s.database.summaries.find? id = some row → ∀ c,
      row.counters c = observedTotal c ([o].filter (fun o => o.agentRunId = id)) := by
  obtain ⟨counted, hnodup, hsub, hcovers, hrows⟩ := h
  match counted, hnodup, hsub, hcovers, hrows with
  | [], _, _, hcovers, _ =>
    obtain ⟨o, ho⟩ := exists_mem_of_ne_nil _ hne
    exact absurd (hcovers o ho) (by simp)
  | [o], _, hsub, _, hrows => exact ⟨o, hsub o (by simp), hrows⟩
  | o :: o' :: rest, hnodup, hsub, _, _ =>
    have hsame : call o = call o' := (hcall o (hsub o (by simp))).trans (hcall o' (hsub o' (by simp))).symm
    simp [hsame] at hnodup

/-- **An execution of a run counts its own calls**: the two executions count the one call twice, where the source and the source
identity alone would count it once. -/
theorem usage_counted_by_execution :
    (∀ a ∈ executedTwice, a.isDelta = true) ∧ Flushed (run readTime executedTwice) ∧
    ¬ CountsOnce sourceCall (run readTime executedTwice) := by
  refine ⟨by decide, ⟨eq_nil_of_length_eq_zero (by decide), by decide⟩, fun h => ?_⟩
  have hne : (run readTime executedTwice).observed ≠ [] := fun hnil =>
    absurd (congrArg List.length hnil) (by decide)
  have hcall : ∀ o ∈ (run readTime executedTwice).observed, sourceCall o = ("run-1",
      ⟨.opencodeCli, "opencode-acp-usage-v1", "model_call", "model_call", "runtime_event", none, none⟩, ["call-1"]) := by
    decide
  obtain ⟨o, ho, hrows⟩ := h.single hne hcall
  have hseven : ∀ o ∈ (run readTime executedTwice).observed,
      observedTotal .outputTokens ([o].filter (fun o => o.agentRunId = "run-1")) = some (Tallies.SqlNumber.ofNat 7) := by
    decide
  have hfourteen : ((run readTime executedTwice).database.summaries.find? "run-1").map (fun row => row.counters .outputTokens) =
      some (some (Tallies.SqlNumber.ofNat 14)) := by
    decide
  obtain ⟨row, hrow, hcounter⟩ := Option.map_eq_some_iff.1 hfourteen
  have hne' : some (Tallies.SqlNumber.ofNat 14) ≠ some (Tallies.SqlNumber.ofNat 7) := by decide
  exact hne' (hcounter.symm.trans ((hrows "run-1" row hrow _).trans (hseven o ho)))

end UsageCollection
end Rovai.Usage
