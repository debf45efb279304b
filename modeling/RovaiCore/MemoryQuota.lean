import RovaiCore.MemoryStore
import RovaiCore.Runs
/-!
# The quota of an AgentRun's memory mutations (`memory.rs`)

The quota counts the rows that name the Run, and a memory that is forgotten names nobody any more.
-/
namespace Rovai.MemoryQuota

open Tables (Table)
open List

/-! ## Rows -/

/-- The columns of `memory`, `memory_revision` and `hearth_review_item` that the quota and `forget` read. -/
structure MemoryVersion where
  id : String
  lifecycleStatus : Memory.Lifecycle
  version : Int

structure RevisionSource where
  (id memoryId : String)
  sourceAgentRunId : Option String

structure ReviewItemSource where
  (id sourceAgentRunId : String)

structure Store where
  memories : Table MemoryVersion.id
  revisions : List RevisionSource
  reviewItems : List ReviewItemSource

def Store.empty : Store := ⟨.empty, [], []⟩

def memoryAgentMutationsPerRun : Nat := 4

def Store.revisionCount (s : Store) (runId : String) : Nat := s.revisions.countP (·.sourceAgentRunId = some runId)

def Store.reviewCount (s : Store) (runId : String) : Nat := s.reviewItems.countP (·.sourceAgentRunId = runId)

/-- `enforce_agent_mutation_quota`. -/
def Store.quotaExceeded (s : Store) (runId : String) : Bool :=
  decide (memoryAgentMutationsPerRun ≤ s.revisionCount runId + s.reviewCount runId)

def Store.insertRevision (s : Store) (id memoryId : String) (source : Option String) : Store :=
  { s with revisions := s.revisions ++ [⟨id, memoryId, source⟩] }

def Store.insertMemory (s : Store) (memoryId revisionId : String) (source : Option String) : Store :=
  let t := s.insertRevision revisionId memoryId source
  { t with memories := t.memories.insert ⟨memoryId, .active, 1⟩ }

def Store.setLifecycle (s : Store) (memoryId : String) (lifecycle : Memory.Lifecycle) : Store :=
  { s with memories := s.memories.update memoryId (fun m => { m with lifecycleStatus := lifecycle, version := m.version + 1 }) }

def Store.raiseVersion (s : Store) (memoryId : String) : Store :=
  { s with memories := s.memories.update memoryId (fun m => { m with version := m.version + 1 }) }

/-! ## Commands -/

/-- What `memory.write` does where the quota and the other checks let it. -/
inductive Written
  | created (memoryId revisionId : String)
  | revised (memoryId revisionId : String)
  | saved (reviewItemId : String)

inductive Successor
  | existing (memoryId : String)
  | create (memoryId revisionId : String)

/-- `admitted`: the checks of the command that do not read these columns let it. -/
inductive Command
  | write (runId : String) (admitted : Bool) (written : Written)
  | create (admitted : Bool) (memoryId revisionId : String)
  | revise (admitted : Bool) (memoryId revisionId : String)
  | retire (admitted : Bool) (memoryId : String)
  | reactivate (admitted : Bool) (memoryId : String)
  | scheduleReview (admitted : Bool) (memoryId : String)
  | forget (memoryId : String) (expectedVersion : Int)
  | acceptAdd (admitted : Bool) (memoryId revisionId : String)
  | acceptRevise (admitted : Bool) (memoryId revisionId : String)
  | rejectReviewItem (admitted : Bool)
  | supersede (admitted : Bool) (predecessors : List String) (successor : Successor)

inductive CommandStatus
  | applied
  | accepted
  | rejected
  deriving DecidableEq

def Store.write (s : Store) (runId : String) : Written → Store × CommandStatus
  | .created memoryId revisionId => (s.insertMemory memoryId revisionId (some runId), .applied)
  | .revised memoryId revisionId => ((s.insertRevision revisionId memoryId (some runId)).raiseVersion memoryId, .applied)
  | .saved reviewItemId => ({ s with reviewItems := s.reviewItems ++ [⟨reviewItemId, runId⟩] }, .accepted)

/-- The revisions of the memory lose their source; the review items keep theirs. -/
def Store.forget (s : Store) (memoryId : String) (expectedVersion : Int) : Store × CommandStatus :=
  match s.memories.find? memoryId with
  | none => (s, .rejected)
  | some record =>
    if record.version ≠ expectedVersion then (s, .rejected)
    else if record.lifecycleStatus = .forgotten then (s, .rejected)
    else
      let t := s.setLifecycle memoryId .forgotten
      ({ t with revisions := t.revisions.map (fun r => if r.memoryId = memoryId then { r with sourceAgentRunId := none } else r) },
        .applied)

def Store.perform (s : Store) : Command → Store × CommandStatus
  | .write runId admitted written =>
    if s.quotaExceeded runId || !admitted then (s, .rejected) else s.write runId written
  | .create admitted memoryId revisionId | .acceptAdd admitted memoryId revisionId =>
    if admitted then (s.insertMemory memoryId revisionId none, .applied) else (s, .rejected)
  | .revise admitted memoryId revisionId | .acceptRevise admitted memoryId revisionId =>
    if admitted then ((s.insertRevision revisionId memoryId none).raiseVersion memoryId, .applied) else (s, .rejected)
  | .retire admitted memoryId => if admitted then (s.setLifecycle memoryId .retired, .applied) else (s, .rejected)
  | .reactivate admitted memoryId => if admitted then (s.setLifecycle memoryId .active, .applied) else (s, .rejected)
  | .scheduleReview admitted memoryId => if admitted then (s.raiseVersion memoryId, .applied) else (s, .rejected)
  | .forget memoryId expectedVersion => s.forget memoryId expectedVersion
  | .rejectReviewItem admitted => (s, if admitted then .applied else .rejected)
  | .supersede admitted predecessors successor =>
    if admitted then
      let t := match successor with
        | .existing _ => s
        | .create memoryId revisionId => s.insertMemory memoryId revisionId none
      (predecessors.foldl (fun t memoryId => t.setLifecycle memoryId .retired) t, .applied)
    else (s, .rejected)

/-- The tables, and the Runs of the writes that were applied or accepted. -/
structure System where
  store : Store
  persisted : List String

def System.empty : System := ⟨.empty, []⟩

def System.step (s : System) (command : Command) : System :=
  let (store, status) := s.store.perform command
  ⟨store, match command with
    | .write runId _ _ => if status = .rejected then s.persisted else runId :: s.persisted
    | _ => s.persisted⟩

/-! ## The count of a Run's rows -/

def Store.mutations (s : Store) (runId : String) : Nat := s.revisionCount runId + s.reviewCount runId

variable {s : Store} {runId : String}

@[simp] theorem mutations_setLifecycle (memoryId : String) (lifecycle : Memory.Lifecycle) :
    (s.setLifecycle memoryId lifecycle).mutations runId = s.mutations runId := rfl

@[simp] theorem mutations_raiseVersion (memoryId : String) : (s.raiseVersion memoryId).mutations runId = s.mutations runId := rfl

@[simp] theorem mutations_insertRevision (id memoryId : String) (source : Option String) :
    (s.insertRevision id memoryId source).mutations runId = s.mutations runId + if source = some runId then 1 else 0 := by
  simp only [Store.mutations, Store.revisionCount, Store.reviewCount, Store.insertRevision, countP_append,
    countP_singleton, decide_eq_true_eq]
  omega

@[simp] theorem mutations_insertMemory (memoryId revisionId : String) (source : Option String) :
    (s.insertMemory memoryId revisionId source).mutations runId = s.mutations runId + if source = some runId then 1 else 0 :=
  mutations_insertRevision revisionId memoryId source

theorem mutations_retireAll : ∀ (predecessors : List String) (s : Store),
    (predecessors.foldl (fun t memoryId => t.setLifecycle memoryId .retired) s).mutations runId = s.mutations runId
  | [], _ => rfl
  | memoryId :: predecessors, s => mutations_retireAll predecessors (s.setLifecycle memoryId .retired)

/-- A write adds one row of its Run. -/
theorem mutations_write (source : String) (written : Written) : (s.write source written).2 ≠ .rejected ∧
    (s.write source written).1.mutations runId = s.mutations runId + if source = runId then 1 else 0 := by
  cases written with
  | created memoryId revisionId => exact ⟨by simp [Store.write], by simp [Store.write]⟩
  | revised memoryId revisionId => exact ⟨by simp [Store.write], by simp [Store.write]⟩
  | saved reviewItemId =>
    refine ⟨by simp [Store.write], ?_⟩
    simp only [Store.write, Store.mutations, Store.revisionCount, Store.reviewCount, countP_append, countP_singleton,
      decide_eq_true_eq]
    omega

/-- The command forgets no memory with a revision by the Run. -/
def Spares (runId : String) (s : System) : Command → Prop
  | .forget memoryId _ => ∀ r ∈ s.store.revisions, r.memoryId = memoryId → r.sourceAgentRunId ≠ some runId
  | _ => True

theorem mutations_forget {memoryId : String} (expectedVersion : Int)
    (h : ∀ r ∈ s.revisions, r.memoryId = memoryId → r.sourceAgentRunId ≠ some runId) :
    (s.forget memoryId expectedVersion).1.mutations runId = s.mutations runId := by
  unfold Store.forget
  split
  · rfl
  split
  · rfl
  split
  · rfl
  · refine congrArg (· + s.reviewCount runId) ?_
    dsimp only [Store.revisionCount, Store.setLifecycle]
    rw [countP_map]
    refine countP_congr fun r hr => ?_
    by_cases hm : r.memoryId = memoryId
    · simp [hm, h r hr hm]
    · simp [hm]

/-- What a Run has persisted is in the tables, and is within the quota. -/
structure Bounded (runId : String) (s : System) : Prop where
  recorded : s.persisted.count runId ≤ s.store.mutations runId
  bounded : s.persisted.count runId ≤ memoryAgentMutationsPerRun

theorem bounded_of_mutations {s t : System} (h : Bounded runId s) (hpersisted : t.persisted = s.persisted)
    (hmutations : t.store.mutations runId = s.store.mutations runId) : Bounded runId t :=
  ⟨by rw [hpersisted, hmutations]; exact h.recorded, by rw [hpersisted]; exact h.bounded⟩

theorem bounded_step (s : System) (command : Command) (hspares : Spares runId s command) (h : Bounded runId s) :
    Bounded runId (s.step command) := by
  cases command with
  | write source admitted written =>
    by_cases hrefused : (s.store.quotaExceeded source || !admitted) = true
    · have hsame : s.step (.write source admitted written) = s := by
        simp [System.step, Store.perform, hrefused]
      rw [hsame]
      exact h
    · obtain ⟨hstatus, hmutations⟩ := @mutations_write s.store runId source written
      have hstep : s.step (.write source admitted written) = ⟨(s.store.write source written).1, source :: s.persisted⟩ := by
        simp only [System.step, Store.perform, if_neg hrefused, if_neg hstatus]
      have hroom : s.store.mutations source < memoryAgentMutationsPerRun := by
        rw [Bool.or_eq_true, not_or] at hrefused
        exact Nat.lt_of_not_le fun hfull => hrefused.1 (decide_eq_true hfull)
      have hrecorded := h.recorded
      have hbounded := h.bounded
      rw [hstep]
      by_cases hsource : source = runId
      · subst hsource
        rw [if_pos rfl] at hmutations
        constructor <;> simp only [count_cons_self, hmutations] <;> omega
      · rw [if_neg hsource, Nat.add_zero] at hmutations
        constructor <;> simp only [count_cons_of_ne hsource, hmutations] <;> assumption
  | forget memoryId expectedVersion => exact bounded_of_mutations h rfl (mutations_forget expectedVersion hspares)
  | create admitted =>
    cases admitted <;> exact bounded_of_mutations h rfl (by simp [System.step, Store.perform])
  | revise admitted =>
    cases admitted <;> exact bounded_of_mutations h rfl (by simp [System.step, Store.perform])
  | acceptAdd admitted =>
    cases admitted <;> exact bounded_of_mutations h rfl (by simp [System.step, Store.perform])
  | acceptRevise admitted =>
    cases admitted <;> exact bounded_of_mutations h rfl (by simp [System.step, Store.perform])
  | retire admitted memoryId => cases admitted <;> exact bounded_of_mutations h rfl rfl
  | reactivate admitted memoryId => cases admitted <;> exact bounded_of_mutations h rfl rfl
  | scheduleReview admitted memoryId => cases admitted <;> exact bounded_of_mutations h rfl rfl
  | rejectReviewItem admitted => exact bounded_of_mutations h rfl rfl
  | supersede admitted predecessors successor =>
    cases admitted with
    | false => exact bounded_of_mutations h rfl rfl
    | true =>
      refine bounded_of_mutations h rfl ((mutations_retireAll predecessors _).trans ?_)
      cases successor <;> simp

/-- **A Run has at most four mutations applied or accepted** in every run that forgets no memory with a revision by it. -/
theorem mutations_bounded (runId : String) (commands : List Command)
    (h : Runs.AllSteps System.step (Spares runId) .empty commands) :
    (commands.foldl System.step .empty).persisted.count runId ≤ 4 := by
  have hempty : Bounded runId .empty := ⟨Nat.zero_le _, Nat.zero_le _⟩
  exact (Runs.run_invariant_of_allSteps System.step bounded_step commands .empty h hempty).bounded

/-- Four memories of a Run, of which the user forgets one, and a fifth. -/
def fifthMutation : List Command :=
  ["a", "b", "c", "d"].map (fun id => .write "run" true (.created id id)) ++
    [.forget "a" 1, .write "run" true (.created "e" "e")]

theorem mutations_bounded_four : ((fifthMutation.take 4).foldl System.step .empty).persisted.count "run" ≤ 4 :=
  mutations_bounded "run" (fifthMutation.take 4) ⟨trivial, trivial, trivial, trivial, trivial⟩

theorem forgotten_mutation_not_counted : ¬ ∀ (runId : String) (commands : List Command),
    (commands.foldl System.step .empty).persisted.count runId ≤ 4 := by
  intro h
  have hfive := h "run" fifthMutation
  revert hfive
  decide

end Rovai.MemoryQuota
