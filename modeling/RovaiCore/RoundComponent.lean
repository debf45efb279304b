import RovaiCore.NotificationRound
/-!
# What a probe finds

The query of a probe holds the component of the Run in the graph of inputs and publications, and what it selects is read off that
component: the least message that asks, when every Run in it has succeeded and nothing is left of it.
-/
namespace Rovai.Rounds

open Tables (Table)
open List
open Relation (ReflTransGen)

variable {s t : RoundStore}

/-! ## The graph -/

inductive Joined (s : RoundStore) : Node → Node → Prop
  | input {i : AgentRunInput} (h : i ∈ s.inputs) : Joined s (.run i.agentRunId) (.message i.messageId)
  | ofInput {i : AgentRunInput} (h : i ∈ s.inputs) : Joined s (.message i.messageId) (.run i.agentRunId)
  | output {k r : String} {m : CampMessage} (h : s.messages.find? k = some m) (hr : m.sourceAgentRunId = some r) :
      Joined s (.run r) (.message k)
  | ofOutput {k r : String} {m : CampMessage} (h : s.messages.find? k = some m) (hr : m.sourceAgentRunId = some r) :
      Joined s (.message k) (.run r)

theorem Joined.symm {a b : Node} (h : Joined s a b) : Joined s b a := by
  cases h with
  | input h => exact .ofInput h
  | ofInput h => exact .input h
  | output h hr => exact .ofOutput h hr
  | ofOutput h hr => exact .output h hr

def Together (s : RoundStore) : Node → Node → Prop :=
  ReflTransGen (Joined s)

theorem Together.symm {a b : Node} (h : Together s a b) : Together s b a := by
  induction h with
  | refl => exact .refl
  | tail _ hjoined ih => exact .head hjoined.symm ih

/-! ## Well-formed tables -/

structure WellFormed (s : RoundStore) : Prop where
  probe : s.probe = []
  input : ∀ {i}, i ∈ s.inputs → ∃ r m, s.runs.find? i.agentRunId = some r ∧ s.messages.find? i.messageId = some m ∧
    r.campId = m.campId
  source : ∀ {k m r}, s.messages.find? k = some m → m.sourceAgentRunId = some r →
    ∃ run, s.runs.find? r = some run ∧ run.campId = m.campId
  batch : ∀ {k r}, s.runs.find? k = some r → r.invocationKind = .batch
  published : ∀ {k m}, s.messages.find? k = some m → k ∈ s.published
  delivery : ∀ {k d}, s.deliveries.find? k = some d → ∃ m, s.messages.find? d.messageId = some m
  waiting : ∀ {k d}, s.deliveries.find? k = some d → d.status = .waiting → d.requestedMode = .start
  started : ∀ {k d r}, s.deliveries.find? k = some d → d.requestedMode = .start → d.claimedAgentRunId = some r →
    ⟨r, d.messageId⟩ ∈ s.inputs
  steered : ∀ {k d}, s.deliveries.find? k = some d → d.requestedMode = .steer →
    ∃ r, d.claimedAgentRunId = some r ∧ (r, d.messageId) ∈ s.inputMarkers
  settled : ∀ {k d}, s.deliveries.find? k = some d → d.status = .settled → ∃ r, d.claimedAgentRunId = some r
  recallable : ∀ {k m}, s.messages.find? k = some m → m.recallState = .recallable →
    ∃ k' d, s.deliveries.find? k' = some d ∧ d.messageId = k
  withdrawn : ∀ {k m}, s.messages.find? k = some m → m.recallState = .withdrawn →
    ∃ k' d, s.deliveries.find? k' = some d ∧ d.messageId = k ∧ d.status = .cancelled

def InCamp (s : RoundStore) (campId : String) : Node → Prop
  | .run id => ∃ r, s.runs.find? id = some r ∧ r.campId = campId
  | .message id => ∃ m, s.messages.find? id = some m ∧ m.campId = campId

theorem Joined.inCamp (hs : WellFormed s) {campId : String} {a b : Node} (h : Joined s a b) (ha : InCamp s campId a) :
    InCamp s campId b := by
  cases h with
  | input h =>
    obtain ⟨r, hr, hcamp⟩ := ha
    obtain ⟨r', m, hr', hm, hsame⟩ := hs.input h
    rw [hr] at hr'
    cases hr'
    exact ⟨m, hm, hsame.symm.trans hcamp⟩
  | ofInput h =>
    obtain ⟨m, hm, hcamp⟩ := ha
    obtain ⟨r, m', hr, hm', hsame⟩ := hs.input h
    rw [hm] at hm'
    cases hm'
    exact ⟨r, hr, hsame.trans hcamp⟩
  | output h hr =>
    obtain ⟨r, hrun, hcamp⟩ := ha
    obtain ⟨r', hr', hsame⟩ := hs.source h hr
    rw [hrun] at hr'
    cases hr'
    exact ⟨_, h, hsame.symm.trans hcamp⟩
  | ofOutput h hr =>
    obtain ⟨m, hm, hcamp⟩ := ha
    obtain ⟨r, hr', hsame⟩ := hs.source h hr
    rw [hm] at h
    cases h
    exact ⟨r, hr', hsame.trans hcamp⟩

theorem Together.inCamp (hs : WellFormed s) {campId : String} {a b : Node} (h : Together s a b) (ha : InCamp s campId a) :
    InCamp s campId b := by
  induction h with
  | refl => exact ha
  | tail _ hjoined ih => exact hjoined.inCamp hs ih

/-! ## The query -/

theorem gives_iff (hs : WellFormed s) {campId : String} {a b : Node} (ha : InCamp s campId a) :
    RecursiveQuery.Gives (s.linked campId) a b ↔ Joined s a b := by
  unfold RecursiveQuery.Gives
  cases a with
  | run id =>
    simp only [RoundStore.linked, mem_append, mem_map, mem_filter, Bool.and_eq_true, beq_iff_eq]
    constructor
    · rintro (⟨i, ⟨hi, rfl⟩, rfl⟩ | ⟨m, ⟨hm, hsource, -⟩, rfl⟩)
      · exact .input hi
      · exact .output (Table.find?_of_mem hm) hsource
    · intro h
      cases h with
      | input h => exact .inl ⟨_, ⟨h, rfl⟩, rfl⟩
      | @output k _ m h hr =>
        obtain ⟨m', hm', hcamp⟩ := (Joined.output h hr).inCamp hs ha
        rw [h] at hm'
        cases hm'
        exact .inr ⟨m, ⟨Table.mem_of_find? h, hr, hcamp⟩, by rw [Table.key_of_find? h]⟩
  | message id =>
    simp only [RoundStore.linked, mem_append, mem_map, mem_flatMap, mem_filter, Bool.and_eq_true, beq_iff_eq]
    constructor
    · rintro (⟨i, ⟨hi, rfl⟩, rfl⟩ | ⟨m, ⟨hm, rfl⟩, r, ⟨hr, ⟨hsource, -⟩, -⟩, rfl⟩)
      · exact .ofInput hi
      · exact .ofOutput (Table.find?_of_mem hm) hsource
    · intro h
      cases h with
      | ofInput h => exact .inl ⟨_, ⟨h, rfl⟩, rfl⟩
      | @ofOutput _ r m h hr =>
        obtain ⟨run, hrun, hcamp⟩ := hs.source h hr
        have hid := Table.key_of_find? hrun
        refine .inr ⟨m, ⟨Table.mem_of_find? h, Table.key_of_find? h⟩, run, ⟨Table.mem_of_find? hrun, ⟨?_, hcamp⟩,
          hs.batch hrun⟩, by rw [hid]⟩
        rw [hr, hid]

def nodes (s : RoundStore) : Finset Node :=
  (s.runs.rows.map (fun r => Node.run r.id) ++ s.messages.rows.map (fun m => Node.message m.id)).toFinset

theorem mem_nodes {campId : String} {a : Node} (ha : InCamp s campId a) : a ∈ nodes s := by
  unfold nodes
  rw [mem_toFinset, mem_append]
  cases a with
  | run id =>
    obtain ⟨r, hr, -⟩ := ha
    exact .inl (mem_map.2 ⟨r, Table.mem_of_find? hr, by rw [Table.key_of_find? hr]⟩)
  | message id =>
    obtain ⟨m, hm, -⟩ := ha
    exact .inr (mem_map.2 ⟨m, Table.mem_of_find? hm, by rw [Table.key_of_find? hm]⟩)

variable {run : AgentRun}

/-- **The query holds the component of its Run.** -/
theorem mem_component (hs : WellFormed s) {id : String} (hrun : s.runs.find? id = some run) {a : Node} :
    a ∈ s.component run ↔ Together s (.run id) a := by
  have hid := Table.key_of_find? hrun
  have hstart : InCamp s run.campId (.run run.id) := ⟨run, Table.find?_key hrun, rfl⟩
  have hgives : ∀ {a b}, InCamp s run.campId a → RecursiveQuery.Gives (s.linked run.campId) a b → InCamp s run.campId b :=
    fun ha h => ((gives_iff hs ha).1 h).inCamp hs ha
  classical
  let domain := (nodes s).filter (InCamp s run.campId)
  have hdomain : ∀ a ∈ domain, ∀ b, RecursiveQuery.Gives (s.linked run.campId) a b → b ∈ domain := by
    intro a ha b h
    have hb := hgives (Finset.mem_filter.1 ha).2 h
    exact Finset.mem_filter.2 ⟨mem_nodes hb, hb⟩
  have hrows : {Node.run run.id} ⊆ domain :=
    Finset.singleton_subset_iff.2 (Finset.mem_filter.2 ⟨mem_nodes hstart, hstart⟩)
  have hcard : domain.card ≤ s.runs.rows.length + s.messages.rows.length + ({Node.run run.id} : Finset Node).card := by
    have hle := (Finset.card_filter_le (nodes s) (InCamp s run.campId)).trans (toFinset_card_le _)
    rw [length_append, length_map, length_map] at hle
    exact hle.trans (Nat.le_add_right _ _)
  unfold RoundStore.component
  rw [RecursiveQuery.mem_close_iff hdomain hrows hcard, ← hid]
  simp only [Finset.mem_singleton, exists_eq_left]
  -- Along a path from the Run every node is of its Thread.
  constructor
  · intro h
    have both : InCamp s run.campId a ∧ Together s (.run run.id) a := by
      induction h with
      | refl => exact ⟨hstart, .refl⟩
      | tail _ hstep ih => exact ⟨hgives ih.1 hstep, ih.2.tail ((gives_iff hs ih.1).1 hstep)⟩
    exact both.2
  · intro h
    have both : InCamp s run.campId a ∧ ReflTransGen (RecursiveQuery.Gives (s.linked run.campId)) (.run run.id) a := by
      induction h with
      | refl => exact ⟨hstart, .refl⟩
      | tail _ hstep ih => exact ⟨hstep.inCamp hs ih.1, ih.2.tail ((gives_iff hs ih.1).2 hstep)⟩
    exact both.2

/-! ## What is selected -/

structure Quiet (s : RoundStore) (root : String) : Prop where
  found : ∃ m, s.messages.find? root = some m
  succeeded : ∀ {r run}, s.runs.find? r = some run → Together s (.message root) (.run r) → run.status = .succeeded
  settled : ∀ {k d}, s.deliveries.find? k = some d → Together s (.message root) (.message d.messageId) → d.status = .settled

structure Complete (s : RoundStore) (root : String) : Prop extends Quiet s root where
  started : ∃ r, Together s (.message root) (.run r)
  kept : ∀ {k m}, s.messages.find? k = some m → Together s (.message root) (.message k) → m.tombstoned = false

structure Root (s : RoundStore) (root : String) : Prop where
  asks : ∃ m, s.messages.find? root = some m ∧ m.authorType.asks = true
  least : ∀ {k m}, s.messages.find? k = some m → Together s (.message root) (.message k) → m.authorType.asks = true → root ≤ k

theorem guard_iff (hs : WellFormed s) {runId : String} (hrun : s.runs.find? runId = some run) {root : String}
    (hroot : Together s (.run runId) (.message root)) :
    (s.runs.rows.filter (fun r => decide (Node.run r.id ∈ s.component run)) ≠ [] ∧
      (s.runs.rows.filter (fun r => decide (Node.run r.id ∈ s.component run))).all
        (fun r => r.status == .succeeded && r.invocationKind == .batch) = true ∧
      s.deliveries.rows.all (fun d => decide (Node.message d.messageId ∈ s.component run → d.status = .settled)) = true ∧
      (s.messages.rows.filter (fun m => decide (Node.message m.id ∈ s.component run))).all
        (fun m => !m.tombstoned && s.published.contains m.id) = true) ↔ Complete s root := by
  have hcomponent : ∀ {a}, a ∈ s.component run ↔ Together s (.message root) a := fun {a} =>
    (mem_component hs hrun).trans ⟨fun h => hroot.symm.trans h, fun h => hroot.trans h⟩
  simp only [hcomponent, all_eq_true, mem_filter, decide_eq_true_eq, Bool.and_eq_true, beq_iff_eq, Bool.not_eq_true']
  constructor
  · rintro ⟨-, hruns, hdeliveries, hmessages⟩
    have hfound : ∃ m, s.messages.find? root = some m := by
      obtain ⟨m, hm, -⟩ := @Together.inCamp _ hs run.campId _ _ hroot ⟨run, hrun, rfl⟩
      exact ⟨m, hm⟩
    refine ⟨⟨hfound, fun hr htogether => ?_, fun hd htogether => ?_⟩, ⟨runId, hroot.symm⟩, fun hm htogether => ?_⟩
    · exact (hruns _ ⟨Table.mem_of_find? hr, Table.key_of_find? hr ▸ htogether⟩).1
    · exact hdeliveries _ (Table.mem_of_find? hd) htogether
    · exact (hmessages _ ⟨Table.mem_of_find? hm, Table.key_of_find? hm ▸ htogether⟩).1
  · intro h
    refine ⟨?_, fun r hr => ⟨h.succeeded (Table.find?_of_mem hr.1) hr.2, hs.batch (Table.find?_of_mem hr.1)⟩,
      fun d hd htogether => h.settled (Table.find?_of_mem hd) htogether, fun m hm => ⟨h.kept (Table.find?_of_mem hm.1) hm.2, ?_⟩⟩
    · refine ne_nil_of_mem (a := run) (mem_filter.2 ⟨Table.mem_of_find? hrun, ?_⟩)
      rw [decide_eq_true_eq, Table.key_of_find? hrun]
      exact hcomponent.2 hroot.symm
    · exact contains_iff_mem.2 (hs.published (Table.find?_of_mem hm.1))

theorem mem_asking (hs : WellFormed s) {runId k : String} (hrun : s.runs.find? runId = some run) :
    k ∈ ((s.messages.rows.filter (fun m => decide (Node.message m.id ∈ s.component run))).filter
      (fun m => m.authorType.asks)).map (·.id) ↔
      ∃ m, s.messages.find? k = some m ∧ Together s (.run runId) (.message k) ∧ m.authorType.asks = true := by
  simp only [mem_map, mem_filter, decide_eq_true_eq, mem_component hs hrun]
  constructor
  · rintro ⟨m, ⟨⟨hm, htogether⟩, hasks⟩, rfl⟩
    exact ⟨m, Table.find?_of_mem hm, htogether, hasks⟩
  · rintro ⟨m, hm, htogether, hasks⟩
    have hid := Table.key_of_find? hm
    exact ⟨m, ⟨⟨Table.mem_of_find? hm, hid ▸ htogether⟩, hasks⟩, hid⟩

/-- **A probe selects the round of its Run** when it is complete. -/
theorem roundOf_of_complete (hs : WellFormed s) {runId root : String} (hrun : s.runs.find? runId = some run)
    (htogether : Together s (.message root) (.run runId)) (hcomplete : Complete s root) (hroot : Root s root) :
    ∃ round, s.roundOf runId = some round ∧ round.id = root := by
  unfold RoundStore.roundOf
  rw [hrun]
  dsimp only
  rw [if_pos ((guard_iff hs hrun htogether.symm).2 hcomplete)]
  obtain ⟨m, hm, hasks⟩ := hroot.asks
  have hmin : (((s.messages.rows.filter (fun m => decide (Node.message m.id ∈ s.component run))).filter
      (fun m => m.authorType.asks)).map (·.id)).min? = some root := by
    refine min?_eq_some_iff.2 ⟨(mem_asking hs hrun).2 ⟨m, hm, htogether.symm, hasks⟩, fun k hk => ?_⟩
    obtain ⟨m', hm', htogether', hasks'⟩ := (mem_asking hs hrun).1 hk
    exact hroot.least hm' (htogether.trans htogether') hasks'
  rw [hmin]
  exact ⟨_, rfl, rfl⟩

theorem complete_of_roundOf (hs : WellFormed s) {runId : String} {round : NotificationRound} (h : s.roundOf runId = some round) :
    Complete s round.id ∧ Root s round.id := by
  unfold RoundStore.roundOf at h
  split at h
  · cases h
  rename_i run hrun
  dsimp only at h
  split at h
  · rename_i hguard
    obtain ⟨root, hmin, rfl⟩ := Option.map_eq_some_iff.1 h
    obtain ⟨hmem, hleast⟩ := min?_eq_some_iff.1 hmin
    obtain ⟨m, hm, htogether, hasks⟩ := (mem_asking hs hrun).1 hmem
    refine ⟨(guard_iff hs hrun htogether).1 hguard, ⟨m, hm, hasks⟩, fun hm' htogether' hasks' => ?_⟩
    exact hleast _ ((mem_asking hs hrun).2 ⟨_, hm', htogether.trans htogether', hasks'⟩)
  · cases h

end Rovai.Rounds
