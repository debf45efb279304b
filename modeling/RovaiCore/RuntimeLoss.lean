import RovaiCore.ActionDelivery
/-!
# What the loss of a Runtime closes (`action.rs`)

`reconcile_runtime_loss` with the columns that no other command reads: the effect of an action, its last error, the end of an attempt.
-/
namespace Rovai.Actions

open Tables (Table)

inductive EffectDisposition
  | none | complete | part | unknown

inductive AttemptOutcome
  | succeeded | failed | unknown | notDispatched

/-- The columns by the id of their row; an attempt that has no outcome is open. -/
structure LossStore extends Store where
  effectDisposition : String → Option EffectDisposition
  lastErrorCode : String → Option String
  attemptOutcome : String → Option AttemptOutcome
  attemptEnded : String → Bool

inductive Reply
  | applied
  | rejected (code : String)
  | failed (message : String)

def Store.dispatched (c : ReconcileRuntimeLossCommand) (a : ActionExecution) : Bool :=
  ofLostRuntime c a && a.status == .executing && a.dispatchMayHaveStartedAt.isSome

namespace LossStore

def closeLostRequests (s : LossStore) (c : ReconcileRuntimeLossCommand) : LossStore :=
  let t := s.toStore.closeLostRequests c
  let lastErrorCode (id : String) := if (s.actions.find? id).any (Store.dispatched c) then some "runtime_lost_after_dispatch" else
    s.lastErrorCode id
  let swept (id : String) := (s.attempts.find? id).any fun x => (s.attemptOutcome id).isNone && (t.actions.find? x.actionId).any fun a =>
    a.agentRunId == c.agentRunId && a.sourceAgentRunExecutionEpoch == c.executionEpoch && a.status == .unknown &&
      lastErrorCode a.id == some "runtime_lost_after_dispatch"
  { t with
    lastErrorCode
    effectDisposition := fun id =>
      if (s.actions.find? id).any (Store.dispatched c) then some .unknown
      else if (s.actions.find? id).any (fun a => Store.ofLostRuntime c a && a.status == .prepared) then some .none
      else s.effectDisposition id
    attemptOutcome := fun id => if swept id then some .unknown else s.attemptOutcome id
    attemptEnded := fun id => swept id || s.attemptEnded id }

/-- `settled`: what becomes of a single chat, or of a Run with an input that may have executed. -/
def reconcileRuntimeLoss (s : LossStore) (settled : LossStore × Reply) (e : Envelope) (c : ReconcileRuntimeLossCommand) :
    LossStore × Reply :=
  if e.actor ≠ .system "runtime-recovery-coordinator" then (s, .rejected "runtime_loss.coordinator_required")
  else
    match s.runs.find? c.agentRunId with
    | none => (s, .rejected "agent_run.not_found")
    | some run =>
      if e.campId ≠ some run.campId ∨ run.version ≠ c.expectedVersion ∨ run.executionEpoch ≠ c.executionEpoch ∨
          run.status.active = false then (s, .rejected "runtime_loss.fenced")
      else if c.failureMatches = false then (s, .failed "Runtime loss failure must match the active Runtime")
      else if run.singleChat ∨ c.inputMayHaveExecuted then settled
      else
        let t := s.closeLostRequests c
        let updated := t.runs.rows.countP fun r => r.id = c.agentRunId ∧ r.version = c.expectedVersion ∧
          r.executionEpoch = c.executionEpoch ∧ r.status.active
        -- what was closed is committed with this rejection
        if updated ≠ 1 then (t, .rejected "runtime_loss.race_lost")
        else
          let hasUnknown := t.actions.any (Store.activeUnknown c.agentRunId)
          ({ t with runs := t.runs.update c.agentRunId (Store.recoveringRun hasUnknown) }, .applied)

end LossStore

/-! ## What is closed -/

variable {s t : LossStore} {c : ReconcileRuntimeLossCommand} {id : String} {a : ActionExecution} {run : AgentRun}

/-- The requests of the epoch are closed as what they were, and everything else stands. -/
structure ClosedHonestly (s t : LossStore) (c : ReconcileRuntimeLossCommand) : Prop where
  closed : ∀ {id a}, t.actions.find? id = some a → Store.ofLostRuntime c a = true → a.status ≠ .prepared ∧ a.status ≠ .executing
  unknown : ∀ {id a}, s.actions.find? id = some a → Store.ofLostRuntime c a = true → a.status = .prepared ∨ a.status = .executing →
    a.dispatchMayHaveStartedAt ≠ none →
      (∃ a', t.actions.find? id = some a' ∧ a'.status = .unknown ∧ a'.unknownDisposition = some .active) ∧
      ∀ {k x}, s.attempts.find? k = some x → x.actionId = id → s.attemptOutcome k = none →
        t.attemptOutcome k = some .unknown ∧ t.attemptEnded k = true
  notExecuted : ∀ {id a}, s.actions.find? id = some a → Store.ofLostRuntime c a = true → a.status = .prepared ∨ a.status = .executing →
    a.dispatchMayHaveStartedAt = none →
      t.effectDisposition id = some .none ∧ ∃ a', t.actions.find? id = some a' ∧ a'.status = .notExecuted
  approvals : ∀ {k p a}, t.approvals.find? k = some p → t.actions.find? p.actionId = some a → Store.ofLostRuntime c a = true →
    p.status ≠ .pending
  deliveries : ∀ {k d}, t.deliveries.find? k = some d → d.agentRunId = c.agentRunId → d.targetExecutionEpoch = c.executionEpoch →
    d.deliveryKind = .authorizationResolution → d.status.unsettled = false
  others : ∀ {id a}, s.actions.find? id = some a → Store.ofLostRuntime c a = false → t.actions.find? id = some a ∧
    t.effectDisposition id = s.effectDisposition id ∧ t.lastErrorCode id = s.lastErrorCode id
  waits : ∃ run, t.runs.find? c.agentRunId = some run ∧ run.status = .waiting ∧ run.runtimeRecoveryRequired = true ∧
    (run.waitReason = some .unknownActionOutcome ↔ t.actions.any (Store.activeUnknown c.agentRunId) = true)

/-- What is executing is marked as dispatched, and a Run that waits for the outcome of an action has one that is unknown. -/
structure Marked (s : LossStore) (c : ReconcileRuntimeLossCommand) (run : AgentRun) : Prop where
  marks : ∀ {id a}, s.actions.find? id = some a → Store.ofLostRuntime c a = true →
    (a.status = .executing → a.dispatchMayHaveStartedAt ≠ none) ∧ (a.status = .prepared → a.dispatchMayHaveStartedAt = none)
  waits : run.status = .waiting → run.waitReason = some .unknownActionOutcome → ∃ id a, s.actions.find? id = some a ∧
    (Store.activeUnknown c.agentRunId a = true ∨ Store.dispatched c a = true)

/-- What becomes of an action. -/
def Store.closedLost (c : ReconcileRuntimeLossCommand) (a : ActionExecution) : ActionExecution :=
  if ofLostRuntime c a && (a.status == .prepared || a.status == .executing && a.dispatchMayHaveStartedAt.isSome) then
    interruptedAction "runtime_request_lost" a
  else a

theorem action_closed (id : String) : (s.closeLostRequests c).actions.find? id = (s.actions.find? id).map (Store.closedLost c) :=
  Table.find?_updateWhere _ _ _ (Store.interruptedAction_id "runtime_request_lost") _

theorem dispatched_iff : Store.dispatched c a = true ↔
    Store.ofLostRuntime c a = true ∧ a.status = .executing ∧ a.dispatchMayHaveStartedAt ≠ none := by
  simp [Store.dispatched, and_assoc, Option.isSome_iff_ne_none]

theorem closedLost_cases (c : ReconcileRuntimeLossCommand) (a : ActionExecution) :
    Store.dispatched c a = true ∧ Store.closedLost c a = Store.lostAction a ∨
      Store.ofLostRuntime c a = true ∧ a.status = .prepared ∧ Store.closedLost c a = Store.closedAction "runtime_request_lost" a ∨
      Store.dispatched c a ≠ true ∧ (Store.ofLostRuntime c a = true → a.status ≠ .prepared) ∧ Store.closedLost c a = a := by
  unfold Store.closedLost
  split
  · rename_i hguard
    simp only [Bool.and_eq_true, Bool.or_eq_true, beq_iff_eq] at hguard
    obtain ⟨hlost, hprepared | ⟨hexecuting, hmark⟩⟩ := hguard
    · exact .inr (.inl ⟨hlost, hprepared, by simp [Store.interruptedAction, hprepared]⟩)
    · have hmark : a.dispatchMayHaveStartedAt ≠ none := Option.isSome_iff_ne_none.1 hmark
      exact .inl ⟨dispatched_iff.2 ⟨hlost, hexecuting, hmark⟩, by simp [Store.interruptedAction, hexecuting, hmark]⟩
  · rename_i hguard
    refine .inr (.inr ⟨fun hdispatched => ?_, fun hlost hprepared => ?_, rfl⟩)
    · obtain ⟨hlost, hexecuting, hmark⟩ := dispatched_iff.1 hdispatched
      simp [hlost, hexecuting, Option.isSome_iff_ne_none.2 hmark] at hguard
    · simp [hlost, hprepared] at hguard

theorem ofLostRuntime_closed (a : ActionExecution) : Store.ofLostRuntime c (Store.closedLost c a) = Store.ofLostRuntime c a := by
  obtain ⟨-, h⟩ | ⟨-, -, h⟩ | ⟨-, -, h⟩ := closedLost_cases c a <;> rw [h] <;> rfl

theorem activeUnknown_closed : Store.activeUnknown c.agentRunId (Store.closedLost c a) = true ↔
    Store.activeUnknown c.agentRunId a = true ∨ Store.dispatched c a = true := by
  obtain ⟨hdispatched, h⟩ | ⟨-, hprepared, h⟩ | ⟨hother, -, h⟩ := closedLost_cases c a <;> rw [h]
  · have hrun : a.agentRunId = c.agentRunId := by
      have hlost := (dispatched_iff.1 hdispatched).1
      simp only [Store.ofLostRuntime, Bool.and_eq_true, beq_iff_eq] at hlost
      exact hlost.1.1
    simp [Store.activeUnknown, Store.lostAction, hdispatched, hrun]
  · simp [Store.activeUnknown, Store.closedAction, Store.dispatched, hprepared]
  · simp [hother]

theorem hasUnknown_closed : (s.closeLostRequests c).actions.any (Store.activeUnknown c.agentRunId) = true ↔
    ∃ id a, s.actions.find? id = some a ∧ (Store.activeUnknown c.agentRunId a = true ∨ Store.dispatched c a = true) := by
  rw [Table.any_iff]
  constructor
  · rintro ⟨id, a', ha', hunknown⟩
    rw [action_closed] at ha'
    obtain ⟨a, ha, rfl⟩ := Option.map_eq_some_iff.1 ha'
    exact ⟨id, a, ha, activeUnknown_closed.1 hunknown⟩
  · rintro ⟨id, a, ha, hunknown⟩
    exact ⟨id, Store.closedLost c a, by rw [action_closed, ha]; rfl, activeUnknown_closed.2 hunknown⟩

/-- What an applied call leaves. -/
def LossStore.recovering (s : LossStore) (c : ReconcileRuntimeLossCommand) : LossStore :=
  let t := s.closeLostRequests c
  { t with runs := t.runs.update c.agentRunId (Store.recoveringRun (t.actions.any (Store.activeUnknown c.agentRunId))) }

theorem reconcileRuntimeLoss_cases {settled : LossStore × Reply} {e : Envelope} (hrun : s.runs.find? c.agentRunId = some run)
    (hchat : run.singleChat = false) (hinput : c.inputMayHaveExecuted = false) :
    (s.reconcileRuntimeLoss settled e c).1 = s ∧ (s.reconcileRuntimeLoss settled e c).2 ≠ .applied ∨
      run.status.active = true ∧ s.reconcileRuntimeLoss settled e c = (s.recovering c, .applied) := by
  unfold LossStore.reconcileRuntimeLoss
  rw [hrun]
  split
  · exact .inl ⟨rfl, nofun⟩
  dsimp only
  split
  · exact .inl ⟨rfl, nofun⟩
  rename_i hfenced
  simp only [not_or, not_not] at hfenced
  obtain ⟨-, hversion, hepoch, hactive⟩ := hfenced
  split
  · exact .inl ⟨rfl, nofun⟩
  have hactive : run.status.active = true := by simpa using hactive
  have hone : s.runs.rows.countP (fun r => decide (r.id = c.agentRunId ∧ r.version = c.expectedVersion ∧
      r.executionEpoch = c.executionEpoch ∧ r.status.active = true)) = 1 := by
    refine Table.countP_eq_one hrun ?_ fun {k r} hr hmatches => ?_
    · simp [Table.key_of_find? hrun, hversion, hepoch, hactive]
    · have hid : r.id = c.agentRunId := by
        simp only [decide_eq_true_eq] at hmatches
        exact hmatches.1
      exact Option.mem_unique (hid ▸ Table.find?_key hr) hrun
  rw [if_neg (by simp [hchat, hinput])]
  have hruns : (s.closeLostRequests c).runs = s.runs := rfl
  rw [hruns, if_neg (not_not.2 hone)]
  exact .inr ⟨hactive, rfl⟩

theorem run_recovering (hrun : s.runs.find? c.agentRunId = some run) : (s.recovering c).runs.find? c.agentRunId =
    some (Store.recoveringRun ((s.closeLostRequests c).actions.any (Store.activeUnknown c.agentRunId)) run) :=
  Table.find?_update_self hrun (Store.recoveringRun _) (fun _ => rfl)

/-- The Run waits for the outcome of an action exactly when an action is unknown, unless it waited for one before. -/
theorem waitReason_recovering (hactive : run.status.active = true) (hasUnknown : Bool) :
    ((Store.recoveringRun hasUnknown run).waitReason = some .unknownActionOutcome ↔ hasUnknown = true) ↔
      (run.status = .waiting → run.waitReason = some .unknownActionOutcome → hasUnknown = true) := by
  cases hasUnknown with
  | true => simp [Store.recoveringRun]
  | false =>
    cases hstatus : run.status <;> simp [hstatus, RunStatus.active] at hactive
    · simp [Store.recoveringRun, hstatus]
    · by_cases hreason : run.waitReason = some .unknownActionOutcome
      · simp [Store.recoveringRun, hstatus, hreason, Store.resumable]
      · by_cases hresumable : Store.resumable run.waitReason = true <;> simp [Store.recoveringRun, hstatus, hreason, hresumable]

theorem swept_attempt {k : String} {x : ActionAttempt} (ha : s.actions.find? id = some a) (hdispatched : Store.dispatched c a = true)
    (hx : s.attempts.find? k = some x) (hxid : x.actionId = id) (hopen : s.attemptOutcome k = none) :
    (s.recovering c).attemptOutcome k = some .unknown ∧ (s.recovering c).attemptEnded k = true := by
  have hclosed : Store.closedLost c a = Store.lostAction a := by
    obtain ⟨-, h⟩ | ⟨-, hprepared, -⟩ | ⟨hother, -⟩ := closedLost_cases c a
    · exact h
    · simp [dispatched_iff, hprepared] at hdispatched
    · exact absurd hdispatched hother
  have ha' : (s.toStore.closeLostRequests c).actions.find? x.actionId = some (Store.lostAction a) := by
    rw [hxid]
    exact (action_closed id).trans (by rw [ha, Option.map_some, hclosed])
  have hlost := (dispatched_iff.1 hdispatched).1
  simp only [Store.ofLostRuntime, Bool.and_eq_true, beq_iff_eq] at hlost
  have hid : a.id = id := Table.key_of_find? ha
  simp [LossStore.recovering, LossStore.closeLostRequests, hx, hopen, ha', Store.lostAction, hlost, hid, ha, hdispatched]

theorem closedHonestly_iff (hrun : s.runs.find? c.agentRunId = some run) (hactive : run.status.active = true) :
    ClosedHonestly s (s.recovering c) c ↔ Marked s c run := by
  have hact : ∀ id, (s.recovering c).actions.find? id = (s.actions.find? id).map (Store.closedLost c) := action_closed
  constructor
  · intro h
    refine ⟨fun {id a} ha hlost => ⟨fun hexecuting hmark => ?_, fun hprepared => ?_⟩, fun hstatus hreason => ?_⟩
    · have hsame : Store.closedLost c a = a := by
        obtain ⟨hdispatched, -⟩ | ⟨-, hprepared, -⟩ | ⟨-, -, hsame⟩ := closedLost_cases c a
        · exact absurd hmark (dispatched_iff.1 hdispatched).2.2
        · rw [hexecuting] at hprepared
          cases hprepared
        · exact hsame
      have ha' : (s.recovering c).actions.find? id = some a := by rw [hact, ha, Option.map_some, hsame]
      exact (h.closed ha' hlost).2 hexecuting
    · by_contra hmark
      obtain ⟨⟨a', ha', hunknown, -⟩, -⟩ := h.unknown ha hlost (.inl hprepared) hmark
      rw [hact, ha] at ha'
      cases ha'
      obtain ⟨hdispatched, -⟩ | ⟨-, -, hclosed⟩ | ⟨-, hnot, -⟩ := closedLost_cases c a
      · simp [dispatched_iff, hprepared] at hdispatched
      · simp [hclosed, Store.closedAction] at hunknown
      · exact hnot hlost hprepared
    · obtain ⟨run', hrun', -, -, hwaits⟩ := h.waits
      rw [run_recovering hrun] at hrun'
      cases hrun'
      exact hasUnknown_closed.1 ((waitReason_recovering hactive _).1 hwaits hstatus hreason)
  · intro h
    have hdispatched : ∀ {id a}, s.actions.find? id = some a → Store.ofLostRuntime c a = true →
        a.status = .prepared ∨ a.status = .executing → a.dispatchMayHaveStartedAt ≠ none → Store.dispatched c a = true := by
      rintro id a ha hlost (hprepared | hexecuting) hmark
      · exact absurd ((h.marks ha hlost).2 hprepared) hmark
      · exact dispatched_iff.2 ⟨hlost, hexecuting, hmark⟩
    constructor
    · intro id a' ha' hlost
      rw [hact] at ha'
      obtain ⟨a, ha, rfl⟩ := Option.map_eq_some_iff.1 ha'
      rw [ofLostRuntime_closed] at hlost
      obtain ⟨-, hclosed⟩ | ⟨-, -, hclosed⟩ | ⟨hother, hnot, hclosed⟩ := closedLost_cases c a <;> rw [hclosed]
      · exact ⟨nofun, nofun⟩
      · exact ⟨nofun, nofun⟩
      · exact ⟨hnot hlost, fun hexecuting => hother (dispatched_iff.2 ⟨hlost, hexecuting, (h.marks ha hlost).1 hexecuting⟩)⟩
    · intro id a ha hlost hopen hmark
      have hd := hdispatched ha hlost hopen hmark
      obtain ⟨-, hclosed⟩ | ⟨-, hprepared, -⟩ | ⟨hother, -⟩ := closedLost_cases c a
      · refine ⟨⟨_, by rw [hact, ha, Option.map_some, hclosed], rfl, rfl⟩, fun hx hxid hnone => swept_attempt ha hd hx hxid hnone⟩
      · exact absurd ((h.marks ha hlost).2 hprepared) hmark
      · exact absurd hd hother
    · intro id a ha hlost hopen hmark
      have hprepared : a.status = .prepared := hopen.resolve_right fun hexecuting => (h.marks ha hlost).1 hexecuting hmark
      have hnot : Store.dispatched c a = false := by simp [Store.dispatched, hprepared]
      refine ⟨?_, ?_⟩
      · simp [LossStore.recovering, LossStore.closeLostRequests, ha, hnot, hlost, hprepared]
      · obtain ⟨hd, -⟩ | ⟨-, -, hclosed⟩ | ⟨-, hother, -⟩ := closedLost_cases c a
        · rw [hnot] at hd
          cases hd
        · exact ⟨_, by rw [hact, ha, Option.map_some, hclosed], rfl⟩
        · exact absurd hprepared (hother hlost)
    · intro k p a' hp ha' hlost hpending
      rw [hact] at ha'
      obtain ⟨a, ha, rfl⟩ := Option.map_eq_some_iff.1 ha'
      rw [ofLostRuntime_closed] at hlost
      obtain ⟨before, -, rfl⟩ := Option.map_eq_some_iff.1 ((Table.find?_updateWhere _ _ (Store.resolvedAs _ _ _) (fun _ => rfl) _).symm.trans hp)
      split at hpending
      · cases hpending
      · rename_i hother
        rw [if_neg hother] at ha
        simp [hpending, ha, hlost] at hother
    · intro k d hd hrunId hepoch hkind
      obtain ⟨before, -, rfl⟩ := Option.map_eq_some_iff.1 ((Table.find?_updateWhere _ _ (Store.closedDelivery _) (fun _ => rfl) _).symm.trans hd)
      split at hrunId
      · rename_i hguard
        rw [if_pos hguard]
        rfl
      · rename_i hother
        rw [if_neg hother] at hepoch hkind ⊢
        simpa [Store.openDelivery, hrunId, hepoch, hkind] using hother
    · intro id a ha hlost
      have hnot : Store.dispatched c a = false := by simp [Store.dispatched, hlost]
      refine ⟨?_, ?_, ?_⟩
      · rw [hact, ha, Option.map_some]
        obtain ⟨hd, -⟩ | ⟨h, -⟩ | ⟨-, -, hsame⟩ := closedLost_cases c a
        · rw [hnot] at hd
          cases hd
        · rw [hlost] at h
          cases h
        · rw [hsame]
      · simp [LossStore.recovering, LossStore.closeLostRequests, ha, hnot, hlost]
      · simp [LossStore.recovering, LossStore.closeLostRequests, ha, hnot]
    · refine ⟨_, run_recovering hrun, rfl, rfl, (waitReason_recovering hactive _).2 fun hstatus hreason => ?_⟩
      exact hasUnknown_closed.2 (h.waits hstatus hreason)

/-- **The loss of a Runtime closes every intercepted request honestly exactly when what is executing is marked as dispatched**; a call
that is not applied changes nothing. -/
theorem runtime_loss_closes (s : LossStore) (settled : LossStore × Reply) (e : Envelope) (c : ReconcileRuntimeLossCommand)
    (run : AgentRun) (hrun : s.runs.find? c.agentRunId = some run) (hchat : run.singleChat = false)
    (hinput : c.inputMayHaveExecuted = false) :
    ((s.reconcileRuntimeLoss settled e c).2 ≠ .applied → (s.reconcileRuntimeLoss settled e c).1 = s) ∧
      ((s.reconcileRuntimeLoss settled e c).2 = .applied →
        (ClosedHonestly s (s.reconcileRuntimeLoss settled e c).1 c ↔ Marked s c run)) := by
  obtain ⟨hsame, hnot⟩ | ⟨hactive, happlied⟩ := @reconcileRuntimeLoss_cases s c run settled e hrun hchat hinput
  · exact ⟨fun _ => hsame, fun happlied => absurd happlied hnot⟩
  · rw [happlied]
    exact ⟨fun hnot => absurd rfl hnot, fun _ => closedHonestly_iff hrun hactive⟩

def claimingRun : AgentRun :=
  ⟨"run", "camp", "agent", false, .waiting, some .actionExecution, 1, 3, false, false, .runtimeManagedV2, ⟨[], []⟩⟩

/-- A Run that is waiting for an action that was claimed in the epoch, and was dispatched at the given time. -/
def claimedRequest (mark : Option Int) : LossStore where
  runs := Table.empty.insert claimingRun
  actions := Table.empty.insert ⟨"action", "run", "shell", "d", none, .intercepted, none, 1, none, none, none, .ask, .executing, none, none, 1,
    some "attempt", 2, some 1, some "executor", mark, 2⟩
  attempts := Table.empty.insert ⟨"attempt", "action", 1, 2, "executor", mark⟩
  approvals := .empty
  deliveries := .empty
  effectDisposition _ := none
  lastErrorCode _ := none
  attemptOutcome _ := none
  attemptEnded _ := false

def lostRuntime : Envelope × ReconcileRuntimeLossCommand :=
  (⟨.system "runtime-recovery-coordinator", some "camp", none, 0, ""⟩, ⟨"run", 3, 1, true, false, false⟩)

theorem runtime_loss_closes_dispatched :
    ClosedHonestly (claimedRequest (some 0))
      ((claimedRequest (some 0)).reconcileRuntimeLoss (claimedRequest none, .applied) lostRuntime.1 lostRuntime.2).1 lostRuntime.2 ↔
      Marked (claimedRequest (some 0)) lostRuntime.2 claimingRun :=
  (runtime_loss_closes (claimedRequest (some 0)) (claimedRequest none, .applied) lostRuntime.1 lostRuntime.2 _ rfl rfl rfl).2 rfl

theorem claimed_request_stays : ¬ ∀ (s : LossStore) (settled : LossStore × Reply) (e : Envelope) (c : ReconcileRuntimeLossCommand)
    (run : AgentRun), s.runs.find? c.agentRunId = some run → run.singleChat = false → c.inputMayHaveExecuted = false →
      (s.reconcileRuntimeLoss settled e c).2 = .applied → ClosedHonestly s (s.reconcileRuntimeLoss settled e c).1 c := by
  intro h
  have hclosed := h (claimedRequest none) (claimedRequest none, .applied) lostRuntime.1 lostRuntime.2 _ rfl rfl rfl rfl
  obtain ⟨-, a', ha', hstatus⟩ := @hclosed.notExecuted "action" _ rfl rfl (.inr rfl) rfl
  cases ha'
  cases hstatus

end Rovai.Actions
