import RovaiCore.InterruptedRun
/-!
# What the settlement of an interrupted Run leaves (`runtime.rs`)

After the settlement of a Run that had not ended nothing of it is open, and every effect that was open is accounted for by its
dispatch evidence.
-/
namespace Rovai.Interrupted

open Tables (Table)
open Fallible (orError orError_eq_ok bind_eq_ok)

def ActionExecution.isOpen (a : ActionExecution) : Bool := a.status == .prepared || a.status == .executing

namespace Store

section

variable {s s' : Store} {runId now k : String} {reason : AbortiveEffectClosureReason}

/-! ## Closing -/

def closedAction (runId now : String) (reason : AbortiveEffectClosureReason) (a : ActionExecution) : ActionExecution :=
  let marked := if dispatchedAction runId a then unknownAction now reason a else a
  if undispatchedAction runId marked then notExecutedAction now reason marked else marked

theorem find?_markActionsUnknown (s : Store) (k : String) : (s.markActionsUnknown runId now reason).actions.find? k =
    (s.actions.find? k).map (fun a => if dispatchedAction runId a then unknownAction now reason a else a) :=
  Table.find?_updateWhere s.actions (dispatchedAction runId) (unknownAction now reason) (fun _ => rfl) k

theorem find?_closeActions (s : Store) (k : String) : (s.closeActions runId now reason).actions.find? k =
    (s.actions.find? k).map (fun a => if undispatchedAction runId a then notExecutedAction now reason a else a) :=
  Table.find?_updateWhere s.actions (undispatchedAction runId) (notExecutedAction now reason) (fun _ => rfl) k

theorem find?_closed_actions (s : Store) (k : String) : (s.closeAbortiveRunEffects runId now reason).1.actions.find? k =
    (s.actions.find? k).map (closedAction runId now reason) := by
  refine (find?_closeActions ((s.markActionsUnknown runId now reason).loseAttempts runId now reason) k).trans ?_
  show ((s.markActionsUnknown runId now reason).actions.find? k).map _ = _
  rw [find?_markActionsUnknown, Option.map_map]
  rfl

theorem closedAction_agentRunId (a : ActionExecution) : (closedAction runId now reason a).agentRunId = a.agentRunId := by
  simp only [closedAction]
  split <;> split <;> rfl

variable {a : ActionExecution}

theorem closedAction_of_closed (h : a.agentRunId = runId → a.isOpen = false) :
    closedAction runId now reason a = a := by
  have hdispatched : dispatchedAction runId a = false := by
    unfold dispatchedAction
    by_cases hrun : a.agentRunId = runId
    · have := h hrun
      simp [ActionExecution.isOpen] at this
      simp [this]
    · simp [hrun]
  have hundispatched : undispatchedAction runId a = false := by
    unfold undispatchedAction
    by_cases hrun : a.agentRunId = runId
    · have := h hrun
      simp [ActionExecution.isOpen] at this
      simp [this]
    · simp [hrun]
  simp [closedAction, hdispatched, hundispatched]

/-- **An open effect ends by its evidence**, when the evidence is only there for what executes. -/
theorem closedAction_status (hrun : a.agentRunId = runId) (hopen : a.isOpen = true)
    (hprepared : a.status = .prepared → a.dispatchMayHaveStartedAt = none) :
    (closedAction runId now reason a).status = if a.dispatchMayHaveStartedAt.isSome then .unknown else .notExecuted := by
  simp only [ActionExecution.isOpen, Bool.or_eq_true, beq_iff_eq] at hopen
  rcases hopen with hstatus | hstatus
  · simp [closedAction, dispatchedAction, undispatchedAction, notExecutedAction, hstatus, hrun, hprepared hstatus]
  cases hmark : a.dispatchMayHaveStartedAt with
  | none => simp [closedAction, dispatchedAction, undispatchedAction, notExecutedAction, hstatus, hrun, hmark]
  | some at_ => simp [closedAction, dispatchedAction, undispatchedAction, unknownAction, hstatus, hrun, hmark]

theorem closedAction_not_open (hrun : a.agentRunId = runId) :
    (closedAction runId now reason a).isOpen = false := by
  by_cases hopen : a.isOpen = true
  · simp only [ActionExecution.isOpen, Bool.or_eq_true, beq_iff_eq] at hopen
    rcases hopen with hstatus | hstatus
    · simp [closedAction, dispatchedAction, undispatchedAction, notExecutedAction, ActionExecution.isOpen, hstatus, hrun]
    cases hmark : a.dispatchMayHaveStartedAt with
    | none =>
      simp [closedAction, dispatchedAction, undispatchedAction, notExecutedAction, ActionExecution.isOpen, hstatus, hrun, hmark]
    | some at_ =>
      simp [closedAction, dispatchedAction, undispatchedAction, unknownAction, ActionExecution.isOpen, hstatus, hrun, hmark]
  · rw [closedAction_of_closed fun _ => by simpa using hopen]
    simpa using hopen

theorem pendingApproval_eq (s : Store) (runId : String) (p : Approval) : s.pendingApproval runId p =
    (p.status == .pending && p.actionId.any (fun actionId => (s.actions.find? actionId).any (·.agentRunId == runId))) := by
  unfold pendingApproval
  congr 2
  funext actionId
  exact Table.any_key fun a => by simp

variable (now reason) in
theorem pendingApproval_closed (p : Approval) :
    (s.closeAbortiveRunEffects runId now reason).1.pendingApproval runId p = s.pendingApproval runId p := by
  rw [pendingApproval_eq, pendingApproval_eq]
  congr 2
  funext actionId
  rw [find?_closed_actions, Option.any_map]
  congr 1
  funext a
  simp [closedAction_agentRunId]

theorem find?_closed_approvals (s : Store) (k : String) : (s.closeAbortiveRunEffects runId now reason).1.approvals.find? k =
    (s.approvals.find? k).map (fun p => if s.pendingApproval runId p then cancelledApproval now reason p else p) := by
  refine (Table.find?_updateWhere s.approvals _ (cancelledApproval now reason) (fun _ => rfl) k).trans ?_
  congr 1
  funext p
  show (if (s.closeAbortiveRunEffects runId now reason).1.pendingApproval runId p = true then _ else _) = _
  rw [pendingApproval_closed]

theorem find?_closed_checkpoints (s : Store) (k : String) :
    (s.closeAbortiveRunEffects runId now reason).1.checkpoints.find? k =
      (s.checkpoints.find? k).map (fun d => if openCheckpoint runId d then closedCheckpoint now reason d else d) :=
  Table.find?_updateWhere s.checkpoints (openCheckpoint runId) (closedCheckpoint now reason) (fun _ => rfl) k

theorem find?_closed_inputs (s : Store) (k : String) : (s.closeAbortiveRunEffects runId now reason).1.inputs.find? k =
    (s.inputs.find? k).map (fun i => if preparedInput runId i then closedInput now reason i else i) :=
  Table.find?_updateWhere s.inputs (preparedInput runId) (closedInput now reason) (fun _ => rfl) k

theorem closedInput_status (i : RuntimeInputDelivery) : (closedInput now reason i).status =
    if i.dispatchStartedAt.isSome then .deliveryUnknown else .notAccepted := by
  unfold closedInput
  cases i.dispatchStartedAt <;> rfl

/-! ## Deliveries -/

structure Frame (s s' : Store) : Prop where
  runs : s'.runs = s.runs
  turns : s'.turns = s.turns
  actions : s'.actions = s.actions
  attempts : s'.attempts = s.attempts
  approvals : s'.approvals = s.approvals
  checkpoints : s'.checkpoints = s.checkpoints

def settledInputs (s : Store) (runId now : String) : Table RuntimeInputDelivery.id :=
  ((s.refuseUnsentSteer runId now).loseSentSteer runId now).inputs

variable (s runId now) in
theorem settleMaterializedDelivery_ok {status : RunStatus} (hstatus : status.terminal = true) (errorCode : Option String)
    (actor : ActorRef) (executionEpoch : Int) : ∃ s', s.settleMaterializedDelivery runId now status errorCode actor executionEpoch =
      .ok s' ∧ Frame s s' ∧ s'.inputs = s.inputs ∧ s'.manifests = s.manifests := by
  unfold settleMaterializedDelivery
  cases hd : s.messageDeliveries.rows.find? (materializedDelivery runId) with
  | none => exact ⟨s, rfl, ⟨rfl, rfl, rfl, rfl, rfl, rfl⟩, rfl, rfl⟩
  | some d =>
    have hrow := Table.find?_of_mem (List.mem_of_find?_eq_some hd)
    have hone : s.messageDeliveries.rows.countP (chosenDelivery runId d) = 1 := by
      refine Table.countP_eq_one hrow ?_ fun {k' r'} hr' hchosen => ?_
      · simp [chosenDelivery, List.find?_some hd]
      simp only [chosenDelivery, Bool.and_eq_true, beq_iff_eq] at hchosen
      have hkey := Table.find?_key hr'
      rw [hchosen.1, hrow] at hkey
      exact (Option.some.inj hkey).symm
    obtain ⟨⟨deliveryStatus, failureCode, manual⟩, hsemantics⟩ : ∃ x, deliveryTerminalSemantics status none = .ok x := by
      cases status with
      | queued | running | waiting => cases hstatus
      | succeeded | failed | cancelled => exact ⟨_, rfl⟩
    simp only [hsemantics, bind, Except.bind, if_pos hone]
    exact ⟨_, rfl, ⟨rfl, rfl, rfl, rfl, rfl, rfl⟩, rfl, rfl⟩

variable (s runId now) in
theorem settleExecution_spec (status : RunStatus) : Frame s (s.settleExecution runId now status) ∧
    (s.settleExecution runId now status).inputs = s.settledInputs runId now := by
  unfold settleExecution
  dsimp only
  by_cases hsucceeded : status = .succeeded
  · rw [if_pos hsucceeded]
    exact ⟨⟨rfl, rfl, rfl, rfl, rfl, rfl⟩, rfl⟩
  · rw [if_neg hsucceeded]
    exact ⟨⟨rfl, rfl, rfl, rfl, rfl, rfl⟩, rfl⟩

variable (s runId now) in
theorem settleRunDeliveries_spec {status : RunStatus} (hstatus : status.terminal = true) (failureCode : Option String) :
    Frame s (s.settleRunDeliveries runId now status failureCode) ∧
      (s.settleRunDeliveries runId now status failureCode).inputs = s.settledInputs runId now := by
  obtain ⟨hframe, hinputs⟩ := settleExecution_spec s runId now status
  obtain ⟨deliveryStatus, hdelivery⟩ : ∃ x, campDeliveryStatus status = some x := by
    cases status with
    | queued | running | waiting => cases hstatus
    | succeeded | failed | cancelled => exact ⟨_, rfl⟩
  unfold settleRunDeliveries
  rw [hdelivery]
  exact ⟨⟨hframe.runs, hframe.turns, hframe.actions, hframe.attempts, hframe.approvals, hframe.checkpoints⟩, hinputs⟩

theorem Frame.trans {s₁ s₂ s₃ : Store} (h : Frame s₁ s₂) (h' : Frame s₂ s₃) : Frame s₁ s₃ :=
  ⟨h'.runs.trans h.runs, h'.turns.trans h.turns, h'.actions.trans h.actions, h'.attempts.trans h.attempts,
    h'.approvals.trans h.approvals, h'.checkpoints.trans h.checkpoints⟩

variable (s runId now) in
/-- **The deliveries of a Run that has ended are settled**, and only the steer inputs of a Run without a ThreadTurn with
them. -/
theorem settleDeliveries_spec {status : RunStatus} (hstatus : status.terminal = true) (campTurnId errorCode : Option String)
    (actor : ActorRef) (executionEpoch : Int) :
    ∃ s', s.settleDeliveries runId now campTurnId status errorCode actor executionEpoch = .ok s' ∧ Frame s s' ∧
      s'.inputs = if campTurnId = none then s.settledInputs runId now else s.inputs := by
  obtain ⟨settled, hsettled, hframe, hinputs, hmanifests⟩ := settleMaterializedDelivery_ok s runId now hstatus errorCode actor executionEpoch
  unfold settleDeliveries
  rw [hsettled]
  refine ⟨_, rfl, ?_⟩
  by_cases hturn : campTurnId = none
  · rw [if_pos hturn, if_pos hturn]
    obtain ⟨hframe', hinputs'⟩ := settleRunDeliveries_spec settled runId now hstatus errorCode
    refine ⟨hframe.trans hframe', hinputs'.trans ?_⟩
    unfold settledInputs refuseUnsentSteer loseSentSteer
    rw [hinputs]
  · rw [if_neg hturn, if_neg hturn]
    exact ⟨hframe, hinputs⟩

def preparedSteer (runId : String) (i : RuntimeInputDelivery) : Bool :=
  i.agentRunId == runId && i.inputKind == .steer && i.status == .prepared

theorem settledInputs_eq (h : ∀ i ∈ s.inputs.rows, preparedSteer runId i = false) : s.settledInputs runId now = s.inputs := by
  have hsteer : ∀ i ∈ s.inputs.rows, ∀ b : Bool, (preparedSteer runId i && b) = false := fun i hi b => by simp [h i hi]
  have hrefused : (s.refuseUnsentSteer runId now).inputs = s.inputs :=
    Table.updateWhere_eq_self (f := refusedInput now) (fun _ => rfl) fun i hi => hsteer i hi _
  unfold settledInputs loseSentSteer
  rw [hrefused]
  exact Table.updateWhere_eq_self (f := lostInput now) (fun _ => rfl) fun i hi => hsteer i hi _

def settledInput (runId now : String) (i : RuntimeInputDelivery) : RuntimeInputDelivery :=
  let refused := if preparedSteer runId i && i.dispatchStartedAt.isNone then refusedInput now i else i
  if preparedSteer runId refused && refused.dispatchStartedAt.isSome then lostInput now refused else refused

theorem find?_settledInputs (s : Store) (k : String) :
    (s.settledInputs runId now).find? k = (s.inputs.find? k).map (settledInput runId now) := by
  refine (Table.find?_updateWhere (s.refuseUnsentSteer runId now).inputs _ (lostInput now) (fun _ => rfl) k).trans ?_
  have hrefused : (s.refuseUnsentSteer runId now).inputs.find? k = (s.inputs.find? k).map
      (fun i => if preparedSteer runId i && i.dispatchStartedAt.isNone then refusedInput now i else i) :=
    Table.find?_updateWhere s.inputs _ (refusedInput now) (fun _ => rfl) k
  rw [hrefused, Option.map_map]
  rfl

variable (runId now) in
theorem settledInput_cases (i : RuntimeInputDelivery) : settledInput runId now i = i ∧ preparedSteer runId i = false ∨
    preparedSteer runId i = true ∧
      (settledInput runId now i).status = if i.dispatchStartedAt.isSome then .deliveryUnknown else .notAccepted := by
  by_cases h : preparedSteer runId i = true
  · refine .inr ⟨h, ?_⟩
    cases hsent : i.dispatchStartedAt with
    | none =>
      have hrefused : preparedSteer runId (refusedInput now i) = false := by simp [preparedSteer, refusedInput]
      simp only [settledInput, h, hsent, hrefused, Option.isNone_none, Bool.and_self, if_true, Bool.false_and,
        Bool.false_eq_true, if_false]
      rfl
    | some at_ => simp [settledInput, h, hsent, lostInput]
  · have hfalse : preparedSteer runId i = false := by simpa using h
    exact .inl ⟨by simp [settledInput, hfalse], hfalse⟩

theorem settledInputs_row {i : RuntimeInputDelivery} (h : (s.settledInputs runId now).find? k = some i) :
    preparedSteer runId i = false := by
  rw [find?_settledInputs] at h
  obtain ⟨i₀, -, rfl⟩ := Option.map_eq_some_iff.1 h
  rcases settledInput_cases runId now i₀ with ⟨heq, hnot⟩ | ⟨-, hstatus⟩
  · rw [heq]
    exact hnot
  · unfold preparedSteer
    rw [hstatus]
    split <;> simp

/-! ## The settlement -/

variable (now) in
theorem settleInterruptedRun_terminal {run : AgentRun} {campId : String} (hrun : s.runs.find? runId = some run)
    (hcamp : s.campOf run = some campId) (hterminal : run.status.terminal = true) (reasonCode : String) (actor : ActorRef)
    (runtimeLost : Bool) : ∃ s' r, s.settleInterruptedRun runId reasonCode actor now runtimeLost = .ok (s', r) ∧
      Frame s s' ∧ s'.inputs = (if run.campTurnId = none then s.settledInputs runId now else s.inputs) ∧
      r.terminalStatus = run.status ∧ r.terminalCode = "agent_run.already_terminal" ∧
      r.runtimeCleanupRequired = (run.cancelRequestedAt.isSome && run.cancelAcknowledgedAt.isNone) := by
  obtain ⟨settled, hsettled, hframe, hinputs⟩ := settleDeliveries_spec s runId now hterminal
    run.campTurnId run.lastErrorCode actor run.executionEpoch
  unfold settleInterruptedRun
  rw [hrun]
  simp only [orError, bind, Except.bind, hcamp, hterminal, if_true, hsettled]
  exact ⟨settled, _, rfl, hframe, hinputs, rfl, rfl, rfl⟩

variable (now) in
theorem settleInterruptedRun_open {run : AgentRun} {campId : String} (hrun : s.runs.find? runId = some run)
    (hcamp : s.campOf run = some campId) (hopen : run.status.terminal = false) (reasonCode : String) (actor : ActorRef)
    (runtimeLost : Bool) : ∃ s' r cut, s.settleInterruptedRun runId reasonCode actor now runtimeLost = .ok (s', r) ∧
      cut = s.cutOff run campId (interruptedLost run runtimeLost) (run.cancelReasonCode.getD reasonCode) actor now ∧
      Frame cut s' ∧ s'.inputs = (if run.campTurnId = none then cut.settledInputs runId now else cut.inputs) ∧
      r.terminalStatus = (if interruptedLost run runtimeLost then .failed else .cancelled) ∧
      r.runtimeCleanupRequired = s.cleanupNeeded run := by
  have hterminal : (if interruptedLost run runtimeLost then RunStatus.failed else .cancelled).terminal = true := by
    split <;> rfl
  obtain ⟨settled, hsettled, hframe, hinputs⟩ := settleDeliveries_spec
    (s.cutOff run campId (interruptedLost run runtimeLost) (run.cancelReasonCode.getD reasonCode) actor now) runId now hterminal
    run.campTurnId (some (run.cancelReasonCode.getD reasonCode)) actor
    run.executionEpoch
  unfold settleInterruptedRun
  rw [hrun]
  simp only [orError, bind, Except.bind, hcamp, hopen, Bool.false_eq_true, if_false, hsettled]
  exact ⟨settled, _, _, rfl, rfl, hframe, hinputs, rfl, rfl⟩

/-! ## What is left -/

structure Closed (s : Store) (runId : String) : Prop where
  run : ∃ run, s.runs.find? runId = some run ∧ run.status.terminal = true
  approvals : ∀ k p, s.approvals.find? k = some p → s.pendingApproval runId p = false
  actions : ∀ k a, s.actions.find? k = some a → a.agentRunId = runId → a.isOpen = false
  checkpoints : ∀ k d, s.checkpoints.find? k = some d → d.agentRunId = runId → d.status.unsettled = false
  inputs : ∀ k i, s.inputs.find? k = some i → i.agentRunId = runId → i.status ≠ .prepared

structure Accounted (s s' : Store) (runId : String) : Prop where
  actions : ∀ k a, s.actions.find? k = some a → a.agentRunId = runId → ∃ a', s'.actions.find? k = some a' ∧
    (a.isOpen = true → a'.status = if a.dispatchMayHaveStartedAt.isSome then .unknown else .notExecuted) ∧
    (a.isOpen = false → a' = a)
  inputs : ∀ k i, s.inputs.find? k = some i → i.agentRunId = runId → ∃ i', s'.inputs.find? k = some i' ∧
    (i.status = .prepared → i'.status = if i.dispatchStartedAt.isSome then .deliveryUnknown else .notAccepted) ∧
    (i.status ≠ .prepared → i' = i)

def PreparedUndispatched (s : Store) (runId : String) : Prop :=
  ∀ k a, s.actions.find? k = some a → a.agentRunId = runId → a.status = .prepared → a.dispatchMayHaveStartedAt = none

def PossibleEffect (s : Store) (runId : String) : Prop :=
  (∃ k a, s.actions.find? k = some a ∧ a.agentRunId = runId ∧ a.isOpen = true ∧ a.dispatchMayHaveStartedAt.isSome = true) ∨
    ∃ k i, s.inputs.find? k = some i ∧ i.agentRunId = runId ∧ i.status = .prepared ∧ i.dispatchStartedAt.isSome = true

structure Unchanged (s s' : Store) : Prop where
  runs : s'.runs = s.runs
  actions : s'.actions = s.actions
  attempts : s'.attempts = s.attempts
  approvals : s'.approvals = s.approvals
  checkpoints : s'.checkpoints = s.checkpoints
  inputs : s'.inputs = s.inputs

theorem closed_inputs_row (s : Store) {k : String} {i : RuntimeInputDelivery}
    (h : (s.closeAbortiveRunEffects runId now reason).1.inputs.find? k = some i) : preparedInput runId i = false := by
  rw [find?_closed_inputs] at h
  obtain ⟨i₀, -, rfl⟩ := Option.map_eq_some_iff.1 h
  by_cases hprepared : preparedInput runId i₀ = true
  · rw [if_pos hprepared]
    unfold preparedInput
    rw [closedInput_status]
    split <;> simp
  · rw [if_neg hprepared]
    simpa using hprepared

theorem settledInputs_cutOff {cut : Store} (hcut : cut.inputs = (s.closeAbortiveRunEffects runId now reason).1.inputs) :
    cut.settledInputs runId now = cut.inputs :=
  settledInputs_eq fun _ hi => by
    have hclosed := closed_inputs_row s (hcut ▸ Table.find?_of_mem hi)
    unfold preparedInput at hclosed
    unfold preparedSteer
    rw [Bool.and_right_comm, hclosed]
    rfl

theorem endRun_run {run : AgentRun} (hrun : s.runs.find? runId = some run) (hopen : run.status.terminal = false) (lost : Bool)
    (reasonCode : String) (cleanup : Bool) : (s.endRun runId lost reasonCode now cleanup).runs.find? runId =
      some (endedRun lost reasonCode now cleanup run) := by
  refine (Table.find?_updateWhere s.runs _ (endedRun lost reasonCode now cleanup) (fun _ => rfl) runId).trans ?_
  rw [hrun]
  simp [Table.key_of_find? hrun, hopen]

theorem open_rows {run : AgentRun} {campId reasonCode : String} {lost : Bool} {actor : ActorRef} {cut : Store}
    (hcut : cut = s.cutOff run campId lost reasonCode actor now) (hframe : Frame cut s')
    (hinputs : s'.inputs = cut.inputs) : ∃ reason, s'.runs = (s.endRun run.id lost reasonCode now (s.cleanupNeeded run)).runs ∧
      s'.actions = (s.closeAbortiveRunEffects run.id now reason).1.actions ∧
      s'.approvals = (s.closeAbortiveRunEffects run.id now reason).1.approvals ∧
      s'.checkpoints = (s.closeAbortiveRunEffects run.id now reason).1.checkpoints ∧
      s'.inputs = (s.closeAbortiveRunEffects run.id now reason).1.inputs := by
  subst hcut
  exact ⟨closingReason lost, hframe.runs, hframe.actions, hframe.approvals, hframe.checkpoints, hinputs⟩

theorem open_closed {run : AgentRun} {lost : Bool} {reasonCode : String} {cleanup : Bool} (hrun : s.runs.find? runId = some run)
    (hopen : run.status.terminal = false) (hruns : s'.runs = (s.endRun runId lost reasonCode now cleanup).runs)
    (hactions : s'.actions = (s.closeAbortiveRunEffects runId now reason).1.actions)
    (happrovals : s'.approvals = (s.closeAbortiveRunEffects runId now reason).1.approvals)
    (hcheckpoints : s'.checkpoints = (s.closeAbortiveRunEffects runId now reason).1.checkpoints)
    (hinputs : s'.inputs = (s.closeAbortiveRunEffects runId now reason).1.inputs) : Closed s' runId where
  run := ⟨_, by rw [hruns]; exact endRun_run hrun hopen .., by cases lost <;> rfl⟩
  approvals k p hp := by
    rw [happrovals, find?_closed_approvals] at hp
    obtain ⟨p₀, -, rfl⟩ := Option.map_eq_some_iff.1 hp
    have hsame : s'.pendingApproval runId = s.pendingApproval runId := by
      funext p
      refine Eq.trans ?_ (pendingApproval_closed now reason p)
      rw [pendingApproval_eq, pendingApproval_eq, hactions]
    rw [hsame]
    by_cases hpending : s.pendingApproval runId p₀ = true
    · rw [if_pos hpending, pendingApproval_eq]
      rfl
    · rw [if_neg hpending]
      simpa using hpending
  actions k a ha hrunId := by
    rw [hactions, find?_closed_actions] at ha
    obtain ⟨a₀, -, rfl⟩ := Option.map_eq_some_iff.1 ha
    exact closedAction_not_open (closedAction_agentRunId a₀ ▸ hrunId)
  checkpoints k d hd hrunId := by
    rw [hcheckpoints, find?_closed_checkpoints] at hd
    obtain ⟨d₀, -, rfl⟩ := Option.map_eq_some_iff.1 hd
    by_cases hunsettled : openCheckpoint runId d₀ = true
    · rw [if_pos hunsettled]
      rfl
    · rw [if_neg hunsettled] at hrunId ⊢
      simpa [openCheckpoint, hrunId] using hunsettled
  inputs k i hi hrunId hstatus := by
    rw [hinputs] at hi
    have := closed_inputs_row s hi
    simp [preparedInput, hrunId, hstatus] at this

theorem open_accounted (hprepared : PreparedUndispatched s runId)
    (hactions : s'.actions = (s.closeAbortiveRunEffects runId now reason).1.actions)
    (hinputs : s'.inputs = (s.closeAbortiveRunEffects runId now reason).1.inputs) : Accounted s s' runId where
  actions k a ha hrunId := by
    refine ⟨closedAction runId now reason a, by rw [hactions, find?_closed_actions, ha]; rfl, fun hopen => ?_, fun hclosed => ?_⟩
    · exact closedAction_status hrunId hopen (hprepared k a ha hrunId)
    · exact closedAction_of_closed fun _ => hclosed
  inputs k i hi hrunId := by
    refine ⟨if preparedInput runId i then closedInput now reason i else i, by rw [hinputs, find?_closed_inputs, hi]; rfl,
      fun hstatus => ?_, fun hstatus => ?_⟩
    · rw [if_pos (by simp [preparedInput, hrunId, hstatus])]
      exact closedInput_status i
    · exact if_neg (by simp [preparedInput, hrunId, hstatus])

theorem cleanup_of_effect {run : AgentRun} (hprepared : PreparedUndispatched s run.id)
    (h : run.status ≠ .queued ∨ PossibleEffect s run.id) : s.cleanupNeeded run = true := by
  unfold cleanupNeeded
  rw [Bool.or_eq_true, decide_eq_true_iff]
  refine h.imp id fun heffect => ?_
  unfold effectEvidence
  rw [Bool.or_eq_true, Bool.or_eq_true]
  rcases heffect with ⟨k, a, ha, hrun, hopen, hmark⟩ | ⟨k, i, hi, hrun, hstatus, hsent⟩
  · refine .inl (.inr (Table.any_iff.2 ⟨k, a, ha, ?_⟩))
    have hexecuting : a.status = .executing := by
      simp only [ActionExecution.isOpen, Bool.or_eq_true, beq_iff_eq] at hopen
      refine hopen.resolve_left fun hp => ?_
      rw [hprepared k a ha hrun hp] at hmark
      cases hmark
    simp [hrun, hexecuting, hmark]
  · exact .inl (.inl (Table.any_iff.2 ⟨k, i, hi, by simp [hrun, hstatus, hsent]⟩))

theorem settle_again {run : AgentRun} {campId : String} (hrun : s.runs.find? runId = some run)
    (hcamp : s.campOf run = some campId) (hterminal : run.status.terminal = true)
    (hinputs : run.campTurnId = none → ∀ i ∈ s.inputs.rows, preparedSteer runId i = false) (reasonCode : String)
    (actor : ActorRef) (now : String) (runtimeLost : Bool) :
    ∃ s' r, s.settleInterruptedRun runId reasonCode actor now runtimeLost = .ok (s', r) ∧ Unchanged s s' ∧
      r.terminalStatus = run.status := by
  obtain ⟨s', r, hsettled, hframe, hin, hstatus, -, -⟩ := settleInterruptedRun_terminal now hrun hcamp hterminal reasonCode
    actor runtimeLost
  refine ⟨s', r, hsettled, ⟨hframe.runs, hframe.actions, hframe.attempts, hframe.approvals, hframe.checkpoints, ?_⟩, hstatus⟩
  rw [hin]
  split
  · exact settledInputs_eq (hinputs ‹_›)
  · rfl

/-- **The settlement of an interrupted Run.**  It ends the Run; of a Run that had not ended it closes everything, and every
effect ends by its evidence; a Run that had ended is left; and a second settlement changes nothing. -/
theorem interrupted_settlement {run : AgentRun} {campId : String} (hrun : s.runs.find? runId = some run)
    (hcamp : s.campOf run = some campId) (reasonCode : String) (actor : ActorRef) (now : String) (runtimeLost : Bool) :
    ∃ s' r, s.settleInterruptedRun runId reasonCode actor now runtimeLost = .ok (s', r) ∧
      (∃ run', s'.runs.find? runId = some run' ∧ run'.status.terminal = true ∧ r.terminalStatus = run'.status) ∧
      (run.status.terminal = false → Closed s' runId ∧ (PreparedUndispatched s runId → Accounted s s' runId ∧
        (run.status ≠ .queued ∨ PossibleEffect s runId → r.runtimeCleanupRequired = true))) ∧
      (run.status.terminal = true → s'.runs = s.runs ∧ s'.actions = s.actions ∧ s'.approvals = s.approvals ∧
        s'.checkpoints = s.checkpoints ∧ (∀ k i, s.inputs.find? k = some i → ∃ i', s'.inputs.find? k = some i' ∧
          (i' = i ∨ preparedSteer runId i = true ∧
            i'.status = if i.dispatchStartedAt.isSome then .deliveryUnknown else .notAccepted)) ∧
        r.runtimeCleanupRequired = (run.cancelRequestedAt.isSome && run.cancelAcknowledgedAt.isNone)) ∧
      ∀ reasonCode' actor' now' runtimeLost', ∃ s'' r'',
        s'.settleInterruptedRun runId reasonCode' actor' now' runtimeLost' = .ok (s'', r'') ∧ Unchanged s' s'' ∧
          r''.terminalStatus = r.terminalStatus := by
  cases hstatus : run.status.terminal with
  | true =>
    obtain ⟨s', r, hsettled, hframe, hin, hresult, -, hcleanup⟩ := settleInterruptedRun_terminal now hrun hcamp hstatus
      reasonCode actor runtimeLost
    have hrun' : s'.runs.find? runId = some run := hframe.runs ▸ hrun
    have hcamp' : s'.campOf run = some campId := by
      unfold campOf
      rw [hframe.turns]
      exact hcamp
    refine ⟨s', r, hsettled, ⟨run, hrun', hstatus, hresult⟩, by simp, fun _ =>
      ⟨hframe.runs, hframe.actions, hframe.approvals, hframe.checkpoints, fun k i hi => ?_, hcleanup⟩, fun _ _ _ _ => ?_⟩
    · rw [hin]
      split
      · refine ⟨settledInput runId now i, by rw [find?_settledInputs, hi]; rfl, ?_⟩
        exact (settledInput_cases runId now i).imp And.left id
      · exact ⟨i, hi, .inl rfl⟩
    · rw [hresult]
      refine settle_again hrun' hcamp' hstatus (fun hturn i hi => ?_) ..
      rw [hin, if_pos hturn] at hi
      exact settledInputs_row (Table.find?_of_mem hi)
  | false =>
    obtain ⟨s', r, cut, hsettled, hcut, hframe, hin, hresult, hcleanup⟩ := settleInterruptedRun_open now hrun hcamp hstatus
      reasonCode actor runtimeLost
    have hid : run.id = runId := Table.key_of_find? hrun
    have hcutInputs : cut.inputs = (s.closeAbortiveRunEffects run.id now (closingReason (interruptedLost run runtimeLost))).1.inputs := by
      rw [hcut]
      rfl
    have hinputs : s'.inputs = cut.inputs := by
      rw [hin]
      split
      · exact settledInputs_cutOff (hid ▸ hcutInputs)
      · rfl
    obtain ⟨reason, hruns, hactions, happrovals, hcheckpoints, hclosedInputs⟩ := open_rows hcut hframe hinputs
    rw [hid] at hruns hactions happrovals hcheckpoints hclosedInputs
    have hclosed := open_closed hrun hstatus hruns hactions happrovals hcheckpoints hclosedInputs
    obtain ⟨run', hrun', hterminal'⟩ := hclosed.run
    have hended : run' = _ := Option.mem_unique hrun' (by rw [hruns]; exact endRun_run hrun hstatus ..)
    have hresult' : r.terminalStatus = run'.status := by rw [hresult, hended]; rfl
    have hcamp' : s'.campOf run' = some campId := by
      rw [hended]
      unfold campOf
      rw [hframe.turns, hcut]
      exact hcamp
    refine ⟨s', r, hsettled, ⟨run', hrun', hterminal', hresult'⟩, fun _ => ⟨hclosed, fun hprepared =>
      ⟨open_accounted hprepared hactions hclosedInputs, fun heffect => ?_⟩⟩, by simp, fun _ _ _ _ => ?_⟩
    · rw [hcleanup]
      exact cleanup_of_effect (hid ▸ hprepared) (hid ▸ heffect)
    · rw [hresult']
      refine settle_again hrun' hcamp' hterminal' (fun _ i hi => ?_) ..
      have hnot := closed_inputs_row s (hclosedInputs ▸ Table.find?_of_mem hi)
      unfold preparedInput at hnot
      unfold preparedSteer
      rw [Bool.and_right_comm, hnot]
      rfl

end

/-! ## Inputs -/

def exampleRun (status : RunStatus) : AgentRun where
  id := "run"
  campId := some "camp"
  campTurnId := none
  conversationId := "conversation"
  executionEpoch := 1
  status := status
  waitReason := none
  waitDeadlineAt := none
  runtimeRecoveryRequired := false
  executionLeaseOwner := none
  executionLeaseExpiresAt := none
  cancelRequestedAt := none
  cancelReasonCode := none
  cancelAcknowledgedAt := none
  lastErrorCode := none
  lastErrorDetailsRef := none
  manualRetryAllowed := false
  terminalResolutionSource := none
  terminalReasonCode := none
  publicRuntimeFailure := none
  endedAt := none
  updatedAt := "09:00"
  version := 3

def exampleAction (status : ActionStatus) : ActionExecution where
  id := "action"
  agentRunId := "run"
  status := status
  notExecutedReason := none
  unknownDisposition := none
  effectDisposition := none
  resolutionSource := none
  executionLeaseOwner := none
  executionLeaseExpiresAt := none
  dispatchMayHaveStartedAt := some "09:00"
  lastErrorCode := none
  nextReconcileAt := none
  endedAt := none
  updatedAt := "09:00"
  version := 2

def exampleStore (run : RunStatus) (action : ActionStatus) : Store where
  runs := ⟨[exampleRun run], by simp⟩
  turns := .empty
  actions := ⟨[exampleAction action], by simp⟩
  attempts := .empty
  approvals := .empty
  checkpoints := .empty
  inputs := .empty
  manifests := .empty
  campDeliveries := .empty
  messageDeliveries := .empty
  inputChanges := []
  events := []

def exampleOutcome (run : RunStatus) (action : ActionStatus) : Option (Option ActionStatus × Bool) :=
  ((exampleStore run action).settleInterruptedRun "run" "user_cancelled" (.user "local-user") "09:05" false).toOption.map
    fun x => ((x.1.actions.find? "action").map ActionExecution.status, x.2.runtimeCleanupRequired)

theorem interrupted_settlement_running : ∃ s' r, (exampleStore .running .executing).settleInterruptedRun "run" "user_cancelled"
    (.user "local-user") "09:05" false = .ok (s', r) ∧ Closed s' "run" := by
  obtain ⟨s', r, h, -, hclosed, -⟩ := @interrupted_settlement (exampleStore .running .executing) "run" (exampleRun .running)
    "camp" rfl rfl "user_cancelled" (.user "local-user") "09:05" false
  exact ⟨s', r, h, (hclosed rfl).1⟩

/-- A Run that has succeeded beside a tool in the background keeps its action executing, and no cleanup is asked for; and a
prepared action is not executed even where its dispatch is marked. -/
theorem settlement_leaves_ended : exampleOutcome .succeeded .executing = some (some .executing, false) ∧
    exampleOutcome .running .prepared = some (some .notExecuted, true) ∧
    (exampleAction .prepared).dispatchMayHaveStartedAt.isSome = true := by
  decide

end Store

end Rovai.Interrupted
