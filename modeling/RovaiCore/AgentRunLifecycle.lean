import RovaiCore.AgentRunEffects
/-!
# The life of an AgentRun

What a move leaves of the Runs, and from it the lifecycle invariant: the terminal statuses are absorbing, only a claim opens
an epoch, the version tells every change of status, and a conversation has at most one active Run.
-/
namespace Rovai.AgentRuns

open Tables (Table)
open Store

/-! ## What a move leaves of a Run -/

structure RunKept (r r' : AgentRun) : Prop where
  campTurnId : r'.campTurnId = r.campTurnId
  conversationId : r'.conversationId = r.conversationId
  invocationKind : r'.invocationKind = r.invocationKind
  executionEpoch : r'.executionEpoch = r.executionEpoch
  cancelRequested : r.cancelRequested = true → r'.cancelRequested = true
  version : r.version ≤ r'.version
  bumped : r'.status ≠ r.status → r.version < r'.version
  ended : terminal r.status = true → r' = r
  active_before : active r'.status = true → active r.status = true
  started : r.status ≠ .queued → r'.status ≠ .queued

structure NewRun (r : AgentRun) : Prop where
  executionEpoch : r.executionEpoch = 0
  idle : active r.status = false

theorem RunKept.refl (r : AgentRun) : RunKept r r :=
  ⟨rfl, rfl, rfl, rfl, id, Nat.le_refl _, fun h => absurd rfl h, fun _ => rfl, id, id⟩

theorem RunKept.trans {a b c : AgentRun} (h : RunKept a b) (h' : RunKept b c) : RunKept a c where
  campTurnId := h'.campTurnId.trans h.campTurnId
  conversationId := h'.conversationId.trans h.conversationId
  invocationKind := h'.invocationKind.trans h.invocationKind
  executionEpoch := h'.executionEpoch.trans h.executionEpoch
  cancelRequested hc := h'.cancelRequested (h.cancelRequested hc)
  version := h.version.trans h'.version
  bumped hne := by
    by_cases hb : b.status = a.status
    · exact h.version.trans_lt (h'.bumped (hb ▸ hne))
    · exact (h.bumped hb).trans_le h'.version
  ended ht := by
    have hb := h.ended ht
    subst hb
    exact h'.ended ht
  active_before ha := h.active_before (h'.active_before ha)
  started hq := h'.started (h.started hq)

theorem NewRun.kept {a b : AgentRun} (h : NewRun a) (hk : RunKept a b) : NewRun b where
  executionEpoch := hk.executionEpoch.trans h.executionEpoch
  idle := by
    cases hb : active b.status with
    | false => rfl
    | true => exact absurd (hk.active_before hb) (by simp [h.idle])

theorem Continues.kept {r r' : AgentRun} (h : Continues r r') : RunKept r r' where
  campTurnId := h.campTurnId
  conversationId := h.conversationId
  invocationKind := h.invocationKind
  executionEpoch := h.executionEpoch
  cancelRequested := h.cancelRequested.trans
  version := h.version
  bumped := h.bumped
  ended ht := absurd ht (by simp [h.open_before])
  active_before := h.active_before
  started := h.started

theorem idle_of_terminal {status : AgentRunStatus} (h : terminal status = true) : active status = false := by
  cases status <;> simp_all [active, terminal]

theorem Ends.kept {r r' : AgentRun} (h : Ends r r') : RunKept r r' where
  campTurnId := h.campTurnId
  conversationId := h.conversationId
  invocationKind := h.invocationKind
  executionEpoch := h.executionEpoch
  cancelRequested := h.cancelRequested
  version := h.version.le
  bumped _ := h.version
  ended ht := absurd ht (by simp [h.open_before])
  active_before ha := absurd ha (by simp [idle_of_terminal h.ended])
  started _ hq := by simpa [hq, terminal] using h.ended

abbrev RunsKept (s s' : Store) : Prop :=
  Table.Grows RunKept NewRun s.runs s'.runs

abbrev RunsSame (s s' : Store) : Prop :=
  Table.Grows RunKept (fun _ => False) s.runs s'.runs

variable {s s' : Store}

theorem RunsSame.of_eq (h : s'.runs = s.runs) : RunsSame s s' := by
  unfold RunsSame
  rw [h]
  exact .refl RunKept.refl s.runs

theorem RunsKept.of_eq (h : s'.runs = s.runs) : RunsKept s s' :=
  (RunsSame.of_eq h).mono id False.elim

variable {run : AgentRun}

theorem runsSame_update {f : AgentRun → AgentRun} (hf : ∀ r, (f r).id = r.id)
    (hrun : s.runs.find? run.id = some run) (h : RunKept run (f run)) (hs' : s'.runs = s.runs.update run.id f hf) :
    RunsSame s s' := by
  unfold RunsSame
  rw [hs']
  refine .update RunKept.refl s.runs run.id f hf fun r hr => ?_
  rw [hrun] at hr
  cases hr
  exact h

theorem Move.runs (h : Move s s') : RunsSame s s' ∨
    ∃ run, NewRun run ∧ (s.conversations.find? run.conversationId).isSome = true ∧
      (∀ turnId, run.campTurnId = some turnId → (s.turns.find? turnId).isSome = true) ∧
      s'.runs = s.runs.insert run ∧ s'.conversations = s.conversations ∧ s'.turns = s.turns := by
  cases h with
  | queueRun run hconversation hturn =>
    exact .inr ⟨queuedRun run, ⟨rfl, rfl⟩, hconversation, hturn, rfl, rfl, rfl⟩
  | insertBatchRun claim conversationId selected hfresh hconversation =>
    refine .inr ⟨newBatchRun claim conversationId, ⟨rfl, ?_⟩, hconversation, (fun _ h => by cases h), rfl, rfl, rfl⟩
    by_cases herror : claim.errorCode.isSome = true <;> simp [newBatchRun, herror, active]
  | rewriteRuns p f hf h => exact .inl (.updateWhere RunKept.refl s.runs p f hf fun k r hr hp => (h k r hr hp).kept)
  | endRun run f hf closed hrun hclosed h =>
    refine .inl (runsSame_update hf hrun h.kept ?_)
    rw [settleBatchDeliveries_eq]
    obtain rfl | rfl := hclosed <;> rfl
  | endChatRun run f hf hrun hkind h => exact .inl (runsSame_update hf hrun h.kept rfl)
  | settleAgain => exact .inl (.of_eq (by rw [settleBatchDeliveries_eq]))
  | changeTurn turn => exact .inl (.of_eq (by rw [changeTurn_eq]))
  | _ => exact .inl (.of_eq rfl)

theorem Move.runsKept (h : Move s s') : RunsKept s s' := by
  obtain hsame | ⟨run, hnew, -, -, hruns, -, -⟩ := h.runs
  · exact hsame.mono id False.elim
  unfold RunsKept
  rw [hruns]
  exact .insert RunKept.refl s.runs run hnew

theorem Moves.runsKept (h : Moves s s') : RunsKept s s' :=
  h.lift (fun s => .refl RunKept.refl s.runs) (fun h h' => h.trans RunKept.trans NewRun.kept h') Move.runsKept

/-! ## What a transaction leaves of a Run -/

structure Opens (s : Store) (a : Action) (r r' : AgentRun) : Prop where
  claim : ∃ envelope command facts, a = .claimAgentRun envelope command facts ∧ command.agentRunId = r.id ∧
    r.version = command.expectedVersion ∧ s.claimRefusal r facts = none
  claimable : s.Claimable r
  taken : ∃ workspace, r' = claimRun workspace r

theorem open_of_claimableState (h : claimableState run = true) : terminal run.status = false := by
  cases hstatus : run.status <;> simp_all [claimableState, terminal]

theorem runsKept_acknowledgeRedelivery {s acknowledged : Store} {i : RuntimeInputDelivery}
    (h : s.acknowledgeRedelivery i = .ok acknowledged) : acknowledged.runs = s.runs := by
  rw [(acknowledgeRedelivery_congr rfl h).2]

theorem ends_closeUnknownOutcome (h : terminal run.status = false) : Ends run (closeUnknownOutcome run) :=
  ⟨rfl, rfl, rfl, rfl, rfl, id, Nat.lt_succ_self _, h, rfl⟩

/-- **Every transaction keeps every Run**, or is the claim that takes it. -/
theorem step_runs (s : Store) (a : Action) :
    Table.Grows (fun r r' => RunKept r r' ∨ Opens s a r r') NewRun s.runs (s.step a).runs := by
  have hkept : ∀ {s' : Store}, RunsKept s s' →
      Table.Grows (fun r r' => RunKept r r' ∨ Opens s a r r') NewRun s.runs s'.runs := fun h => h.mono .inl id
  have heffect := step_effect s a
  generalize s.step a = s' at heffect ⊢
  cases heffect with
  | moved h => exact hkept h.runsKept
  | requested =>
    exact hkept (.of_eq (by rw [requestRedelivery_eq]))
  | claimed envelope command facts run workspace hrun hversion hrefusal h =>
    refine .update (fun r => .inl (.refl r)) s.runs run.id (claimRun workspace) (fun _ => rfl) fun r hr => ?_
    rw [Table.find?_key hrun] at hr
    cases hr
    exact .inr ⟨⟨envelope, command, facts, rfl, (Table.key_of_find? hrun).symm, hversion, hrefusal⟩, h, workspace, rfl⟩
  | resolved envelope runId campId version effects run hrun hstatus =>
    obtain rfl : run.id = runId := Table.key_of_find? hrun
    refine hkept ((runsSame_update (f := closeUnknownOutcome) (fun _ => rfl) hrun
      (ends_closeUnknownOutcome (by rw [hstatus]; rfl)).kept ?_).mono id False.elim)
    rw [settleBatchDeliveries_eq]
  | preparedAgain => exact hkept (.of_eq rfl)
  | prepared => exact hkept (.of_eq rfl)
  | begun => exact hkept (.of_eq rfl)
  | acknowledged nativeInputId now resume target s' h =>
    obtain ⟨acknowledged, hredelivery, h, -⟩ := h.outcome
    have hreceived : acknowledged.runs = s.runs := by
      split at hredelivery
      · rw [runsKept_acknowledgeRedelivery hredelivery]
        rfl
      · rw [hredelivery]
        rfl
    have hmoves := h.runsKept
    unfold RunsKept at hmoves
    rw [hreceived] at hmoves
    exact hkept hmoves

variable {s : Store} {k : String} {r : AgentRun}

theorem step_run (a : Action) (h : s.runs.find? k = some r) :
    ∃ r', (s.step a).runs.find? k = some r' ∧ (RunKept r r' ∨ Opens s a r r') :=
  (step_runs s a).kept h

/-! ## One active Run -/

def OneActiveRun (s : Store) : Prop :=
  ∀ k k' r r', s.runs.find? k = some r → s.runs.find? k' = some r' → r.conversationId = r'.conversationId →
    active r.status = true → active r'.status = true → k = k'

variable {a : Action}

theorem active_before_step {r' : AgentRun} (h : (s.step a).runs.find? k = some r')
    (hactive : active r'.status = true) :
    ∃ r, s.runs.find? k = some r ∧ r'.conversationId = r.conversationId ∧
      (active r.status = true ∨ Opens s a r r') := by
  obtain ⟨r, hr, hkept | hopens⟩ | ⟨-, hnew⟩ := (step_runs s a).origin h
  · exact ⟨r, hr, hkept.conversationId, .inl (hkept.active_before hactive)⟩
  · obtain ⟨workspace, rfl⟩ := hopens.taken
    exact ⟨r, hr, rfl, .inr hopens⟩
  · simp [hnew.idle] at hactive

theorem alone_of_opens {k k' : String} {r r' other : AgentRun} (h : Opens s a r r')
    (hr : s.runs.find? k = some r) (hother : s.runs.find? k' = some other)
    (hconversation : other.conversationId = r.conversationId) (hactive : active other.status = true) : k' = k := by
  have halone := Table.any_eq_false h.claimable.alone hother
  simp only [hconversation, hactive, beq_self_eq_true, Bool.true_and, Bool.and_true, bne_eq_false_iff_eq] at halone
  rw [← Table.key_of_find? hother, ← Table.key_of_find? hr, halone]

theorem opens_unique {k k' : String} {r r' t t' : AgentRun} (h : Opens s a r r')
    (h' : Opens s a t t') (hr : s.runs.find? k = some r) (ht : s.runs.find? k' = some t) : k = k' := by
  obtain ⟨envelope, command, facts, rfl, hid, -⟩ := h.claim
  obtain ⟨envelope', command', facts', he, hid', -⟩ := h'.claim
  cases he
  rw [← Table.key_of_find? hr, ← Table.key_of_find? ht, ← hid, hid']

theorem oneActiveRun_step (s : Store) (a : Action) (h : OneActiveRun s) : OneActiveRun (s.step a) := by
  intro k k' r r' hr hr' hconversation hactive hactive'
  obtain ⟨t, ht, hct, hcase⟩ := active_before_step hr hactive
  obtain ⟨t', ht', hct', hcase'⟩ := active_before_step hr' hactive'
  have hsame : t.conversationId = t'.conversationId := by rw [← hct, ← hct', hconversation]
  obtain hbefore | hopens := hcase
  · obtain hbefore' | hopens' := hcase'
    · exact h k k' t t' ht ht' hsame hbefore hbefore'
    · exact alone_of_opens hopens' ht' ht hsame hbefore
  · obtain hbefore' | hopens' := hcase'
    · exact (alone_of_opens hopens ht ht' hsame.symm hbefore').symm
    · exact opens_unique hopens hopens' ht ht'

theorem oneActiveRun_run (as : List Action) (h : OneActiveRun s) : OneActiveRun (s.run as) :=
  Runs.run_invariant step oneActiveRun_step as s h

/-! ## Runs that have ended -/

theorem ended_step (a : Action) (h : s.runs.find? k = some r)
    (hended : terminal r.status = true) : (s.step a).runs.find? k = some r := by
  obtain ⟨r', hr', hkept | hopens⟩ := step_run a h
  · rw [hr', hkept.ended hended]
  have hopen := open_of_claimableState hopens.claimable.state
  simp [hopen] at hended

theorem ended_run (as : List Action) (h : s.runs.find? k = some r)
    (hended : terminal r.status = true) : (s.run as).runs.find? k = some r :=
  Runs.run_invariant (P := fun s => s.runs.find? k = some r) step (fun _ a h => ended_step a h hended) as s h

/-! ## The lifecycle -/

def AllQueued (s : Store) : Prop :=
  ∀ k r, s.runs.find? k = some r → r.status = .queued

theorem AllQueued.oneActiveRun (h : AllQueued s) : OneActiveRun s := by
  intro k k' r r' hr hr' hconversation hactive
  simp [h k r hr, active] at hactive

/-- The commands that name the version and the epoch they have seen, with what they answer. -/
inductive FencedAttempt (s : Store) : Handled → Prop
  | markForRecovery (envelope : Envelope) (command : FencedCommand) : FencedAttempt s (s.markForRecovery envelope command)
  | markForNetworkRecovery (envelope : Envelope) (command : FencedCommand) (unsettledEffects now : Nat) :
      FencedAttempt s (s.markForNetworkRecovery envelope command unsettledEffects now)
  | armNetworkRecoveryAttempt (envelope : Envelope) (command : FencedCommand) (attempt : Nat) (facts : ClaimFacts) :
      FencedAttempt s (s.armNetworkRecoveryAttempt envelope command attempt facts)
  | completeNetworkRecovery (envelope : Envelope) (command : FencedCommand) :
      FencedAttempt s (s.completeNetworkRecovery envelope command)
  | succeedAgentRun (envelope : Envelope) (command : FencedCommand) (nativeTurnId : String)
      (terminalReasonCode : Option String) (cleanupRequired finalOutput : Bool) (facts : TerminalFacts) :
      FencedAttempt s
        (s.succeedAgentRun envelope command nativeTurnId terminalReasonCode cleanupRequired finalOutput facts)
  | failAgentRun (envelope : Envelope) (command : FencedCommand) (errorCode : String)
      (terminalResolutionSource : Option String) (cleanupRequired : Bool) (facts : TerminalFacts) :
      FencedAttempt s (s.failAgentRun envelope command errorCode terminalResolutionSource cleanupRequired facts)

theorem FencedAttempt.settles {x : Handled} (h : FencedAttempt s x) : Settles Quiet s x := by
  cases h with
  | markForRecovery => exact markForRecovery_settles _ _
  | markForNetworkRecovery => exact markForNetworkRecovery_settles _ _ _ _
  | armNetworkRecoveryAttempt => exact armNetworkRecoveryAttempt_settles _ _ _ _
  | completeNetworkRecovery => exact completeNetworkRecovery_settles _ _
  | succeedAgentRun => exact succeedAgentRun_settles _ _ _ _ _ _ _
  | failAgentRun => exact failAgentRun_settles _ _ _ _ _ _

theorem claimAgentRun_succeeds {envelope : Envelope} {command : ClaimAgentRun} {facts : ClaimFacts}
    {result : CommandResult} (h : s.claimAgentRun envelope command facts = .ok (result, s'))
    (hresult : result.isRejected = false) :
    ∃ r, s.runs.find? command.agentRunId = some r ∧ terminal r.status = false ∧ r.cancelRequested = false ∧
      r.version = command.expectedVersion := by
  obtain ⟨hrejected, -⟩ | ⟨run, workspace, hrun, hversion, -, hclaimable, -, -⟩ := claimAgentRun_cases h
  · simp [hrejected] at hresult
  · exact ⟨run, hrun, open_of_claimableState hclaimable.state, hclaimable.running, hversion⟩

theorem agentRun_step (a : Action) (h : s.runs.find? k = some r) :
    ∃ r', (s.step a).runs.find? k = some r' ∧
      (r'.executionEpoch ≠ r.executionEpoch → r'.executionEpoch = r.executionEpoch + 1 ∧
        ∃ envelope command facts, a = .claimAgentRun envelope command facts ∧ command.agentRunId = k) ∧
      r.version ≤ r'.version ∧ (r'.status ≠ r.status → r.version < r'.version) := by
  obtain ⟨r', hr', hkept | hopens⟩ := step_run a h
  · exact ⟨r', hr', fun hne => absurd hkept.executionEpoch hne, hkept.version, hkept.bumped⟩
  obtain ⟨envelope, command, facts, ha, hid, -⟩ := hopens.claim
  obtain ⟨workspace, rfl⟩ := hopens.taken
  refine ⟨_, hr', fun _ => ⟨rfl, envelope, command, facts, ha, ?_⟩, Nat.le_succ _, fun _ => Nat.lt_succ_self _⟩
  rw [hid, Table.key_of_find? h]

/-- **The lifecycle of an AgentRun**, after any transactions on Runs that were all queued. -/
theorem agentRun_lifecycle (w : Store) (hqueued : AllQueued w) (as : List Action) :
    (∀ k r, (w.run as).runs.find? k = some r → terminal r.status = true →
      ∀ bs, ∃ r', ((w.run as).run bs).runs.find? k = some r' ∧ r'.status = r.status) ∧
    (∀ k r, (w.run as).runs.find? k = some r → ∀ a, ∃ r', ((w.run as).step a).runs.find? k = some r' ∧
      (r'.executionEpoch ≠ r.executionEpoch → r'.executionEpoch = r.executionEpoch + 1 ∧
        ∃ envelope command facts, a = .claimAgentRun envelope command facts ∧ command.agentRunId = k) ∧
      r.version ≤ r'.version ∧ (r'.status ≠ r.status → r.version < r'.version)) ∧
    OneActiveRun (w.run as) ∧
    (∀ envelope command facts result s', (w.run as).claimAgentRun envelope command facts = .ok (result, s') →
      result.isRejected = false →
      ∃ r, (w.run as).runs.find? command.agentRunId = some r ∧ terminal r.status = false ∧ r.cancelRequested = false ∧
        r.version = command.expectedVersion) ∧
    (∀ x, FencedAttempt (w.run as) x → ∀ result s', x = .ok (result, s') → result.isRejected = true → s' = w.run as) := by
  refine ⟨fun k r hr hended bs => ⟨r, ended_run bs hr hended, rfl⟩, fun k r hr a => agentRun_step a hr,
    oneActiveRun_run as hqueued.oneActiveRun, ?_, ?_⟩
  · intro envelope command facts result s' h hresult
    exact claimAgentRun_succeeds h hresult
  · intro x hx result s' h
    exact (hx.settles.of_ok result s' h).2

def queuedStore : Store :=
  { Store.empty with
    runs := Table.empty.insert {
      id := "run", campId := "camp", campTurnId := none, conversationId := "conversation", invocationKind := .batch
      runtimeAdapterKind := none, inputReady := true, workspace := none, status := .queued, waitReason := none
      runtimeRecoveryRequired := false, runtimeRebindCount := 0, executionEpoch := 0, version := 1, cancelRequested := false
      cancelReasonCode := none, lastErrorCode := none, hasFinalOutput := false, terminalResolutionSource := none
      terminalReasonCode := none, turn_of_batch := batch_turnless }
    conversations := Table.empty.insert (newConversation "camp" ⟨"agent", "delivery", "conversation"⟩) }

theorem allQueued_queuedStore : AllQueued queuedStore := by
  have hrows : ∀ r ∈ queuedStore.runs.rows, r.status = .queued := by decide
  intro k r h
  exact hrows r (Table.mem_of_find? h)

def claimOf (expectedVersion : Nat) : Action :=
  .claimAgentRun ⟨.system "agent-run-scheduler", some "camp"⟩ ⟨"run", expectedVersion, "owner", 60, none⟩
    ⟨true, true, fun _ => true, 0, 0⟩

/-- The Run is claimed once and taken no second time. -/
theorem agentRun_lifecycle_queuedStore :
    ((queuedStore.run [claimOf 1, claimOf 1]).runs.find? "run").map (fun r => (r.executionEpoch, r.status)) =
        some (1, .running) ∧
      OneActiveRun (queuedStore.run [claimOf 1, claimOf 1]) :=
  ⟨by decide, (agentRun_lifecycle queuedStore allQueued_queuedStore [claimOf 1, claimOf 1]).2.2.1⟩

end Rovai.AgentRuns
