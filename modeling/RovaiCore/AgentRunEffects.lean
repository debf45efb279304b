import RovaiCore.NativeBindingSteps
/-!
# What a transaction does

Every transaction of the AgentRun store is a sequence of moves, or one of the six that open an epoch, carry an input or ask for
its contract again: a claim, the resolution of a recovery blocker, a preparation, a dispatch, an acknowledgement and a request for
redelivery.
-/
namespace Rovai.AgentRuns

open Tables (Table)
open Store

/-! ## Transactions -/

structure Store.Claimable (s : Store) (run : AgentRun) : Prop where
  state : Store.claimableState run = true
  running : run.cancelRequested = false
  accepting : s.turnAccepts run = true
  alone : s.otherActiveRun run = false
  unaccepted : run.status = .waiting → s.hasAcceptedRuntimeInput run.id = false
  known : run.status = .waiting → ∀ k i, s.inputs.find? k = some i → i.agentRunId = run.id → i.status ≠ .deliveryUnknown

/-- A first acceptance: the input was pending, and of the current execution the redelivery is acknowledged with it.  What is
left to do moves Runs and deliveries only. -/
structure Store.Acknowledges (s : Store) (target : Store.DeliveryTarget) (nativeInputId : String) (now : Nat) (s' : Store) :
    Prop where
  loaded : s.loadDeliveryTarget target.input.id = some target
  pending : target.input.status = .prepared ∨ target.input.status = .deliveryUnknown
  outcome : ∃ acknowledged, (if s.currentExecution target then
      (s.received target nativeInputId now).acknowledgeRedelivery target.input = .ok acknowledged
    else acknowledged = s.received target nativeInputId now) ∧ Moves acknowledged s' ∧
    s' = { acknowledged with runs := s'.runs, deliveries := s'.deliveries }

inductive Effect (s : Store) : Action → Store → Prop
  | moved {a : Action} {s' : Store} (h : Moves s s') : Effect s a s'
  | claimed (envelope : Envelope) (command : ClaimAgentRun) (facts : ClaimFacts) (run : AgentRun) (workspace : Option String)
      (hrun : s.runs.find? command.agentRunId = some run) (hversion : run.version = command.expectedVersion)
      (hrefusal : s.claimRefusal run facts = none) (h : s.Claimable run) :
      Effect s (.claimAgentRun envelope command facts)
        { s with
          runs := s.runs.update run.id (claimRun workspace)
          conversations := s.conversations.update run.conversationId clearBindingSecret }
  | resolved (envelope : Envelope) (runId campId : String) (expectedVersion unsettledEffects : Nat) (run : AgentRun)
      (hrun : s.runs.find? runId = some run) (hstatus : run.status = .waiting) (hreason : run.waitReason = some .recoveryBlocked) :
      Effect s (.resolveAcceptedInputRecoveryBlocker envelope runId campId expectedVersion unsettledEffects)
        ({ s with runs := s.runs.update runId closeUnknownOutcome
          }.settleBatchDeliveries run .cancelled (some "user_requested_agent_run_stop"))
  | requested (conversationId bindingId : String) (generation : Nat) (adapterKind : AdapterKind) :
      Effect s (.requestRedelivery conversationId bindingId generation adapterKind)
        (s.requestRedelivery conversationId bindingId generation adapterKind)
  | preparedAgain (runId : String) (executionEpoch : Nat) (manifestId : String) (options : PrepareOptions) (i : RuntimeInputDelivery)
      (hi : s.inputs.find? i.id = some i) (hrun : i.agentRunId = runId) (hepoch : i.executionEpoch = executionEpoch)
      (haccepted : s.inputAccepted runId executionEpoch = true) (hstatus : i.status = .notAccepted)
      (hprepared : ∃ s', s.prepareInputDelivery runId executionEpoch manifestId options =
        .ok ((prepareAgain options.bootstrapRedeliveryRevision i).asPublic, s')) :
      Effect s (.prepareInputDelivery runId executionEpoch manifestId options)
        { s with inputs := s.inputs.update i.id (prepareAgain options.bootstrapRedeliveryRevision) }
  | prepared (executionEpoch : Nat) (options : PrepareOptions) (run : AgentRun) (m : ContextManifest) (c : Conversation)
      (bindingId : String) (hrun : s.runs.find? run.id = some run) (hm : s.manifests.find? m.id = some m)
      (hc : s.conversations.find? run.conversationId = some c) (hepoch : run.executionEpoch = executionEpoch)
      (haccepted : s.inputAccepted run.id executionEpoch = true)
      (hfirst : s.loadDeliveryForManifest run.id executionEpoch m.id = none)
      (hunaccepted : m.sourceDeliveryId = none → s.hasAcceptedRuntimeInput run.id = false)
      (howner : m.agentRunId = run.id) (hgeneration : m.nativeBindingGeneration = c.nativeBindingGeneration)
      (hbinding : c.nativeBindingId = some bindingId)
      (hsource : s.inputSourceMatches m (s.newInput run m bindingId options) = true)
      (hfresh : s.inputs.find? (s.newInput run m bindingId options).id = none) :
      Effect s (.prepareInputDelivery run.id executionEpoch m.id options)
        { s with inputs := s.inputs.insert (s.newInput run m bindingId options) }
  | begun (runId : String) (executionEpoch : Nat) (i : RuntimeInputDelivery) (hi : s.inputs.find? i.id = some i)
      (hrun : i.agentRunId = runId) (hepoch : i.executionEpoch = executionEpoch) (hstatus : i.status = .prepared)
      (hnew : i.dispatchStarted = false) (haccepted : s.inputAccepted runId executionEpoch = true) :
      Effect s (.beginRuntimeInputDispatch i.id runId executionEpoch)
        { s with inputs := s.inputs.update i.id (fun i => { i with dispatchStarted := true }) }
  | acknowledged (nativeInputId : String) (now : Nat) (resumeActiveExecution : Bool) (target : DeliveryTarget) (s' : Store)
      (h : s.Acknowledges target nativeInputId now s') :
      Effect s (.acknowledgeInputDelivery target.input.id nativeInputId now resumeActiveExecution) s'

namespace Store

variable {s : Store} {run : AgentRun} {facts : ClaimFacts}

theorem claimable_of_claimRefusal (h : s.claimRefusal run facts = none)
    (hturn : s.turnAccepts run = true) : s.Claimable run := by
  unfold claimRefusal at h
  split at h
  · cases h
  rename_i hstate
  split at h
  · cases h
  rename_i haccepted
  split at h
  · cases h
  split at h
  · cases h
  split at h
  · cases h
  rename_i hblocked
  split at h
  · cases h
  rename_i hbusy
  simp only [Bool.or_eq_true, Bool.not_eq_true', not_or, Bool.not_eq_false, Bool.not_eq_true] at hstate
  obtain ⟨⟨hstate, -⟩, hcancel⟩ := hstate
  refine ⟨hstate, hcancel, hturn, by simpa using hbusy, fun hwaiting => ?_, fun hwaiting k i hi hrun hunknown => ?_⟩
  · simp_all [claimableState]
  have hany : s.inputs.any (fun i => i.agentRunId == run.id && i.status == .deliveryUnknown) = true :=
    Table.any_iff.2 ⟨k, i, hi, by simp [hrun, hunknown]⟩
  simp [hwaiting, hasRecoverySafetyBlocker, hany] at hblocked

variable {s' : Store} {result : CommandResult}

theorem claimAdmitted_ok {workspace : Option String}
    (h : s.claimAdmitted run workspace facts = .ok (result, s')) :
    result.isRejected = true ∧ s' = s ∨
      s.turnAccepts run = true ∧ result = .accepted "agent_run.claimed" ∧
        ∃ workspace, s' = { s with
          runs := s.runs.update run.id (claimRun workspace)
          conversations := s.conversations.update run.conversationId clearBindingSecret } := by
  unfold claimAdmitted at h
  split at h
  · cases h
    exact .inl ⟨rfl, rfl⟩
  · split at h
    · cases h
      exact .inl ⟨rfl, rfl⟩
    · split at h
      · cases h
        exact .inl ⟨rfl, rfl⟩
      · rename_i hturn
        cases h
        refine .inr ⟨?_, rfl, _, rfl⟩
        simp only [Bool.not_eq_true', Bool.not_eq_false, Bool.or_eq_true] at hturn
        unfold turnAccepts
        obtain hbatch | hturn := hturn
        · simp [hbatch]
        rw [Option.any_eq_true] at hturn
        obtain ⟨turn, hturn, haccepts⟩ := hturn
        rw [Bool.and_eq_true] at haccepts
        simp [hturn, haccepts.1]

/-- **A claim** either takes a Run that it may take, in the version it names, or makes moves only. -/
theorem claimAgentRun_cases {envelope : Envelope} {command : ClaimAgentRun}
    (h : s.claimAgentRun envelope command facts = .ok (result, s')) :
    result.isRejected = true ∧ Quiet s s' ∨
      ∃ run workspace, s.runs.find? command.agentRunId = some run ∧ run.version = command.expectedVersion ∧
        s.claimRefusal run facts = none ∧ s.Claimable run ∧ result = .accepted "agent_run.claimed" ∧ s' = { s with
          runs := s.runs.update run.id (claimRun workspace)
          conversations := s.conversations.update run.conversationId clearBindingSecret } := by
  unfold claimAgentRun at h
  split at h
  · cases h
    exact .inl ⟨rfl, .refl s⟩
  split at h
  · cases h
    exact .inl ⟨rfl, .refl s⟩
  split at h
  · cases h
    exact .inl ⟨rfl, .refl s⟩
  rename_i run hrun
  split at h
  · cases h
    exact .inl ⟨rfl, .refl s⟩
  split at h
  · cases h
    exact .inl ⟨rfl, .refl s⟩
  rename_i hversion
  have hfind : s.runs.find? command.agentRunId = some run := (Option.filter_eq_some_iff.1 hrun).1
  have hadmitted : s.claimRefusal run facts = none → s.claimAdmitted run command.workspace facts = .ok (result, s') →
      result.isRejected = true ∧ Quiet s s' ∨
        ∃ run workspace, s.runs.find? command.agentRunId = some run ∧ run.version = command.expectedVersion ∧
          s.claimRefusal run facts = none ∧ s.Claimable run ∧ result = .accepted "agent_run.claimed" ∧ s' = { s with
            runs := s.runs.update run.id (claimRun workspace)
            conversations := s.conversations.update run.conversationId clearBindingSecret } := by
    intro hrefusal h
    obtain ⟨hresult, rfl⟩ | ⟨hturn, hresult, workspace, hs'⟩ := claimAdmitted_ok h
    · exact .inl ⟨hresult, .refl s'⟩
    exact .inr ⟨run, workspace, hfind, by simpa using hversion, hrefusal, claimable_of_claimRefusal hrefusal hturn,
      hresult, hs'⟩
  split at h
  · split at h
    · cases h
      exact .inl ⟨rfl, .refl s⟩
    split at h
    · cases h
      exact .inl ⟨rfl, .refl s⟩
    split at h
    · split at h
      · cases h
      rename_i exhausted hexhausted
      cases h
      exact .inl ⟨rfl, exhaustCampTurnExecutionBudget_quiet hexhausted⟩
    · split at h
      · cases h
        exact .inl ⟨rfl, .refl s⟩
      · exact hadmitted ‹_› h
  · split at h
    · cases h
      exact .inl ⟨rfl, .refl s⟩
    · exact hadmitted ‹_› h

theorem resolveAcceptedInputRecoveryBlocker_cases {envelope : Envelope} {runId campId : String}
    {expectedVersion effects : Nat}
    (h : s.resolveAcceptedInputRecoveryBlocker envelope runId campId expectedVersion effects = .ok (result, s')) :
    result.isRejected = true ∧ s' = s ∨
      ∃ run, s.runs.find? runId = some run ∧ run.status = .waiting ∧ run.waitReason = some .recoveryBlocked ∧
        s' = { s with runs := s.runs.update runId closeUnknownOutcome
          }.settleBatchDeliveries run .cancelled (some "user_requested_agent_run_stop") := by
  unfold resolveAcceptedInputRecoveryBlocker at h
  split at h
  · cases h
    exact .inl ⟨rfl, rfl⟩
  split at h
  · cases h
    exact .inl ⟨rfl, rfl⟩
  rename_i run hrun
  split at h
  · cases h
    exact .inl ⟨rfl, rfl⟩
  split at h
  · cases h
    exact .inl ⟨rfl, rfl⟩
  split at h
  · cases h
    exact .inl ⟨rfl, rfl⟩
  rename_i hblocked
  split at h
  · cases h
    exact .inl ⟨rfl, rfl⟩
  split at h
  · cases h
    exact .inl ⟨rfl, rfl⟩
  split at h
  · cases h
    exact .inl ⟨rfl, rfl⟩
  cases h
  simp only [Bool.or_eq_true, decide_eq_true_eq, not_or, not_not] at hblocked
  exact .inr ⟨run, hrun, hblocked.1.1, hblocked.1.2, rfl⟩

theorem preparedBinding_ok {m : ContextManifest} {c : Conversation} {proposed : Option String} {bindingId : String}
    (h : preparedBinding m c proposed = .ok bindingId) :
    m.nativeBindingGeneration = c.nativeBindingGeneration ∧ c.nativeBindingId = some bindingId := by
  unfold preparedBinding at h
  split at h
  · split at h
    · cases h
    cases h
    simp_all
  · split at h
    · cases h
    split at h
    · cases h
    cases h
    simp_all

theorem unaccepted_of_load {runId : String} {c : Conversation}
    (h : s.loadAcceptedDeliveryForCurrentBinding runId c = .ok none) : s.hasAcceptedRuntimeInput runId = false := by
  unfold loadAcceptedDeliveryForCurrentBinding at h
  split at h
  · cases h
  split at h
  · cases h
  · simp_all

theorem prepareInputDelivery_effect {runId : String} {executionEpoch : Nat} {manifestId : String} {options : PrepareOptions}
    {receipt : InputReceipt} (h : s.prepareInputDelivery runId executionEpoch manifestId options = .ok (receipt, s')) :
    Effect s (.prepareInputDelivery runId executionEpoch manifestId options) s' := by
  have hprepared := h
  unfold prepareInputDelivery at h
  split at h
  · cases h
  rename_i haccepted
  split at h
  · cases h
  rename_i run hrun
  split at h
  · cases h
  rename_i c hc
  have haccepted : s.inputAccepted runId executionEpoch = true := by simpa using haccepted
  have hepoch : run.executionEpoch = executionEpoch := by
    simp only [inputAccepted, hrun, Option.any_some, Bool.and_eq_true, beq_iff_eq] at haccepted
    exact haccepted.1.1.1
  obtain rfl : run.id = runId := Table.key_of_find? hrun
  split at h
  · rename_i existing hexisting
    have hmem := List.mem_of_find?_eq_some hexisting
    have hkeys := List.find?_some hexisting
    simp only [Bool.and_eq_true, beq_iff_eq] at hkeys
    unfold prepareExisting at h
    split at h
    · cases h
    split at h
    · cases h
    split at h
    · rename_i hstatus
      cases h
      exact .preparedAgain _ _ _ _ existing (Table.find?_of_mem hmem) hkeys.1.1 hkeys.1.2 haccepted hstatus
        ⟨_, hprepared⟩
    · cases h
      exact .moved (.refl s)
  rename_i hfirst
  split at h
  · cases h
  rename_i m hm
  obtain rfl : m.id = manifestId := Table.key_of_find? hm
  split at h
  · cases h
  · split at h
    · cases h
    cases h
    exact .moved (.refl s)
  rename_i hload
  split at h
  · cases h
  rename_i howner
  unfold prepareNew at h
  split at h
  · cases h
  rename_i bindingId hbinding
  split at h
  · cases h
  dsimp only at h
  split at h
  · cases h
  rename_i hsource
  split at h
  · cases h
  rename_i hfresh
  cases h
  refine .prepared executionEpoch options run m c bindingId hrun hm hc hepoch haccepted hfirst (fun hstart => ?_)
    (by simpa using howner) (preparedBinding_ok hbinding).1 (preparedBinding_ok hbinding).2 (by simpa using hsource)
    (by simpa using hfresh)
  rw [if_pos hstart] at hload
  exact unaccepted_of_load hload

theorem beginRuntimeInputDispatch_cases (deliveryId runId : String) (executionEpoch : Nat) :
    s.beginRuntimeInputDispatch deliveryId runId executionEpoch = (false, s) ∨
      ∃ i, s.inputs.find? deliveryId = some i ∧ i.agentRunId = runId ∧ i.executionEpoch = executionEpoch ∧
        i.status = .prepared ∧ i.dispatchStarted = false ∧ s.inputAccepted runId executionEpoch = true ∧
        s.beginRuntimeInputDispatch deliveryId runId executionEpoch =
          (true, { s with inputs := s.inputs.update deliveryId (fun i => { i with dispatchStarted := true }) }) := by
  unfold beginRuntimeInputDispatch
  split
  · exact .inl rfl
  rename_i i hi
  split
  · rename_i hguard
    exact .inr ⟨i, hi, hguard.1, hguard.2.1, hguard.2.2.1, hguard.2.2.2.1, hguard.2.2.2.2, rfl⟩
  · exact .inl rfl

variable {i : RuntimeInputDelivery}

theorem acknowledgeRedelivery_congr {s t acknowledged : Store}
    (hrequirements : t.requirements = s.requirements) (h : s.acknowledgeRedelivery i = .ok acknowledged) :
    t.acknowledgeRedelivery i = .ok { t with requirements := acknowledged.requirements } ∧
      acknowledged = { s with requirements := acknowledged.requirements } := by
  unfold acknowledgeRedelivery at h ⊢
  rw [hrequirements]
  split at h
  · cases h
    refine ⟨?_, rfl⟩
    rw [← hrequirements]
  · split at h
    · cases h
    split at h
    · rename_i hguard
      cases h
      exact ⟨by rw [if_pos hguard], rfl⟩
    · cases h

theorem settleSource_moves {target : DeliveryTarget}
    (hi : s.inputs.find? i.id = some i) (hrun : i.agentRunId = target.run.id) (hmanifest : i.contextManifestId = target.manifest.id)
    (hm : s.manifests.find? target.manifest.id = some target.manifest) : Moves s (s.settleSource target) := by
  unfold settleSource
  split
  · exact .refl s
  rename_i deliveryId hsource
  exact (Move.settleSource target.run.id deliveryId i target.manifest hi hrun hmanifest hm hsource).once

theorem continues_resumeRun (h : run.status = .waiting) : Continues run (resumeRun run) :=
  .next (by rw [h]; rfl) rfl (fun _ => by rw [h]; rfl) fun _ => nofun

theorem continues_awaitReconciliation (h : run.status = .waiting) :
    Continues run (awaitReconciliation run) :=
  .next (by rw [h]; rfl) (by rw [h]; rfl) id id

variable (target : DeliveryTarget)

theorem leaveDeliveryUnknown_moves (resume : Bool) :
    Moves s (s.leaveDeliveryUnknown target resume) := by
  unfold leaveDeliveryUnknown
  split
  · refine (Move.rewriteRuns _ _ _ fun k run hrun hguard => ?_).once
    simp only [Bool.and_eq_true, beq_iff_eq] at hguard
    obtain ⟨⟨⟨⟨-, -⟩, hwaiting⟩, -⟩, -⟩ := hguard
    cases resume with
    | true => exact continues_resumeRun hwaiting
    | false => exact continues_awaitReconciliation hwaiting
  · exact .refl s

theorem startRun_moves (runId : String) (executionEpoch : Nat) : Moves s (s.startRun runId executionEpoch) := by
  refine (Move.rewriteRuns _ _ _ fun k run hrun hguard => ?_).once
  simp only [Bool.and_eq_true, beq_iff_eq] at hguard
  have hopen : terminal run.status = false := by rw [hguard.1.2]; rfl
  exact ⟨rfl, rfl, rfl, rfl, rfl, rfl, Nat.le_refl _, fun h => absurd rfl h, hopen, hopen, id, id⟩

theorem laterAccepted_accept {nativeInputId : String} {now : Nat}
    (hi : s.inputs.find? i.id = some i) :
    { s with inputs := s.inputs.update i.id (acceptInput nativeInputId now) }.laterAccepted i = s.laterAccepted i :=
  Table.any_update (f := acceptInput nativeInputId now) (fun _ => rfl) hi (by simp [acceptInput])

theorem leaveDeliveryUnknown_eq (resume : Bool) :
    s.leaveDeliveryUnknown target resume = { s with runs := (s.leaveDeliveryUnknown target resume).runs } := by
  unfold leaveDeliveryUnknown
  split <;> rfl

theorem settleSource_eq :
    s.settleSource target = { s with deliveries := (s.settleSource target).deliveries } := by
  unfold settleSource
  split <;> rfl

/-- **An acknowledgement** is a first acceptance, or changes nothing. -/
theorem acknowledgeInputDelivery_cases {deliveryId nativeInputId : String} {now : Nat} {resume : Bool}
    {receipt : InputReceipt} {changed : Bool}
    (h : s.acknowledgeInputDelivery deliveryId nativeInputId now resume = .ok ((receipt, changed), s')) :
    changed = false ∧ s' = s ∨
      changed = true ∧ ∃ target : DeliveryTarget, target.input.id = deliveryId ∧ s.Acknowledges target nativeInputId now s' := by
  unfold acknowledgeInputDelivery at h
  split at h
  · cases h
  split at h
  · cases h
  rename_i target htarget
  split at h
  · split at h
    · cases h
    cases h
    exact .inl ⟨rfl, rfl⟩
  rename_i haccepted
  split at h
  · cases h
  rename_i hrefused
  split at h
  · cases h
  obtain ⟨hi, hm, hr, hc⟩ := find?_of_loadDeliveryTarget htarget
  obtain rfl : target.input.id = deliveryId := Table.key_of_find? hi
  have hpending : target.input.status = .prepared ∨ target.input.status = .deliveryUnknown := by
    cases hs : target.input.status <;> simp_all
  have hrun : target.input.agentRunId = target.run.id := (Table.key_of_find? hr).symm
  have hmanifest : target.input.contextManifestId = target.manifest.id := (Table.key_of_find? hm).symm
  have hm' := Table.find?_key hm
  -- The input stays the target's while its receipt is written.
  have hstill : (s.inputs.update target.input.id (acceptInput nativeInputId now)).find?
      (acceptInput nativeInputId now target.input).id = some (acceptInput nativeInputId now target.input) :=
    Table.find?_update_self hi _ _
  dsimp only at h
  split at h
  · rename_i hcurrent
    split at h
    · cases h
    rename_i acknowledged hredelivery
    cases h
    obtain ⟨hok, hacknowledged⟩ := acknowledgeRedelivery_congr (t := s.received target nativeInputId now) (by rfl) hredelivery
    have hreceived : (s.received target nativeInputId now).conversations =
        if s.laterAccepted target.input then s.conversations
        else s.conversations.update target.conversation.id (deliverContext target.input target.manifest) := by
      cases hlater : s.laterAccepted target.input <;> simp [received, hcurrent, hlater]
    have hstarted : { s.received target nativeInputId now with requirements := acknowledged.requirements }.startRun
        target.run.id target.input.executionEpoch = acknowledged := by
      rw [hacknowledged]
      simp only [deliverCurrentContext, laterAccepted_accept hi, startRun, hreceived]
      rfl
    refine .inr ⟨rfl, target, rfl, htarget, hpending, _, by rw [if_pos hcurrent]; exact hok, ?_, ?_⟩
    · refine (startRun_moves target.run.id target.input.executionEpoch).trans ?_
      rw [hstarted]
      refine (leaveDeliveryUnknown_moves target resume).trans ?_
      refine settleSource_moves (i := acceptInput nativeInputId now target.input) ?_ hrun hmanifest ?_
      · rw [leaveDeliveryUnknown_eq, hacknowledged]
        exact hstill
      · rw [leaveDeliveryUnknown_eq, hacknowledged]
        exact hm'
    · rw [settleSource_eq, leaveDeliveryUnknown_eq, ← hstarted]
      rfl
  · rename_i hlate
    cases h
    refine .inr ⟨rfl, target, rfl, htarget, hpending, _, by rw [if_neg hlate], ?_, ?_⟩
    · have hreceived : { s with inputs := s.inputs.update target.input.id (acceptInput nativeInputId now) } =
          s.received target nativeInputId now := by
        simp [received, hlate]
      rw [← hreceived]
      exact settleSource_moves hstill hrun hmanifest hm'
    · rw [settleSource_eq]
      simp [received, hlate]

theorem acknowledgeInputDelivery_runs {deliveryId nativeInputId : String} {now : Nat} {resume : Bool} {receipt : InputReceipt × Bool}
    (h : s.acknowledgeInputDelivery deliveryId nativeInputId now resume = .ok (receipt, s')) : RunsThere s s' := by
  unfold acknowledgeInputDelivery at h
  dsimp only at h
  repeat' split at h
  all_goals cases h
  · exact .of_eq rfl
  · rename_i acknowledged hredelivery
    rw [settleSource_eq]
    have hdelivered : RunsThere s acknowledged := by
      rw [(acknowledgeRedelivery_congr rfl hredelivery).2]
      unfold deliverCurrentContext
      exact .updateWhere SameKind.refl s.runs _ (fun run => { run with waitReason := none }) (fun _ => rfl) fun _ _ _ _ => rfl
    refine Table.Grows.trans (fun hab hbc => Eq.trans hbc hab) (fun hnew hab => Eq.trans hab hnew) hdelivered ?_
    unfold leaveDeliveryUnknown
    split
    · refine .updateWhere SameKind.refl acknowledged.runs _ (fun run => if resume then resumeRun run else awaitReconciliation run)
        (fun _ => by cases resume <;> rfl) fun _ _ _ _ => ?_
      cases resume <;> rfl
    · exact .refl SameKind.refl acknowledged.runs
  · rw [settleSource_eq]
    exact .of_eq rfl

end Store

/-- What a transaction does, where the Runs come from and what is left of the bindings. -/
structure Outcome (s : Store) (a : Action) (s' : Store) : Prop where
  effect : Effect s a s'
  runs : (∀ run, a ≠ .queueRun run) → RunsThere s s'
  bindings : Table.Grows (BindingStep s a) Unbound s.conversations s'.conversations

variable {s s' : Store} {a : Action}

theorem Quiet.outcome (h : Quiet s s') : Outcome s a s' :=
  ⟨.moved h.moves, fun _ => h.runs, h.bindings.mono .left id⟩

theorem Rebound.outcome (h : Rebound a s s') : Outcome s a s' :=
  ⟨.moved h.moves, fun _ => .of_eq h.runs, h.bindings⟩

theorem Effect.outcome (h : Effect s a s') (hruns : s'.runs = s.runs) (hconversations : s'.conversations = s.conversations) :
    Outcome s a s' :=
  ⟨h, fun _ => .of_eq hruns, (BindingsLeft.of_eq hconversations).mono .left id⟩

theorem outcome_committed {α : Type} {x : Except String (α × Store)}
    (h : ∀ result s', x = .ok (result, s') → Outcome s a s') : Outcome s a (s.committed x) := by
  unfold committed
  split
  · exact h _ _ rfl
  · exact (Quiet.refl s).outcome

theorem outcome_written {x : Except String Store} (h : ∀ s', x = .ok s' → Outcome s a s') :
    Outcome s a (s.written x) := by
  unfold written
  split
  · exact h _ rfl
  · exact (Quiet.refl s).outcome

theorem outcome_settles {x : Handled} (h : Settles Quiet s x) : Outcome s a (s.committed x) :=
  outcome_committed fun result s' hx => (h.of_ok result s' hx).1.outcome

theorem queueRun_moves (run : AgentRun) : Moves s (s.queueRun run) := by
  unfold queueRun
  split
  · rename_i hrefers
    rw [Bool.and_eq_true] at hrefers
    refine (Move.queueRun run hrefers.1 fun turnId hturn => ?_).once
    simpa [hturn] using hrefers.2
  · exact .refl s

theorem acknowledgeInputDelivery_outcome {deliveryId nativeInputId : String} {now : Nat} {resume : Bool} {receipt : InputReceipt × Bool}
    (h : s.acknowledgeInputDelivery deliveryId nativeInputId now resume = .ok (receipt, s')) :
    Outcome s (.acknowledgeInputDelivery deliveryId nativeInputId now resume) s' := by
  have hruns := acknowledgeInputDelivery_runs h
  obtain ⟨-, rfl⟩ | ⟨-, target, rfl, hack⟩ := acknowledgeInputDelivery_cases h
  · exact (Quiet.refl s').outcome
  refine ⟨.acknowledged nativeInputId now resume target s' hack, fun _ => hruns, ?_⟩
  obtain ⟨acknowledged, hredelivery, -, hs'⟩ := hack.outcome
  have hconversations : s'.conversations = (s.received target nativeInputId now).conversations := by
    rw [hs']
    split at hredelivery
    · rw [(acknowledgeRedelivery_congr rfl hredelivery).2]
    · rw [hredelivery]
  rw [hconversations]
  unfold received
  dsimp only
  split
  · exact .update (fun c => .left (.refl c)) s.conversations target.conversation.id (deliverContext target.input target.manifest)
      (fun _ => rfl) fun _ _ => .left ⟨rfl, .inl ⟨rfl, rfl⟩, .inl rfl⟩
  · exact .refl (fun c => .left (.refl c)) s.conversations

theorem prepareInputDelivery_outcome {runId : String} {executionEpoch : Nat} {manifestId : String} {options : PrepareOptions}
    {receipt : InputReceipt} (h : s.prepareInputDelivery runId executionEpoch manifestId options = .ok (receipt, s')) :
    Outcome s (.prepareInputDelivery runId executionEpoch manifestId options) s' := by
  have hrows : s'.runs = s.runs ∧ s'.conversations = s.conversations := by
    unfold prepareInputDelivery prepareExisting prepareNew at h
    dsimp only at h
    repeat' split at h
    all_goals cases h <;> exact ⟨rfl, rfl⟩
  exact (prepareInputDelivery_effect h).outcome hrows.1 hrows.2

/-- **What a transaction does.** -/
theorem step_outcome (s : Store) (a : Action) : Outcome s a (s.step a) := by
  cases a with
  | claimAgentRun envelope command facts =>
    refine outcome_committed fun result s' h => ?_
    obtain ⟨-, hquiet⟩ | ⟨run, workspace, hrun, hversion, hrefusal, hclaimable, -, rfl⟩ := claimAgentRun_cases h
    · exact hquiet.outcome
    refine ⟨.claimed envelope command facts run workspace hrun hversion hrefusal hclaimable, fun _ => ?_, ?_⟩
    · exact .update SameKind.refl s.runs run.id (claimRun workspace) (fun _ => rfl) fun _ _ => rfl
    · exact .update (fun c => .left (.refl c)) s.conversations run.conversationId clearBindingSecret (fun _ => rfl)
        fun _ _ => .left ⟨rfl, .inl ⟨rfl, rfl⟩, .inr rfl⟩
  | resolveAcceptedInputRecoveryBlocker envelope runId campId version effects =>
    refine outcome_committed fun result s' h => ?_
    obtain ⟨-, rfl⟩ | ⟨run, hrun, hstatus, hreason, rfl⟩ := resolveAcceptedInputRecoveryBlocker_cases h
    · exact (Quiet.refl s').outcome
    refine ⟨.resolved envelope runId campId version effects run hrun hstatus hreason, fun _ => ?_, ?_⟩
    · rw [settleBatchDeliveries_eq]
      exact .update SameKind.refl s.runs runId closeUnknownOutcome (fun _ => rfl) fun _ _ => rfl
    · rw [settleBatchDeliveries_eq]
      exact .refl (fun c => .left (.refl c)) s.conversations
  | prepareInputDelivery =>
    exact outcome_committed fun receipt s' h => prepareInputDelivery_outcome h
  | beginRuntimeInputDispatch deliveryId runId epoch =>
    obtain h | ⟨i, hi, hrun, hepoch, hstatus, hnew, haccepted, h⟩ :=
      beginRuntimeInputDispatch_cases (s := s) deliveryId runId epoch
    · rw [step, h]
      exact (Quiet.refl s).outcome
    · obtain rfl : i.id = deliveryId := Table.key_of_find? hi
      rw [step, h]
      exact (Effect.begun runId epoch i hi hrun hepoch hstatus hnew haccepted).outcome rfl rfl
  | acknowledgeInputDelivery =>
    exact outcome_committed fun receipt s' h => acknowledgeInputDelivery_outcome h
  | requestRedelivery conversationId bindingId generation adapterKind =>
    refine (Effect.requested conversationId bindingId generation adapterKind).outcome ?_ ?_
    · rw [requestRedelivery_eq]
    · rw [requestRedelivery_eq]
  | bindNativeSession =>
    exact outcome_committed fun result s' h => ((bindNativeSession_rebound ..).of_ok result s' h).1.outcome
  | prepareBinding => exact outcome_written fun s' h => (prepareBinding_rebound h).outcome
  | queueRun run =>
    have hconversations : (s.queueRun run).conversations = s.conversations := by
      unfold queueRun
      split <;> rfl
    exact ⟨.moved (queueRun_moves run), fun hne => absurd rfl (hne run), (BindingsLeft.of_eq hconversations).mono .left id⟩
  | markForRecovery => exact outcome_settles (markForRecovery_settles ..)
  | markForNetworkRecovery => exact outcome_settles (markForNetworkRecovery_settles ..)
  | armNetworkRecoveryAttempt => exact outcome_settles (armNetworkRecoveryAttempt_settles ..)
  | completeNetworkRecovery => exact outcome_settles (completeNetworkRecovery_settles ..)
  | requestAgentRunCancellation =>
    exact outcome_settles (requestAgentRunCancellation_settles ..)
  | succeedAgentRun =>
    exact outcome_settles (succeedAgentRun_settles ..)
  | failAgentRun => exact outcome_settles (failAgentRun_settles ..)
  | rejectAgentRunDispatch => exact outcome_settles (rejectAgentRunDispatch_settles ..)
  | rebindAgentRunRuntime =>
    exact outcome_settles (rebindAgentRunRuntime_settles ..)
  | restartNativeSession => exact outcome_settles (restartNativeSession_settles ..)
  | settleInterruptedRun =>
    exact outcome_written fun s' h => (settleInterruptedRunInTx_quiet h).outcome
  | settleAbortiveCampTurn =>
    exact outcome_written fun s' h => (settleAbortiveAgentRuns_quiet h).outcome
  | settlePlannedShutdownAbortiveTerminal permit runId epoch outcome =>
    exact outcome_committed fun status s' h => (settlePlannedShutdownAbortiveTerminal_quiet h).outcome
  | settleControlledShutdownRuns cycle =>
    exact outcome_written fun s' h => (settleControlledShutdownRuns_quiet h).outcome
  | materializeContext => exact outcome_written fun s' h => (materializeContext_quiet h).outcome
  | markInputDeliveryUnknown deliveryId => exact outcome_written fun s' h => (markInputDeliveryUnknown_quiet h).outcome
  | markInputDeliveryNotAccepted deliveryId =>
    exact outcome_written fun s' h => (markInputDeliveryNotAccepted_quiet h).outcome
  | enqueueDeliveries => exact (enqueueDeliveries_quiet ..).outcome
  | claimWaitingDeliveryBatches =>
    exact outcome_written fun s' h => (claimWaitingDeliveryBatches_quiet h).outcome
  | routeUserMessage => exact (routeUserMessage_quiet ..).outcome
  | returnToQueue deliveryId => exact (Quiet.aside (Move.returnToQueue deliveryId) rfl rfl).outcome
  | openConversation campId kind recipient => exact (Quiet.openConversation campId kind recipient).outcome
  | endConversation conversationId =>
    refine (Quiet.touch conversationId endSingleChat (fun _ => rfl) (fun c => ?_) fun c => ?_).outcome
    · exact ⟨rfl, rfl, fun h => by simp [endSingleChat, h], rfl, rfl, rfl, rfl, rfl, rfl, rfl⟩
    · exact ⟨rfl, .inl ⟨rfl, rfl⟩, .inl rfl⟩
  | changeTurn turn =>
    refine (Quiet.aside (Move.changeTurn turn) ?_ ?_).outcome
    · rw [changeTurn_eq]
    · rw [changeTurn_eq]

theorem step_effect (s : Store) (a : Action) : Effect s a (s.step a) :=
  (step_outcome s a).effect

/-- **What a transaction does to the bindings.** -/
theorem step_bindings (s : Store) (a : Action) :
    Table.Grows (BindingStep s a) Unbound s.conversations (s.step a).conversations :=
  (step_outcome s a).bindings

/-- **A Run that a transaction finds new is a batch Run, or the one that another component queues.** -/
theorem origin_step {k : String} {r : AgentRun} (h : (s.step a).runs.find? k = some r) :
    (∃ old, s.runs.find? k = some old) ∨ r.invocationKind = .batch ∨ ∃ run, a = .queueRun run ∧ r = queuedRun run := by
  by_cases hqueues : ∃ run, a = .queueRun run
  · obtain ⟨run, rfl⟩ := hqueues
    simp only [step, Store.queueRun] at h
    split at h
    · obtain hold | ⟨rfl, -, -⟩ := Table.insert_cases h
      · exact .inl ⟨r, hold⟩
      · exact .inr (.inr ⟨run, rfl, rfl⟩)
    · exact .inl ⟨r, h⟩
  · obtain ⟨old, hold, -⟩ | ⟨-, hbatch⟩ := ((step_outcome s a).runs (not_exists.1 hqueues)).origin h
    · exact .inl ⟨old, hold⟩
    · exact .inr (.inl hbatch)

end Rovai.AgentRuns
