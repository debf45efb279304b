import RovaiCore.AgentRunLifecycle
/-!
# The inputs of the Runs

What a transaction leaves of a Runtime input and of a manifest.
-/
namespace Rovai.AgentRuns

open Tables (Table)
open Store

/-! ## What a move leaves of an input -/

def InputKept (i i' : RuntimeInputDelivery) : Prop :=
  i' = i ∨ Loses i i'

theorem InputKept.refl (i : RuntimeInputDelivery) : InputKept i i := .inl rfl

theorem InputKept.trans {a b c : RuntimeInputDelivery} (h : InputKept a b) (h' : InputKept b c) : InputKept a c := by
  obtain rfl | h := h
  · exact h'
  obtain rfl | h' := h'
  · exact .inr h
  refine .inr ⟨h.before, h'.after, ?_⟩
  rw [h'.rest, h.rest]

abbrev InputsKept (s s' : Store) : Prop :=
  Table.Grows InputKept (fun _ => False) s.inputs s'.inputs

theorem InputsKept.refl (s : Store) : InputsKept s s := Table.Grows.refl InputKept.refl s.inputs

variable {s s' : Store}

theorem InputsKept.of_eq (h : s'.inputs = s.inputs) : InputsKept s s' := by
  unfold InputsKept
  rw [h]
  exact .refl InputKept.refl s.inputs

theorem InputsKept.trans {s s' s'' : Store} (h : InputsKept s s') (h' : InputsKept s' s'') : InputsKept s s'' :=
  Table.Grows.trans InputKept.trans (fun hf _ => hf) h h'

namespace Store

variable {s : Store}

theorem loseInputs_kept {s' : Store} {p : RuntimeInputDelivery → Bool} {f : RuntimeInputDelivery → RuntimeInputDelivery}
    (hf : ∀ i, (f i).id = i.id) (hs' : s'.inputs = s.inputs.updateWhere p f hf)
    (h : ∀ i, p i = true → i.status = .prepared ∧ (f i).status ∈ [.deliveryUnknown, .notAccepted] ∧
      f i = { i with status := (f i).status }) : InputsKept s s' := by
  unfold InputsKept
  rw [hs']
  refine .updateWhere InputKept.refl s.inputs p f hf fun k i hi hp => .inr ?_
  obtain ⟨hstatus, hafter, hrest⟩ := h i hp
  exact ⟨.inl hstatus, by simpa using hafter, hrest⟩

theorem closeAbortiveRunEffects_inputs (runId : String) : InputsKept s (s.closeAbortiveRunEffects runId) := by
  refine loseInputs_kept (by intro _; rfl) rfl fun i hp => ?_
  simp only [Bool.and_eq_true, beq_iff_eq] at hp
  refine ⟨hp.2, ?_, rfl⟩
  by_cases hd : i.dispatchStarted = true <;> simp [hd]

theorem settleExecution_inputs (runId : String) (status : AgentRunStatus) :
    InputsKept s (s.settleExecution runId status) := by
  have hrefused : InputsKept s (s.refuseUnsentSteer runId) := by
    refine loseInputs_kept (by intro _; rfl) rfl fun i hp => ?_
    simp only [Bool.and_eq_true, beq_iff_eq] at hp
    exact ⟨hp.1.2, by simp, rfl⟩
  have hlost : ∀ s : Store, InputsKept s (s.loseSentSteer runId) := by
    intro s
    refine loseInputs_kept (by intro _; rfl) rfl fun i hp => ?_
    simp only [Bool.and_eq_true, beq_iff_eq] at hp
    exact ⟨hp.1.2, by simp, rfl⟩
  have hreturned : InputsKept (s.refuseUnsentSteer runId)
      (if status = .succeeded then (s.refuseUnsentSteer runId).returnUnsentSteer runId else s.refuseUnsentSteer runId) := by
    split <;> exact .of_eq rfl
  exact ((hrefused.trans hreturned).trans (hlost _)).trans (.of_eq rfl)

theorem settleBatchDeliveries_inputs (run : AgentRun) (status : AgentRunStatus) (code : Option String) :
    InputsKept s (s.settleBatchDeliveries run status code) := by
  unfold settleBatchDeliveries settleRunDeliveries
  split
  · split
    · exact .of_eq rfl
    · exact (settleExecution_inputs run.id status).trans (.of_eq rfl)
  · exact .of_eq rfl

end Store

theorem Move.inputsKept (h : Move s s') : InputsKept s s' := by
  cases h with
  | endRun run f hf closed hrun hclosed =>
    have hsettled := settleBatchDeliveries_inputs (s := { closed with runs := closed.runs.update run.id f hf }) run
      (f run).status (f run).terminalReason
    obtain rfl | rfl := hclosed
    · exact hsettled
    · exact InputsKept.trans (closeAbortiveRunEffects_inputs run.id) hsettled
  | settleAgain run => exact settleBatchDeliveries_inputs run _ _
  | loseInput inputId f hf h => exact .update InputKept.refl s.inputs inputId f hf fun i hi => .inr (h i hi)
  | changeTurn turn => exact .of_eq (by rw [changeTurn_eq])
  | _ => exact .of_eq rfl

theorem Moves.inputsKept (h : Moves s s') : InputsKept s s' :=
  h.lift InputsKept.refl InputsKept.trans Move.inputsKept

/-! ## What a transaction leaves of an input -/

inductive InputStep (s : Store) (a : Action) (i : RuntimeInputDelivery) : RuntimeInputDelivery → Prop
  | kept {i' : RuntimeInputDelivery} (h : InputKept i i') : InputStep s a i i'
  | preparedAgain (manifestId : String) (options : PrepareOptions) (s' : Store)
      (ha : a = .prepareInputDelivery i.agentRunId i.executionEpoch manifestId options)
      (hprepared : s.prepareInputDelivery i.agentRunId i.executionEpoch manifestId options =
        .ok ((prepareAgain options.bootstrapRedeliveryRevision i).asPublic, s'))
      (hstatus : i.status = .notAccepted) (haccepted : s.inputAccepted i.agentRunId i.executionEpoch = true) :
      InputStep s a i (prepareAgain options.bootstrapRedeliveryRevision i)
  | begun (ha : a = .beginRuntimeInputDispatch i.id i.agentRunId i.executionEpoch) (hstatus : i.status = .prepared)
      (hnew : i.dispatchStarted = false) (haccepted : s.inputAccepted i.agentRunId i.executionEpoch = true) :
      InputStep s a i { i with dispatchStarted := true }
  | accepted (nativeInputId : String) (now : Nat) (resume : Bool)
      (ha : a = .acknowledgeInputDelivery i.id nativeInputId now resume)
      (hstatus : i.status = .prepared ∨ i.status = .deliveryUnknown) : InputStep s a i (acceptInput nativeInputId now i)

structure NewInput (s : Store) (i : RuntimeInputDelivery) : Prop where
  source : ∃ (run : AgentRun) (m : ContextManifest) (c : Conversation) (bindingId : String) (options : PrepareOptions),
    s.runs.find? run.id = some run ∧ s.manifests.find? m.id = some m ∧
    s.conversations.find? run.conversationId = some c ∧ s.inputAccepted run.id run.executionEpoch = true ∧
    s.loadDeliveryForManifest run.id run.executionEpoch m.id = none ∧
    (m.sourceDeliveryId = none → s.hasAcceptedRuntimeInput run.id = false) ∧ m.agentRunId = run.id ∧
    m.nativeBindingGeneration = c.nativeBindingGeneration ∧ c.nativeBindingId = some bindingId ∧
    i = s.newInput run m bindingId options ∧ s.inputSourceMatches m i = true

variable {a : Action}

theorem inputStep_update {k : String} {i : RuntimeInputDelivery}
    {f : RuntimeInputDelivery → RuntimeInputDelivery} (hf : ∀ i, (f i).id = i.id)
    (hi : s.inputs.find? k = some i) (h : InputStep s a i (f i)) (hs' : s'.inputs = s.inputs.update k f hf) :
    Table.Grows (InputStep s a) (fun _ => False) s.inputs s'.inputs := by
  rw [hs']
  refine .update (fun i => .kept (.refl i)) s.inputs k f hf fun i' hi' => ?_
  rw [hi] at hi'
  cases hi'
  exact h

theorem acknowledged_eq {s acknowledged : Store} {target : DeliveryTarget} {nativeInputId : String} {now : Nat}
    (h : if s.currentExecution target then
        (s.received target nativeInputId now).acknowledgeRedelivery target.input = .ok acknowledged
      else acknowledged = s.received target nativeInputId now) :
    acknowledged = { s.received target nativeInputId now with requirements := acknowledged.requirements } := by
  split at h
  · exact (acknowledgeRedelivery_congr rfl h).2
  · rw [h]

/-- **Every transaction keeps every input**, or does to it what the one operation for it does. -/
theorem step_inputs (s : Store) (a : Action) :
    Table.Grows (InputStep s a) (NewInput s) s.inputs (s.step a).inputs := by
  have hkept : ∀ {s' : Store}, InputsKept s s' → Table.Grows (InputStep s a) (NewInput s) s.inputs s'.inputs :=
    fun h => h.mono .kept False.elim
  have heffect := step_effect s a
  generalize s.step a = s' at heffect ⊢
  cases heffect with
  | moved h => exact hkept h.inputsKept
  | requested =>
    exact hkept (.of_eq (by rw [requestRedelivery_eq]))
  | claimed => exact hkept (.of_eq rfl)
  | resolved envelope runId campId version effects run =>
    exact hkept (settleBatchDeliveries_inputs (s := { s with runs := s.runs.update runId closeUnknownOutcome }) run _ _)
  | preparedAgain runId epoch manifestId options i hi hrun hepoch haccepted hstatus hprepared =>
    subst hrun hepoch
    obtain ⟨prepared, hprepared⟩ := hprepared
    exact (inputStep_update (f := prepareAgain options.bootstrapRedeliveryRevision) (fun _ => rfl) hi
      (.preparedAgain manifestId options prepared rfl hprepared hstatus haccepted) rfl).mono id False.elim
  | prepared epoch options run m c bindingId hrun hm hc hepoch haccepted hfirst hunaccepted howner hgeneration hbinding hsource
      hfresh =>
    subst hepoch
    exact .insert (fun i => .kept (.refl i)) s.inputs _ ⟨run, m, c, bindingId, options, hrun, hm, hc, haccepted, hfirst,
      hunaccepted, howner, hgeneration, hbinding, rfl, hsource⟩
  | begun runId epoch i hi hrun hepoch hstatus hnew haccepted =>
    subst hrun hepoch
    exact (inputStep_update (f := fun i => { i with dispatchStarted := true }) (fun _ => rfl) hi
      (.begun rfl hstatus hnew haccepted) rfl).mono id False.elim
  | acknowledged nativeInputId now resume target s' hack =>
    obtain ⟨acknowledged, hredelivery, h, -⟩ := hack.outcome
    have hreceived : acknowledged.inputs = (s.received target nativeInputId now).inputs := by
      rw [acknowledged_eq hredelivery]
    refine .comp (fun hstep hkept => ?_) (fun hf _ => hf.elim) False.elim
      (inputStep_update (f := acceptInput nativeInputId now) (fun _ => rfl) (find?_of_loadDeliveryTarget hack.loaded).1
        (.accepted nativeInputId now resume rfl hack.pending) hreceived) h.inputsKept
    cases hstep with
    | kept hbefore => exact .kept (hbefore.trans hkept)
    | preparedAgain manifestId options prepared ha => cases ha
    | begun ha => cases ha
    | accepted nativeInputId now resume ha hpending =>
      -- What was accepted is not lost any more.
      obtain rfl | hloses := hkept
      · exact .accepted nativeInputId now resume ha hpending
      · obtain hb | hb := hloses.before <;> simp [acceptInput] at hb

structure SameInput (i i' : RuntimeInputDelivery) : Prop where
  agentRunId : i'.agentRunId = i.agentRunId
  executionEpoch : i'.executionEpoch = i.executionEpoch
  contextManifestId : i'.contextManifestId = i.contextManifestId
  nativeBindingId : i'.nativeBindingId = i.nativeBindingId
  nativeBindingGeneration : i'.nativeBindingGeneration = i.nativeBindingGeneration
  boundary : i'.boundaryCampMessageSequence = i.boundaryCampMessageSequence
  inputKind : i'.inputKind = i.inputKind
  inputSequence : i'.inputSequence = i.inputSequence

theorem SameInput.refl (i : RuntimeInputDelivery) : SameInput i i := ⟨rfl, rfl, rfl, rfl, rfl, rfl, rfl, rfl⟩

variable {i i' : RuntimeInputDelivery}

theorem InputKept.same (h : InputKept i i') : SameInput i i' := by
  obtain rfl | h := h
  · exact .refl i'
  rw [h.rest]
  exact ⟨rfl, rfl, rfl, rfl, rfl, rfl, rfl, rfl⟩

theorem InputStep.same {s : Store} (h : InputStep s a i i') : SameInput i i' := by
  cases h with
  | kept h => exact h.same
  | preparedAgain => exact ⟨rfl, rfl, rfl, rfl, rfl, rfl, rfl, rfl⟩
  | begun => exact ⟨rfl, rfl, rfl, rfl, rfl, rfl, rfl, rfl⟩
  | accepted => exact ⟨rfl, rfl, rfl, rfl, rfl, rfl, rfl, rfl⟩

/-! ## Manifests -/

abbrev ManifestsKept (s s' : Store) : Prop :=
  ∀ k m, s.manifests.find? k = some m → s'.manifests.find? k = some m

theorem Move.manifests (h : Move s s') : s'.manifests = s.manifests ∨
    ∃ manifest run, s.runs.find? manifest.agentRunId = some run ∧ active run.status = true ∧
      s.manifests.any (fun m => m.agentRunId == run.id && m.sourceDeliveryId == manifest.sourceDeliveryId) = false ∧
      (∀ d, manifest.sourceDeliveryId = some d → s.steersInto run d = true) ∧
      s' = { s with manifests := s.manifests.insert manifest } := by
  cases h with
  | insertManifest manifest run hrun hactive hfirst hsource =>
    exact .inr ⟨manifest, run, hrun, hactive, hfirst, hsource, rfl⟩
  | endRun run f hf closed hrun hclosed =>
    refine .inl ?_
    rw [settleBatchDeliveries_eq]
    obtain rfl | rfl := hclosed <;> rfl
  | settleAgain => exact .inl (by rw [settleBatchDeliveries_eq])
  | changeTurn turn => exact .inl (by rw [changeTurn_eq])
  | _ => exact .inl rfl

theorem Move.manifestsKept (h : Move s s') : ManifestsKept s s' := by
  intro k m hm
  obtain hsame | ⟨manifest, run, -, -, -, -, rfl⟩ := h.manifests
  · rw [hsame]
    exact hm
  · have hgrows : Table.Grows (· = ·) (fun _ => True) s.manifests (s.manifests.insert manifest) :=
      .insert (fun _ => rfl) s.manifests manifest trivial
    obtain ⟨m', hm', hsame⟩ := hgrows.kept hm
    rw [hsame]
    exact hm'

/-- The tables agree: what an input or a manifest names is there, and what a Run may have once it has once. -/
structure Registered (s : Store) : Prop where
  manifest_run : ∀ {k m}, s.manifests.find? k = some m → ∃ r, s.runs.find? m.agentRunId = some r
  manifest_unique : ∀ {k k' m m'}, s.manifests.find? k = some m → s.manifests.find? k' = some m' →
    m.agentRunId = m'.agentRunId → m.sourceDeliveryId = m'.sourceDeliveryId → k = k'
  input_manifest : ∀ {k i}, s.inputs.find? k = some i → ∃ m, s.manifests.find? i.contextManifestId = some m ∧
    m.agentRunId = i.agentRunId ∧ (m.sourceDeliveryId = none ↔ i.inputKind = .start)
  input_run : ∀ {k i}, s.inputs.find? k = some i → ∃ r, s.runs.find? i.agentRunId = some r ∧
    i.executionEpoch ≤ r.executionEpoch ∧ r.status ≠ .queued
  input_unique : ∀ {k k' i i'}, s.inputs.find? k = some i → s.inputs.find? k' = some i' →
    i.agentRunId = i'.agentRunId → i.executionEpoch = i'.executionEpoch → i.contextManifestId = i'.contextManifestId → k = k'

theorem Registered.start_unique {s : Store} (h : Registered s) {k k' : String}
    (hi : s.inputs.find? k = some i) (hi' : s.inputs.find? k' = some i') (hrun : i.agentRunId = i'.agentRunId)
    (hepoch : i.executionEpoch = i'.executionEpoch) (hstart : i.inputKind = .start) (hstart' : i'.inputKind = .start) :
    k = k' := by
  obtain ⟨m, hm, hmrun, hkind⟩ := h.input_manifest hi
  obtain ⟨m', hm', hmrun', hkind'⟩ := h.input_manifest hi'
  refine h.input_unique hi hi' hrun hepoch (h.manifest_unique hm hm' ?_ ?_)
  · rw [hmrun, hmrun', hrun]
  · rw [hkind.2 hstart, hkind'.2 hstart']

structure RunGoesOn (r r' : AgentRun) : Prop where
  executionEpoch : r.executionEpoch ≤ r'.executionEpoch
  started : r.status ≠ .queued → r'.status ≠ .queued

theorem RunKept.goesOn {r r' : AgentRun} (h : RunKept r r') : RunGoesOn r r' :=
  ⟨h.executionEpoch.ge, h.started⟩

theorem Opens.goesOn {s : Store} {r r' : AgentRun} (h : Opens s a r r') : RunGoesOn r r' := by
  obtain ⟨workspace, rfl⟩ := h.taken
  exact ⟨Nat.le_succ _, fun _ hq => by cases hq⟩

abbrev RunsGoOn (s s' : Store) : Prop :=
  ∀ k r, s.runs.find? k = some r → ∃ r', s'.runs.find? k = some r' ∧ RunGoesOn r r'

theorem RunsKept.goOn (h : RunsKept s s') : RunsGoOn s s' := fun _ _ hr =>
  let ⟨r', hr', hkept⟩ := h.kept hr
  ⟨r', hr', hkept.goesOn⟩

theorem NewInput.shape {s : Store} {i : RuntimeInputDelivery} (h : NewInput s i) :
    ∃ run m, s.runs.find? i.agentRunId = some run ∧ i.executionEpoch = run.executionEpoch ∧ active run.status = true ∧
      s.manifests.find? i.contextManifestId = some m ∧ m.agentRunId = i.agentRunId ∧
      (m.sourceDeliveryId = none ↔ i.inputKind = .start) ∧
      s.loadDeliveryForManifest i.agentRunId i.executionEpoch i.contextManifestId = none := by
  obtain ⟨run, m, c, bindingId, options, hrun, hm, hc, haccepted, hfirst, -, howner, -, -, rfl, -⟩ := h.source
  simp only [inputAccepted, hrun, Option.any_some, Bool.and_eq_true] at haccepted
  refine ⟨run, m, hrun, rfl, haccepted.1.1.2, hm, howner, ?_, hfirst⟩
  cases hsource : m.sourceDeliveryId <;> simp [newInput, hsource]

theorem Registered.of_tables (h : Registered s) (hruns : RunsGoOn s s') (hmanifests : s'.manifests = s.manifests)
    (hinputs : ∀ k i', s'.inputs.find? k = some i' →
      (∃ i, s.inputs.find? k = some i ∧ SameInput i i') ∨ s.inputs.find? k = none ∧ NewInput s i')
    (hone : ∀ k k' i i', s'.inputs.find? k = some i → s'.inputs.find? k' = some i' → s.inputs.find? k = none →
      s.inputs.find? k' = none → k = k') : Registered s' where
  manifest_run {k m} hm := by
    rw [hmanifests] at hm
    obtain ⟨r, hr⟩ := h.manifest_run hm
    obtain ⟨r', hr', -⟩ := hruns _ _ hr
    exact ⟨r', hr'⟩
  manifest_unique {k k' m m'} hm hm' := by
    rw [hmanifests] at hm hm'
    exact h.manifest_unique hm hm'
  input_manifest {k i'} hi' := by
    rw [hmanifests]
    obtain ⟨i, hi, hsame⟩ | ⟨-, hnew⟩ := hinputs k i' hi'
    · obtain ⟨m, hm, hrun, hkind⟩ := h.input_manifest hi
      rw [hsame.contextManifestId, hsame.agentRunId, hsame.inputKind]
      exact ⟨m, hm, hrun, hkind⟩
    · obtain ⟨-, m, -, -, -, hm, howner, hkind, -⟩ := hnew.shape
      exact ⟨m, hm, howner, hkind⟩
  input_run {k i'} hi' := by
    obtain ⟨i, hi, hsame⟩ | ⟨-, hnew⟩ := hinputs k i' hi'
    · obtain ⟨r, hr, hle, hstarted⟩ := h.input_run hi
      obtain ⟨r', hr', hgoes⟩ := hruns _ _ hr
      rw [hsame.agentRunId, hsame.executionEpoch]
      exact ⟨r', hr', hle.trans hgoes.executionEpoch, hgoes.started hstarted⟩
    · obtain ⟨r, -, hr, hepoch, hactive, -⟩ := hnew.shape
      obtain ⟨r', hr', hgoes⟩ := hruns _ _ hr
      refine ⟨r', hr', hepoch.le.trans hgoes.executionEpoch, hgoes.started ?_⟩
      intro hq
      simp [hq, active] at hactive
  input_unique {k k' i i'} hi hi' hrun hepoch hmanifest := by
    -- An input that is new has no other of its manifest and epoch before it.
    have hfirst : ∀ {k k' i i'}, s'.inputs.find? k = some i → NewInput s i →
        (∃ j, s.inputs.find? k' = some j ∧ SameInput j i') → i.agentRunId = i'.agentRunId →
        i.executionEpoch = i'.executionEpoch → i.contextManifestId = i'.contextManifestId → False := by
      rintro k k' i i' - hnew ⟨j, hj, hsame⟩ hrun hepoch hmanifest
      obtain ⟨-, -, -, -, -, -, -, -, hload⟩ := hnew.shape
      have hno := List.find?_eq_none.1 hload j (Table.mem_of_find? hj)
      simp [hrun, hepoch, hmanifest, hsame.agentRunId, hsame.executionEpoch, hsame.contextManifestId] at hno
    obtain ⟨j, hj, hsame⟩ | ⟨hnone, hnew⟩ := hinputs k i hi
    · obtain ⟨j', hj', hsame'⟩ | ⟨-, hnew'⟩ := hinputs k' i' hi'
      · refine h.input_unique hj hj' ?_ ?_ ?_
        · rw [← hsame.agentRunId, ← hsame'.agentRunId, hrun]
        · rw [← hsame.executionEpoch, ← hsame'.executionEpoch, hepoch]
        · rw [← hsame.contextManifestId, ← hsame'.contextManifestId, hmanifest]
      · exact (hfirst hi' hnew' ⟨j, hj, hsame⟩ hrun.symm hepoch.symm hmanifest.symm).elim
    · obtain hold | ⟨hnone', -⟩ := hinputs k' i' hi'
      · exact (hfirst hi hnew hold hrun hepoch hmanifest).elim
      · exact hone k k' i i' hi hi' hnone hnone'

theorem Registered.of_kept (h : Registered s) (hruns : RunsGoOn s s') (hmanifests : s'.manifests = s.manifests)
    (hinputs : Table.Grows SameInput (fun _ => False) s.inputs s'.inputs) : Registered s' := by
  have hold : ∀ k i', s'.inputs.find? k = some i' → ∃ i, s.inputs.find? k = some i ∧ SameInput i i' := by
    intro k i' hi'
    obtain hold | ⟨-, hf⟩ := hinputs.origin hi'
    · exact hold
    · exact hf.elim
  refine h.of_tables hruns hmanifests (fun k i' hi' => .inl (hold k i' hi')) fun k k' i i' hi hi' hnone hnone' => ?_
  obtain ⟨j, hj, -⟩ := hold k i hi
  rw [hnone] at hj
  cases hj

theorem Move.registered (hmove : Move s s') (h : Registered s) : Registered s' := by
  obtain hsame | ⟨manifest, run, hrun, hactive, hfirst, -, rfl⟩ := hmove.manifests
  · exact h.of_kept hmove.runsKept.goOn hsame (hmove.inputsKept.mono InputKept.same id)
  have hid : run.id = manifest.agentRunId := Table.key_of_find? hrun
  have hnone : ∀ {k m}, s.manifests.find? k = some m → m.agentRunId = manifest.agentRunId →
      m.sourceDeliveryId = manifest.sourceDeliveryId → False := by
    intro k m hm howner hsource
    have hno := Table.any_eq_false hfirst hm
    simp [howner, hsource, hid] at hno
  refine { manifest_run := ?_, manifest_unique := ?_, input_manifest := ?_, input_run := h.input_run
           input_unique := h.input_unique }
  · intro k m hm
    obtain hm | ⟨rfl, -, -⟩ := Table.insert_cases hm
    · exact h.manifest_run hm
    · exact ⟨run, hrun⟩
  · intro k k' m m' hm hm' howner hsource
    obtain hold | ⟨rfl, hk, -⟩ := Table.insert_cases hm
    · obtain hold' | ⟨rfl, -, -⟩ := Table.insert_cases hm'
      · exact h.manifest_unique hold hold' howner hsource
      · exact (hnone hold howner hsource).elim
    · obtain hold' | ⟨rfl, hk', -⟩ := Table.insert_cases hm'
      · exact (hnone hold' howner.symm hsource.symm).elim
      · rw [hk, hk']
  · intro k i hi
    obtain ⟨m, hm, howner, hkind⟩ := h.input_manifest hi
    exact ⟨m, hmove.manifestsKept _ _ hm, howner, hkind⟩

theorem received_inputs_same (s : Store) (target : DeliveryTarget) (nativeInputId : String) (now : Nat) :
    Table.Grows SameInput (fun _ => False) s.inputs (s.received target nativeInputId now).inputs :=
  .update SameInput.refl s.inputs target.input.id (acceptInput nativeInputId now) (fun _ => rfl)
    fun _ _ => ⟨rfl, rfl, rfl, rfl, rfl, rfl, rfl, rfl⟩

theorem Registered.acknowledged {s acknowledged : Store} {target : DeliveryTarget} {nativeInputId : String} {now : Nat}
    (h : Registered s)
    (heq : acknowledged = { s.received target nativeInputId now with requirements := acknowledged.requirements }) :
    Registered acknowledged := by
  rw [heq]
  exact h.of_kept (fun k r hr => ⟨r, hr, (RunKept.refl r).goesOn⟩) rfl (received_inputs_same s target nativeInputId now)

theorem registered_step (s : Store) (a : Action) (h : Registered s) : Registered (s.step a) := by
  have hruns : RunsGoOn s (s.step a) := by
    intro k r hr
    obtain ⟨r', hr', hkept | hopens⟩ := step_run a hr
    · exact ⟨r', hr', hkept.goesOn⟩
    · exact ⟨r', hr', hopens.goesOn⟩
  have hinputs : ∀ k i', (s.step a).inputs.find? k = some i' →
      (∃ i, s.inputs.find? k = some i ∧ SameInput i i') ∨ s.inputs.find? k = none ∧ NewInput s i' := by
    intro k i' hi'
    obtain ⟨i, hi, hstep⟩ | hnew := (step_inputs s a).origin hi'
    · exact .inl ⟨i, hi, hstep.same⟩
    · exact .inr hnew
  have heffect := step_effect s a
  generalize s.step a = s' at heffect hruns hinputs ⊢
  cases heffect with
  | moved hmoves => exact hmoves.preserves Move.registered h
  | requested =>
    rw [requestRedelivery_eq] at hruns ⊢
    exact h.of_kept hruns rfl (.refl SameInput.refl s.inputs)
  | claimed => exact h.of_kept hruns rfl (.refl SameInput.refl s.inputs)
  | resolved envelope runId campId version effects run =>
    refine h.of_kept hruns (by rw [settleBatchDeliveries_eq]) ?_
    exact (settleBatchDeliveries_inputs (s := { s with runs := s.runs.update runId closeUnknownOutcome }) run _ _).mono
      InputKept.same id
  | preparedAgain runId epoch manifestId options i =>
    exact h.of_kept hruns rfl (.update SameInput.refl s.inputs i.id (prepareAgain _) (fun _ => rfl)
      fun _ _ => ⟨rfl, rfl, rfl, rfl, rfl, rfl, rfl, rfl⟩)
  | begun runId epoch i =>
    exact h.of_kept hruns rfl (.update SameInput.refl s.inputs i.id (fun i => { i with dispatchStarted := true }) (fun _ => rfl)
      fun _ _ => ⟨rfl, rfl, rfl, rfl, rfl, rfl, rfl, rfl⟩)
  | prepared epoch options run m c bindingId hrun hm hc hepoch haccepted hfirst hunaccepted howner hgeneration hbinding hsource
      hfresh =>
    refine h.of_tables hruns rfl hinputs fun k k' i i' hi hi' hnone hnone' => ?_
    have hid : ∀ {k i}, (s.inputs.insert (s.newInput run m bindingId options)).find? k = some i → s.inputs.find? k = none →
        k = (s.newInput run m bindingId options).id := by
      intro k i hi hnone
      rw [Table.find?_insert hfresh] at hi
      split at hi
      · assumption
      · simp [hnone] at hi
    rw [hid hi hnone, hid hi' hnone']
  | acknowledged nativeInputId now resume target s' hack =>
    obtain ⟨acknowledged, hredelivery, hmoves, -⟩ := hack.outcome
    exact hmoves.preserves Move.registered (h.acknowledged (acknowledged_eq hredelivery))

theorem registered_run {s : Store} (as : List Action) (h : Registered s) : Registered (s.run as) :=
  Runs.run_invariant step registered_step as s h

end Rovai.AgentRuns
