import RovaiCore.AgentRunInputs
/-!
# A start input is dispatched once

Within an epoch a Run has one start input and its dispatch begins once.
-/
namespace Rovai.AgentRuns

open Tables (Table)
open Store

variable (s : Store)

def Store.isStartInput (inputId : String) : Prop :=
  ∃ i, s.inputs.find? inputId = some i ∧ i.inputKind = .start

def Store.refused (inputId : String) : Bool :=
  (s.inputs.find? inputId).any (fun i => i.status == .notAccepted)

def Store.startInputUnanswered (runId : String) : Bool :=
  s.inputs.any (fun i => i.agentRunId == runId && i.inputKind == .start && i.status == .prepared && i.dispatchStarted)

/-- A claim, in the version it has, of a Run that nothing keeps from being claimed while a start input of it is unanswered. -/
def reopensUnanswered : Action → Bool
  | .claimAgentRun _ command facts => s.startInputUnanswered command.agentRunId &&
      (s.runs.find? command.agentRunId).any (fun run =>
        run.version == command.expectedVersion && (s.claimRefusal run facts).isNone)
  | _ => false

structure NoInputs (s : Store) : Prop where
  inputs : s.inputs.rows = []
  manifests : s.manifests.rows = []

variable {s : Store}

theorem NoInputs.registered (h : NoInputs s) : Registered s := by
  have hi : ∀ k, s.inputs.find? k = none := fun k => by simp [Table.find?, h.inputs]
  have hm : ∀ k, s.manifests.find? k = none := fun k => by simp [Table.find?, h.manifests]
  constructor <;> simp [hi, hm]

structure SentStart (s : Store) (inputId runId : String) : Prop where
  sent : ∃ i r, s.inputs.find? inputId = some i ∧ s.runs.find? runId = some r ∧ i.agentRunId = runId ∧
    i.executionEpoch = r.executionEpoch ∧ i.inputKind = .start ∧ i.dispatchStarted = true ∧ i.status ≠ .notAccepted

theorem not_opens {a : Action} {k : String} {i : RuntimeInputDelivery} {r r' : AgentRun} (h : Registered s)
    (hi : s.inputs.find? k = some i) (hr : s.runs.find? i.agentRunId = some r) (hstart : i.inputKind = .start)
    (hsent : i.dispatchStarted = true) (hrefused : i.status ≠ .notAccepted) (hcond : reopensUnanswered s a = false) :
    ¬Opens s a r r' := by
  intro hopens
  obtain ⟨r₁, hr₁, -, hstarted⟩ := h.input_run hi
  rw [hr] at hr₁
  cases hr₁
  have hid : r.id = i.agentRunId := Table.key_of_find? hr
  have hwaiting : r.status = .waiting := by
    have hstate := hopens.claimable.state
    cases hstatus : r.status <;> simp_all [claimableState]
  cases hstatus : i.status with
  | notAccepted => exact hrefused hstatus
  | deliveryUnknown => exact hopens.claimable.known hwaiting k i hi hid.symm hstatus
  | accepted =>
    have hnone := Table.any_eq_false (hopens.claimable.unaccepted hwaiting) hi
    simp [hid, hstatus] at hnone
  | prepared =>
    obtain ⟨envelope, command, facts, rfl, hcommand, hversion, hrefusal⟩ := hopens.claim
    have hany : s.startInputUnanswered i.agentRunId = true :=
      Table.any_iff.2 ⟨k, i, hi, by simp [hstart, hstatus, hsent]⟩
    simp [reopensUnanswered, hany, hcommand, hid, hr, hrefusal, hversion] at hcond

theorem sentStart_step {a : Action} {inputId runId : String} (hreg : Registered s) (h : SentStart s inputId runId)
    (hcond : reopensUnanswered s a = false) (hrefused : (s.step a).refused inputId = false) :
    SentStart (s.step a) inputId runId := by
  obtain ⟨i, r, hi, hr, hrun, hepoch, hstart, hsent, hnot⟩ := h.sent
  obtain ⟨i', hi', hstep⟩ := (step_inputs s a).kept hi
  obtain ⟨r', hr', hkept | hopens⟩ := step_run a hr
  · have hsame := hstep.same
    refine ⟨i', r', hi', hr', hsame.agentRunId.trans hrun, ?_, hsame.inputKind.trans hstart, ?_, ?_⟩
    · rw [hsame.executionEpoch, hepoch, hkept.executionEpoch]
    · cases hstep with
      | kept hkept =>
        obtain rfl | hloses := hkept
        · exact hsent
        rw [hloses.rest]
        exact hsent
      | preparedAgain manifestId options prepared ha hprepared hstatus => exact absurd hstatus hnot
      | begun => rfl
      | accepted => exact hsent
    · intro hstatus
      simp [refused, hi', hstatus] at hrefused
  · subst hrun
    exact (not_opens hreg hi hr hstart hsent hnot hcond hopens).elim

theorem begin_false_of_sentStart {inputId inputId' runId : String} {executionEpoch : Nat} (hreg : Registered s)
    (h : SentStart s inputId runId) (hstart : s.isStartInput inputId') :
    (s.beginRuntimeInputDispatch inputId' runId executionEpoch).1 = false := by
  obtain hno | ⟨i', hi', hrun', hepoch', -, hnew, haccepted, -⟩ :=
    beginRuntimeInputDispatch_cases (s := s) inputId' runId executionEpoch
  · rw [hno]
  obtain ⟨i, r, hi, hr, hrun, hepoch, hkind, hsent, -⟩ := h.sent
  obtain ⟨j, hj, hkind'⟩ := hstart
  rw [hi'] at hj
  cases hj
  simp only [inputAccepted, hr, Option.any_some, Bool.and_eq_true, beq_iff_eq] at haccepted
  have hsame : inputId = inputId' :=
    hreg.start_unique hi hi' (hrun.trans hrun'.symm) (by rw [hepoch, haccepted.1.1.1, hepoch']) hkind hkind'
  subst hsame
  rw [hi] at hi'
  cases hi'
  simp [hsent] at hnew

theorem sentStart_begun {inputId runId : String} {executionEpoch : Nat} (hstart : s.isStartInput inputId)
    (h : (s.beginRuntimeInputDispatch inputId runId executionEpoch).1 = true) :
    SentStart (s.step (.beginRuntimeInputDispatch inputId runId executionEpoch)) inputId runId := by
  obtain hno | ⟨i, hi, hrun, hepoch, hstatus, -, haccepted, hs'⟩ :=
    beginRuntimeInputDispatch_cases (s := s) inputId runId executionEpoch
  · simp [hno] at h
  obtain ⟨j, hj, hkind⟩ := hstart
  rw [hi] at hj
  cases hj
  cases hr : s.runs.find? runId with
  | none => simp [inputAccepted, hr] at haccepted
  | some r =>
    simp only [inputAccepted, hr, Option.any_some, Bool.and_eq_true, beq_iff_eq] at haccepted
    rw [step, hs']
    refine ⟨_, r, Table.find?_update_self hi (fun i => { i with dispatchStarted := true }) (fun _ => rfl), hr, hrun, ?_, hkind,
      rfl, ?_⟩
    · rw [haccepted.1.1.1]
      exact hepoch
    · simp [hstatus]

def DispatchedOnce (w : Store) (as bs : List Action) (inputId inputId' runId : String) (executionEpoch executionEpoch' : Nat) :
    Prop :=
  (w.run as).isStartInput inputId → ((w.run as).beginRuntimeInputDispatch inputId runId executionEpoch).1 = true →
    Runs.AllSteps step (fun s a => (s.step a).refused inputId = false)
      ((w.run as).step (.beginRuntimeInputDispatch inputId runId executionEpoch)) bs →
    (((w.run as).step (.beginRuntimeInputDispatch inputId runId executionEpoch)).run bs).isStartInput inputId' →
    ((((w.run as).step (.beginRuntimeInputDispatch inputId runId executionEpoch)).run bs).beginRuntimeInputDispatch
      inputId' runId executionEpoch').1 = false

/-- **A start input is dispatched once**, in every run that claims no Run over an unanswered start input. -/
theorem startInput_dispatched_once (w : Store) (hw : NoInputs w) (as bs : List Action) (inputId inputId' runId : String)
    (executionEpoch executionEpoch' : Nat)
    (hcond : Runs.AllSteps step (fun s a => reopensUnanswered s a = false)
      ((w.run as).step (.beginRuntimeInputDispatch inputId runId executionEpoch)) bs) :
    DispatchedOnce w as bs inputId inputId' runId executionEpoch executionEpoch' := by
  intro hstart hbegun hrefused hstart'
  have hreg := registered_step _ (.beginRuntimeInputDispatch inputId runId executionEpoch)
    (registered_run as hw.registered)
  have hrun := Runs.run_invariant_of_allSteps (P := fun s => Registered s ∧ SentStart s inputId runId) step
    (fun s a hok h => ⟨registered_step s a h.1, sentStart_step h.1 h.2 hok.1 hok.2⟩) bs _
    (Runs.allSteps_and step hcond hrefused) ⟨hreg, sentStart_begun hstart hbegun⟩
  exact begin_false_of_sentStart hrun.1 hrun.2 hstart'

/-! ## A claim over an unanswered input -/

def bindOf (executionEpoch : Nat) : Action :=
  .prepareBinding ⟨"run", executionEpoch, false, true, true, "binding", "installation", none, fun _ _ => "digest"⟩ 0

def startManifest : ContextManifest :=
  ⟨"manifest", "run", 1, 0, none, "charter", "collaboration", none, none⟩

def prepareOf (executionEpoch : Nat) (inputId : String) : Action :=
  .prepareInputDelivery "run" executionEpoch "manifest" ⟨none, none, inputId, none⟩

def loseConnection (version executionEpoch : Nat) : Action :=
  .markForRecovery ⟨.system "runtime-recovery-coordinator", some "camp"⟩ ⟨"run", version, executionEpoch⟩

/-- The connection is lost after the first input was sent: the next epoch sends another. -/
theorem startInput_dispatched_twice : NoInputs queuedStore ∧
    ¬DispatchedOnce queuedStore [claimOf 1, bindOf 1, .materializeContext startManifest 1, prepareOf 1 "first"]
      [loseConnection 2 1, claimOf 3, prepareOf 2 "second"] "first" "second" "run" 1 2 := by
  refine ⟨⟨rfl, rfl⟩, fun h => ?_⟩
  have hno := h ⟨_, rfl, rfl⟩ (by decide) (by decide) ⟨_, rfl, rfl⟩
  revert hno
  decide

theorem startInput_dispatched_once_queuedStore :
    DispatchedOnce queuedStore [claimOf 1, bindOf 1, .materializeContext startManifest 1, prepareOf 1 "first"]
      [prepareOf 1 "second"] "first" "first" "run" 1 1 :=
  startInput_dispatched_once queuedStore ⟨rfl, rfl⟩ _ _ _ _ _ _ _ (by decide)

end Rovai.AgentRuns
