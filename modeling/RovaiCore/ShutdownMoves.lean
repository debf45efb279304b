import RovaiCore.ShutdownCoordinator
/-!
# What a step of the coordinator can do

One inversion for each thing a proof asks about: what every step keeps (`StepFrame`), where a call under way comes from
(`Entered`), what an answer says (`Answers`), and the moves at the three gates (`LaunchMove`, `TerminalMove`, `RouteMove`).
-/
namespace Rovai.Shutdown

def PermitCall.isRegistering : PermitCall → Bool
  | .registering _ => true
  | _ => false

def Call.isSettling : Call → Bool
  | .settling _ _ => true
  | _ => false

def Call.atLaunch : Call → Bool
  | .launchHolding | .closureHolding | .closureLooking | .closureDropping _ => true
  | _ => false

def Call.atTerminal : Call → Bool
  | .terminalHolding _ | .terminalActive _ | .terminalSettled _ => true
  | _ => false

def Call.atRoute : Call → Bool
  | .routeHolding => true
  | _ => false

def Action.takes (key : ActiveExecutionKey) : Action → Prop
  | .removeActive k _ | .removeActiveIfUnbound k => k = key
  | _ => False

namespace Coordinator

attribute [simp] enterLaunch closeLaunchAdmission admitTerminal enterRuntimeRoute removeActive expireCall abandonCall
  drainRoute expireRoute finishLaunch dropLaunchPermit registerActive completeHandoff advancePermit abandonPermit
  completeSettlement completeCallback bindRouteInner markPlannedStopRequested cancelActive removeActiveIfUnbound
  takeLaunchGuard joinDrain checkLaunch enterDraining classifyTerminal admitActive admitSettled checkRoute grantPermit
  refuse

variable {s s' : Coordinator} {t : TaskId}

/-! ## What every step keeps -/

/-- A permit is new only to a task whose call returned with the step; the phase only moves forward; what is settled was in the
hands of a removal, and stays; and an execution is taken from the active ones by a removal only. -/
structure StepFrame (s : Coordinator) (a : Action) (s' : Coordinator) : Prop where
  le : s.nextTask ≤ s'.nextTask
  calls : ∀ t, s'.calls t ≠ none → s.calls t ≠ none ∨ t = s.nextTask ∧ t < s'.nextTask
  launch : ∀ t, s'.launchPermits t ≠ none → s.launchPermits t ≠ none ∨ s.calls t ≠ none ∧ s'.calls t = none
  admission : ∀ t, s'.admissions t ≠ none → s.admissions t ≠ none ∨ s.calls t ≠ none ∧ s'.calls t = none
  route : ∀ t, s'.routePermits t ≠ none → s.routePermits t ≠ none ∨ s.calls t ≠ none ∧ s'.calls t = none
  phase : s.phase.toNat ≤ s'.phase.toNat
  closed : s.runtimeRoutesOpen = false → s'.runtimeRoutesOpen = false
  settled : ∀ key x, s'.settled key = some x → s.settled key = some x ∨ ∃ t, s.calls t = some (.settling key x)
  stays : ∀ key, s.settled key ≠ none → s'.settled key ≠ none
  settling : ∀ t key x, s.calls t = some (.settling key x) → t ≠ s.nextTask → a ≠ .abandon t →
    s'.calls t = some (.settling key x) ∨ s'.settled key = some x
  lost : ∀ key, s.active key ≠ none → s'.active key = none → a.takes key

variable {call : Call} {a : Action} {w : Coordinator}

theorem stepFrame_gates {g g' g'' : Locks.RwLock TaskId} {k l : TaskId → Bool} : StepFrame s a { s with
    launchGate := g, terminalGate := g', runtimeRouteGate := g'', cancelled := k, launching := l } :=
  ⟨Nat.le_refl _, fun _ => .inl, fun _ => .inl, fun _ => .inl, fun _ => .inl, Nat.le_refl _, id, fun _ _ => .inl,
    fun _ => id, fun _ _ _ h _ _ => .inl h, fun _ h h' => absurd h' h⟩

theorem StepFrame.setCall {c : Option Call} (hw : StepFrame s a w) (same : w.calls = s.calls) (hc : s.calls t = some call)
    (hcall : call.isSettling = false) : StepFrame s a (w.setCall t c) := by
  cases hw
  constructor <;> grind [Call.isSettling, Coordinator.setCall]

theorem StepFrame.start {c : Call} (hw : StepFrame s a w) (same : w.calls = s.calls) (hn : w.nextTask = s.nextTask) :
    StepFrame s a (w.start c) := by
  cases hw
  constructor <;> grind [Coordinator.start, Function.update_apply]

theorem stepFrame_advanceCall (hc : s.calls t = some call) : StepFrame s (.advance t) (s.advanceCall t call).1 := by
  cases call <;> simp [advanceCall]
  all_goals (repeat' split)
  all_goals first
    | exact stepFrame_gates
    | exact stepFrame_gates.setCall rfl hc rfl
    | (try simp only [setCall, setPermit]
       constructor <;> grind [Function.update_apply, ShutdownPhase.toNat])

theorem active_bindRouteInner {key k : ActiveExecutionKey} {binding : RuntimeRouteBinding} (h : s.active key ≠ none) :
    (s.bindRouteInner k binding).1.active key ≠ none := by
  unfold bindRouteInner
  split
  · exact h
  split
  · exact h
  simp only [Function.update_apply]
  split
  · exact Option.some_ne_none _
  · exact h

theorem stepFrame_next (s : Coordinator) (a : Action) : StepFrame s a (s.next a) := by
  cases a with
  | advance t =>
    simp only [next, step]
    split
    · exact stepFrame_advanceCall ‹_›
    · exact stepFrame_gates
  | advancePermit =>
    have hbind := fun key binding => bindRouteInner_eq s key binding
    have hactive := fun key binding k => @active_bindRouteInner s k key binding
    simp only [next, step, advancePermit, takeLaunchGuard, setPermit]
    repeat' split
    all_goals (constructor <;> grind [Function.update_apply])
  | closeTerminalAndRuntimeRouteAdmission =>
    have hclosed : s.phase.toNat ≤ ShutdownPhase.terminalClosed.toNat := by cases s.phase <;> decide
    simp only [next, step, start]
    constructor <;> grind [Function.update_apply]
  | _ =>
    simp [next, step]
    repeat' split
    all_goals first
      | exact stepFrame_gates
      | exact stepFrame_gates.start rfl rfl
      | exact stepFrame_gates.setCall rfl ‹_› rfl
      | (try simp only [setPermit, start, spend, setCall]
         constructor <;> grind [Function.update_apply, ShutdownPhase.toNat, Action.takes])

/-! ## Calls -/

/-- A wait of a drain stands as it was, ran out of time, or found its gate empty. -/
def Waited (s : Coordinator) (x y x' y' : Option Bool) : Prop :=
  (x' ≠ some true ∨ x = some true ∨ s.terminalGate.CanWrite) ∧ (y' ≠ some true ∨ y = some true ∨ s.runtimeRouteGate.CanWrite)

theorem waited_refl (s : Coordinator) (x y : Option Bool) : Waited s x y x y := by
  unfold Waited
  by_cases hx : x = some true <;> by_cases hy : y = some true <;> simp [hx, hy]

def Starts (s s' : Coordinator) : Call → Prop
  | .launchWaiting => s.phase = .accepting
  | .closureStarted => True
  | .terminalWaiting _ => s.phase ≠ .terminalClosed
  | .routeWaiting => s.runtimeRoutesOpen = true
  | .closing => s'.phase = .terminalClosed
  | .drain x y => x = none ∧ y = none
  | .settling key execution => ∃ e, s.active key = some e ∧ s'.active = Function.update s.active key none ∧
      e.binding = some execution.binding ∧ e.terminalFingerprint = some execution.terminalFingerprint ∧
      e.terminalOutcome = some execution.terminalOutcome ∧ e.plannedStopRequested = execution.plannedStopRequested
  | _ => False

def Goes (s : Coordinator) : Call → Call → Prop
  | .launchWaiting, .launchHolding => s.launchGate.writer = none
  | .closureStarted, .closureChecked => s.phase ≠ .draining
  | .closureChecked, .closureWaiting => s.phase ≠ .terminalClosed
  | .closureWaiting, .closureHolding => s.launchGate.CanWrite
  | .closureHolding, .closureLooking => s.phase ≠ .closingLaunch
  | .closureHolding, .closureDropping b => b = true ∧ s.phase = .closingLaunch
  | .closureLooking, .closureDropping b => b = decide (s.phase = .draining)
  | .terminalWaiting o, .terminalHolding o' => o = o' ∧ s.terminalGate.writer = none
  | .terminalHolding o, .terminalActive o' => o = o' ∧ s.phase = .draining
  | .terminalActive o, .terminalSettled o' => o = o' ∧ s.active o.key = none
  | .routeWaiting, .routeHolding => s.runtimeRouteGate.writer = none
  | .drain x y, .drain x' y' => Waited s x y x' y'
  | _, _ => False

/-- **Where a call that is under way after the step comes from.** -/
inductive Entered (s s' : Coordinator) (t : TaskId) (call : Call) : Prop where
  | stays (found : s.calls t = some call)
  | starts (fresh : t = s.nextTask) (first : Starts s s' call)
  | goes (before : Call) (found : s.calls t = some before) (step : Goes s before call)

theorem entered_of_start (c : Call) (hc : w.calls = s.calls) (hn : w.nextTask = s.nextTask)
    (hs : Starts s s' c) (h : (w.start c).calls t = some call) : Entered s s' t call := by
  rw [calls_start, hc, hn] at h
  split at h
  · cases h
    exact .starts ‹_› hs
  · exact .stays h

variable {u : TaskId}

theorem entered_of_setCall {c : Option Call} {call before : Call} (hc : w.calls = s.calls)
    (hu : s.calls u = some before) (hg : ∀ c', c = some c' → Goes s before c')
    (h : (w.setCall u c).calls t = some call) : Entered s s' t call := by
  rw [calls_setCall, hc] at h
  split at h
  · rename_i htu
    subst htu
    exact .goes before hu (hg call h)
  · exact .stays h

theorem entered_of_return (hc : w.calls = s.calls)
    (h : (w.setCall u none).calls t = some call) : Entered s s' t call := by
  rw [calls_setCall, hc] at h
  split at h
  · cases h
  · exact .stays h

theorem entered_of_joinDrain {x y x' y' : Option Bool} (hu : s.calls u = some (.drain x y))
    (hw : Waited s x y x' y') (h : (s.joinDrain u x' y').1.calls t = some call) : Entered s s' t call := by
  unfold joinDrain at h
  split at h
  · exact entered_of_return rfl h
  · exact entered_of_setCall rfl hu (by rintro _ ⟨⟩; exact hw) h

variable {o : RuntimeTerminalObservation}

theorem entered_of_admitActive
    (hu : s.calls u = some (.terminalActive o)) (h : (s.admitActive u o).1.calls t = some call) : Entered s s' t call := by
  unfold admitActive at h
  split at h
  · rename_i hnone
    exact entered_of_setCall rfl hu (by rintro _ ⟨⟩; exact ⟨rfl, hnone⟩) h
  · repeat' split at h
    all_goals exact entered_of_return rfl h

theorem entered_of_admitSettled
    (h : (s.admitSettled u o).1.calls t = some call) : Entered s s' t call := by
  unfold admitSettled at h
  repeat' split at h
  all_goals exact entered_of_return rfl h

theorem entered_advanceCall {before call : Call} (hu : s.calls u = some before)
    (h : (s.advanceCall u before).1.calls t = some call) : Entered s s' t call := by
  cases before with
  | launchHolding =>
    simp only [advanceCall, checkLaunch] at h
    split at h <;> exact entered_of_return rfl h
  | closureHolding =>
    simp only [advanceCall, enterDraining] at h
    split at h
    · exact entered_of_setCall (w := { s with phase := .draining }) rfl hu (by rintro _ ⟨⟩; exact ⟨rfl, by assumption⟩) h
    · exact entered_of_setCall rfl hu (by rintro _ ⟨⟩; assumption) h
  | closureLooking => exact entered_of_setCall rfl hu (by rintro _ ⟨⟩; rfl) h
  | closureDropping b => exact entered_of_return (w := { s with launchGate := _ }) rfl h
  | terminalHolding o =>
    simp only [advanceCall, classifyTerminal] at h
    split at h
    · exact entered_of_return rfl h
    · exact entered_of_return rfl h
    · exact entered_of_setCall rfl hu (by rintro _ ⟨⟩; exact ⟨rfl, by assumption⟩) h
    · exact entered_of_return rfl h
  | terminalActive o => exact entered_of_admitActive hu h
  | terminalSettled o => exact entered_of_admitSettled h
  | routeHolding =>
    simp only [advanceCall, checkRoute] at h
    split at h <;> exact entered_of_return rfl h
  | closing => exact entered_of_return (w := { s with runtimeRoutesOpen := false }) rfl h
  | settling => exact entered_of_return (w := { s with settled := _ }) rfl h
  | drain x y =>
    cases x with
    | none =>
      simp only [advanceCall] at h
      split at h
      · refine entered_of_joinDrain hu ?_ h
        exact ⟨.inr (.inr ‹_›), (waited_refl s none y).2⟩
      · exact .stays h
    | some b => exact .stays h
  | terminalWaiting o =>
    simp only [advanceCall] at h
    split at h
    · exact entered_of_setCall (w := { s with terminalGate := _ }) rfl hu (by rintro _ ⟨⟩; exact ⟨rfl, by assumption⟩) h
    · exact .stays h
  | _ =>
    simp only [advanceCall] at h
    split at h
    · exact entered_of_setCall rfl hu (by rintro _ ⟨⟩ <;> assumption) h
    · first | exact .stays h | exact entered_of_setCall rfl hu (by rintro _ ⟨⟩; assumption) h

theorem calls_advancePermit (s : Coordinator) (p : TaskId) (index : Nat) : (s.advancePermit p index).1.calls = s.calls := by
  simp only [advancePermit]
  repeat' split
  case h_2 b hb =>
    have heq := bindRouteInner_eq s ‹_› ‹_›
    rw [hb] at heq
    have hsame := congrArg Coordinator.calls heq
    exact hsame
  all_goals rfl

theorem entered_removeActive {key : ActiveExecutionKey} {cleanup : Bool}
    (h : (s.removeActive key cleanup).1.calls t = some call) : Entered s (s.removeActive key cleanup).1 t call := by
  unfold removeActive at h ⊢
  split at h
  · exact .stays h
  rename_i e he
  split at h
  · exact .stays h
  rename_i hdone
  simp only at h
  split at h
  · rename_i hb hf ho
    refine entered_of_start (.settling key _) rfl rfl ⟨e, he, ?_, hb, hf, ho, rfl⟩ h
    rw [if_neg hdone]
    rfl
  · exact .stays h

theorem entered_next (h : (s.next a).calls t = some call) : Entered s (s.next a) t call := by
  cases a with
  | advance u =>
    simp only [next, step] at h
    split at h
    · exact entered_advanceCall ‹_› h
    · exact .stays h
  | expire u =>
    simp only [next, step] at h
    split at h
    · rename_i before hu
      unfold expireCall at h
      split at h
      · exact entered_of_return rfl h
      · exact entered_of_joinDrain hu ⟨.inl (by simp), (waited_refl s none _).2⟩ h
      · exact .stays h
    · exact .stays h
  | abandon u =>
    simp only [next, step] at h
    split at h
    · unfold abandonCall at h
      split at h
      all_goals first | exact entered_of_return rfl h | exact .stays h
    · exact .stays h
  | drainRoute u =>
    simp only [next, step] at h
    split at h
    · rename_i before hu
      unfold drainRoute at h
      split at h
      · split at h
        · exact entered_of_joinDrain hu ⟨(waited_refl s _ none).1, .inr (.inr ‹_›)⟩ h
        · exact .stays h
      · exact .stays h
    · exact .stays h
  | expireRoute u =>
    simp only [next, step] at h
    split at h
    · rename_i before hu
      unfold expireRoute at h
      split at h
      · exact entered_of_joinDrain hu ⟨(waited_refl s _ none).1, .inl (by simp)⟩ h
      · exact .stays h
    · exact .stays h
  | enterLaunch =>
    simp only [next, step, enterLaunch] at h
    split at h
    · exact .stays h
    rename_i hp
    exact entered_of_start .launchWaiting rfl rfl (not_not.1 hp) h
  | finishLaunchClosure =>
    simp only [next, step, closeLaunchAdmission] at h
    split at h
    · exact entered_of_start (w := { s with phase := .closingLaunch }) .closureStarted rfl rfl trivial h
    · exact entered_of_start .closureStarted rfl rfl trivial h
  | admitTerminal o =>
    simp only [next, step, admitTerminal] at h
    split at h
    · exact .stays h
    · exact entered_of_start (.terminalWaiting o) rfl rfl ‹_› h
  | enterRuntimeRoute =>
    simp only [next, step, enterRuntimeRoute] at h
    split at h
    · exact .stays h
    rename_i hopen
    exact entered_of_start .routeWaiting rfl rfl (by simpa [Starts] using hopen) h
  | closeTerminalAndRuntimeRouteAdmission =>
    exact entered_of_start (w := { s with phase := .terminalClosed }) .closing rfl rfl rfl h
  | drainTerminalAndRuntimeRoutes => exact entered_of_start (.drain none none) rfl rfl ⟨rfl, rfl⟩ h
  | removeActive => exact entered_removeActive h
  | advancePermit p index =>
    rw [show s.next (.advancePermit p index) = (s.advancePermit p index).1 from rfl, calls_advancePermit] at h
    exact .stays h
  | _ =>
    refine .stays ?_
    simp [next, step, setPermit] at h
    repeat' split at h
    all_goals exact h

/-! ## Answers -/

/-- **What an answer says about the state and the operation that gave it.** -/
def Answers (s : Coordinator) (a : Action) : Reply → Prop
  | .launched (some p) => a = .advance p ∧ s.calls p = some .launchHolding ∧ s.phase = .accepting
  | .registered true | .handedOff true => ∃ p permit, s.launchPermits p = some permit ∧ permit.pending ≠ []
  | .refused t o error => error = .closed ∧ s.phase = .terminalClosed ∨
      a = .advance t ∧ (s.calls t = some (.terminalActive o) ∨ s.calls t = some (.terminalSettled o))
  | .admitted t o planned => a = .advance t ∧
      (s.calls t = some (.terminalHolding o) ∧ (s.phase = .accepting ∨ s.phase = .closingLaunch) ∧ planned = none ∨
        (s.calls t = some (.terminalActive o) ∨ s.calls t = some (.terminalSettled o)) ∧ planned ≠ none)
  | .routed (some t) => a = .advance t ∧ s.calls t = some .routeHolding ∧ s.runtimeRoutesOpen = true
  | .admissionClosed => ∃ t, a = .advance t ∧ s.calls t = some .closing
  | .drained t b c => ∃ x y, s.calls t = some (.drain x y) ∧ Waited s x y (some b) (some c)
  | .marked true => ∃ key, a = .markPlannedStopRequested key
  | _ => True

theorem answers_joinDrain {x y x' y' : Option Bool} (hc : s.calls t = some (.drain x y))
    (hw : Waited s x y x' y') : Answers s a (s.joinDrain t x' y').2 := by
  unfold joinDrain
  split
  · exact ⟨x, y, hc, hw⟩
  · trivial

theorem answers_advanceCall (hc : s.calls t = some call) : Answers s (.advance t) (s.advanceCall t call).2 := by
  cases call with
  | drain x y =>
    cases x with
    | none =>
      simp only [advanceCall]
      split
      · exact answers_joinDrain hc ⟨.inr (.inr ‹_›), (waited_refl s none y).2⟩
      · trivial
    | some b => trivial
  | _ =>
    simp [advanceCall]
    repeat' split
    all_goals simp_all [Answers]

theorem answers_advancePermit (s : Coordinator) (p : TaskId) (index : Nat) :
    Answers s a (s.advancePermit p index).2 := by
  simp only [advancePermit]
  split
  · trivial
  rename_i permit hp
  split
  · trivial
  all_goals
    rename_i hc
    have hne : permit.pending ≠ [] := by
      intro hnil
      rw [hnil] at hc
      cases hc
    repeat' split
    all_goals first | trivial | exact ⟨p, permit, hp, hne⟩

theorem answers_reply (s : Coordinator) (a : Action) : Answers s a (s.reply a) := by
  cases a with
  | advance t =>
    simp only [reply, step]
    split
    · exact answers_advanceCall ‹_›
    · trivial
  | expire t =>
    simp only [reply, step]
    split
    · unfold expireCall
      split
      · trivial
      · exact answers_joinDrain ‹_› ⟨.inl (by simp), (waited_refl s none _).2⟩
      · trivial
    · trivial
  | drainRoute t =>
    simp only [reply, step]
    split
    · unfold drainRoute
      split
      · split
        · exact answers_joinDrain ‹_› ⟨(waited_refl s _ none).1, .inr (.inr ‹_›)⟩
        · trivial
      · trivial
    · trivial
  | expireRoute t =>
    simp only [reply, step]
    split
    · unfold expireRoute
      split
      · exact answers_joinDrain ‹_› ⟨(waited_refl s _ none).1, .inl (by simp)⟩
      · trivial
    · trivial
  | advancePermit p index => exact answers_advancePermit s p index
  | _ =>
    simp [reply, step]
    repeat' split
    all_goals simp_all [Answers]

/-! ## The launch gate -/

def HoldsBarrier (s : Coordinator) (t : TaskId) : Prop :=
  s.calls t = some .closureHolding ∨ s.calls t = some .closureLooking ∨ ∃ b, s.calls t = some (.closureDropping b)

def Lone (pending : List PermitCall) : Prop := (∀ call ∈ pending, call.isRegistering = true) ∨ pending.length ≤ 1

theorem lone_eraseIdx {l : List PermitCall} (i : Nat) (h : Lone l) : Lone (l.eraseIdx i) := by
  rcases h with h | h
  · exact .inl fun call hc => h call (List.mem_of_mem_eraseIdx hc)
  · exact .inr (Nat.le_trans (List.length_eraseIdx_le ..) h)

theorem lone_set {l : List PermitCall} {i : Nat} {call : PermitCall} (h : Lone l) (hi : l[i]? = some call)
    (hcall : call.isRegistering = false) (new : PermitCall) : Lone (l.set i new) := by
  rcases h with h | h
  · rw [h call (List.mem_of_getElem? hi)] at hcall
    cases hcall
  · exact .inr (by rwa [List.length_set])

theorem eq_of_update {c : Option Call} {p : Call → Bool} (hc : c.any p = false) (hp : p call = true) {u : TaskId}
    (h : Function.update s.calls t c u = some call) : s.calls u = some call := by
  rw [Function.update_apply] at h
  split at h
  · rw [h, Option.any_some, hp] at hc
    cases hc
  · exact h

structure LaunchQuiet (s s' : Coordinator) : Prop where
  gate : s'.launchGate = s.launchGate
  permits : s'.launchPermits = s.launchPermits
  phase : s'.phase = .draining → s.phase = .draining
  holding : ∀ t, s'.calls t = some .launchHolding → s.calls t = some .launchHolding
  barrier : ∀ t, HoldsBarrier s' t → HoldsBarrier s t

theorem LaunchQuiet.refl (s : Coordinator) : LaunchQuiet s s := ⟨rfl, rfl, id, fun _ h => h, fun _ h => h⟩

theorem launchQuiet_update {c : Option Call} (hc : c.any Call.atLaunch = false) (gate : s'.launchGate = s.launchGate)
    (permits : s'.launchPermits = s.launchPermits) (phase : s'.phase = .draining → s.phase = .draining)
    (calls : s'.calls = Function.update s.calls t c) : LaunchQuiet s s' := by
  refine ⟨gate, permits, phase, fun u h => ?_, fun u h => ?_⟩
  · rw [calls] at h
    exact eq_of_update hc rfl h
  · rw [HoldsBarrier, calls] at h
    exact h.imp (eq_of_update hc rfl) (.imp (eq_of_update hc rfl) fun ⟨b, hb⟩ => ⟨b, eq_of_update hc rfl hb⟩)

inductive LaunchMove (s s' : Coordinator) : Prop where
  | quiet (same : LaunchQuiet s s')
  | enters (t : TaskId) (free : s.launchGate.writer = none)
      (after : s' = { s with launchGate := s.launchGate.read t }.setCall t (some .launchHolding))
  | leaves (t : TaskId) (call : s.calls t = some .launchHolding)
      (after : s' = { s with launchGate := s.launchGate.endRead t }.setCall t none)
  | issues (t : TaskId) (accepting : s.phase = .accepting) (call : s.calls t = some .launchHolding)
      (after : s' = ({ s with launching := Function.update s.launching t true }.setPermit t
        (some { generation := s.generation, guard := true, pending := [] })).setCall t none)
  | closes (t : TaskId) (free : s.launchGate.CanWrite)
      (after : s' = { s with launchGate := s.launchGate.write t }.setCall t (some .closureHolding))
  | drains (t : TaskId) (call : s.calls t = some .closureHolding)
      (after : s' = { s with phase := .draining }.setCall t (some (.closureDropping true)))
  | opens (t : TaskId) (call : HoldsBarrier s t)
      (after : s' = { s with launchGate := s.launchGate.endWrite }.setCall t none)
  | borrows (p : TaskId) (permit : LaunchPermit) (pending : List PermitCall) (found : s.launchPermits p = some permit)
      (guarded : pending ≠ [] → permit.guard = true ∨ permit.pending ≠ []) (lone : Lone permit.pending → Lone pending)
      (same : LaunchQuiet (s.setPermit p (some { permit with pending := pending })) s')
  | releases (p : TaskId) (permit : LaunchPermit) (index : Nat) (found : s.launchPermits p = some permit)
      (bound : permit.pending[index]? = some .bound)
      (after : s' = (s.takeLaunchGuard p).setPermit p
        (some { permit with guard := false, pending := permit.pending.eraseIdx index }))
  | drops (p : TaskId) (found : s.launchPermits p ≠ none)
      (after : s' = ({ s with launching := Function.update s.launching p false }.takeLaunchGuard p).setPermit p none)

theorem launchMove_advanceCall (hc : s.calls t = some call) : LaunchMove s (s.advanceCall t call).1 := by
  cases call with
  | launchWaiting =>
    simp only [advanceCall]
    split
    · exact .enters t ‹_› rfl
    · exact .quiet (.refl s)
  | launchHolding =>
    simp only [advanceCall, checkLaunch]
    split
    · exact .leaves t hc rfl
    rename_i h
    exact .issues t (by simpa using h) hc rfl
  | closureWaiting =>
    simp only [advanceCall]
    split
    · exact .closes t ‹_› rfl
    · exact .quiet (.refl s)
  | closureHolding =>
    simp only [advanceCall, enterDraining]
    split
    · exact .drains t hc rfl
    · refine .quiet ⟨rfl, rfl, id, ?_, ?_⟩ <;> grind [HoldsBarrier]
  | closureDropping b => exact .opens t (.inr (.inr ⟨b, hc⟩)) rfl
  | _ =>
    refine .quiet ?_
    simp [advanceCall, setCall]
    repeat' split
    all_goals first
      | exact ⟨rfl, rfl, id, fun _ h => h, fun _ h => h⟩
      | exact launchQuiet_update rfl rfl rfl id rfl
      | (constructor <;> grind [HoldsBarrier, Function.update_apply])

theorem launchMove_advancePermit (s : Coordinator) (p : TaskId) (index : Nat) :
    LaunchMove s (s.advancePermit p index).1 := by
  simp only [advancePermit]
  split
  · exact .quiet (.refl s)
  rename_i permit hp
  have hne : ∀ {call}, permit.pending[index]? = some call → permit.pending ≠ [] := by
    rintro call hc hnil
    rw [hnil] at hc
    cases hc
  split
  · exact .quiet (.refl s)
  · rename_i key hc
    split
    · exact .borrows p permit _ hp (fun _ => .inr (hne hc)) (lone_eraseIdx index) (.refl _)
    exact .borrows p permit _ hp (fun _ => .inr (hne hc)) (lone_eraseIdx index)
      ⟨rfl, rfl, id, fun _ h => h, fun _ h => h⟩
  · rename_i key binding hc
    split
    · exact .borrows p permit _ hp (fun _ => .inr (hne hc)) (lone_eraseIdx index) (.refl _)
    rename_i b hb
    refine .borrows p permit _ hp (fun _ => .inr (hne hc)) (fun hl => lone_set hl hc rfl .bound) ?_
    have hsame : b.launchGate = s.launchGate ∧ b.launchPermits = s.launchPermits ∧ b.phase = s.phase ∧
        b.calls = s.calls := by
      grind [bindRouteInner]
    constructor <;> grind [HoldsBarrier, setPermit]
  · rename_i hc
    exact .releases p permit index hp hc (by simp [setPermit, takeLaunchGuard])

theorem launchMove_next (s : Coordinator) (a : Action) : LaunchMove s (s.next a) := by
  cases a with
  | advance t =>
    simp only [next, step]
    split
    · exact launchMove_advanceCall ‹_›
    · exact .quiet (.refl s)
  | dropLaunchPermit p =>
    simp only [next, step, dropLaunchPermit]
    split
    · rename_i permit hp
      split
      · exact .drops p (by rw [hp]; exact Option.some_ne_none _) rfl
      · exact .quiet (.refl s)
    · exact .quiet (.refl s)
  | registerActive p key =>
    simp only [next, step, registerActive]
    split
    · rename_i permit hp
      split
      · exact .quiet (.refl s)
      rename_i hall
      split
      · exact .quiet (.refl s)
      rename_i hguard
      refine .borrows p permit _ hp (fun _ => .inl (by grind)) (fun _ => .inl ?_) (.refl _)
      intro call hc
      rcases List.mem_append.1 hc with hold | hnew
      · by_contra hnot
        refine hall (List.any_eq_true.2 ⟨call, hold, ?_⟩)
        cases call <;> simp_all [PermitCall.isRegistering]
      · rw [List.mem_singleton.1 hnew]
        rfl
    · exact .quiet (.refl s)
  | completeHandoff p key binding =>
    simp only [next, step, completeHandoff]
    split
    · rename_i permit hp
      split
      · exact .quiet (.refl s)
      split
      · exact .quiet (.refl s)
      · exact .borrows p permit _ hp (fun _ => .inl (by grind)) (fun _ => .inr (by simp)) (.refl _)
    · exact .quiet (.refl s)
  | advancePermit p index => exact launchMove_advancePermit s p index
  | abandonPermit p index =>
    simp only [next, step, abandonPermit]
    split
    · exact .quiet (.refl s)
    rename_i permit hp
    have hne : permit.pending.eraseIdx index ≠ [] → permit.pending ≠ [] := by
      rintro h hnil
      exact h (by rw [hnil]; rfl)
    split
    · exact .borrows p permit _ hp (fun h => .inr (hne h)) (lone_eraseIdx index) (.refl _)
    · exact .borrows p permit _ hp (fun h => .inr (hne h)) (lone_eraseIdx index) (.refl _)
    · exact .quiet (.refl s)
  | _ =>
    refine .quiet ?_
    simp [next, step, setCall, start, spend]
    repeat' split
    all_goals first
      | exact ⟨rfl, rfl, id, fun _ h => h, fun _ h => h⟩
      | exact launchQuiet_update rfl rfl rfl id rfl
      | (constructor <;> grind [HoldsBarrier, Function.update_apply])

/-! ## The terminal gate -/

/-- A call between the two looks of `admit_terminal` and its answer. -/
def Passed (s : Coordinator) (t : TaskId) : Prop :=
  ∃ o, s.calls t = some (.terminalActive o) ∨ s.calls t = some (.terminalSettled o)

structure TerminalQuiet (s s' : Coordinator) : Prop where
  gate : s'.terminalGate = s.terminalGate
  admissions : s'.admissions = s.admissions
  holding : ∀ t o, s'.calls t = some (.terminalHolding o) → s.calls t = some (.terminalHolding o)
  passed : ∀ t, Passed s' t → Passed s t

inductive TerminalMove (s s' : Coordinator) : Prop where
  | quiet (same : TerminalQuiet s s')
  | enters (t : TaskId) (o : RuntimeTerminalObservation)
      (after : s' = { s with terminalGate := s.terminalGate.read t }.setCall t (some (.terminalHolding o)))
  | passes (t : TaskId) (o : RuntimeTerminalObservation) (draining : s.phase = .draining)
      (call : s.calls t = some (.terminalHolding o)) (after : s' = s.setCall t (some (.terminalActive o)))
  | admits (t : TaskId) (admission : Admission)
      (call : (∃ o, s.calls t = some (.terminalHolding o)) ∧ s.phase ≠ .terminalClosed ∨ Passed s t)
      (gate : s'.terminalGate = s.terminalGate)
      (admissions : s'.admissions = Function.update s.admissions t (some admission))
      (calls : s'.calls = Function.update s.calls t none)
  | refuses (t : TaskId) (call : s.calls t ≠ none)
      (after : s' = { s with terminalGate := s.terminalGate.endRead t }.setCall t none)
  | releases (t : TaskId) (admission : Admission) (found : s.admissions t = some admission)
      (after : s' = { s with
        terminalGate := s.terminalGate.endRead t
        admissions := Function.update s.admissions t (some { admission with guard := false }) })

theorem TerminalQuiet.refl (s : Coordinator) : TerminalQuiet s s := ⟨rfl, rfl, fun _ _ h => h, fun _ h => h⟩

theorem terminalQuiet_update {c : Option Call} (hc : c.any Call.atTerminal = false) (gate : s'.terminalGate = s.terminalGate)
    (admissions : s'.admissions = s.admissions) (calls : s'.calls = Function.update s.calls t c) : TerminalQuiet s s' := by
  refine ⟨gate, admissions, fun u o h => ?_, fun u ⟨o, h⟩ => ⟨o, ?_⟩⟩
  · rw [calls] at h
    exact eq_of_update hc rfl h
  · rw [calls] at h
    exact h.imp (eq_of_update hc rfl) (eq_of_update hc rfl)

theorem terminalMove_admit {planned : Option Bool}
    (call : (∃ o, s.calls t = some (.terminalHolding o)) ∧ s.phase ≠ .terminalClosed ∨ Passed s t) :
    TerminalMove s (s.grantPermit t o planned).1 :=
  .admits t _ call rfl rfl rfl

theorem terminalMove_refuse {error : TerminalAdmissionError} (call : s.calls t ≠ none) :
    TerminalMove s (s.refuse t o error).1 :=
  .refuses t call rfl

theorem terminalMove_admitActive (hc : s.calls t = some (.terminalActive o)) :
    TerminalMove s (s.admitActive t o).1 := by
  have hpassed : Passed s t := ⟨o, .inl hc⟩
  have hcall : s.calls t ≠ none := by rw [hc]; exact Option.some_ne_none _
  simp only [admitActive]
  split
  · exact .quiet ⟨rfl, rfl, by grind, by grind [Passed]⟩
  split
  · exact terminalMove_refuse hcall
  split
  · exact terminalMove_refuse hcall
  split
  · split
    · exact terminalMove_refuse hcall
    · exact terminalMove_admit (.inr hpassed)
  · exact .admits t _ (.inr hpassed) rfl rfl rfl
  · exact terminalMove_refuse hcall

theorem terminalMove_admitSettled (hc : s.calls t = some (.terminalSettled o)) :
    TerminalMove s (s.admitSettled t o).1 := by
  have hpassed : Passed s t := ⟨o, .inr hc⟩
  have hcall : s.calls t ≠ none := by rw [hc]; exact Option.some_ne_none _
  simp only [admitSettled]
  repeat' split
  all_goals first | exact terminalMove_refuse hcall | exact terminalMove_admit (.inr hpassed)

theorem terminalMove_next (s : Coordinator) (a : Action) : TerminalMove s (s.next a) := by
  cases a with
  | advance t =>
    simp only [next, step]
    split
    · rename_i call hc
      cases call with
      | terminalWaiting o =>
        simp only [advanceCall]
        split
        · exact .enters t o rfl
        · exact .quiet (.refl s)
      | terminalHolding o =>
        simp only [advanceCall, classifyTerminal]
        split
        · exact terminalMove_admit (.inl ⟨⟨o, hc⟩, by simp_all⟩)
        · exact terminalMove_admit (.inl ⟨⟨o, hc⟩, by simp_all⟩)
        · exact .passes t o ‹_› hc rfl
        · exact terminalMove_refuse (by rw [hc]; exact Option.some_ne_none _)
      | terminalActive o => exact terminalMove_admitActive hc
      | terminalSettled o => exact terminalMove_admitSettled hc
      | _ =>
        refine .quiet ?_
        simp [advanceCall, setCall, setPermit]
        repeat' split
        all_goals first
          | exact ⟨rfl, rfl, fun _ _ h => h, fun _ h => h⟩
          | exact terminalQuiet_update rfl rfl rfl rfl
          | contradiction
    · exact .quiet (.refl s)
  | abandon t =>
    simp only [next, step]
    split
    · rename_i call hc
      cases call with
      | terminalActive o | terminalSettled o => exact .refuses t (by rw [hc]; exact Option.some_ne_none _) rfl
      | _ =>
        refine .quiet ?_
        simp only [abandonCall, setCall]
        constructor <;> grind [Passed, Function.update_apply]
    · exact .quiet (.refl s)
  | completeSettlement t =>
    simp only [next, step, completeSettlement]
    split
    · exact .releases t _ ‹_› rfl
    · exact .quiet (.refl s)
  | _ =>
    refine .quiet ?_
    simp [next, step, setCall, setPermit, start, spend]
    repeat' split
    all_goals first
      | exact ⟨rfl, rfl, fun _ _ h => h, fun _ h => h⟩
      | exact terminalQuiet_update rfl rfl rfl rfl
      | (constructor <;> grind [Passed])

/-! ## The route gate -/

structure RouteQuiet (s s' : Coordinator) : Prop where
  gate : s'.runtimeRouteGate = s.runtimeRouteGate
  permits : s'.routePermits = s.routePermits
  holding : ∀ t, s'.calls t = some .routeHolding → s.calls t = some .routeHolding

inductive RouteMove (s s' : Coordinator) : Prop where
  | quiet (same : RouteQuiet s s')
  | enters (t : TaskId)
      (after : s' = { s with runtimeRouteGate := s.runtimeRouteGate.read t }.setCall t (some .routeHolding))
  | leaves (t : TaskId) (call : s.calls t = some .routeHolding)
      (after : s' = { s with runtimeRouteGate := s.runtimeRouteGate.endRead t }.setCall t none)
  | issues (t : TaskId) (routes : s.runtimeRoutesOpen = true) (call : s.calls t = some .routeHolding)
      (after : s' = { s with routePermits := Function.update s.routePermits t (some true) }.setCall t none)
  | releases (t : TaskId) (found : s.routePermits t ≠ none)
      (after : s' = { s with
        runtimeRouteGate := s.runtimeRouteGate.endRead t
        routePermits := Function.update s.routePermits t (some false) })

theorem RouteQuiet.refl (s : Coordinator) : RouteQuiet s s := ⟨rfl, rfl, fun _ h => h⟩

theorem routeQuiet_update {c : Option Call} (hc : c.any Call.atRoute = false) (gate : s'.runtimeRouteGate = s.runtimeRouteGate)
    (permits : s'.routePermits = s.routePermits) (calls : s'.calls = Function.update s.calls t c) : RouteQuiet s s' := by
  refine ⟨gate, permits, fun u h => ?_⟩
  rw [calls] at h
  exact eq_of_update hc rfl h

theorem routeMove_next (s : Coordinator) (a : Action) : RouteMove s (s.next a) := by
  cases a with
  | advance t =>
    simp only [next, step]
    split
    · rename_i call hc
      cases call with
      | routeWaiting =>
        simp only [advanceCall]
        split
        · exact .enters t rfl
        · exact .quiet (.refl s)
      | routeHolding =>
        simp only [advanceCall, checkRoute]
        split
        · exact .leaves t hc rfl
        rename_i hopen
        exact .issues t (by simpa using hopen) hc rfl
      | _ =>
        refine .quiet ?_
        simp [advanceCall, setCall, setPermit]
        repeat' split
        all_goals first
          | exact ⟨rfl, rfl, fun _ h => h⟩
          | exact routeQuiet_update rfl rfl rfl rfl
          | contradiction
    · exact .quiet (.refl s)
  | completeCallback t =>
    simp only [next, step, completeCallback]
    split
    · rename_i b hb
      exact .releases t (by rw [hb]; exact Option.some_ne_none _) rfl
    · exact .quiet (.refl s)
  | _ =>
    refine .quiet ?_
    simp [next, step, setCall, setPermit, start, spend]
    repeat' split
    all_goals first
      | exact ⟨rfl, rfl, fun _ h => h⟩
      | exact routeQuiet_update rfl rfl rfl rfl
      | (constructor <;> grind)

end Coordinator
end Rovai.Shutdown
