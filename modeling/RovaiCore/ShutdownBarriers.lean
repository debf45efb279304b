import RovaiCore.ShutdownMoves
/-!
# The barriers of a planned shutdown

From the moves at the gates: a holder of a guard is a reader of its gate, so who takes the gate for writing finds no guard, and no
guard comes back once the phase has moved on.
-/
namespace Rovai.Shutdown

namespace Coordinator

variable {s s' : Coordinator} {t : TaskId}

/-! ## Tasks -/

structure TaskInv (s : Coordinator) : Prop where
  call_lt : ∀ t, s.calls t ≠ none → t < s.nextTask
  launch_lt : ∀ t, s.launchPermits t ≠ none → t < s.nextTask
  admission_lt : ∀ t, s.admissions t ≠ none → t < s.nextTask
  route_lt : ∀ t, s.routePermits t ≠ none → t < s.nextTask
  launch_returned : ∀ t, s.launchPermits t ≠ none → s.calls t = none
  admission_returned : ∀ t, s.admissions t ≠ none → s.calls t = none
  route_returned : ∀ t, s.routePermits t ≠ none → s.calls t = none

theorem taskInv_frame (h : TaskInv s) (f : StepFrame s a s') : TaskInv s' := by
  have hcall : ∀ t, s.calls t ≠ none → t < s'.nextTask := fun t ht => Nat.lt_of_lt_of_le (h.call_lt t ht) f.le
  have hreturned : ∀ t, t < s.nextTask → s.calls t = none → s'.calls t = none := by
    intro t hlt hnone
    by_contra hne
    rcases f.calls t hne with hold | ⟨heq, -⟩
    · exact hold hnone
    · exact absurd hlt (by rw [heq]; exact Nat.lt_irrefl _)
  have hlt : ∀ {p : Prop} {t}, (p → t < s.nextTask) → p ∨ s.calls t ≠ none ∧ s'.calls t = none → t < s'.nextTask
    | _, _, hold, .inl hp => Nat.lt_of_lt_of_le (hold hp) f.le
    | _, t, _, .inr hc => hcall t hc.1
  have hnone : ∀ {p : Prop} {t}, (p → t < s.nextTask) → (p → s.calls t = none) →
      p ∨ s.calls t ≠ none ∧ s'.calls t = none → s'.calls t = none
    | _, t, hold, hret, .inl hp => hreturned t (hold hp) (hret hp)
    | _, _, _, _, .inr hc => hc.2
  exact ⟨fun t ht => (f.calls t ht).elim (hcall t) And.right,
    fun t ht => hlt (h.launch_lt t) (f.launch t ht), fun t ht => hlt (h.admission_lt t) (f.admission t ht),
    fun t ht => hlt (h.route_lt t) (f.route t ht), fun t ht => hnone (h.launch_lt t) (h.launch_returned t) (f.launch t ht),
    fun t ht => hnone (h.admission_lt t) (h.admission_returned t) (f.admission t ht),
    fun t ht => hnone (h.route_lt t) (h.route_returned t) (f.route t ht)⟩

variable (generation : String)

theorem taskInv_new : TaskInv (.new generation) := by
  constructor <;> intro t ht <;> exact absurd rfl ht

/-! ## The launch gate -/

/-- A guard of the launch gate: with a call before its second look, or with a permit. -/
def HoldsLaunch (s : Coordinator) (t : TaskId) : Prop :=
  s.calls t = some .launchHolding ∨ ∃ permit, s.launchPermits t = some permit ∧ permit.guard = true

structure PermitInv (phase : ShutdownPhase) (permit : LaunchPermit) : Prop where
  draining : phase = .draining → permit.guard = false
  borrowed : permit.pending ≠ [] → permit.guard = true
  lone : Lone permit.pending

/-- Who holds a guard of the launch gate is inside it, who holds the barrier is alone there. -/
structure LaunchInv (s : Coordinator) : Prop where
  exclusive : s.launchGate.Exclusive
  readers : ∀ t, HoldsLaunch s t → t ∈ s.launchGate.readers
  barrier : ∀ t, HoldsBarrier s t → s.launchGate.writer = some t
  permits : ∀ p permit, s.launchPermits p = some permit → PermitInv s.phase permit

theorem launchInv_new : LaunchInv (.new generation) := by
  refine ⟨fun _ => rfl, ?_, ?_, ?_⟩ <;> simp [new, HoldsLaunch, HoldsBarrier]

theorem launchInv_quiet (h : LaunchInv s) (q : LaunchQuiet s s') : LaunchInv s' := by
  refine ⟨?_, fun t ht => ?_, fun t ht => ?_, fun p permit hp => ?_⟩
  · rw [q.gate]
    exact h.exclusive
  · rw [q.gate]
    refine h.readers t ?_
    rcases ht with hc | hp
    · exact .inl (q.holding t hc)
    · exact .inr (by rwa [q.permits] at hp)
  · rw [q.gate]
    exact h.barrier t (q.barrier t ht)
  · rw [q.permits] at hp
    have hold := h.permits p permit hp
    exact ⟨fun hd => hold.draining (q.phase hd), hold.borrowed, hold.lone⟩

theorem eraseIdx_bound {l : List PermitCall} {i : Nat} (hl : Lone l) (hi : l[i]? = some .bound) : l.eraseIdx i = [] := by
  rcases hl with hl | hl
  · exact absurd (hl _ (List.mem_of_getElem? hi)) (by decide)
  match l, i with
  | [], _ => rfl
  | [_], 0 => rfl
  | [_], _ + 1 => cases hi
  | _ :: _ :: _, _ => simp at hl

theorem permits_setPermit {P : LaunchPermit → Prop} {p : TaskId} {new : Option LaunchPermit}
    (h : ∀ u permit, s.launchPermits u = some permit → P permit) (hnew : ∀ permit, new = some permit → P permit) (u : TaskId)
    (permit : LaunchPermit) (hp : (s.setPermit p new).launchPermits u = some permit) : P permit := by
  rw [launchPermits_setPermit] at hp
  by_cases hup : u = p
  · rw [if_pos hup] at hp
    exact hnew permit hp
  · rw [if_neg hup] at hp
    exact h u permit hp

theorem mem_endRead_of_holds {u : TaskId} (h : LaunchInv s) (hu : HoldsLaunch s u) (hut : u ≠ t) :
    u ∈ (s.launchGate.endRead t).readers :=
  Locks.RwLock.mem_endRead.2 ⟨h.readers u hu, hut⟩

theorem holdsLaunch_drop {p u : TaskId} {new : Option LaunchPermit} (hnew : ∀ permit, new = some permit → permit.guard = false)
    (hcall : s.calls p = none) (hu : HoldsLaunch ((s.takeLaunchGuard p).setPermit p new) u) : HoldsLaunch s u ∧ u ≠ p := by
  have hup : u ≠ p := by
    rintro rfl
    rcases hu with hc | ⟨permit, hp, hg⟩
    · exact absurd (hc.symm.trans hcall) (by simp)
    rw [launchPermits_setPermit, if_pos rfl] at hp
    rw [hnew permit hp] at hg
    cases hg
  refine ⟨?_, hup⟩
  rcases hu with hc | ⟨permit, hp, hg⟩
  · exact .inl hc
  rw [launchPermits_setPermit, if_neg hup] at hp
  exact .inr ⟨permit, hp, hg⟩

theorem launchInv_move (ht : TaskInv s) (h : LaunchInv s) (m : LaunchMove s s') : LaunchInv s' := by
  cases m with
  | quiet same => exact launchInv_quiet h same
  | enters t free after =>
    subst after
    refine ⟨Locks.RwLock.exclusive_read t free, fun u hu => ?_, fun u hu => ?_, h.permits⟩
    · by_cases hut : u = t
      · exact Locks.RwLock.mem_read.2 (.inl hut)
      · exact Locks.RwLock.mem_read.2 (.inr (h.readers u (by grind [HoldsLaunch])))
    · have hold : HoldsBarrier s u := by grind [HoldsBarrier]
      rw [h.barrier u hold] at free
      cases free
  | leaves t call after =>
    subst after
    have hpermit : s.launchPermits t = none := by
      by_contra hne
      rw [ht.launch_returned t hne] at call
      cases call
    refine ⟨Locks.RwLock.exclusive_endRead t h.exclusive, fun u hu => ?_, fun u hu => ?_, h.permits⟩
    · exact mem_endRead_of_holds h (by grind [HoldsLaunch]) (by grind [HoldsLaunch])
    · exact h.barrier u (by grind [HoldsBarrier])
  | issues t accepting call after =>
    subst after
    refine ⟨h.exclusive, fun u hu => ?_, fun u hu => ?_, permits_setPermit h.permits fun permit hp => ?_⟩
    · by_cases hut : u = t
      · exact h.readers u (.inl (hut ▸ call))
      · exact h.readers u (by grind [HoldsLaunch, setPermit])
    · exact h.barrier u (by grind [HoldsBarrier, setPermit])
    · cases hp
      refine ⟨fun hd => ?_, fun _ => rfl, .inr (by simp)⟩
      rw [accepting] at hd
      cases hd
  | closes t free after =>
    subst after
    refine ⟨Locks.RwLock.exclusive_write t free, fun u hu => ?_, fun u hu => ?_, h.permits⟩
    · exact h.readers u (by grind [HoldsLaunch])
    by_cases hut : u = t
    · rw [hut]
      rfl
    · have hold : HoldsBarrier s u := by grind [HoldsBarrier]
      have hw := free.1
      rw [h.barrier u hold] at hw
      cases hw
  | drains t call after =>
    subst after
    have hempty : s.launchGate.readers = [] := h.exclusive (by rw [h.barrier t (.inl call)]; exact Option.some_ne_none _)
    refine ⟨h.exclusive, fun u hu => ?_, fun u hu => ?_, fun p permit hp => ?_⟩
    · exact h.readers u (by grind [HoldsLaunch])
    · refine h.barrier u ?_
      by_cases hut : u = t
      · exact .inl (hut ▸ call)
      · grind [HoldsBarrier]
    · have hguard : permit.guard = false := by
        by_contra hg
        have hmem := h.readers p (.inr ⟨permit, hp, by simpa using hg⟩)
        rw [hempty] at hmem
        cases hmem
      have hold := h.permits p permit hp
      exact ⟨fun _ => hguard, hold.borrowed, hold.lone⟩
  | opens t call after =>
    subst after
    refine ⟨Locks.RwLock.exclusive_endWrite _, fun u hu => ?_, fun u hu => ?_, h.permits⟩
    · exact h.readers u (by grind [HoldsLaunch])
    have hut : u ≠ t := by grind [HoldsBarrier]
    have hold : HoldsBarrier s u := by grind [HoldsBarrier]
    have hsame := (h.barrier u hold).symm.trans (h.barrier t call)
    exact absurd (Option.some.inj hsame) hut
  | borrows p permit pending found guarded lone same =>
    have hold := h.permits p permit found
    refine launchInv_quiet (s := s.setPermit p (some { permit with pending := pending }))
      ⟨h.exclusive, fun u hu => ?_, h.barrier, permits_setPermit h.permits fun permit' hp => ?_⟩ same
    · exact h.readers u (by grind [HoldsLaunch])
    cases hp
    refine ⟨hold.draining, fun hne => ?_, lone hold.lone⟩
    rcases guarded hne with hg | hg
    · exact hg
    · exact hold.borrowed hg
  | releases p permit index found bound after =>
    subst after
    have hnone := eraseIdx_bound (h.permits p permit found).lone bound
    have hcall : s.calls p = none := ht.launch_returned p (by rw [found]; exact Option.some_ne_none _)
    refine ⟨Locks.RwLock.exclusive_endRead p h.exclusive, fun u hu => ?_, h.barrier,
      permits_setPermit h.permits fun permit' hp => ?_⟩
    · obtain ⟨hold, hup⟩ := holdsLaunch_drop (fun permit' hp => by cases hp; rfl) hcall hu
      exact mem_endRead_of_holds h hold hup
    · cases hp
      exact ⟨fun _ => rfl, fun hne => absurd hnone hne, .inr (by simp [hnone])⟩
  | drops p found after =>
    subst after
    have hcall : s.calls p = none := ht.launch_returned p found
    refine ⟨Locks.RwLock.exclusive_endRead p h.exclusive, fun u hu => ?_, h.barrier,
      permits_setPermit h.permits fun permit' hp => ?_⟩
    · obtain ⟨hold, hup⟩ := holdsLaunch_drop (s := { s with launching := _ }) (fun _ hp => by cases hp) hcall hu
      exact Locks.RwLock.mem_endRead.2 ⟨h.readers u hold, hup⟩
    · cases hp

/-! ## After the launch gate -/

def LaunchDone (s : Coordinator) : Prop :=
  s.phase ≠ .accepting ∧ ∀ p permit, s.launchPermits p = some permit → permit.guard = false

variable {a : Action}

theorem phase_ne_accepting_next (h : s.phase ≠ .accepting) : (s.next a).phase ≠ .accepting := by
  intro ha
  have hle := (stepFrame_next s a).phase
  rw [ha] at hle
  cases hp : s.phase <;> simp_all [ShutdownPhase.toNat]

theorem launchDone_next (h : LaunchDone s) : LaunchDone (s.next a) := by
  refine ⟨phase_ne_accepting_next h.1, ?_⟩
  cases launchMove_next s a with
  | quiet same =>
    rw [same.permits]
    exact h.2
  | issues t accepting => exact absurd accepting h.1
  | borrows p permit pending found _ _ same =>
    rw [same.permits]
    exact permits_setPermit h.2 (by rintro _ ⟨⟩; exact h.2 p permit found)
  | releases p permit index _ _ after =>
    rw [after]
    exact permits_setPermit h.2 (by rintro _ ⟨⟩; rfl)
  | drops p _ after =>
    rw [after]
    exact permits_setPermit h.2 (fun _ hp => by cases hp)
  | enters t _ after | leaves t _ after | closes t _ after | drains t _ after | opens t _ after =>
    rw [after]
    exact h.2

/-! ## The terminal gate -/

def HoldsTerminal (s : Coordinator) (t : TaskId) : Prop :=
  (∃ o, s.calls t = some (.terminalHolding o)) ∨ Passed s t ∨ ∃ admission, s.admissions t = some admission ∧ admission.guard = true

def TerminalInv (s : Coordinator) : Prop := ∀ t, HoldsTerminal s t → t ∈ s.terminalGate.readers

theorem terminalInv_move (ht : TaskInv s) (h : TerminalInv s) (m : TerminalMove s s') : TerminalInv s' := by
  have hreturned : ∀ t, s.calls t ≠ none → s.admissions t = none := by
    intro t hc
    by_contra hne
    exact hc (ht.admission_returned t hne)
  intro u hu
  cases m with
  | quiet same =>
    rw [same.gate]
    refine h u ?_
    rcases hu with ⟨o, hc⟩ | hp | ha
    · exact .inl ⟨o, same.holding u o hc⟩
    · exact .inr (.inl (same.passed u hp))
    rw [same.admissions] at ha
    exact .inr (.inr ha)
  | enters t o after =>
    subst after
    by_cases hut : u = t
    · exact Locks.RwLock.mem_read.2 (.inl hut)
    · exact Locks.RwLock.mem_read.2 (.inr (h u (by grind [HoldsTerminal, Passed])))
  | passes t o draining call after =>
    subst after
    refine h u ?_
    by_cases hut : u = t
    · exact .inl ⟨o, hut ▸ call⟩
    · grind [HoldsTerminal, Passed]
  | admits t admission call gate admissions calls =>
    rw [gate]
    refine h u ?_
    by_cases hut : u = t
    · subst hut
      rcases call with ⟨hc, -⟩ | hp
      · exact .inl hc
      · exact .inr (.inl hp)
    · simpa [HoldsTerminal, Passed, admissions, calls, Function.update_of_ne hut] using hu
  | refuses t call after =>
    subst after
    have := hreturned t call
    exact Locks.RwLock.mem_endRead.2 ⟨h u (by grind [HoldsTerminal, Passed]), by grind [HoldsTerminal, Passed]⟩
  | releases t admission found after =>
    subst after
    have hcall : s.calls t = none := ht.admission_returned t (by rw [found]; exact Option.some_ne_none _)
    have hut : u ≠ t := by
      rintro rfl
      simp_all [HoldsTerminal, Passed]
    refine Locks.RwLock.mem_endRead.2 ⟨h u ?_, hut⟩
    simpa [HoldsTerminal, Passed, Function.update_of_ne hut] using hu

def TerminalsDone (s : Coordinator) : Prop :=
  s.phase = .terminalClosed ∧ (∀ t, ¬ Passed s t) ∧ ∀ t admission, s.admissions t = some admission → admission.guard = false

theorem phase_closed_next (h : s.phase = .terminalClosed) : (s.next a).phase = .terminalClosed := by
  have hle := (stepFrame_next s a).phase
  rw [h] at hle
  cases hp : (s.next a).phase <;> simp_all [ShutdownPhase.toNat]

theorem terminalsDone_next (h : TerminalsDone s) : TerminalsDone (s.next a) := by
  obtain ⟨hclosed, hpassed, hguards⟩ := h
  refine ⟨phase_closed_next hclosed, ?_⟩
  cases terminalMove_next s a with
  | quiet same =>
    rw [same.admissions]
    exact ⟨fun t hp => hpassed t (same.passed t hp), hguards⟩
  | enters t o after | refuses t call after =>
    rw [after]
    exact ⟨fun u hp => hpassed u (by grind [Passed]), hguards⟩
  | passes t o draining =>
    rw [hclosed] at draining
    cases draining
  | admits t admission call =>
    rcases call with ⟨-, hopen⟩ | hp
    · exact absurd hclosed hopen
    · exact absurd hp (hpassed t)
  | releases t admission found after =>
    rw [after]
    refine ⟨hpassed, fun u admission' hu => ?_⟩
    by_cases hut : u = t
    · subst hut
      simp only [Function.update_self, Option.some.injEq] at hu
      rw [← hu]
    · exact hguards u admission' (by simpa [Function.update_of_ne hut] using hu)

/-! ## The route gate -/

def HoldsRoute (s : Coordinator) (t : TaskId) : Prop := s.calls t = some .routeHolding ∨ s.routePermits t = some true

def RouteInv (s : Coordinator) : Prop := ∀ t, HoldsRoute s t → t ∈ s.runtimeRouteGate.readers

theorem routeInv_move (ht : TaskInv s) (h : RouteInv s) (m : RouteMove s s') : RouteInv s' := by
  intro u hu
  cases m with
  | quiet same =>
    rw [same.gate]
    refine h u ?_
    rcases hu with hc | hp
    · exact .inl (same.holding u hc)
    rw [same.permits] at hp
    exact .inr hp
  | enters t after =>
    subst after
    by_cases hut : u = t
    · exact Locks.RwLock.mem_read.2 (.inl hut)
    · exact Locks.RwLock.mem_read.2 (.inr (h u (by grind [HoldsRoute])))
  | leaves t call after =>
    subst after
    have hpermit : s.routePermits t = none := by
      by_contra hne
      rw [ht.route_returned t hne] at call
      cases call
    exact Locks.RwLock.mem_endRead.2 ⟨h u (by grind [HoldsRoute]), by grind [HoldsRoute]⟩
  | issues t routes call after =>
    subst after
    refine h u ?_
    by_cases hut : u = t
    · exact .inl (hut ▸ call)
    · simpa [HoldsRoute, hut, Function.update_of_ne hut] using hu
  | releases t found after =>
    subst after
    have hcall : s.calls t = none := ht.route_returned t found
    have hut : u ≠ t := by
      rintro rfl
      simp_all [HoldsRoute]
    refine Locks.RwLock.mem_endRead.2 ⟨h u ?_, hut⟩
    simpa [HoldsRoute, Function.update_of_ne hut] using hu

def RoutesDone (s : Coordinator) : Prop := s.runtimeRoutesOpen = false ∧ ∀ t, s.routePermits t ≠ some true

theorem routesDone_next (h : RoutesDone s) : RoutesDone (s.next a) := by
  obtain ⟨hclosed, hpermits⟩ := h
  refine ⟨(stepFrame_next _ _).closed hclosed, ?_⟩
  cases routeMove_next s a with
  | quiet same =>
    rw [same.permits]
    exact hpermits
  | enters t after | leaves t _ after =>
    rw [after]
    exact hpermits
  | issues t routes =>
    rw [hclosed] at routes
    cases routes
  | releases t found after =>
    rw [after]
    intro u
    by_cases hut : u = t
    · simp [hut]
    · simpa [Function.update_of_ne hut] using hpermits u

/-! ## The drain -/

def Closed (s : Coordinator) : Prop := s.phase = .terminalClosed ∧ s.runtimeRoutesOpen = false

theorem closed_next (h : Closed s) : Closed (s.next a) := ⟨phase_closed_next h.1, (stepFrame_next s a).closed h.2⟩

structure DrainInv (first : TaskId) (s : Coordinator) : Prop where
  closed : Closed s
  started : first ≤ s.nextTask
  terminal : ∀ t, first ≤ t → ∀ y, s.calls t = some (.drain (some true) y) → TerminalsDone s
  route : ∀ t, first ≤ t → ∀ x, s.calls t = some (.drain x (some true)) → RoutesDone s

/-- **An empty terminal gate behind the closing**: every terminal is done. -/
theorem terminalsDone_of_canWrite (hi : TerminalInv s) (hclosed : Closed s) (hw : s.terminalGate.CanWrite) :
    TerminalsDone s := by
  have hnone : ∀ t, ¬ HoldsTerminal s t := by
    intro t ht
    have hmem := hi t ht
    rw [hw.2] at hmem
    cases hmem
  refine ⟨hclosed.1, fun t hp => hnone t (.inr (.inl hp)), fun t admission ha => ?_⟩
  by_contra hg
  exact hnone t (.inr (.inr ⟨admission, ha, by simpa using hg⟩))

theorem routesDone_of_canWrite (hi : RouteInv s) (hclosed : Closed s) (hw : s.runtimeRouteGate.CanWrite) :
    RoutesDone s := by
  refine ⟨hclosed.2, fun t hp => ?_⟩
  have hmem := hi t (.inr hp)
  rw [hw.2] at hmem
  cases hmem

variable {first : TaskId}

theorem drainInv_done (h : DrainInv first s) (hterminal : TerminalInv s) (hroute : RouteInv s)
    (ht : first ≤ t) {x y x' y' : Option Bool} (hc : s.calls t = some (.drain x y)) (hw : Waited s x y x' y') :
    (x' = some true → TerminalsDone s) ∧ (y' = some true → RoutesDone s) := by
  constructor
  · intro hx
    rcases hw.1.resolve_left (not_not_intro hx) with rfl | hw
    · exact h.terminal t ht y hc
    · exact terminalsDone_of_canWrite hterminal h.closed hw
  · intro hy
    rcases hw.2.resolve_left (not_not_intro hy) with rfl | hw
    · exact h.route t ht x hc
    · exact routesDone_of_canWrite hroute h.closed hw

theorem drainInv_next (h : DrainInv first s) (hterminal : TerminalInv s)
    (hroute : RouteInv s) : DrainInv first (s.next a) := by
  refine ⟨closed_next h.closed, Nat.le_trans h.started (stepFrame_next s a).le, fun t ht y hc => ?_, fun t ht x hc => ?_⟩
  · refine terminalsDone_next ?_
    cases entered_next hc with
    | stays found => exact h.terminal t ht y found
    | starts _ first => cases first.1
    | goes before found step =>
      cases before <;> first | exact step.elim | exact (drainInv_done h hterminal hroute ht found step).1 rfl
  · refine routesDone_next ?_
    cases entered_next hc with
    | stays found => exact h.route t ht x found
    | starts _ first => cases first.2
    | goes before found step =>
      cases before <;> first | exact step.elim | exact (drainInv_done h hterminal hroute ht found step).2 rfl

/-! ## Runs -/

structure Inv (s : Coordinator) : Prop where
  tasks : TaskInv s
  launch : LaunchInv s
  terminal : TerminalInv s
  route : RouteInv s
  closing : ∀ t, s.calls t = some .closing → s.phase = .terminalClosed

theorem closing_next (h : ∀ t, s.calls t = some .closing → s.phase = .terminalClosed) (t : TaskId)
    (hc : (s.next a).calls t = some .closing) : (s.next a).phase = .terminalClosed := by
  cases entered_next hc with
  | stays found => exact phase_closed_next (h t found)
  | starts _ first => exact first
  | goes before _ step => cases before <;> exact step.elim

theorem inv_next (s : Coordinator) (a : Action) (h : Inv s) : Inv (s.next a) where
  tasks := taskInv_frame h.tasks (stepFrame_next s a)
  launch := launchInv_move h.tasks h.launch (launchMove_next s a)
  terminal := terminalInv_move h.tasks h.terminal (terminalMove_next s a)
  route := routeInv_move h.tasks h.route (routeMove_next s a)
  closing := closing_next h.closing

theorem inv_new : Inv (.new generation) where
  tasks := taskInv_new generation
  launch := launchInv_new generation
  terminal := by intro t ht; simp [new, HoldsTerminal, Passed] at ht
  route := by intro t ht; simp [new, HoldsRoute] at ht
  closing := by intro t ht; cases ht

theorem inv_run (as : List Action) : Inv (run generation as) :=
  Runs.run_invariant _ inv_next as _ (inv_new generation)

variable {generation : String} {as : List Action}

theorem run_preserves {P : Coordinator → Prop} (hstep : ∀ s a, P s → P (s.next a))
    (h : P (run generation as)) (bs : List Action) : P (run generation (as ++ bs)) := by
  rw [run_append]
  exact Runs.run_invariant _ hstep bs _ h

theorem closed_of_answered (h : Answered generation as .admissionClosed) :
    Closed (run generation as) := by
  obtain ⟨pre, a, post, rfl, hr⟩ := h
  have hanswer := answers_reply (run generation pre) a
  rw [hr] at hanswer
  obtain ⟨t, rfl, hc⟩ := hanswer
  have hphase := (inv_run generation pre).closing t hc
  have hclosed : Closed ((run generation pre).next (.advance t)) := by
    simp only [next, step, hc, advanceCall]
    exact ⟨hphase, rfl⟩
  rw [run_append]
  exact Runs.run_invariant next (fun _ _ => closed_next) post _ hclosed

/-! ## Late calls -/

def isAdmission : Call → Bool
  | .terminalWaiting _ | .terminalHolding _ | .terminalActive _ | .terminalSettled _ | .routeWaiting | .routeHolding => true
  | _ => false

/-- No call that started after the closing asks for admission any more. -/
structure LateInv (first : TaskId) (s : Coordinator) : Prop where
  closed : Closed s
  started : first ≤ s.nextTask
  calls : ∀ t, first ≤ t → ∀ call, s.calls t = some call → isAdmission call = false

theorem lateInv_next (s : Coordinator) (a : Action) (h : LateInv first s) : LateInv first (s.next a) := by
  refine ⟨closed_next h.closed, Nat.le_trans h.started (stepFrame_next s a).le, fun t ht call hc => ?_⟩
  cases entered_next hc with
  | stays found => exact h.calls t ht call found
  | starts _ start =>
    cases call with
    | terminalWaiting o => exact absurd h.closed.1 start
    | routeWaiting =>
      have hopen : s.runtimeRoutesOpen = true := start
      rw [h.closed.2] at hopen
      cases hopen
    | _ => first | rfl | exact start.elim
  | goes before found step =>
    have hbefore := h.calls t ht before found
    cases before <;> cases call <;> first | rfl | exact step.elim | cases hbefore

theorem lateInv_first (hi : Inv s) (hclosed : Closed s) : LateInv s.nextTask s := by
  refine ⟨hclosed, Nat.le_refl _, fun t ht call hc => ?_⟩
  exact absurd (hi.tasks.call_lt t (by rw [hc]; exact Option.some_ne_none _)) (Nat.not_lt.2 ht)

theorem drainInv_first (hi : Inv s) (hclosed : Closed s) : DrainInv s.nextTask s := by
  refine ⟨hclosed, Nat.le_refl _, fun t ht y hc => ?_, fun t ht x hc => ?_⟩
  all_goals exact absurd (hi.tasks.call_lt t (by rw [hc]; exact Option.some_ne_none _)) (Nat.not_lt.2 ht)

theorem lateInv_run (h : Answered generation as .admissionClosed)
    (bs : List Action) : LateInv (run generation as).nextTask (run generation (as ++ bs)) :=
  run_preserves lateInv_next (lateInv_first (inv_run generation as) (closed_of_answered h)) bs

theorem drainInv_run (h : Answered generation as .admissionClosed)
    (bs : List Action) : DrainInv (run generation as).nextTask (run generation (as ++ bs)) := by
  have hstart : Inv (run generation as) ∧ DrainInv (run generation as).nextTask (run generation as) :=
    ⟨inv_run generation as, drainInv_first (inv_run generation as) (closed_of_answered h)⟩
  refine (run_preserves (P := fun s => Inv s ∧ DrainInv (run generation as).nextTask s) (fun s a hs => ?_) hstart bs).2
  exact ⟨inv_next s a hs.1, drainInv_next hs.2 hs.1.terminal hs.1.route⟩

theorem not_admitted_of_late (h : LateInv first s) (ht : first ≤ t)
    (o : RuntimeTerminalObservation) (planned : Option Bool) : s.reply a ≠ .admitted t o planned := by
  intro hr
  have hanswer := answers_reply s a
  rw [hr] at hanswer
  obtain ⟨-, ⟨hc, -⟩ | ⟨hc | hc, -⟩⟩ := hanswer <;> exact Bool.noConfusion (h.calls t ht _ hc)

theorem not_routed_of_closed (h : Closed s) : s.reply a ≠ .routed (some t) := by
  intro hr
  have hanswer := answers_reply s a
  rw [hr] at hanswer
  obtain ⟨-, -, hopen⟩ := hanswer
  rw [h.2] at hopen
  cases hopen

theorem not_admitted_of_done (h : TerminalsDone s) (o : RuntimeTerminalObservation) (planned : Option Bool) :
    s.reply a ≠ .admitted t o planned := by
  intro hr
  have hanswer := answers_reply s a
  rw [hr] at hanswer
  obtain ⟨-, ⟨-, hphase, -⟩ | ⟨hc, -⟩⟩ := hanswer
  · rw [h.1] at hphase
    simp at hphase
  · exact h.2.1 t ⟨o, hc⟩

/-! ## Late launches -/

theorem launchDone_of_draining (hi : Inv s) (hd : s.phase = .draining) : LaunchDone s := by
  refine ⟨by rw [hd]; decide, fun p permit hp => ?_⟩
  exact (hi.launch.permits p permit hp).draining hd

theorem pending_nil_of_done {p : TaskId} {permit : LaunchPermit} (hi : Inv s) (h : LaunchDone s)
    (hp : s.launchPermits p = some permit) : permit.pending = [] := by
  by_contra hne
  have hguard := (hi.launch.permits p permit hp).borrowed hne
  rw [h.2 p permit hp] at hguard
  cases hguard

theorem not_completed_of_done (hi : Inv s) (h : LaunchDone s) :
    s.reply a ≠ .registered true ∧ s.reply a ≠ .handedOff true := by
  have hanswer := answers_reply s a
  constructor <;> intro hr <;> rw [hr] at hanswer <;> obtain ⟨p, permit, hp, hne⟩ := hanswer
  · exact hne (pending_nil_of_done hi h hp)
  · exact hne (pending_nil_of_done hi h hp)

theorem launchDone_run (hd : (run generation as).phase = .draining)
    (bs : List Action) : LaunchDone (run generation (as ++ bs)) :=
  run_preserves (fun _ _ => launchDone_next) (launchDone_of_draining (inv_run generation as) hd) bs

/-! ## The barriers -/

structure BarriersHold (generation : String) : Prop where
  forward : ∀ as bs, (run generation as).phase.toNat ≤ (run generation (as ++ bs)).phase.toNat
  noLateLaunch : ∀ as bs a p, (run generation (as ++ .closeLaunchAdmission :: bs)).reply a ≠ .launched (some p)
  unguarded : ∀ as, (run generation as).phase = .draining →
    ∀ p permit, (run generation as).launchPermits p = some permit → permit.guard = false
  noLateExecution : ∀ as bs a, (run generation as).phase = .draining →
    (run generation (as ++ bs)).reply a ≠ .registered true ∧ (run generation (as ++ bs)).reply a ≠ .handedOff true
  noLateTerminal : ∀ as bs a t o planned, Answered generation as .admissionClosed → (run generation as).nextTask ≤ t →
    (run generation (as ++ bs)).reply a ≠ .admitted t o planned
  noLateRoute : ∀ as bs a t, Answered generation as .admissionClosed → (run generation as).nextTask ≤ t →
    (run generation (as ++ bs)).reply a ≠ .routed (some t)
  drained : ∀ as bs a t, Answered generation as .admissionClosed → (run generation as).nextTask ≤ t →
    (run generation (as ++ bs)).reply a = .drained t true true → ∀ cs,
      let s := run generation (as ++ bs ++ cs)
      (∀ u admission, s.admissions u = some admission → admission.guard = false) ∧ (∀ u, s.routePermits u ≠ some true) ∧
        ∀ b u, (∀ o planned, s.reply b ≠ .admitted u o planned) ∧ s.reply b ≠ .routed (some u)

theorem phase_le_run (generation : String) (as bs : List Action) :
    (run generation as).phase.toNat ≤ (run generation (as ++ bs)).phase.toNat :=
  run_preserves (P := fun s => (run generation as).phase.toNat ≤ s.phase.toNat)
    (fun s a h => Nat.le_trans h ((stepFrame_next s a).phase)) (Nat.le_refl _) bs

theorem phase_ne_accepting_close (s : Coordinator) : (s.next .closeLaunchAdmission).phase ≠ .accepting := by
  simp only [next, step, closeLaunchAdmission]
  split
  · simp
  · assumption

/-- **A planned shutdown closes its gates in order**: the phase only moves forward, and what a barrier has closed stays
closed.  A drain that follows the closing of the admissions leaves no guard behind. -/
theorem planned_shutdown_barriers (generation : String) : BarriersHold generation where
  forward := phase_le_run generation
  noLateLaunch := by
    intro as bs a p hr
    have hphase : (run generation (as ++ .closeLaunchAdmission :: bs)).phase ≠ .accepting := by
      rw [run_append, List.foldl_cons]
      exact Runs.run_invariant (P := fun s : Coordinator => s.phase ≠ .accepting) next
        (fun _ _ => phase_ne_accepting_next) bs _ (phase_ne_accepting_close _)
    have hanswer := answers_reply (run generation (as ++ .closeLaunchAdmission :: bs)) a
    rw [hr] at hanswer
    exact hphase hanswer.2.2
  unguarded := fun as hd => (launchDone_of_draining (inv_run generation as) hd).2
  noLateExecution := fun as bs _ hd =>
    not_completed_of_done (inv_run generation (as ++ bs)) (launchDone_run hd bs)
  noLateTerminal := fun _ bs _ _ o planned hclosed ht => not_admitted_of_late (lateInv_run hclosed bs) ht o planned
  noLateRoute := fun _ bs _ _ hclosed _ => not_routed_of_closed (lateInv_run hclosed bs).closed
  drained := by
    intro as bs a t hclosed ht hr cs
    have hi := inv_run generation (as ++ bs)
    have hdrain := drainInv_run hclosed bs
    have hanswer := answers_reply (run generation (as ++ bs)) a
    rw [hr] at hanswer
    obtain ⟨x, y, hc, hw⟩ := hanswer
    have hdone := drainInv_done hdrain hi.terminal hi.route ht hc hw
    have hterminals := run_preserves (fun _ _ => terminalsDone_next) (hdone.1 rfl) cs
    have hroutes := run_preserves (fun _ _ => routesDone_next) (hdone.2 rfl) cs
    refine ⟨hterminals.2.2, hroutes.2, fun b u => ⟨not_admitted_of_done hterminals, ?_⟩⟩
    exact not_routed_of_closed ⟨hterminals.1, hroutes.1⟩

/-- **A drain that no closing precedes promises nothing**: it finds both gates empty, and a route is let in behind it. -/
theorem drain_before_close :
    let as : List Action := [.drainTerminalAndRuntimeRoutes, .advance 0]
    let bs : List Action := [.drainRoute 0, .enterRuntimeRoute, .advance 1]
    (run "g" as).reply (.drainRoute 0) = .drained 0 true true ∧
      (run "g" (as ++ bs)).reply (.advance 1) = .routed (some 1) := by
  decide

end Coordinator
end Rovai.Shutdown
