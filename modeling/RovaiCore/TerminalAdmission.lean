import RovaiCore.ShutdownBarriers
import Mathlib.Data.List.Induction
/-!
# The terminal of an execution

Between the admission of its terminal and the end of the run an execution is in the map of active executions, in the map of
settled ones, or in the hands of a removal that has taken it from the first and not yet put it into the second (`Kept`).
-/
namespace Rovai.Shutdown

open List

def SettledExecution.Matches (x : SettledExecution) (o : RuntimeTerminalObservation) : Prop :=
  x.binding = o.binding ∧ x.terminalFingerprint = o.fingerprint ∧ x.terminalOutcome = o.outcome ∧
    (o.outcome = .cancelled → x.plannedStopRequested = true)

def ActiveExecution.Matches (e : ActiveExecution) (o : RuntimeTerminalObservation) : Prop :=
  e.binding = some o.binding ∧ e.terminalFingerprint = some o.fingerprint ∧ e.terminalOutcome = some o.outcome ∧
    (o.outcome = .cancelled → e.plannedStopRequested = true)

def ActiveExecution.SettlesTo (e : ActiveExecution) (x : SettledExecution) : Prop :=
  e.binding = some x.binding ∧ e.terminalFingerprint = some x.terminalFingerprint ∧
    e.terminalOutcome = some x.terminalOutcome ∧ e.plannedStopRequested = x.plannedStopRequested

variable {e : ActiveExecution}

theorem SettledExecution.matches_of_settlesTo {x : SettledExecution} {o : RuntimeTerminalObservation}
    (h : e.SettlesTo x) (hm : e.Matches o) : x.Matches o := by
  obtain ⟨hb, hf, ho, hp⟩ := h
  obtain ⟨hb', hf', ho', hp'⟩ := hm
  refine ⟨Option.mem_unique hb hb', Option.mem_unique hf hf', Option.mem_unique ho ho', ?_⟩
  rw [← hp]
  exact hp'

theorem ActiveExecution.settlesTo_unique {x y : SettledExecution} (hx : e.SettlesTo x)
    (hy : e.SettlesTo y) : x = y := by
  obtain ⟨bx, px, fx, ox⟩ := x
  obtain ⟨b, p, f, o⟩ := y
  simp_all [ActiveExecution.SettlesTo]

theorem ActiveExecution.matches_unique {o o' : RuntimeTerminalObservation} (hk : o'.key = o.key)
    (h : e.Matches o) (h' : e.Matches o') : o' = o := by
  obtain ⟨k, b, c, f⟩ := o
  obtain ⟨k', b', c', f'⟩ := o'
  simp_all [ActiveExecution.Matches]

theorem SettledExecution.matches_unique {x : SettledExecution} {o o' : RuntimeTerminalObservation} (hk : o'.key = o.key)
    (h : x.Matches o) (h' : x.Matches o') : o' = o := by
  obtain ⟨k, b, c, f⟩ := o
  obtain ⟨k', b', c', f'⟩ := o'
  simp_all [SettledExecution.Matches]

namespace Coordinator

variable {s s' : Coordinator} {t : TaskId} {a : Action} {key : ActiveExecutionKey}

/-! ## What a step does to the executions -/

inductive ActiveFrom (s : Coordinator) (a : Action) (key : ActiveExecutionKey) (e' : ActiveExecution) : Prop where
  | stays (found : s.active key = some e')
  | registers (p : TaskId) (permit : LaunchPermit) (borrowed : s.launchPermits p = some permit) (pending : permit.pending ≠ [])
      (absent : s.active key = none) (blank : e'.terminalFingerprint = none) (unmarked : e'.plannedStopRequested = false)
  | binds (e : ActiveExecution) (binding : RuntimeRouteBinding) (found : s.active key = some e) (unbound : e.binding = none)
      (after : e' = { e with binding := some binding })
  | marks (e : ActiveExecution) (found : s.active key = some e) (act : a = .markPlannedStopRequested key)
      (marked : s.reply a = .marked true) (after : e' = { e with plannedStopRequested := true })
  | records (t : TaskId) (o : RuntimeTerminalObservation) (e : ActiveExecution) (call : s.calls t = some (.terminalActive o))
      (same : o.key = key) (found : s.active key = some e) (blank : e.terminalFingerprint = none)
      (after : e' = { e with terminalFingerprint := some o.fingerprint, terminalOutcome := some o.outcome })

variable {e' : ActiveExecution}

theorem activeFrom_bindRouteInner {k : ActiveExecutionKey} {binding : RuntimeRouteBinding}
    (h : (s.bindRouteInner k binding).1.active key = some e') : ActiveFrom s a key e' := by
  unfold bindRouteInner at h
  split at h
  · exact .stays h
  rename_i e he
  split at h
  · exact .stays h
  rename_i hb
  simp only [Function.update_apply] at h
  split at h
  · rename_i hk
    cases h
    exact .binds e binding (hk ▸ he) hb rfl
  · exact .stays h

theorem activeFrom_advancePermit {p : TaskId} {index : Nat}
    (h : (s.advancePermit p index).1.active key = some e') : ActiveFrom s a key e' := by
  simp only [advancePermit] at h
  split at h
  · exact .stays h
  rename_i permit hp
  split at h
  · exact .stays h
  · rename_i k hc
    split at h
    · exact .stays h
    rename_i habsent
    have hpending : permit.pending ≠ [] := by
      intro hnil
      rw [hnil] at hc
      cases hc
    simp only [setPermit, Function.update_apply] at h
    split at h
    · rename_i hk
      cases h
      exact .registers p permit hp hpending (by simpa [hk] using habsent) rfl rfl
    · exact .stays h
  · rename_i k binding hc
    split at h
    · exact .stays h
    rename_i b hb
    have hbound : (s.bindRouteInner k binding).1.active key = some e' := by
      rw [hb]
      exact h
    exact activeFrom_bindRouteInner hbound
  · exact .stays h

variable {o : RuntimeTerminalObservation}

theorem activeFrom_admitActive
    (hc : s.calls t = some (.terminalActive o)) (h : (s.admitActive t o).1.active key = some e') : ActiveFrom s a key e' := by
  unfold admitActive at h
  split at h
  · exact .stays h
  rename_i e he
  split at h
  · exact .stays h
  split at h
  · exact .stays h
  split at h
  · split at h <;> exact .stays h
  · rename_i hf _
    simp only [grantPermit, active_setCall, Function.update_apply] at h
    split at h
    · rename_i hk
      cases h
      exact .records t o e hc hk.symm (hk ▸ he) hf rfl
    · exact .stays h
  · exact .stays h

variable {call : Call}

theorem active_advanceCall (hcall : ∀ o, call ≠ .terminalActive o) : (s.advanceCall t call).1.active = s.active := by
  cases call with
  | terminalActive o => exact absurd rfl (hcall o)
  | drain x =>
    cases x <;> simp [advanceCall, joinDrain, setCall]
    repeat' split
    all_goals rfl
  | _ =>
    simp [advanceCall, setCall, setPermit]
    repeat' split
    all_goals rfl

theorem activeFrom_next (h : (s.next a).active key = some e') : ActiveFrom s a key e' := by
  cases a with
  | advance t =>
    simp only [next, step] at h
    split at h
    · rename_i call hc
      by_cases hcall : ∃ o, call = .terminalActive o
      · obtain ⟨o, rfl⟩ := hcall
        exact activeFrom_admitActive hc h
      · rw [active_advanceCall (by grind)] at h
        exact .stays h
    · exact .stays h
  | advancePermit => exact activeFrom_advancePermit h
  | bindRoute => exact activeFrom_bindRouteInner h
  | markPlannedStopRequested k =>
    simp only [next, step, markPlannedStopRequested] at h
    split at h
    · exact .stays h
    rename_i e he
    simp only [Function.update_apply] at h
    split at h
    · rename_i hk
      cases h
      subst hk
      exact .marks e he rfl (by simp [reply, step, markPlannedStopRequested, he]) rfl
    · exact .stays h
  | removeActive =>
    refine .stays ?_
    simp only [next, step, removeActive, start, spend] at h
    split at h
    · exact h
    split at h
    · exact h
    split at h
    all_goals
      simp only [Function.update_apply] at h
      split at h
      · cases h
      · exact h
  | removeActiveIfUnbound k =>
    refine .stays ?_
    simp only [next, step, removeActiveIfUnbound] at h
    split at h
    · exact h
    split at h
    · exact h
    simp only [Function.update_apply] at h
    split at h
    · cases h
    · exact h
  | _ =>
    refine .stays ?_
    simp [next, step, setPermit, start, spend] at h
    repeat' split at h
    all_goals exact h

def Kept (s : Coordinator) (key : ActiveExecutionKey) (x : SettledExecution) : Prop :=
  s.settled key = some x ∨ ∃ t, s.calls t = some (.settling key x)

theorem next_advance (hc : s.calls t = some call) : s.next (.advance t) = (s.advanceCall t call).1 := by
  simp [next, step, hc]

variable {x : SettledExecution}

/-- **What is kept was kept, or is what a removal just took.** -/
theorem kept_next (h : Kept (s.next a) key x) :
    Kept s key x ∨ ∃ e, s.active key = some e ∧ (s.next a).active key = none ∧ e.SettlesTo x := by
  rcases h with h | ⟨t, hc⟩
  · exact .inl ((stepFrame_next s a).settled key x h)
  cases entered_next hc with
  | stays found => exact .inl (.inr ⟨t, found⟩)
  | starts _ first =>
    obtain ⟨e, he, hafter, hb, hf, ho, hp⟩ := first
    exact .inr ⟨e, he, by rw [hafter, Function.update_self], hb, hf, ho, hp⟩
  | goes before _ step => cases before <;> exact step.elim

/-! ## What an admitted terminal says -/

inductive AdmittedBy (s : Coordinator) (a : Action) (o : RuntimeTerminalObservation) : Prop where
  | again (e : ActiveExecution) (found : s.active o.key = some e) (same : e.Matches o)
      (after : (s.next a).active = s.active)
  | first (t : TaskId) (e e' : ActiveExecution) (call : s.calls t = some (.terminalActive o)) (found : s.active o.key = some e)
      (blank : e.terminalFingerprint = none) (after : (s.next a).active o.key = some e') (same : e'.Matches o)
  | settled (x : SettledExecution) (found : s.settled o.key = some x) (same : x.Matches o)
      (after : (s.next a).active = s.active)

theorem reply_advance (hc : s.calls t = some call) : s.reply (.advance t) = (s.advanceCall t call).2 := by
  simp [reply, step, hc]

theorem admittedBy_of_reply {p : Bool} (h : s.reply a = .admitted t o (some p)) :
    AdmittedBy s a o := by
  have hanswer := answers_reply s a
  rw [h] at hanswer
  obtain ⟨rfl, ⟨-, -, hnone⟩ | ⟨hc | hc, -⟩⟩ := hanswer
  · cases hnone
  · rw [reply_advance hc] at h
    have hnext := next_advance hc
    simp only [advanceCall, admitActive] at h hnext
    split at h
    · cases h
    rename_i e he
    simp only [he] at hnext
    split at h
    · cases h
    rename_i hb
    simp only [hb, if_false] at hnext
    split at h
    · cases h
    rename_i hcancel
    simp only [hcancel, if_false] at hnext
    have hstop : o.outcome = .cancelled → e.plannedStopRequested = true := by simpa using hcancel
    have hbinding : e.binding = some o.binding := by simpa using hb
    split at h
    · rename_i f c hf ho
      split at h
      · cases h
      rename_i hsame
      simp only [hf, ho, hsame, if_false] at hnext
      obtain ⟨rfl, rfl⟩ := not_or.1 hsame |>.imp not_not.1 not_not.1
      exact .again e he ⟨hbinding, hf, ho, hstop⟩ (by rw [hnext]; rfl)
    · rename_i hf ho
      simp only [hf, ho] at hnext
      exact .first t e { e with terminalFingerprint := some o.fingerprint, terminalOutcome := some o.outcome } hc he hf
        (by rw [hnext]; exact Function.update_self ..) ⟨hbinding, rfl, rfl, hstop⟩
    · cases h
  · rw [reply_advance hc] at h
    have hnext := next_advance hc
    simp only [advanceCall, admitSettled] at h hnext
    split at h
    · cases h
    rename_i x hx
    simp only [hx] at hnext
    split at h
    · cases h
    rename_i hb
    split at h
    · cases h
    rename_i hsame
    split at h
    · cases h
    rename_i hcancel
    simp only [hb, hsame, hcancel, if_false] at hnext
    obtain ⟨hf, ho⟩ := not_or.1 hsame |>.imp not_not.1 not_not.1
    exact .settled x hx ⟨not_not.1 hb, hf, ho, by simpa using hcancel⟩ (by rw [hnext]; rfl)

/-! ## The two maps -/

def Drained (s : Coordinator) : Prop := LaunchDone s ∧ ShutdownPhase.draining.toNat ≤ s.phase.toNat

theorem drained_next (h : Drained s) : Drained (s.next a) :=
  ⟨launchDone_next h.1, Nat.le_trans h.2 ((stepFrame_next s a).phase)⟩

theorem drained_of_draining (hi : Inv s) (hd : s.phase = .draining) : Drained s :=
  ⟨launchDone_of_draining hi hd, Nat.le_of_eq (congrArg _ hd.symm)⟩

structure ExecutionInv (s : Coordinator) : Prop where
  apart : ∀ key x, Kept s key x → s.active key = none
  one : ∀ key x y, Kept s key x → Kept s key y → x = y
  kept : ∀ key x, Kept s key x → Drained s
  recorded : ∀ key e, s.active key = some e → e.terminalFingerprint ≠ none → Drained s
  looking : ∀ t o, s.calls t = some (.terminalActive o) → Drained s
  looked : ∀ t o, s.calls t = some (.terminalSettled o) → Drained s ∧ s.active o.key = none

theorem active_none_next (hi : Inv s) (hd : Drained s) (h : s.active key = none) : (s.next a).active key = none := by
  by_contra hne
  obtain ⟨e', he'⟩ := Option.ne_none_iff_exists'.1 hne
  cases activeFrom_next he' with
  | registers p permit borrowed pending => exact pending (pending_nil_of_done hi hd.1 borrowed)
  | stays found | binds _ _ found | marks _ found | records _ _ _ _ _ found =>
    rw [h] at found
    cases found

theorem executionInv_next (hi : Inv s) (h : ExecutionInv s) : ExecutionInv (s.next a) where
  apart := by
    intro key x hx
    rcases kept_next hx with hx | ⟨e, -, hnone, -⟩
    · exact active_none_next hi (h.kept key x hx) (h.apart key x hx)
    · exact hnone
  one := by
    intro key x y hx hy
    rcases kept_next hx with hx | ⟨e, he, -, hex⟩ <;> rcases kept_next hy with hy | ⟨e', he', -, hey⟩
    · exact h.one key x y hx hy
    · exact absurd ((h.apart key x hx).symm.trans he') (by simp)
    · exact absurd ((h.apart key y hy).symm.trans he) (by simp)
    cases he.symm.trans he'
    exact ActiveExecution.settlesTo_unique hex hey
  kept := by
    intro key x hx
    rcases kept_next hx with hx | ⟨e, he, -, hex⟩
    · exact drained_next (h.kept key x hx)
    · exact drained_next (h.recorded key e he (by rw [hex.2.1]; exact Option.some_ne_none _))
  recorded := by
    intro key e' he' hf
    cases activeFrom_next he' with
    | stays found => exact drained_next (h.recorded key e' found hf)
    | registers p permit borrowed pending absent blank => exact absurd blank hf
    | binds e binding found unbound after | marks e found act marked after =>
      subst after
      exact drained_next (h.recorded key e found hf)
    | records t o e call => exact drained_next (h.looking t o call)
  looking := by
    intro t o hc
    cases entered_next hc with
    | stays found => exact drained_next (h.looking t o found)
    | starts _ first => exact first.elim
    | goes before found step =>
      cases before with
      | terminalHolding o' => exact drained_next (drained_of_draining hi step.2)
      | _ => exact step.elim
  looked := by
    intro t o hc
    cases entered_next hc with
    | stays found =>
      obtain ⟨hd, hnone⟩ := h.looked t o found
      exact ⟨drained_next hd, active_none_next hi hd hnone⟩
    | starts _ first => exact first.elim
    | goes before found step =>
      cases before with
      | terminalActive o' =>
        obtain ⟨rfl, hnone⟩ := step
        have hd := h.looking t o' found
        exact ⟨drained_next hd, active_none_next hi hd hnone⟩
      | _ => exact step.elim

theorem executionInv_new (generation : String) : ExecutionInv (.new generation) := by
  constructor <;> simp [new, Kept]

theorem executionInv_run (generation : String) (as : List Action) : ExecutionInv (run generation as) := by
  refine (Runs.run_invariant (P := fun s => Inv s ∧ ExecutionInv s) next (fun s a hs => ?_) as (.new generation)
    ⟨inv_new generation, executionInv_new generation⟩).2
  exact ⟨inv_next s a hs.1, executionInv_next hs.1 hs.2⟩

/-! ## What fits a terminal -/

structure Fits (s : Coordinator) (o : RuntimeTerminalObservation) : Prop where
  drained : Drained s
  active : ∀ e, s.active o.key = some e → e.Matches o
  kept : ∀ x, Kept s o.key x → x.Matches o

theorem fits_next (hi : Inv s) (h : Fits s o) : Fits (s.next a) o where
  drained := drained_next h.drained
  active := by
    intro e' he'
    cases activeFrom_next he' with
    | stays found => exact h.active e' found
    | registers p permit borrowed pending => exact absurd (pending_nil_of_done hi h.drained.1 borrowed) pending
    | binds e binding found unbound =>
      have hb := (h.active e found).1
      rw [unbound] at hb
      cases hb
    | marks e found act marked after =>
      subst after
      obtain ⟨hb, hf, ho, -⟩ := h.active e found
      exact ⟨hb, hf, ho, fun _ => rfl⟩
    | records t o' e call same found blank =>
      have hf := (h.active e found).2.1
      rw [blank] at hf
      cases hf
  kept := by
    intro x hx
    rcases kept_next hx with hx | ⟨e, he, -, hex⟩
    · exact h.kept x hx
    · exact SettledExecution.matches_of_settlesTo hex (h.active e he)

theorem fits_of_admittedBy (he : ExecutionInv s) (h : AdmittedBy s a o) :
    Fits (s.next a) o := by
  cases h with
  | again e found same after =>
    refine ⟨drained_next (he.recorded _ e found (by rw [same.2.1]; exact Option.some_ne_none _)), ?_, ?_⟩
    · intro e' he'
      rw [after, found] at he'
      cases he'
      exact same
    · intro x hx
      rcases kept_next hx with hx | ⟨e', -, hnone, -⟩
      · exact absurd ((he.apart _ x hx).symm.trans found) (by simp)
      rw [after, found] at hnone
      cases hnone
  | first t e e' call found blank after same =>
    refine ⟨drained_next (he.looking t o call), ?_, ?_⟩
    · intro e'' he''
      rw [after] at he''
      cases he''
      exact same
    · intro x hx
      rcases kept_next hx with hx | ⟨e'', -, hnone, -⟩
      · exact absurd ((he.apart _ x hx).symm.trans found) (by simp)
      rw [after] at hnone
      cases hnone
  | settled x found same after =>
    have hkept : Kept s o.key x := .inl found
    refine ⟨drained_next (he.kept _ x hkept), ?_, ?_⟩
    · intro e he'
      rw [after, he.apart _ x hkept] at he'
      cases he'
    · intro y hy
      rcases kept_next hy with hy | ⟨e, he', -⟩
      · rw [← he.one _ x y hkept hy]
        exact same
      · exact absurd ((he.apart _ x hkept).symm.trans he') (by simp)

variable {generation : String} {as : List Action}

theorem answered_snoc {r : Reply} :
    Answered generation (as ++ [a]) r ↔ Answered generation as r ∨ (run generation as).reply a = r := by
  constructor
  · rintro ⟨pre, b, post, heq, hr⟩
    rcases eq_nil_or_concat post with rfl | ⟨post, c, rfl⟩
    · obtain ⟨rfl, hb⟩ := append_inj' heq rfl
      cases hb
      exact .inr hr
    · rw [concat_eq_append, ← cons_append, ← append_assoc] at heq
      obtain ⟨rfl, -⟩ := append_inj' heq rfl
      exact .inl ⟨pre, b, post, rfl, hr⟩
  · rintro (⟨pre, b, post, rfl, hr⟩ | hr)
    · exact ⟨pre, b, post ++ [a], by simp, hr⟩
    · exact ⟨as, a, [], rfl, hr⟩

def Permitted (generation : String) (as : List Action) (o : RuntimeTerminalObservation) : Prop :=
  ∃ t p, Answered generation as (.admitted t o (some p))

theorem permitted_snoc
    (h : Permitted generation (as ++ [a]) o) : Permitted generation as o ∨ AdmittedBy (run generation as) a o := by
  obtain ⟨t, p, h⟩ := h
  rcases answered_snoc.1 h with h | h
  · exact .inl ⟨t, p, h⟩
  · exact .inr (admittedBy_of_reply h)

theorem run_snoc (generation : String) (as : List Action) (a : Action) :
    run generation (as ++ [a]) = (run generation as).next a := run_append generation as [a]

theorem fits_of_permitted
    (h : Permitted generation as o) : Fits (run generation as) o := by
  induction as using List.reverseRecOn with
  | nil =>
    obtain ⟨t, p, pre, b, post, heq, -⟩ := h
    cases pre <;> cases heq
  | append_singleton as a ih =>
    rw [run_snoc]
    rcases permitted_snoc h with hold | hnew
    · exact fits_next (inv_run generation as) (ih hold)
    · exact fits_of_admittedBy (executionInv_run generation as) hnew

theorem unique_of_fits {o o' : RuntimeTerminalObservation} {planned : Option Bool} (h : Fits s o)
    (hr : s.reply a = .admitted t o' planned) (hk : o'.key = o.key) : planned ≠ none ∧ o' = o := by
  cases planned with
  | none =>
    have hanswer := answers_reply s a
    rw [hr] at hanswer
    have hlate := h.drained.2
    obtain ⟨-, ⟨-, hphase | hphase, -⟩ | ⟨-, hne⟩⟩ := hanswer
    · rw [hphase] at hlate
      exact absurd hlate (by decide)
    · rw [hphase] at hlate
      exact absurd hlate (by decide)
    · exact absurd rfl hne
  | some p =>
    refine ⟨Option.some_ne_none p, ?_⟩
    cases admittedBy_of_reply hr with
    | again e found same => exact ActiveExecution.matches_unique hk (h.active e (hk ▸ found)) same
    | first t e e' call found blank =>
      have hf := (h.active e (hk ▸ found)).2.1
      rw [blank] at hf
      cases hf
    | settled x found same => exact SettledExecution.matches_unique hk (h.kept x (.inl (hk ▸ found))) same

/-! ## The planned stop -/

def StopRequested (generation : String) (as : List Action) (key : ActiveExecutionKey) : Prop :=
  ∃ (pre post : List Action), as = pre ++ .markPlannedStopRequested key :: post ∧
    (run generation pre).reply (.markPlannedStopRequested key) = .marked true

theorem stopRequested_snoc (h : StopRequested generation as key) (a : Action) :
    StopRequested generation (as ++ [a]) key := by
  obtain ⟨pre, post, rfl, hr⟩ := h
  exact ⟨pre, post ++ [a], by simp, hr⟩

theorem stopRequested_of_flag (generation : String) (as : List Action) :
    (∀ key e, (run generation as).active key = some e → e.plannedStopRequested = true → StopRequested generation as key) ∧
      ∀ key x, Kept (run generation as) key x → x.plannedStopRequested = true → StopRequested generation as key := by
  induction as using List.reverseRecOn with
  | nil => constructor <;> simp [run, new, Kept]
  | append_singleton as a ih =>
    rw [run_snoc]
    constructor
    · intro key e' he' hp
      cases activeFrom_next he' with
      | stays found => exact stopRequested_snoc (ih.1 key e' found hp) a
      | registers p permit borrowed pending absent blank unmarked =>
        rw [hp] at unmarked
        cases unmarked
      | binds e binding found unbound after | records t o e call same found blank after =>
        subst after
        exact stopRequested_snoc (ih.1 key e found hp) a
      | marks e found act marked =>
        subst act
        exact ⟨as, [], rfl, marked⟩
    · intro key x hx hp
      rcases kept_next hx with hx | ⟨e, he, -, -, -, -, hflag⟩
      · exact stopRequested_snoc (ih.2 key x hx hp) a
      · exact stopRequested_snoc (ih.1 key e he (hflag.trans hp)) a

theorem stopRequested_of_cancelled {p : Bool}
    (hr : (run generation as).reply a = .admitted t o (some p)) (hc : o.outcome = .cancelled) :
    StopRequested generation as o.key := by
  obtain ⟨hactive, hkept⟩ := stopRequested_of_flag generation as
  cases admittedBy_of_reply hr with
  | again e found same => exact hactive o.key e found (same.2.2.2 hc)
  | settled x found same => exact hkept o.key x (.inl found) (same.2.2.2 hc)
  | first t e e' call found blank after same =>
    have hp := same.2.2.2 hc
    rw [← run_snoc] at after
    have hnext := (stopRequested_of_flag generation (as ++ [a])).1 o.key e' after hp
    obtain ⟨pre, post, heq, hm⟩ := hnext
    rcases eq_nil_or_concat post with rfl | ⟨post, c, rfl⟩
    · obtain ⟨rfl, ha⟩ := append_inj' heq rfl
      cases ha
      rw [hr] at hm
      cases hm
    · rw [concat_eq_append, ← cons_append, ← append_assoc] at heq
      obtain ⟨rfl, -⟩ := append_inj' heq rfl
      exact ⟨pre, post, rfl, hm⟩

/-! ## Duplicates -/

/-- A duplicate does not look the settled executions up while its terminal is in the hands of a removal, and a removal is not
dropped with one. -/
def Undisturbed (s : Coordinator) (a : Action) : Prop :=
  (∀ t o u x, a = .advance t → s.calls t = some (.terminalSettled o) → s.calls u = some (.settling o.key x) → ¬ x.Matches o) ∧
    ∀ t key x, a = .abandon t → s.calls t ≠ some (.settling key x)

theorem kept_stays (ht : TaskInv s) (h : Kept s key x)
    (ha : ∀ t, a = .abandon t → s.calls t ≠ some (.settling key x)) : ∃ y, Kept (s.next a) key y := by
  rcases h with h | ⟨t, hc⟩
  · obtain ⟨y, hy⟩ := Option.ne_none_iff_exists'.1 ((stepFrame_next s a).stays key (by rw [h]; exact Option.some_ne_none x))
    exact ⟨y, .inl hy⟩
  · have hlt : t ≠ s.nextTask := Nat.ne_of_lt (ht.call_lt t (by rw [hc]; exact Option.some_ne_none _))
    rcases (stepFrame_next s a).settling t key x hc hlt fun hab => ha t hab hc with hcall | hsettled
    · exact ⟨x, .inr ⟨t, hcall⟩⟩
    · exact ⟨x, .inl hsettled⟩

theorem kept_of_removeActive {e : ActiveExecution} {cleanup : Bool}
    (he : s.active o.key = some e) (hm : e.Matches o) (hnext : (s.next (.removeActive o.key cleanup)).active o.key = none) :
    ∃ x, Kept (s.next (.removeActive o.key cleanup)) o.key x := by
  obtain ⟨hb, hf, ho, -⟩ := hm
  simp only [next, step, removeActive, he] at hnext ⊢
  split at hnext
  · simp only [spend, he] at hnext
    cases hnext
  · rename_i hgo
    rw [if_neg hgo]
    simp only [hb, hf, ho]
    exact ⟨_, .inr ⟨s.nextTask, by rw [calls_start]; exact if_pos rfl⟩⟩

/-- The execution of a permitted terminal is in one of the two maps, or in the hands of a removal. -/
def Findable (s : Coordinator) (key : ActiveExecutionKey) : Prop := s.active key ≠ none ∨ ∃ x, Kept s key x

theorem findable_next (hi : Inv s) (hfits : Fits s o) (hok : Undisturbed s a)
    (h : Findable s o.key) : Findable (s.next a) o.key := by
  by_cases hactive : s.active o.key = none
  · obtain ⟨x, hx⟩ := h.resolve_left (not_not_intro hactive)
    exact .inr (kept_stays hi.tasks hx fun t ht => hok.2 t o.key x ht)
  · obtain ⟨e, he⟩ := Option.ne_none_iff_exists'.1 hactive
    have hm := hfits.active e he
    by_cases hnext : (s.next a).active o.key = none
    · have htakes := (stepFrame_next s a).lost o.key hactive hnext
      cases a with
      | removeActive =>
        cases htakes
        exact .inr (kept_of_removeActive he hm hnext)
      | removeActiveIfUnbound k =>
        cases htakes
        simp [next, step, removeActiveIfUnbound, he, hm.1] at hnext
      | _ => exact htakes.elim
    · exact .inl hnext

theorem findable_of_admittedBy (h : AdmittedBy s a o) (hi : Inv s) (hok : Undisturbed s a) :
    Findable (s.next a) o.key := by
  cases h with
  | again e found same after => exact .inl (by rw [after, found]; exact Option.some_ne_none _)
  | first t e e' call found blank after => exact .inl (by rw [after]; exact Option.some_ne_none _)
  | settled x found => exact .inr (kept_stays hi.tasks (.inl found) fun t ht => hok.2 t o.key x ht)

theorem findable_of_permitted
    (hok : Runs.AllSteps next Undisturbed (.new generation) as) (h : Permitted generation as o) :
    Findable (run generation as) o.key := by
  induction as using List.reverseRecOn with
  | nil =>
    obtain ⟨t, p, pre, b, post, heq, -⟩ := h
    cases pre <;> cases heq
  | append_singleton as a ih =>
    obtain ⟨hbefore, hlast, -⟩ := (Runs.allSteps_append next as [a] _).1 hok
    have hi := inv_run generation as
    rw [run_snoc]
    rcases permitted_snoc h with hold | hnew
    · exact findable_next hi (fits_of_permitted hold) hlast (ih hbefore hold)
    · exact findable_of_admittedBy hnew hi hlast

/-- **A lookup answers a duplicate with its terminal**: what it finds matches. -/
theorem not_refused_of_fits (he : ExecutionInv s) (hfits : Fits s o)
    (hfind : Findable s o.key) (hok : Undisturbed s (.advance t))
    (hc : s.calls t = some (.terminalActive o) ∨ s.calls t = some (.terminalSettled o)) (error : TerminalAdmissionError) :
    s.reply (.advance t) ≠ .refused t o error := by
  rcases hc with hc | hc
  · rw [reply_advance hc]
    simp only [advanceCall, admitActive]
    split
    · simp
    rename_i e hactive
    obtain ⟨hb, hf, ho, hp⟩ := hfits.active e hactive
    have hstop : ¬ (o.outcome = .cancelled ∧ e.plannedStopRequested = false) := by
      rintro ⟨hcancel, hflag⟩
      rw [hp hcancel] at hflag
      cases hflag
    simp [hb, hf, ho, hstop, grantPermit]
  · have hnone := (he.looked t o hc).2
    obtain ⟨x, hx⟩ := hfind.resolve_left (not_not_intro hnone)
    obtain ⟨hb, hf, ho, hp⟩ := hfits.kept x hx
    have hsettled : s.settled o.key = some x := by
      rcases hx with hx | ⟨u, hu⟩
      · exact hx
      · exact absurd ⟨hb, hf, ho, hp⟩ (hok.1 t o u x rfl hc hu)
    have hstop : ¬ (o.outcome = .cancelled ∧ x.plannedStopRequested = false) := by
      rintro ⟨hcancel, hflag⟩
      rw [hp hcancel] at hflag
      cases hflag
    rw [reply_advance hc]
    simp [advanceCall, hsettled, hb, hf, ho, hstop]

/-! ## One terminal for a key -/

/-- What the answer to an operation says, behind a run, of the terminals permitted before. -/
structure OneTerminal (generation : String) (as : List Action) (a : Action) : Prop where
  unique : ∀ o t o' planned, Permitted generation as o → (run generation as).reply a = .admitted t o' planned →
    o'.key = o.key → planned ≠ none ∧ o' = o
  stopped : ∀ t o p, (run generation as).reply a = .admitted t o (some p) → o.outcome = .cancelled →
    StopRequested generation as o.key
  duplicate : ∀ o t error, Permitted generation as o → (run generation as).reply a = .refused t o error →
    error = .closed ∧ (run generation as).phase = .terminalClosed

/-- **One terminal per execution**: a key has one permitted terminal, cancelled only after its stop was requested, and a
duplicate of it is admitted until the admission of terminals closes. -/
theorem one_terminal (generation : String) (as : List Action) (a : Action)
    (hok : Runs.AllSteps next Undisturbed (.new generation) (as ++ [a])) : OneTerminal generation as a where
  unique := fun _ _ _ _ hperm hr hk => unique_of_fits (fits_of_permitted hperm) hr hk
  stopped := fun _ _ _ hr hc => stopRequested_of_cancelled hr hc
  duplicate := by
    intro o t error hperm hr
    obtain ⟨hbefore, hlast, -⟩ := (Runs.allSteps_append next as [a] _).1 hok
    have hanswer := answers_reply (run generation as) a
    rw [hr] at hanswer
    rcases hanswer with hclosed | ⟨rfl, hc⟩
    · exact hclosed
    exact absurd hr (not_refused_of_fits (executionInv_run generation as) (fits_of_permitted hperm)
      (findable_of_permitted hbefore hperm) hlast hc error)

/-! ## A duplicate and a removal -/

def failedTerminal : RuntimeTerminalObservation where
  key := { agentRunId := "run-1", executionEpoch := 2 }
  binding := { routeIdentity := "route", adapterTurnCorrelation := "turn", providerTurnId := none }
  outcome := .failed
  fingerprint := "failed:turn-1"

def untilTerminal : List Action :=
  [.enterLaunch, .advance 0, .advance 0, .registerActive 0 failedTerminal.key, .advancePermit 0 0,
    .completeHandoff 0 failedTerminal.key failedTerminal.binding, .advancePermit 0 0, .advancePermit 0 0,
    .finishLaunchClosure, .advance 1, .advance 1, .advance 1, .advance 1, .advance 1,
    .admitTerminal failedTerminal, .advance 2, .advance 2]

def untilDuplicate : List Action :=
  untilTerminal ++ [.advance 2, .admitTerminal failedTerminal, .advance 3, .advance 3]

theorem permitted_untilDuplicate (post : List Action) : Permitted "g" (untilDuplicate ++ post) failedTerminal :=
  ⟨2, false, untilTerminal, .advance 2, [.admitTerminal failedTerminal, .advance 3, .advance 3] ++ post,
    by simp [untilDuplicate], by decide⟩

/-- A test that finds a step undisturbed: no lookup among the settled executions while any removal is under way. -/
def undisturbed (s : Coordinator) : Action → Bool
  | .advance t => match s.calls t with
    | some (.terminalSettled _) =>
      (List.range s.nextTask).all fun u => match s.calls u with
        | some (.settling _ _) => false
        | _ => true
    | _ => true
  | .abandon _ => false
  | _ => true

theorem undisturbed_sound (hi : Inv s) (h : undisturbed s a = true) : Undisturbed s a := by
  constructor
  · rintro t o u x rfl hc hu
    have hlt : u < s.nextTask := hi.tasks.call_lt u (by rw [hu]; exact Option.some_ne_none _)
    simp only [undisturbed, hc, all_eq_true] at h
    have hsettling := h u (mem_range.2 hlt)
    rw [hu] at hsettling
    cases hsettling
  · rintro t key x rfl
    cases h

/-- Behind the removal the duplicate is admitted. -/
theorem one_terminal_untilDuplicate :
    OneTerminal "g" (untilDuplicate ++ [.removeActive failedTerminal.key false, .advance 3, .advance 4]) (.advance 3) ∧
      (run "g" (untilDuplicate ++ [.removeActive failedTerminal.key false, .advance 3, .advance 4])).reply (.advance 3) =
        .admitted 3 failedTerminal (some false) := by
  refine ⟨one_terminal "g" _ (.advance 3) (Runs.allSteps_mono next inv_next (fun s a hi h => undisturbed_sound hi h) _ _
    (inv_new "g") ?_), by decide⟩
  decide

/-- **A duplicate between the two halves of a removal**: it finds the execution in neither map. -/
theorem duplicate_refused : ¬ OneTerminal "g" (untilDuplicate ++ [.removeActive failedTerminal.key false, .advance 3])
    (.advance 3) := by
  intro h
  have hr : (run "g" (untilDuplicate ++ [.removeActive failedTerminal.key false, .advance 3])).reply (.advance 3) =
      .refused 3 failedTerminal .executionNotActive := by
    decide
  exact absurd (h.duplicate failedTerminal 3 .executionNotActive (permitted_untilDuplicate _) hr).1 (by decide)

end Coordinator
end Rovai.Shutdown
