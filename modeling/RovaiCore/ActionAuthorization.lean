import RovaiCore.ActionHistory
/-!
# No effect without an authorization

Over a whole history: an action is marked as dispatched only under a policy that allows it, or after its user allowed it.
-/
namespace Rovai.Actions

open Tables (Table)
open Tables.Table (Grows)

variable {s t u : Store} {event : Event}

/-! ## What lasts -/

def ActionStatus.final : ActionStatus → Bool
  | .succeeded | .failed | .notExecuted => true
  | .prepared | .executing | .unknown => false

structure Later (a a' : ActionExecution) : Prop where
  same : SameRequest a a'
  final : a.status.final = true → a'.status = a.status
  begun : a.status ≠ .prepared → a'.status ≠ .prepared
  marked : a.dispatchMayHaveStartedAt ≠ none → a'.dispatchMayHaveStartedAt ≠ none

theorem Later.refl (a : ActionExecution) : Later a a :=
  ⟨⟨rfl, rfl, rfl, rfl, rfl⟩, fun _ => rfl, id, id⟩

theorem Later.trans {a b c : ActionExecution} (h : Later a b) (h' : Later b c) : Later a c where
  same := ⟨h'.same.id.trans h.same.id, h'.same.run.trans h.same.run, h'.same.mode.trans h.same.mode,
    h'.same.decision.trans h.same.decision, h'.same.epoch.trans h.same.epoch⟩
  final hfinal := (h'.final ((congrArg ActionStatus.final (h.final hfinal)).trans hfinal)).trans (h.final hfinal)
  begun hbegun := h'.begun (h.begun hbegun)
  marked hmarked := h'.marked (h.marked hmarked)

theorem ActionMove.later {a a' : ActionExecution} (h : ActionMove s event a a') : Later a a' := by
  cases h with
  | same h =>
    subst h
    exact .refl a'
  | claimed hsame hmarker _ h h' _ =>
    refine ⟨hsame, fun hfinal => ?_, fun hbegun => absurd h hbegun, fun hmarked => hmarker ▸ hmarked⟩
    rw [h] at hfinal
    cases hfinal
  | marked hsame hmarker h h' =>
    exact ⟨hsame, fun _ => h'.trans h.symm, fun _ hprepared => (by cases h'.symm.trans hprepared), fun _ => hmarker⟩
  | settled hsame hmarker h hdispatched h' =>
    refine ⟨hsame, fun hfinal => ?_, fun _ hprepared => ?_, fun hmarked => hmarker ▸ hmarked⟩
    · obtain h | h := h
      · rw [h] at hfinal
        cases hfinal
      · rw [h] at hfinal
        cases hfinal
    · rw [hprepared] at h'
      obtain h' | h' | h' := h' <;> cases h'
  | closed hsame hmarker h h' =>
    refine ⟨hsame, fun hfinal => ?_, fun _ hprepared => (by cases h'.symm.trans hprepared), fun hmarked => hmarker ▸ hmarked⟩
    obtain h | ⟨h, -⟩ := h
    · rw [h] at hfinal
      cases hfinal
    · rw [h] at hfinal
      cases hfinal

structure LaterApproval (p p' : Approval) : Prop where
  id : p'.id = p.id
  action : p'.actionId = p.actionId
  resolved : p.status ≠ .pending → p' = p

theorem ApprovalMove.later {p p' : Approval} (h : ApprovalMove s event p p') : LaterApproval p p' := by
  cases h with
  | same h => exact ⟨h ▸ rfl, h ▸ rfl, fun _ => h⟩
  | resolved hid haction h => exact ⟨hid, haction, fun hne => absurd h hne⟩

structure Onward (s t : Store) : Prop where
  actions : ∀ {k a}, s.actions.find? k = some a → ∃ a', t.actions.find? k = some a' ∧ Later a a'
  approvals : ∀ {k p}, s.approvals.find? k = some p → ∃ p', t.approvals.find? k = some p' ∧ LaterApproval p p'

theorem Onward.refl (s : Store) : Onward s s :=
  ⟨fun h => ⟨_, h, .refl _⟩, fun h => ⟨_, h, rfl, rfl, fun _ => rfl⟩⟩

theorem Onward.trans (h : Onward s t) (h' : Onward t u) : Onward s u where
  actions ha := by
    obtain ⟨a', ha', hlater⟩ := h.actions ha
    obtain ⟨a'', ha'', hlater'⟩ := h'.actions ha'
    exact ⟨a'', ha'', hlater.trans hlater'⟩
  approvals hp := by
    obtain ⟨p', hp', hlater⟩ := h.approvals hp
    obtain ⟨p'', hp'', hlater'⟩ := h'.approvals hp'
    refine ⟨p'', hp'', hlater'.id.trans hlater.id, hlater'.action.trans hlater.action, fun hne => ?_⟩
    obtain rfl := hlater.resolved hne
    exact hlater'.resolved hne

theorem Evolves.onward (h : Evolves s event t) : Onward s t where
  actions ha := by
    obtain ⟨a', ha', hmove⟩ := h.actions.kept ha
    exact ⟨a', ha', hmove.later⟩
  approvals hp := by
    obtain ⟨p', hp', hmove⟩ := h.approvals.kept hp
    exact ⟨p', hp', hmove.later⟩

theorem Permitted.later (h : Onward s t) {a a' : ActionExecution} (hlater : Later a a') (hp : Permitted s a) : Permitted t a' := by
  obtain hallow | ⟨hask, k, p, hp, haction, happroved⟩ := hp
  · exact .inl (hlater.same.decision.trans hallow)
  obtain ⟨p', hp', hsame⟩ := h.approvals hp
  have hresolved : p.status ≠ .pending := by
    rw [happroved]
    decide
  obtain rfl := hsame.resolved hresolved
  exact .inr ⟨hlater.same.decision.trans hask, k, p', hp', haction.trans hlater.same.id.symm, happroved⟩

/-! ## Lawful states -/

structure Lawful (s : Store) : Prop where
  executing : ∀ {k a}, s.actions.find? k = some a → a.status = .executing → Permitted s a
  marked : ∀ {k a}, s.actions.find? k = some a → a.dispatchMayHaveStartedAt ≠ none →
    a.status ≠ .prepared ∧ a.status ≠ .notExecuted

theorem Evolves.lawful (h : Evolves s event t) (hs : Lawful s) : Lawful t where
  executing ha' hexecuting := by
    obtain ⟨a, ha, hmove⟩ | ⟨-, hnew⟩ := h.actions.origin ha'
    · have hlater := hmove.later
      cases hmove with
      | same hsame => exact (hs.executing ha (hsame ▸ hexecuting)).later h.onward hlater
      | claimed _ _ _ _ _ hpermitted => exact hpermitted.later h.onward hlater
      | marked _ _ hstatus => exact (hs.executing ha hstatus).later h.onward hlater
      | settled _ _ _ _ h' =>
        rw [hexecuting] at h'
        obtain h' | h' | h' := h' <;> cases h'
      | closed _ _ _ h' =>
        rw [hexecuting] at h'
        cases h'
    · exact absurd hexecuting hnew.idle
  marked ha' hmarked := by
    obtain ⟨a, ha, hmove⟩ | ⟨-, hnew⟩ := h.actions.origin ha'
    · cases hmove with
      | same hsame =>
        subst hsame
        exact hs.marked ha hmarked
      | claimed _ hmarker _ hprepared => exact absurd hprepared (hs.marked ha (hmarker ▸ hmarked)).1
      | marked _ _ _ h' =>
        rw [h']
        decide
      | settled _ _ _ _ h' => obtain h' | h' | h' := h' <;> rw [h'] <;> decide
      | closed _ hmarker hopen =>
        obtain hprepared | ⟨-, hnone⟩ := hopen
        · exact absurd hprepared (hs.marked ha (hmarker ▸ hmarked)).1
        · exact absurd (hmarker.trans hnone) hmarked
    · exact absurd hnew.unmarked hmarked

/-! ## Histories -/

def Store.start (runs : Table AgentRun.id) : Store :=
  ⟨runs, .empty, .empty, .empty, .empty⟩

section
variable {runs : Table AgentRun.id} {events : List Event}

def stateAt (runs : Table AgentRun.id) (events : List Event) (n : Nat) : Store :=
  (Store.start runs).run (events.take n)

variable {n : Nat}

theorem stateAt_succ (h : events[n]? = some event) : stateAt runs events (n + 1) = (stateAt runs events n).step event := by
  unfold stateAt Store.run
  rw [List.take_add_one, h, Option.toList_some, List.foldl_concat]

theorem stateAt_succ_of_none (h : events[n]? = none) : stateAt runs events (n + 1) = stateAt runs events n := by
  unfold stateAt
  rw [List.take_add_one, h, Option.toList_none, List.append_nil]

theorem onward_succ (n : Nat) : Onward (stateAt runs events n) (stateAt runs events (n + 1)) := by
  cases h : events[n]? with
  | some event =>
    rw [stateAt_succ h]
    exact (evolves_step _ event).onward
  | none =>
    rw [stateAt_succ_of_none h]
    exact .refl _

theorem onward {m n : Nat} (h : m ≤ n) : Onward (stateAt runs events m) (stateAt runs events n) := by
  induction n, h using Nat.le_induction with
  | base => exact .refl _
  | succ n _ ih => exact ih.trans (onward_succ n)

theorem lawful_stateAt (n : Nat) : Lawful (stateAt runs events n) := by
  induction n with
  | zero => exact ⟨nofun, nofun⟩
  | succ n ih =>
    cases h : events[n]? with
    | some event =>
      rw [stateAt_succ h]
      exact (evolves_step _ event).lawful ih
    | none =>
      rw [stateAt_succ_of_none h]
      exact ih

def ResolvedAt (runs : Table AgentRun.id) (events : List Event) (k : String) (m : Nat) : Prop :=
  (∃ p, (stateAt runs events m).approvals.find? k = some p ∧ p.status = .pending) ∧
    ∃ p, (stateAt runs events (m + 1)).approvals.find? k = some p ∧ p.status ≠ .pending

variable {k : String}

theorem exists_resolvedAt : ∀ {n : Nat} {p : Approval}, (stateAt runs events n).approvals.find? k = some p →
    p.status ≠ .pending → ∃ m < n, ResolvedAt runs events k m ∧ (stateAt runs events (m + 1)).approvals.find? k = some p
  | 0, p, hp, _ => by cases hp
  | n + 1, p, hp, hresolved => by
    have hcurrent := hp
    cases h : events[n]? with
    | none =>
      rw [stateAt_succ_of_none h] at hp
      obtain ⟨m, hm, hat, hfound⟩ := exists_resolvedAt hp hresolved
      exact ⟨m, Nat.lt_succ_of_lt hm, hat, hfound⟩
    | some event =>
      rw [stateAt_succ h] at hp
      obtain ⟨q, hq, hmove⟩ | ⟨-, hnew⟩ := (evolves_step _ event).approvals.origin hp
      · by_cases hpending : q.status = .pending
        · exact ⟨n, Nat.lt_succ_self n, ⟨⟨q, hq, hpending⟩, p, hcurrent, hresolved⟩, hcurrent⟩
        obtain rfl := hmove.later.resolved hpending
        obtain ⟨m, hm, hat, hfound⟩ := exists_resolvedAt hq hpending
        exact ⟨m, Nat.lt_succ_of_lt hm, hat, hfound⟩
      · exact absurd hnew hresolved

theorem resolvedAt_unique {m m' : Nat} (h : ResolvedAt runs events k m) (h' : ResolvedAt runs events k m') : m = m' := by
  have hle : ∀ {m m'}, ResolvedAt runs events k m → ResolvedAt runs events k m' → ¬ m < m' := by
    rintro m m' ⟨-, p, hp, hresolved⟩ ⟨⟨q, hq, hpending⟩, -⟩ hlt
    obtain ⟨q', hq', hlater⟩ := (@onward runs events _ _ hlt).approvals hp
    obtain rfl := Option.mem_unique hq hq'
    obtain rfl := hlater.resolved hresolved
    exact hresolved hpending
  exact Nat.le_antisymm (Nat.not_lt.1 (hle h' h)) (Nat.not_lt.1 (hle h h'))

theorem authorized_of_approved {p : Approval} (hp : (stateAt runs events n).approvals.find? k = some p)
    (happroved : p.status = .approved) :
    ∃ m < n, ∃ event q, events[m]? = some event ∧ q.actionId = p.actionId ∧ Authorized (stateAt runs events m) event q := by
  have hresolved : p.status ≠ .pending := by
    rw [happroved]
    decide
  obtain ⟨m, hm, ⟨⟨q, hq, hpending⟩, -⟩, hfound⟩ := exists_resolvedAt hp hresolved
  cases h : events[m]? with
  | none =>
    rw [stateAt_succ_of_none h, hq] at hfound
    cases hfound
    exact absurd hpending hresolved
  | some event =>
    rw [stateAt_succ h] at hfound
    obtain ⟨q', hq', hmove⟩ | ⟨hnone, -⟩ := (evolves_step _ event).approvals.origin hfound
    · obtain rfl := Option.mem_unique hq hq'
      cases hmove with
      | same hsame =>
        subst hsame
        exact absurd hpending hresolved
      | resolved _ haction _ _ hauthorized => exact ⟨m, hm, event, q, h, haction.symm, hauthorized happroved⟩
    · rw [hq] at hnone
      cases hnone

theorem executing_of_claims (hclaims : Claims event k) (h : s.happen event = .ok t) :
    (∃ a, s.actions.find? k = some a ∧ a.status = .prepared) ∧ ∃ a, t.actions.find? k = some a ∧ a.status = .executing := by
  obtain ⟨e, c, rfl, rfl⟩ := hclaims
  obtain ⟨action, run, hclaimable, -, rfl⟩ := claimAction_ok h
  exact ⟨⟨action, hclaimable.actionFound, hclaimable.prepared⟩,
    _, Table.find?_update_self hclaimable.actionFound (Store.claimedAction e run c) fun _ => rfl, rfl⟩

theorem not_claimed_twice {m n : Nat} (hmn : m < n) {event' : Event} (hm : events[m]? = some event)
    (hclaims : Claims event k) (hclaims' : Claims event' k) (hok : (stateAt runs events m).happen event = .ok t) (u : Store) :
    (stateAt runs events n).happen event' ≠ .ok u := by
  intro hok'
  obtain ⟨-, a, ha, hexecuting⟩ := executing_of_claims hclaims hok
  obtain ⟨⟨a', ha', hprepared⟩, -⟩ := executing_of_claims hclaims' hok'
  have hnext : stateAt runs events (m + 1) = t := by
    rw [stateAt_succ hm]
    unfold Store.step
    rw [hok]
  obtain ⟨a'', ha'', hlater⟩ := (@onward runs events _ _ hmn).actions (hnext ▸ ha)
  obtain rfl := Option.mem_unique ha' ha''
  exact hlater.begun (by rw [hexecuting]; decide) hprepared

end

end Rovai.Actions
