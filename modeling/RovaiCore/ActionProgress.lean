import RovaiCore.ActionForward
/-!
# A Run waits on its actions for as long as it has something to wait for

Over every sequence of commands: a Run that waits has something to wait for, one that runs is not blocked, and an action that is
permitted and was not claimed yet can be claimed, or its answer is on the way.
-/
namespace Rovai.Actions

open Tables (Table)
open Fallible (bind_eq_ok orError_eq_ok)

variable {s t : Store} {e : Envelope} {C : Prop}

/-! ## Runs afterwards -/

structure RunLater (run run' : AgentRun) : Prop where
  attended : run'.attended = run.attended
  active : run.status.active = true → run'.status.active = true

theorem Settles.run_later (h : Settles C s t) {k : String} {run : AgentRun} (hrun : s.runs.find? k = some run) :
    ∃ run', t.runs.find? k = some run' ∧ (RunLater run run' ∨ run'.attended = false ∧ run'.status.active = true ∨
      ∀ j a, t.actions.find? j = some a → a.agentRunId = k → a.status ≠ .prepared) := by
  cases h with
  | keep r hwrites => exact ⟨run, hwrites.runs.symm ▸ hrun, .inl ⟨rfl, id⟩⟩
  | aside r hwrites => exact ⟨run, hwrites.runs.symm ▸ hrun, .inl ⟨rfl, id⟩⟩
  | wait r x reason hwrites ht _ _ =>
    subst ht
    have hrun : x.runs.find? k = some run := hwrites.runs.symm ▸ hrun
    unfold Store.markAgentRunWaiting
    dsimp only
    rw [Table.find?_updateWhere, hrun, Option.map_some]
    refine ⟨_, rfl, .inl ⟨?_, ?_⟩⟩
    · split <;> rfl
    split
    · exact fun _ => rfl
    · exact id
  | resume r x hwrites ht =>
    subst ht
    obtain ⟨run', hrun', hsame, hactive⟩ := runs_resumed (r := r) (hwrites.runs.symm ▸ hrun)
    exact ⟨run', hrun', .inl ⟨hsame, hactive⟩⟩
  | leave r x f hf hwrites ht hleft =>
    subst ht
    have hrun : x.runs.find? k = some run := hwrites.runs.symm ▸ hrun
    by_cases hk : k = r
    · subst hk
      refine ⟨f run, Table.find?_update_self hrun f hf, .inr ?_⟩
      obtain hrecovers | ⟨-, hnothing⟩ := hleft
      · refine .inl ⟨?_, (hrecovers run).2⟩
        simp [AgentRun.attended, (hrecovers run).1]
      · exact .inr hnothing
    · exact ⟨run, (Table.find?_update_of_ne x.runs hk f hf).trans hrun, .inl ⟨rfl, id⟩⟩

/-! ## Answers -/

def Answers (s : Store) (actionId : String) (C : Prop) : Prop :=
  ∃ k d, s.deliveries.find? k = some d ∧ d.actionId = actionId ∧ d.deliveryKind = .authorizationResolution ∧ (C → Open d)

structure Forward (C : Prop) (s : Store) : Prop where
  active : ∀ {k a}, s.actions.find? k = some a → a.status = .prepared →
    ∃ run, s.runs.find? a.agentRunId = some run ∧ run.status.active = true
  mode : ∀ {k a}, s.actions.find? k = some a → a.status = .prepared → a.controlMode ≠ .observed
  answers : ∀ {k a run}, s.actions.find? k = some a → a.status = .prepared → a.controlMode = .intercepted → Permitted s a →
    s.runs.find? a.agentRunId = some run → run.attended = true → Answers s a.id C

theorem ActionMove.prepared {event : Event} {a a' : ActionExecution} (h : ActionMove s event a a') (hprepared : a'.status = .prepared) :
    a' = a := by
  cases h with
  | same h => exact h
  | claimed _ _ _ _ h' => cases h'.symm.trans hprepared
  | marked _ _ _ h' => cases h'.symm.trans hprepared
  | settled _ _ _ _ h' =>
    rw [hprepared] at h'
    obtain h' | h' | h' := h' <;> cases h'
  | closed _ _ _ h' => cases h'.symm.trans hprepared

theorem prepared_prepareAction {c : PrepareActionCommand} (hs : Sound s) (h : s.prepareAction e c = .ok t) {k : String}
    {a : ActionExecution} (hnone : s.actions.find? k = none) (ha : t.actions.find? k = some a) :
    ∃ run decision, Acting s run ∧ (decision = .observed ↔ c.controlMode = .observed) ∧ a = preparedAction run c decision ∧
      (decision = .allow → c.controlMode = .intercepted → Answers t a.id C) ∧
      ∀ {j p}, t.approvals.find? j = some p → p.actionId = a.id → p.status = .pending := by
  obtain rfl | ⟨run, decision, hacting, hfresh, hdecision, h⟩ := prepareAction_ok h
  · rw [hnone] at ha
    cases ha
  obtain ⟨written, asked, hwritten, hasked, hdelivery, hnodelivery⟩ := writePrepared_ok h
  obtain ⟨-, rfl⟩ := insertAction_ok hwritten
  obtain ⟨hunasked, hundelivered⟩ := hs.nothing_of hfresh
  have hrows : asked.actions = s.actions.insert (preparedAction run c decision) ∧ asked.deliveries = s.deliveries ∧
      ∀ {j p}, asked.approvals.find? j = some p → p.actionId = c.actionId → p.status = .pending := by
    split at hasked
    · obtain ⟨-, rfl⟩ := insertApproval_ok hasked
      refine ⟨rfl, rfl, fun hp hkey => ?_⟩
      obtain hold | ⟨rfl, -, -⟩ := Table.insert_cases hp
      · exact absurd hkey (hunasked hold)
      · rfl
    · subst hasked
      exact ⟨rfl, rfl, fun hp hkey => absurd hkey (hunasked hp)⟩
  have hwaits := aside_waitPrepared asked run.id (preparedWaitReason decision c.controlMode)
  have hafter : Aside (asked.waitPrepared run.id (preparedWaitReason decision c.controlMode)) t := by
    cases hd : preparedDelivery run e c decision with
    | some d => exact aside_createRuntimeDelivery (hdelivery d hd)
    | none => exact hnodelivery hd ▸ ⟨rfl, rfl⟩
  have hactions : t.actions = s.actions.insert (preparedAction run c decision) := hafter.actions.trans (hwaits.actions.trans hrows.1)
  rw [hactions] at ha
  obtain hold | ⟨rfl, -, -⟩ := Table.insert_cases ha
  · rw [hnone] at hold
    cases hold
  refine ⟨run, decision, hacting, hdecision, rfl, fun hallow hmode => ?_, fun hp => ?_⟩
  · subst hallow
    have hd : preparedDelivery run e c .allow = some (Store.newDelivery e.uuid run.id c.actionId .authorizationResolution
        (.policy "approved_by_policy") run.executionEpoch e.now) := by
      unfold preparedDelivery
      rw [hmode]
    obtain ⟨hdfresh, rfl⟩ := created (hdelivery _ hd) fun hd' _ => by
      rw [deliveries_waitPrepared, hrows.2.1] at hd'
      exact hundelivered hd'
    exact ⟨_, _, Table.find?_insert_self hdfresh, rfl, rfl, fun _ => .inl rfl⟩
  · rw [hafter.approvals, hwaits.approvals] at hp
    exact hrows.2.2 hp

theorem answers_resolveApproval {c : ResolveActionApprovalCommand} (hs : Sound s) (h : s.resolveApproval e c = .ok t) {p : Approval}
    {a : ActionExecution} {run : AgentRun} (hp : s.approvals.find? p.id = some p) (hid : c.approvalId = p.id)
    (ha : s.actions.find? p.actionId = some a) (hrun : s.runs.find? a.agentRunId = some run)
    (hintercepted : a.controlMode = .intercepted) (haccepts : Store.acceptsNewEffects run = true) : Answers t a.id C := by
  obtain ⟨p', action, run', option, hresolvable, h⟩ := resolveApproval_ok h
  obtain rfl := Option.mem_unique (hid ▸ hresolvable.approval) hp
  obtain rfl := Option.mem_unique hresolvable.actionFound ha
  obtain rfl := Option.mem_unique hresolvable.runFound hrun
  have hkey : p'.actionId = action.id := (Table.key_of_find? ha).symm
  have hrunId : run'.id = action.agentRunId := Table.key_of_find? hrun
  have htold : ∀ {x u : Store} {status : ApprovalStatus} {option : RuntimePermissionOption}, Answered s action x →
      x.createRuntimeDelivery (Store.resolutionDelivery e run' action status option) = .ok u → Answers u action.id C := by
    intro x u status option hanswered hcreated
    obtain ⟨-, -, -, hfound⟩ := hanswered.told hs hp hresolvable.pending hkey rfl hrunId rfl rfl hcreated
    exact ⟨_, _, hfound, rfl, rfl, fun _ => .inl rfl⟩
  obtain hexpired | ⟨-, hanswer⟩ := h
  · obtain ⟨option', closed, hclosed, hdelivery⟩ := expireApproval_ok hexpired
    rw [if_pos haccepts] at hdelivery
    exact htold ((answered_resolvedApproval hs hp ha (by decide)).closed hclosed) hdelivery
  · obtain ⟨answered, hanswered, h⟩ := answerApproval_ok hanswer
    have hafter : Answered s action answered := by
      have hresolved := @answered_resolvedApproval s hs p' action (Store.resolutionStatus option) p'.requestedForUserId
        (Store.resolutionCode option) hp ha (resolutionStatus_ne_pending option)
      split at hanswered
      · subst hanswered
        exact hresolved
      · exact hresolved.closed hanswered
    obtain ⟨-, -, told, hcreated, rfl⟩ | ⟨hnot, -⟩ := h
    · have hanswers : Answers told action.id C := htold hafter hcreated
      exact hanswers
    · exact absurd ⟨haccepts, .inl hintercepted⟩ hnot

/-- **What is permitted has a way forward**, whatever the command has done. -/
theorem forward_perform (hs : Sound s) (hforward : Forward C s) {c : Command} (hcare : C → ¬ AnswersUnclaimed s c)
    (h : s.perform e c = .ok t) : Forward C t := by
  have hevolves : Evolves s (.command e c) t := evolves_happen h
  have hkeeps : Keeps C s t := keeps_perform hs hcare h
  have hsettles : Settles False s t := settles_perform hs False.elim h
  have hprepares : ∀ {k a}, s.actions.find? k = none → t.actions.find? k = some a → NewAction (.command e c) a →
      a.status = .prepared → ∃ c', c = .prepareAction c' ∧ s.prepareAction e c' = .ok t := by
    intro k a hnone ha hnew hprepared
    obtain ⟨e', c', hevent⟩ := hnew.prepared hprepared
    cases hevent
    exact ⟨c', rfl, h⟩
  refine ⟨fun {k a} ha hprepared => ?_, fun {k a} ha hprepared => ?_, fun {k a run} ha hprepared hintercepted hpermitted hrun hattended => ?_⟩
  · -- The Run goes on, is to be recovered, or has nothing left that is prepared.
    have hrun : ∃ run, s.runs.find? a.agentRunId = some run ∧ run.status.active = true := by
      obtain ⟨before, hbefore, hmove⟩ | ⟨hnone, hnew⟩ := hevolves.actions.origin ha
      · obtain rfl := hmove.prepared hprepared
        exact hforward.active hbefore hprepared
      · obtain ⟨c', rfl, h⟩ := hprepares hnone ha hnew hprepared
        obtain ⟨run, decision, hacting, -, rfl, -, -⟩ := @prepared_prepareAction s t e C c' hs h _ _ hnone ha
        exact ⟨run, hacting.found, hacting.active⟩
    obtain ⟨run, hrun, hactive⟩ := hrun
    obtain ⟨run', hrun', hlater | ⟨-, hactive'⟩ | hnothing⟩ := hsettles.run_later hrun
    · exact ⟨run', hrun', hlater.active hactive⟩
    · exact ⟨run', hrun', hactive'⟩
    · exact absurd hprepared (hnothing k a ha rfl)
  · obtain ⟨before, hbefore, hmove⟩ | ⟨hnone, hnew⟩ := hevolves.actions.origin ha
    · obtain rfl := hmove.prepared hprepared
      exact hforward.mode hbefore hprepared
    · obtain ⟨c', rfl, h⟩ := hprepares hnone ha hnew hprepared
      obtain ⟨run, decision, -, hdecision, rfl, -, -⟩ := @prepared_prepareAction s t e C c' hs h _ _ hnone ha
      intro hobserved
      rw [hdecision.2 hobserved] at hprepared
      cases hprepared
  · obtain ⟨before, hbefore, hmove⟩ | ⟨hnone, hnew⟩ := hevolves.actions.origin ha
    · obtain rfl := hmove.prepared hprepared
      have hkey : a.id = k := Table.key_of_find? ha
      obtain ⟨run₀, hrun₀, hactive⟩ := hforward.active hbefore hprepared
      obtain ⟨run', hrun', hlater⟩ := hsettles.run_later hrun₀
      obtain rfl := Option.mem_unique hrun hrun'
      have hattended₀ : run₀.attended = true := by
        obtain hlater | ⟨hno, -⟩ | hnothing := hlater
        · exact hlater.attended.symm.trans hattended
        · rw [hattended] at hno
          cases hno
        · exact absurd hprepared (hnothing k a ha rfl)
      have hpermission : Permitted s a ∨ ∃ p, p.actionId = a.id ∧ Authorized s (.command e c) p := by
        obtain hallow | ⟨hask, j, p', hp', haction, happroved⟩ := hpermitted
        · exact .inl (.inl hallow)
        obtain ⟨p, hp, hmove⟩ | ⟨-, hnew⟩ := hevolves.approvals.origin hp'
        · cases hmove with
          | same hsame => exact .inl (.inr ⟨hask, j, p, hp, hsame ▸ haction, hsame ▸ happroved⟩)
          | resolved _ hsame _ _ hauthorized => exact .inr ⟨p, hsame.symm.trans haction, hauthorized happroved⟩
        · cases hnew.symm.trans happroved
      obtain hpermitted | ⟨p, haction, hauthorized⟩ := hpermission
      · -- It was answered before, and the answer stays.
        obtain ⟨j, d, hd, hdaction, hkind, hopen⟩ := hforward.answers hbefore hprepared hintercepted hpermitted hrun₀ hattended₀
        have hda : s.actions.find? d.actionId = some a := by rw [hdaction, hkey]; exact hbefore
        have hda' : t.actions.find? d.actionId = some a := by rw [hdaction, hkey]; exact ha
        obtain ⟨d', hd', hsame, hstill⟩ := hkeeps j d a hd hkind hda hprepared hda' fun run' hrun' =>
          Option.mem_unique hrun hrun' ▸ hattended
        exact ⟨j, d', hd', hsame.action.trans hdaction, hsame.kind.trans hkind, fun hC => hstill hC (hopen hC)⟩
      · -- It is answered now.
        obtain ⟨e', c', hevent, hid, -⟩ := hauthorized.resolved
        cases hevent
        refine answers_resolveApproval hs h hauthorized.pending.1 hid (by rw [haction, hkey]; exact hbefore) hrun₀ hintercepted ?_
        unfold Store.acceptsNewEffects
        rw [hactive, (attended_iff.1 hattended₀).1]
        rfl
    · obtain ⟨c', rfl, h⟩ := hprepares hnone ha hnew hprepared
      obtain ⟨run', decision, -, -, rfl, hanswers, hpending⟩ := @prepared_prepareAction s t e C c' hs h _ _ hnone ha
      obtain hallow | ⟨-, j, p, hp, haction, happroved⟩ := hpermitted
      · exact hanswers hallow hintercepted
      · cases (hpending hp haction).symm.trans happroved

/-! ## Claims -/

structure ExecutorClaims (s : Store) (run : AgentRun) (a : ActionExecution) (e : Envelope) (c : ClaimActionCommand) : Prop where
  executor : e.actor = .system "action-executor"
  camp : e.campId = some run.campId
  action : c.actionId = a.id
  version : c.expectedVersion = a.version
  lease : isBlank c.leaseOwner = false ∧ 0 < c.leaseSeconds
  undelivered : c.authorizationDeliveryId = none ∧ c.authorizationDeliveryLeaseOwner = none
  inTime : ∀ expiry, a.executeBefore = some expiry → e.now ≤ expiry
  fresh : s.attempts.find? e.uuid = none

theorem approvedCount_of_permitted (hs : Sound s) {a : ActionExecution} (h : Permitted s a) (hask : a.policyDecision = .ask) :
    s.approvedCount a.id = 1 := by
  obtain hallow | ⟨-, k, p, hp, haction, happroved⟩ := h
  · cases hask.symm.trans hallow
  refine Table.countP_eq_one hp (by simp [haction, happroved]) fun hp' hmatches => ?_
  simp only [Bool.and_eq_true, beq_iff_eq] at hmatches
  exact hs.approvalUnique hp' hp (hmatches.1.trans haction.symm)

theorem claimAction_of_executorClaims (hs : Sound s) {k : String} {a : ActionExecution} {run : AgentRun} {c : ClaimActionCommand}
    (ha : s.actions.find? k = some a) (hprepared : a.status = .prepared) (hmediated : a.controlMode = .mediated)
    (hpermitted : Permitted s a) (hrun : s.runs.find? a.agentRunId = some run) (hactive : run.status.active = true)
    (hadmits : run.cancelRequested = false) (hclaims : ExecutorClaims s run a e c) : ∃ t, s.claimAction e c = .ok t := by
  have hkey : c.actionId = k := hclaims.action.trans (Table.key_of_find? ha)
  have hintime : a.executeBefore.any (fun expiry => decide (expiry < e.now)) = false := by
    cases hexpiry : a.executeBefore with
    | none => rfl
    | some expiry => simpa using hclaims.inTime expiry hexpiry
  have hcount : ¬ (a.policyDecision = .ask ∧ s.approvedCount c.actionId ≠ 1) := by
    rintro ⟨hask, hne⟩
    exact hne (hclaims.action ▸ approvedCount_of_permitted hs hpermitted hask)
  have hpolicy : ¬ (a.policyDecision ≠ .ask ∧ a.policyDecision ≠ .allow) := by
    rintro ⟨hask, hallow⟩
    obtain h | ⟨h, -⟩ := hpermitted
    · exact hallow h
    · exact hask h
  have hcomponent : Store.validComponent e.actor a.controlMode ≠ false := by
    rw [hclaims.executor, hmediated]
    decide
  have howned : s.authorizationOwned a run c = .ok () := by
    unfold Store.authorizationOwned
    rw [if_neg (by rw [hmediated]; decide), reject_eq_ok, hclaims.undelivered.1, hclaims.undelivered.2]
    simp
  -- An action that is prepared was never attempted.
  have hattempt : s.insertAttempt (Store.claimedAttempt e a c) =
      .ok { s with attempts := s.attempts.insert (Store.claimedAttempt e a c) } := by
    unfold Store.insertAttempt
    rw [if_neg]
    rintro (htaken | hsame)
    · have hfresh : s.attempts.find? (Store.claimedAttempt e a c).id = none := hclaims.fresh
      rw [hfresh] at htaken
      cases htaken
    · obtain ⟨j, x, hx, hmatches⟩ := Table.any_iff.1 hsame
      simp only [Bool.and_eq_true, beq_iff_eq] at hmatches
      obtain ⟨b, hb, hbegun⟩ := hs.attemptAction hx
      rw [hmatches.1] at hb
      obtain rfl := Option.mem_unique (Table.find?_key ha) hb
      exact hbegun hprepared
  refine ⟨{ s with
    actions := s.actions.update c.actionId (Store.claimedAction e run c)
    attempts := s.attempts.insert (Store.claimedAttempt e a c) }, ?_⟩
  unfold Store.claimAction
  simp only [bind_eq_ok, reject_eq_ok, orError_eq_ok, exists_const]
  refine ⟨?_, ?_, a, hkey ▸ ha, run, hrun, ?_, ?_, ?_, ?_, ?_, hcount, hpolicy, hcomponent, (), howned, _, hattempt, rfl⟩
  · exact fun hno => hno (.inl hclaims.executor)
  · rintro (hblank | hlease)
    · rw [hclaims.lease.1] at hblank
      cases hblank
    · exact absurd hclaims.lease.2 (Int.not_lt.2 hlease)
  · exact fun hne => hne hclaims.camp
  · rintro (hne | hne)
    · exact hne hprepared
    · exact hne hclaims.version.symm
  · rw [hactive]
    decide
  · rw [hadmits]
    decide
  · rw [hintime]
    decide

/-! ## Every sequence of commands -/

def Never (P : Store → Command → Prop) (s : Store) : List (Envelope × Command) → Prop
  | [] => True
  | (e, c) :: rest => ¬ P s c ∧ Never P (s.step (.command e c)) rest

def Store.runCommands (s : Store) (commands : List (Envelope × Command)) : Store :=
  s.run (commands.map fun x => .command x.1 x.2)

structure Course (C D : Prop) (s : Store) : Prop where
  sound : Sound s
  waits : Waits C s
  forward : Forward D s

variable {D : Prop}

theorem Course.step (h : Course C D s) {c : Command} (hC : C → ¬ SettlesUnknown s c) (hD : D → ¬ AnswersUnclaimed s c) :
    Course C D (s.step (.command e c)) := by
  unfold Store.step
  cases hperform : s.happen (.command e c) with
  | error _ => exact h
  | ok t =>
    have hsettles : Settles C s t := settles_perform h.sound hC hperform
    exact ⟨hsettles.sound, hsettles.waits h.waits, forward_perform h.sound h.forward hD hperform⟩

theorem Course.run {commands : List (Envelope × Command)} (h : Course C D s) (hC : C → Never SettlesUnknown s commands)
    (hD : D → Never AnswersUnclaimed s commands) : Course C D (s.runCommands commands) := by
  induction commands generalizing s with
  | nil => exact h
  | cons command rest ih =>
    obtain ⟨e, c⟩ := command
    exact ih (h.step (fun hc => (hC hc).1) fun hd => (hD hd).1) (fun hc => (hC hc).2) fun hd => (hD hd).2

def Unoccupied (runs : Table AgentRun.id) : Prop :=
  ∀ k run, runs.find? k = some run → run.status = .waiting →
    Store.resumable run.waitReason = false ∧ run.waitReason ≠ some .unknownActionOutcome

theorem course_start {runs : Table AgentRun.id} (h : Unoccupied runs) : Course C D (Store.start runs) where
  sound := ⟨nofun, nofun, nofun, nofun, nofun,
    nofun⟩
  waits k run hrun _ := by
    refine ⟨fun hwaiting hreason => ?_, fun _ hwaiting hreason => ?_, fun _ hblocked => ?_⟩
    · rw [(h k run hrun hwaiting).1] at hreason
      cases hreason
    · exact absurd hreason (h k run hrun hwaiting).2
    · obtain h | h | h := hblocked <;> cases h
  forward := ⟨nofun, nofun, nofun⟩

def stateAfter (runs : Table AgentRun.id) (commands : List (Envelope × Command)) : Store :=
  (Store.start runs).runCommands commands

/-- **A Run waits on its actions exactly as long as it has something to wait for.**  What waits with a reason that a resumption looks
at has something to wait for; what waits for an unknown outcome has one, if no such outcome of an intercepted action was settled;
what runs is not blocked; and what is permitted but not claimed can be claimed by its executor in time, or its answer is there for
the Runtime, open if no such answer was taken before the claim. -/
theorem waits_while_occupied {runs : Table AgentRun.id} (hruns : Unoccupied runs) (commands : List (Envelope × Command)) {k : String}
    {run : AgentRun} (hrun : (stateAfter runs commands).runs.find? k = some run) (hadmits : run.cancelRequested = false)
    (hkept : run.runtimeRecoveryRequired = false) :
    (run.status = .waiting → Store.resumable run.waitReason = true → (stateAfter runs commands).Occupied k) ∧
    (Never SettlesUnknown (Store.start runs) commands → run.status = .waiting → run.waitReason = some .unknownActionOutcome →
      (stateAfter runs commands).HasUnknown k) ∧
    (run.status = .running → ¬ (stateAfter runs commands).Blocked k) ∧
    ∀ j a, (stateAfter runs commands).actions.find? j = some a → a.agentRunId = k → a.status = .prepared →
      Permitted (stateAfter runs commands) a →
      (a.controlMode = .mediated ∧
        ∀ e c, ExecutorClaims (stateAfter runs commands) run a e c → ∃ t, (stateAfter runs commands).claimAction e c = .ok t) ∨
      (a.controlMode = .intercepted ∧
        Answers (stateAfter runs commands) a.id (Never AnswersUnclaimed (Store.start runs) commands)) := by
  have hcourse : Course (Never SettlesUnknown (Store.start runs) commands) (Never AnswersUnclaimed (Store.start runs) commands)
      (stateAfter runs commands) := (course_start hruns).run id id
  have hattended := attended_iff.2 ⟨hadmits, hkept⟩
  have hwaits := hcourse.waits k run hrun hattended
  have hkey : run.id = k := Table.key_of_find? hrun
  refine ⟨hkey ▸ hwaits.occupied, hkey ▸ hwaits.unknown, hkey ▸ hwaits.unblocked, fun j a ha harun hprepared hpermitted => ?_⟩
  have hrun' : (stateAfter runs commands).runs.find? a.agentRunId = some run := harun ▸ hrun
  obtain ⟨run', hfound, hactive⟩ := hcourse.forward.active ha hprepared
  obtain rfl := Option.mem_unique hrun' hfound
  cases hmode : a.controlMode with
  | mediated =>
    refine .inl ⟨rfl, fun e c hclaims => ?_⟩
    exact claimAction_of_executorClaims hcourse.sound ha hprepared hmode hpermitted hrun' hactive hadmits hclaims
  | intercepted => exact .inr ⟨rfl, hcourse.forward.answers ha hprepared hmode hpermitted hrun' hattended⟩
  | observed => exact absurd hmode (hcourse.forward.mode ha hprepared)

/-! ### Three histories of one Run -/

def writingRun : AgentRun where
  id := "run"
  campId := "camp"
  agentId := "agent"
  singleChat := false
  status := .running
  waitReason := none
  executionEpoch := 1
  version := 1
  cancelRequested := false
  runtimeRecoveryRequired := false
  permissionSemantics := .coreEnforcedV1
  effectiveConfig := ⟨["action.request"], [⟨some "file_write", some "allow"⟩, ⟨some "shell", some "ask"⟩]⟩

def writingRuns : Table AgentRun.id :=
  Table.empty.insert writingRun

def byAgent (uuid : String) : Envelope :=
  ⟨.agent "agent" "run", some "camp", some 1, 0, uuid⟩

def bySystem (componentId uuid : String) (now : Int) : Envelope :=
  ⟨.system componentId, some "camp", none, now, uuid⟩

def prepares (actionKind : String) (mode : ControlMode) (executeBefore : Option Int) : Command :=
  .prepareAction {
    actionId := "action"
    input := ⟨actionKind, "digest", none⟩
    controlMode := mode
    nativeActionId := some "native"
    runtimeRequest := if mode = .intercepted then some ⟨"request", "thread", "digest", true, []⟩ else none
    executeBefore := executeBefore
    requestedForUserId := "user"
    memberActive := true
    scopeDenied := false }

def acquires : Command :=
  .acquireRuntimeDelivery ⟨"delivery", 1, "adapter", 30⟩

def answered : LeasedDeliveryCommand :=
  ⟨"delivery", .policy "approved_by_policy", 1, "adapter"⟩

def resulting (outcome : ActionResultOutcome) (effectDisposition : String) : Command :=
  .recordResult ⟨"action", "attempt", 2, outcome, "code", "summary", effectDisposition, false⟩

def asking : List (Envelope × Command) :=
  [(byAgent "approval", prepares "shell" .mediated none)]

def settlingUnknown : List (Envelope × Command) :=
  [(byAgent "delivery", prepares "file_write" .intercepted none), (bySystem "runtime-adapter:x" "" 1, acquires),
    (bySystem "runtime-adapter:x" "attempt" 2, .claimAction ⟨"action", 1, "adapter", 30, some "delivery", some "adapter"⟩),
    (bySystem "runtime-adapter:x" "" 3, .markDispatchStarted ⟨"action", "attempt", 2, "adapter"⟩),
    (bySystem "runtime-adapter:x" "" 4, resulting .unknown "unknown"),
    (bySystem "runtime-adapter:x" "" 5, .acknowledgeRuntimeDelivery answered),
    (bySystem "action-reconciler" "" 6, resulting .succeeded "complete")]

def limited : List (Envelope × Command) :=
  [(byAgent "delivery", prepares "file_write" .mediated (some 10))]

def failingAnswer : List (Envelope × Command) :=
  [(byAgent "delivery", prepares "file_write" .intercepted none), (bySystem "runtime-adapter:x" "" 1, acquires),
    (bySystem "runtime-adapter:x" "" 2, .failRuntimeDelivery answered "lost")]

theorem unoccupied_writingRuns : Unoccupied writingRuns := by
  intro k run hrun hwaiting
  obtain hnone | ⟨rfl, -, -⟩ := Table.insert_cases hrun
  · cases hnone
  · cases hwaiting

theorem asking_occupied : (stateAfter writingRuns asking).Occupied "run" := by
  have hrun : ∃ run, (stateAfter writingRuns asking).runs.find? "run" = some run ∧ run.cancelRequested = false ∧
      run.runtimeRecoveryRequired = false ∧ run.status = .waiting ∧ Store.resumable run.waitReason = true :=
    ⟨_, rfl, rfl, rfl, rfl, rfl⟩
  obtain ⟨run, hrun, hadmits, hkept, hwaiting, hreason⟩ := hrun
  exact (waits_while_occupied unoccupied_writingRuns asking hrun hadmits hkept).1 hwaiting hreason

/-- A Run waits for an unknown outcome that was settled; an action that came too late cannot be claimed; and one whose answer failed
is neither claimed nor told. -/
theorem waits_for_nothing :
    ((stateAfter writingRuns settlingUnknown).runs.find? "run").any (fun run => !run.cancelRequested && !run.runtimeRecoveryRequired &&
      run.status == .waiting && run.waitReason == some .unknownActionOutcome) = true ∧
    ¬ (stateAfter writingRuns settlingUnknown).Occupied "run" ∧
    ((stateAfter writingRuns limited).actions.find? "action").any (fun a => a.status == .prepared && a.policyDecision == .allow) = true ∧
    ((stateAfter writingRuns limited).claimAction (bySystem "action-executor" "attempt" 11)
      ⟨"action", 1, "executor", 30, none, none⟩).toOption.isNone = true ∧
    ((stateAfter writingRuns failingAnswer).actions.find? "action").any (fun a => a.status == .prepared && a.policyDecision == .allow) =
      true ∧
    (stateAfter writingRuns failingAnswer).deliveries.any (fun d => d.status == .pending || d.status == .delivering) = false := by
  decide +kernel

end Rovai.Actions
