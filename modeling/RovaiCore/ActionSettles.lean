import RovaiCore.ActionWaits
import RovaiCore.Runs
/-!
# What each command does to its Run

Each command of the action service writes the rows of one Run, and then leaves the Run as it is, lets it wait for what was written,
or resumes it.
-/
namespace Rovai.Actions

open Tables (Table)
open Fallible (bind_eq_ok orError_eq_ok)

variable {s t : Store} {e : Envelope} {C : Prop}

/-! ## What is left open -/

def SettlesUnknown (s : Store) : Command → Prop
  | .recordResult c => c.outcome ≠ .unknown ∧
      ∃ a, s.actions.find? c.actionId = some a ∧ a.status = .unknown ∧ a.controlMode = .intercepted
  | _ => False

/-! ## Statements -/

theorem created {d : RuntimeDelivery} (h : s.createRuntimeDelivery d = .ok t)
    (hnone : ∀ {k d'}, s.deliveries.find? k = some d' → d'.deliveryKind = d.deliveryKind → d'.actionId ≠ d.actionId) :
    s.deliveries.find? d.id = none ∧ t = { s with deliveries := s.deliveries.insert d } := by
  obtain ⟨-, k, d', hd', haction, hkind⟩ | hnew := createRuntimeDelivery_ok h
  · exact absurd haction (hnone hd' hkind)
  · exact hnew

theorem created_waiting {d : RuntimeDelivery} {r : String} {reason : WaitReason}
    (h : (s.markAgentRunWaiting r reason).createRuntimeDelivery d = .ok t)
    (hnone : ∀ {k d'}, s.deliveries.find? k = some d' → d'.deliveryKind = d.deliveryKind → d'.actionId ≠ d.actionId) :
    s.deliveries.find? d.id = none ∧
      t = ({ s with deliveries := s.deliveries.insert d } : Store).markAgentRunWaiting r reason :=
  created (s := s.markAgentRunWaiting r reason) h hnone

theorem blocked_insertDelivery {d : RuntimeDelivery} (hfresh : s.deliveries.find? d.id = none) (hopen : d.status.unsettled = true) :
    ({ s with deliveries := s.deliveries.insert d } : Store).Blocked d.agentRunId := by
  have hfound : (s.deliveries.insert d).find? d.id = some d := Table.find?_insert_self hfresh
  exact .ofDelivery hfound rfl hopen

theorem Later.ofOpen {a a' : ActionExecution} (hsame : SameRequest a a') (hopen : a.status.final = false)
    (hbegun : a.status ≠ .prepared → a'.status ≠ .prepared)
    (hmarked : a.dispatchMayHaveStartedAt ≠ none → a'.dispatchMayHaveStartedAt ≠ none) : Later a a' :=
  ⟨hsame, fun hfinal => (by rw [hopen] at hfinal; cases hfinal), hbegun, hmarked⟩

variable {reason : String}

variable {version : Int}

theorem writes_setActionNotExecuted {actionId : String} (hs : Sound s)
    (h : s.setActionNotExecuted actionId version reason = .ok t) :
    ∃ a, s.actions.find? actionId = some a ∧ a.status = .prepared ∧ Writes a.agentRunId s t ∧
      t = { s with actions := s.actions.update actionId (notExecuted reason) } := by
  obtain ⟨a, ha, hprepared, rfl⟩ := setActionNotExecuted_ok h
  refine ⟨a, ha, hprepared, ?_, rfl⟩
  exact @writes_updateAction s a.agentRunId a hs _ (notExecuted reason) (fun _ => rfl) ha rfl
    (.ofOpen ⟨rfl, rfl, rfl, rfl, rfl⟩ (hprepared ▸ rfl) (fun hbegun => absurd hprepared hbegun) id)

variable {r k : String}

theorem hasUnknown_update {a : ActionExecution} {f : ActionExecution → ActionExecution} (hf : ∀ a, (f a).id = a.id)
    (ha : s.actions.find? k = some a) (hknown : a.status ≠ .unknown) (h : s.HasUnknown r) :
    ({ s with actions := s.actions.update k f hf } : Store).HasUnknown r := by
  obtain ⟨j, b, hb, hunknown⟩ := Table.any_iff.1 h
  refine Table.any_iff.2 ⟨j, b, ?_, hunknown⟩
  dsimp only
  rw [Table.find?_update_of_ne _ _ f hf]
  · exact hb
  rintro rfl
  obtain rfl := Option.mem_unique ha hb
  exact hknown (activeUnknown_iff.1 hunknown).2.1

theorem hasUnknown_of_update {f : ActionExecution → ActionExecution} (hf : ∀ a, (f a).id = a.id)
    (hknown : ∀ a, (f a).status ≠ .unknown) (h : ({ s with actions := s.actions.update k f hf } : Store).HasUnknown r) :
    s.HasUnknown r := by
  obtain ⟨j, b, hb, hunknown⟩ := Table.any_iff.1 h
  dsimp only at hb
  rw [Table.find?_update] at hb
  split at hb
  · obtain ⟨a, -, rfl⟩ := Option.map_eq_some_iff.1 hb
    exact absurd (activeUnknown_iff.1 hunknown).2.1 (hknown a)
  · exact Table.any_iff.2 ⟨j, b, hb, hunknown⟩

theorem status_unknown {outcome : ActionResultOutcome} (h : outcome.status = .unknown) : outcome = .unknown := by
  cases outcome
  · cases h
  · cases h
  · rfl

theorem blocked_of_update {f : ActionExecution → ActionExecution} (hf : ∀ a, (f a).id = a.id)
    (hrun : ∀ a, (f a).agentRunId = a.agentRunId) (hknown : ∀ a, (f a).status ≠ .unknown)
    (h : ({ s with actions := s.actions.update k f hf } : Store).Blocked r) : s.Blocked r := by
  refine Store.Blocked.back (fun {j p a} hp hpending ha harun => ?_) (fun h => .ofUnknown (hasUnknown_of_update hf hknown h))
    (fun hd hdrun hopen => .ofDelivery hd hdrun hopen) h
  dsimp only at hp ha
  rw [Table.find?_update] at ha
  split at ha
  · obtain ⟨a', ha', rfl⟩ := Option.map_eq_some_iff.1 ha
    exact .ofApproval hp hpending ha' ((hrun a').symm.trans harun)
  · exact .ofApproval hp hpending ha harun

/-! ## Preparing and observing -/

theorem settles_same (hs : Sound s) : Settles C s s :=
  .keep "" (.refl hs "") id id fun _ => id

theorem preparedDelivery_spec {run : AgentRun} {c : PrepareActionCommand} {decision : PolicyDecision} {d : RuntimeDelivery}
    (h : preparedDelivery run e c decision = some d) :
    d.agentRunId = run.id ∧ d.actionId = c.actionId ∧ d.status = .pending ∧
      (d.deliveryKind = .actionResult → (preparedStatus decision).final = true) ∧
      preparedWaitReason decision c.controlMode = some .runtimeDelivery := by
  unfold preparedDelivery at h
  split at h
  · cases h
    exact ⟨rfl, rfl, rfl, nofun, rfl⟩
  · cases h
    exact ⟨rfl, rfl, rfl, fun _ => rfl, rfl⟩
  · rename_i hmode
    cases h
    rw [hmode]
    exact ⟨rfl, rfl, rfl, nofun, rfl⟩
  · cases h

theorem Sound.nothing_of (hs : Sound s) {actionId : String} (hfresh : s.actions.find? actionId = none) :
    (∀ {k p}, s.approvals.find? k = some p → p.actionId ≠ actionId) ∧ (∀ {k d}, s.deliveries.find? k = some d → d.actionId ≠ actionId) := by
  refine ⟨fun hp haction => ?_, fun hd haction => ?_⟩
  · obtain ⟨a, ha⟩ := hs.approvalAction hp
    rw [haction, hfresh] at ha
    cases ha
  · obtain ⟨a, ha, -⟩ := hs.deliveryAction hd
    rw [haction, hfresh] at ha
    cases ha

theorem settles_prepareAction {c : PrepareActionCommand} (hs : Sound s) (h : s.prepareAction e c = .ok t) : Settles C s t := by
  obtain rfl | ⟨run, decision, -, hfresh, hdecision, h⟩ := prepareAction_ok h
  · exact settles_same hs
  obtain ⟨written, asked, hwritten, hasked, hdelivery, hnone⟩ := writePrepared_ok h
  obtain ⟨-, rfl⟩ := insertAction_ok hwritten
  obtain ⟨hunasked, hundelivered⟩ := hs.nothing_of hfresh
  have hnew : (s.actions.insert (preparedAction run c decision)).find? c.actionId = some (preparedAction run c decision) :=
    Table.find?_insert_self hfresh
  have hwrites : Writes run.id s { s with actions := s.actions.insert (preparedAction run c decision) } :=
    writes_insertAction hs hfresh rfl
  cases hd : preparedDelivery run e c decision with
  | some d =>
    obtain ⟨hrun, haction, hpending, hfinal, hreason⟩ := preparedDelivery_spec hd
    have hnotAsk : decision ≠ .ask := by
      rintro rfl
      cases hreason
    rw [if_neg hnotAsk] at hasked
    subst hasked
    have hcreated := hdelivery d hd
    rw [hreason] at hcreated
    obtain ⟨hdfresh, rfl⟩ := created_waiting hcreated fun hd' _ => haction ▸ hundelivered hd'
    refine .wait run.id _ .runtimeDelivery (hwrites.trans ?_) rfl (fun _ => ?_) nofun
    · refine writes_insertDelivery hwrites.sound (haction ▸ hnew) rfl hrun (fun _ _ _ hp _ => ?_) hfinal
      rw [haction]
      exact (hunasked hp).symm
    · rw [← hrun]
      exact .inl (blocked_insertDelivery hdfresh (by rw [hpending]; rfl))
  | none =>
    rw [hnone hd]
    cases decision with
    | ask =>
      rw [if_pos rfl] at hasked
      obtain ⟨hpfresh, rfl⟩ := insertApproval_ok hasked
      have hasks : (s.approvals.insert (preparedApproval e c)).find? e.uuid = some (preparedApproval e c) :=
        Table.find?_insert_self hpfresh
      refine .wait run.id _ .approval (hwrites.trans ?_) rfl (fun _ => .inl ?_) nofun
      · exact writes_insertApproval hwrites.sound hpfresh hnew rfl (fun hp => hunasked hp) (fun hd => hundelivered hd)
      · exact .ofApproval hasks rfl hnew rfl
    | deny =>
      unfold preparedDelivery at hd
      cases hm : c.controlMode <;> rw [hm] at hd <;> cases hd
    | observed =>
      rw [if_neg (by decide)] at hasked
      subst hasked
      exact .wait run.id _ .unknownActionOutcome hwrites rfl nofun fun _ => .ofAction hnew rfl rfl rfl
    | allow =>
      rw [if_neg (by decide)] at hasked
      subst hasked
      cases hm : c.controlMode with
      | mediated => exact .wait run.id _ .actionExecution hwrites rfl (fun _ => .ofAction hnew rfl (.inl rfl)) nofun
      | intercepted =>
        unfold preparedDelivery at hd
        rw [hm] at hd
        cases hd
      | observed => cases hdecision.2 hm

theorem settles_recordObservedAction {c : RecordObservedActionCommand} (hs : Sound s) (h : s.recordObservedAction e c = .ok t) :
    Settles C s t := by
  obtain rfl | ⟨run, written, -, hwritten, rfl⟩ := recordObservedAction_ok h
  · exact settles_same hs
  obtain ⟨hfresh, rfl⟩ := insertAction_ok hwritten
  have hnew : (s.actions.insert (Store.observedAction run c)).find? c.actionId = some (Store.observedAction run c) :=
    Table.find?_insert_self hfresh
  have hwrites : Writes run.id s { s with actions := s.actions.insert (Store.observedAction run c) } :=
    writes_insertAction hs hfresh rfl
  split
  · rename_i houtcome
    refine .wait run.id _ .unknownActionOutcome hwrites rfl nofun fun _ => .ofAction hnew rfl ?_ ?_
    · exact congrArg ActionResultOutcome.status houtcome
    · exact congrArg ActionResultOutcome.unknownDisposition houtcome
  · -- A final outcome is only noted.
    rename_i houtcome
    have hkept : ∀ {p : ActionExecution → Bool}, s.actions.any p = true → (s.actions.insert (Store.observedAction run c)).any p = true := by
      intro p hany
      obtain ⟨k, a, ha, hp⟩ := Table.any_iff.1 hany
      exact Table.any_iff.2 ⟨k, a, Table.find?_insert_of_found ha _, hp⟩
    have hstill : ∀ {k p a}, s.approvals.find? k = some p →
        (s.actions.insert (Store.observedAction run c)).find? p.actionId = some a → s.actions.find? p.actionId = some a := by
      intro k p a hp ha
      obtain ⟨b, hb⟩ := hs.approvalAction hp
      exact hb.trans ((Table.find?_insert_of_found hb _).symm.trans ha)
    refine .keep run.id hwrites ?_ ?_ (fun _ h => hkept h)
    · refine Store.Blocked.back (fun hp hpending ha hrun => .ofApproval hp hpending (hstill hp ha) hrun) (fun hunknown => ?_)
        (fun hd hrun hopen => .ofDelivery hd hrun hopen)
      obtain ⟨k, a, ha, h⟩ := Table.any_iff.1 hunknown
      obtain hold | ⟨rfl, -, -⟩ := Table.insert_cases ha
      · exact .ofUnknown (Table.any_iff.2 ⟨k, a, hold, h⟩)
      have hstatus := (activeUnknown_iff.1 h).2.1
      exact absurd (status_unknown hstatus) houtcome
    · rintro (hblocked | hhand)
      · refine .inl (Store.Blocked.back (s := { s with actions := s.actions.insert (Store.observedAction run c) }) (x := s) ?_ ?_ ?_ hblocked)
        · exact fun hp hpending ha hrun => .ofApproval hp hpending (Table.find?_insert_of_found ha _) hrun
        · exact fun hunknown => .ofUnknown (hkept hunknown)
        · exact fun hd hrun hopen => .ofDelivery hd hrun hopen
      · exact .inr (hkept hhand)

/-! ## Approvals -/

structure Answered (s : Store) (action : ActionExecution) (x : Store) : Prop where
  writes : Writes action.agentRunId s x
  deliveries : x.deliveries = s.deliveries
  settled : ∀ {k q}, x.approvals.find? k = some q → q.status = .pending → q.actionId ≠ action.id
  found : ∃ a, x.actions.find? action.id = some a ∧ a.agentRunId = action.agentRunId
  unknown : ∀ {r}, s.HasUnknown r → x.HasUnknown r

theorem answered_resolvedApproval (hs : Sound s) {p : Approval} {action : ActionExecution} {status : ApprovalStatus}
    {resolvedById resolutionCode : String} (hp : s.approvals.find? p.id = some p) (haction : s.actions.find? p.actionId = some action)
    (hstatus : status ≠ .pending) : Answered s action (s.resolvedApproval p.id status resolvedById resolutionCode) where
  writes := writes_resolvedApproval hs hp haction rfl hstatus
  deliveries := rfl
  settled {k q} hq hpending hsame := by
    have hq := (Table.find?_update s.approvals p.id (Store.resolvedAs status resolvedById resolutionCode) (fun _ => rfl) k).symm.trans hq
    split at hq
    · obtain ⟨q', -, rfl⟩ := Option.map_eq_some_iff.1 hq
      exact hstatus hpending
    · rename_i hne
      have hkey : q.actionId = p.actionId := hsame.trans (Table.key_of_find? haction)
      obtain rfl := hs.approvalUnique hq hp hkey
      exact hne (Table.key_of_find? hq).symm
  found := ⟨action, Table.find?_key haction, rfl⟩
  unknown := id

variable {x : Store}

theorem Answered.closed {action : ActionExecution} (h : Answered s action x)
    (hclosed : x.setActionNotExecuted action.id version reason = .ok t) : Answered s action t := by
  obtain ⟨a, ha, hprepared, hwrites, rfl⟩ := writes_setActionNotExecuted h.writes.sound hclosed
  obtain ⟨a', ha', hrun⟩ := h.found
  obtain rfl := Option.mem_unique ha ha'
  rw [hrun] at hwrites
  refine ⟨h.writes.trans hwrites, h.deliveries, h.settled, ⟨notExecuted reason a, ?_, hrun⟩, fun hunknown => ?_⟩
  · exact Table.find?_update_self ha (notExecuted reason) fun _ => rfl
  · exact @hasUnknown_update x _ _ a (notExecuted reason) (fun _ => rfl) ha (by rw [hprepared]; decide) (h.unknown hunknown)

theorem Answered.told {action : ActionExecution} (h : Answered s action x) {d : RuntimeDelivery} (hs : Sound s)
    {p : Approval} {k : String} (hp : s.approvals.find? k = some p) (hpending : p.status = .pending) (hkey : p.actionId = action.id)
    (haction : d.actionId = action.id) (hrun : d.agentRunId = action.agentRunId) (hkind : d.deliveryKind = .authorizationResolution)
    (hopen : d.status = .pending) (hcreated : x.createRuntimeDelivery d = .ok t) :
    Writes action.agentRunId s t ∧ t.Blocked action.agentRunId ∧ (∀ {r}, s.HasUnknown r → t.HasUnknown r) ∧
      t.deliveries.find? d.id = some d := by
  obtain ⟨hfresh, rfl⟩ := created hcreated fun hd' hkind' hsame => by
    rw [h.deliveries] at hd'
    exact hs.unanswered hp hpending hd' (hkind'.trans hkind) (hsame.trans (haction.trans hkey.symm))
  obtain ⟨a, ha, harun⟩ := h.found
  refine ⟨h.writes.trans ?_, ?_, h.unknown, Table.find?_insert_self hfresh⟩
  · refine writes_insertDelivery h.writes.sound (haction ▸ ha) harun hrun (fun _ _ _ hq hqpending hsame => ?_) fun hresult => ?_
    · exact h.settled hq hqpending (hsame.symm.trans haction)
    rw [hkind] at hresult
    cases hresult
  · rw [← hrun]
    exact blocked_insertDelivery hfresh (by rw [hopen]; rfl)

theorem settles_resolveApproval {c : ResolveActionApprovalCommand} (hs : Sound s) (h : s.resolveApproval e c = .ok t) :
    Settles C s t := by
  obtain ⟨p, action, run, option, hresolvable, h⟩ := resolveApproval_ok h
  have hp : s.approvals.find? p.id = some p := Table.find?_key hresolvable.approval
  have haction : s.actions.find? p.actionId = some action := hresolvable.actionFound
  have hkey : p.actionId = action.id := (Table.key_of_find? haction).symm
  have hrunId : run.id = action.agentRunId := Table.key_of_find? hresolvable.runFound
  have hblocked : s.Blocked action.agentRunId := .ofApproval hp hresolvable.pending haction rfl
  have hfenced : Store.acceptsNewEffects run ≠ true → ∀ run', s.runs.find? action.agentRunId = some run' →
      run'.status.active = false ∨ run'.cancelRequested = true := by
    intro hno run' hrun'
    obtain rfl := Option.mem_unique hresolvable.runFound hrun'
    unfold Store.acceptsNewEffects at hno
    cases hactive : run.status.active
    · exact .inl rfl
    rw [hactive] at hno
    exact .inr (by simpa using hno)
  obtain hexpired | ⟨-, hanswer⟩ := h
  · obtain ⟨option', closed, hclosed, hdelivery⟩ := expireApproval_ok hexpired
    have hanswered := (answered_resolvedApproval hs hp haction (by decide)).closed hclosed
    split at hdelivery
    · obtain ⟨hwrites, hopen, hunknown, -⟩ := hanswered.told hs hp hresolvable.pending hkey rfl hrunId rfl rfl hdelivery
      exact .keep action.agentRunId hwrites (fun _ => hblocked) (fun _ => .inl hopen) fun _ => hunknown
    · rename_i hno
      subst hdelivery
      exact .aside action.agentRunId hanswered.writes (hfenced hno)
  · obtain ⟨answered, hanswered, htold⟩ := answerApproval_ok hanswer
    have hresolved := @answered_resolvedApproval s hs p action (Store.resolutionStatus option) p.requestedForUserId
      (Store.resolutionCode option) hp haction (resolutionStatus_ne_pending option)
    have hafter : Answered s action answered := by
      split at hanswered
      · subst hanswered
        exact hresolved
      · exact hresolved.closed hanswered
    obtain ⟨-, -, told, hcreated, rfl⟩ | ⟨hnot, rfl⟩ := htold
    · obtain ⟨hwrites, hopen, -, -⟩ := hafter.told hs hp hresolvable.pending hkey rfl hrunId rfl rfl hcreated
      exact .wait action.agentRunId told .runtimeDelivery hwrites (hrunId ▸ rfl) (fun _ => .inl hopen) nofun
    · split
      · rename_i hallows
        rw [if_pos hallows] at hanswered
        subst hanswered
        refine .wait action.agentRunId _ .actionExecution hafter.writes (hrunId ▸ rfl) (fun _ => ?_) nofun
        exact .ofAction (Table.find?_key haction) rfl (.inl hresolvable.prepared)
      · rename_i hdenies
        refine .aside action.agentRunId hafter.writes (hfenced fun haccepts => hnot ⟨haccepts, .inr ?_⟩)
        exact Bool.of_not_eq_true hdenies

/-! ## Claims and results -/

theorem settles_claimAction {c : ClaimActionCommand} (hs : Sound s) (h : s.claimAction e c = .ok t) : Settles C s t := by
  obtain ⟨action, run, hclaimable, hfresh, rfl⟩ := claimAction_ok h
  have haction := hclaimable.actionFound
  have hclaimed := Table.find?_update_self haction (Store.claimedAction e run c) fun _ => rfl
  have hwrites : Writes action.agentRunId s { s with actions := s.actions.update c.actionId (Store.claimedAction e run c) } := by
    refine @writes_updateAction s action.agentRunId action hs _ (Store.claimedAction e run c) (fun _ => rfl) haction rfl ?_
    exact .ofOpen ⟨rfl, rfl, rfl, rfl, rfl⟩ (hclaimable.prepared ▸ rfl) (fun hbegun => absurd hclaimable.prepared hbegun) id
  refine .keep action.agentRunId (hwrites.trans (writes_attempts hwrites.sound (fun hx => ?_) _)) ?_ (fun _ => ?_) fun _ hunknown => ?_
  · obtain hold | ⟨rfl, -, -⟩ := Table.insert_cases hx
    · exact hwrites.sound.attemptAction hold
    refine ⟨Store.claimedAction e run c action, Table.find?_key hclaimed, ?_⟩
    intro hprepared
    cases hprepared
  · exact @blocked_of_update s _ _ (Store.claimedAction e run c) (fun _ => rfl) (fun _ => rfl) (fun _ hunknown => (by cases hunknown))
  · exact .ofAction hclaimed rfl (.inr rfl)
  · exact @hasUnknown_update s _ _ action (Store.claimedAction e run c) (fun _ => rfl) haction (by rw [hclaimable.prepared]; decide) hunknown

theorem settles_markDispatchStarted {c : MarkActionDispatchStartedCommand} (hs : Sound s) (h : s.markDispatchStarted e c = .ok t) :
    Settles C s t := by
  obtain ⟨action, haction, hexecuting, attempts, rfl, hattempts⟩ := markDispatchStarted_ok h
  have hmarked := Table.find?_update_self haction (marked e.now) fun _ => rfl
  have hwrites : Writes action.agentRunId s { s with actions := s.actions.update c.actionId (marked e.now) } := by
    refine @writes_updateAction s action.agentRunId action hs _ (marked e.now) (fun _ => rfl) haction rfl ?_
    refine .ofOpen ⟨rfl, rfl, rfl, rfl, rfl⟩ (hexecuting ▸ rfl) id fun hdispatched => ?_
    unfold marked
    cases hmarker : action.dispatchMayHaveStartedAt with
    | none => exact absurd hmarker hdispatched
    | some at_ => simp
  have hunknown : ∀ {r}, ({ s with actions := s.actions.update c.actionId (marked e.now) } : Store).HasUnknown r → s.HasUnknown r := by
    intro r hunknown
    obtain ⟨k, b, hb, hstatus⟩ := Table.any_iff.1 hunknown
    have hb := (Table.find?_update s.actions c.actionId (marked e.now) (fun _ => rfl) k).symm.trans hb
    split at hb
    · obtain ⟨a, ha, rfl⟩ := Option.map_eq_some_iff.1 hb
      exact Table.any_iff.2 ⟨k, a, ha, hstatus⟩
    · exact Table.any_iff.2 ⟨k, b, hb, hstatus⟩
  refine .keep action.agentRunId (hwrites.trans (writes_attempts hwrites.sound (fun hx => ?_) _)) ?_ (fun _ => ?_) fun _ => ?_
  · obtain ⟨x', hx', hsame⟩ := hattempts _ _ hx
    rw [hsame]
    exact hwrites.sound.attemptAction hx'
  · refine Store.Blocked.back (fun hp hpending ha hrun => ?_) (fun h => .ofUnknown (hunknown h))
      (fun hd hrun hopen => .ofDelivery hd hrun hopen)
    have ha := (Table.find?_update s.actions c.actionId (marked e.now) (fun _ => rfl) _).symm.trans ha
    split at ha
    · obtain ⟨a', ha', rfl⟩ := Option.map_eq_some_iff.1 ha
      exact .ofApproval hp hpending ha' hrun
    · exact .ofApproval hp hpending ha hrun
  · exact .ofAction hmarked rfl (.inr hexecuting)
  · exact @hasUnknown_update s _ _ action (marked e.now) (fun _ => rfl) haction (by rw [hexecuting]; decide)

theorem settles_recordResult {c : RecordActionResultCommand} (hs : Sound s) (hcare : C → ¬ SettlesUnknown s (.recordResult c))
    (h : s.recordResult e c = .ok t) : Settles C s t := by
  obtain ⟨action, run, hsettleable, settled, rfl, h⟩ := recordResult_ok h
  have haction := hsettleable.actionFound
  have hrunId : run.id = action.agentRunId := Table.key_of_find? hsettleable.runFound
  have hsettled := Table.find?_update_self haction (Store.settledAction c) fun _ => rfl
  have hopen : action.status.final = false := by
    obtain hstatus | hstatus := hsettleable.open_ <;> rw [hstatus] <;> rfl
  have hwrites : Writes action.agentRunId s { s with actions := s.actions.update c.actionId (Store.settledAction c) } := by
    refine @writes_updateAction s action.agentRunId action hs _ (Store.settledAction c) (fun _ => rfl) haction rfl ?_
    refine .ofOpen ⟨rfl, rfl, rfl, rfl, rfl⟩ hopen (fun _ hprepared => ?_) id
    obtain hstatus | hstatus | hstatus := outcome_status c.outcome <;> cases hstatus.symm.trans hprepared
  obtain ⟨houtcome, rfl⟩ | ⟨houtcome, -, told, htold, rfl⟩ | ⟨houtcome, hintercepted, rfl⟩ := h
  · refine .wait action.agentRunId _ .unknownActionOutcome hwrites (hrunId ▸ rfl) nofun fun _ => ?_
    exact .ofAction hsettled rfl (congrArg ActionResultOutcome.status houtcome) (congrArg ActionResultOutcome.unknownDisposition houtcome)
  · -- No result was delivered of an action that had none.
    obtain ⟨hfresh, rfl⟩ := created htold fun hd' hkind hsame => by
      have hsame : _ = c.actionId := hsame
      have hfinal := hs.resulted hd' hkind (by rw [hsame]; exact haction)
      rw [hopen] at hfinal
      cases hfinal
    refine .wait action.agentRunId _ .runtimeDelivery (hwrites.trans ?_) (by rw [hrunId]) (fun _ => .inl ?_) nofun
    · refine writes_insertDelivery hwrites.sound hsettled rfl hrunId nofun fun _ => ?_
      unfold Store.settledAction
      cases ho : c.outcome with
      | succeeded => rfl
      | failed => rfl
      | unknown => exact absurd ho houtcome
    · rw [← hrunId]
      exact blocked_insertDelivery hfresh rfl
  · refine .resume action.agentRunId _ hwrites (hrunId ▸ rfl) ?_ fun hC hunknown => ?_
    · exact @blocked_of_update s _ _ (Store.settledAction c) (fun _ => rfl) (fun _ => rfl)
        fun _ hunknown => houtcome (status_unknown hunknown)
    · refine @hasUnknown_update s _ _ action (Store.settledAction c) (fun _ => rfl) haction (fun hstatus => ?_) hunknown
      exact hcare hC ⟨houtcome, action, haction, hstatus, hintercepted⟩

/-! ## Deliveries -/

theorem delivering_unsettled {status : DeliveryStatus} (h : status = .pending ∨ status = .delivering) : status.unsettled = true := by
  obtain rfl | rfl := h <;> rfl

theorem settles_openDelivery (hs : Sound s) {k : String} {d : RuntimeDelivery} {g : RuntimeDelivery → RuntimeDelivery}
    (hg : ∀ d, (g d).id = d.id) (hsame : ∀ d, SameDelivery d (g d)) (hd : s.deliveries.find? k = some d)
    (hopen : d.status = .pending ∨ d.status = .delivering) (hstill : (g d).status.unsettled = true) :
    Settles C s { s with deliveries := s.deliveries.update k g hg } := by
  have hlater := Table.find?_update_self hd g hg
  refine .keep d.agentRunId (writes_updateDelivery hs hg hsame hd rfl) (fun _ => ?_) (fun _ => .inl ?_) fun _ => id
  · exact .ofDelivery hd rfl (delivering_unsettled hopen)
  · exact .ofDelivery hlater (hsame d).run hstill

theorem writes_closedDelivery (hs : Sound s) {k : String} {d : RuntimeDelivery} (hd : s.deliveries.find? k = some d)
    (status : DeliveryStatus) :
    Writes d.agentRunId s { s with deliveries := s.deliveries.update k (Store.closedDelivery status) } :=
  @writes_updateDelivery s d.agentRunId hs k d (Store.closedDelivery status) (fun _ => rfl) (fun _ => ⟨rfl, rfl, rfl⟩) hd rfl

theorem settles_acquireRuntimeDelivery {c : AcquireRuntimeDeliveryCommand} (hs : Sound s) (h : s.acquireRuntimeDelivery e c = .ok t) :
    Settles C s t := by
  obtain ⟨d, hd, hopen, rfl⟩ := acquireRuntimeDelivery_ok h
  exact @settles_openDelivery s C hs _ d (leased c e.now) (fun _ => rfl) (fun _ => ⟨rfl, rfl, rfl⟩) hd hopen rfl

theorem settles_acknowledgeRuntimeDelivery {c : LeasedDeliveryCommand} (hs : Sound s)
    (h : s.acknowledgeRuntimeDelivery e c = .ok t) : Settles C s t := by
  obtain ⟨d, run, hd, hdelivering, hrun, rfl⟩ := acknowledgeRuntimeDelivery_ok h
  have hrunId : run.id = d.agentRunId := Table.key_of_find? hrun
  refine .resume d.agentRunId _ (writes_closedDelivery hs hd .acked) (hrunId ▸ rfl) (fun _ => ?_) fun _ => id
  exact .ofDelivery hd rfl (delivering_unsettled (.inr hdelivering))

theorem settles_failRuntimeDelivery {c : LeasedDeliveryCommand} {error : String} (hs : Sound s)
    (h : s.failRuntimeDelivery e c error = .ok t) : Settles C s t := by
  obtain ⟨d, hd, hdelivering, rfl⟩ := failRuntimeDelivery_ok h
  exact @settles_openDelivery s C hs _ d (Store.closedDelivery .failed) (fun _ => rfl) (fun _ => ⟨rfl, rfl, rfl⟩) hd (.inr hdelivering) rfl

/-! ## Requests that the Runtime resolved -/

structure Eased (r : String) (s x : Store) : Prop where
  writes : Writes r s x
  blocked : x.Blocked r → s.Blocked r
  unknown : s.HasUnknown r → x.HasUnknown r

theorem Eased.trans {r : String} (h : Eased r s x) (h' : Eased r x t) : Eased r s t :=
  ⟨h.writes.trans h'.writes, h.blocked ∘ h'.blocked, h'.unknown ∘ h.unknown⟩

theorem eased_closedDelivery (hs : Sound s) {k : String} {d : RuntimeDelivery} (hd : s.deliveries.find? k = some d)
    (hopen : d.status.unsettled = true) (status : DeliveryStatus) :
    Eased d.agentRunId s { s with deliveries := s.deliveries.update k (Store.closedDelivery status) } :=
  ⟨writes_closedDelivery hs hd status, fun _ => .ofDelivery hd rfl hopen, id⟩

theorem eased_setActionNotExecuted {action : ActionExecution} (hs : Sound s)
    (haction : s.actions.find? action.id = some action) (h : s.setActionNotExecuted action.id version reason = .ok t) :
    Eased action.agentRunId s t := by
  obtain ⟨a, ha, hprepared, hwrites, rfl⟩ := writes_setActionNotExecuted hs h
  obtain rfl := Option.mem_unique ha haction
  refine ⟨hwrites, ?_, ?_⟩
  · exact @blocked_of_update s _ _ (notExecuted reason) (fun _ => rfl) (fun _ => rfl) fun _ hunknown => (by cases hunknown)
  · exact @hasUnknown_update s _ _ a (notExecuted reason) (fun _ => rfl) ha (by rw [hprepared]; decide)

theorem eased_resolvedApproval (hs : Sound s) {p : Approval} {action : ActionExecution} {componentId : String}
    (hp : s.approvals.find? p.id = some p) (haction : s.actions.find? p.actionId = some action) (hpending : p.status = .pending) :
    Eased action.agentRunId s (s.resolvedApproval p.id .cancelled componentId "native_request_resolved") :=
  ⟨writes_resolvedApproval hs hp haction rfl (by decide), fun _ => .ofApproval hp hpending haction rfl, id⟩

theorem eased_closeRequest {componentId : String} {action : ActionExecution} {delivery : Option RuntimeDelivery} (hs : Sound s)
    (haction : s.actions.find? action.id = some action)
    (hdelivery : ∀ d, delivery = some d → s.deliveries.find? d.id = some d ∧ d.agentRunId = action.agentRunId ∧ d.status = .pending)
    (h : s.closeRequest componentId action delivery = .ok t) : Eased action.agentRunId s t := by
  unfold Store.closeRequest at h
  simp only [bind_eq_ok] at h
  obtain ⟨closed, hclosed, h⟩ := h
  have hfirst : Eased action.agentRunId s (s.closeDelivery delivery) := by
    cases hd : delivery with
    | none => exact ⟨.refl hs _, id, id⟩
    | some d =>
      obtain ⟨hfound, hrun, hpending⟩ := hdelivery d hd
      rw [← hrun]
      exact eased_closedDelivery hs hfound (by rw [hpending]; rfl) .safelyClosed
  have hfound : (s.closeDelivery delivery).actions.find? action.id = some action := by
    cases delivery <;> exact haction
  have hsecond : Eased action.agentRunId s closed := by
    split at hclosed
    · exact hfirst.trans (eased_setActionNotExecuted hfirst.writes.sound hfound hclosed)
    cases hclosed
    exact hfirst
  split at h
  · rename_i p hp
    cases h
    split
    · rename_i hpending
      obtain ⟨hfoundp, hkey⟩ := find?_approvalOf hp
      obtain ⟨a, ha⟩ := hsecond.writes.sound.approvalAction hfoundp
      have hrun : a.agentRunId = action.agentRunId := by
        rw [hkey] at ha
        by_contra hne
        obtain rfl := Option.mem_unique haction ((hsecond.writes.actions hne).1 ha)
        exact hne rfl
      exact hsecond.trans (hrun ▸ eased_resolvedApproval hsecond.writes.sound hfoundp ha hpending)
    · exact hsecond
  · cases h
    exact hsecond

theorem settles_confirmRuntimeRequestResolved {c : ConfirmRuntimeRequestResolvedCommand} (hs : Sound s)
    (h : s.confirmRuntimeRequestResolved e c = .ok t) : Settles C s t := by
  obtain ⟨action, run, settled, haction, -, hrun, hsettled, rfl⟩ := confirmRuntimeRequestResolved_ok h
  have hrunId : run.id = action.agentRunId := Table.key_of_find? hrun
  have hfound := Table.find?_key haction
  have heased : Eased action.agentRunId s settled := by
    unfold Store.settleRequest at hsettled
    split at hsettled
    · exact eased_closeRequest hs hfound (fun d h => by cases h) hsettled
    rename_i d hd
    obtain ⟨hdfound, hdaction, -⟩ := find?_authorizationOf hd
    have hdrun : d.agentRunId = action.agentRunId := by
      obtain ⟨a, ha, harun⟩ := hs.deliveryAction hdfound
      rw [hdaction] at ha
      obtain rfl := Option.mem_unique ha hfound
      exact harun.symm
    split at hsettled
    · rename_i hpending
      refine eased_closeRequest hs hfound (fun d' hd' => ?_) hsettled
      cases hd'
      exact ⟨hdfound, hdrun, hpending⟩
    · rename_i hdelivering
      cases hsettled
      exact hdrun ▸ eased_closedDelivery hs hdfound (by rw [hdelivering]; rfl) .acked
    · rename_i hfailed
      cases hsettled
      exact hdrun ▸ eased_closedDelivery hs hdfound (by rw [hfailed]; rfl) .safelyClosed
    · cases hsettled
      exact ⟨.refl hs _, id, id⟩
    · cases hsettled
      exact ⟨.refl hs _, id, id⟩
  exact .resume action.agentRunId settled heased.writes (hrunId ▸ rfl) heased.blocked fun _ => heased.unknown

/-! ## Lost Runtimes -/

theorem later_interruptedAction {a : ActionExecution} (h : a.status = .prepared ∨ a.status = .executing) (reason : String) :
    Later a (Store.interruptedAction reason a) := by
  have hopen : a.status.final = false := by
    obtain h | h := h <;> rw [h] <;> rfl
  unfold Store.interruptedAction
  split
  · exact .ofOpen ⟨rfl, rfl, rfl, rfl, rfl⟩ hopen (fun _ h => by cases h) id
  · exact .ofOpen ⟨rfl, rfl, rfl, rfl, rfl⟩ hopen (fun _ h => by cases h) id

theorem writes_closed (hs : Sound s) {r resolverId code reason : String} {pa : ActionExecution → Bool} {pp : Approval → Bool}
    {pd : RuntimeDelivery → Bool}
    (hactions : ∀ a, pa a = true → a.agentRunId = r ∧ (a.status = .prepared ∨ a.status = .executing))
    (happrovals : ∀ {k p}, s.approvals.find? k = some p → pp p = true → ∃ a, s.actions.find? p.actionId = some a ∧ a.agentRunId = r)
    (hdeliveries : ∀ d, pd d = true → d.agentRunId = r) :
    Writes r s { s with
      actions := s.actions.updateWhere pa (Store.interruptedAction reason) (Store.interruptedAction_id reason)
      approvals := s.approvals.updateWhere pp (Store.resolvedAs .cancelled resolverId code)
      deliveries := s.deliveries.updateWhere pd (Store.closedDelivery .safelyClosed) } := by
  have hfirst : Writes r s { s with approvals := s.approvals.updateWhere pp (Store.resolvedAs .cancelled resolverId code) } :=
    @writes_updateApprovals s r hs pp (Store.resolvedAs .cancelled resolverId code) (fun _ => rfl) (fun _ => rfl)
      (fun _ h => by cases h) happrovals
  have hsecond := hfirst.trans (@writes_updateActions _ r hfirst.sound pa (Store.interruptedAction reason)
    (Store.interruptedAction_id reason) fun _ hp => ⟨(hactions _ hp).1, later_interruptedAction (hactions _ hp).2 reason⟩)
  exact hsecond.trans (@writes_updateDeliveries _ r hsecond.sound pd (Store.closedDelivery .safelyClosed) (fun _ => rfl)
    (fun _ => ⟨rfl, rfl, rfl⟩) fun _ hp => hdeliveries _ hp)

theorem writes_closeAbortiveRunEffects (hs : Sound s) (r resolverId reason : String) :
    Writes r s (s.closeAbortiveRunEffects r resolverId reason) := by
  refine writes_closed hs (fun a ha => ?_) (fun hp hpending => ?_) fun d hd => (openDelivery_iff.1 hd).1
  · simpa using ha
  · exact (pendingApproval_iff.1 hpending).2

theorem writes_closeLostRequests (hs : Sound s) (c : ReconcileRuntimeLossCommand) :
    Writes c.agentRunId s (s.closeLostRequests c) := by
  refine writes_closed hs (fun a ha => ?_) (fun {k p} hp hpending => ?_) fun d hd => ?_
  · simp only [Store.ofLostRuntime, Bool.and_eq_true, Bool.or_eq_true, beq_iff_eq] at ha
    exact ⟨ha.1.1.1, ha.2.imp_right And.left⟩
  · simp only [Bool.and_eq_true, Option.any_eq_true] at hpending
    obtain ⟨-, a, ha, hlost⟩ := hpending
    simp only [Store.ofLostRuntime, Bool.and_eq_true, beq_iff_eq] at hlost
    exact ⟨a, ha, hlost.1.1⟩
  · simp only [Bool.and_eq_true] at hd
    exact (openDelivery_iff.1 hd.1.1).1

theorem not_prepared_closed {r resolverId reason k : String} {a : ActionExecution}
    (ha : (s.closeAbortiveRunEffects r resolverId reason).actions.find? k = some a) (hrun : a.agentRunId = r) : a.status ≠ .prepared := by
  unfold Store.closeAbortiveRunEffects at ha
  dsimp only at ha
  rw [Table.find?_updateWhere] at ha
  obtain ⟨before, -, rfl⟩ := Option.map_eq_some_iff.1 ha
  intro hprepared
  split at hrun
  · rename_i hguard
    rw [if_pos hguard] at hprepared
    unfold Store.interruptedAction at hprepared
    split at hprepared <;> cases hprepared
  · rename_i hguard
    rw [if_neg hguard] at hprepared
    simp [hrun, hprepared] at hguard

theorem settles_reconcileRuntimeLoss {c : ReconcileRuntimeLossCommand} (hs : Sound s) (h : s.reconcileRuntimeLoss e c = .ok t) :
    Settles C s t := by
  obtain ⟨run, hrun, hactive, h | h | ⟨hasUnknown, rfl⟩⟩ := reconcileRuntimeLoss_ok h
  · unfold Store.settleInterruptedRun at h
    simp only [bind_eq_ok, orError_eq_ok] at h
    obtain ⟨run', -, h⟩ := h
    split at h
    · cases h
      exact settles_same hs
    · cases h
      exact .leave c.agentRunId _ (Store.endedRun .cancelled true) (fun _ => rfl)
        (writes_closeAbortiveRunEffects hs _ "cancellation-transaction" "runtime_connection_lost") rfl
        (.inr ⟨fun _ => rfl, fun _ _ => not_prepared_closed⟩)
  · unfold Store.failLostAgentRun at h
    simp only [bind_eq_ok, reject_eq_ok, exists_const] at h
    obtain ⟨-, h⟩ := h
    cases h
    have hrunId : run.id = c.agentRunId := Table.key_of_find? hrun
    rw [hrunId]
    exact .leave c.agentRunId _ (Store.endedRun .failed false) (fun _ => rfl) (writes_closeAbortiveRunEffects hs _ _ _) rfl
      (.inr ⟨fun _ => rfl, fun _ _ => not_prepared_closed⟩)
  · exact .leave c.agentRunId _ (Store.recoveringRun hasUnknown) (fun _ => rfl) (writes_closeLostRequests hs c) rfl
      (.inl fun _ => ⟨rfl, rfl⟩)

/-! ## Every command -/

/-- **A command keeps the tables sound and settles its Run.** -/
theorem settles_perform (hs : Sound s) {c : Command} (hcare : C → ¬ SettlesUnknown s c) (h : s.perform e c = .ok t) :
    Settles C s t := by
  cases c with
  | prepareAction c => exact settles_prepareAction hs h
  | recordObservedAction c => exact settles_recordObservedAction hs h
  | resolveApproval c => exact settles_resolveApproval hs h
  | claimAction c => exact settles_claimAction hs h
  | markDispatchStarted c => exact settles_markDispatchStarted hs h
  | recordResult c => exact settles_recordResult hs hcare h
  | acquireRuntimeDelivery c => exact settles_acquireRuntimeDelivery hs h
  | acknowledgeRuntimeDelivery c => exact settles_acknowledgeRuntimeDelivery hs h
  | failRuntimeDelivery => exact settles_failRuntimeDelivery hs h
  | confirmRuntimeRequestResolved c => exact settles_confirmRuntimeRequestResolved hs h
  | reconcileRuntimeLoss c => exact settles_reconcileRuntimeLoss hs h

/-! ## Every event -/

theorem Sound.with_runs (hs : Sound s) (runs : Table AgentRun.id) : Sound { s with runs := runs } :=
  ⟨hs.approvalAction, hs.approvalUnique, hs.deliveryAction, hs.attemptAction, hs.unanswered, hs.resulted⟩

theorem sound_step (s : Store) (event : Event) (hs : Sound s) : Sound (s.step event) := by
  unfold Store.step
  cases h : s.happen event with
  | error => exact hs
  | ok t =>
    cases event with
    | command e c => exact (settles_perform (C := False) hs (fun hfalse => hfalse.elim) h).sound
    | requestCancel => cases h; exact hs.with_runs _
    | claimRun => cases h; exact hs.with_runs _
    | settleInterruptedRun agentRunId =>
      simp only [Store.happen, Store.settleInterruptedRun, bind_eq_ok] at h
      obtain ⟨run, -, h⟩ := h
      split at h <;> cases h
      · exact hs
      · exact (writes_closeAbortiveRunEffects hs agentRunId _ _).sound.with_runs _

/-- **What a Runtime is told stands on record**: over every sequence of events a delivery is of an action of its Run, a result of one
that has ended and an answer of one whose approval was resolved; and an action has one approval. -/
theorem told_stands (runs : Table AgentRun.id) (events : List Event) :
    let s := (Store.start runs).run events
    (∀ k d, s.deliveries.find? k = some d → ∃ a, s.actions.find? d.actionId = some a ∧ a.agentRunId = d.agentRunId ∧
      (d.deliveryKind = .actionResult → a.status.final = true) ∧
      (d.deliveryKind = .authorizationResolution → ∀ k' p, s.approvals.find? k' = some p → p.actionId = a.id → p.status ≠ .pending)) ∧
    ∀ k k' p p', s.approvals.find? k = some p → s.approvals.find? k' = some p' → p.actionId = p'.actionId → p = p' := by
  intro s
  have hs : Sound s := Runs.run_invariant Store.step sound_step events _ ⟨nofun, nofun, nofun, nofun, nofun, nofun⟩
  refine ⟨fun k d hd => ?_, fun k k' p p' hp hp' => hs.approvalUnique hp hp'⟩
  obtain ⟨a, ha, hrun⟩ := hs.deliveryAction hd
  have hid : a.id = d.actionId := Table.key_of_find? ha
  refine ⟨a, ha, hrun, fun hkind => hs.resulted hd hkind ha, fun hkind k' p hp haction hpending => ?_⟩
  exact hs.unanswered hp hpending hd hkind (hid.symm.trans haction.symm)

end Rovai.Actions
