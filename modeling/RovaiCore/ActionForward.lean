import RovaiCore.ActionSettles
/-!
# A way forward for what may be done

An action that is prepared and permitted can be claimed by its executor, or its answer is on the way to the Runtime that asked for
it: the answer stays for as long as nobody takes it as given.
-/
namespace Rovai.Actions

open Tables (Table)
open Fallible (bind_eq_ok orError_eq_ok)

variable {s t : Store} {e : Envelope} {C : Prop}

/-! ## Answers taken before the claim -/

def unclaimed (s : Store) (d : RuntimeDelivery) : Prop :=
  d.deliveryKind = .authorizationResolution ∧ ∃ a, s.actions.find? d.actionId = some a ∧ a.status = .prepared

def AnswersUnclaimed (s : Store) : Command → Prop
  | .acknowledgeRuntimeDelivery c => ∃ d, s.deliveries.find? c.deliveryId = some d ∧ unclaimed s d
  | .failRuntimeDelivery c _ => ∃ d, s.deliveries.find? c.deliveryId = some d ∧ unclaimed s d
  | .confirmRuntimeRequestResolved c => ∃ d, s.authorizationOf c.actionId = some d ∧ d.status = .delivering ∧ unclaimed s d
  | _ => False

def Open (d : RuntimeDelivery) : Prop :=
  d.status = .pending ∨ d.status = .delivering

/-- The answers of the actions that stay prepared stay as well, and with care they stay open. -/
def Keeps (C : Prop) (s t : Store) : Prop :=
  ∀ k d a, s.deliveries.find? k = some d → d.deliveryKind = .authorizationResolution → s.actions.find? d.actionId = some a →
    a.status = .prepared → t.actions.find? d.actionId = some a →
    (∀ run, t.runs.find? a.agentRunId = some run → run.attended = true) →
    ∃ d', t.deliveries.find? k = some d' ∧ SameDelivery d d' ∧ (C → Open d → Open d')

theorem keeps_of_within (h : ∀ {k d}, s.deliveries.find? k = some d → t.deliveries.find? k = some d) : Keeps C s t :=
  fun _ _ _ hd _ _ _ _ _ => ⟨_, h hd, ⟨rfl, rfl, rfl⟩, fun _ => id⟩

variable {d : RuntimeDelivery} {k : String}

theorem within_createRuntimeDelivery (h : s.createRuntimeDelivery d = .ok t) {d' : RuntimeDelivery}
    (hd' : s.deliveries.find? k = some d') : t.deliveries.find? k = some d' := by
  obtain ⟨rfl, -⟩ | ⟨-, rfl⟩ := createRuntimeDelivery_ok h
  · exact hd'
  · exact Table.find?_insert_of_found hd' d

theorem deliveries_setActionNotExecuted {actionId : String} {version : Int} {reason : String}
    (h : s.setActionNotExecuted actionId version reason = .ok t) : t.deliveries = s.deliveries := by
  obtain ⟨-, -, -, rfl⟩ := setActionNotExecuted_ok h
  rfl

theorem deliveries_waitPrepared (s : Store) (agentRunId : String) (reason : Option WaitReason) :
    (s.waitPrepared agentRunId reason).deliveries = s.deliveries := by
  cases reason <;> rfl

theorem deliveries_resumeAgentRunIfUnblocked (s : Store) (agentRunId : String) :
    (s.resumeAgentRunIfUnblocked agentRunId).deliveries = s.deliveries := by
  unfold Store.resumeAgentRunIfUnblocked
  split <;> rfl

/-! ### What creates deliveries only -/

theorem within_prepareAction {c : PrepareActionCommand} (h : s.prepareAction e c = .ok t)
    (hd : s.deliveries.find? k = some d) : t.deliveries.find? k = some d := by
  obtain rfl | ⟨run, decision, -, -, -, h⟩ := prepareAction_ok h
  · exact hd
  obtain ⟨written, asked, hwritten, hasked, hdelivery, hnone⟩ := writePrepared_ok h
  obtain ⟨-, rfl⟩ := insertAction_ok hwritten
  have hd' : asked.deliveries.find? k = some d := by
    split at hasked
    · obtain ⟨-, rfl⟩ := insertApproval_ok hasked
      exact hd
    · subst hasked
      exact hd
  have hwaits := (deliveries_waitPrepared asked run.id (preparedWaitReason decision c.controlMode)).symm ▸ hd'
  cases hp : preparedDelivery run e c decision with
  | some d' => exact within_createRuntimeDelivery (hdelivery d' hp) hwaits
  | none =>
    rw [hnone hp]
    exact hwaits

theorem within_resolveApproval {c : ResolveActionApprovalCommand} (h : s.resolveApproval e c = .ok t)
    (hd : s.deliveries.find? k = some d) : t.deliveries.find? k = some d := by
  obtain ⟨p, action, run, option, -, h | ⟨-, h⟩⟩ := resolveApproval_ok h
  · obtain ⟨option', closed, hclosed, hdelivery⟩ := expireApproval_ok h
    have hd' : closed.deliveries.find? k = some d := (deliveries_setActionNotExecuted hclosed).symm ▸ hd
    split at hdelivery
    · exact within_createRuntimeDelivery hdelivery hd'
    subst hdelivery
    exact hd'
  · obtain ⟨answered, hanswered, htold⟩ := answerApproval_ok h
    have hd' : answered.deliveries.find? k = some d := by
      split at hanswered
      · subst hanswered
        exact hd
      · exact (deliveries_setActionNotExecuted hanswered).symm ▸ hd
    obtain ⟨-, -, told, hcreated, rfl⟩ | ⟨-, rfl⟩ := htold
    · exact within_createRuntimeDelivery hcreated hd'
    · split <;> exact hd'

theorem within_recordResult {c : RecordActionResultCommand} (h : s.recordResult e c = .ok t)
    (hd : s.deliveries.find? k = some d) : t.deliveries.find? k = some d := by
  obtain ⟨action, run, -, settled, rfl, h⟩ := recordResult_ok h
  obtain ⟨-, rfl⟩ | ⟨-, -, told, htold, rfl⟩ | ⟨-, -, rfl⟩ := h
  · exact hd
  · exact within_createRuntimeDelivery htold hd
  rw [deliveries_resumeAgentRunIfUnblocked]
  exact hd

/-! ### What changes a delivery -/

theorem keeps_updateDelivery {g : RuntimeDelivery → RuntimeDelivery} (hg : ∀ d, (g d).id = d.id)
    (hsame : ∀ d, SameDelivery d (g d))
    (hopen : C → ∀ d, s.deliveries.find? k = some d → unclaimed s d → Open d → Open (g d)) :
    Keeps C s { s with deliveries := s.deliveries.update k g hg } := by
  intro j d a hd hkind ha hprepared _ _
  have hfind := Table.find?_update s.deliveries k g hg j
  split at hfind
  · rename_i hj
    subst hj
    rw [hd, Option.map_some] at hfind
    exact ⟨g d, hfind, hsame d, fun hC => hopen hC d hd ⟨hkind, a, ha, hprepared⟩⟩
  · exact ⟨d, hfind.trans hd, ⟨rfl, rfl, rfl⟩, fun _ => id⟩

theorem Keeps.of_deliveries {u : Store} (h : Keeps C s t) (hactions : u.actions = t.actions) (hdeliveries : u.deliveries = t.deliveries)
    (hruns : ∀ {k run}, t.runs.find? k = some run → ∃ run', u.runs.find? k = some run' ∧ run'.attended = run.attended) : Keeps C s u := by
  intro k d a hd hkind ha hprepared ha' hattended
  rw [hdeliveries]
  refine h k d a hd hkind ha hprepared (hactions ▸ ha') fun run hrun => ?_
  obtain ⟨run', hrun', hsame⟩ := hruns hrun
  exact hsame ▸ hattended run' hrun'

theorem runs_resumed {r k : String} {run : AgentRun} (h : s.runs.find? k = some run) :
    ∃ run', (s.resumeAgentRunIfUnblocked r).runs.find? k = some run' ∧ run'.attended = run.attended ∧
      (run.status.active = true → run'.status.active = true) := by
  unfold Store.resumeAgentRunIfUnblocked
  split
  · dsimp only
    rw [Table.find?_updateWhere, h, Option.map_some]
    refine ⟨_, rfl, ?_, ?_⟩
    · split <;> rfl
    split
    · intro
      dsimp only
      split <;> rfl
    · exact id
  · exact ⟨run, h, rfl, id⟩

theorem keeps_resumed {r : String} (h : Keeps C s t) : Keeps C s (t.resumeAgentRunIfUnblocked r) := by
  refine h.of_deliveries (aside_resumeAgentRunIfUnblocked t r).actions (deliveries_resumeAgentRunIfUnblocked t r) fun hrun => ?_
  obtain ⟨run', hrun', hsame, -⟩ := runs_resumed hrun
  exact ⟨run', hrun', hsame⟩

theorem keeps_acquireRuntimeDelivery {c : AcquireRuntimeDeliveryCommand} (h : s.acquireRuntimeDelivery e c = .ok t) : Keeps C s t := by
  obtain ⟨-, -, -, rfl⟩ := acquireRuntimeDelivery_ok h
  exact @keeps_updateDelivery s C _ (leased c e.now) (fun _ => rfl) (fun _ => ⟨rfl, rfl, rfl⟩) fun _ _ _ _ _ => .inr rfl

theorem keeps_closedDelivery (status : DeliveryStatus)
    (hcare : C → ∀ d, s.deliveries.find? k = some d → Open d → ¬ unclaimed s d) :
    Keeps C s { s with deliveries := s.deliveries.update k (Store.closedDelivery status) } :=
  @keeps_updateDelivery s C _ (Store.closedDelivery status) (fun _ => rfl) (fun _ => ⟨rfl, rfl, rfl⟩)
    fun hC d hd hunclaimed hopen => absurd hunclaimed (hcare hC d hd hopen)

theorem keeps_acknowledgeRuntimeDelivery {c : LeasedDeliveryCommand} (h : s.acknowledgeRuntimeDelivery e c = .ok t)
    (hcare : C → ¬ AnswersUnclaimed s (.acknowledgeRuntimeDelivery c)) : Keeps C s t := by
  obtain ⟨-, run, -, -, -, rfl⟩ := acknowledgeRuntimeDelivery_ok h
  exact keeps_resumed (keeps_closedDelivery .acked fun hC d hd _ hunclaimed => hcare hC ⟨d, hd, hunclaimed⟩)

theorem keeps_failRuntimeDelivery {c : LeasedDeliveryCommand} {error : String} (h : s.failRuntimeDelivery e c error = .ok t)
    (hcare : C → ¬ AnswersUnclaimed s (.failRuntimeDelivery c error)) : Keeps C s t := by
  obtain ⟨-, -, -, rfl⟩ := failRuntimeDelivery_ok h
  exact keeps_closedDelivery .failed fun hC d hd _ hunclaimed => hcare hC ⟨d, hd, hunclaimed⟩

theorem keeps_closeRequest {componentId : String} {action : ActionExecution} {delivery : Option RuntimeDelivery}
    (haction : s.actions.find? action.id = some action) (hdelivery : ∀ d, delivery = some d → d.actionId = action.id)
    (hfound : ∀ d, delivery = some d → s.deliveries.find? d.id = some d)
    (h : s.closeRequest componentId action delivery = .ok t) : Keeps C s t := by
  unfold Store.closeRequest at h
  simp only [bind_eq_ok] at h
  obtain ⟨closed, hclosed, h⟩ := h
  have hafter : t.actions = closed.actions ∧ t.deliveries = closed.deliveries ∧ t.runs = closed.runs := by
    split at h
    · cases h
      split <;> exact ⟨rfl, rfl, rfl⟩
    · cases h
      exact ⟨rfl, rfl, rfl⟩
  have hsaved : (s.closeDelivery delivery).actions = s.actions := by
    cases delivery <;> rfl
  have hdeliveries : closed.deliveries = (s.closeDelivery delivery).deliveries := by
    split at hclosed
    · exact deliveries_setActionNotExecuted hclosed
    cases hclosed
    rfl
  intro k d a hd hkind ha hprepared ha' _
  rw [hafter.1] at ha'
  rw [hafter.2.1, hdeliveries]
  by_cases hsame : d.actionId = action.id
  · -- The action itself is closed, so it does not stay prepared.
    rw [hsame] at ha ha'
    obtain rfl := Option.mem_unique haction ha
    rw [if_pos hprepared] at hclosed
    obtain ⟨b, hb, -, rfl⟩ := setActionNotExecuted_ok hclosed
    have hlater := Table.find?_update_self hb (notExecuted "runtime_request_resolved") fun _ => rfl
    obtain heq := Option.mem_unique hlater ha'
    rw [← heq] at hprepared
    cases hprepared
  · refine ⟨d, ?_, ⟨rfl, rfl, rfl⟩, fun _ => id⟩
    cases hdel : delivery with
    | none => exact hd
    | some d₀ =>
      refine (Table.find?_update_of_ne s.deliveries ?_ (Store.closedDelivery .safelyClosed) fun _ => rfl).trans hd
      rintro rfl
      obtain rfl := Option.mem_unique (hfound d₀ hdel) hd
      exact hsame (hdelivery _ hdel)

theorem keeps_confirmRuntimeRequestResolved {c : ConfirmRuntimeRequestResolvedCommand} (h : s.confirmRuntimeRequestResolved e c = .ok t)
    (hcare : C → ¬ AnswersUnclaimed s (.confirmRuntimeRequestResolved c)) : Keeps C s t := by
  obtain ⟨action, run, settled, haction, -, -, hsettled, rfl⟩ := confirmRuntimeRequestResolved_ok h
  have hkey : action.id = c.actionId := Table.key_of_find? haction
  have hfound := Table.find?_key haction
  refine keeps_resumed ?_
  unfold Store.settleRequest at hsettled
  split at hsettled
  · exact keeps_closeRequest hfound (fun _ h => by cases h) (fun _ h => by cases h) hsettled
  rename_i d hd
  obtain ⟨hdfound, hdaction, -⟩ := find?_authorizationOf hd
  have hunique : ∀ {d'}, s.deliveries.find? d.id = some d' → d' = d := fun hd' => Option.mem_unique hd' hdfound
  split at hsettled
  · refine keeps_closeRequest hfound (fun _ h => ?_) (fun _ h => ?_) hsettled
    · exact Option.some.inj h ▸ hdaction
    · exact Option.some.inj h ▸ hdfound
  · rename_i hdelivering
    cases hsettled
    refine keeps_closedDelivery .acked fun hC d' hd' _ hunclaimed => ?_
    obtain rfl := hunique hd'
    exact hcare hC ⟨d', hkey ▸ hd, hdelivering, hunclaimed⟩
  · rename_i hfailed
    cases hsettled
    refine keeps_closedDelivery .safelyClosed fun hC d' hd' hopen _ => ?_
    obtain rfl := hunique hd'
    obtain h | h := hopen <;> cases hfailed.symm.trans h
  · cases hsettled
    exact keeps_of_within id
  · cases hsettled
    exact keeps_of_within id

/-- Of a Run that ends nothing stays prepared, and one that is to be recovered is not attended. -/
theorem keeps_reconcileRuntimeLoss {c : ReconcileRuntimeLossCommand} (hs : Sound s) (h : s.reconcileRuntimeLoss e c = .ok t) :
    Keeps C s t := by
  intro k d a hd hkind ha hprepared ha' hattended
  obtain ⟨a₀, ha₀, hdrun⟩ := hs.deliveryAction hd
  obtain rfl := Option.mem_unique ha ha₀
  have helse : ∀ {x}, Writes c.agentRunId s x → a.agentRunId ≠ c.agentRunId → x.deliveries.find? k = some d :=
    fun hwrites hne => (hwrites.deliveries (hdrun ▸ hne)).2 hd
  obtain ⟨run, hrun, -, h | h | ⟨hasUnknown, rfl⟩⟩ := reconcileRuntimeLoss_ok h
  · unfold Store.settleInterruptedRun at h
    simp only [bind_eq_ok, orError_eq_ok] at h
    obtain ⟨run', -, h⟩ := h
    split at h
    · cases h
      exact ⟨d, hd, ⟨rfl, rfl, rfl⟩, fun _ => id⟩
    · cases h
      have hne : a.agentRunId ≠ c.agentRunId := fun heq =>
        @not_prepared_closed s c.agentRunId "cancellation-transaction" "runtime_connection_lost" _ a ha' heq hprepared
      have hfound := helse (writes_closeAbortiveRunEffects hs c.agentRunId "cancellation-transaction" "runtime_connection_lost") hne
      exact ⟨d, hfound, ⟨rfl, rfl, rfl⟩, fun _ => id⟩
  · unfold Store.failLostAgentRun at h
    simp only [bind_eq_ok, reject_eq_ok, exists_const] at h
    obtain ⟨-, h⟩ := h
    cases h
    have hrunId : run.id = c.agentRunId := Table.key_of_find? hrun
    have hne : a.agentRunId ≠ c.agentRunId := fun heq =>
      @not_prepared_closed s run.id "runtime-recovery-coordinator" "runtime_request_lost" _ a ha' (heq.trans hrunId.symm) hprepared
    rw [hrunId]
    have hfound := helse (writes_closeAbortiveRunEffects hs c.agentRunId "runtime-recovery-coordinator" "runtime_request_lost") hne
    exact ⟨d, hfound, ⟨rfl, rfl, rfl⟩, fun _ => id⟩
  · have hne : a.agentRunId ≠ c.agentRunId := by
      intro heq
      have hrecovering := Table.find?_update_self hrun (Store.recoveringRun hasUnknown) fun _ => rfl
      have hno := hattended _ (by rw [heq]; exact hrecovering)
      simp [AgentRun.attended, Store.recoveringRun] at hno
    have hfound := helse (writes_closeLostRequests hs c) hne
    exact ⟨d, hfound, ⟨rfl, rfl, rfl⟩, fun _ => id⟩

theorem keeps_perform (hs : Sound s) {c : Command} (hcare : C → ¬ AnswersUnclaimed s c) (h : s.perform e c = .ok t) : Keeps C s t := by
  cases c with
  | prepareAction c => exact keeps_of_within fun hd => within_prepareAction h hd
  | recordObservedAction c =>
    obtain rfl | ⟨run, written, -, hwritten, rfl⟩ := recordObservedAction_ok h
    · exact keeps_of_within id
    obtain ⟨-, rfl⟩ := insertAction_ok hwritten
    split <;> exact keeps_of_within id
  | resolveApproval c => exact keeps_of_within fun hd => within_resolveApproval h hd
  | claimAction c =>
    obtain ⟨-, -, -, -, rfl⟩ := claimAction_ok h
    exact keeps_of_within id
  | markDispatchStarted c =>
    obtain ⟨-, -, -, -, rfl, -⟩ := markDispatchStarted_ok h
    exact keeps_of_within id
  | recordResult c => exact keeps_of_within fun hd => within_recordResult h hd
  | acquireRuntimeDelivery c => exact keeps_acquireRuntimeDelivery h
  | acknowledgeRuntimeDelivery c => exact keeps_acknowledgeRuntimeDelivery h hcare
  | failRuntimeDelivery => exact keeps_failRuntimeDelivery h hcare
  | confirmRuntimeRequestResolved c => exact keeps_confirmRuntimeRequestResolved h hcare
  | reconcileRuntimeLoss c => exact keeps_reconcileRuntimeLoss hs h

end Rovai.Actions
