import RovaiCore.AgentRunEffects
/-!
# Redelivery and the order of receipts (`context.rs`, `compaction.rs`)

A compaction that is observed asks a binding for its bootstrap once more.
-/
namespace Rovai.AgentRuns

open Tables (Table)
open List
open Runs (AllSteps)
open Store

/-! ## Revisions -/

namespace Store

variable (s : Store)

def pendingRedeliveryRevision (bindingId : String) (generation : Nat) : Option Nat :=
  ((s.requirements.find? (bindingId, generation)).filter (fun r =>
    decide (r.acknowledgedRevision < r.requestedRevision) && r.adapterKind != .hermesCli)).map (·.requestedRevision)

def acknowledgedRevision (bindingId : String) (generation : Nat) : Nat :=
  ((s.requirements.find? (bindingId, generation)).map (·.acknowledgedRevision)).getD 0

def Asked (i : RuntimeInputDelivery) : Prop :=
  ∀ revision, i.bootstrapRedeliveryRevision = some revision →
    ∃ r, s.requirements.find? (i.nativeBindingId, i.nativeBindingGeneration) = some r ∧ revision ≤ r.requestedRevision

variable {s} {s' : Store}

structure RequestsGrow (s s' : Store) : Prop where
  kept : ∀ {k r}, s.requirements.find? k = some r →
    ∃ r', s'.requirements.find? k = some r' ∧ r.requestedRevision ≤ r'.requestedRevision

theorem RequestsGrow.of_eq (h : s'.requirements = s.requirements) : RequestsGrow s s' :=
  ⟨fun hr => ⟨_, h ▸ hr, Nat.le_refl _⟩⟩

theorem RequestsGrow.trans {s'' : Store} (h : RequestsGrow s s') (h' : RequestsGrow s' s'') : RequestsGrow s s'' := by
  refine ⟨fun hr => ?_⟩
  obtain ⟨r', hr', hle⟩ := h.kept hr
  obtain ⟨r'', hr'', hle'⟩ := h'.kept hr'
  exact ⟨r'', hr'', Nat.le_trans hle hle'⟩

variable {i : RuntimeInputDelivery}

theorem Asked.mono (h : s.Asked i) (hgrow : RequestsGrow s s') : s'.Asked i := by
  intro revision hrevision
  obtain ⟨r, hr, hle⟩ := h revision hrevision
  obtain ⟨r', hr', hle'⟩ := hgrow.kept hr
  exact ⟨r', hr', Nat.le_trans hle hle'⟩

theorem requests_update {k : String × Nat} {f : BootstrapRedeliveryRequirement → BootstrapRedeliveryRequirement}
    (hf : ∀ r, (f r).binding = r.binding) (h : s'.requirements = s.requirements.update k f hf)
    (hrequested : ∀ r, r.requestedRevision ≤ (f r).requestedRevision) : RequestsGrow s s' := by
  refine ⟨fun {k' r} hr => ⟨if k' = k then f r else r, ?_, ?_⟩⟩
  · rw [h, Table.find?_update, hr]
    split <;> rfl
  · split
    · exact hrequested r
    · exact Nat.le_refl _

theorem requests_requestRedelivery (conversationId bindingId : String) (generation : Nat) (adapterKind : AdapterKind) :
    RequestsGrow s (s.requestRedelivery conversationId bindingId generation adapterKind) := by
  unfold requestRedelivery
  split
  · exact requests_update (by intro r; rfl) rfl fun r => Nat.le_succ _
  · exact ⟨fun hr => ⟨_, Table.find?_insert_of_found hr _, Nat.le_refl _⟩⟩

theorem requests_acknowledgeRedelivery (h : s.acknowledgeRedelivery i = .ok s') : RequestsGrow s s' := by
  unfold acknowledgeRedelivery at h
  split at h
  · cases h
    exact .of_eq rfl
  · split at h
    · cases h
    split at h
    · cases h
      exact requests_update (by intro r; rfl) rfl fun r => Nat.le_refl _
    · cases h

/-! ## The fences of a receipt -/

variable (s) in
def executesOn (runId : String) (epoch : Nat) (bindingId : String) (generation : Nat) : Bool :=
  (s.runs.find? runId).any (fun run =>
    run.executionEpoch == epoch && active run.status && !run.cancelRequested && s.turnAccepts run &&
      (s.conversations.find? run.conversationId).any (fun c =>
        c.nativeBindingId == some bindingId && c.nativeBindingGeneration == generation &&
          (c.kind != .singleChat || !c.ended)))

structure SameExecution (run run' : AgentRun) : Prop where
  conversationId : run'.conversationId = run.conversationId
  executionEpoch : run'.executionEpoch = run.executionEpoch
  active : active run'.status = active run.status
  cancelRequested : run'.cancelRequested = run.cancelRequested
  campTurnId : run'.campTurnId = run.campTurnId
  invocationKind : run'.invocationKind = run.invocationKind

theorem SameExecution.refl (run : AgentRun) : SameExecution run run := ⟨rfl, rfl, rfl, rfl, rfl, rfl⟩

structure StaysBound (c c' : Conversation) : Prop where
  nativeBindingId : c'.nativeBindingId = c.nativeBindingId
  nativeBindingGeneration : c'.nativeBindingGeneration = c.nativeBindingGeneration
  kind : c'.kind = c.kind
  ended : c'.ended = c.ended

theorem StaysBound.refl (c : Conversation) : StaysBound c c := ⟨rfl, rfl, rfl, rfl⟩

structure SameFences (s s' : Store) : Prop where
  runs : ∀ {k run}, s.runs.find? k = some run → ∃ run', s'.runs.find? k = some run' ∧ SameExecution run run'
  conversations : ∀ {k c}, s.conversations.find? k = some c → ∃ c', s'.conversations.find? k = some c' ∧ StaysBound c c'
  turns : s'.turns = s.turns
  manifests : s'.manifests = s.manifests

theorem SameFences.of_eq (hruns : s'.runs = s.runs) (hconversations : s'.conversations = s.conversations)
    (hturns : s'.turns = s.turns) (hmanifests : s'.manifests = s.manifests) : SameFences s s' :=
  ⟨fun h => ⟨_, hruns ▸ h, .refl _⟩, fun h => ⟨_, hconversations ▸ h, .refl _⟩, hturns, hmanifests⟩

theorem SameFences.trans {s'' : Store} (h : SameFences s s') (h' : SameFences s' s'') : SameFences s s'' where
  runs hrun := by
    obtain ⟨run', hrun', hsame⟩ := h.runs hrun
    obtain ⟨run'', hrun'', hsame'⟩ := h'.runs hrun'
    exact ⟨run'', hrun'', hsame'.conversationId.trans hsame.conversationId, hsame'.executionEpoch.trans hsame.executionEpoch,
      hsame'.active.trans hsame.active, hsame'.cancelRequested.trans hsame.cancelRequested,
      hsame'.campTurnId.trans hsame.campTurnId, hsame'.invocationKind.trans hsame.invocationKind⟩
  conversations hc := by
    obtain ⟨c', hc', hsame⟩ := h.conversations hc
    obtain ⟨c'', hc'', hsame'⟩ := h'.conversations hc'
    exact ⟨c'', hc'', hsame'.nativeBindingId.trans hsame.nativeBindingId,
      hsame'.nativeBindingGeneration.trans hsame.nativeBindingGeneration, hsame'.kind.trans hsame.kind,
      hsame'.ended.trans hsame.ended⟩
  turns := h'.turns.trans h.turns
  manifests := h'.manifests.trans h.manifests

theorem executesOn_of_sameFences {runId bindingId : String} {epoch generation : Nat} (h : SameFences s s')
    (hexecutes : s.executesOn runId epoch bindingId generation = true) : s'.executesOn runId epoch bindingId generation = true := by
  unfold executesOn at hexecutes ⊢
  obtain ⟨run, hrun, hfence⟩ := (Option.any_eq_true _ _).1 hexecutes
  simp only [Bool.and_eq_true] at hfence
  obtain ⟨⟨⟨⟨hepoch, hactive⟩, hcancel⟩, haccepts⟩, hconversation⟩ := hfence
  obtain ⟨c, hc, hbinding⟩ := (Option.any_eq_true _ _).1 hconversation
  obtain ⟨run', hrun', hsame⟩ := h.runs hrun
  obtain ⟨c', hc', hbound⟩ := h.conversations hc
  have haccepts' : s'.turnAccepts run' = true := by
    unfold turnAccepts turnOf at haccepts ⊢
    rw [hsame.invocationKind, hsame.campTurnId, h.turns]
    exact haccepts
  rw [hrun', Option.any_some, hsame.executionEpoch, hsame.active, hsame.cancelRequested, haccepts', hsame.conversationId, hc',
    Option.any_some, hbound.nativeBindingId, hbound.nativeBindingGeneration, hbound.kind, hbound.ended, hepoch, hactive,
    hcancel, hbinding]
  rfl

variable (target : DeliveryTarget)

theorem sameFences_deliverCurrentContext : SameFences s (s.deliverCurrentContext target) := by
  have hruns : Table.Grows SameExecution (fun _ => True) s.runs (s.deliverCurrentContext target).runs := by
    refine .updateWhere SameExecution.refl s.runs _ _ (by intro run; rfl) fun _ _ _ _ => ?_
    exact ⟨rfl, rfl, rfl, rfl, rfl, rfl⟩
  have hconversations : Table.Grows StaysBound (fun _ => True) s.conversations (s.deliverCurrentContext target).conversations := by
    unfold deliverCurrentContext
    dsimp only
    split
    · exact .refl .refl _
    refine .update StaysBound.refl s.conversations _ _ (by intro c; rfl) fun _ _ => ?_
    exact ⟨rfl, rfl, rfl, rfl⟩
  exact ⟨hruns.kept, hconversations.kept, rfl, rfl⟩

theorem sameExecution_resumed {run : AgentRun} (h : run.status = .waiting) (resume : Bool) :
    SameExecution run (if resume then resumeRun run else awaitReconciliation run) := by
  have hactive : active run.status = true := by rw [h]; rfl
  cases resume with
  | true => exact ⟨rfl, rfl, hactive.symm, rfl, rfl, rfl⟩
  | false => exact ⟨rfl, rfl, rfl, rfl, rfl, rfl⟩

theorem sameFences_leaveDeliveryUnknown (resume : Bool) :
    SameFences s (s.leaveDeliveryUnknown target resume) := by
  have hruns : Table.Grows SameExecution (fun _ => True) s.runs (s.leaveDeliveryUnknown target resume).runs := by
    unfold leaveDeliveryUnknown
    split
    · refine .updateWhere .refl _ _ _ (by intro run; cases resume <;> rfl) fun _ run _ hguard => ?_
      simp only [Bool.and_eq_true, beq_iff_eq] at hguard
      exact sameExecution_resumed hguard.1.1.2 resume
    · exact .refl .refl _
  rw [leaveDeliveryUnknown_eq]
  exact ⟨hruns.kept, fun hc => ⟨_, hc, .refl _⟩, rfl, rfl⟩

theorem sameFences_settleSource : SameFences s (s.settleSource target) := by
  rw [settleSource_eq]
  exact .of_eq rfl rfl rfl rfl

theorem sameFences_acknowledgeRedelivery (h : s.acknowledgeRedelivery i = .ok s') :
    SameFences s s' := by
  obtain ⟨-, heq⟩ := acknowledgeRedelivery_congr (t := s) rfl h
  rw [heq]
  exact .of_eq rfl rfl rfl rfl

theorem sameFences_requestRedelivery (conversationId bindingId : String) (generation : Nat) (adapterKind : AdapterKind) :
    SameFences s (s.requestRedelivery conversationId bindingId generation adapterKind) := by
  unfold requestRedelivery
  split <;> exact .of_eq rfl rfl rfl rfl

theorem target_of_executesOn {runId bindingId deliveryId : String} {epoch generation : Nat}
    (hexecutes : s.executesOn runId epoch bindingId generation = true) (hi : s.inputs.find? deliveryId = some i)
    (hrun : i.agentRunId = runId) (hepoch : i.executionEpoch = epoch) (hbinding : i.nativeBindingId = bindingId)
    (hgeneration : i.nativeBindingGeneration = generation) (hm : (s.manifests.find? i.contextManifestId).isSome = true) :
    ∃ target, s.loadDeliveryTarget deliveryId = some target ∧ target.input = i ∧ s.currentExecution target = true := by
  subst hrun hepoch hbinding hgeneration
  unfold executesOn at hexecutes
  obtain ⟨run, hrun, hfence⟩ := (Option.any_eq_true _ _).1 hexecutes
  simp only [Bool.and_eq_true] at hfence
  obtain ⟨⟨⟨⟨hepoch, hactive⟩, hcancel⟩, haccepts⟩, hconversation⟩ := hfence
  obtain ⟨c, hc, hbinding⟩ := (Option.any_eq_true _ _).1 hconversation
  obtain ⟨m, hm⟩ := Option.isSome_iff_exists.1 hm
  refine ⟨⟨i, m, run, c⟩, by rw [loadDeliveryTarget, hi, Option.bind_some, hm, Option.bind_some, hrun, Option.bind_some, hc]; rfl,
    rfl, ?_⟩
  simp only [currentExecution, onCurrentBinding, hepoch, hactive, hcancel, haccepts, Bool.true_and]
  exact hbinding

end Store

/-! ## Receipts in the order of their revisions -/

structure Receipt where
  (deliveryId nativeInputId : String)
  now : Nat
  resumeActiveExecution : Bool

structure Store.Expects (s : Store) (runId : String) (epoch : Nat) (bindingId : String) (generation : Nat) (r : Receipt)
    (i : RuntimeInputDelivery) : Prop where
  row : s.inputs.find? r.deliveryId = some i
  agentRunId : i.agentRunId = runId
  executionEpoch : i.executionEpoch = epoch
  nativeBindingId : i.nativeBindingId = bindingId
  nativeBindingGeneration : i.nativeBindingGeneration = generation
  pending : i.status = .prepared ∨ i.status = .deliveryUnknown
  manifest : (s.manifests.find? i.contextManifestId).isSome = true
  asked : s.Asked i
  named : isBlank r.nativeInputId = false
  free : s.nativeIdentityTaken i r.nativeInputId = false

namespace Store

variable {s s' : Store} {runId bindingId : String} {epoch generation : Nat} {r : Receipt} {i : RuntimeInputDelivery}

theorem acknowledgeInputDelivery_current {target : DeliveryTarget} (hload : s.loadDeliveryTarget r.deliveryId = some target)
    (hpending : target.input.status = .prepared ∨ target.input.status = .deliveryUnknown) (hnamed : isBlank r.nativeInputId = false)
    (hfree : s.nativeIdentityTaken target.input r.nativeInputId = false) (hcurrent : s.currentExecution target = true) :
    s.acknowledgeInputDelivery r.deliveryId r.nativeInputId r.now r.resumeActiveExecution =
      match ({ s with inputs := s.inputs.update r.deliveryId (acceptInput r.nativeInputId r.now)
        }.deliverCurrentContext target).acknowledgeRedelivery target.input with
      | .error message => .error message
      | .ok acknowledged => .ok (((acceptInput r.nativeInputId r.now target.input).asPublic, true),
          (acknowledged.leaveDeliveryUnknown target r.resumeActiveExecution).settleSource target) := by
  have haccepted : target.input.status ≠ .accepted := by
    rcases hpending with h | h <;> rw [h] <;> decide
  have hrefused : target.input.status ≠ .notAccepted := by
    rcases hpending with h | h <;> rw [h] <;> decide
  unfold acknowledgeInputDelivery
  rw [if_neg (by rw [hnamed]; decide), hload]
  dsimp only
  rw [if_neg haccepted, if_neg hrefused, if_neg (by rw [hfree]; decide)]
  exact if_pos hcurrent

theorem acknowledgeRedelivery_cases (hasked : s.Asked i) :
    (∀ revision, i.bootstrapRedeliveryRevision = some revision →
      s.acknowledgedRevision i.nativeBindingId i.nativeBindingGeneration ≤ revision) ∧
      (∃ acknowledged, s.acknowledgeRedelivery i = .ok acknowledged ∧ acknowledged.inputs = s.inputs ∧
        acknowledged.acknowledgedRevision i.nativeBindingId i.nativeBindingGeneration =
          max (s.acknowledgedRevision i.nativeBindingId i.nativeBindingGeneration) (i.bootstrapRedeliveryRevision.getD 0)) ∨
    ∃ revision message, i.bootstrapRedeliveryRevision = some revision ∧
      revision < s.acknowledgedRevision i.nativeBindingId i.nativeBindingGeneration ∧
      s.acknowledgeRedelivery i = .error message := by
  unfold acknowledgeRedelivery
  cases hrevision : i.bootstrapRedeliveryRevision with
  | none => exact .inl ⟨fun _ h => (nomatch h), s, rfl, rfl, (Nat.max_zero _).symm⟩
  | some revision =>
    obtain ⟨requirement, hfound, hle⟩ := hasked revision hrevision
    have hacknowledged : s.acknowledgedRevision i.nativeBindingId i.nativeBindingGeneration = requirement.acknowledgedRevision := by
      rw [acknowledgedRevision, hfound]
      rfl
    have hbinding : requirement.binding = (i.nativeBindingId, i.nativeBindingGeneration) := Table.key_of_find? hfound
    simp only [hfound]
    by_cases horder : requirement.acknowledgedRevision ≤ revision
    · refine .inl ⟨fun other hother => ?_, _, if_pos ⟨hle, horder⟩, rfl, ?_⟩
      · cases hother
        rw [hacknowledged]
        exact horder
      · rw [hacknowledged, acknowledgedRevision, hbinding]
        exact congrArg (fun found => (Option.map BootstrapRedeliveryRequirement.acknowledgedRevision found).getD 0)
          (Table.find?_update_self hfound _ (by intro r; rfl))
    · refine .inr ⟨revision, _, rfl, ?_, if_neg fun h => horder h.2⟩
      rw [hacknowledged]
      exact Nat.lt_of_not_le horder

/-- **A receipt that passes the fences** is taken, and its revision acknowledged, unless a later revision was acknowledged
before. -/
theorem acknowledgeInputDelivery_expected (hexecutes : s.executesOn runId epoch bindingId generation = true)
    (h : s.Expects runId epoch bindingId generation r i) :
    (∀ revision, i.bootstrapRedeliveryRevision = some revision → s.acknowledgedRevision bindingId generation ≤ revision) ∧
      (∃ receipt s', s.acknowledgeInputDelivery r.deliveryId r.nativeInputId r.now r.resumeActiveExecution = .ok (receipt, s') ∧
        SameFences s s' ∧ RequestsGrow s s' ∧ s'.inputs = s.inputs.update r.deliveryId (acceptInput r.nativeInputId r.now) ∧
        s'.acknowledgedRevision bindingId generation =
          max (s.acknowledgedRevision bindingId generation) (i.bootstrapRedeliveryRevision.getD 0)) ∨
    ∃ revision message, i.bootstrapRedeliveryRevision = some revision ∧ revision < s.acknowledgedRevision bindingId generation ∧
      s.acknowledgeInputDelivery r.deliveryId r.nativeInputId r.now r.resumeActiveExecution = .error message := by
  obtain ⟨target, hload, rfl, hcurrent⟩ := target_of_executesOn hexecutes h.row h.agentRunId h.executionEpoch h.nativeBindingId
    h.nativeBindingGeneration h.manifest
  rw [acknowledgeInputDelivery_current hload h.pending h.named h.free hcurrent]
  let accepted := { s with inputs := s.inputs.update r.deliveryId (acceptInput r.nativeInputId r.now) }
  have haccepted : SameFences s accepted := .of_eq rfl rfl rfl rfl
  have hsame : SameFences s (accepted.deliverCurrentContext target) := haccepted.trans (sameFences_deliverCurrentContext target)
  have hasked : (accepted.deliverCurrentContext target).Asked target.input := h.asked.mono (.of_eq rfl)
  have hbefore : (accepted.deliverCurrentContext target).acknowledgedRevision = s.acknowledgedRevision := rfl
  have hcases := acknowledgeRedelivery_cases hasked
  rw [h.nativeBindingId, h.nativeBindingGeneration, hbefore] at hcases
  rcases hcases with ⟨horder, acknowledged, hok, hinputs, hrevision⟩ | ⟨revision, message, hcarried, hlt, herror⟩
  · refine .inl ⟨horder, _, _, by rw [show _ = Except.ok acknowledged from hok], ?_, ?_, ?_, ?_⟩
    · exact hsame.trans ((sameFences_acknowledgeRedelivery hok).trans
        ((sameFences_leaveDeliveryUnknown target _).trans (sameFences_settleSource target)))
    · have hgrow : RequestsGrow s (accepted.deliverCurrentContext target) := .of_eq rfl
      refine hgrow.trans ((requests_acknowledgeRedelivery hok).trans (.of_eq ?_))
      rw [settleSource_eq, leaveDeliveryUnknown_eq]
    · rw [settleSource_eq, leaveDeliveryUnknown_eq]
      exact hinputs
    · rw [settleSource_eq, leaveDeliveryUnknown_eq]
      exact hrevision
  · exact .inr ⟨revision, message, hcarried, hlt, by rw [show _ = Except.error message from herror]⟩

end Store

/-! ## Receipts and observations as they arrive -/

inductive Arrival where
  | receipt (r : Receipt)
  | observation (conversationId bindingId : String) (generation : Nat) (adapterKind : AdapterKind)

def Arrival.action : Arrival → Action
  | .receipt r => .acknowledgeInputDelivery r.deliveryId r.nativeInputId r.now r.resumeActiveExecution
  | .observation conversationId bindingId generation adapterKind =>
    .requestRedelivery conversationId bindingId generation adapterKind

def Arrival.receipt? : Arrival → Option Receipt
  | .receipt r => some r
  | .observation .. => none

def receipts (arrivals : List Arrival) : List Receipt :=
  arrivals.filterMap Arrival.receipt?

namespace Store

def arrive (s : Store) (a : Arrival) : Store :=
  s.step a.action

def Commits (s : Store) : Arrival → Prop
  | .receipt r => (s.acknowledgeInputDelivery r.deliveryId r.nativeInputId r.now r.resumeActiveExecution).isOk = true
  | .observation .. => True

def carried (s : Store) (receipts : List Receipt) : List Nat :=
  receipts.filterMap fun r => (s.inputs.find? r.deliveryId).bind (·.bootstrapRedeliveryRevision)

structure Awaits (s : Store) (runId : String) (epoch : Nat) (bindingId : String) (generation : Nat) (receipts : List Receipt) :
    Prop where
  executesOn : s.executesOn runId epoch bindingId generation = true
  distinct : (receipts.map Receipt.deliveryId).Nodup
  expects : ∀ r ∈ receipts, ∃ i, s.Expects runId epoch bindingId generation r i
  one_start : ∀ r ∈ receipts, ∀ r' ∈ receipts, ∀ i i', s.inputs.find? r.deliveryId = some i →
    s.inputs.find? r'.deliveryId = some i' → i.inputKind = .start → i'.inputKind = .start → r.deliveryId = r'.deliveryId

variable {s s' : Store} {runId bindingId : String} {epoch generation : Nat} {r : Receipt} {rs : List Receipt}

theorem Awaits.of_kept (h : s.Awaits runId epoch bindingId generation rs) (hfences : SameFences s s') (hgrow : RequestsGrow s s')
    (hinputs : s'.inputs = s.inputs) : s'.Awaits runId epoch bindingId generation rs where
  executesOn := executesOn_of_sameFences hfences h.executesOn
  distinct := h.distinct
  expects r hr := by
    obtain ⟨i, hi⟩ := h.expects r hr
    refine ⟨i, hinputs ▸ hi.row, hi.agentRunId, hi.executionEpoch, hi.nativeBindingId, hi.nativeBindingGeneration, hi.pending,
      hfences.manifests ▸ hi.manifest, hi.asked.mono hgrow, hi.named, ?_⟩
    have hfree := hi.free
    unfold nativeIdentityTaken at hfree ⊢
    rw [hinputs]
    exact hfree
  one_start := by
    rw [hinputs]
    exact h.one_start

/-- **An accepted receipt** leaves the others to be awaited. -/
theorem Awaits.of_accepted (h : s.Awaits runId epoch bindingId generation (r :: rs)) (hfences : SameFences s s')
    (hgrow : RequestsGrow s s') (hinputs : s'.inputs = s.inputs.update r.deliveryId (acceptInput r.nativeInputId r.now)) :
    s'.Awaits runId epoch bindingId generation rs ∧ s'.carried rs = s.carried rs := by
  have hdistinct := nodup_cons.1 h.distinct
  have hother : ∀ r' ∈ rs, s'.inputs.find? r'.deliveryId = s.inputs.find? r'.deliveryId := by
    intro r' hr'
    have hne : r'.deliveryId ≠ r.deliveryId := by
      intro heq
      exact hdistinct.1 (heq ▸ mem_map_of_mem hr')
    rw [hinputs]
    exact Table.find?_update_of_ne _ hne _ _
  obtain ⟨accepted, haccepted⟩ := h.expects r mem_cons_self
  refine ⟨⟨executesOn_of_sameFences hfences h.executesOn, hdistinct.2, fun r' hr' => ?_, fun a ha b hb i i' hi hi' => ?_⟩, ?_⟩
  · obtain ⟨i, hi⟩ := h.expects r' (mem_cons_of_mem r hr')
    refine ⟨i, (hother r' hr').trans hi.row, hi.agentRunId, hi.executionEpoch, hi.nativeBindingId, hi.nativeBindingGeneration,
      hi.pending, hfences.manifests ▸ hi.manifest, hi.asked.mono hgrow, hi.named, ?_⟩
    have hfree := hi.free
    unfold nativeIdentityTaken at hfree ⊢
    by_cases hstart : i.inputKind = .start
    · -- The receipt accepted was not of a start input: one of them at most is awaited.
      have hsteer : accepted.inputKind ≠ .start := by
        intro hkind
        have heq := h.one_start r mem_cons_self r' (mem_cons_of_mem r hr') _ _ haccepted.row hi.row hkind hstart
        exact hdistinct.1 (heq ▸ mem_map_of_mem hr')
      rw [hinputs]
      refine (congrArg (_ && ·) (Table.any_update (by intro i; rfl) haccepted.row ?_)).trans hfree
      simp [acceptInput, beq_eq_false_iff_ne.2 hsteer]
    · simp [hstart]
  · rw [hother a ha] at hi
    rw [hother b hb] at hi'
    exact h.one_start a (mem_cons_of_mem r ha) b (mem_cons_of_mem r hb) i i' hi hi'
  · exact filterMap_congr fun r' hr' => by rw [hother r' hr']

theorem acknowledgedRevision_update {k : String × Nat} {f : BootstrapRedeliveryRequirement → BootstrapRedeliveryRequirement}
    (hf : ∀ r, (f r).binding = r.binding) (h : s'.requirements = s.requirements.update k f hf)
    (hacknowledged : ∀ r, (f r).acknowledgedRevision = r.acknowledgedRevision) :
    s'.acknowledgedRevision bindingId generation = s.acknowledgedRevision bindingId generation := by
  unfold acknowledgedRevision
  rw [h, Table.find?_update]
  split
  · cases s.requirements.find? (bindingId, generation) with
    | none => rfl
    | some r => exact hacknowledged r
  · rfl

theorem arrive_observation (conversationId other : String) (otherGeneration : Nat) (adapterKind : AdapterKind)
    (h : s.Awaits runId epoch bindingId generation rs) :
    (s.arrive (.observation conversationId other otherGeneration adapterKind)).Awaits runId epoch bindingId generation rs ∧
      (s.arrive (.observation conversationId other otherGeneration adapterKind)).carried rs = s.carried rs ∧
      (s.arrive (.observation conversationId other otherGeneration adapterKind)).acknowledgedRevision bindingId generation =
        s.acknowledgedRevision bindingId generation := by
  have hinputs : (s.requestRedelivery conversationId other otherGeneration adapterKind).inputs = s.inputs := by
    unfold requestRedelivery
    split <;> rfl
  refine ⟨h.of_kept (sameFences_requestRedelivery ..) (requests_requestRedelivery ..) hinputs, ?_, ?_⟩
  · exact congrArg (fun inputs : Table RuntimeInputDelivery.id =>
      rs.filterMap fun r => (inputs.find? r.deliveryId).bind (·.bootstrapRedeliveryRevision)) hinputs
  · show (s.requestRedelivery conversationId other otherGeneration adapterKind).acknowledgedRevision bindingId generation = _
    unfold requestRedelivery
    split
    · exact acknowledgedRevision_update (by intro r; rfl) rfl fun _ => rfl
    rename_i hnone
    unfold acknowledgedRevision
    rw [Table.find?_insert hnone]
    split
    · rename_i hkey
      have habsent : s.requirements.find? (bindingId, generation) = none := hkey ▸ hnone
      rw [habsent]
      rfl
    · rfl

theorem carried_cons {i : RuntimeInputDelivery} (h : s.inputs.find? r.deliveryId = some i) :
    s.carried (r :: rs) = i.bootstrapRedeliveryRevision.toList ++ s.carried rs := by
  unfold carried
  rw [filterMap_cons, h, Option.bind_some]
  cases i.bootstrapRedeliveryRevision <;> rfl

/-- **Receipts are committed exactly in the order of their revisions**, and then the greatest so far is acknowledged. -/
theorem arrivals_commit : ∀ (arrivals : List Arrival) (s : Store), s.Awaits runId epoch bindingId generation (receipts arrivals) →
    (AllSteps arrive Commits s arrivals ↔
      (s.acknowledgedRevision bindingId generation :: s.carried (receipts arrivals)).IsChain (· ≤ ·)) ∧
    ((s.acknowledgedRevision bindingId generation :: s.carried (receipts arrivals)).IsChain (· ≤ ·) →
      (arrivals.foldl arrive s).acknowledgedRevision bindingId generation =
        (s.carried (receipts arrivals)).foldl max (s.acknowledgedRevision bindingId generation))
  | [], s, _ => ⟨⟨fun _ => .singleton _, fun _ => trivial⟩, fun _ => rfl⟩
  | .observation conversationId other otherGeneration adapterKind :: arrivals, s, h => by
    obtain ⟨hnext, hcarried, hrevision⟩ := arrive_observation conversationId other otherGeneration adapterKind h
    have ih := arrivals_commit arrivals _ hnext
    rw [show receipts arrivals = receipts (.observation conversationId other otherGeneration adapterKind :: arrivals) from rfl,
      hcarried, hrevision] at ih
    exact ⟨⟨fun hall => ih.1.1 hall.2, fun hchain => ⟨trivial, ih.1.2 hchain⟩⟩, ih.2⟩
  | .receipt r :: arrivals, s, h => by
    have hcons : receipts (.receipt r :: arrivals) = r :: receipts arrivals := rfl
    rw [hcons] at h ⊢
    obtain ⟨i, hi⟩ := h.expects r mem_cons_self
    rw [carried_cons hi.row, foldl_cons]
    rcases acknowledgeInputDelivery_expected h.executesOn hi with
      ⟨horder, receipt, s', hok, hfences, hgrow, hinputs, hrevision⟩ | ⟨revision, message, hcarried, hlt, herror⟩
    · have hstep : s.arrive (.receipt r) = s' := by
        show s.committed (s.acknowledgeInputDelivery ..) = s'
        rw [hok]
        rfl
      have hcommits : s.Commits (.receipt r) := by
        show (s.acknowledgeInputDelivery ..).isOk = true
        rw [hok]
        rfl
      obtain ⟨hnext, hcarried⟩ := h.of_accepted hfences hgrow hinputs
      have ih := arrivals_commit arrivals s' hnext
      rw [hcarried, hrevision] at ih
      rw [AllSteps, hstep, and_iff_right hcommits]
      cases hrev : i.bootstrapRedeliveryRevision with
      | none =>
        rw [hrev, Option.getD_none, Nat.max_zero] at ih
        exact ih
      | some revision =>
        have hle := horder revision hrev
        rw [hrev, Option.getD_some, Nat.max_eq_right hle] at ih
        refine ⟨ih.1.trans ⟨fun hchain => .cons_cons hle hchain, fun hchain => (isChain_cons_cons.1 hchain).2⟩,
          fun hchain => ?_⟩
        rw [ih.2 (isChain_cons_cons.1 hchain).2, Option.toList_some, singleton_append, foldl_cons,
          Nat.max_eq_right hle]
    · have hchain : ¬ (s.acknowledgedRevision bindingId generation ::
          (i.bootstrapRedeliveryRevision.toList ++ s.carried (receipts arrivals))).IsChain (· ≤ ·) := by
        rw [hcarried, Option.toList_some, singleton_append, isChain_cons_cons]
        exact fun hchain => absurd hchain.1 (Nat.not_le_of_lt hlt)
      refine ⟨⟨fun hall => ?_, fun h => absurd h hchain⟩, fun h => absurd h hchain⟩
      have hcommits : (s.acknowledgeInputDelivery ..).isOk = true := hall.1
      rw [herror] at hcommits
      cases hcommits

theorem foldl_max_of_chain {a : Nat} {l : List Nat} {greatest : Nat} (hchain : (a :: l).IsChain (· ≤ ·))
    (h : l.max? = some greatest) : l.foldl max a = greatest := by
  cases l with
  | nil => cases h
  | cons b l =>
    rw [max?_cons', Option.some.injEq] at h
    rw [foldl_cons, Nat.max_eq_right (isChain_cons_cons.1 hchain).1]
    exact h

/-- **Redelivery and the receipts of a Run's epoch.**  Every receipt that passes the fences is committed, and the greatest
revision is acknowledged in the end, exactly when the receipts that carry a revision arrive in the order of the revisions and
none is below the revision acknowledged before. -/
theorem redelivery_acknowledged (s : Store) (runId bindingId : String) (epoch generation : Nat) (arrivals : List Arrival)
    (h : s.Awaits runId epoch bindingId generation (receipts arrivals)) :
    (AllSteps arrive Commits s arrivals ∧ ∀ greatest, (s.carried (receipts arrivals)).max? = some greatest →
      (arrivals.foldl arrive s).acknowledgedRevision bindingId generation = greatest) ↔
    (s.acknowledgedRevision bindingId generation :: s.carried (receipts arrivals)).IsChain (· ≤ ·) := by
  obtain ⟨hcommit, hacknowledged⟩ := arrivals_commit arrivals s h
  constructor
  · rintro ⟨hall, -⟩
    exact hcommit.1 hall
  · intro hchain
    exact ⟨hcommit.2 hchain, fun greatest hgreatest => (hacknowledged hchain).trans (foldl_max_of_chain hchain hgreatest)⟩

/-! ## Two steers in the other order

A compaction was observed before the first steer is prepared, and another one before the second. -/

def steeredRun : AgentRun where
  id := "run"
  campId := "camp"
  campTurnId := none
  conversationId := "conversation"
  invocationKind := .batch
  runtimeAdapterKind := some .opencodeCli
  inputReady := true
  workspace := none
  status := .running
  waitReason := none
  runtimeRecoveryRequired := false
  runtimeRebindCount := 0
  executionEpoch := 1
  version := 2
  cancelRequested := false
  cancelReasonCode := none
  lastErrorCode := none
  hasFinalOutput := false
  terminalResolutionSource := none
  terminalReasonCode := none
  turn_of_batch := batch_turnless

def steeredConversation : Conversation where
  id := "conversation"
  campId := "camp"
  agentId := "agent"
  kind := .campMember
  ended := false
  version := 1
  nativeAdapterInstallationId := some "installation"
  nativeSessionId := some "session"
  nativeBindingCompatibilityDigest := none
  nativeBindingId := some "binding"
  nativeBindingGeneration := 1
  nativeBindingSecretDigest := none
  lastAcceptedPublicBoundarySequence := 0
  nativeCharterDigest := none
  nativeCollaborationStateDigest := none
  nativeWorkspaceFactDigest := none
  missionDetailsDeliveredVersion := none

def steeredManifest (id : String) (source : Option String) : ContextManifest :=
  ⟨id, "run", 1, 1, source, "charter", "collaboration", none, none⟩

def steeredDelivery (id : String) (queueSequence : Nat) : CampMessageDelivery :=
  ⟨id, "camp", .message, "agent", queueSequence, .steer, .claimed, some "run", some 1, none⟩

def beforeSteers : Store where
  runs := Table.empty.insert steeredRun
  turns := .empty
  conversations := Table.empty.insert steeredConversation
  manifests := ((Table.empty.insert (steeredManifest "start" none)).insert (steeredManifest "one" (some "one"))).insert
    (steeredManifest "two" (some "two"))
  inputs := Table.empty.insert
    ⟨"start", "run", 1, "start", "binding", 1, 1, .accepted, true, some 1, some "turn", none, .start, 0⟩
  deliveries := (Table.empty.insert (steeredDelivery "one" 1)).insert (steeredDelivery "two" 2)
  requirements := Table.empty.insert ⟨"conversation", "binding", 1, .opencodeCli, 1, 0⟩

def sendInput (s : Store) (manifestId : String) : Store :=
  s.run [
    .prepareInputDelivery "run" 1 manifestId ⟨none, none, manifestId, s.pendingRedeliveryRevision "binding" 1⟩,
    .beginRuntimeInputDispatch manifestId "run" 1]

def steersSent : Store :=
  ((beforeSteers.sendInput "one").arrive (.observation "conversation" "binding" 1 .opencodeCli)).sendInput "two"

def sentSteer (manifestId : String) (number : Nat) : RuntimeInputDelivery :=
  ⟨manifestId, "run", 1, manifestId, "binding", 1, 1, .prepared, true, none, none, some number, .steer, number⟩

def steerReceipt (manifestId : String) : Receipt := ⟨manifestId, "turn", 1, true⟩

theorem find?_one : steersSent.inputs.find? "one" = some (sentSteer "one" 1) := by
  decide

theorem find?_two : steersSent.inputs.find? "two" = some (sentSteer "two" 2) := by
  decide

theorem find?_requirement : steersSent.requirements.find? ("binding", 1) = some ⟨"conversation", "binding", 1, .opencodeCli, 2, 0⟩ := by
  decide

theorem expects_steer {manifestId : String} {number : Nat} (hrow : steersSent.inputs.find? manifestId = some (sentSteer manifestId number))
    (hmanifest : (steersSent.manifests.find? manifestId).isSome = true) (hle : number ≤ 2) :
    steersSent.Expects "run" 1 "binding" 1 (steerReceipt manifestId) (sentSteer manifestId number) where
  row := hrow
  agentRunId := rfl
  executionEpoch := rfl
  nativeBindingId := rfl
  nativeBindingGeneration := rfl
  pending := .inl rfl
  manifest := hmanifest
  asked revision h := ⟨_, find?_requirement, by cases h; exact hle⟩
  named := show isBlank "turn" = false by decide
  free := rfl

theorem awaits_sent {rs : List Receipt} (h : rs.Perm [steerReceipt "one", steerReceipt "two"]) :
    steersSent.Awaits "run" 1 "binding" 1 rs where
  executesOn := by decide
  distinct := (h.map Receipt.deliveryId).nodup_iff.2 (by decide)
  expects r hr := by
    rcases mem_pair.1 (h.mem_iff.1 hr) with rfl | rfl
    · exact ⟨_, expects_steer find?_one (by decide) (by decide)⟩
    · exact ⟨_, expects_steer find?_two (by decide) (by decide)⟩
  one_start r hr _ _ i _ hi _ hkind _ := by
    have hsteer : i.inputKind = .steer := by
      rcases mem_pair.1 (h.mem_iff.1 hr) with rfl | rfl
      · rw [show steersSent.inputs.find? (steerReceipt "one").deliveryId = _ from find?_one] at hi
        cases hi
        rfl
      · rw [show steersSent.inputs.find? (steerReceipt "two").deliveryId = _ from find?_two] at hi
        cases hi
        rfl
    rw [hsteer] at hkind
    cases hkind

/-- The receipts in the order of the inputs, another compaction between them. -/
theorem redelivery_acknowledged_in_order :
    AllSteps arrive Commits steersSent
        [.receipt (steerReceipt "one"), .observation "conversation" "binding" 1 .opencodeCli, .receipt (steerReceipt "two")] ∧
      ∀ greatest, (steersSent.carried [steerReceipt "one", steerReceipt "two"]).max? = some greatest →
        ([.receipt (steerReceipt "one"), .observation "conversation" "binding" 1 .opencodeCli,
          .receipt (steerReceipt "two")].foldl arrive steersSent).acknowledgedRevision "binding" 1 = greatest :=
  (redelivery_acknowledged steersSent "run" "binding" 1 1
    [.receipt (steerReceipt "one"), .observation "conversation" "binding" 1 .opencodeCli, .receipt (steerReceipt "two")]
    (awaits_sent (.refl _))).2 (by decide)

/-- **The steer that is acknowledged first bars the one that was sent first**: its receipt passes the fences and is rolled
back. -/
theorem redelivery_bars_receipt :
    steersSent.Awaits "run" 1 "binding" 1 (receipts [.receipt (steerReceipt "two"), .receipt (steerReceipt "one")]) ∧
      ¬ AllSteps arrive Commits steersSent [.receipt (steerReceipt "two"), .receipt (steerReceipt "one")] := by
  refine ⟨awaits_sent (.swap _ _ _), fun hall => ?_⟩
  have hfirst : ((steersSent.arrive (.receipt (steerReceipt "two"))).acknowledgeInputDelivery "one" "turn" 1 true).isOk = true :=
    hall.2.1
  revert hfirst
  decide

end Store
end Rovai.AgentRuns
