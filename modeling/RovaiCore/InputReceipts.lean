import RovaiCore.AgentRunSessions
/-!
# Receipts and what a session has read

A receipt that accepts is final, an input is dispatched once for each time it is prepared, and only an acknowledgement of the
current execution moves the conversation.
-/
namespace Rovai.AgentRuns

open Tables (Table)
open Store

/-! ## Final receipts -/

variable {i : RuntimeInputDelivery} {s : Store} {k : String}

theorem accepted_step (a : Action) (hi : s.inputs.find? k = some i)
    (haccepted : i.status = .accepted) : (s.step a).inputs.find? k = some i := by
  obtain ⟨i', hi', hstep⟩ := (step_inputs s a).kept hi
  rw [hi']
  cases hstep with
  | kept h =>
    obtain rfl | hloses := h
    · rfl
    · obtain hb | hb := hloses.before <;> simp [haccepted] at hb
  | preparedAgain manifestId options prepared ha hprepared hstatus => simp [haccepted] at hstatus
  | begun ha hstatus => simp [haccepted] at hstatus
  | accepted nativeInputId now resume ha hpending => obtain hb | hb := hpending <;> simp [haccepted] at hb

theorem accepted_run (as : List Action) (hi : s.inputs.find? k = some i)
    (haccepted : i.status = .accepted) : (s.run as).inputs.find? k = some i :=
  Runs.run_invariant (P := fun s => s.inputs.find? k = some i) step (fun _ a h => accepted_step a h haccepted) as s hi

/-! ## One dispatch for each preparation -/

def Store.preparesRow (s : Store) (inputId : String) : Action → Bool
  | .prepareInputDelivery runId executionEpoch manifestId options =>
    match s.prepareInputDelivery runId executionEpoch manifestId options with
    | .ok (receipt, _) => receipt.id == inputId
    | .error _ => false
  | _ => false

theorem dispatchStarted_step {a : Action}
    (hi : s.inputs.find? k = some i) (hsent : i.dispatchStarted = true) (hnot : s.preparesRow k a = false) :
    ∃ i', (s.step a).inputs.find? k = some i' ∧ i'.dispatchStarted = true := by
  obtain ⟨i', hi', hstep⟩ := (step_inputs s a).kept hi
  refine ⟨i', hi', ?_⟩
  cases hstep with
  | kept h =>
    obtain rfl | hloses := h
    · exact hsent
    rw [hloses.rest]
    exact hsent
  | preparedAgain manifestId options prepared ha hprepared =>
    subst ha
    have hid : i.id = k := Table.key_of_find? hi
    simp [preparesRow, hprepared, RuntimeInputDelivery.asPublic, prepareAgain, hid] at hnot
  | begun => rfl
  | accepted => exact hsent

theorem begin_true {inputId runId : String} {executionEpoch : Nat}
    (h : (s.beginRuntimeInputDispatch inputId runId executionEpoch).1 = true) :
    ∃ i, s.inputs.find? inputId = some i ∧ i.dispatchStarted = false ∧
      (s.step (.beginRuntimeInputDispatch inputId runId executionEpoch)).inputs.find? inputId =
        some { i with dispatchStarted := true } := by
  obtain hno | ⟨i, hi, -, -, -, hnew, -, hs'⟩ := beginRuntimeInputDispatch_cases (s := s) inputId runId executionEpoch
  · simp [hno] at h
  refine ⟨i, hi, hnew, ?_⟩
  rw [step, hs']
  exact Table.find?_update_self hi (fun i => { i with dispatchStarted := true }) (fun _ => rfl)

/-! ## Late receipts -/

variable {target : DeliveryTarget}

theorem late_acknowledgement {s s' : Store} {deliveryId nativeInputId : String} {now : Nat} {resume : Bool}
    {receipt : InputReceipt × Bool} (htarget : s.loadDeliveryTarget deliveryId = some target)
    (hlate : s.currentExecution target = false)
    (h : s.acknowledgeInputDelivery deliveryId nativeInputId now resume = .ok (receipt, s')) :
    s'.conversations = s.conversations ∧ s'.runs = s.runs := by
  unfold acknowledgeInputDelivery at h
  split at h
  · cases h
  simp only [htarget] at h
  split at h
  · split at h
    · cases h
    cases h
    exact ⟨rfl, rfl⟩
  split at h
  · cases h
  split at h
  · cases h
  rw [hlate, if_neg Bool.false_ne_true] at h
  cases h
  rw [settleSource_eq]
  exact ⟨rfl, rfl⟩

/-! ## Acknowledgements of the current execution -/

def Store.currentReceipt (s : Store) (conversationId : String) : Action → Option DeliveryTarget
  | .acknowledgeInputDelivery deliveryId nativeInputId now resume =>
    match s.acknowledgeInputDelivery deliveryId nativeInputId now resume with
    | .ok ((_, true), _) =>
      (s.loadDeliveryTarget deliveryId).filter (fun target =>
        target.conversation.id == conversationId && s.currentExecution target)
    | _ => none
  | _ => none

theorem executes_of_currentExecution {deliveryId : String}
    (htarget : s.loadDeliveryTarget deliveryId = some target) :
    s.currentExecution target = true ↔ s.executes target.input := by
  obtain ⟨hi, hm, hr, hc⟩ := find?_of_loadDeliveryTarget htarget
  unfold currentExecution executes onCurrentBinding
  constructor
  · intro h
    simp only [Bool.and_eq_true, beq_iff_eq, Bool.not_eq_true', Bool.or_eq_true, bne_iff_ne, ne_eq] at h
    obtain ⟨⟨⟨⟨⟨hepoch, hactive⟩, hcancel⟩, hturn⟩, hid, hgeneration⟩, hchat⟩ := h
    exact ⟨target.run, target.conversation, hr, hc, hepoch, hactive, hcancel, hturn, hid, hgeneration,
      fun hkind => hchat.resolve_left (fun hne => hne hkind)⟩
  · rintro ⟨r, c, hr', hc', hepoch, hactive, hcancel, hturn, hid, hgeneration, hchat⟩
    rw [hr] at hr'
    cases hr'
    rw [hc] at hc'
    cases hc'
    simp only [hepoch, hactive, hcancel, hturn, hid, hgeneration, beq_self_eq_true, Bool.and_self, Bool.not_false,
      Bool.true_and, Bool.or_eq_true, bne_iff_ne, ne_eq, Bool.not_eq_true']
    by_cases hkind : target.conversation.kind = .singleChat
    · exact .inr (hchat hkind)
    · exact .inl hkind

theorem receipt_cases (s : Store) (deliveryId nativeInputId : String) (now : Nat) (resume : Bool) :
    s.step (.acknowledgeInputDelivery deliveryId nativeInputId now resume) = s ∧
        (∀ conversationId, s.currentReceipt conversationId (.acknowledgeInputDelivery deliveryId nativeInputId now resume) = none) ∨
      ∃ target : DeliveryTarget, target.input.id = deliveryId ∧
        s.Acknowledges target nativeInputId now (s.step (.acknowledgeInputDelivery deliveryId nativeInputId now resume)) ∧
        ∀ conversationId, s.currentReceipt conversationId (.acknowledgeInputDelivery deliveryId nativeInputId now resume) =
          if target.conversation.id = conversationId ∧ s.currentExecution target = true then some target else none := by
  cases hresult : s.acknowledgeInputDelivery deliveryId nativeInputId now resume with
  | error message => exact .inl ⟨by simp [step, committed, hresult], fun conversationId => by simp [currentReceipt, hresult]⟩
  | ok result =>
    obtain ⟨⟨receipt, changed⟩, s'⟩ := result
    obtain ⟨rfl, rfl⟩ | ⟨rfl, target, rfl, hack⟩ := acknowledgeInputDelivery_cases hresult
    · exact .inl ⟨by simp [step, committed, hresult], fun conversationId => by simp [currentReceipt, hresult]⟩
    refine .inr ⟨target, rfl, by simpa [step, committed, hresult] using hack, fun conversationId => ?_⟩
    simp [currentReceipt, hresult, hack.loaded, Option.filter_some, Bool.and_eq_true, beq_iff_eq]

theorem Store.Acknowledges.tables {s s' : Store} {nativeInputId : String} {now : Nat}
    (h : s.Acknowledges target nativeInputId now s') :
    s'.inputs = (s.received target nativeInputId now).inputs ∧
      s'.conversations = (s.received target nativeInputId now).conversations := by
  obtain ⟨acknowledged, hredelivery, -, heq⟩ := h.outcome
  rw [heq, acknowledged_eq hredelivery]
  exact ⟨rfl, rfl⟩

/-! ## What a transaction leaves of a conversation -/

inductive ConversationStep (s : Store) (a : Action) (c : Conversation) : Conversation → Prop
  | kept {c' : Conversation} (h : ConversationKept c c') : ConversationStep s a c c'
  | delivered (target : DeliveryTarget) (hreceipt : s.currentReceipt c.id a = some target)
      (hlatest : s.laterAccepted target.input = false) : ConversationStep s a c (deliverContext target.input target.manifest c)

/-- **Every transaction keeps every session**, or is the acknowledgement of what it has read. -/
theorem step_conversations (s : Store) (a : Action) :
    Table.Grows (ConversationStep s a) NewConversation s.conversations (s.step a).conversations := by
  have hkept : ∀ {s' : Store}, ConversationsKept s s' →
      Table.Grows (ConversationStep s a) NewConversation s.conversations s'.conversations := fun h => h.mono .kept id
  have hsame : ∀ {s' : Store}, s'.conversations = s.conversations →
      Table.Grows (ConversationStep s a) NewConversation s.conversations s'.conversations := fun h => hkept (.of_eq h)
  have heffect := step_effect s a
  generalize hs' : s.step a = s' at heffect ⊢
  cases heffect with
  | moved h => exact hkept h.conversationsKept
  | requested =>
    exact hsame (by rw [requestRedelivery_eq])
  | claimed envelope command facts run =>
    refine hkept (.update ConversationKept.refl s.conversations run.conversationId clearBindingSecret (fun _ => rfl) fun c _ => ?_)
    exact (⟨rfl, rfl, id, rfl, rfl, rfl, rfl, rfl, rfl, rfl⟩ : Touches c (clearBindingSecret c)).kept
  | resolved =>
    exact hsame (by rw [settleBatchDeliveries_eq])
  | preparedAgain => exact hsame rfl
  | prepared => exact hsame rfl
  | begun => exact hsame rfl
  | acknowledged nativeInputId now resume target s' hack =>
    obtain ⟨hidle, -⟩ | ⟨target', hid, hack', hreceipt⟩ := receipt_cases s target.input.id nativeInputId now resume
    · rw [← hs', hidle]
      exact hsame rfl
    · have htarget : target' = target := by
        have hloaded := hack'.loaded
        rw [hid, hack.loaded] at hloaded
        exact (Option.some.inj hloaded).symm
      subst htarget
      rw [hack.tables.2]
      unfold received
      dsimp only
      split
      · rename_i hcurrent
        rw [Bool.and_eq_true, Bool.not_eq_true'] at hcurrent
        refine .update (fun c => .kept (.refl c)) s.conversations target'.conversation.id
          (deliverContext target'.input target'.manifest) (fun _ => rfl) fun c hc => ?_
        refine .delivered target' ?_ hcurrent.2
        rw [hreceipt, if_pos ⟨(Table.key_of_find? hc).symm, hcurrent.1⟩]
      · exact .refl (fun c => .kept (.refl c)) s.conversations

end Rovai.AgentRuns
