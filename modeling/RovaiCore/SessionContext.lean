import RovaiCore.InputReceipts
import RovaiCore.StartInputs
/-!
# What the session of a conversation has read

The current receipts of a conversation, since its session was last replaced, are recorded along a run.
-/
namespace Rovai.AgentRuns

open Tables (Table)
open List
open Store

/-! ## The record of a run -/

structure SessionRecord where
  (receipts read : List DeliveryTarget)

/-- The conversation is bound to another session after the transaction, or to none. -/
def Store.rebinds (s : Store) (conversationId : String) (a : Action) : Bool :=
  match s.conversations.find? conversationId, (s.step a).conversations.find? conversationId with
  | some c, some c' => !decide (SameBinding c c')
  | _, _ => false

variable (conversationId : String)

def SessionRecord.next (s : Store) (record : SessionRecord) (a : Action) : SessionRecord :=
  match s.currentReceipt conversationId a with
  | some target =>
    ⟨target :: record.receipts, if s.laterAccepted target.input then record.read else target :: record.read⟩
  | none => if s.rebinds conversationId a then ⟨[], record.read⟩ else record

def recorded (w : Store × SessionRecord) (a : Action) : Store × SessionRecord :=
  (w.1.step a, w.2.next conversationId w.1 a)

def sessionRecord (w : Store) (as : List Action) : SessionRecord :=
  (as.foldl (recorded conversationId) (w, ⟨[], []⟩)).2

theorem recorded_run (conversationId : String) : ∀ (as : List Action) (w : Store) (record : SessionRecord),
    (as.foldl (recorded conversationId) (w, record)).1 = w.run as
  | [], _, _ => rfl
  | a :: as, w, record => recorded_run conversationId as (w.step a) (record.next conversationId w a)

/-! ## What the record says -/

def SameExecution (t u : DeliveryTarget) : Prop :=
  t.input.agentRunId = u.input.agentRunId ∧ t.input.executionEpoch = u.input.executionEpoch

structure ReadsLast (receipts : List DeliveryTarget) (c : Conversation) : Prop where
  nothing : receipts = [] → c.nativeCharterDigest = none ∧ c.nativeCollaborationStateDigest = none
  last : ∀ latest earlier, receipts = latest :: earlier → ∃ t ∈ receipts, SameExecution t latest ∧
    (∀ u ∈ receipts, SameExecution u latest → u.input.inputSequence ≤ t.input.inputSequence) ∧
    c.nativeCharterDigest = some t.manifest.charterDigest ∧
    c.nativeCollaborationStateDigest = some t.manifest.collaborationStateDigest

structure RecordInv (conversationId : String) (s : Store) (record : SessionRecord) : Prop where
  rows : ∀ t ∈ record.receipts, ∃ i, s.inputs.find? t.input.id = some i ∧ i.status = .accepted ∧ SameInput t.input i
  runs : ∀ t ∈ record.receipts, ∃ r, s.runs.find? t.input.agentRunId = some r ∧ r.conversationId = conversationId
  latest : ∀ latest earlier, record.receipts = latest :: earlier → ∀ t ∈ record.receipts, ∀ r,
    s.runs.find? t.input.agentRunId = some r → active r.status = true → r.executionEpoch = t.input.executionEpoch →
    SameExecution t latest
  complete : ∀ k i r, s.inputs.find? k = some i → i.status = .accepted → s.executes i →
    s.runs.find? i.agentRunId = some r → r.conversationId = conversationId → ∃ t ∈ record.receipts, t.input.id = k
  unbound : ∀ c, s.conversations.find? conversationId = some c → c.nativeBindingId = none → record.receipts = []
  digests : ∀ c, s.conversations.find? conversationId = some c → ReadsLast record.receipts c
  workspaceFact : ∀ c, s.conversations.find? conversationId = some c →
    c.nativeWorkspaceFactDigest = record.read.findSome? (fun t => t.manifest.workspaceFactDigest)
  absent : s.conversations.find? conversationId = none → record.read = []

structure RecordedInv (conversationId : String) (w : Store × SessionRecord) : Prop where
  session : SessionInv w.1
  alone : OneActiveRun w.1
  record : RecordInv conversationId w.1 w.2

variable {conversationId : String} {s : Store} {a : Action} {record : SessionRecord}

/-! ## A transaction without a current receipt -/

variable {k : String} {r : AgentRun}

theorem step_run_conversation (hr : s.runs.find? k = some r) :
    ∃ r', (s.step a).runs.find? k = some r' ∧ r'.conversationId = r.conversationId := by
  obtain ⟨r', hr', hkept | hopens⟩ := step_run a hr
  · exact ⟨r', hr', hkept.conversationId⟩
  obtain ⟨workspace, rfl⟩ := hopens.taken
  exact ⟨_, hr', rfl⟩

variable {i : RuntimeInputDelivery}

theorem conversation_before (h : SessionInv s) {r' : AgentRun}
    (hi : s.inputs.find? k = some i) (hr' : (s.step a).runs.find? i.agentRunId = some r') :
    ∃ r, s.runs.find? i.agentRunId = some r ∧ r'.conversationId = r.conversationId := by
  obtain ⟨r, c, hr, -⟩ := h.sessions.binding hi
  obtain ⟨r₁, hr₁, hconversation⟩ := step_run_conversation (a := a) hr
  rw [hr'] at hr₁
  cases hr₁
  exact ⟨r, hr, hconversation⟩

theorem accepted_before (h : SessionInv s)
    (hi : (s.step a).inputs.find? k = some i) (haccepted : i.status = .accepted) (hexecutes : (s.step a).executes i)
    (hr : (s.step a).runs.find? i.agentRunId = some r) (hconversation : r.conversationId = conversationId) :
    (s.inputs.find? k = some i ∧ s.executes i ∧ ∃ r, s.runs.find? i.agentRunId = some r ∧ r.conversationId = conversationId) ∨
      ∃ target, s.currentReceipt conversationId a = some target ∧ target.input.id = k := by
  obtain ⟨i₀, hi₀, hstep⟩ | ⟨-, hnew⟩ := (step_inputs s a).origin hi
  · have hsame := hstep.same
    have hbefore : s.executes i₀ := by
      refine (sessionInv_step s a h).2 k i₀ hi₀ ?_
      rw [← executes_congr hsame]
      exact hexecutes
    rw [hsame.agentRunId] at hr
    obtain ⟨r₀, hr₀, hr₀'⟩ := conversation_before h hi₀ hr
    cases hstep with
    | kept hkept =>
      obtain rfl | hloses := hkept
      · exact .inl ⟨hi₀, hbefore, r₀, hr₀, hr₀' ▸ hconversation⟩
      · obtain hafter | hafter := hloses.after <;> rw [haccepted] at hafter <;> cases hafter
    | preparedAgain => cases haccepted
    | begun ha hstatus =>
      rw [hstatus] at haccepted
      cases haccepted
    | accepted nativeInputId now resume ha hpending =>
      subst ha
      obtain ⟨hidle, -⟩ | ⟨target, hid, hack, hreceipt⟩ := receipt_cases s i₀.id nativeInputId now resume
      · -- An acknowledgement that changes nothing accepts nothing.
        rw [hidle, hi₀] at hi
        rw [← Option.some.inj hi] at haccepted
        obtain hb | hb := hpending <;> rw [hb] at haccepted <;> cases haccepted
      · obtain ⟨hti, -, htr, htc⟩ := find?_of_loadDeliveryTarget hack.loaded
        have hinput : target.input = i₀ := by
          rw [hid, Table.find?_key hi₀] at hti
          exact (Option.some.inj hti).symm
        rw [hinput, hr₀] at htr
        cases htr
        have hcurrent : s.currentExecution target = true := by
          rw [executes_of_currentExecution hack.loaded, hinput]
          exact hbefore
        have hid' : target.conversation.id = conversationId :=
          (Table.key_of_find? htc).trans (hr₀'.symm.trans hconversation)
        exact .inr ⟨target, by rw [hreceipt, if_pos ⟨hid', hcurrent⟩], by rw [hinput]; exact Table.key_of_find? hi₀⟩
  · obtain ⟨run, m, c, bindingId, options, -, -, -, -, -, -, -, -, -, rfl, -⟩ := hnew.source
    cases haccepted

/-! ## A transaction without a current receipt -/

theorem rows_step {rows : List DeliveryTarget}
    (h : ∀ t ∈ rows, ∃ i, s.inputs.find? t.input.id = some i ∧ i.status = .accepted ∧ SameInput t.input i) :
    ∀ t ∈ rows, ∃ i, (s.step a).inputs.find? t.input.id = some i ∧ i.status = .accepted ∧ SameInput t.input i := fun t ht =>
  let ⟨i, hi, haccepted, hsame⟩ := h t ht
  ⟨i, accepted_step a hi haccepted, haccepted, hsame⟩

theorem runs_step {rows : List DeliveryTarget}
    (h : ∀ t ∈ rows, ∃ r, s.runs.find? t.input.agentRunId = some r ∧ r.conversationId = conversationId) :
    ∀ t ∈ rows, ∃ r, (s.step a).runs.find? t.input.agentRunId = some r ∧ r.conversationId = conversationId := fun t ht =>
  let ⟨_, hr, hconversation⟩ := h t ht
  let ⟨r', hr', hsame⟩ := step_run_conversation hr
  ⟨r', hr', hsame.trans hconversation⟩

theorem execution_before (h : SessionInv s) {t : DeliveryTarget} {r' : AgentRun}
    (hi : s.inputs.find? t.input.id = some i) (hsame : SameInput t.input i)
    (hr' : (s.step a).runs.find? t.input.agentRunId = some r') (hactive : active r'.status = true)
    (hepoch : r'.executionEpoch = t.input.executionEpoch) :
    ∃ r, s.runs.find? t.input.agentRunId = some r ∧ active r.status = true ∧ r.executionEpoch = t.input.executionEpoch := by
  obtain ⟨r, c, hr, -, hle, -⟩ := h.sessions.binding hi
  rw [hsame.agentRunId] at hr
  rw [hsame.executionEpoch] at hle
  obtain ⟨r₁, hr₁, hkept | hopens⟩ := step_run a hr
  · rw [hr'] at hr₁
    cases hr₁
    exact ⟨r, hr, hkept.active_before hactive, hkept.executionEpoch.symm.trans hepoch⟩
  · rw [hr'] at hr₁
    cases hr₁
    obtain ⟨workspace, rfl⟩ := hopens.taken
    have hnext : (claimRun workspace r).executionEpoch = r.executionEpoch + 1 := rfl
    omega


theorem conversation_step (hnone : s.currentReceipt conversationId a = none) {c' : Conversation}
    (hc' : (s.step a).conversations.find? conversationId = some c') :
    (∃ c, s.conversations.find? conversationId = some c ∧ ConversationKept c c') ∨
      s.conversations.find? conversationId = none ∧ NewConversation c' := by
  obtain ⟨c, hc, hstep⟩ | hnew := (step_conversations s a).origin hc'
  · cases hstep with
    | kept h => exact .inl ⟨c, hc, h⟩
    | delivered target hreceipt =>
      rw [Table.key_of_find? hc, hnone] at hreceipt
      cases hreceipt
  · exact .inr hnew

theorem RecordInv.receipts_absent (h : RecordInv conversationId s record) (hsession : SessionInv s)
    (habsent : s.conversations.find? conversationId = none) : record.receipts = [] := by
  cases hreceipts : record.receipts with
  | nil => rfl
  | cons t rest =>
    obtain ⟨r, hr, hconversation⟩ := h.runs t (by simp [hreceipts])
    obtain ⟨c, hc⟩ := hsession.referred.conversation hr
    rw [hconversation, habsent] at hc
    cases hc

theorem recordInv_rebound (h : RecordInv conversationId s record) (hsession : SessionInv s)
    (hnone : s.currentReceipt conversationId a = none) (hrebinds : s.rebinds conversationId a = true) :
    RecordInv conversationId (s.step a) ⟨[], record.read⟩ := by
  unfold rebinds at hrebinds
  split at hrebinds
  · rename_i c c' hc hc'
    simp only [Bool.not_eq_true', decide_eq_false_iff_not] at hrebinds
    obtain ⟨c₁, hc₁, hkept⟩ | ⟨habsent, -⟩ := conversation_step hnone hc'
    · rw [hc] at hc₁
      cases hc₁
      refine { rows := by simp, runs := by simp, latest := by simp, complete := ?_, unbound := fun _ _ _ => rfl
               digests := ?_, workspaceFact := ?_, absent := ?_ }
      · -- What executes on the binding that is there now was of the binding before.
        intro k i r hi haccepted hexecutes hr hconversation
        obtain ⟨hi₀, -, r₀, hr₀, hconversation₀⟩ | ⟨target, hreceipt, -⟩ :=
          accepted_before hsession hi haccepted hexecutes hr hconversation
        · obtain ⟨r₁, c₁, hr₁, hc₁, -, hle, -⟩ := hsession.sessions.binding hi₀
          rw [hr₀] at hr₁
          cases hr₁
          rw [hconversation₀, hc] at hc₁
          cases hc₁
          obtain ⟨r₂, c₂, hr₂, hc₂, -, -, -, -, hid, hgeneration, -⟩ := hexecutes
          rw [hr] at hr₂
          cases hr₂
          rw [hconversation, hc'] at hc₂
          cases hc₂
          obtain ⟨hg, hid'⟩ := hkept.session.of_bound hle hgeneration hid
          exact absurd ⟨hgeneration.trans hg.symm, hid.trans hid'.symm⟩ hrebinds
        · rw [hnone] at hreceipt
          cases hreceipt
      · intro c₂ hc₂
        rw [hc'] at hc₂
        cases hc₂
        exact ⟨fun _ => hkept.forgotten hrebinds, by simp⟩
      · intro c₂ hc₂
        rw [hc'] at hc₂
        cases hc₂
        rw [hkept.workspaceFact]
        exact h.workspaceFact c hc
      · intro habsent
        rw [hc'] at habsent
        cases habsent
    · rw [hc] at habsent
      cases habsent
  · cases hrebinds

theorem recordInv_kept (h : RecordInv conversationId s record) (hsession : SessionInv s)
    (hnone : s.currentReceipt conversationId a = none) (hrebinds : s.rebinds conversationId a = false) :
    RecordInv conversationId (s.step a) record := by
  have hconversation : ∀ {c'}, (s.step a).conversations.find? conversationId = some c' →
      (∃ c, s.conversations.find? conversationId = some c ∧ ConversationKept c c' ∧ SameBinding c c') ∨
        s.conversations.find? conversationId = none ∧ NewConversation c' := by
    intro c' hc'
    obtain ⟨c, hc, hkept⟩ | hnew := conversation_step hnone hc'
    · refine .inl ⟨c, hc, hkept, ?_⟩
      simpa [rebinds, hc, hc'] using hrebinds
    · exact .inr hnew
  refine { rows := rows_step h.rows, runs := runs_step h.runs, latest := ?_, complete := ?_, unbound := ?_, digests := ?_
           workspaceFact := ?_, absent := ?_ }
  · intro latest earlier hreceipts t ht r' hr' hactive hepoch
    obtain ⟨i, hi, -, hsame⟩ := h.rows t ht
    obtain ⟨r, hr, hactive', hepoch'⟩ := execution_before hsession hi hsame hr' hactive hepoch
    exact h.latest latest earlier hreceipts t ht r hr hactive' hepoch'
  · intro k i r hi haccepted hexecutes hr hid
    obtain ⟨hi₀, hexecutes₀, r₀, hr₀, hid₀⟩ | ⟨target, hreceipt, -⟩ := accepted_before hsession hi haccepted hexecutes hr hid
    · exact h.complete k i r₀ hi₀ haccepted hexecutes₀ hr₀ hid₀
    rw [hnone] at hreceipt
    cases hreceipt
  · intro c' hc' hunbound
    obtain ⟨c, hc, -, hsame⟩ | ⟨habsent, -⟩ := hconversation hc'
    · exact h.unbound c hc (hsame.2 ▸ hunbound)
    · exact h.receipts_absent hsession habsent
  · intro c' hc'
    obtain ⟨c, hc, hkept, hsame⟩ | ⟨habsent, hnew⟩ := hconversation hc'
    · have hreads := h.digests c hc
      cases hbinding : c.nativeBindingId with
      | none =>
        have hempty := h.unbound c hc hbinding
        refine ⟨fun _ => ?_, by simp [hempty]⟩
        obtain ⟨hcharter, hcollaboration⟩ := hreads.nothing hempty
        obtain ⟨hcharter', hcollaboration'⟩ | hforgot := hkept.digests
        · exact ⟨hcharter'.trans hcharter, hcollaboration'.trans hcollaboration⟩
        · exact hforgot
      | some bindingId =>
        obtain ⟨hcharter, hcollaboration⟩ := hkept.kept hsame (by simp [hbinding])
        constructor
        · rw [hcharter, hcollaboration]
          exact hreads.nothing
        · rw [hcharter, hcollaboration]
          exact hreads.last
    · have hempty := h.receipts_absent hsession habsent
      exact ⟨fun _ => ⟨hnew.charter, hnew.collaboration⟩, by simp [hempty]⟩
  · intro c' hc'
    obtain ⟨c, hc, hkept, -⟩ | ⟨habsent, hnew⟩ := hconversation hc'
    · rw [hkept.workspaceFact]
      exact h.workspaceFact c hc
    · rw [hnew.workspaceFact, h.absent habsent]
      rfl
  · intro habsent'
    cases hc : s.conversations.find? conversationId with
    | none => exact h.absent hc
    | some c =>
      obtain ⟨c', hc', -⟩ := (step_conversations s a).kept hc
      rw [habsent'] at hc'
      cases hc'


/-! ## A current receipt -/

/-- A transaction that is a current receipt, with what it finds and what it leaves. -/
structure Receives (s : Store) (conversationId : String) (a : Action) (target : DeliveryTarget) : Prop where
  input : s.inputs.find? target.input.id = some target.input
  run : s.runs.find? target.input.agentRunId = some target.run
  conversation : s.conversations.find? conversationId = some target.conversation
  ofConversation : target.run.conversationId = conversationId
  bound : target.conversation.nativeBindingId = some target.input.nativeBindingId
  executes : s.executes target.input
  accepted : ∃ i, (s.step a).inputs.find? target.input.id = some i ∧ i.status = .accepted ∧ SameInput target.input i
  others : ∀ k, k ≠ target.input.id → (s.step a).inputs.find? k = s.inputs.find? k
  session : (s.step a).conversations.find? conversationId =
    some (if s.laterAccepted target.input then target.conversation
      else deliverContext target.input target.manifest target.conversation)

theorem acknowledgement_of_receipt {target : DeliveryTarget} (h : s.currentReceipt conversationId a = some target) :
    ∃ deliveryId nativeInputId now resume, a = .acknowledgeInputDelivery deliveryId nativeInputId now resume := by
  unfold currentReceipt at h
  split at h
  · exact ⟨_, _, _, _, rfl⟩
  · cases h

theorem receives_of_currentReceipt {target : DeliveryTarget} (h : s.currentReceipt conversationId a = some target) :
    Receives s conversationId a target := by
  obtain ⟨deliveryId, nativeInputId, now, resume, rfl⟩ := acknowledgement_of_receipt h
  obtain ⟨-, hnone⟩ | ⟨target', hid, hack, hreceipt⟩ := receipt_cases s deliveryId nativeInputId now resume
  · rw [hnone] at h
    cases h
  rw [hreceipt] at h
  split at h
  · rename_i hcond
    cases h
    obtain ⟨hi, hm, hr, hc⟩ := find?_of_loadDeliveryTarget hack.loaded
    obtain ⟨hinputs, hconversations⟩ := hack.tables
    obtain ⟨rfl, hcurrent⟩ := hcond
    refine { input := hi, run := hr, conversation := Table.find?_key hc
             ofConversation := (Table.key_of_find? hc).symm, bound := ?_
             executes := (executes_of_currentExecution hack.loaded).1 hcurrent, accepted := ?_, others := ?_, session := ?_ }
    · unfold currentExecution onCurrentBinding at hcurrent
      simp only [Bool.and_eq_true, beq_iff_eq] at hcurrent
      exact hcurrent.1.2.1
    · refine ⟨acceptInput nativeInputId now target.input, ?_, rfl, ⟨rfl, rfl, rfl, rfl, rfl, rfl, rfl, rfl⟩⟩
      rw [hinputs]
      exact Table.find?_update_self hi (acceptInput nativeInputId now) (fun _ => rfl)
    · intro k hk
      rw [hinputs]
      exact Table.find?_update_of_ne s.inputs hk (acceptInput nativeInputId now) (fun _ => rfl)
    · rw [hconversations]
      unfold received
      simp only [hcurrent, Bool.true_and]
      cases s.laterAccepted target.input with
      | true => exact Table.find?_key hc
      | false =>
        exact Table.find?_update_self (Table.find?_key hc) (deliverContext target.input target.manifest) (fun _ => rfl)
  · cases h

variable {target : DeliveryTarget}

theorem Receives.sameExecution (h : Receives s conversationId a target) (halone : OneActiveRun s) {t : DeliveryTarget}
    (hr : s.runs.find? t.input.agentRunId = some r) (hconversation : r.conversationId = conversationId)
    (hactive : active r.status = true) (hepoch : r.executionEpoch = t.input.executionEpoch) : SameExecution t target := by
  obtain ⟨r', c, hr', -, hepoch', hactive', -⟩ := h.executes
  have hrun : r' = target.run := Option.mem_unique hr' h.run
  have hid : t.input.agentRunId = target.input.agentRunId := by
    refine halone _ _ r r' hr hr' ?_ hactive hactive'
    rw [hconversation, hrun, h.ofConversation]
  refine ⟨hid, ?_⟩
  rw [hid, hr'] at hr
  cases hr
  rw [← hepoch, hepoch']

theorem later_recorded (h : RecordInv conversationId s record) (hsession : SessionInv s)
    (hreceives : Receives s conversationId a target) {later : RuntimeInputDelivery}
    (hlater : s.inputs.find? k = some later) (haccepted : later.status = .accepted)
    (hrun : later.agentRunId = target.input.agentRunId) (hepoch : later.executionEpoch = target.input.executionEpoch)
    (hlt : target.input.inputSequence < later.inputSequence) : ∃ u ∈ record.receipts, u.input.id = k := by
  obtain ⟨r, c, hr, hc, hepoch', hactive, hcancel, hturn, hid, hgeneration, hchat⟩ := hreceives.executes
  have hle := hsession.sessions.sequence hreceives.input hlater hrun.symm hepoch.symm hlt
  obtain ⟨r', c', hr', hc', -, hle', hbinding⟩ := hsession.sessions.binding hlater
  rw [hrun, hr] at hr'
  cases hr'
  rw [hc] at hc'
  cases hc'
  have hsame : later.nativeBindingGeneration = c.nativeBindingGeneration := by omega
  have hrunEq : r = target.run := Option.mem_unique hr hreceives.run
  refine h.complete k later r hlater haccepted ⟨r, c, hrun ▸ hr, hc, hepoch'.trans hepoch.symm, hactive, hcancel, hturn, ?_,
    hsame.symm, hchat⟩ (hrun ▸ hr) (hrunEq ▸ hreceives.ofConversation)
  rw [hid, hbinding hsame _ hid]

theorem readsLast_delivered (h : RecordInv conversationId s record) (hlatest : s.laterAccepted target.input = false) :
    ReadsLast (target :: record.receipts) (deliverContext target.input target.manifest target.conversation) := by
  refine ⟨by simp, fun latest earlier hreceipts => ?_⟩
  obtain ⟨rfl, -⟩ := List.cons.inj hreceipts
  refine ⟨target, mem_cons_self, ⟨rfl, rfl⟩, fun u hu hsame => ?_, rfl, rfl⟩
  obtain rfl | hu := mem_cons.1 hu
  · exact Nat.le_refl _
  obtain ⟨i, hi, haccepted, hinput⟩ := h.rows u hu
  have hno := Table.any_eq_false hlatest hi
  simp only [hinput.agentRunId, hinput.executionEpoch, hinput.inputSequence, hsame.1, hsame.2, haccepted, beq_self_eq_true,
    Bool.true_and, decide_eq_false_iff_not] at hno
  omega

theorem readsLast_overtaken (h : RecordInv conversationId s record) (hsession : SessionInv s) (halone : OneActiveRun s)
    (hreceives : Receives s conversationId a target) (hlater : s.laterAccepted target.input = true) :
    ReadsLast (target :: record.receipts) target.conversation := by
  obtain ⟨k, later, hfind, hp⟩ := Table.any_iff.1 hlater
  simp only [Bool.and_eq_true, beq_iff_eq, decide_eq_true_eq] at hp
  obtain ⟨⟨⟨hrun, hepoch⟩, haccepted⟩, hlt⟩ := hp
  obtain ⟨u, hu, huk⟩ := later_recorded h hsession hreceives hfind haccepted hrun hepoch hlt
  obtain ⟨i, hi, -, hinput⟩ := h.rows u hu
  rw [huk, hfind] at hi
  cases hi
  have hsame : SameExecution u target :=
    ⟨hinput.agentRunId.symm.trans hrun, hinput.executionEpoch.symm.trans hepoch⟩
  refine ⟨by simp, fun latest earlier hreceipts => ?_⟩
  obtain ⟨rfl, -⟩ := List.cons.inj hreceipts
  cases hrecord : record.receipts with
  | nil =>
    rw [hrecord] at hu
    cases hu
  | cons before rest =>
    -- The recorded execution is the one of this receipt.
    obtain ⟨r, hr, hconversation⟩ := h.runs u hu
    obtain ⟨r', c, hr', -, hepoch', hactive, -⟩ := hreceives.executes
    rw [hsame.1, hr'] at hr
    cases hr
    have hbefore : SameExecution u before :=
      h.latest before rest hrecord u hu r (hsame.1 ▸ hr') hactive (hepoch'.trans hsame.2.symm)
    have htarget : SameExecution target before := ⟨hsame.1.symm.trans hbefore.1, hsame.2.symm.trans hbefore.2⟩
    obtain ⟨t, ht, htsame, hlast, hcharter, hcollaboration⟩ :=
      (h.digests target.conversation hreceives.conversation).last before rest hrecord
    rw [← hrecord]
    refine ⟨t, mem_cons_of_mem _ ht, ⟨htsame.1.trans htarget.1.symm, htsame.2.trans htarget.2.symm⟩, ?_, hcharter,
      hcollaboration⟩
    intro v hv hvsame
    obtain rfl | hv := mem_cons.1 hv
    · have hle := hlast u hu hbefore
      rw [← hinput.inputSequence] at hle
      omega
    · exact hlast v hv ⟨hvsame.1.trans htarget.1, hvsame.2.trans htarget.2⟩

theorem recordInv_received (h : RecordInv conversationId s record) (hsession : SessionInv s)
    (halone : OneActiveRun s) (hreceipt : s.currentReceipt conversationId a = some target) :
    RecordInv conversationId (s.step a)
      ⟨target :: record.receipts, if s.laterAccepted target.input then record.read else target :: record.read⟩ := by
  have hreceives := receives_of_currentReceipt hreceipt
  have hafter : ∀ c', (s.step a).conversations.find? conversationId = some c' → c' =
      if s.laterAccepted target.input then target.conversation
      else deliverContext target.input target.manifest target.conversation := by
    intro c' hc'
    rw [hreceives.session] at hc'
    exact (Option.some.inj hc').symm
  refine { rows := ?_, runs := ?_, latest := ?_, complete := ?_, unbound := ?_, digests := ?_, workspaceFact := ?_
           absent := ?_ }
  · intro t ht
    obtain rfl | ht := mem_cons.1 ht
    · exact hreceives.accepted
    · exact rows_step h.rows t ht
  · intro t ht
    obtain rfl | ht := mem_cons.1 ht
    · obtain ⟨r', hr', hsame⟩ := step_run_conversation (a := a) hreceives.run
      exact ⟨r', hr', hsame.trans hreceives.ofConversation⟩
    · exact runs_step h.runs t ht
  · intro latest earlier hreceipts t ht r' hr' hactive hepoch
    obtain ⟨rfl, -⟩ := List.cons.inj hreceipts
    obtain rfl | ht := mem_cons.1 ht
    · exact ⟨rfl, rfl⟩
    obtain ⟨i, hi, -, hsame⟩ := h.rows t ht
    obtain ⟨r, hr, hactive', hepoch'⟩ := execution_before hsession hi hsame hr' hactive hepoch
    obtain ⟨r₁, hr₁, hconversation⟩ := h.runs t ht
    rw [hr] at hr₁
    cases hr₁
    exact hreceives.sameExecution halone hr hconversation hactive' hepoch'
  · intro k i r hi haccepted hexecutes hr hid
    obtain ⟨hi₀, hexecutes₀, r₀, hr₀, hid₀⟩ | ⟨target', hreceipt', hk⟩ :=
      accepted_before hsession hi haccepted hexecutes hr hid
    · obtain ⟨t, ht, htk⟩ := h.complete k i r₀ hi₀ haccepted hexecutes₀ hr₀ hid₀
      exact ⟨t, mem_cons_of_mem _ ht, htk⟩
    · rw [hreceipt] at hreceipt'
      cases hreceipt'
      exact ⟨target, mem_cons_self, hk⟩
  · intro c' hc' hunbound
    have hbound : c'.nativeBindingId = some target.input.nativeBindingId := by
      rw [hafter c' hc']
      split <;> exact hreceives.bound
    rw [hbound] at hunbound
    cases hunbound
  · intro c' hc'
    rw [hafter c' hc']
    cases hlater : s.laterAccepted target.input with
    | true => exact readsLast_overtaken h hsession halone hreceives hlater
    | false => exact readsLast_delivered h hlater
  · intro c' hc'
    have hfact := h.workspaceFact target.conversation hreceives.conversation
    rw [hafter c' hc']
    cases hlater : s.laterAccepted target.input with
    | true => exact hfact
    | false =>
      simp only [deliverContext, Bool.false_eq_true, if_false, findSome?_cons, hfact]
      cases target.manifest.workspaceFactDigest <;> rfl
  · intro habsent
    rw [hreceives.session] at habsent
    cases habsent

/-! ## Runs -/

theorem recordedInv_step (w : Store × SessionRecord) (a : Action) (h : RecordedInv conversationId w) :
    RecordedInv conversationId (recorded conversationId w a) := by
  refine ⟨(sessionInv_step w.1 a h.session).1, oneActiveRun_step w.1 a h.alone, ?_⟩
  unfold recorded SessionRecord.next
  dsimp only
  split
  · rename_i target hreceipt
    exact recordInv_received h.record h.session h.alone hreceipt
  · rename_i hnone
    split
    · exact recordInv_rebound h.record h.session hnone ‹_›
    rename_i hrebinds
    exact recordInv_kept h.record h.session hnone (by simpa using hrebinds)


theorem recordedInv_empty (conversationId : String) : RecordedInv conversationId (Store.empty, ⟨[], []⟩) := by
  have hconversations : ∀ k, Store.empty.conversations.find? k = none := fun k => rfl
  have hruns : ∀ k, Store.empty.runs.find? k = none := fun k => rfl
  have hinputs : ∀ k, Store.empty.inputs.find? k = none := fun k => rfl
  refine ⟨⟨NoInputs.registered ⟨rfl, rfl⟩, ⟨?_, ?_⟩, ⟨?_, ?_⟩⟩, ?_, ?_⟩
  · simp [hruns]
  · simp [hruns]
  · simp [hinputs]
  · simp [hinputs]
  · simp [OneActiveRun, hruns]
  · constructor <;> simp [hconversations, hinputs]

theorem recordedInv_run (conversationId : String) (as : List Action) :
    RecordedInv conversationId (Store.empty.run as, sessionRecord conversationId Store.empty as) := by
  have h := Runs.run_invariant (recorded conversationId) recordedInv_step as _ (recordedInv_empty conversationId)
  rwa [← recorded_run conversationId as Store.empty ⟨[], []⟩]

theorem delivered_step (s : Store) (a : Action) {c : Conversation} (hc : s.conversations.find? k = some c) :
    ∃ c', (s.step a).conversations.find? k = some c' ∧
      (c.lastAcceptedPublicBoundarySequence ≤ c'.lastAcceptedPublicBoundarySequence ∨
        c.kind = .singleChat ∧ ¬(SameBinding c c' ∧ c.nativeBindingId.isSome = true) ∧
          c'.lastAcceptedPublicBoundarySequence = 0) ∧
      ∀ version, c.missionDetailsDeliveredVersion = some version →
        ∃ version', c'.missionDetailsDeliveredVersion = some version' ∧ version ≤ version' := by
  obtain ⟨c', hc', hstep⟩ := (step_conversations s a).kept hc
  refine ⟨c', hc', ?_⟩
  cases hstep with
  | kept h => exact ⟨h.boundary.imp_left Eq.ge, fun version hversion => ⟨version, h.mission.trans hversion, Nat.le_refl _⟩⟩
  | delivered target =>
    refine ⟨.inl (Nat.le_max_left _ _), fun version hversion => ?_⟩
    simp only [deliverContext, hversion, Option.getD_some]
    cases target.manifest.missionDetailsVersion with
    | none => exact ⟨version, rfl, Nat.le_refl _⟩
    | some delivered => exact ⟨_, rfl, Nat.le_max_left _ _⟩

theorem dispatched_until_prepared {s : Store} {inputId runId runId' : String} {executionEpoch executionEpoch' : Nat}
    (bs : List Action) (h : (s.beginRuntimeInputDispatch inputId runId executionEpoch).1 = true)
    (hnot : Runs.AllSteps step (fun s a => s.preparesRow inputId a = false)
      (s.step (.beginRuntimeInputDispatch inputId runId executionEpoch)) bs) :
    (((s.step (.beginRuntimeInputDispatch inputId runId executionEpoch)).run bs).beginRuntimeInputDispatch inputId runId'
      executionEpoch').1 = false := by
  obtain ⟨i, -, -, hsent⟩ := begin_true h
  obtain ⟨i', hi', hstarted⟩ := Runs.run_invariant_of_allSteps
    (P := fun s => ∃ i, s.inputs.find? inputId = some i ∧ i.dispatchStarted = true) step
    (fun s a hok ⟨i, hi, hsent⟩ => dispatchStarted_step hi hsent hok) bs _ hnot ⟨_, hsent, rfl⟩
  obtain hno | ⟨j, hj, -, -, -, hnew, -⟩ := beginRuntimeInputDispatch_cases
    (s := (s.step (.beginRuntimeInputDispatch inputId runId executionEpoch)).run bs) inputId runId' executionEpoch'
  · rw [hno]
  have hi'' : ((s.step (.beginRuntimeInputDispatch inputId runId executionEpoch)).run bs).inputs.find? inputId = some i' := hi'
  rw [hi''] at hj
  cases hj
  rw [hstarted] at hnew
  cases hnew

/-- **Runtime input receipts**, in every state a run reaches: acceptances are final, a preparation is dispatched once, a late
receipt moves neither the conversation nor the Run, and what the session has read does not depend on the order of the
acknowledgements. -/
theorem inputReceipts_sound (as : List Action) :
    (∀ k i, (Store.empty.run as).inputs.find? k = some i → i.status = .accepted →
      ∀ bs, ∃ i', ((Store.empty.run as).run bs).inputs.find? k = some i' ∧ i'.status = .accepted ∧
        i'.nativeInputId = i.nativeInputId) ∧
    (∀ inputId runId runId' executionEpoch executionEpoch' bs,
      ((Store.empty.run as).beginRuntimeInputDispatch inputId runId executionEpoch).1 = true →
      Runs.AllSteps step (fun s a => s.preparesRow inputId a = false)
        ((Store.empty.run as).step (.beginRuntimeInputDispatch inputId runId executionEpoch)) bs →
      ((((Store.empty.run as).step (.beginRuntimeInputDispatch inputId runId executionEpoch)).run bs).beginRuntimeInputDispatch
        inputId runId' executionEpoch').1 = false) ∧
    (∀ deliveryId nativeInputId now resume receipt target s',
      (Store.empty.run as).loadDeliveryTarget deliveryId = some target →
      (Store.empty.run as).currentExecution target = false →
      (Store.empty.run as).acknowledgeInputDelivery deliveryId nativeInputId now resume = .ok (receipt, s') →
      s'.conversations = (Store.empty.run as).conversations ∧ s'.runs = (Store.empty.run as).runs) ∧
    (∀ a k c, (Store.empty.run as).conversations.find? k = some c →
      ∃ c', ((Store.empty.run as).step a).conversations.find? k = some c' ∧
        (c.lastAcceptedPublicBoundarySequence ≤ c'.lastAcceptedPublicBoundarySequence ∨
          c.kind = .singleChat ∧ ¬(SameBinding c c' ∧ c.nativeBindingId.isSome = true) ∧
            c'.lastAcceptedPublicBoundarySequence = 0) ∧
        ∀ version, c.missionDetailsDeliveredVersion = some version →
          ∃ version', c'.missionDetailsDeliveredVersion = some version' ∧ version ≤ version') ∧
    (∀ k c, (Store.empty.run as).conversations.find? k = some c → ReadsLast (sessionRecord k Store.empty as).receipts c ∧
      c.nativeWorkspaceFactDigest =
        (sessionRecord k Store.empty as).read.findSome? (fun t => t.manifest.workspaceFactDigest)) := by
  refine ⟨?_, ?_, ?_, ?_, ?_⟩
  · intro k i hi haccepted bs
    exact ⟨i, accepted_run bs hi haccepted, haccepted, rfl⟩
  · intro inputId runId runId' executionEpoch executionEpoch' bs h hnot
    exact dispatched_until_prepared bs h hnot
  · intro deliveryId nativeInputId now resume receipt target s' htarget hlate h
    exact late_acknowledgement htarget hlate h
  · intro a k c hc
    exact delivered_step _ a hc
  · intro k c hc
    have hrecord := (recordedInv_run k as).record
    exact ⟨hrecord.digests c hc, hrecord.workspaceFact c hc⟩

/-! ## Receipts that leave the order -/

def chatActions : List Action :=
  [.openConversation "camp" .singleChat ⟨"agent", "delivery", "conversation"⟩,
   .changeTurn ⟨"turn", .running, false, false, none⟩,
   .queueRun {
      id := "run", campId := "camp", campTurnId := some "turn", conversationId := "conversation"
      invocationKind := .singleChat, runtimeAdapterKind := none, inputReady := true, workspace := none, status := .queued
      waitReason := none, runtimeRecoveryRequired := false, runtimeRebindCount := 0, executionEpoch := 0, version := 1
      cancelRequested := false, cancelReasonCode := none, lastErrorCode := none, hasFinalOutput := false
      terminalResolutionSource := none, terminalReasonCode := none },
   claimOf 1, bindOf 1, .materializeContext { startManifest with campMessageBoundarySequence := 5 } 1, prepareOf 1 "first",
   .beginRuntimeInputDispatch "first" "run" 1, .acknowledgeInputDelivery "first" "native" 0 true,
   .settleInterruptedRun "run" "stop" false]

def steerManifest : ContextManifest :=
  ⟨"steer", "run", 1, 7, some "second delivery", "other charter", "other collaboration", none, none⟩

def steeredActions : List Action :=
  [.enqueueDeliveries "camp" .message [⟨"agent", "first delivery", "conversation"⟩],
   .claimWaitingDeliveryBatches 1
     [⟨"camp", "agent", "run", fun _ => true, fun _ => true, false, none, none, 10, none⟩],
   claimOf 1, bindOf 1, .materializeContext startManifest 1, prepareOf 1 "first",
   .beginRuntimeInputDispatch "first" "run" 1, .acknowledgeInputDelivery "first" "native" 0 true,
   .enqueueDeliveries "camp" .message [⟨"agent", "second delivery", "conversation"⟩],
   .routeUserMessage ["second delivery"] (fun _ => true), .materializeContext steerManifest 1,
   .prepareInputDelivery "run" 1 "steer" ⟨none, none, "second", none⟩, .beginRuntimeInputDispatch "second" "run" 1,
   .settleInterruptedRun "run" "stop" false, .acknowledgeInputDelivery "second" "other native" 1 true]

/-- A restarted Single Chat starts its boundary over, and the digests are not those of the last input that was accepted on the
binding when it was accepted late. -/
theorem inputReceipts_out_of_order :
    ((Store.empty.run chatActions).conversations.find? "conversation").map
        (fun c => c.lastAcceptedPublicBoundarySequence) = some 5 ∧
      ((Store.empty.run (chatActions ++ [.restartNativeSession ⟨.user, none⟩ "conversation" 4])).conversations.find?
        "conversation").map (fun c => c.lastAcceptedPublicBoundarySequence) = some 0 ∧
      ((Store.empty.run steeredActions).inputs.find? "second").map
        (fun i => (i.status, i.nativeBindingId, i.nativeBindingGeneration, i.inputSequence)) =
          some (.accepted, "binding", 1, 1) ∧
      ((Store.empty.run steeredActions).conversations.find? "conversation").map
        (fun c => (c.nativeBindingId, c.nativeBindingGeneration, c.nativeCharterDigest)) =
          some (some "binding", 1, some "charter") ∧
      steerManifest.charterDigest ≠ "charter" := by
  refine ⟨?_, ?_, ?_, ?_, ?_⟩ <;> decide

end Rovai.AgentRuns
