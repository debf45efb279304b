import RovaiCore.SingleChatOrder
/-!
# First in, first out, exactly once

What a client can rely on: what a send that is accepted becomes, what may happen to an input that waits, when it is published,
and which edits change nothing.
-/
namespace Rovai.SingleChat

open Tables (Table)
open Fallible
open ChatStore (messageOf isCancelled isUserMessage isActiveChatRun)

/-! ## A send -/

def ChatStore.composed (s : ChatStore) (conversationId clientId body : String) : Content :=
  let draft := s.drafts.find? (conversationId, clientId)
  ⟨trimmed body, (draft.map ComposerDraft.sourceAttachments).getD [], (draft.map ComposerDraft.quotes).getD []⟩

section
variable {s t : ChatStore}

theorem parseSourceAttachments_ok {refs refs' : List LocalAttachmentSourceRef} (h : parseSourceAttachments refs = .ok refs') :
    refs' = refs := by
  unfold parseSourceAttachments serializeSourceAttachments at h
  repeat' split at h
  all_goals cases h <;> rfl

theorem composed_of_loaded {conversationId clientId body : String} {revision : Nat} {refs : List LocalAttachmentSourceRef}
    {quotes : List MessageQuoteSnapshot} (hrefs : s.loadDraftRefs conversationId clientId = .ok (revision, refs))
    (hquotes : s.loadDraftQuotes conversationId clientId = .ok quotes) :
    s.composed conversationId clientId body = ⟨trimmed body, refs, quotes⟩ := by
  have hq := parseQuotes_ok hquotes
  unfold ChatStore.loadDraftRefs at hrefs
  unfold ChatStore.composed
  subst hq
  split at hrefs
  · rename_i hnone
    cases hrefs
    simp [hnone]
  · rename_i draft hdraft
    split at hrefs
    · cases hrefs
    rename_i hparsed
    cases hrefs
    simp [hdraft, parseSourceAttachments_ok hparsed]

inductive Sends (s : ChatStore) (command : SendSingleChatMessage) (ids : NewIds) (userId : String) :
    Reply → ChatStore → Prop
  | refused {reply : Reply} (hreply : ∀ w e, acceptance (.send w e command ids) (some reply) = none) :
      Sends s command ids userId reply s
  | atOnce {t : ChatStore} (target : AgentRuns.Conversation) (htarget : target.id = command.conversationId)
      (h : Admits s t ids target userId (s.composed command.conversationId command.draftClient command.body)) :
      Sends s command ids userId (.replyQueued ids.published) t
  | waits {t : ChatStore} (hfresh : s.pendingInputs.find? ids.pendingInputId = none)
      (hpending : t.pendingInputs = s.pendingInputs.insert (ChatStore.queuedPendingInput ids command.conversationId userId
        command.draftClient (s.nextEnqueueSequence command.conversationId)
        (s.composed command.conversationId command.draftClient command.body))) :
      Sends s command ids userId (.pendingInputQueued ids.pendingInputId) t

variable {command : SendSingleChatMessage} {reply : Reply} {ids : NewIds} {w : World}

theorem sends_sendContent {userId : String}
    {target : AgentRuns.Conversation} {content : Content} (htarget : target.id = command.conversationId)
    (hcontent : s.composed command.conversationId command.draftClient command.body = content)
    (h : s.sendContent w command ids userId target content = .ok (reply, t)) : Sends s command ids userId reply t := by
  unfold ChatStore.sendContent at h
  split at h
  · split at h
    · cases h
    rename_i queued hqueued
    split at h
    · cases h
    rename_i consumed hconsumed
    cases h
    obtain ⟨hfresh, rfl⟩ := enqueueInput_ok hqueued
    refine .waits hfresh ?_
    rw [(ChatStore.writeDraft_private hconsumed).pendingInputs, hcontent, htarget]
  · split at h
    · cases h
      exact .refused fun w e => rfl
    split at h
    · cases h
    rename_i hadmitted
    cases h
    refine .atOnce target htarget ?_
    rw [hcontent]
    exact (admitMessage_ok hadmitted).1

/-- **A send carries what its client has composed.** -/
theorem sends_send {e : Envelope} {userId : String}
    (hactor : e.actor = .user userId) (h : s.send w e command ids = .ok (reply, t)) :
    Sends s command ids userId reply t := by
  have hrefuse : ∀ code message, refuse s code message = .ok (reply, t) → Sends s command ids userId reply t := by
    intro code message h
    cases h
    exact .refused fun w e => rfl
  unfold ChatStore.send at h
  split at h
  · cases h
  rw [hactor] at h
  dsimp only at h
  split at h
  · exact hrefuse _ _ h
  rename_i target htarget
  have htarget := loadActiveTarget_id htarget
  split at h
  · exact hrefuse _ _ h
  split at h
  · exact hrefuse _ _ h
  unfold ChatStore.sendDraft at h
  split at h
  · cases h
  rename_i revision refs hrefs
  split at h
  · cases h
    exact .refused fun w e => rfl
  split at h
  · cases h
  rename_i quotes hquotes
  split at h
  · cases h
  split at h
  · exact hrefuse _ _ h
  split at h
  · cases h
  split at h
  · exact hrefuse _ _ h
  refine sends_sendContent htarget ?_ h
  rw [htarget] at hrefs hquotes
  exact composed_of_loaded hrefs hquotes

theorem send_actor {e : Envelope}
    (h : s.send w e command ids = .ok (reply, t)) :
    (∃ userId, e.actor = .user userId) ∨ t = s ∧ ∀ w e, acceptance (.send w e command ids) (some reply) = none := by
  unfold ChatStore.send at h
  split at h
  · cases h
  split at h
  · exact .inl ⟨_, ‹_›⟩
  cases h
  exact .inr ⟨rfl, fun w e => rfl⟩

end

structure SendIsOne (s : ChatStore) (w : World) (e : Envelope) (command : SendSingleChatMessage) (ids : NewIds) : Prop where
  atOnce : ∀ p, (s.perform (.send w e command ids)).1 = some (.replyQueued p) → ∃ userId, e.actor = .user userId ∧
    ∃ m, s.messages.find? p.conversationMessageId = none ∧ m.id = p.conversationMessageId ∧
      (s.perform (.send w e command ids)).2.messages = s.messages.insert m ∧ m.author = .user userId ∧
      m.conversationId = command.conversationId ∧ m.agentRunId = p.agentRunId ∧
      m.content = s.composed command.conversationId command.draftClient command.body ∧
    ∃ r, s.runtime.runs.find? p.agentRunId = none ∧ r.id = p.agentRunId ∧
      (s.perform (.send w e command ids)).2.runtime.runs = s.runtime.runs.insert r ∧ r.status = .queued ∧
      r.invocationKind = .singleChat ∧ r.conversationId = command.conversationId
  waits : ∀ id, (s.perform (.send w e command ids)).1 = some (.pendingInputQueued id) → ∃ userId, e.actor = .user userId ∧
    ∃ input, s.pendingInputs.find? id = none ∧ input.id = id ∧
      (s.perform (.send w e command ids)).2.pendingInputs = s.pendingInputs.insert input ∧ input.userId = userId ∧
      input.conversationId = command.conversationId ∧ input.state = .queued ∧
      input.content = s.composed command.conversationId command.draftClient command.body
  refused : acceptance (.send w e command ids) (s.perform (.send w e command ids)).1 = none →
    (s.perform (.send w e command ids)).2 = s

theorem sendIsOne (s : ChatStore) (w : World) (e : Envelope) (command : SendSingleChatMessage) (ids : NewIds) :
    SendIsOne s w e command ids := by
  obtain ⟨message, hsend⟩ | ⟨⟨reply, t⟩, hsend⟩ : (∃ m, s.send w e command ids = .error m) ∨ ∃ v, s.send w e command ids = .ok v := by
    cases s.send w e command ids with
    | error m => exact .inl ⟨m, rfl⟩
    | ok v => exact .inr ⟨v, rfl⟩
  · have hperform : s.perform (.send w e command ids) = (none, s) := by simp only [ChatStore.perform, hsend, ChatStore.committed]
    constructor
    all_goals rw [hperform]
    · rintro p h
      cases h
    · rintro id h
      cases h
    · exact fun _ => rfl
  have hperform : s.perform (.send w e command ids) = (some reply, t) := by
    simp [ChatStore.perform, hsend, ChatStore.committed]
  obtain ⟨userId, hactor⟩ | ⟨rfl, hnone⟩ := send_actor hsend
  · have hsends := sends_send hactor hsend
    constructor
    all_goals rw [hperform]
    · intro p hreply
      cases hreply
      cases hsends with
      | refused h => exact absurd (h w e) (by simp [acceptance])
      | atOnce target htarget h =>
        obtain ⟨runtime, hruns⟩ := h.runs
        exact ⟨userId, hactor, _, h.message_fresh, rfl, h.messages, rfl, htarget, rfl, rfl, _, h.run_fresh, rfl, hruns, rfl,
          rfl, htarget⟩
    · intro id hreply
      cases hreply
      cases hsends with
      | refused h => exact absurd (h w e) (by simp [acceptance])
      | waits hfresh hpending => exact ⟨userId, hactor, _, hfresh, rfl, hpending, rfl, rfl, rfl, rfl⟩
    · intro hrefused
      cases hsends with
      | refused => rfl
      | atOnce => cases hrefused
      | waits => cases hrefused
  · constructor
    all_goals rw [hperform]
    · rintro p h
      cases h
      exact absurd (hnone w e) (by simp [acceptance])
    · rintro id h
      cases h
      exact absurd (hnone w e) (by simp [acceptance])
    · exact fun _ => rfl

/-! ## An input that was accepted -/

/-- What a transaction may do with an input: what has left the queue stays as it is; what is in the queue keeps its place and
its content, but for a save of the open edit's owner; and it is published only whole, at the head of the queue, with no edit
open on it and no Run active. -/
structure InputIsKept (s : ChatStore) (a : Action) (t : ChatStore) (input : PendingInput) : Prop where
  kept : ∃ input', t.pendingInputs.find? input.id = some input' ∧ input'.conversationId = input.conversationId ∧
    input'.enqueueSequence = input.enqueueSequence ∧ (input' = input ∨ input.state.inQueue = true) ∧
    (input'.content = input.content ∨ SavedBy s a input input')
  published : ∀ input', t.pendingInputs.find? input.id = some input' → input'.state = .published → input.state ≠ .published →
    input'.content = input.content ∧ input.state = .queued ∧ s.editOpen input.id = false ∧
    s.hasActiveRun input.conversationId = false ∧
    (s.queueHead input.conversationId).map PendingInput.id = some input.id

section
variable {s t : ChatStore} {a : Action}

variable {input : PendingInput}

theorem InputIsKept.of_grows (h : s.pendingInputs.find? input.id = some input)
    (hpending : Table.Grows (Rewritten s a) (fun _ => False) s.pendingInputs t.pendingInputs) : InputIsKept s a t input := by
  obtain ⟨input', hinput', hrewritten⟩ := hpending.kept h
  refine ⟨⟨input', hinput', hrewritten.conversationId, hrewritten.enqueueSequence, hrewritten.inQueue, hrewritten.content⟩, ?_⟩
  intro other hother hstate hopen
  rw [hinput'] at hother
  cases hother
  refine absurd (input.published_iff.2 ?_) hopen
  rw [← hrewritten.published]
  exact input'.published_iff.1 hstate

theorem InputIsKept.of_found (h : t.pendingInputs.find? input.id = some input) :
    InputIsKept s a t input := by
  refine ⟨⟨input, h, rfl, rfl, .inl rfl, .inl rfl⟩, fun input' hinput' hstate hopen => ?_⟩
  rw [h] at hinput'
  cases hinput'
  exact absurd hstate hopen

/-- **No transaction loses an input, or publishes it out of turn.** -/
theorem inputIsKept {o : Option Accepted} (hchange : Change s a t o)
    (h : s.pendingInputs.find? input.id = some input) : InputIsKept s a t input := by
  cases hchange with
  | aside _ _ _ hpending => exact .of_grows h hpending
  | answered _ _ _ _ _ _ _ hpending =>
    refine .of_found ?_
    rw [hpending]
    exact h
  | queued _ _ _ _ _ _ _ _ _ hpending =>
    refine .of_found ?_
    rw [hpending]
    exact Table.find?_insert_of_found h _
  | sent _ _ _ _ _ _ _ hpending =>
    refine .of_found ?_
    rw [hpending]
    exact h
  | published command ids target head hhead hconversation hid htarget hready _ hpending =>
    by_cases hsame : input.id = head.id
    · rw [hsame, hhead] at h
      cases h
      have hnew := Table.find?_update_self hhead (ChatStore.publishedInput ids.published) fun _ => rfl
      rw [← hpending] at hnew
      simp only [ChatStore.readyToPublish, Bool.and_eq_true, Bool.not_eq_true', beq_iff_eq] at hready
      obtain ⟨⟨⟨⟨-, hstate⟩, hfirst⟩, hedit⟩, hidle⟩ := hready
      rw [hid] at hfirst hedit
      rw [htarget, ← hconversation] at hidle hfirst
      refine ⟨⟨_, hnew, rfl, rfl, .inr (by rw [hstate]; rfl), .inl rfl⟩, fun input' hinput' _ _ => ?_⟩
      rw [hnew] at hinput'
      cases hinput'
      exact ⟨rfl, hstate, hedit, hidle, hfirst⟩
    · refine .of_found ?_
      rw [hpending, Table.find?_update_of_ne s.pendingInputs hsame (ChatStore.publishedInput ids.published) fun _ => rfl]
      exact h

end

/-! ## A fenced edit -/

def PendingInputEditAction.ofOwner : PendingInputEditAction → Bool
  | .takeover | .save _ | .removeAttachment _ | .reorderAttachments _ | .quote _ | .cancel => true
  | .returnToComposer _ | .begin | .delete => false

def ChatStore.isFenced (s : ChatStore) (command : EditPendingInput) (input : PendingInput) : Prop :=
  input.revision ≠ command.expectedRevision ∨ input.state.inQueue = false ∨
    (∀ session, s.editSessions.find? command.conversationId = some session → session.owns command input.revision = false) ∧
      (command.action.ofOwner = true ∨
        ∃ session, s.editSessions.find? command.conversationId = some session ∧
          session.pendingInputId = command.pendingInputId)

variable {s : ChatStore}

theorem asOwner_fenced {session : Option EditSession} {message : String} {act : EditSession → Handled} :
    ∃ code message', s.asOwner session false message act = refuse s code message' := by
  unfold ChatStore.asOwner
  cases session with
  | none => exact ⟨_, _, rfl⟩
  | some session => exact ⟨_, _, rfl⟩

/-- **A fenced edit is refused.** -/
theorem editAction_fenced {w : World} {command : EditPendingInput} {input : PendingInput} {newId : String}
    (hsession : ∀ session, s.editSessions.find? command.conversationId = some session →
      session.owns command input.revision = false)
    (haction : command.action.ofOwner = true ∨ ∃ session, s.editSessions.find? command.conversationId = some session ∧
      session.pendingInputId = command.pendingInputId) :
    ∃ code message, s.editAction w command input (s.editSessions.find? command.conversationId)
      ((s.editSessions.find? command.conversationId).any (·.owns command input.revision)) newId = refuse s code message := by
  have howns : (s.editSessions.find? command.conversationId).any (·.owns command input.revision) = false := by
    cases hfound : s.editSessions.find? command.conversationId with
    | none => rfl
    | some session => exact hsession session hfound
  rw [howns]
  unfold ChatStore.editAction
  cases hact : command.action with
  | returnToComposer expectedDraftRevision =>
    rw [hact] at haction
    obtain h | ⟨session, hfound, hid⟩ := haction
    · cases h
    simp only [ChatStore.unlessFenced, hfound, Option.any_some, hid, beq_self_eq_true, Bool.not_false, Bool.and_self, if_true]
    exact ⟨_, _, rfl⟩
  | begin =>
    rw [hact] at haction
    obtain h | ⟨session, hfound, -⟩ := haction
    · cases h
    simp only [hfound, Option.isSome_some, if_true]
    exact ⟨_, _, rfl⟩
  | takeover => exact ⟨_, _, rfl⟩
  | cancel => exact ⟨_, _, rfl⟩
  | delete =>
    rw [hact] at haction
    obtain h | ⟨session, hfound, hid⟩ := haction
    · cases h
    simp only [ChatStore.unlessFenced, hfound, Option.any_some, hid, beq_self_eq_true, Bool.not_false, Bool.and_self, if_true]
    exact ⟨_, _, rfl⟩
  | _ => exact asOwner_fenced

theorem edit_fenced (w : World) (e : Envelope) {command : EditPendingInput} {input : PendingInput}
    (newId : String) (hinput : s.loadPendingInput command.conversationId command.pendingInputId = some input)
    (h : s.isFenced command input) : ∃ code message, s.perform (.editPendingInput w e command newId) =
      (some (.rejected code message), s) := by
  have hrefuse : ∀ code message, s.editPendingInput w e command newId = refuse s code message →
      ∃ code message, s.perform (.editPendingInput w e command newId) = (some (.rejected code message), s) := by
    intro code message hcode
    refine ⟨code, message, ?_⟩
    simp [ChatStore.perform, hcode, refuse, ChatStore.committed]
  unfold ChatStore.editPendingInput at hrefuse
  split at hrefuse
  swap
  · exact hrefuse _ _ rfl
  split at hrefuse
  · exact hrefuse _ _ rfl
  split at hrefuse
  · exact hrefuse _ _ rfl
  rw [hinput] at hrefuse
  dsimp only at hrefuse
  split at hrefuse
  · exact hrefuse _ _ rfl
  rename_i hcurrent
  obtain hrevision | hstate | ⟨hsession, haction⟩ := h
  · exact absurd (.inl hrevision) hcurrent
  · exact absurd (.inr hstate) hcurrent
  obtain ⟨code, message, hfenced⟩ := @editAction_fenced _ w _ _ newId hsession haction
  exact hrefuse code message hfenced

/-! ## The whole -/

structure ExactlyOnce (s : ChatStore) (log : List Accepted) : Prop where
  fate : ∀ e ∈ log, isCancelled s e = true ∧ messageOf s e = none ∨
    isCancelled s e = false ∧ (∃ m, messageOf s e = some m ∧ isUserMessage m = true ∧ m.conversationId = e.conversationId) ∨
    isCancelled s e = false ∧ messageOf s e = none ∧ ∃ conversationId id input, e = .queued conversationId id ∧
      s.pendingInputs.find? id = some input ∧ input.conversationId = conversationId ∧ input.state.inQueue = true
  send_of_message : ∀ id m, s.messages.find? id = some m → isUserMessage m = true → ∃! e, e ∈ log ∧ messageOf s e = some m
  run_of_message : ∀ id m, s.messages.find? id = some m → isUserMessage m = true →
    ∃ r, s.runtime.runs.find? m.agentRunId = some r ∧ r.invocationKind = .singleChat ∧ r.conversationId = m.conversationId
  message_of_run : ∀ k r, s.runtime.runs.find? k = some r → r.invocationKind = .singleChat →
    ∃! m, s.messages.find? m.id = some m ∧ isUserMessage m = true ∧ m.agentRunId = k
  published : ∀ id input p, s.pendingInputs.find? id = some input → input.published = some p → ∃ m, BecomesOne s input p m

theorem Fifo.exactlyOnce {log : List Accepted} (inv : Fifo s log) : ExactlyOnce s log where
  fate e he := by
    obtain hcancelled | ⟨m, hm⟩ | ⟨conversationId, id, input, rfl, hinput, hconversation, hqueue⟩ := inv.logged.fate he
    · refine .inl ⟨hcancelled, ?_⟩
      cases e with
      | sent => cases hcancelled
      | queued =>
        obtain ⟨input, hinput, hstate⟩ := (Option.any_eq_true _ _).1 hcancelled
        have hnone : input.published = none := by
          cases hp : input.published with
          | none => rfl
          | some p =>
            have hstate' := input.published_iff.2 (by rw [hp]; rfl)
            rw [beq_iff_eq.1 hstate] at hstate'
            cases hstate'
        rw [messageOf_queued hinput, hnone]
        rfl
    · refine .inr (.inl ⟨?_, m, hm, inv.logged.messageOf_user he hm⟩)
      cases e with
      | sent => rfl
      | queued =>
        obtain ⟨input, hinput, -⟩ := inv.logged.queued he
        rw [messageOf_queued hinput] at hm
        obtain ⟨p, hp, -⟩ := Option.bind_eq_some_iff.1 hm
        have hstate := input.published_iff.2 (by rw [hp]; rfl)
        simp [isCancelled, hinput, hstate]
    · refine .inr (.inr ⟨?_, ?_, conversationId, id, input, rfl, hinput, hconversation, hqueue⟩)
      · cases hstate : input.state with
        | queued => simp [isCancelled, hinput, hstate]
        | needsRepair => simp [isCancelled, hinput, hstate]
        | published => rw [hstate] at hqueue; cases hqueue
        | cancelled => rw [hstate] at hqueue; cases hqueue
      · rw [messageOf_queued hinput, PendingInput.published_eq_none hqueue]
        rfl
  send_of_message id m hm huser := by
    obtain ⟨e, he, hof⟩ := inv.logged.message_logged hm huser
    exact ⟨e, ⟨he, hof⟩, fun e' he' => inv.logged.once he'.1 he he'.2 hof⟩
  run_of_message id m hm huser := inv.runs.answers hm huser
  message_of_run k r hr hkind := by
    obtain ⟨m, hm, huser, hrun⟩ := inv.runs.answered hr hkind
    refine ⟨m, ⟨hm, huser, hrun⟩, ?_⟩
    rintro m' ⟨hm', huser', hrun'⟩
    have hid := inv.runs.once hm' hm huser' huser (hrun'.trans hrun.symm)
    rw [hid, hm] at hm'
    cases hm'
    rfl
  published id input p hinput hp := inv.logged.published hinput hp

/-- **The inputs of a Single Chat are first in, first out, and exactly once.** -/
theorem single_chat_fifo (as : List Action) :
    let t := System.initial.run as
    (∀ conversationId k k' r r', t.chat.runtime.runs.find? k = some r → t.chat.runtime.runs.find? k' = some r' →
      isActiveChatRun conversationId r = true → isActiveChatRun conversationId r' = true → k = k') ∧
    (ExactlyOnce t.chat t.accepted ∧
      (∀ w e command ids, SendIsOne t.chat w e command ids) ∧
      (∀ a id input, t.chat.pendingInputs.find? id = some input → InputIsKept t.chat a (t.step a).chat input)) ∧
    t.accepted.Pairwise (GoesFirst t.chat) ∧
    (∀ w e command newId input, t.chat.loadPendingInput command.conversationId command.pendingInputId = some input →
      t.chat.isFenced command input → ∃ code message,
        t.chat.perform (.editPendingInput w e command newId) = (some (.rejected code message), t.chat)) := by
  intro t
  have inv : Fifo t.chat t.accepted := fifo_run as
  refine ⟨fun conversationId k k' r r' hr hr' ha ha' => inv.runs.alone hr hr' ha ha',
    ⟨inv.exactlyOnce, fun w e command ids => sendIsOne t.chat w e command ids, fun a id input hinput => ?_⟩, inv.inOrder,
    fun w e command newId input hinput h => edit_fenced w e newId hinput h⟩
  exact inputIsKept (change_step t.chat a) (Table.find?_key hinput)

end Rovai.SingleChat
