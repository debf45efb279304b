import RovaiCore.SingleChatSteps
/-!
# The queue of a Single Chat

What holds of the Single Chats in every state of every run, and is carried over a transaction change by change: the Runs and
the messages that a user wrote belong together one to one, the messages of a conversation are numbered in the order in which
they are appended, an input that is published is one message with the content it had, and the sends that were accepted are
answered in their order.
-/
namespace Rovai.SingleChat

open Tables (Table)
open List
open AgentRuns (AgentRun)
open ChatStore (isActiveChatRun isUserMessage)

/-! ## Runs and messages -/

def SameUserMessages (s t : ChatStore) : Prop :=
  ∀ id m, isUserMessage m = true → (t.messages.find? id = some m ↔ s.messages.find? id = some m)

structure ChatRuns (s : ChatStore) : Prop where
  alone : ∀ {conversationId k k' r r'}, s.runtime.runs.find? k = some r → s.runtime.runs.find? k' = some r' →
    isActiveChatRun conversationId r = true → isActiveChatRun conversationId r' = true → k = k'
  answered : ∀ {k r}, s.runtime.runs.find? k = some r → r.invocationKind = .singleChat →
    ∃ m, s.messages.find? m.id = some m ∧ isUserMessage m = true ∧ m.agentRunId = k
  answers : ∀ {id m}, s.messages.find? id = some m → isUserMessage m = true →
    ∃ r, s.runtime.runs.find? m.agentRunId = some r ∧ r.invocationKind = .singleChat ∧ r.conversationId = m.conversationId
  once : ∀ {id id' m m'}, s.messages.find? id = some m → s.messages.find? id' = some m' → isUserMessage m = true →
    isUserMessage m' = true → m.agentRunId = m'.agentRunId → id = id'

theorem isActiveChatRun_iff {conversationId : String} {r : AgentRun} : isActiveChatRun conversationId r = true ↔
    r.conversationId = conversationId ∧ r.invocationKind = .singleChat ∧ AgentRuns.terminal r.status = false := by
  simp [isActiveChatRun, and_assoc]

theorem ChatRuns.empty : ChatRuns .empty where
  alone h := by cases h
  answered h := by cases h
  answers h := by cases h
  once h := by cases h

variable {s t : ChatStore}

theorem active_before {k conversationId : String} {r' : AgentRun} (hruns : RunsAside s.runtime t.runtime)
    (hr' : t.runtime.runs.find? k = some r') (hactive : isActiveChatRun conversationId r' = true) :
    ∃ r, s.runtime.runs.find? k = some r ∧ isActiveChatRun conversationId r = true := by
  obtain ⟨hconversation, hkind, hopen⟩ := isActiveChatRun_iff.1 hactive
  obtain ⟨r, hr, hstays⟩ | ⟨-, hother⟩ := hruns.origin hr'
  · refine ⟨r, hr, isActiveChatRun_iff.2 ⟨hstays.conversationId ▸ hconversation, hstays.invocationKind ▸ hkind, ?_⟩⟩
    cases hended : AgentRuns.terminal r.status with
    | false => rfl
    | true => rw [hstays.ended hended] at hopen; cases hopen
  · exact absurd hkind hother

theorem ChatRuns.aside (h : ChatRuns s) (hruns : RunsAside s.runtime t.runtime) (hmessages : SameUserMessages s t) :
    ChatRuns t where
  alone hr hr' ha ha' := by
    obtain ⟨r, hr, ha⟩ := active_before hruns hr ha
    obtain ⟨r', hr', ha'⟩ := active_before hruns hr' ha'
    exact h.alone hr hr' ha ha'
  answered hr hkind := by
    obtain ⟨r, hr, hstays⟩ | ⟨-, hother⟩ := hruns.origin hr
    · obtain ⟨m, hm, huser, hrun⟩ := h.answered hr (hstays.invocationKind ▸ hkind)
      exact ⟨m, (hmessages _ _ huser).2 hm, huser, hrun⟩
    · exact absurd hkind hother
  answers hm huser := by
    obtain ⟨r, hr, hkind, hconversation⟩ := h.answers ((hmessages _ _ huser).1 hm) huser
    obtain ⟨r', hr', hstays⟩ := hruns.kept hr
    exact ⟨r', hr', hstays.invocationKind.trans hkind, hstays.conversationId.trans hconversation⟩
  once hm hm' huser huser' hrun :=
    h.once ((hmessages _ _ huser).1 hm) ((hmessages _ _ huser').1 hm') huser huser' hrun

section
variable {ids : NewIds} {target : AgentRuns.Conversation} {userId : String} {content : Content}

theorem Admits.run_cases (h : Admits s t ids target userId content) {k : String} {r : AgentRun}
    (hr : t.runtime.runs.find? k = some r) :
    s.runtime.runs.find? k = some r ∨ k = ids.agentRunId ∧ r.conversationId = target.id ∧ r.invocationKind = .singleChat := by
  obtain ⟨runtime, hruns⟩ := h.runs
  rw [hruns] at hr
  obtain hold | ⟨rfl, rfl, -⟩ := Table.insert_cases hr
  · exact .inl hold
  · exact .inr ⟨rfl, rfl, rfl⟩

theorem Admits.run_new (h : Admits s t ids target userId content) : ∃ r, t.runtime.runs.find? ids.agentRunId = some r ∧
    r.invocationKind = .singleChat ∧ r.conversationId = target.id := by
  obtain ⟨runtime, hruns⟩ := h.runs
  refine ⟨ChatStore.chatRun ids target runtime, ?_, rfl, rfl⟩
  rw [hruns, Table.find?_insert h.run_fresh]
  exact if_pos rfl

theorem Admits.run_old (h : Admits s t ids target userId content) {k : String} {r : AgentRun}
    (hr : s.runtime.runs.find? k = some r) : t.runtime.runs.find? k = some r := by
  obtain ⟨runtime, hruns⟩ := h.runs
  rw [hruns]
  exact Table.find?_insert_of_found hr _

theorem Admits.message (h : Admits s t ids target userId content) (id : String) : t.messages.find? id =
    if id = ids.conversationMessageId then
      some (ChatStore.userMessage ids target.id userId (s.lastMessageSequence target.id + 1) content)
    else s.messages.find? id := by
  rw [h.messages, Table.find?_insert h.message_fresh]
  rfl

theorem Admits.message_cases (h : Admits s t ids target userId content) {id : String} {m : ConversationMessage}
    (hm : t.messages.find? id = some m) : (id ≠ ids.conversationMessageId ∧ s.messages.find? id = some m) ∨
      id = ids.conversationMessageId ∧
        m = ChatStore.userMessage ids target.id userId (s.lastMessageSequence target.id + 1) content := by
  rw [h.message] at hm
  split at hm
  · cases hm
    exact .inr ⟨‹_›, rfl⟩
  · exact .inl ⟨‹_›, hm⟩

theorem Admits.message_old (h : Admits s t ids target userId content) {id : String} {m : ConversationMessage}
    (hm : s.messages.find? id = some m) : t.messages.find? id = some m := by
  rw [h.messages]
  exact Table.find?_insert_of_found hm _

/-- **An admission into a conversation without an active Run** adds one message and its Run. -/
theorem ChatRuns.admits (inv : ChatRuns s) (hidle : s.hasActiveRun target.id = false)
    (h : Admits s t ids target userId content) : ChatRuns t where
  alone := by
    have hnone : ∀ {conversationId k r}, s.runtime.runs.find? k = some r → isActiveChatRun conversationId r = true →
        conversationId ≠ target.id := by
      rintro conversationId k r hr hactive rfl
      have := Table.any_eq_false hidle hr
      rw [hactive] at this
      cases this
    intro conversationId k k' r r' hr hr' ha ha'
    obtain hold | ⟨rfl, hconversation, -⟩ := h.run_cases hr
    · obtain hold' | ⟨rfl, hconversation, -⟩ := h.run_cases hr'
      · exact inv.alone hold hold' ha ha'
      · exact absurd ((isActiveChatRun_iff.1 ha').1.symm.trans hconversation) (hnone hold ha)
    · obtain hold' | ⟨rfl, -, -⟩ := h.run_cases hr'
      · exact absurd ((isActiveChatRun_iff.1 ha).1.symm.trans hconversation) (hnone hold' ha')
      · rfl
  answered hr hkind := by
    obtain hold | ⟨rfl, -, -⟩ := h.run_cases hr
    · obtain ⟨m, hm, huser, hrun⟩ := inv.answered hold hkind
      exact ⟨m, h.message_old hm, huser, hrun⟩
    · exact ⟨ChatStore.userMessage ids target.id userId (s.lastMessageSequence target.id + 1) content,
        by rw [h.message]; exact if_pos rfl, rfl, rfl⟩
  answers hm huser := by
    obtain ⟨-, hold⟩ | ⟨-, rfl⟩ := h.message_cases hm
    · obtain ⟨r, hr, hkind⟩ := inv.answers hold huser
      exact ⟨r, h.run_old hr, hkind⟩
    · exact h.run_new
  once {id id' m m'} hm hm' huser huser' hrun := by
    have hold_ne : ∀ {id m}, s.messages.find? id = some m → isUserMessage m = true → m.agentRunId ≠ ids.agentRunId := by
      intro id m hm huser heq
      obtain ⟨r, hr, -⟩ := inv.answers hm huser
      rw [heq, h.run_fresh] at hr
      cases hr
    obtain ⟨-, hold⟩ | ⟨rfl, rfl⟩ := h.message_cases hm
    · obtain ⟨-, hold'⟩ | ⟨-, rfl⟩ := h.message_cases hm'
      · exact inv.once hold hold' huser huser' hrun
      · exact absurd hrun (hold_ne hold huser)
    · obtain ⟨-, hold'⟩ | ⟨rfl, -⟩ := h.message_cases hm'
      · exact absurd hrun.symm (hold_ne hold' huser')
      · rfl

end

/-! ## Numbers -/

structure Numbered (s : ChatStore) : Prop where
  le_last : ∀ {id m}, s.messages.find? id = some m → m.sequence ≤ s.lastMessageSequence m.conversationId
  unique : ∀ {id id' m m'}, s.messages.find? id = some m → s.messages.find? id' = some m' →
    m.conversationId = m'.conversationId → m.sequence = m'.sequence → id = id'

theorem Numbered.empty : Numbered .empty where
  le_last h := by cases h
  unique h := by cases h

theorem Numbered.insert (h : Numbered s) {message : ConversationMessage} (hfresh : s.messages.find? message.id = none)
    (hlast : message.sequence = s.lastMessageSequence message.conversationId + 1)
    (hmessages : t.messages = s.messages.insert message)
    (hsequence : t.lastMessageSequence = Function.update s.lastMessageSequence message.conversationId
      (s.lastMessageSequence message.conversationId + 1)) : Numbered t := by
  have hcases : ∀ {id m}, t.messages.find? id = some m → s.messages.find? id = some m ∨ m = message ∧ id = message.id := by
    intro id m hm
    rw [hmessages] at hm
    obtain hold | ⟨rfl, hid, -⟩ := Table.insert_cases hm
    · exact .inl hold
    · exact .inr ⟨rfl, hid⟩
  have hgrown : ∀ conversationId, s.lastMessageSequence conversationId ≤ t.lastMessageSequence conversationId := by
    intro conversationId
    rw [hsequence]
    by_cases hc : conversationId = message.conversationId
    · subst hc
      rw [Function.update_self]
      omega
    · rw [Function.update_of_ne hc]
  constructor
  · intro id m hm
    obtain hold | ⟨rfl, -⟩ := hcases hm
    · exact (h.le_last hold).trans (hgrown _)
    · rw [hsequence, Function.update_self, hlast]
  · intro id id' m m' hm hm' hconversation hseq
    obtain hold | ⟨rfl, rfl⟩ := hcases hm
    · obtain hold' | ⟨rfl, rfl⟩ := hcases hm'
      · exact h.unique hold hold' hconversation hseq
      have := h.le_last hold
      rw [hconversation] at this
      omega
    · obtain hold' | ⟨rfl, rfl⟩ := hcases hm'
      · have := h.le_last hold'
        rw [← hconversation] at this
        omega
      · rfl

theorem Numbered.of_eq (h : Numbered s) (hmessages : t.messages = s.messages)
    (hsequence : t.lastMessageSequence = s.lastMessageSequence) : Numbered t where
  le_last hm := by
    rw [hmessages] at hm
    rw [hsequence]
    exact h.le_last hm
  unique hm hm' := by
    rw [hmessages] at hm hm'
    exact h.unique hm hm'

/-! ## Accepted sends -/

open ChatStore (messageOf isCancelled)

structure BecomesOne (s : ChatStore) (input : PendingInput) (p : Published) (m : ConversationMessage) : Prop where
  found : s.messages.find? p.conversationMessageId = some m
  user : m.author = .user input.userId
  conversationId : m.conversationId = input.conversationId
  content : m.content = input.content
  agentRunId : m.agentRunId = p.agentRunId
  campTurnId : m.campTurnId = some p.campTurnId

structure Logged (s : ChatStore) (log : List Accepted) : Prop where
  nodup : log.Nodup
  sent : ∀ {conversationId id}, .sent conversationId id ∈ log →
    ∃ m, s.messages.find? id = some m ∧ isUserMessage m = true ∧ m.conversationId = conversationId
  queued : ∀ {conversationId id}, .queued conversationId id ∈ log →
    ∃ input, s.pendingInputs.find? id = some input ∧ input.conversationId = conversationId
  input_logged : ∀ {id input}, s.pendingInputs.find? id = some input → .queued input.conversationId id ∈ log
  published : ∀ {id input p}, s.pendingInputs.find? id = some input → input.published = some p → ∃ m, BecomesOne s input p m
  message_logged : ∀ {id m}, s.messages.find? id = some m → isUserMessage m = true → ∃ e ∈ log, messageOf s e = some m
  once : ∀ {e e' m}, e ∈ log → e' ∈ log → messageOf s e = some m → messageOf s e' = some m → e = e'

theorem Logged.empty : Logged .empty [] where
  nodup := nodup_nil
  sent h := by cases h
  queued h := by cases h
  input_logged h := by cases h
  published h := by cases h
  message_logged h := by cases h
  once h := by cases h

theorem Logged.messageOf_user {log : List Accepted} (h : Logged s log) {e : Accepted} {m : ConversationMessage}
    (he : e ∈ log) (hm : messageOf s e = some m) : isUserMessage m = true ∧ m.conversationId = e.conversationId := by
  cases e with
  | sent =>
    obtain ⟨m', hm', huser, hconversation⟩ := h.sent he
    simp only [messageOf] at hm
    rw [hm'] at hm
    cases hm
    exact ⟨huser, hconversation⟩
  | queued conversationId =>
    obtain ⟨input, hinput, hconversation⟩ := h.queued he
    simp only [messageOf, hinput, Option.bind_some] at hm
    cases hp : input.published with
    | none => simp [hp] at hm
    | some p =>
      obtain ⟨m', hm'⟩ := h.published hinput hp
      simp only [hp, Option.bind_some, hm'.found] at hm
      cases hm
      exact ⟨by simp [isUserMessage, hm'.user], hm'.conversationId.trans hconversation⟩

theorem messageOf_queued {id conversationId : String} {input : PendingInput} (h : s.pendingInputs.find? id = some input) :
    messageOf s (.queued conversationId id) = input.published.bind (fun p => s.messages.find? p.conversationMessageId) := by
  simp [messageOf, h]

theorem Logged.fate {log : List Accepted} (h : Logged s log) {e : Accepted} (he : e ∈ log) :
    isCancelled s e = true ∨ (∃ m, messageOf s e = some m) ∨
      ∃ conversationId id input, e = .queued conversationId id ∧ s.pendingInputs.find? id = some input ∧
        input.conversationId = conversationId ∧ input.state.inQueue = true := by
  cases e with
  | sent =>
    obtain ⟨m, hm, -⟩ := h.sent he
    exact .inr (.inl ⟨m, hm⟩)
  | queued conversationId id =>
    obtain ⟨input, hinput, hconversation⟩ := h.queued he
    cases hstate : input.state with
    | queued => exact .inr (.inr ⟨conversationId, id, input, rfl, hinput, hconversation, by rw [hstate]; rfl⟩)
    | needsRepair => exact .inr (.inr ⟨conversationId, id, input, rfl, hinput, hconversation, by rw [hstate]; rfl⟩)
    | cancelled => exact .inl (by simp [isCancelled, hinput, hstate])
    | published =>
      obtain ⟨p, hp⟩ := Option.isSome_iff_exists.1 (input.published_iff.1 hstate)
      obtain ⟨m, hm⟩ := h.published hinput hp
      exact .inr (.inl ⟨m, by rw [messageOf_queued hinput, hp]; exact hm.found⟩)

section
variable {log : List Accepted} {a : Action}

variable {e : Accepted}

theorem Logged.messageOf_aside (h : Logged s log) (hmessages : SameUserMessages s t)
    (hpending : Table.Grows (Rewritten s a) (fun _ => False) s.pendingInputs t.pendingInputs) (he : e ∈ log) :
    messageOf t e = messageOf s e := by
  cases e with
  | sent conversationId id =>
    obtain ⟨m, hm, huser, -⟩ := h.sent he
    exact ((hmessages id m huser).2 hm).trans hm.symm
  | queued =>
    obtain ⟨input, hinput, -⟩ := h.queued he
    obtain ⟨input', hinput', hrewritten⟩ := hpending.kept hinput
    rw [messageOf_queued hinput, messageOf_queued hinput', hrewritten.published]
    cases hp : input.published with
    | none => rfl
    | some p =>
      obtain ⟨m, hm⟩ := h.published hinput hp
      have huser : isUserMessage m = true := by simp [isUserMessage, hm.user]
      exact ((hmessages _ m huser).2 hm.found).trans hm.found.symm

theorem Logged.aside (h : Logged s log) (hmessages : SameUserMessages s t)
    (hpending : Table.Grows (Rewritten s a) (fun _ => False) s.pendingInputs t.pendingInputs) : Logged t log where
  nodup := h.nodup
  sent he := by
    obtain ⟨m, hm, huser, hconversation⟩ := h.sent he
    exact ⟨m, (hmessages _ m huser).2 hm, huser, hconversation⟩
  queued he := by
    obtain ⟨input, hinput, hconversation⟩ := h.queued he
    obtain ⟨input', hinput', hrewritten⟩ := hpending.kept hinput
    exact ⟨input', hinput', hrewritten.conversationId.trans hconversation⟩
  input_logged hinput' := by
    obtain ⟨input, hinput, hrewritten⟩ | ⟨-, hfalse⟩ := hpending.origin hinput'
    · rw [hrewritten.conversationId]
      exact h.input_logged hinput
    · cases hfalse
  published hinput' hp := by
    obtain ⟨input, hinput, hrewritten⟩ | ⟨-, hfalse⟩ := hpending.origin hinput'
    · rw [hrewritten.published] at hp
      obtain ⟨m, hm⟩ := h.published hinput hp
      have huser : isUserMessage m = true := by simp [isUserMessage, hm.user]
      -- An input that was published is not in its queue, so it is the one it was.
      obtain rfl | hqueue := hrewritten.inQueue
      · exact ⟨m, (hmessages _ m huser).2 hm.found, hm.user, hm.conversationId, hm.content, hm.agentRunId, hm.campTurnId⟩
      rw [PendingInput.published_eq_none hqueue] at hp
      cases hp
    · cases hfalse
  message_logged hm huser := by
    obtain ⟨e, he, hof⟩ := h.message_logged ((hmessages _ _ huser).1 hm) huser
    exact ⟨e, he, (h.messageOf_aside hmessages hpending he).trans hof⟩
  once he he' hm hm' := by
    rw [h.messageOf_aside hmessages hpending he] at hm
    rw [h.messageOf_aside hmessages hpending he'] at hm'
    exact h.once he he' hm hm'

variable {input : PendingInput}

theorem BecomesOne.kept {p : Published} {m : ConversationMessage} (h : BecomesOne s input p m)
    (hm : t.messages.find? p.conversationMessageId = some m) : BecomesOne t input p m :=
  ⟨hm, h.user, h.conversationId, h.content, h.agentRunId, h.campTurnId⟩

theorem Logged.enqueue (h : Logged s log) (hfresh : s.pendingInputs.find? input.id = none)
    (hpublished : input.published = none) (hmessages : t.messages = s.messages)
    (hpending : t.pendingInputs = s.pendingInputs.insert input) :
    Logged t (log ++ [.queued input.conversationId input.id]) ∧ (∀ e ∈ log, messageOf t e = messageOf s e) ∧
      messageOf t (.queued input.conversationId input.id) = none := by
  have hnew : t.pendingInputs.find? input.id = some input := by
    rw [hpending, Table.find?_insert hfresh, if_pos rfl]
  have hold : ∀ {id input'}, s.pendingInputs.find? id = some input' → t.pendingInputs.find? id = some input' := by
    intro id input' hinput'
    rw [hpending]
    exact Table.find?_insert_of_found hinput' input
  have hcases : ∀ {id input'}, t.pendingInputs.find? id = some input' →
      s.pendingInputs.find? id = some input' ∨ input' = input ∧ id = input.id := by
    intro id input' hinput'
    rw [hpending] at hinput'
    obtain hinput' | ⟨rfl, hid, -⟩ := Table.insert_cases hinput'
    · exact .inl hinput'
    · exact .inr ⟨rfl, hid⟩
  have hnotin : ∀ conversationId, Accepted.queued conversationId input.id ∉ log := by
    intro conversationId hmem
    obtain ⟨other, hother, -⟩ := h.queued hmem
    rw [hfresh] at hother
    cases hother
  have hof : ∀ e ∈ log, messageOf t e = messageOf s e := by
    intro e he
    cases e with
    | sent => simp [messageOf, hmessages]
    | queued =>
      obtain ⟨input', hinput', -⟩ := h.queued he
      rw [messageOf_queued hinput', messageOf_queued (hold hinput'), hmessages]
  have hnone : messageOf t (.queued input.conversationId input.id) = none := by
    rw [messageOf_queued hnew, hpublished]
    rfl
  refine ⟨?_, hof, hnone⟩
  constructor
  · exact nodup_append.2 ⟨h.nodup, nodup_singleton _, by
      rintro e he _ hnew rfl
      rw [mem_singleton] at hnew
      exact hnotin _ (hnew ▸ he)⟩
  · intro conversationId id he
    rw [hmessages]
    obtain he | he := mem_append.1 he
    · exact h.sent he
    · simp at he
  · intro conversationId id he
    obtain he | he := mem_append.1 he
    · obtain ⟨input', hinput', hconversation⟩ := h.queued he
      exact ⟨input', hold hinput', hconversation⟩
    · simp only [mem_singleton, Accepted.queued.injEq] at he
      exact ⟨input, by rw [he.2]; exact hnew, he.1.symm⟩
  · intro id input' hinput'
    obtain hinput' | ⟨rfl, rfl⟩ := hcases hinput'
    · exact mem_append_left _ (h.input_logged hinput')
    · exact mem_append_right _ (mem_singleton_self _)
  · intro id input' p hinput' hp
    obtain hinput' | ⟨rfl, rfl⟩ := hcases hinput'
    · obtain ⟨m, hm⟩ := h.published hinput' hp
      exact ⟨m, hm.kept (by rw [hmessages]; exact hm.found)⟩
    · rw [hpublished] at hp
      cases hp
  · intro id m hm huser
    rw [hmessages] at hm
    obtain ⟨e, he, hm⟩ := h.message_logged hm huser
    exact ⟨e, mem_append_left _ he, (hof e he).trans hm⟩
  · intro e e' m he he' hm hm'
    obtain he | he := mem_append.1 he
    · obtain he' | he' := mem_append.1 he'
      · exact h.once he he' ((hof e he).symm.trans hm) ((hof e' he').symm.trans hm')
      rw [mem_singleton.1 he', hnone] at hm'
      cases hm'
    · rw [mem_singleton.1 he, hnone] at hm
      cases hm

variable {ids : NewIds} {target : AgentRuns.Conversation} {userId : String} {content : Content}

theorem messageOf_fresh {m : ConversationMessage} (h : Admits s t ids target userId content)
    (hm : messageOf s e = some m) : m.id ≠ ids.conversationMessageId := by
  have hfound : ∃ id, s.messages.find? id = some m := by
    cases e with
    | sent conversationId id => exact ⟨id, hm⟩
    | queued =>
      obtain ⟨p, -, hp⟩ := Option.bind_eq_some_iff.1 hm
      exact ⟨p.conversationMessageId, hp⟩
  obtain ⟨id, hid⟩ := hfound
  intro heq
  have hfresh := h.message_fresh
  rw [← heq, Table.find?_key hid] at hfresh
  cases hfresh

theorem Logged.messageOf_admits (inv : Logged s log) (h : Admits s t ids target userId content) (he : e ∈ log)
    (hsame : ∀ conversationId id, e = .queued conversationId id →
      (t.pendingInputs.find? id).bind PendingInput.published = (s.pendingInputs.find? id).bind PendingInput.published) :
    messageOf t e = messageOf s e := by
  cases e with
  | sent =>
    obtain ⟨m, hm, -⟩ := inv.sent he
    exact (h.message_old hm).trans hm.symm
  | queued conversationId id =>
    obtain ⟨input, hinput, -⟩ := inv.queued he
    simp only [messageOf, hsame conversationId id rfl]
    rw [hinput, Option.bind_some]
    cases hp : input.published with
    | none => rfl
    | some p =>
      obtain ⟨m, hm⟩ := inv.published hinput hp
      exact (h.message_old hm.found).trans hm.found.symm

/-- **A send that is admitted at once** is logged with its message. -/
theorem Logged.send (inv : Logged s log) (h : Admits s t ids target userId content)
    (hpending : t.pendingInputs = s.pendingInputs) :
    Logged t (log ++ [.sent target.id ids.conversationMessageId]) ∧ (∀ e ∈ log, messageOf t e = messageOf s e) ∧
      messageOf t (.sent target.id ids.conversationMessageId) =
        some (ChatStore.userMessage ids target.id userId (s.lastMessageSequence target.id + 1) content) := by
  have hnew : messageOf t (.sent target.id ids.conversationMessageId) =
      some (ChatStore.userMessage ids target.id userId (s.lastMessageSequence target.id + 1) content) := by
    simp only [messageOf]
    rw [h.message]
    exact if_pos rfl
  have hof : ∀ e ∈ log, messageOf t e = messageOf s e := fun e he =>
    inv.messageOf_admits h he fun _ _ _ => by rw [hpending]
  have hnotin : Accepted.sent target.id ids.conversationMessageId ∉ log := by
    intro hmem
    obtain ⟨m, hm, -⟩ := inv.sent hmem
    rw [h.message_fresh] at hm
    cases hm
  refine ⟨?_, hof, hnew⟩
  constructor
  · exact nodup_append.2 ⟨inv.nodup, nodup_singleton _, by
      rintro e he _ hmem rfl
      rw [mem_singleton] at hmem
      exact hnotin (hmem ▸ he)⟩
  · intro conversationId id he
    obtain he | he := mem_append.1 he
    · obtain ⟨m, hm, huser, hconversation⟩ := inv.sent he
      exact ⟨m, h.message_old hm, huser, hconversation⟩
    · simp only [mem_singleton, Accepted.sent.injEq] at he
      obtain ⟨rfl, rfl⟩ := he
      exact ⟨_, hnew, rfl, rfl⟩
  · intro conversationId id he
    rw [hpending]
    obtain he | he := mem_append.1 he
    · exact inv.queued he
    · simp at he
  · intro id input hinput
    rw [hpending] at hinput
    exact mem_append_left _ (inv.input_logged hinput)
  · intro id input p hinput hp
    rw [hpending] at hinput
    obtain ⟨m, hm⟩ := inv.published hinput hp
    exact ⟨m, hm.kept (h.message_old hm.found)⟩
  · intro id m hm huser
    obtain ⟨-, hold⟩ | ⟨rfl, rfl⟩ := h.message_cases hm
    · obtain ⟨e, he, hm⟩ := inv.message_logged hold huser
      exact ⟨e, mem_append_left _ he, (hof e he).trans hm⟩
    · exact ⟨_, mem_append_right _ (mem_singleton_self _), hnew⟩
  · intro e e' m he he' hm hm'
    obtain he | he := mem_append.1 he
    · rw [hof e he] at hm
      obtain he' | he' := mem_append.1 he'
      · exact inv.once he he' hm ((hof e' he').symm.trans hm')
      rw [mem_singleton.1 he', hnew] at hm'
      cases hm'
      exact absurd rfl (messageOf_fresh h hm)
    · obtain he' | he' := mem_append.1 he'
      · rw [mem_singleton.1 he, hnew] at hm
        cases hm
        rw [hof e' he'] at hm'
        exact absurd rfl (messageOf_fresh h hm')
      · rw [mem_singleton.1 he, mem_singleton.1 he']

/-- **An input that is published** has its message, and every other send the one it had. -/
theorem Logged.publish (inv : Logged s log) (hinput : s.pendingInputs.find? input.id = some input)
    (hnone : input.published = none) (hconversation : input.conversationId = target.id)
    (h : Admits s t ids target input.userId input.content)
    (hpending : t.pendingInputs = s.pendingInputs.update input.id (ChatStore.publishedInput ids.published)) :
    Logged t log ∧
      (∀ e ∈ log, e ≠ .queued input.conversationId input.id → messageOf t e = messageOf s e) ∧
      messageOf t (.queued input.conversationId input.id) = some (ChatStore.userMessage ids target.id input.userId
        (s.lastMessageSequence target.id + 1) input.content) := by
  have hinput' : t.pendingInputs.find? input.id = some (ChatStore.publishedInput ids.published input) := by
    rw [hpending]
    exact Table.find?_update_self hinput (ChatStore.publishedInput ids.published) fun _ => rfl
  have hother : ∀ {id}, id ≠ input.id → t.pendingInputs.find? id = s.pendingInputs.find? id := by
    intro id hid
    rw [hpending]
    exact Table.find?_update_of_ne s.pendingInputs hid (ChatStore.publishedInput ids.published) fun _ => rfl
  have hmessage := h.message ids.conversationMessageId
  rw [if_pos rfl] at hmessage
  have hnew : messageOf t (.queued input.conversationId input.id) = some (ChatStore.userMessage ids target.id input.userId
      (s.lastMessageSequence target.id + 1) input.content) := by
    rw [messageOf_queued hinput']
    exact hmessage
  have hlogged : Accepted.queued input.conversationId input.id ∈ log := inv.input_logged hinput
  have hid_ne : ∀ {conversationId id}, Accepted.queued conversationId id ∈ log →
      Accepted.queued conversationId id ≠ .queued input.conversationId input.id → id ≠ input.id := by
    rintro conversationId id he hne rfl
    obtain ⟨other, hother, rfl⟩ := inv.queued he
    rw [hinput] at hother
    cases hother
    exact hne rfl
  have hof : ∀ e ∈ log, e ≠ .queued input.conversationId input.id → messageOf t e = messageOf s e := by
    intro e he hne
    refine inv.messageOf_admits h he fun conversationId id heq => ?_
    subst heq
    rw [hother (hid_ne he hne)]
  have hbefore : messageOf s (.queued input.conversationId input.id) = none := by
    rw [messageOf_queued hinput, hnone]
    rfl
  refine ⟨?_, hof, hnew⟩
  constructor
  · exact inv.nodup
  · intro conversationId id he
    obtain ⟨m, hm, huser, hconversation⟩ := inv.sent he
    exact ⟨m, h.message_old hm, huser, hconversation⟩
  · intro conversationId id he
    obtain ⟨other, hfound, rfl⟩ := inv.queued he
    by_cases hid : id = input.id
    · subst hid
      rw [hinput] at hfound
      cases hfound
      exact ⟨_, hinput', rfl⟩
    · exact ⟨other, (hother hid).trans hfound, rfl⟩
  · intro id other hfound
    by_cases hid : id = input.id
    · subst hid
      rw [hinput'] at hfound
      cases hfound
      exact hlogged
    · rw [hother hid] at hfound
      exact inv.input_logged hfound
  · intro id other p hfound hp
    by_cases hid : id = input.id
    · subst hid
      rw [hinput'] at hfound
      cases hfound
      cases hp
      exact ⟨_, hmessage, rfl, hconversation.symm, rfl, rfl, rfl⟩
    · rw [hother hid] at hfound
      obtain ⟨m, hm⟩ := inv.published hfound hp
      exact ⟨m, hm.kept (h.message_old hm.found)⟩
  · intro id m hm huser
    obtain ⟨-, hold⟩ | ⟨rfl, rfl⟩ := h.message_cases hm
    · obtain ⟨e, he, hm⟩ := inv.message_logged hold huser
      refine ⟨e, he, (hof e he ?_).trans hm⟩
      rintro rfl
      rw [hbefore] at hm
      cases hm
    · exact ⟨_, hlogged, hnew⟩
  · intro e e' m he he' hm hm'
    by_cases hne : e = .queued input.conversationId input.id
    · by_cases hne' : e' = .queued input.conversationId input.id
      · rw [hne, hne']
      rw [hne, hnew] at hm
      cases hm
      rw [hof e' he' hne'] at hm'
      exact absurd rfl (messageOf_fresh h hm')
    · rw [hof e he hne] at hm
      by_cases hne' : e' = .queued input.conversationId input.id
      · rw [hne', hnew] at hm'
        cases hm'
        exact absurd rfl (messageOf_fresh h hm)
      · exact inv.once he he' hm ((hof e' he' hne').symm.trans hm')

end

end Rovai.SingleChat
