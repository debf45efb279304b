import RovaiCore.SingleChatSystem
import RovaiCore.AgentRunLifecycle
/-!
# What a transaction does to the Single Chats

`Change` lists what a transaction may do to the Runs, the messages and the inputs that wait, with what it has checked.
-/
namespace Rovai.SingleChat

open Tables (Table)
open Fallible
open AgentRuns (AgentRun)

/-! ## The Runs beside the chats -/

structure StaysRun (r r' : AgentRun) : Prop where
  conversationId : r'.conversationId = r.conversationId
  invocationKind : r'.invocationKind = r.invocationKind
  ended : AgentRuns.terminal r.status = true → AgentRuns.terminal r'.status = true

theorem StaysRun.refl (r : AgentRun) : StaysRun r r :=
  ⟨rfl, rfl, id⟩

abbrev RunsAside (s t : AgentRuns.Store) : Prop :=
  Table.Grows StaysRun (fun r => r.invocationKind ≠ .singleChat) s.runs t.runs

theorem runsAside_of_eq {s t : AgentRuns.Store} (h : t.runs = s.runs) : RunsAside s t := by
  unfold RunsAside
  rw [h]
  exact .refl StaysRun.refl s.runs

/-- **The AgentRun store's own transactions queue no Run of a Single Chat**, unless another component is said to. -/
theorem runsAside_step (s : AgentRuns.Store) (a : AgentRuns.Action)
    (ha : ∀ run, a = .queueRun run → run.invocationKind ≠ .singleChat) : RunsAside s (s.step a) := by
  have hstays : ∀ {r r' : AgentRun}, AgentRuns.RunKept r r' ∨ AgentRuns.Opens s a r r' → StaysRun r r' := by
    rintro r r' (h | h)
    · exact ⟨h.conversationId, h.invocationKind, fun ht => by rw [h.ended ht]; exact ht⟩
    obtain ⟨workspace, rfl⟩ := h.taken
    refine ⟨rfl, rfl, fun ht => ?_⟩
    have hopen := AgentRuns.open_of_claimableState h.claimable.state
    rw [hopen] at ht
    cases ht
  have hgrows := AgentRuns.step_runs s a
  constructor
  · intro k r hr
    obtain ⟨r', hr', h⟩ := hgrows.kept hr
    exact ⟨r', hr', hstays h⟩
  · intro k r' hr'
    obtain ⟨r, hr, h⟩ | ⟨hnone, -⟩ := hgrows.origin hr'
    · exact .inl ⟨r, hr, hstays h⟩
    refine .inr ⟨hnone, ?_⟩
    obtain ⟨old, hold⟩ | hbatch | ⟨run, rfl, rfl⟩ := AgentRuns.origin_step hr'
    · rw [hnone] at hold
      cases hold
    · rw [hbatch]
      decide
    · exact ha run rfl

/-! ## Drafts and edits -/

structure Private (s t : ChatStore) : Prop where
  runtime : t.runtime = s.runtime
  lastMessageSequence : t.lastMessageSequence = s.lastMessageSequence
  messages : t.messages = s.messages
  pendingInputs : t.pendingInputs = s.pendingInputs

theorem Private.refl (s : ChatStore) : Private s s :=
  ⟨rfl, rfl, rfl, rfl⟩

namespace ChatStore

variable {s t : ChatStore}

theorem writeDraft_private {conversationId clientId : String} {revision : Nat} {f : ComposerDraft → ComposerDraft}
    {hf : ∀ d, (f d).owner = d.owner} (h : s.writeDraft conversationId clientId revision f hf = .ok t) : Private s t := by
  unfold writeDraft at h
  repeat' split at h
  all_goals cases h <;> exact ⟨rfl, rfl, rfl, rfl⟩

theorem storeDraftRefs_private {conversationId clientId : String} {revision : Nat} {refs : List LocalAttachmentSourceRef}
    (h : s.storeDraftRefs conversationId clientId revision refs = .ok t) : Private s t := by
  unfold storeDraftRefs at h
  split at h
  · cases h
  · exact writeDraft_private h

theorem storeEditRefs_private {command : EditPendingInput} {refs : List LocalAttachmentSourceRef}
    (h : s.storeEditRefs command refs = .ok t) : Private s t := by
  unfold storeEditRefs at h
  split at h
  · cases h
  cases h
  exact ⟨rfl, rfl, rfl, rfl⟩

end ChatStore

/-! ## Changes -/

def SavedBy (s : ChatStore) (a : Action) (input input' : PendingInput) : Prop :=
  ∃ w e command newId body session, a = .editPendingInput w e command newId ∧ command.action = .save body ∧
    command.pendingInputId = input.id ∧ s.editSessions.find? command.conversationId = some session ∧
    session.owns command input.revision = true ∧ session.recoveryRequired = false ∧
    input'.content = ⟨trimmed body, session.working.sourceAttachments, session.working.quotes⟩ ∧
    input'.revision = input.revision + 1

structure Rewritten (s : ChatStore) (a : Action) (input input' : PendingInput) : Prop where
  conversationId : input'.conversationId = input.conversationId
  enqueueSequence : input'.enqueueSequence = input.enqueueSequence
  userId : input'.userId = input.userId
  published : input'.published = input.published
  inQueue : input' = input ∨ input.state.inQueue = true
  revision : input.revision ≤ input'.revision
  content : input'.content = input.content ∨ SavedBy s a input input'

theorem Rewritten.refl (s : ChatStore) (a : Action) (input : PendingInput) : Rewritten s a input input :=
  ⟨rfl, rfl, rfl, rfl, .inl rfl, Nat.le_refl _, .inl rfl⟩

structure Admits (s t : ChatStore) (ids : NewIds) (target : AgentRuns.Conversation) (userId : String) (content : Content) :
    Prop where
  run_fresh : s.runtime.runs.find? ids.agentRunId = none
  message_fresh : s.messages.find? ids.conversationMessageId = none
  runs : ∃ runtime, t.runtime.runs = s.runtime.runs.insert (ChatStore.chatRun ids target runtime)
  messages : t.messages =
    s.messages.insert (ChatStore.userMessage ids target.id userId (s.lastMessageSequence target.id + 1) content)
  lastMessageSequence : t.lastMessageSequence =
    Function.update s.lastMessageSequence target.id (s.lastMessageSequence target.id + 1)

inductive Change (s : ChatStore) (a : Action) : ChatStore → Option Accepted → Prop
  | aside {t : ChatStore} (hruns : RunsAside s.runtime t.runtime)
      (hsequence : t.lastMessageSequence = s.lastMessageSequence) (hmessages : t.messages = s.messages)
      (hpending : Table.Grows (Rewritten s a) (fun _ => False) s.pendingInputs t.pendingInputs) : Change s a t none
  | answered {t : ChatStore} (message : ConversationMessage) (hagent : ChatStore.isUserMessage message = false)
      (hfresh : s.messages.find? message.id = none)
      (hruns : RunsAside s.runtime t.runtime)
      (hsequence : t.lastMessageSequence = Function.update s.lastMessageSequence message.conversationId
        (s.lastMessageSequence message.conversationId + 1))
      (hlast : message.sequence = s.lastMessageSequence message.conversationId + 1)
      (hmessages : t.messages = s.messages.insert message) (hpending : t.pendingInputs = s.pendingInputs) : Change s a t none
  | queued {t : ChatStore} (ids : NewIds) (conversationId userId clientId : String) (content : Content)
      (hfresh : s.pendingInputs.find? ids.pendingInputId = none)
      (hruns : t.runtime = s.runtime) (hsequence : t.lastMessageSequence = s.lastMessageSequence)
      (hmessages : t.messages = s.messages)
      (hpending : t.pendingInputs = s.pendingInputs.insert (ChatStore.queuedPendingInput ids conversationId userId clientId
        (s.nextEnqueueSequence conversationId) content)) :
      Change s a t (some (.queued conversationId ids.pendingInputId))
  | sent {t : ChatStore} (ids : NewIds) (target : AgentRuns.Conversation) (userId : String) (content : Content)
      (hidle : s.hasActiveRun target.id = false) (hempty : s.hasPendingQueue target.id = false)
      (h : Admits s t ids target userId content) (hpending : t.pendingInputs = s.pendingInputs) :
      Change s a t (some (.sent target.id ids.conversationMessageId))
  | published {t : ChatStore} (command : PublishPendingInput) (ids : NewIds) (target : AgentRuns.Conversation)
      (input : PendingInput) (hinput : s.pendingInputs.find? input.id = some input)
      (hconversation : input.conversationId = target.id) (hid : command.pendingInputId = input.id)
      (htarget : command.conversationId = target.id) (hready : s.readyToPublish input command = true)
      (h : Admits s t ids target input.userId input.content)
      (hpending : t.pendingInputs = s.pendingInputs.update input.id (ChatStore.publishedInput ids.published)) :
      Change s a t none

variable {s : ChatStore} {a : Action}

theorem Change.same {t : ChatStore} (h : Private s t) : Change s a t none := by
  refine .aside (runsAside_of_eq (by rw [h.runtime])) h.lastMessageSequence h.messages ?_
  rw [h.pendingInputs]
  exact .refl (Rewritten.refl s a) s.pendingInputs

theorem Change.rewrites {t : ChatStore} (hruns : t.runtime = s.runtime)
    (hsequence : t.lastMessageSequence = s.lastMessageSequence) (hmessages : t.messages = s.messages)
    (hpending : Table.Grows (Rewritten s a) (fun _ => False) s.pendingInputs t.pendingInputs) : Change s a t none :=
  .aside (runsAside_of_eq (by rw [hruns])) hsequence hmessages hpending

/-! ## Rewriting an input -/

theorem rewritten_cancelInput (s : ChatStore) (a : Action) (input : PendingInput) :
    Rewritten s a input (ChatStore.cancelInput input) := by
  unfold ChatStore.cancelInput
  split
  · exact ⟨rfl, rfl, rfl, rfl, .inr ‹_›, Nat.le_succ _, .inl rfl⟩
  · exact .refl s a input

theorem grows_cancelInput (s : ChatStore) (a : Action) (pendingInputId : String) :
    Table.Grows (Rewritten s a) (fun _ => False) s.pendingInputs
      (s.pendingInputs.update pendingInputId ChatStore.cancelInput ChatStore.cancelInput_id) :=
  .update (Rewritten.refl s a) s.pendingInputs pendingInputId ChatStore.cancelInput ChatStore.cancelInput_id
    fun input _ => rewritten_cancelInput s a input

theorem rewritten_repairInput (s : ChatStore) (a : Action) (code : String) (input : PendingInput) :
    Rewritten s a input (ChatStore.repairInput code input) := by
  unfold ChatStore.repairInput
  split
  · rename_i hstate
    exact ⟨rfl, rfl, rfl, rfl, .inr (by rw [hstate]; rfl), Nat.le_refl _, .inl rfl⟩
  · exact .refl s a input

theorem rewritten_saveInput {content : Content} {input : PendingInput}
    (h : input.state.inQueue = true → SavedBy s a input (ChatStore.saveInput content input)) :
    Rewritten s a input (ChatStore.saveInput content input) := by
  by_cases hqueue : input.state.inQueue = true
  · have hsaved := h hqueue
    unfold ChatStore.saveInput at hsaved ⊢
    rw [dif_pos hqueue] at hsaved ⊢
    exact ⟨rfl, rfl, rfl, rfl, .inr hqueue, Nat.le_succ _, .inr hsaved⟩
  · unfold ChatStore.saveInput
    rw [dif_neg hqueue]
    exact .refl s a input

/-! ## Commands other than a send -/

def Changes (s : ChatStore) (a : Action) (x : Handled) : Prop :=
  ∀ reply t, x = .ok (reply, t) → Change s a t none

section
variable {s : ChatStore} {a : Action}

theorem Changes.error (message : String) : Changes s a (.error message) := by
  intro reply t h
  cases h

theorem Changes.refuse (code message : String) : Changes s a (refuse s code message) := by
  intro reply t h
  cases h
  exact .same (.refl s)

variable {t : ChatStore} {reply : Reply}

theorem Changes.ok (h : Change s a t none) : Changes s a (.ok (reply, t)) := by
  intro reply' t' heq
  cases heq
  exact h

theorem changes_openChat (w : World) (e : Envelope) (command : OpenSingleChat) (id : String) :
    Changes s a (s.openChat w e command id) := by
  unfold ChatStore.openChat
  repeat' split
  all_goals first
    | exact .refuse _ _
    | exact .error _
    | exact .ok (.same ⟨rfl, rfl, rfl, rfl⟩)
    | exact .ok (.aside (runsAside_of_eq rfl) rfl rfl (.refl (Rewritten.refl s a) s.pendingInputs))

theorem changes_mutateDraft (w : World) (e : Envelope) (command : MutateQuoteDraft) (id : String) :
    Changes s a (s.mutateDraft w e command id) := by
  unfold ChatStore.mutateDraft
  dsimp only
  repeat' split
  all_goals first
    | exact .error _
    | exact .ok (.same (.refl s))
    | exact .ok (.same ⟨rfl, rfl, rfl, rfl⟩)

/-! ## Edits -/

variable (command : EditPendingInput)

theorem changes_returnToComposer (input : PendingInput) (revision : Nat) :
    Changes s a (s.returnToComposer command input revision) := by
  unfold ChatStore.returnToComposer
  split
  · exact .error _
  split
  · exact .refuse _ _
  split
  · exact .error _
  split
  · exact .error _
  rename_i drafted hdrafted
  split
  · exact .error _
  have hprivate := ChatStore.storeDraftRefs_private hdrafted
  refine .ok (.rewrites hprivate.runtime hprivate.lastMessageSequence hprivate.messages ?_)
  change Table.Grows _ _ s.pendingInputs
    (drafted.pendingInputs.update command.pendingInputId ChatStore.cancelInput ChatStore.cancelInput_id)
  rw [hprivate.pendingInputs]
  exact grows_cancelInput s a _

theorem changes_startEdit (input : PendingInput) (token : String) :
    Changes s a (s.startEdit command input token) := by
  unfold ChatStore.startEdit
  split
  · exact .error _
  · exact .ok (.same ⟨rfl, rfl, rfl, rfl⟩)

theorem changes_finishEdit : Changes s a (s.finishEdit command) :=
  .ok (.same ⟨rfl, rfl, rfl, rfl⟩)

variable {w : World} {command : EditPendingInput} {e : Envelope}

theorem changes_saveEdit {newId body : String} {session : EditSession}
    {input : PendingInput} (haction : command.action = .save body) (hinput : s.pendingInputs.find? command.pendingInputId = some input)
    (hsession : s.editSessions.find? command.conversationId = some session) (howns : session.owns command input.revision = true)
    (hrecovery : session.recoveryRequired = false) :
    Changes s (.editPendingInput w e command newId) (s.saveEdit command session body) := by
  unfold ChatStore.saveEdit
  split
  · exact .error _
  split
  · exact .error _
  split
  · exact .error _
  rename_i quotes hquotes
  split
  · exact .error _
  split
  · exact .refuse _ _
  obtain rfl := parseQuotes_ok hquotes
  refine .ok (.rewrites rfl rfl rfl ?_)
  refine .update (Rewritten.refl s _) s.pendingInputs command.pendingInputId _ (ChatStore.saveInput_id _)
    fun input' hinput' => rewritten_saveInput fun hqueue => ?_
  rw [hinput] at hinput'
  cases hinput'
  refine ⟨w, e, command, newId, body, session, rfl, haction, (Table.key_of_find? hinput).symm, hsession, howns, hrecovery, ?_, ?_⟩
  all_goals
    unfold ChatStore.saveInput
    rw [dif_pos hqueue]

theorem changes_removeEditAttachment (command : EditPendingInput) (session : EditSession) (refId : String) :
    Changes s a (s.removeEditAttachment command session refId) := by
  unfold ChatStore.removeEditAttachment
  dsimp only
  repeat' split
  all_goals first
    | exact .error _
    | exact .refuse _ _
    | exact .ok (.same (ChatStore.storeEditRefs_private (by assumption)))

theorem changes_reorderEditAttachments (command : EditPendingInput) (session : EditSession) (refIds : List String) :
    Changes s a (s.reorderEditAttachments command session refIds) := by
  unfold ChatStore.reorderEditAttachments
  repeat' split
  all_goals first
    | exact .error _
    | exact .refuse _ _
    | exact .ok (.same (ChatStore.storeEditRefs_private (by assumption)))

theorem changes_quoteEdit (w : World) (command : EditPendingInput) (session : EditSession) (id : String) (action : QuoteAction) :
    Changes s a (s.quoteEdit w command session id action) := by
  unfold ChatStore.quoteEdit
  split
  · exact .error _
  · exact .ok (.same ⟨rfl, rfl, rfl, rfl⟩)

theorem changes_asWriter {session : Option EditSession} {owns : Bool} {message : String} {act : EditSession → Handled}
    (h : ∀ session', session = some session' → owns = true → session'.recoveryRequired = false → Changes s a (act session')) :
    Changes s a (s.asWriter session owns message act) := by
  unfold ChatStore.asWriter ChatStore.asOwner
  split
  · exact .refuse _ _
  rename_i session
  split
  · rename_i howns
    dsimp only
    split
    · exact .refuse _ _
    rename_i hrecovery
    exact h session rfl howns (by simpa using hrecovery)
  · exact .refuse _ _

theorem changes_unlessFenced {session : Option EditSession} {owns : Bool} {act : Handled}
    (h : Changes s a act) : Changes s a (s.unlessFenced command session owns act) := by
  unfold ChatStore.unlessFenced
  split
  · exact .refuse _ _
  · exact h

theorem changes_editPendingInput (w : World) (e : Envelope) (command : EditPendingInput) (newId : String) :
    Changes s (.editPendingInput w e command newId) (s.editPendingInput w e command newId) := by
  unfold ChatStore.editPendingInput
  split
  swap
  · exact .refuse _ _
  split
  · exact .refuse _ _
  split
  · exact .refuse _ _
  split
  · exact .refuse _ _
  rename_i input hinput
  split
  · exact .refuse _ _
  have hfind : s.pendingInputs.find? command.pendingInputId = some input := (Option.filter_eq_some_iff.1 hinput).1
  dsimp only
  unfold ChatStore.editAction
  split
  · exact changes_unlessFenced (changes_returnToComposer command input _)
  · split
    · exact .refuse _ _
    · exact changes_startEdit command input newId
  · split
    · exact changes_startEdit command input newId
    · exact .refuse _ _
  · rename_i body haction
    refine changes_asWriter fun session hsession howns hrecovery => ?_
    rw [hsession] at howns
    exact changes_saveEdit haction hfind hsession howns hrecovery
  · exact changes_asWriter fun session _ _ _ => changes_quoteEdit w command session newId _
  · exact changes_asWriter fun session _ _ _ => changes_removeEditAttachment command session _
  · exact changes_asWriter fun session _ _ _ => changes_reorderEditAttachments command session _
  · split
    · exact changes_finishEdit command
    · exact .refuse _ _
  · refine changes_unlessFenced (.ok (.rewrites rfl rfl rfl ?_))
    exact grows_cancelInput s _ _

/-! ## Admission -/

variable {target : AgentRuns.Conversation} {ids : NewIds} {content : Content}

theorem admitMessage_ok {userId : String}
    {runtime : AgentRuns.AdapterKind} {draft : Option (Nat × String)}
    (h : s.admitMessage ids target userId content runtime draft = .ok t) :
    Admits s t ids target userId content ∧ t.pendingInputs = s.pendingInputs := by
  unfold ChatStore.admitMessage at h
  split at h
  · cases h
  split at h
  · cases h
  split at h
  · cases h
  rename_i u hu
  have hprivate : Private s u := by
    cases draft with
    | none =>
      cases hu
      exact .refl s
    | some draft => exact ChatStore.writeDraft_private hu
  repeat' split at h
  all_goals cases h
  rename_i _ hrun hmessage _ _ _
  refine ⟨?_, hprivate.pendingInputs⟩
  constructor
  · rw [← hprivate.runtime]
    simpa using hrun
  · rw [← hprivate.messages]
    simpa using hmessage
  · rw [← hprivate.runtime]
    exact ⟨runtime, rfl⟩
  · rw [← hprivate.messages, ← hprivate.lastMessageSequence]
    rfl
  · rw [← hprivate.lastMessageSequence]
    rfl

theorem enqueueInput_ok {conversationId userId clientId : String}
    (h : s.enqueueInput ids conversationId userId clientId content = .ok t) :
    s.pendingInputs.find? ids.pendingInputId = none ∧ t = { s with
      pendingInputs := s.pendingInputs.insert (ChatStore.queuedPendingInput ids conversationId userId clientId
        (s.nextEnqueueSequence conversationId) content) } := by
  unfold ChatStore.enqueueInput at h
  repeat' split at h
  all_goals cases h
  rename_i hfresh _ _ _
  exact ⟨by simpa using hfresh, rfl⟩

theorem loadActiveTarget_id {conversationId : String}
    (h : s.loadActiveTarget w conversationId = some target) : target.id = conversationId :=
  Table.key_of_find? (Option.filter_eq_some_iff.1 h).1

/-! ## Sending -/

theorem change_sendContent {command : SendSingleChatMessage} {userId : String}

    (htarget : target.id = command.conversationId)
    (h : s.sendContent w command ids userId target content = .ok (reply, t)) :
    Change s (.send w e command ids) t (acceptance (.send w e command ids) (some reply)) := by
  unfold ChatStore.sendContent at h
  split at h
  · split at h
    · cases h
    rename_i queued hqueued
    split at h
    · cases h
    rename_i consumed hconsumed
    cases h
    obtain ⟨hfresh, rfl⟩ := enqueueInput_ok hqueued
    have hprivate := ChatStore.writeDraft_private hconsumed
    have hchange := Change.queued (a := .send w e command ids) ids target.id userId command.draftClient content hfresh
      hprivate.runtime hprivate.lastMessageSequence hprivate.messages hprivate.pendingInputs
    rw [htarget] at hchange
    exact hchange
  · rename_i hfree
    rw [Bool.or_eq_true, not_or] at hfree
    split at h
    · cases h
      exact .same (.refl s)
    split at h
    · cases h
    rename_i admitted hadmitted
    cases h
    obtain ⟨h, hpending⟩ := admitMessage_ok hadmitted
    have hchange := Change.sent (a := .send w e command ids) ids target userId content (by simpa using hfree.1)
      (by simpa using hfree.2) h hpending
    rw [htarget] at hchange
    exact hchange

theorem change_send {command : SendSingleChatMessage}
    (h : s.send w e command ids = .ok (reply, t)) :
    Change s (.send w e command ids) t (acceptance (.send w e command ids) (some reply)) := by
  have hrefuse : ∀ code message, refuse s code message = .ok (reply, t) →
      Change s (.send w e command ids) t (acceptance (.send w e command ids) (some reply)) := by
    intro code message h
    cases h
    exact .same (.refl s)
  unfold ChatStore.send at h
  split at h
  · cases h
  split at h
  swap
  · exact hrefuse _ _ h
  split at h
  · exact hrefuse _ _ h
  rename_i target htarget
  split at h
  · exact hrefuse _ _ h
  split at h
  · exact hrefuse _ _ h
  unfold ChatStore.sendDraft at h
  split at h
  · cases h
  split at h
  · cases h
    exact .same (.refl s)
  split at h
  · cases h
  split at h
  · cases h
  split at h
  · exact hrefuse _ _ h
  split at h
  · cases h
  split at h
  · exact hrefuse _ _ h
  · exact change_sendContent (loadActiveTarget_id htarget) h

/-! ## Publishing -/

theorem changes_publishPendingInput (w : World) (e : Envelope) (command : PublishPendingInput) (ids : NewIds) :
    Changes s a (s.publishPendingInput w e command ids) := by
  unfold ChatStore.publishPendingInput
  split
  swap
  · exact .error _
  rename_i userId hactor
  split
  · exact .error _
  split
  · exact .error _
  rename_i target htarget
  split
  · exact .error _
  split
  · exact .error _
  rename_i input hinput
  split
  · exact .error _
  split
  · exact .error _
  rename_i huser
  split
  · exact .refuse _ _
  rename_i hready
  have huser : input.userId = userId := by simpa using huser
  unfold ChatStore.publishReady
  split
  · exact .error _
  split
  · exact .error _
  split
  · exact .error _
  split
  · exact .error _
  rename_i admitted hadmitted
  obtain ⟨hadmits, hpending⟩ := admitMessage_ok hadmitted
  rw [← huser] at hadmits
  obtain ⟨hfind, hconversation⟩ := Option.filter_eq_some_iff.1 hinput
  have hid := Table.key_of_find? hfind
  have hconversation : input.conversationId = command.conversationId := by simpa using hconversation
  have htargetId := loadActiveTarget_id htarget
  refine .ok (.published command ids target input (Table.find?_key hfind) (hconversation.trans htargetId.symm) hid.symm
    htargetId.symm (by simpa using hready) ⟨hadmits.run_fresh, hadmits.message_fresh, hadmits.runs, hadmits.messages,
      hadmits.lastMessageSequence⟩ ?_)
  change admitted.pendingInputs.update command.pendingInputId (ChatStore.publishedInput ids.published) (fun _ => rfl) = _
  rw [hpending, hid]

/-! ## The end of a Single Chat -/

theorem settleActiveRun_aside {runtime : AgentRuns.Store} {conversationId : String} {cancelled : Option String}
    {settled : AgentRuns.Store} (h : ChatStore.settleActiveRun runtime conversationId = .ok (cancelled, settled)) :
    RunsAside runtime settled := by
  unfold ChatStore.settleActiveRun at h
  split at h
  · cases h
    exact runsAside_of_eq rfl
  rename_i run hrun
  split at h
  · cases h
  rename_i ended hended
  split at h
  · cases h
  split at h
  · cases h
  rename_i recomputed hrecomputed
  cases h
  have hstep : runtime.step (.settleInterruptedRun run.id "single_chat_ended" false) = ended := by
    rw [AgentRuns.Store.step]
    unfold AgentRuns.Store.settleAbortiveAgentRunInTx at hended
    rw [hended]
    rfl
  have hruns : settled.runs = ended.runs := by
    unfold ChatStore.recomputeCampTurn at hrecomputed
    dsimp only at hrecomputed
    repeat' split at hrecomputed
    all_goals cases hrecomputed <;> rfl
  unfold RunsAside
  rw [hruns, ← hstep]
  exact runsAside_step runtime _ fun run h => by cases h

theorem changes_endChat (e : Envelope) (command : EndSingleChat) : Changes s a (s.endChat e command) := by
  unfold ChatStore.endChat
  split
  swap
  · exact .refuse _ _
  split
  · exact .refuse _ _
  split
  · exact .refuse _ _
  split
  · exact .ok (.same (.refl s))
  split
  · exact .error _
  rename_i cancelled settled hsettled
  have haside := settleActiveRun_aside hsettled
  refine .ok (.aside (t := s.closeChat settled _) haside rfl rfl ?_)
  exact .updateWhere (Rewritten.refl s a) s.pendingInputs _ ChatStore.cancelInput ChatStore.cancelInput_id
    fun _ input _ _ => rewritten_cancelInput s a input

/-! ## The other transactions -/

theorem change_recordPendingPublishFailure (command : PublishPendingInput) (code : String) :
    Change s a (s.recordPendingPublishFailure command code) none := by
  refine .rewrites rfl rfl rfl ?_
  exact .updateWhere (Rewritten.refl s a) s.pendingInputs _ (ChatStore.repairInput code) (ChatStore.repairInput_id code)
    fun _ input _ _ => rewritten_repairInput s a code input

theorem addSourceAttachment_private {conversationId clientId : String} {revision : Nat}
    {ref : LocalAttachmentSourceRef} (h : s.addSourceAttachment w conversationId clientId revision ref = .ok t) :
    Private s t := by
  unfold ChatStore.addSourceAttachment at h
  repeat' split at h
  all_goals first
    | cases h
    | exact ChatStore.storeDraftRefs_private h

theorem removeSourceAttachment_private {conversationId clientId refId : String} {revision : Nat}
    (h : s.removeSourceAttachment w conversationId clientId revision refId = .ok t) : Private s t := by
  unfold ChatStore.removeSourceAttachment at h
  dsimp only at h
  repeat' split at h
  all_goals first
    | cases h
    | exact ChatStore.storeDraftRefs_private h

theorem addPendingSourceAttachment_private {clientId : String}
    {ref : LocalAttachmentSourceRef} (h : s.addPendingSourceAttachment w clientId command ref = .ok t) :
    Private s t := by
  unfold ChatStore.addPendingSourceAttachment at h
  repeat' split at h
  all_goals first
    | cases h
    | exact ChatStore.storeEditRefs_private h

theorem change_succeedAgentRun {e : AgentRuns.Envelope} {command : AgentRuns.Store.FencedCommand} {nativeTurnId : String}
    {reason : Option String} {cleanup : Bool} {output messageId : String} {facts : AgentRuns.Store.TerminalFacts}
    (h : s.succeedAgentRun e command nativeTurnId reason cleanup output messageId facts = .ok t) :
    Change s a t none := by
  unfold ChatStore.succeedAgentRun at h
  split at h
  · cases h
  rename_i result runtime hresult
  have haside : RunsAside s.runtime runtime := by
    have hstep : s.runtime.step (.succeedAgentRun e command nativeTurnId reason cleanup (!isEmptyText output) facts) =
        runtime := by
      rw [AgentRuns.Store.step, hresult]
      rfl
    rw [← hstep]
    exact runsAside_step s.runtime _ fun run h => by cases h
  have hquiet : Change s a { s with runtime := runtime } none :=
    .aside haside rfl rfl (.refl (Rewritten.refl s a) s.pendingInputs)
  split at h
  · cases h
    exact hquiet
  split at h
  · cases h
    exact hquiet
  unfold ChatStore.appendOutput at h
  split at h
  · cases h
  rename_i run _ _ hfresh
  cases h
  have hfresh : s.messages.find? messageId = none := by simpa using hfresh
  exact .answered (ChatStore.agentMessage messageId output run _ _) rfl hfresh haside rfl rfl rfl rfl

theorem change_committed {x : Handled} (haccept : ∀ reply, acceptance a reply = none) (h : Changes s a x) :
    Change s a (s.committed x).2 (acceptance a (s.committed x).1) := by
  rw [haccept]
  cases x with
  | error message => exact .same (.refl s)
  | ok value => exact h value.1 value.2 rfl

theorem change_written {x : Except String ChatStore} (haccept : ∀ reply, acceptance a reply = none)
    (h : ∀ t, x = .ok t → Change s a t none) : Change s a (s.written x).2 (acceptance a (s.written x).1) := by
  rw [haccept]
  cases x with
  | error message => exact .same (.refl s)
  | ok t => exact h t rfl

/-- **A transaction is one of the changes**, and the send it accepts is the one of its change. -/
theorem change_step (s : ChatStore) (a : Action) : Change s a (s.perform a).2 (acceptance a (s.perform a).1) := by
  cases a with
  | openChat w e command id => exact change_committed (fun _ => rfl) (changes_openChat w e command id)
  | send w e command ids =>
    simp only [ChatStore.perform]
    cases hsend : s.send w e command ids with
    | error message => exact .same (.refl s)
    | ok value => exact change_send hsend
  | editPendingInput w e command id => exact change_committed (fun _ => rfl) (changes_editPendingInput w e command id)
  | publishPendingInput w e command ids =>
    exact change_committed (fun _ => rfl) (changes_publishPendingInput w e command ids)
  | recordPendingPublishFailure command code => exact change_recordPendingPublishFailure command code
  | recoverPendingEditSessions => exact .same ⟨rfl, rfl, rfl, rfl⟩
  | endChat e command => exact change_committed (fun _ => rfl) (changes_endChat e command)
  | addSourceAttachment =>
    exact change_written (fun _ => rfl) fun t h => .same (addSourceAttachment_private h)
  | removeSourceAttachment =>
    exact change_written (fun _ => rfl) fun t h => .same (removeSourceAttachment_private h)
  | addPendingSourceAttachment =>
    exact change_written (fun _ => rfl) fun t h => .same (addPendingSourceAttachment_private h)
  | mutateDraft w e command quoteId => exact change_committed (fun _ => rfl) (changes_mutateDraft w e command quoteId)
  | succeedAgentRun =>
    exact change_written (fun _ => rfl) fun t h => change_succeedAgentRun h
  | runtime a =>
    refine .aside (runsAside_step s.runtime a.val fun run hrun => ?_) rfl rfl (.refl (Rewritten.refl s _) s.pendingInputs)
    have hspares := a.property
    rw [hrun] at hspares
    simpa [sparesChats] using hspares

end

end Rovai.SingleChat
