import RovaiCore.SingleChatStore
/-!
# The Single Chat commands (`single_chat.rs`)

Each command is one transaction.
-/
namespace Rovai.SingleChat

open Tables (Table)
open Fallible
open AgentRuns (AgentRun CampTurn)

/-! ## Commands -/

structure NewIds where
  (pendingInputId conversationMessageId campTurnId agentRunId : String)

def NewIds.published (ids : NewIds) : Published :=
  ⟨ids.conversationMessageId, ids.campTurnId, ids.agentRunId⟩

structure OpenSingleChat where
  (campId agentId draftClient : String)

structure SendSingleChatMessage where
  (campId conversationId body : String)
  draftRevision : Nat
  draftClient : String

inductive PendingInputEditAction where
  | returnToComposer (expectedDraftRevision : Nat)
  | begin
  | takeover
  | save (body : String)
  | removeAttachment (attachmentRefId : String)
  | reorderAttachments (attachmentRefIds : List String)
  | quote (action : QuoteAction)
  | cancel
  | delete

structure EditPendingInput where
  (campId conversationId pendingInputId : String)
  expectedRevision : Nat
  editToken : Option String
  draftClient : String
  action : PendingInputEditAction

def EditSession.owns (session : EditSession) (command : EditPendingInput) (revision : Nat) : Bool :=
  session.pendingInputId == command.pendingInputId && session.basePendingRevision == revision &&
    some session.editToken == command.editToken && session.clientId == command.draftClient

structure PublishPendingInput where
  (campId conversationId pendingInputId : String)
  expectedRevision : Nat
  userId : String

structure MutateQuoteDraft where
  (campId conversationId : String)
  expectedRevision : Nat
  draftClient : String
  action : QuoteAction

structure EndSingleChat where
  (campId conversationId : String)

variable (s : ChatStore)

def localUserRequired (message : String) : Handled :=
  refuse s "single_chat.local_user_required" message

def notActive : Handled :=
  refuse s "single_chat.not_active" "Single Chat does not exist or has ended"

def campMismatch : Handled :=
  refuse s "single_chat.camp_mismatch" "Single Chat command is outside the Thread"

namespace ChatStore

variable (s : ChatStore)

/-! ## Opening -/

def withDraft (conversationId clientId : String) : ChatStore :=
  { s with drafts := s.drafts.insert ⟨conversationId, clientId, 0, [], [], []⟩ }

def newChat (campId agentId conversationId : String) : AgentRuns.Conversation :=
  { AgentRuns.Store.newConversation campId ⟨agentId, "", conversationId⟩ with kind := .singleChat }

def withConversation (c : AgentRuns.Conversation) : ChatStore :=
  { s with runtime := { s.runtime with conversations := s.runtime.conversations.insert c } }

variable (w : World) (e : Envelope)

def openChat (command : OpenSingleChat) (newConversationId : String) : Handled :=
  match e.actor with
  | .user _ =>
    if e.campId ≠ some command.campId then campMismatch s
    else if !w.memberActive then
      refuse s "single_chat.member_unavailable" "Single Chat target is not an active Thread member"
    else
      match s.runtime.conversations.rows.find? (fun c =>
          c.campId == command.campId && c.agentId == command.agentId && c.kind == .singleChat && !c.ended) with
      | some active => .ok (.opened active.id false, s.withDraft active.id command.draftClient)
      | none =>
        if (s.runtime.conversations.find? newConversationId).isSome then .error "UNIQUE constraint failed: conversation.id"
        else
          .ok (.opened newConversationId true,
            (s.withConversation (newChat command.campId command.agentId newConversationId)).withDraft newConversationId
              command.draftClient)
  | _ => localUserRequired s "Single Chat v1 is available only to the local user"

/-! ## Admission -/

variable (ids : NewIds)

def queuedPendingInput (conversationId userId clientId : String) (sequence : Nat) (content : Content) :
    PendingInput where
  id := ids.pendingInputId
  conversationId := conversationId
  enqueueSequence := sequence
  revision := 1
  state := .queued
  content := content
  userId := userId
  clientId := clientId
  published := none
  lastAttemptErrorCode := none
  published_iff := by decide

def enqueueInput (conversationId userId clientId : String) (content : Content) : Except String ChatStore :=
  match serializeSourceAttachments content.sourceAttachments with
  | .error message => .error message
  | .ok _ =>
    if (s.pendingInputs.find? ids.pendingInputId).isSome then
      .error "UNIQUE constraint failed: single_chat_pending_input.id"
    else
      match parseQuotes content.quotes with
      | .error message => .error message
      | .ok _ =>
        .ok { s with
          pendingInputs := s.pendingInputs.insert
            (queuedPendingInput ids conversationId userId clientId (s.nextEnqueueSequence conversationId) content) }

variable (target : AgentRuns.Conversation)

/-- The Run of a user's message: the whole of it is the message's to answer. -/
def chatRun (runtime : AgentRuns.AdapterKind) : AgentRun where
  id := ids.agentRunId
  campId := target.campId
  campTurnId := some ids.campTurnId
  conversationId := target.id
  invocationKind := .singleChat
  runtimeAdapterKind := some runtime
  inputReady := true
  workspace := none
  status := .queued
  waitReason := none
  runtimeRecoveryRequired := false
  runtimeRebindCount := 0
  executionEpoch := 0
  version := 1
  cancelRequested := false
  cancelReasonCode := none
  lastErrorCode := none
  hasFinalOutput := false
  terminalResolutionSource := none
  terminalReasonCode := none
  turn_of_batch := by intro h; cases h

def chatTurn : CampTurn where
  id := ids.campTurnId
  status := .running
  cancelRequested := false
  executionBudgetExhausted := false
  executionBudgetDeadline := none

def userMessage (conversationId userId : String) (sequence : Nat) (content : Content) :
    ConversationMessage where
  id := ids.conversationMessageId
  conversationId := conversationId
  sequence := sequence
  author := .user userId
  content := content
  campTurnId := some ids.campTurnId
  agentRunId := ids.agentRunId

def countMessage (conversation : AgentRuns.Conversation) : AgentRuns.Conversation :=
  { conversation with version := conversation.version + 1 }

variable (userId : String) (content : Content)

def insertAdmitted (runtime : AgentRuns.AdapterKind) : ChatStore :=
  { s with
    runtime := { s.runtime with
      conversations := s.runtime.conversations.update target.id countMessage
      turns := s.runtime.turns.insert (chatTurn ids)
      runs := s.runtime.runs.insert (chatRun ids target runtime) }
    lastMessageSequence := Function.update s.lastMessageSequence target.id (s.lastMessageSequence target.id + 1)
    messages := s.messages.insert
      (userMessage ids target.id userId (s.lastMessageSequence target.id + 1) content) }

def admitMessage (runtime : AgentRuns.AdapterKind) (draft : Option (Nat × String)) : Except String ChatStore :=
  if !content.quotes.isEmpty && isEmptyText content.body then .error "quote.question_required"
  else
    match serializeSourceAttachments content.sourceAttachments with
    | .error message => .error message
    | .ok _ =>
      match draft.elim (.ok s) (fun (revision, clientId) => s.consumeDraft target.id clientId revision) with
      | .error message => .error message
      | .ok s =>
        if (s.runtime.turns.find? ids.campTurnId).isSome then .error "UNIQUE constraint failed: camp_turn.id"
        else if (s.runtime.runs.find? ids.agentRunId).isSome then .error "UNIQUE constraint failed: agent_run.id"
        else if (s.messages.find? ids.conversationMessageId).isSome then
          .error "UNIQUE constraint failed: conversation_message.id"
        else
          match parseQuotes content.quotes with
          | .error message => .error message
          | .ok _ => .ok (s.insertAdmitted ids target userId content runtime)

/-! ## Sending -/

variable (command : SendSingleChatMessage)

def sendContent (ids : NewIds) (userId : String)
    (target : AgentRuns.Conversation) (content : Content) : Handled :=
  if s.hasActiveRun target.id || s.hasPendingQueue target.id then
    match s.enqueueInput ids target.id userId command.draftClient content with
    | .error message => .error message
    | .ok queued =>
      match queued.consumeDraft target.id command.draftClient command.draftRevision with
      | .error message => .error message
      | .ok consumed => .ok (.pendingInputQueued ids.pendingInputId, consumed)
  else
    match w.frozenRuntime with
    | .error blockerCode => .ok (.runtimeNotReady blockerCode, s)
    | .ok runtime =>
      match s.admitMessage ids target userId content runtime (some (command.draftRevision, command.draftClient)) with
      | .error message => .error message
      | .ok admitted => .ok (.replyQueued ids.published, admitted)

def sendDraft (ids : NewIds) (userId : String)
    (target : AgentRuns.Conversation) : Handled :=
  match s.loadDraftRefs target.id command.draftClient with
  | .error message => .error message
  | .ok (draftRevision, refs) =>
    if draftRevision ≠ command.draftRevision then .ok (.draftChanged draftRevision, s)
    else
      match s.loadDraftQuotes target.id command.draftClient with
      | .error message => .error message
      | .ok quotes =>
        if !quotes.isEmpty && isEmptyText command.body then .error "quote.question_required"
        else if isEmptyText command.body && refs.isEmpty then
          refuse s "single_chat.empty_message" "Single Chat input must contain text or an attachment"
        else if maxPreparedAttachments < refs.length then
          .error "Single Chat Source Attachment count exceeds the shared limit"
        else
          match w.attachmentFailure refs with
          | some code => refuse s code "Source Attachment cannot be read"
          | none => s.sendContent w command ids userId target ⟨trimmed command.body, refs, quotes⟩

def send (ids : NewIds) : Handled :=
  if maxBodyCharacters < command.body.toList.length then .error "Single Chat body exceeds the 100000-character limit"
  else
    match e.actor with
    | .user userId =>
      match s.loadActiveTarget w command.conversationId with
      | none => notActive s
      | some target =>
        if e.campId ≠ some target.campId ∨ command.campId ≠ target.campId then campMismatch s
        else if !w.memberActive then
          refuse s "single_chat.member_unavailable" "Single Chat target is not an active Thread member"
        else s.sendDraft w command ids userId target
    | _ => localUserRequired s "Single Chat v1 is available only to the local user"

/-! ## Editing an input that waits -/

def editFenced (message : String) : Handled :=
  refuse s "single_chat.pending_input_edit_fenced" message

variable (input : PendingInput)

def cancelInput : PendingInput :=
  if h : input.state.inQueue = true then
    { input with
      state := .cancelled, revision := input.revision + 1
      published_iff := by simp [PendingInput.published_eq_none h] }
  else input

theorem cancelInput_id : (cancelInput input).id = input.id := by
  unfold cancelInput
  split <;> rfl

def saveInput : PendingInput :=
  if h : input.state.inQueue = true then
    { input with
      content := content, revision := input.revision + 1, state := .queued, lastAttemptErrorCode := none
      published_iff := by simp [PendingInput.published_eq_none h] }
  else input

theorem saveInput_id : (saveInput content input).id = input.id := by
  unfold saveInput
  split <;> rfl

def closeEdit (conversationId pendingInputId : String) : ChatStore :=
  { s with
    editSessions := s.editSessions.deleteWhere (fun session =>
      session.conversationId == conversationId && session.pendingInputId == pendingInputId) }

def rewriteEdit (conversationId : String) (f : EditSession → EditSession) (hf : ∀ r, (f r).conversationId = r.conversationId) :
    ChatStore :=
  { s with editSessions := s.editSessions.update conversationId f hf }

variable (command : EditPendingInput)

def storeEditRefs (refs : List LocalAttachmentSourceRef) : Except String ChatStore :=
  match serializeSourceAttachments refs with
  | .error message => .error message
  | .ok refs =>
    .ok (s.rewriteEdit command.conversationId
      (fun session => { session with working := { session.working with sourceAttachments := refs } }) fun _ => rfl)

variable (input : PendingInput)

def returnToComposer (expectedDraftRevision : Nat) : Handled :=
  match s.loadDraftRefs command.conversationId command.draftClient with
  | .error message => .error message
  | .ok (draftRevision, _) =>
    if draftRevision ≠ expectedDraftRevision then
      refuse s "single_chat.draft_changed" "The Composer Draft changed; reload it first"
    else
      match parseSourceAttachments input.content.sourceAttachments with
      | .error message => .error message
      | .ok refs =>
        match s.storeDraftRefs command.conversationId command.draftClient draftRevision refs with
        | .error message => .error message
        | .ok drafted =>
          match parseQuotes input.content.quotes with
          | .error message => .error message
          | .ok quotes =>
            .ok (.edited "single_chat.pending_input_returned_to_composer" none,
              { drafted with
                drafts := drafted.drafts.update (command.conversationId, command.draftClient)
                  (fun draft => { draft with quotes := quotes, quoteTrash := [] })
                pendingInputs := drafted.pendingInputs.update command.pendingInputId cancelInput cancelInput_id
              }.closeEdit command.conversationId command.pendingInputId)

def startedEdit (newToken : String) : EditSession where
  conversationId := command.conversationId
  pendingInputId := command.pendingInputId
  editToken := newToken
  basePendingRevision := input.revision
  recoveryRequired := false
  working := input.content
  quoteTrash := []
  clientId := command.draftClient

def startEdit (newToken : String) : Handled :=
  match parseQuotes input.content.quotes with
  | .error message => .error message
  | .ok _ =>
    .ok (.edited "single_chat.pending_input_edit_started" (some newToken),
      { s with
        editSessions := (s.editSessions.deleteWhere (fun session => session.conversationId == command.conversationId)).insert
          (startedEdit command input newToken) })

def finishEdit : Handled :=
  .ok (.edited "single_chat.pending_input_updated" none, s.closeEdit command.conversationId command.pendingInputId)

variable (session : EditSession)

def saveEdit (body : String) : Handled :=
  if maxBodyCharacters < body.toList.length then .error "Single Chat body exceeds the 100000-character limit"
  else
    match parseSourceAttachments session.working.sourceAttachments with
    | .error message => .error message
    | .ok refs =>
      match parseQuotes session.working.quotes with
      | .error message => .error message
      | .ok quotes =>
        if !quotes.isEmpty && isEmptyText body then .error "quote.question_required"
        else if isEmptyText body && refs.isEmpty then
          refuse s "single_chat.empty_message" "Pending input must contain text or an attachment"
        else
          { s with
            pendingInputs := s.pendingInputs.update command.pendingInputId
              (saveInput ⟨trimmed body, session.working.sourceAttachments, quotes⟩) (saveInput_id _)
          }.finishEdit command

def removeEditAttachment (attachmentRefId : String) : Handled :=
  match parseSourceAttachments session.working.sourceAttachments with
  | .error message => .error message
  | .ok refs =>
    let kept := refs.filter (fun ref => ref.id != attachmentRefId)
    if kept.length = refs.length then
      refuse s "attachment_not_found" "Source Attachment no longer exists in this edit"
    else
      match s.storeEditRefs command kept with
      | .error message => .error message
      | .ok stored => .ok (.edited "single_chat.pending_input_attachment_removed" none, stored)

def reorderEditAttachments (attachmentRefIds : List String) : Handled :=
  match parseSourceAttachments session.working.sourceAttachments with
  | .error message => .error message
  | .ok refs =>
    if attachmentRefIds.length ≠ refs.length ∨ attachmentRefIds.dedup.length ≠ refs.length ∨
        attachmentRefIds.any (fun id => !refs.any (fun ref => ref.id == id)) then
      refuse s "attachment_order_changed" "Source Attachment order no longer matches this edit"
    else
      match s.storeEditRefs command (attachmentRefIds.filterMap (fun id => refs.find? (fun ref => ref.id == id))) with
      | .error message => .error message
      | .ok stored => .ok (.edited "single_chat.pending_input_attachments_reordered" none, stored)

def quoteEdit (command : EditPendingInput) (session : EditSession) (newQuoteId : String) (action : QuoteAction) :
    Handled :=
  match mutateQuotes (captureQuote s w command.campId command.conversationId newQuoteId) session.working.quotes
      session.quoteTrash action with
  | .error message => .error message
  | .ok (quotes, trash) =>
    .ok (.edited "single_chat.pending_input_quotes_updated" none,
      s.rewriteEdit command.conversationId
        (fun session => { session with working := { session.working with quotes := quotes }, quoteTrash := trash })
        fun _ => rfl)

variable (session : Option EditSession)

def asOwner (owns : Bool) (message : String) (act : EditSession → Handled) : Handled :=
  match session with
  | none => s.editFenced message
  | some session => if owns then act session else s.editFenced message

def asWriter (owns : Bool) (message : String) (act : EditSession → Handled) : Handled :=
  s.asOwner session owns message (fun session =>
    if session.recoveryRequired then s.editFenced message else act session)

def unlessFenced (owns : Bool) (act : Handled) : Handled :=
  if session.any (fun session => session.pendingInputId == command.pendingInputId) && !owns then
    s.editFenced "The pending input edit session changed"
  else act

def editAction (command : EditPendingInput) (input : PendingInput) (session : Option EditSession) (owns : Bool)
    (newId : String) : Handled :=
  match command.action with
  | .returnToComposer expectedDraftRevision =>
    s.unlessFenced command session owns (s.returnToComposer command input expectedDraftRevision)
  | .begin =>
    if session.isSome then
      refuse s "single_chat.pending_input_edit_open" "Finish the existing pending input edit first"
    else s.startEdit command input newId
  | .takeover =>
    if owns then s.startEdit command input newId else s.editFenced "The pending input edit session changed"
  | .save body => s.asWriter session owns "Reopen the pending input before saving" (s.saveEdit command · body)
  | .quote action =>
    s.asWriter session owns "Reopen the pending input before editing quotes" (s.quoteEdit w command · newId action)
  | .removeAttachment attachmentRefId =>
    s.asWriter session owns "Reopen the pending input before editing attachments"
      (s.removeEditAttachment command · attachmentRefId)
  | .reorderAttachments attachmentRefIds =>
    s.asWriter session owns "Reopen the pending input before editing attachments"
      (s.reorderEditAttachments command · attachmentRefIds)
  | .cancel => if owns then s.finishEdit command else s.editFenced "The pending input edit session changed"
  | .delete =>
    s.unlessFenced command session owns ({ s with
      pendingInputs := s.pendingInputs.update command.pendingInputId cancelInput cancelInput_id }.finishEdit command)

def editPendingInput (command : EditPendingInput) (newId : String) : Handled :=
  match e.actor with
  | .user _ =>
    match s.loadActiveTarget w command.conversationId with
    | none => notActive s
    | some target =>
      if e.campId ≠ some target.campId ∨ command.campId ≠ target.campId then campMismatch s
      else
        match s.loadPendingInput command.conversationId command.pendingInputId with
        | none => refuse s "single_chat.pending_input_not_found" "Pending input no longer exists"
        | some input =>
          if input.revision ≠ command.expectedRevision ∨ input.state.inQueue = false then
            refuse s "single_chat.pending_input_changed" "Pending input changed or was already sent"
          else
            let session := s.editSessions.find? command.conversationId
            s.editAction w command input session (session.any (·.owns command input.revision)) newId
  | _ => localUserRequired s "Only the local user can edit Single Chat pending inputs"

/-! ## Publishing -/

def publishedInput (p : Published) (input : PendingInput) : PendingInput :=
  { input with state := .published, published := some p, lastAttemptErrorCode := none, published_iff := by simp }

def readyToPublish (command : PublishPendingInput) : Bool :=
  input.revision == command.expectedRevision && input.state == .queued &&
    (s.queueHead command.conversationId).map PendingInput.id == some command.pendingInputId &&
    !s.editOpen command.pendingInputId && !s.hasActiveRun command.conversationId

def publishReady (command : PublishPendingInput) (ids : NewIds)
    (target : AgentRuns.Conversation) (input : PendingInput) : Handled :=
  match w.attachmentFailure input.content.sourceAttachments with
  | some code => .error code
  | none =>
    match w.frozenRuntime with
    | .error blockerCode => .error ("single_chat.runtime_not_ready: " ++ blockerCode)
    | .ok runtime =>
      match parseQuotes input.content.quotes with
      | .error message => .error message
      | .ok _ =>
        match s.admitMessage ids target userId input.content runtime none with
        | .error message => .error message
        | .ok admitted =>
          .ok (.pendingInputPublished ids.published,
            { admitted with
              pendingInputs := admitted.pendingInputs.update command.pendingInputId (publishedInput ids.published) })

def publishPendingInput (command : PublishPendingInput) (ids : NewIds) : Handled :=
  match e.actor with
  | .user userId =>
    if command.userId ≠ userId then .error "single_chat.pending_user_changed"
    else
      match s.loadActiveTarget w command.conversationId with
      | none => .error "Single Chat pending input target is no longer active"
      | some target =>
        if target.campId ≠ command.campId then .error "single_chat.camp_mismatch"
        else
          match s.loadPendingInput command.conversationId command.pendingInputId with
          | none => .error "Single Chat pending input no longer exists"
          | some input =>
            match parseSourceAttachments input.content.sourceAttachments with
            | .error message => .error message
            | .ok _ =>
              if input.userId ≠ userId then .error "single_chat.pending_user_changed"
              else if !s.readyToPublish input command then
                refuse s "single_chat.pending_input_not_ready" "Single Chat queue head is not ready to send"
              else s.publishReady w userId command ids target input
  | _ => .error "Single Chat pending input must publish as its original user"

def repairInput (code : String) (input : PendingInput) : PendingInput :=
  if h : input.state = .queued then
    { input with
      state := .needsRepair, lastAttemptErrorCode := some code
      published_iff := by simp [@PendingInput.published_eq_none input (by rw [h]; rfl)] }
  else input

theorem repairInput_id (code : String) (input : PendingInput) : (repairInput code input).id = input.id := by
  unfold repairInput
  split <;> rfl

/-- The input that could not be sent holds its place in the queue until it is edited or cancelled. -/
def recordPendingPublishFailure (command : PublishPendingInput) (code : String) : ChatStore :=
  { s with
    pendingInputs := s.pendingInputs.updateWhere
      (fun input => input.id == command.pendingInputId && input.conversationId == command.conversationId &&
        input.revision == command.expectedRevision)
      (repairInput code) (repairInput_id code) }

def recoverPendingEditSessions : ChatStore :=
  { s with editSessions := s.editSessions.updateWhere (fun _ => true) (fun session => { session with recoveryRequired := true }) }

/-! ## Ending -/

def recomputedStatus (turn : CampTurn) (statuses : List AgentRunStatus) : AgentRuns.CampTurnStatus :=
  let unsettled := statuses.any (fun status => !AgentRuns.terminal status)
  if turn.executionBudgetExhausted then (if unsettled then .waiting else .failed)
  else if turn.cancelRequested then (if unsettled then .waiting else .cancelled)
  else if unsettled then (if statuses.any (· == .waiting) then .waiting else .running)
  else if statuses.any (fun status => status == .cancelled || status == .failed) then .failed
  else .completed

variable (runtime : AgentRuns.Store)

def recomputeCampTurn (campTurnId : String) : Except String AgentRuns.Store :=
  match runtime.turns.find? campTurnId with
  | none => .error "Query returned no rows"
  | some turn =>
    let statuses := (runtime.runs.rows.filter (fun run => run.campTurnId == some campTurnId)).map AgentRun.status
    if statuses.isEmpty then .error "ThreadTurn has no current AgentRun responsibilities"
    else
      .ok { runtime with
        turns := runtime.turns.update campTurnId (fun turn => { turn with status := recomputedStatus turn statuses }) }

def endConversation (conversation : AgentRuns.Conversation) : AgentRuns.Conversation :=
  { conversation with ended := true, version := conversation.version + 1 }

def settleActiveRun (conversationId : String) : Except String (Option String × AgentRuns.Store) :=
  match runtime.runs.rows.find? (isActiveChatRun conversationId) with
  | none => .ok (none, runtime)
  | some run =>
    match runtime.settleAbortiveAgentRunInTx run.id "single_chat_ended" with
    | .error message => .error message
    | .ok settled =>
      match run.campTurnId with
      | none => .error "Invalid column type Null"
      | some campTurnId =>
        match recomputeCampTurn settled campTurnId with
        | .error message => .error message
        | .ok recomputed => .ok (some run.id, recomputed)

def closeChat (conversationId : String) : ChatStore :=
  { s with
    runtime := runtime
    drafts := s.drafts.deleteWhere (fun draft => draft.conversationId == conversationId)
    editSessions := s.editSessions.deleteWhere (fun session => session.conversationId == conversationId)
    pendingInputs := s.pendingInputs.updateWhere (isQueuedIn conversationId) cancelInput cancelInput_id }

def endChat (command : EndSingleChat) : Handled :=
  match e.actor with
  | .user _ =>
    match (s.runtime.conversations.find? command.conversationId).filter (fun c => c.kind == .singleChat) with
    | none => notActive s
    | some target =>
      if e.campId ≠ some target.campId ∨ command.campId ≠ target.campId then campMismatch s
      else if target.ended then .ok (.ended none, s)
      else
        match settleActiveRun { s.runtime with
            conversations := s.runtime.conversations.update target.id endConversation } target.id with
        | .error message => .error message
        | .ok (cancelled, settled) => .ok (.ended cancelled, s.closeChat settled target.id)
  | _ => localUserRequired s "Single Chat v1 is available only to the local user"

/-! ## The composer draft and the attachments of an edit -/

def addSourceAttachment (conversationId clientId : String) (expectedDraftRevision : Nat)
    (ref : LocalAttachmentSourceRef) : Except String ChatStore :=
  match w.attachmentFailure [ref] with
  | some code => .error code
  | none =>
    if (s.loadActiveTarget w conversationId).isNone then .error "single_chat.not_active"
    else
      match s.loadDraftRefs conversationId clientId with
      | .error message => .error message
      | .ok (revision, refs) =>
        if revision ≠ expectedDraftRevision then .error "single_chat.draft_changed"
        else if maxPreparedAttachments ≤ refs.length then .error "attachment_count_exceeded"
        else s.storeDraftRefs conversationId clientId expectedDraftRevision (refs ++ [ref])

def removeSourceAttachment (conversationId clientId : String) (expectedDraftRevision : Nat)
    (attachmentRefId : String) : Except String ChatStore :=
  if (s.loadActiveTarget w conversationId).isNone then .error "single_chat.not_active"
  else
    match s.loadDraftRefs conversationId clientId with
    | .error message => .error message
    | .ok (revision, refs) =>
      let kept := refs.filter (fun ref => ref.id != attachmentRefId)
      if revision ≠ expectedDraftRevision then .error "single_chat.draft_changed"
      else if kept.length = refs.length then .error "attachment_not_found"
      else s.storeDraftRefs conversationId clientId expectedDraftRevision kept

def addPendingSourceAttachment (clientId : String) (command : EditPendingInput) (ref : LocalAttachmentSourceRef) :
    Except String ChatStore :=
  match w.attachmentFailure [ref] with
  | some code => .error code
  | none =>
    match s.loadActiveTarget w command.conversationId with
    | none => .error "single_chat.not_active"
    | some target =>
      if target.campId ≠ command.campId then .error "single_chat.camp_mismatch"
      else if !(s.loadPendingInput command.conversationId command.pendingInputId).any (fun input =>
          input.state.inQueue && input.revision == command.expectedRevision) then
        .error "single_chat.pending_input_changed"
      else
        match (s.editSessions.find? command.conversationId).filter (fun session =>
            session.owns { command with draftClient := clientId } command.expectedRevision && !session.recoveryRequired) with
        | none => .error "single_chat.pending_input_edit_fenced"
        | some session =>
          match parseSourceAttachments session.working.sourceAttachments with
          | .error message => .error message
          | .ok refs =>
            if maxPreparedAttachments ≤ refs.length then .error "attachment_count_exceeded"
            else s.storeEditRefs command (refs ++ [ref])

def mutateDraft (command : MutateQuoteDraft) (newQuoteId : String) : Handled :=
  match e.actor with
  | .user _ =>
    if e.campId ≠ some command.campId then .error "quote.local_user_required"
    else if !(s.runtime.conversations.find? command.conversationId).any (fun c =>
        c.campId == command.campId && c.kind == .singleChat && !c.ended) then .error "quote.owner_unavailable"
    else
      let owner := (command.conversationId, command.draftClient)
      let revision := ((s.drafts.find? owner).map ComposerDraft.revision).getD 0
      if revision ≠ command.expectedRevision then .ok (.draftChanged revision, s)
      else
        let drafted := s.withDraft command.conversationId command.draftClient
        match drafted.drafts.find? owner with
        | none => .error "Query returned no rows"
        | some draft =>
          match mutateQuotes (captureQuote s w command.campId command.conversationId newQuoteId) draft.quotes draft.quoteTrash
              command.action with
          | .error message => .error message
          | .ok (quotes, trash) =>
            .ok (.draftUpdated (revision + 1),
              { drafted with
                drafts := drafted.drafts.update owner (fun draft =>
                  { draft with quotes := quotes, quoteTrash := trash, revision := revision + 1 }) })
  | _ => .error "quote.local_user_required"

/-! ## The end of a Run -/

def agentMessage (messageId output : String) (run : AgentRun) (agentId : String) (sequence : Nat) : ConversationMessage where
  id := messageId
  conversationId := run.conversationId
  sequence := sequence
  author := .agent agentId
  content := ⟨output, [], []⟩
  campTurnId := run.campTurnId
  agentRunId := run.id

def appendOutput (messageId output : String) (run : AgentRun) (agentId : String) : Except String ChatStore :=
  if (s.messages.find? messageId).isSome then .error "UNIQUE constraint failed: conversation_message.id"
  else
    .ok { s with
      lastMessageSequence := Function.update s.lastMessageSequence run.conversationId (s.lastMessageSequence run.conversationId + 1)
      messages := s.messages.insert
        (agentMessage messageId output run agentId (s.lastMessageSequence run.conversationId + 1)) }

def succeedAgentRun (e : AgentRuns.Envelope) (command : AgentRuns.Store.FencedCommand) (nativeTurnId : String)
    (terminalReasonCode : Option String) (cleanupRequired : Bool) (finalOutput messageId : String)
    (facts : AgentRuns.Store.TerminalFacts) : Except String ChatStore :=
  match s.runtime.succeedAgentRun e command nativeTurnId terminalReasonCode cleanupRequired (!isEmptyText finalOutput) facts with
  | .error message => .error message
  | .ok (result, runtime) =>
    match s.runtime.runs.find? command.agentRunId with
    | none => .ok { s with runtime := runtime }
    | some run =>
      if result.isRejected || run.invocationKind != .singleChat || isEmptyText finalOutput then .ok { s with runtime := runtime }
      else
        { s with runtime := runtime }.appendOutput messageId finalOutput run
          (((s.runtime.conversations.find? run.conversationId).map AgentRuns.Conversation.agentId).getD "")

end ChatStore
end Rovai.SingleChat
