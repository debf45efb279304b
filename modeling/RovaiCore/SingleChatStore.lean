import RovaiCore.AgentRunSteps
import RovaiCore.Fallible
/-!
# The Single Chat store (`single_chat.rs`, `message_quote.rs`, `local_attachment_source.rs`)

The rows of the Single Chats beside those of the AgentRuns: the messages of a conversation, the inputs that wait for the Run
before them, the edit that one client may have open in a conversation, and each client's composer draft.
-/
namespace Rovai.SingleChat

open Tables (Table)
open Fallible
open AgentRuns (AgentRun)

/-! ## Vocabulary -/

inductive ActorRef where
  | user (userId : String)
  | agent (agentId : String)
  | system (componentId : String)

structure Envelope where
  actor : ActorRef
  campId : Option String

inductive LocalAttachmentKind where
  | file
  | directory
  deriving DecidableEq

structure LocalAttachmentSourceRef where
  (id sourcePath displayName : String)
  kind : LocalAttachmentKind
  mediaType : Option String
  observedByteSize : Option Nat
  pastedTextPreview : Option String

structure MessageQuoteSource where
  (scope campId : String)
  conversationId : Option String
  messageId : String

inductive MessageQuoteAuthor where
  | user (displayName : String)
  | agent (agentId displayName : String)

structure MessageQuoteSnapshot where
  version : Nat
  quoteId : String
  source : Option MessageQuoteSource
  authorAtCapture : Option MessageQuoteAuthor
  (text format : String)

structure RemovedQuote where
  quote : MessageQuoteSnapshot
  index : Nat

structure Content where
  body : String
  sourceAttachments : List LocalAttachmentSourceRef
  quotes : List MessageQuoteSnapshot

inductive PendingState where
  | queued
  | needsRepair
  | published
  | cancelled
  deriving DecidableEq

def PendingState.inQueue : PendingState → Bool
  | .queued | .needsRepair => true
  | .published | .cancelled => false

inductive MessageAuthor where
  | user (userId : String)
  | agent (agentId : String)

/-! ## Rows -/

structure ConversationMessage where
  (id conversationId : String)
  sequence : Nat
  author : MessageAuthor
  content : Content
  campTurnId : Option String
  agentRunId : String

structure Published where
  (conversationMessageId campTurnId agentRunId : String)

/-- The three columns of what it became are there exactly when the input is published: three checks of the table. -/
structure PendingInput where
  (id conversationId : String)
  (enqueueSequence revision : Nat)
  state : PendingState
  content : Content
  (userId clientId : String)
  published : Option Published
  lastAttemptErrorCode : Option String
  published_iff : state = .published ↔ published.isSome = true

theorem PendingInput.published_eq_none {input : PendingInput} (h : input.state.inQueue = true) : input.published = none := by
  cases hpublished : input.published with
  | none => rfl
  | some p =>
    have hstate := input.published_iff.2 (by rw [hpublished]; rfl)
    rw [hstate] at h
    cases h

structure EditSession where
  (conversationId pendingInputId editToken : String)
  basePendingRevision : Nat
  recoveryRequired : Bool
  working : Content
  quoteTrash : List RemovedQuote
  clientId : String

structure ComposerDraft where
  (conversationId clientId : String)
  revision : Nat
  sourceAttachments : List LocalAttachmentSourceRef
  quotes : List MessageQuoteSnapshot
  quoteTrash : List RemovedQuote

def ComposerDraft.owner (d : ComposerDraft) : String × String :=
  (d.conversationId, d.clientId)

/-- `runtime` holds the Runs, the ThreadTurns and the conversations; a conversation's last message sequence stands beside
them, and is zero for one that has no message. -/
structure ChatStore where
  runtime : AgentRuns.Store
  lastMessageSequence : String → Nat
  messages : Table ConversationMessage.id
  pendingInputs : Table PendingInput.id
  editSessions : Table EditSession.conversationId
  drafts : Table ComposerDraft.owner

def ChatStore.empty : ChatStore :=
  ⟨.empty, fun _ => 0, .empty, .empty, .empty, .empty⟩

inductive Reply where
  | rejected (code message : String)
  | draftChanged (currentDraftRevision : Nat)
  | runtimeNotReady (blockerCode : String)
  | opened (conversationId : String) (created : Bool)
  | pendingInputQueued (pendingInputId : String)
  | replyQueued (admitted : Published)
  | pendingInputPublished (admitted : Published)
  | edited (code : String) (editToken : Option String)
  | ended (cancelledAgentRunId : Option String)
  | draftUpdated (revision : Nat)

def Reply.isRejected : Reply → Bool
  | .rejected .. | .draftChanged _ | .runtimeNotReady _ => true
  | _ => false

abbrev Handled := Except String (Reply × ChatStore)

def refuse (s : ChatStore) (code message : String) : Handled :=
  .ok (.rejected code message, s)

/-- What a transaction reads of the other components: whether the Thread is active, whether the member is, the first
attachment that cannot be read, the frozen Runtime or its blocker, and the display name of a profile. -/
structure World where
  (campActive memberActive : Bool)
  attachmentFailure : List LocalAttachmentSourceRef → Option String
  frozenRuntime : Except String AgentRuns.AdapterKind
  displayName : String → Option String

/-! ## Texts -/

def trimmed (text : String) : String :=
  String.ofList (trim text.toList)

def isEmptyText (text : String) : Bool :=
  AgentRuns.isBlank text

def isControlMark (c : Char) : Bool :=
  c.toNat < 0x20 || (0x7f ≤ c.toNat && c.toNat < 0xa0) || (0x202a ≤ c.toNat && c.toNat ≤ 0x202e) ||
    (0x2066 ≤ c.toNat && c.toNat ≤ 0x2069)

def maxBodyCharacters : Nat := 100000
def maxPreparedAttachments : Nat := 10
def maxQuoteScalars : Nat := 12000

/-! ## Attachments -/

def isCanonicalUuid (id : String) : Bool :=
  id.toList.length == 36 && id.toList.zipIdx.all (fun (c, i) =>
    if [8, 13, 18, 23].contains i then c == '-' else c.isDigit || ('a' ≤ c && c ≤ 'f'))

def validateDisplayName (value : String) : Except String Unit :=
  if isEmptyText value then .error "Source Attachment display name is empty"
  else if value.toList.any isControlMark then .error "Source Attachment display name contains control characters"
  else .ok ()

def validateRef (seen : List String) (ref : LocalAttachmentSourceRef) : Except String Unit :=
  if !isCanonicalUuid ref.id then .error "Source Attachment ID is not canonical"
  else if seen.contains ref.id then .error "Source Attachment ID is duplicated"
  else if !("/".isPrefixOf ref.sourcePath) then .error "Source Attachment path must be absolute"
  else
    match validateDisplayName ref.displayName with
    | .error message => .error message
    | .ok () =>
      if ref.pastedTextPreview.any (fun preview =>
          ref.kind != .file || decide (160 < preview.toList.length) || preview.toList.any isControlMark) then
        .error "Source Attachment pasted text preview is invalid"
      else if ref.kind == .directory && ref.observedByteSize.isSome then
        .error "Directory Source Attachment must not claim a byte size"
      else .ok ()

def validateRefsFrom : List String → List LocalAttachmentSourceRef → Except String Unit
  | _, [] => .ok ()
  | seen, ref :: rest =>
    match validateRef seen ref with
    | .error message => .error message
    | .ok () => validateRefsFrom (ref.id :: seen) rest

variable (refs : List LocalAttachmentSourceRef)

def validateRefShape : Except String Unit :=
  validateRefsFrom [] refs

def serializeSourceAttachments : Except String (List LocalAttachmentSourceRef) :=
  match validateRefShape refs with
  | .error message => .error message
  | .ok () => .ok refs

def parseSourceAttachments : Except String (List LocalAttachmentSourceRef) :=
  serializeSourceAttachments refs

/-! ## Quotes -/

def quoteScalarCount (quotes : List MessageQuoteSnapshot) : Nat :=
  (quotes.map (fun quote => quote.text.toList.length)).sum

def parseQuotes (quotes : List MessageQuoteSnapshot) : Except String (List MessageQuoteSnapshot) :=
  if maxQuoteScalars < quoteScalarCount quotes then .error "quote.limit_exceeded"
  else if quotes.all (fun quote => quote.version == 1 && quote.format == "plain_text" && !isEmptyText quote.text) &&
      decide (quotes.map MessageQuoteSnapshot.quoteId).Nodup then .ok quotes
  else .error "quote.invalid_snapshot"

theorem parseQuotes_ok {quotes quotes' : List MessageQuoteSnapshot} (h : parseQuotes quotes = .ok quotes') : quotes' = quotes := by
  unfold parseQuotes at h
  repeat' split at h
  all_goals cases h <;> rfl

inductive QuoteAction where
  | add (messageId : Option String) (text : String)
  | remove (quoteId : String)
  | restore (quoteId : String)

def captureQuote (s : ChatStore) (w : World) (campId conversationId quoteId : String) (messageId : Option String)
    (text : String) : Except String MessageQuoteSnapshot :=
  if isEmptyText text then .error "quote.invalid_selection"
  else if maxQuoteScalars < text.toList.length then .error "quote.limit_exceeded"
  else
    let quoted := (messageId.bind s.messages.find?).filter (fun message => message.conversationId == conversationId)
    .ok {
      version := 1
      quoteId := quoteId
      source := messageId.map (fun id => ⟨"single_chat", campId, some conversationId, id⟩)
      authorAtCapture := quoted.bind (fun message =>
        match message.author with
        | .user _ => some (.user "用户")
        | .agent agentId => (w.displayName agentId).map (.agent agentId))
      text := text
      format := "plain_text" }

def applyQuoteAction (capture : Option String → String → Except String MessageQuoteSnapshot)
    (quotes : List MessageQuoteSnapshot) (trash : List RemovedQuote) :
    QuoteAction → Except String (List MessageQuoteSnapshot × List RemovedQuote)
  | .add messageId text =>
    match capture messageId text with
    | .error message => .error message
    | .ok quote => .ok (quotes ++ [quote], trash)
  | .remove quoteId =>
    match quotes.findIdx? (fun quote => quote.quoteId == quoteId) with
    | none => .error "quote.not_found"
    | some index =>
      match quotes[index]? with
      | none => .error "quote.not_found"
      | some quote => .ok (quotes.eraseIdx index, trash ++ [⟨quote, index⟩])
  | .restore quoteId =>
    match trash.findIdx? (fun item => item.quote.quoteId == quoteId) with
    | none => .error "quote.undo_unavailable"
    | some position =>
      match trash[position]? with
      | none => .error "quote.undo_unavailable"
      | some item => .ok (quotes.insertIdx (min item.index quotes.length) item.quote, trash.eraseIdx position)

def mutateQuotes (capture : Option String → String → Except String MessageQuoteSnapshot)
    (quotes : List MessageQuoteSnapshot) (trash : List RemovedQuote) (action : QuoteAction) :
    Except String (List MessageQuoteSnapshot × List RemovedQuote) :=
  match parseQuotes quotes with
  | .error message => .error message
  | .ok quotes =>
    match applyQuoteAction capture quotes trash action with
    | .error message => .error message
    | .ok (quotes, trash) =>
      match parseQuotes quotes with
      | .error message => .error message
      | .ok quotes => .ok (quotes, trash)

namespace ChatStore

variable (s : ChatStore)

/-! ## Drafts -/

def loadDraftRefs (conversationId clientId : String) : Except String (Nat × List LocalAttachmentSourceRef) :=
  match s.drafts.find? (conversationId, clientId) with
  | none => .ok (0, [])
  | some draft =>
    match parseSourceAttachments draft.sourceAttachments with
    | .error message => .error message
    | .ok refs => .ok (draft.revision, refs)

def loadDraftQuotes (conversationId clientId : String) : Except String (List MessageQuoteSnapshot) :=
  parseQuotes (((s.drafts.find? (conversationId, clientId)).map ComposerDraft.quotes).getD [])

def writeDraft (conversationId clientId : String) (expectedRevision : Nat) (f : ComposerDraft → ComposerDraft)
    (hf : ∀ d, (f d).owner = d.owner) : Except String ChatStore :=
  match s.drafts.find? (conversationId, clientId) with
  | some draft =>
    if draft.revision = expectedRevision then .ok { s with drafts := s.drafts.update (conversationId, clientId) f hf }
    else if expectedRevision = 0 then .error "UNIQUE constraint failed: single_chat_composer_draft"
    else .error "single_chat.draft_changed"
  | none =>
    if expectedRevision = 0 then .ok { s with drafts := s.drafts.insert (f ⟨conversationId, clientId, 0, [], [], []⟩) }
    else .error "single_chat.draft_changed"

def consumedDraft (draft : ComposerDraft) : ComposerDraft :=
  { draft with sourceAttachments := [], quotes := [], quoteTrash := [], revision := draft.revision + 1 }

def consumeDraft (conversationId clientId : String) (expectedRevision : Nat) : Except String ChatStore :=
  s.writeDraft conversationId clientId expectedRevision consumedDraft fun _ => rfl

def refsDraft (draft : ComposerDraft) : ComposerDraft :=
  { draft with sourceAttachments := refs, revision := draft.revision + 1 }

def storeDraftRefs (conversationId clientId : String) (expectedRevision : Nat) (refs : List LocalAttachmentSourceRef) :
    Except String ChatStore :=
  match serializeSourceAttachments refs with
  | .error message => .error message
  | .ok refs => s.writeDraft conversationId clientId expectedRevision (refsDraft refs) fun _ => rfl

/-! ## What several functions ask -/

variable (conversationId : String)

def isActiveChatRun (run : AgentRun) : Bool :=
  run.conversationId == conversationId && run.invocationKind == .singleChat && !AgentRuns.terminal run.status

def hasActiveRun : Bool :=
  s.runtime.runs.any (isActiveChatRun conversationId)

def isQueuedIn (input : PendingInput) : Bool :=
  input.conversationId == conversationId && input.state.inQueue

def hasPendingQueue : Bool :=
  s.pendingInputs.any (isQueuedIn conversationId)

def loadActiveTarget (w : World) (conversationId : String) : Option AgentRuns.Conversation :=
  (s.runtime.conversations.find? conversationId).filter (fun c => c.kind == .singleChat && !c.ended && w.campActive)

def loadPendingInput (conversationId pendingInputId : String) : Option PendingInput :=
  (s.pendingInputs.find? pendingInputId).filter (fun input => input.conversationId == conversationId)

def nextEnqueueSequence : Nat :=
  ((s.pendingInputs.rows.filter (fun input => input.conversationId == conversationId)).map
    PendingInput.enqueueSequence).foldr max 0 + 1

def goesBefore (older input : PendingInput) : Bool :=
  decide (older.enqueueSequence < input.enqueueSequence) ||
    (older.enqueueSequence == input.enqueueSequence && decide (older.id < input.id))

def queueHead : Option PendingInput :=
  s.pendingInputs.rows.find? (fun input =>
    isQueuedIn conversationId input &&
      !s.pendingInputs.any (fun older => isQueuedIn conversationId older && goesBefore older input))

def editOpen (pendingInputId : String) : Bool :=
  s.editSessions.any (fun session => session.pendingInputId == pendingInputId)

end ChatStore
end Rovai.SingleChat
