import RovaiCore.SingleChat
/-!
# The Single Chats as a system

An action is one transaction: a command of some client, a write of the publisher, a change of a composer draft, the end of a Run
that answers, or any transaction of the AgentRun store that neither opens or ends a Single Chat nor queues a Run of one.
-/
namespace Rovai.SingleChat

open Tables (Table)

def sparesChats : AgentRuns.Action → Bool
  | .queueRun run => run.invocationKind != .singleChat
  | .openConversation _ kind _ => kind != .singleChat
  | .endConversation _ => false
  | .succeedAgentRun .. => false
  | _ => true

inductive Action where
  | openChat (w : World) (e : Envelope) (command : OpenSingleChat) (newConversationId : String)
  | send (w : World) (e : Envelope) (command : SendSingleChatMessage) (ids : NewIds)
  | editPendingInput (w : World) (e : Envelope) (command : EditPendingInput) (newId : String)
  | publishPendingInput (w : World) (e : Envelope) (command : PublishPendingInput) (ids : NewIds)
  | recordPendingPublishFailure (command : PublishPendingInput) (code : String)
  | recoverPendingEditSessions
  | endChat (e : Envelope) (command : EndSingleChat)
  | addSourceAttachment (w : World) (conversationId clientId : String) (expectedDraftRevision : Nat)
      (ref : LocalAttachmentSourceRef)
  | removeSourceAttachment (w : World) (conversationId clientId : String) (expectedDraftRevision : Nat)
      (attachmentRefId : String)
  | addPendingSourceAttachment (w : World) (clientId : String) (command : EditPendingInput) (ref : LocalAttachmentSourceRef)
  | mutateDraft (w : World) (e : Envelope) (command : MutateQuoteDraft) (newQuoteId : String)
  | succeedAgentRun (e : AgentRuns.Envelope) (command : AgentRuns.Store.FencedCommand) (nativeTurnId : String)
      (terminalReasonCode : Option String) (cleanupRequired : Bool) (finalOutput messageId : String)
      (facts : AgentRuns.Store.TerminalFacts)
  | runtime (a : { a : AgentRuns.Action // sparesChats a = true })

namespace ChatStore

variable (s : ChatStore)

def committed : Handled → Option Reply × ChatStore
  | .ok (reply, t) => (some reply, t)
  | .error _ => (none, s)

def written : Except String ChatStore → Option Reply × ChatStore
  | .ok t => (none, t)
  | .error _ => (none, s)

def perform : Action → Option Reply × ChatStore
  | .openChat w e command id => s.committed (s.openChat w e command id)
  | .send w e command ids => s.committed (s.send w e command ids)
  | .editPendingInput w e command id => s.committed (s.editPendingInput w e command id)
  | .publishPendingInput w e command ids => s.committed (s.publishPendingInput w e command ids)
  | .recordPendingPublishFailure command code => (none, s.recordPendingPublishFailure command code)
  | .recoverPendingEditSessions => (none, s.recoverPendingEditSessions)
  | .endChat e command => s.committed (s.endChat e command)
  | .addSourceAttachment w conversationId clientId revision ref =>
    s.written (s.addSourceAttachment w conversationId clientId revision ref)
  | .removeSourceAttachment w conversationId clientId revision refId =>
    s.written (s.removeSourceAttachment w conversationId clientId revision refId)
  | .addPendingSourceAttachment w clientId command ref => s.written (s.addPendingSourceAttachment w clientId command ref)
  | .mutateDraft w e command quoteId => s.committed (s.mutateDraft w e command quoteId)
  | .succeedAgentRun e command nativeTurnId reason cleanup output messageId facts =>
    s.written (s.succeedAgentRun e command nativeTurnId reason cleanup output messageId facts)
  | .runtime a => (none, { s with runtime := s.runtime.step a.val })

end ChatStore

/-- What an accepted send became: a message at once, or an input that waits. -/
inductive Accepted where
  | sent (conversationId conversationMessageId : String)
  | queued (conversationId pendingInputId : String)
  deriving DecidableEq

def Accepted.conversationId : Accepted → String
  | .sent conversationId _ | .queued conversationId _ => conversationId

def acceptance : Action → Option Reply → Option Accepted
  | .send _ _ command _, some (.replyQueued admitted) => some (.sent command.conversationId admitted.conversationMessageId)
  | .send _ _ command _, some (.pendingInputQueued pendingInputId) => some (.queued command.conversationId pendingInputId)
  | _, _ => none

/-- The store, and the sends that were accepted in the order in which they were. -/
structure System where
  chat : ChatStore
  accepted : List Accepted

def System.initial : System := ⟨.empty, []⟩

def System.step (t : System) (a : Action) : System :=
  ⟨(t.chat.perform a).2, t.accepted ++ (acceptance a (t.chat.perform a).1).toList⟩

def System.run (t : System) (as : List Action) : System :=
  as.foldl System.step t

/-! ## The fate of an input -/

namespace ChatStore

variable (s : ChatStore)

def messageOf : Accepted → Option ConversationMessage
  | .sent _ messageId => s.messages.find? messageId
  | .queued _ pendingInputId =>
    ((s.pendingInputs.find? pendingInputId).bind PendingInput.published).bind
      (fun p => s.messages.find? p.conversationMessageId)

def isCancelled : Accepted → Bool
  | .sent .. => false
  | .queued _ pendingInputId => (s.pendingInputs.find? pendingInputId).any (fun input => input.state == .cancelled)

def isUserMessage (message : ConversationMessage) : Bool :=
  match message.author with
  | .user _ => true
  | .agent _ => false

end ChatStore
end Rovai.SingleChat
