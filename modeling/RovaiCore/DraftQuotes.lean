import RovaiCore.SingleChat
import Mathlib.Data.List.Perm.Basic
/-!
# The quotes of a draft (`message_quote.rs`)

A composer draft, of a Thread or of a Single Chat, and an edit of an input that waits carry two lists: the quotes that are shown,
and those that were taken out, each with the place where it stood.
-/
namespace Rovai.SingleChat

open List

abbrev Capture := Option String → String → Except String MessageQuoteSnapshot

abbrev QuoteLists := List MessageQuoteSnapshot × List RemovedQuote

def allQuotes (lists : QuoteLists) : List MessageQuoteSnapshot := lists.1 ++ lists.2.map RemovedQuote.quote

def quoteIds (lists : QuoteLists) : List String := (allQuotes lists).map MessageQuoteSnapshot.quoteId

/-! ## The actions -/

section Actions

variable {capture : Capture} {quotes quotes' : List MessageQuoteSnapshot} {trash trash' : List RemovedQuote} {action : QuoteAction}
  {id : String}

theorem mutateQuotes_eq_ok : mutateQuotes capture quotes trash action = .ok (quotes', trash') ↔
    parseQuotes quotes = .ok quotes ∧ applyQuoteAction capture quotes trash action = .ok (quotes', trash') ∧
      parseQuotes quotes' = .ok quotes' := by
  constructor
  · intro h
    unfold mutateQuotes at h
    split at h
    · cases h
    rename_i hload
    obtain rfl := parseQuotes_ok hload
    split at h
    · cases h
    rename_i hact
    split at h
    · cases h
    rename_i hstore
    obtain rfl := parseQuotes_ok hstore
    cases h
    exact ⟨hload, hact, hstore⟩
  · rintro ⟨hload, hact, hstore⟩
    simp [mutateQuotes, hload, hact, hstore]

theorem remove_eq_ok (h : applyQuoteAction capture quotes trash (.remove id) = .ok (quotes', trash')) :
    ∃ (index : Nat) (hindex : index < quotes.length), quotes[index].quoteId = id ∧ quotes' = quotes.eraseIdx index ∧
      trash' = trash ++ [⟨quotes[index], index⟩] := by
  simp only [applyQuoteAction] at h
  cases hfind : quotes.findIdx? (fun quote => quote.quoteId == id) with
  | none => rw [hfind] at h; cases h
  | some index =>
    obtain ⟨hindex, hid, -⟩ := findIdx?_eq_some_iff_getElem.1 hfind
    simp only [hfind, getElem?_eq_getElem hindex] at h
    cases h
    exact ⟨index, hindex, by simpa using hid, rfl, rfl⟩

theorem restore_eq_ok (h : applyQuoteAction capture quotes trash (.restore id) = .ok (quotes', trash')) :
    ∃ (position : Nat) (hposition : position < trash.length),
      quotes' = quotes.insertIdx (min trash[position].index quotes.length) trash[position].quote ∧
        trash' = trash.eraseIdx position := by
  simp only [applyQuoteAction] at h
  cases hfind : trash.findIdx? (fun item => item.quote.quoteId == id) with
  | none => rw [hfind] at h; cases h
  | some position =>
    obtain ⟨hposition, -, -⟩ := findIdx?_eq_some_iff_getElem.1 hfind
    simp only [hfind, getElem?_eq_getElem hposition] at h
    cases h
    exact ⟨position, hposition, rfl, rfl⟩

def QuoteAction.added (capture : Capture) : QuoteAction → Option MessageQuoteSnapshot
  | .add messageId text => (capture messageId text).toOption
  | _ => none

theorem allQuotes_perm (h : applyQuoteAction capture quotes trash action = .ok (quotes', trash')) :
    (allQuotes (quotes', trash')).Perm (allQuotes (quotes, trash) ++ (action.added capture).toList) := by
  cases action with
  | add messageId text =>
    simp only [applyQuoteAction] at h
    cases hcapture : capture messageId text with
    | error message => rw [hcapture] at h; cases h
    | ok quote =>
      rw [hcapture] at h
      cases h
      simp only [allQuotes, QuoteAction.added, hcapture, append_assoc]
      exact perm_append_comm.append_left quotes
  | remove id =>
    obtain ⟨index, hindex, -, rfl, rfl⟩ := remove_eq_ok h
    simp only [allQuotes, QuoteAction.added, map_append, ← append_assoc]
    have hfront := perm_append_singleton quotes[index] (quotes.eraseIdx index ++ trash.map RemovedQuote.quote)
    have herase := getElem_cons_eraseIdx_perm hindex
    simpa using hfront.trans (herase.append_right _)
  | restore id =>
    obtain ⟨position, hposition, rfl, rfl⟩ := restore_eq_ok h
    simp only [allQuotes, QuoteAction.added, Option.toList_none, append_nil]
    have hinsert := perm_insertIdx trash[position].quote quotes (Nat.min_le_right trash[position].index quotes.length)
    have herase := (getElem_cons_eraseIdx_perm hposition).map RemovedQuote.quote
    exact (hinsert.append_right _).trans (perm_middle.symm.trans (herase.append_left quotes))

theorem restore_remove (h : mutateQuotes capture quotes trash (.remove id) = .ok (quotes', trash'))
    (hids : (quoteIds (quotes, trash)).Nodup) : mutateQuotes capture quotes' trash' (.restore id) = .ok (quotes, trash) := by
  obtain ⟨hload, hact, hstore⟩ := mutateQuotes_eq_ok.1 h
  refine mutateQuotes_eq_ok.2 ⟨hstore, ?_, hload⟩
  obtain ⟨index, hindex, hid, rfl, rfl⟩ := remove_eq_ok hact
  rw [quoteIds, allQuotes, map_append] at hids
  have hnot : trash.findIdx? (fun item => item.quote.quoteId == id) = none := by
    rw [findIdx?_eq_none_iff]
    intro item hitem
    have hne := (nodup_append.1 hids).2.2 quotes[index].quoteId (mem_map_of_mem (getElem_mem hindex))
      item.quote.quoteId (mem_map_of_mem (mem_map_of_mem hitem))
    simpa [← hid] using Ne.symm hne
  have hplace : min index (quotes.eraseIdx index).length = index := by
    rw [length_eraseIdx_of_lt hindex]
    omega
  simp [applyQuoteAction, findIdx?_append, hnot, hid, hplace, insertIdx_eraseIdx_getElem hindex,
    eraseIdx_append_of_length_le]

end Actions

def actOnQuotes (capture : Capture) (action : String → QuoteAction) (ids : List String) (lists : QuoteLists) :
    Except String QuoteLists :=
  ids.foldlM (fun lists id => mutateQuotes capture lists.1 lists.2 (action id)) lists

theorem restore_removals {capture : Capture} : ∀ (ids : List String) (lists lists' : QuoteLists), (quoteIds lists).Nodup →
    actOnQuotes capture .remove ids lists = .ok lists' → actOnQuotes capture .restore ids.reverse lists' = .ok lists
  | [], lists, _, _, h => by
    cases h
    rfl
  | id :: ids, lists, lists', hids, h => by
    rw [actOnQuotes, foldlM_cons] at h
    cases hfirst : mutateQuotes capture lists.1 lists.2 (.remove id) with
    | error message => rw [hfirst] at h; cases h
    | ok next =>
      rw [hfirst] at h
      have hperm := allQuotes_perm (mutateQuotes_eq_ok.1 hfirst).2.1
      simp only [QuoteAction.added, Option.toList_none, append_nil] at hperm
      have hrest := restore_removals ids next lists' ((hperm.map _).nodup_iff.2 hids) h
      rw [actOnQuotes] at hrest
      rw [actOnQuotes, reverse_cons, foldlM_append, hrest]
      exact (bind_pure _).trans (restore_remove hfirst hids)

/-! ## The rows -/

/-- What a row of a draft or of an edit has to do with quotes; the revision of an edit is that of its input. -/
structure QuoteDraft where
  revision : Nat
  quotes : List MessageQuoteSnapshot
  quoteTrash : List RemovedQuote

def heldQuotes (draft : Option QuoteDraft) : QuoteLists := (draft.map fun row => (row.quotes, row.quoteTrash)).getD ([], [])

def heldRevision (draft : Option QuoteDraft) : Nat := (draft.map QuoteDraft.revision).getD 0

structure QuoteCommand where
  expectedRevision : Nat
  action : QuoteAction
  campId : String
  conversationId : Option String
  newQuoteId : String
  author : String → Option MessageQuoteAuthor
  (localUser ownerAvailable ownsEdit : Bool)

def QuoteCommand.capture (c : QuoteCommand) (messageId : Option String) (text : String) : Except String MessageQuoteSnapshot :=
  if isEmptyText text then .error "quote.invalid_selection"
  else if maxQuoteScalars < text.toList.length then .error "quote.limit_exceeded"
  else
    .ok {
      version := 1
      quoteId := c.newQuoteId
      source := messageId.map (fun id => ⟨if c.conversationId.isSome then "single_chat" else "camp", c.campId, c.conversationId, id⟩)
      authorAtCapture := messageId.bind c.author
      text := text
      format := "plain_text" }

inductive QuoteReply where
  | draftUpdated (revision : Nat)
  | draftChanged (currentRevision : Nat)
  | quotesUpdated
  | editFenced

def QuoteReply.applied : QuoteReply → Bool
  | .draftUpdated _ | .quotesUpdated => true
  | .draftChanged _ | .editFenced => false

inductive QuoteStorage where
  | clientCampDraft
  | clientPrivateDraft
  | privateEdit
  deriving DecidableEq

namespace QuoteStorage

/-- A row that is missing is inserted without quotes; of a Thread at revision one, of a Single Chat at zero.  Either is written over
by the revision that was read and one. -/
def mutateDraft (draft : Option QuoteDraft) (c : QuoteCommand) : Except String (QuoteReply × Option QuoteDraft) :=
  if !c.localUser then .error "quote.local_user_required"
  else if !c.ownerAvailable then .error "quote.owner_unavailable"
  else if heldRevision draft ≠ c.expectedRevision then .ok (.draftChanged (heldRevision draft), draft)
  else
    match mutateQuotes c.capture (heldQuotes draft).1 (heldQuotes draft).2 c.action with
    | .error message => .error message
    | .ok (quotes, trash) => .ok (.draftUpdated (heldRevision draft + 1), some ⟨heldRevision draft + 1, quotes, trash⟩)

def editQuotes (session : Option QuoteDraft) (c : QuoteCommand) : Except String (QuoteReply × Option QuoteDraft) :=
  match session with
  | none => .ok (.editFenced, session)
  | some row =>
    if row.revision ≠ c.expectedRevision ∨ !c.ownsEdit then .ok (.editFenced, session)
    else
      match mutateQuotes c.capture row.quotes row.quoteTrash c.action with
      | .error message => .error message
      | .ok (quotes, trash) => .ok (.quotesUpdated, some { row with quotes := quotes, quoteTrash := trash })

variable (storage : QuoteStorage) (draft : Option QuoteDraft) (c : QuoteCommand)

def handle : Except String (QuoteReply × Option QuoteDraft) :=
  if storage = .privateEdit then editQuotes draft c else mutateDraft draft c

def step : Option QuoteDraft :=
  match storage.handle draft c with
  | .ok (_, next) => next
  | .error _ => draft

def applies : Bool :=
  match storage.handle draft c with
  | .ok (reply, _) => reply.applied
  | .error _ => false

def nextRevision (revision : Nat) : Nat :=
  if storage = .privateEdit then revision else revision + 1

variable {storage : QuoteStorage} {draft : Option QuoteDraft} {c : QuoteCommand}

/-- A command changes nothing, or it expects the revision and its action is applied to both lists. -/
theorem step_cases (storage : QuoteStorage) (draft : Option QuoteDraft) (c : QuoteCommand) :
    (storage.applies draft c = false ∧ storage.step draft c = draft) ∨
      (storage.applies draft c = true ∧ c.expectedRevision = heldRevision draft ∧ ∃ quotes trash,
        mutateQuotes c.capture (heldQuotes draft).1 (heldQuotes draft).2 c.action = .ok (quotes, trash) ∧
          storage.step draft c = some ⟨storage.nextRevision (heldRevision draft), quotes, trash⟩) := by
  unfold applies step handle
  by_cases hedit : storage = .privateEdit
  · rw [if_pos hedit, nextRevision, if_pos hedit]
    cases draft with
    | none => exact .inl ⟨rfl, rfl⟩
    | some row =>
      by_cases hfence : row.revision ≠ c.expectedRevision ∨ (!c.ownsEdit) = true
      · rw [editQuotes, if_pos hfence]
        exact .inl ⟨rfl, rfl⟩
      rw [editQuotes, if_neg hfence]
      cases hquotes : mutateQuotes c.capture row.quotes row.quoteTrash c.action with
      | error message => exact .inl ⟨rfl, rfl⟩
      | ok lists => exact .inr ⟨rfl, (not_not.1 fun hne => hfence (.inl hne)).symm, lists.1, lists.2, hquotes, rfl⟩
  · rw [if_neg hedit, nextRevision, if_neg hedit, mutateDraft]
    by_cases hlocal : (!c.localUser) = true
    · rw [if_pos hlocal]
      exact .inl ⟨rfl, rfl⟩
    by_cases havailable : (!c.ownerAvailable) = true
    · rw [if_neg hlocal, if_pos havailable]
      exact .inl ⟨rfl, rfl⟩
    by_cases hrevision : heldRevision draft ≠ c.expectedRevision
    · rw [if_neg hlocal, if_neg havailable, if_pos hrevision]
      exact .inl ⟨rfl, rfl⟩
    rw [if_neg hlocal, if_neg havailable, if_neg hrevision]
    generalize hquotes : mutateQuotes c.capture _ _ c.action = lists
    cases lists with
    | error message => exact .inl ⟨rfl, rfl⟩
    | ok lists => exact .inr ⟨rfl, (not_not.1 hrevision).symm, lists.1, lists.2, rfl, rfl⟩

/-! ## Runs -/

def addedIn (storage : QuoteStorage) : Option QuoteDraft → List QuoteCommand → List MessageQuoteSnapshot
  | _, [] => []
  | draft, c :: cs =>
    (if storage.applies draft c then (c.action.added c.capture).toList else []) ++ storage.addedIn (storage.step draft c) cs

def DrawsFresh (draft : Option QuoteDraft) (c : QuoteCommand) : Prop := c.newQuoteId ∉ quoteIds (heldQuotes draft)

structure Shelved (draft : Option QuoteDraft) : Prop where
  distinct : (quoteIds (heldQuotes draft)).Nodup
  bounded : quoteScalarCount (heldQuotes draft).1 ≤ maxQuoteScalars

theorem id_of_added (action : QuoteAction) : ∀ quote ∈ action.added c.capture, quote.quoteId = c.newQuoteId := by
  intro quote hquote
  cases action with
  | add =>
    simp only [QuoteAction.added, QuoteCommand.capture] at hquote
    split at hquote
    · cases hquote
    split at hquote
    · cases hquote
    · cases hquote
      rfl
  | remove id => cases hquote
  | restore id => cases hquote

theorem shelved_step (hdraws : DrawsFresh draft c) (h : Shelved draft) : Shelved (storage.step draft c) := by
  rcases storage.step_cases draft c with ⟨-, hstep⟩ | ⟨-, -, quotes, trash, hquotes, hstep⟩
  · rwa [hstep]
  obtain ⟨-, hact, hstore⟩ := mutateQuotes_eq_ok.1 hquotes
  rw [hstep]
  constructor
  · have hperm := (allQuotes_perm hact).map MessageQuoteSnapshot.quoteId
    refine hperm.nodup_iff.2 ?_
    rw [map_append]
    have hold : ((allQuotes (heldQuotes draft)).map MessageQuoteSnapshot.quoteId).Nodup := h.distinct
    cases hadded : c.action.added c.capture with
    | none => simpa using hold
    | some quote =>
      have hnew : quote.quoteId ∉ (allQuotes (heldQuotes draft)).map MessageQuoteSnapshot.quoteId := by
        rw [id_of_added c.action quote hadded]
        exact hdraws
      exact (perm_append_singleton _ _).nodup_iff.2 (nodup_cons.2 ⟨hnew, hold⟩)
  · unfold parseQuotes at hstore
    split at hstore
    · cases hstore
    · rename_i hlimit
      exact Nat.le_of_not_lt hlimit

theorem accounted_run : ∀ (cs : List QuoteCommand) (draft : Option QuoteDraft),
    (allQuotes (heldQuotes (cs.foldl storage.step draft))).Perm (allQuotes (heldQuotes draft) ++ storage.addedIn draft cs)
  | [], draft => by simp [addedIn]
  | c :: cs, draft => by
    rw [foldl_cons, addedIn, ← append_assoc]
    refine (accounted_run cs (storage.step draft c)).trans (List.Perm.append_right _ ?_)
    rcases storage.step_cases draft c with ⟨happlies, hstep⟩ | ⟨happlies, -, quotes, trash, hquotes, hstep⟩
    · simp [happlies, hstep]
    · rw [hstep, happlies, if_pos rfl]
      exact allQuotes_perm (mutateQuotes_eq_ok.1 hquotes).2.1

structure QuotesKept (storage : QuoteStorage) (start : Option QuoteDraft) (cs : List QuoteCommand) (draft : Option QuoteDraft) :
    Prop where
  /-- The identities of all quotes differ, and the shown ones are within the limit. -/
  shelved : Shelved draft
  accounted : (allQuotes (heldQuotes draft)).Perm (allQuotes (heldQuotes start) ++ storage.addedIn start cs)
  /-- A command that is not applied changes nothing, and one that expects another revision is not applied. -/
  unchanged : ∀ c, storage.applies draft c = false → storage.step draft c = draft
  fenced : ∀ c, c.expectedRevision ≠ heldRevision draft → storage.applies draft c = false
  revised : ∀ c, storage.applies draft c = true → heldRevision (storage.step draft c) = storage.nextRevision (heldRevision draft)
  undone : ∀ capture ids lists, actOnQuotes capture .remove ids (heldQuotes draft) = .ok lists →
    actOnQuotes capture .restore ids.reverse lists = .ok (heldQuotes draft)

/-- **Quotes are neither lost nor doubled**, whatever is added, taken out and restored. -/
theorem draft_quotes_kept (storage : QuoteStorage) (start : Option QuoteDraft) (cs : List QuoteCommand) (hstart : Shelved start)
    (hdraws : Runs.AllSteps storage.step DrawsFresh start cs) : QuotesKept storage start cs (cs.foldl storage.step start) := by
  have hshelved := Runs.run_invariant_of_allSteps storage.step (fun _ _ => shelved_step) cs start hdraws hstart
  generalize hdraft : cs.foldl storage.step start = draft at hshelved
  refine ⟨hshelved, hdraft ▸ accounted_run cs start, fun c hc => ?_, fun c hc => ?_, fun c hc => ?_,
    fun capture ids lists h => restore_removals ids _ lists hshelved.distinct h⟩
  all_goals rcases storage.step_cases draft c with ⟨happlies, hstep⟩ | ⟨happlies, hrevision, quotes, trash, -, hstep⟩
  · exact hstep
  · exact absurd (happlies.symm.trans hc) (by decide)
  · exact happlies
  · exact absurd hrevision hc
  · exact absurd (hc.symm.trans happlies) (by decide)
  · rw [hstep]
    rfl

/-- Two quotes of a Single Chat draft; the first is taken out and restored. -/
theorem draft_quotes_kept_restored :
    let command := fun revision action id => QuoteCommand.mk revision action "camp" (some "chat") id (fun _ => none) true true true
    let cs := [command 0 (.add none "a") "q1", command 1 (.add none "b") "q2", command 2 (.remove "q1") "", command 3 (.restore "q1") ""]
    QuotesKept .clientPrivateDraft none cs (cs.foldl QuoteStorage.clientPrivateDraft.step none) :=
  draft_quotes_kept _ _ _ ⟨by decide, by decide⟩
    ⟨by simp only [DrawsFresh]; decide, by simp only [DrawsFresh]; decide, by simp only [DrawsFresh]; decide,
      by simp only [DrawsFresh]; decide, trivial⟩

/-- A quote that is added in an edit leaves the revision, which is that of the input. -/
theorem edit_quote_keeps_revision : ¬∀ (storage : QuoteStorage) (draft : Option QuoteDraft) (c : QuoteCommand),
    storage.applies draft c = true → heldRevision (storage.step draft c) = heldRevision draft + 1 := by
  intro hclaim
  have hrevision := hclaim .privateEdit (some ⟨3, [], []⟩)
    ⟨3, .add none "a", "camp", some "chat", "q1", fun _ => none, true, true, true⟩ (by decide)
  revert hrevision
  decide

end QuoteStorage

/-! ## The drafts and the edits of Single Chats -/

def ComposerDraft.quoteDraft (draft : ComposerDraft) : QuoteDraft := ⟨draft.revision, draft.quotes, draft.quoteTrash⟩

def MutateQuoteDraft.quoteCommand (command : MutateQuoteDraft) (s : ChatStore) (w : World) (e : Envelope) (newQuoteId : String) :
    QuoteCommand where
  expectedRevision := command.expectedRevision
  action := command.action
  campId := command.campId
  conversationId := some command.conversationId
  newQuoteId := newQuoteId
  author := fun messageId =>
    ((s.messages.find? messageId).filter (fun message => message.conversationId == command.conversationId)).bind fun message =>
      match message.author with
      | .user _ => some (.user "用户")
      | .agent agentId => (w.displayName agentId).map (.agent agentId)
  localUser := (match e.actor with | .user _ => true | _ => false) && e.campId == some command.campId
  ownerAvailable := (s.runtime.conversations.find? command.conversationId).any (fun c =>
    c.campId == command.campId && c.kind == .singleChat && !c.ended)
  ownsEdit := false

theorem captureQuote_eq (s : ChatStore) (w : World) (e : Envelope) (command : MutateQuoteDraft) (id : String) :
    captureQuote s w command.campId command.conversationId id = (command.quoteCommand s w e id).capture := by
  funext messageId text
  cases messageId <;> rfl

theorem withDraft_find? (s : ChatStore) (conversationId clientId : String) :
    (s.withDraft conversationId clientId).drafts.find? (conversationId, clientId) =
      some ((s.drafts.find? (conversationId, clientId)).getD ⟨conversationId, clientId, 0, [], [], []⟩) := by
  cases hfound : s.drafts.find? (conversationId, clientId) with
  | none => exact Tables.Table.find?_insert_self hfound
  | some draft => exact Tables.Table.find?_insert_of_found hfound _

/-- **A draft of a Single Chat changes as its quotes do.** -/
theorem mutateDraft_quotes {s s' : ChatStore} {w : World} {e : Envelope} {command : MutateQuoteDraft} {id : String} {reply : Reply}
    (h : s.mutateDraft w e command id = .ok (reply, s')) :
    (s'.drafts.find? (command.conversationId, command.draftClient)).map ComposerDraft.quoteDraft =
      QuoteStorage.clientPrivateDraft.step
        ((s.drafts.find? (command.conversationId, command.draftClient)).map ComposerDraft.quoteDraft)
        (command.quoteCommand s w e id) := by
  unfold ChatStore.mutateDraft at h
  split at h
  · rename_i userId hactor
    split at h
    · cases h
    rename_i hcamp
    split at h
    · cases h
    rename_i hconversation
    have hlocal : (command.quoteCommand s w e id).localUser = true := by
      simp [MutateQuoteDraft.quoteCommand, hactor, not_not.1 hcamp]
    have havailable : (command.quoteCommand s w e id).ownerAvailable = true := by
      simpa [MutateQuoteDraft.quoteCommand] using hconversation
    have hfound := withDraft_find? s command.conversationId command.draftClient
    simp only [hfound, captureQuote_eq s w e] at h
    generalize hdraft : s.drafts.find? (command.conversationId, command.draftClient) = draft at h hfound
    have hrevision : heldRevision (draft.map ComposerDraft.quoteDraft) = (draft.map ComposerDraft.revision).getD 0 := by
      cases draft <;> rfl
    have hlists : heldQuotes (draft.map ComposerDraft.quoteDraft) =
        ((draft.getD ⟨command.conversationId, command.draftClient, 0, [], [], []⟩).quotes,
          (draft.getD ⟨command.conversationId, command.draftClient, 0, [], [], []⟩).quoteTrash) := by
      cases draft <;> rfl
    have hfields : (command.quoteCommand s w e id).expectedRevision = command.expectedRevision ∧
        (command.quoteCommand s w e id).action = command.action := ⟨rfl, rfl⟩
    rw [QuoteStorage.step, QuoteStorage.handle, if_neg (by decide), QuoteStorage.mutateDraft, hlocal, havailable, hrevision, hlists,
      hfields.1, hfields.2, if_neg (by decide), if_neg (by decide)]
    split at h
    · rename_i hstale
      cases h
      rw [if_pos hstale, hdraft]
    rename_i hcurrent
    rw [if_neg hcurrent]
    split at h
    · cases h
    rename_i quotes trash hquotes
    cases h
    rw [hquotes]
    exact congrArg (Option.map ComposerDraft.quoteDraft) (Tables.Table.find?_update_self hfound
      (fun row => { row with quotes := quotes, quoteTrash := trash, revision := (draft.map ComposerDraft.revision).getD 0 + 1 })
      fun _ => rfl)
  · cases h

def openedChat : ChatStore :=
  { ChatStore.empty with
    runtime.conversations := Tables.Table.empty.insert
      ⟨"chat", "camp", "ada", .singleChat, false, 1, none, none, none, none, 0, none, 0, none, none, none, none⟩ }

def plainWorld : World := ⟨true, true, fun _ => none, .error "", fun _ => none⟩

def addsQuote : MutateQuoteDraft := ⟨"camp", "chat", 0, "web", .add none "a"⟩

theorem mutateDraft_quotes_added : ∃ t,
    openedChat.mutateDraft plainWorld ⟨.user "u", some "camp"⟩ addsQuote "q" = .ok (.draftUpdated 1, t) ∧
      (t.drafts.find? ("chat", "web")).map ComposerDraft.quoteDraft =
        QuoteStorage.clientPrivateDraft.step none (addsQuote.quoteCommand openedChat plainWorld ⟨.user "u", some "camp"⟩ "q") :=
  ⟨_, rfl, @mutateDraft_quotes openedChat _ plainWorld ⟨.user "u", some "camp"⟩ addsQuote "q" _ rfl⟩

end Rovai.SingleChat
