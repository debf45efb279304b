import RovaiCore.SingleChatQueue
/-!
# Inputs in their order

The order of the accepted sends is that of their messages: an input that is still in its queue keeps every later send
without a message, because a send is admitted at once only into an empty queue and an input is published only at its head.
-/
namespace Rovai.SingleChat

open Tables (Table)
open List
open ChatStore (messageOf isCancelled isUserMessage)

variable {s t : ChatStore} {log : List Accepted} {a : Action}

/-! ## The order -/

/-- A later send has a message only when an earlier one is cancelled or has its own before it. -/
def GoesFirst (s : ChatStore) (e e' : Accepted) : Prop :=
  e.conversationId = e'.conversationId → isCancelled s e = false → ∀ m', messageOf s e' = some m' →
    ∃ m, messageOf s e = some m ∧ m.sequence < m'.sequence

def QueuedFirst (s : ChatStore) (e e' : Accepted) : Prop :=
  ∀ conversationId id id' input input', e = .queued conversationId id → e' = .queued conversationId id' →
    s.pendingInputs.find? id = some input → s.pendingInputs.find? id' = some input' →
    input.enqueueSequence < input'.enqueueSequence

structure Fifo (s : ChatStore) (log : List Accepted) : Prop where
  runs : ChatRuns s
  numbered : Numbered s
  logged : Logged s log
  inOrder : log.Pairwise (GoesFirst s)
  inQueue : log.Pairwise (QueuedFirst s)

theorem Fifo.initial : Fifo .empty [] :=
  ⟨.empty, .empty, .empty, .nil, .nil⟩

variable {e : Accepted}

theorem cancelled_kept (hpending : Table.Grows (Rewritten s a) (fun _ => False) s.pendingInputs t.pendingInputs)
    (h : isCancelled s e = true) : isCancelled t e = true := by
  cases e with
  | sent => exact h
  | queued =>
    obtain ⟨input, hinput, hstate⟩ := (Option.any_eq_true _ _).1 h
    obtain ⟨input', hinput', hrewritten⟩ := hpending.kept hinput
    obtain rfl | hqueue := hrewritten.inQueue
    · exact (Option.any_eq_true _ _).2 ⟨_, hinput', hstate⟩
    rw [beq_iff_eq.1 hstate] at hqueue
    cases hqueue

theorem GoesFirst.kept {e e' : Accepted} (h : GoesFirst s e e') (hof : messageOf t e = messageOf s e)
    (hof' : messageOf t e' = messageOf s e') (hcancelled : isCancelled s e = true → isCancelled t e = true) :
    GoesFirst t e e' := by
  intro hconversation hopen m' hm'
  rw [hof'] at hm'
  rw [hof]
  refine h hconversation ?_ m' hm'
  cases hc : isCancelled s e with
  | false => rfl
  | true => rw [hcancelled hc] at hopen; cases hopen

theorem QueuedFirst.kept {e e' : Accepted} (h : QueuedFirst s e e')
    (hpending : ∀ {id input'}, t.pendingInputs.find? id = some input' →
      ∃ input, s.pendingInputs.find? id = some input ∧ input'.enqueueSequence = input.enqueueSequence) : QueuedFirst t e e' := by
  intro conversationId id id' input input' he he' hinput hinput'
  obtain ⟨old, hold, hseq⟩ := hpending hinput
  obtain ⟨old', hold', hseq'⟩ := hpending hinput'
  rw [hseq, hseq']
  exact h conversationId id id' old old' he he' hold hold'

theorem Logged.answered_of_empty (h : Logged s log) {conversationId : String} (hempty : s.hasPendingQueue conversationId = false)
    (he : e ∈ log) (hconversation : e.conversationId = conversationId) (hopen : isCancelled s e = false) :
    ∃ m, messageOf s e = some m := by
  obtain hcancelled | hm | ⟨_, id, input, rfl, hinput, rfl, hqueue⟩ := h.fate he
  · rw [hcancelled] at hopen
    cases hopen
  · exact hm
  · have hnot := Table.any_eq_false hempty hinput
    have hsame : input.conversationId = conversationId := hconversation
    simp [ChatStore.isQueuedIn, hsame, hqueue] at hnot

variable {input : PendingInput}

theorem lt_nextEnqueueSequence {id : String} (h : s.pendingInputs.find? id = some input) :
    input.enqueueSequence < s.nextEnqueueSequence input.conversationId := by
  have hle : ∀ (l : List Nat) (n : Nat), n ∈ l → n ≤ l.foldr max 0 := by
    intro l n hn
    induction l with
    | nil => cases hn
    | cons m rest ih =>
      rw [foldr_cons]
      obtain rfl | hrest := mem_cons.1 hn
      · exact le_max_left _ _
      · exact (ih hrest).trans (le_max_right _ _)
  refine Nat.lt_succ_of_le (hle _ _ ?_)
  exact mem_map_of_mem (mem_filter.2 ⟨Table.mem_of_find? h, by simp⟩)

/-- **The head of a queue**: everything of the conversation that was accepted before it is cancelled or has its message. -/
theorem Fifo.answered_before_head (inv : Fifo s log) {conversationId : String}
    (hinput : s.pendingInputs.find? input.id = some input) (hconversation : input.conversationId = conversationId)
    (hhead : (s.queueHead conversationId).map PendingInput.id = some input.id) (he : e ∈ log)
    (hbefore : QueuedFirst s e (.queued input.conversationId input.id)) (hsame : e.conversationId = conversationId)
    (hopen : isCancelled s e = false) : ∃ m, messageOf s e = some m := by
  obtain ⟨head, hfound, hid⟩ := Option.map_eq_some_iff.1 hhead
  have hfirst := find?_some hfound
  obtain rfl : head = input := by
    have hmem := Table.find?_of_mem (mem_of_find?_eq_some hfound)
    rw [hid, hinput] at hmem
    cases hmem
    rfl
  simp only [Bool.and_eq_true, Bool.not_eq_true'] at hfirst
  obtain hcancelled | hm | ⟨_, id, older, rfl, holder, rfl, hqueue⟩ := inv.logged.fate he
  · rw [hcancelled] at hopen
    cases hopen
  · exact hm
  · have hsame : older.conversationId = conversationId := hsame
    have hlt := hbefore older.conversationId id head.id older head rfl (by rw [hsame, hconversation]) holder hinput
    have hnot := Table.any_eq_false hfirst.2 holder
    simp [ChatStore.isQueuedIn, hsame, hqueue, ChatStore.goesBefore, hlt] at hnot

/-! ## The steps -/

theorem Fifo.aside (inv : Fifo s log) (hruns : RunsAside s.runtime t.runtime) (hmessages : SameUserMessages s t)
    (hnumbered : Numbered t)
    (hpending : Table.Grows (Rewritten s a) (fun _ => False) s.pendingInputs t.pendingInputs) : Fifo t log where
  runs := inv.runs.aside hruns hmessages
  numbered := hnumbered
  logged := inv.logged.aside hmessages hpending
  inOrder := inv.inOrder.imp_of_mem fun he he' h =>
    h.kept (inv.logged.messageOf_aside hmessages hpending he) (inv.logged.messageOf_aside hmessages hpending he')
      (cancelled_kept hpending)
  inQueue := inv.inQueue.imp fun h => h.kept fun hinput' => by
    obtain ⟨input, hinput, hrewritten⟩ | ⟨-, hfalse⟩ := hpending.origin hinput'
    · exact ⟨input, hinput, hrewritten.enqueueSequence⟩
    · cases hfalse

theorem pairwise_snoc {R : Accepted → Accepted → Prop} (h : log.Pairwise R) (hlast : ∀ e' ∈ log, R e' e) :
    (log ++ [e]).Pairwise R :=
  pairwise_append.2 ⟨h, pairwise_singleton R e, fun e' he' x hx => by
    rw [mem_singleton.1 hx]
    exact hlast e' he'⟩

theorem Fifo.enqueue (inv : Fifo s log) (hfresh : s.pendingInputs.find? input.id = none)
    (hpublished : input.published = none) (hsequence : input.enqueueSequence = s.nextEnqueueSequence input.conversationId)
    (hruns : t.runtime = s.runtime) (hlast : t.lastMessageSequence = s.lastMessageSequence)
    (hmessages : t.messages = s.messages) (hpending : t.pendingInputs = s.pendingInputs.insert input) :
    Fifo t (log ++ [.queued input.conversationId input.id]) := by
  obtain ⟨hlogged, hof, hnone⟩ := inv.logged.enqueue hfresh hpublished hmessages hpending
  have hcases : ∀ {id input'}, t.pendingInputs.find? id = some input' →
      s.pendingInputs.find? id = some input' ∨ input' = input ∧ id = input.id := by
    intro id input' hinput'
    rw [hpending] at hinput'
    obtain hinput' | ⟨rfl, hid, -⟩ := Table.insert_cases hinput'
    · exact .inl hinput'
    · exact .inr ⟨rfl, hid⟩
  have hcancelled : ∀ e, isCancelled s e = true → isCancelled t e = true := by
    intro e h
    cases e with
    | sent => exact h
    | queued =>
      obtain ⟨other, hother, hstate⟩ := (Option.any_eq_true _ _).1 h
      refine (Option.any_eq_true _ _).2 ⟨other, ?_, hstate⟩
      rw [hpending]
      exact Table.find?_insert_of_found hother input
  have hnotin : ∀ conversationId, Accepted.queued conversationId input.id ∉ log := by
    intro conversationId hmem
    obtain ⟨other, hother, -⟩ := inv.logged.queued hmem
    rw [hfresh] at hother
    cases hother
  refine ⟨?_, inv.numbered.of_eq hmessages hlast, hlogged, ?_, ?_⟩
  · exact inv.runs.aside (runsAside_of_eq (by rw [hruns])) fun id m _ => by rw [hmessages]
  · refine pairwise_snoc (inv.inOrder.imp_of_mem fun he he' h => h.kept (hof _ he) (hof _ he') (hcancelled _)) ?_
    intro e he _ _ m' hm'
    rw [hnone] at hm'
    cases hm'
  · refine pairwise_snoc (inv.inQueue.imp_of_mem ?_) ?_
    · intro e e' he he' h conversationId id id' older newer heq heq' holder hnewer
      subst heq heq'
      have hne : id ≠ input.id := fun hid => hnotin _ (hid ▸ he)
      have hne' : id' ≠ input.id := fun hid => hnotin _ (hid ▸ he')
      obtain holder | ⟨-, hid⟩ := hcases holder
      · obtain hnewer | ⟨-, hid⟩ := hcases hnewer
        · exact h conversationId id id' older newer rfl rfl holder hnewer
        · exact absurd hid hne'
      · exact absurd hid hne
    · rintro e he conversationId id id' older newer rfl heq' holder hnewer
      simp only [Accepted.queued.injEq] at heq'
      obtain ⟨hconversation, rfl⟩ := heq'
      have hne : id ≠ input.id := fun hid => hnotin _ (hid ▸ he)
      obtain holder | ⟨-, hid⟩ := hcases holder
      · obtain hnewer | ⟨rfl, -⟩ := hcases hnewer
        · rw [hfresh] at hnewer
          cases hnewer
        · obtain ⟨logged, hfound, hsame⟩ := inv.logged.queued he
          rw [holder] at hfound
          cases hfound
          rw [hsequence, hconversation, ← hsame]
          exact lt_nextEnqueueSequence holder
      · exact absurd hid hne

section
variable {ids : NewIds} {target : AgentRuns.Conversation} {userId : String} {content : Content}

theorem Numbered.admits (inv : Numbered s) (h : Admits s t ids target userId content) : Numbered t :=
  inv.insert h.message_fresh rfl h.messages h.lastMessageSequence

theorem Fifo.sequence_le (inv : Fifo s log) {e : Accepted} {m : ConversationMessage} (he : e ∈ log)
    (hm : messageOf s e = some m) : m.sequence ≤ s.lastMessageSequence e.conversationId := by
  rw [← (inv.logged.messageOf_user he hm).2]
  cases e with
  | sent => exact inv.numbered.le_last hm
  | queued =>
    obtain ⟨p, -, hp⟩ := Option.bind_eq_some_iff.1 hm
    exact inv.numbered.le_last hp

theorem Fifo.send (inv : Fifo s log) (hidle : s.hasActiveRun target.id = false) (hempty : s.hasPendingQueue target.id = false)
    (h : Admits s t ids target userId content) (hpending : t.pendingInputs = s.pendingInputs) :
    Fifo t (log ++ [.sent target.id ids.conversationMessageId]) := by
  obtain ⟨hlogged, hof, hnew⟩ := inv.logged.send h hpending
  have hcancelled : ∀ e, isCancelled t e = isCancelled s e := by
    intro e
    cases e with
    | sent => rfl
    | queued => simp [isCancelled, hpending]
  refine ⟨inv.runs.admits hidle h, inv.numbered.admits h, hlogged, ?_, ?_⟩
  · refine pairwise_snoc (inv.inOrder.imp_of_mem fun {e e'} he he' hfirst => ?_) ?_
    · refine hfirst.kept (hof _ he) (hof _ he') fun hc => ?_
      rw [hcancelled]
      exact hc
    · intro e he hconversation hopen m' hm'
      rw [hcancelled] at hopen
      rw [hnew] at hm'
      cases hm'
      obtain ⟨m, hm⟩ := inv.logged.answered_of_empty hempty he hconversation hopen
      refine ⟨m, (hof e he).trans hm, Nat.lt_succ_of_le ?_⟩
      have hle := inv.sequence_le he hm
      rw [hconversation] at hle
      exact hle
  · refine pairwise_snoc (inv.inQueue.imp fun hfirst => hfirst.kept fun hinput => ⟨_, by rw [← hpending]; exact hinput, rfl⟩) ?_
    rintro e he conversationId id id' older newer rfl heq'
    cases heq'

/-- **A publication at the head of the queue** keeps the order. -/
theorem Fifo.publish (inv : Fifo s log) {command : PublishPendingInput} {input : PendingInput}
    (hinput : s.pendingInputs.find? input.id = some input) (hconversation : input.conversationId = target.id)
    (hid : command.pendingInputId = input.id) (htarget : command.conversationId = target.id)
    (hready : s.readyToPublish input command = true) (h : Admits s t ids target input.userId input.content)
    (hpending : t.pendingInputs = s.pendingInputs.update input.id (ChatStore.publishedInput ids.published)) : Fifo t log := by
  simp only [ChatStore.readyToPublish, Bool.and_eq_true, Bool.not_eq_true', beq_iff_eq] at hready
  obtain ⟨⟨⟨⟨hrevision, hstate⟩, hhead⟩, hedit⟩, hidle⟩ := hready
  rw [htarget] at hidle hhead
  rw [hid] at hhead
  have hnone : input.published = none := PendingInput.published_eq_none (by rw [hstate]; rfl)
  obtain ⟨hlogged, hof, hnew⟩ := inv.logged.publish hinput hnone hconversation h hpending
  have hother : ∀ {id}, id ≠ input.id → t.pendingInputs.find? id = s.pendingInputs.find? id := by
    intro id hne
    rw [hpending]
    exact Table.find?_update_of_ne s.pendingInputs hne (ChatStore.publishedInput ids.published) fun _ => rfl
  have hbefore : messageOf s (.queued input.conversationId input.id) = none := by
    rw [messageOf_queued hinput, hnone]
    rfl
  -- The input that is published was not cancelled, and no other is touched.
  have hcancelled : ∀ e, isCancelled s e = true → isCancelled t e = true := by
    intro e hc
    cases e with
    | sent => exact hc
    | queued conversationId id =>
      by_cases hne : id = input.id
      · subst hne
        simp [isCancelled, hinput, hstate] at hc
      · simp only [isCancelled, hother hne]
        exact hc
  refine ⟨inv.runs.admits hidle h, inv.numbered.admits h, hlogged, ?_, ?_⟩
  · refine (List.Pairwise.and inv.inOrder inv.inQueue).imp_of_mem fun {e e'} he he' hfirst => ?_
    by_cases hne' : e' = .queued input.conversationId input.id
    · subst hne'
      by_cases hne : e = .queued input.conversationId input.id
      · -- A send does not go before itself.
        subst hne
        have hself := hfirst.2 _ _ _ _ _ rfl rfl hinput hinput
        omega
      · intro hsame hopen m' hm'
        rw [hnew] at hm'
        cases hm'
        have hsame : e.conversationId = target.id := hsame.trans hconversation
        have hopen : isCancelled s e = false := by
          cases hc : isCancelled s e with
          | false => rfl
          | true => rw [hcancelled e hc] at hopen; cases hopen
        obtain ⟨m, hm⟩ := inv.answered_before_head hinput hconversation hhead he hfirst.2 hsame hopen
        refine ⟨m, (hof e he hne).trans hm, Nat.lt_succ_of_le ?_⟩
        have hle := inv.sequence_le he hm
        rw [hsame] at hle
        exact hle
    · by_cases hne : e = .queued input.conversationId input.id
      · -- What was accepted after the head has no message yet.
        subst hne
        intro hsame _ m' hm'
        rw [hof e' he' hne'] at hm'
        obtain ⟨m, hm, -⟩ := hfirst.1 hsame (by simp [isCancelled, hinput, hstate]) m' hm'
        rw [hbefore] at hm
        cases hm
      · exact hfirst.1.kept (hof e he hne) (hof e' he' hne') (hcancelled e)
  · refine inv.inQueue.imp fun hfirst => hfirst.kept fun {id input'} hinput' => ?_
    by_cases hne : id = input.id
    · subst hne
      rw [hpending, Table.find?_update_self hinput (ChatStore.publishedInput ids.published) fun _ => rfl] at hinput'
      cases hinput'
      exact ⟨input, hinput, rfl⟩
    · exact ⟨input', by rw [← hother hne]; exact hinput', rfl⟩

end

/-- **A transaction keeps the order.** -/
theorem Fifo.change {o : Option Accepted} (inv : Fifo s log) (h : Change s a t o) : Fifo t (log ++ o.toList) := by
  cases h with
  | aside hruns hsequence hmessages hpending =>
    rw [Option.toList_none, append_nil]
    exact inv.aside hruns (fun id m _ => by rw [hmessages]) (inv.numbered.of_eq hmessages hsequence) hpending
  | answered message hagent hfresh hruns hsequence hlast hmessages hpending =>
    rw [Option.toList_none, append_nil]
    refine inv.aside (a := a) hruns (fun id m huser => ?_) (inv.numbered.insert hfresh hlast hmessages hsequence) ?_
    · rw [hmessages]
      constructor
      · intro hm
        obtain hold | ⟨rfl, -, -⟩ := Table.insert_cases hm
        · exact hold
        rw [hagent] at huser
        cases huser
      · exact fun hm => Table.find?_insert_of_found hm message
    · rw [hpending]
      exact .refl (Rewritten.refl s a) s.pendingInputs
  | queued ids conversationId userId clientId content hfresh hruns hsequence hmessages hpending =>
    exact inv.enqueue hfresh rfl rfl hruns hsequence hmessages hpending
  | sent ids target userId content hidle hempty h hpending => exact inv.send hidle hempty h hpending
  | published command ids target input hinput hconversation hid htarget hready h hpending =>
    rw [Option.toList_none, append_nil]
    exact inv.publish hinput hconversation hid htarget hready h hpending

/-- **Every run keeps the order.** -/
theorem fifo_run (as : List Action) : Fifo (System.initial.run as).chat (System.initial.run as).accepted :=
  Runs.run_invariant System.step (P := fun t => Fifo t.chat t.accepted)
    (fun t a inv => inv.change (change_step t.chat a)) as System.initial .initial

end Rovai.SingleChat
