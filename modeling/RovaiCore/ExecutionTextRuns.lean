import RovaiCore.ExecutionText
import RovaiCore.JsonFields
import RovaiCore.ListRules
/-!
# What streaming text keeps

`TextStep` says what one change of the text state can do: start a block, append to one or fail to, finish one, or leave the texts
alone.
-/
namespace Rovai

open Relation (ReflTransGen)
open List

/-! ## What was published -/

def TextChange.deltaFor (run : RunId) (id : EvidenceId) : TextChange → String
  | .published _ e =>
    if e.agentRunId = run && e.payload.strField "blockId" = some id then (e.payload.strField "delta").getD "" else ""
  | .finished _ _ _ => ""

def streamedText (run : RunId) (id : EvidenceId) : List TextChange → String
  | [] => ""
  | c :: history => c.deltaFor run id ++ streamedText run id history

theorem streamedText_append (run : RunId) (id : EvidenceId) : ∀ h h' : List TextChange,
    streamedText run id (h ++ h') = streamedText run id h ++ streamedText run id h'
  | [], _ => by rw [nil_append, streamedText, String.empty_append]
  | c :: h, h' => by
    rw [cons_append, streamedText, streamedText, streamedText_append run id h h', String.append_assoc]

theorem streamedText_snoc (run : RunId) (id : EvidenceId) (h : List TextChange) (c : TextChange) :
    streamedText run id (h ++ [c]) = streamedText run id h ++ c.deltaFor run id := by
  rw [streamedText_append, streamedText, streamedText, String.append_empty]

theorem streamedText_eq_empty {run : RunId} {id : EvidenceId} : ∀ {h : List TextChange},
    (∀ c ∈ h, c.deltaFor run id = "") → streamedText run id h = ""
  | [], _ => rfl
  | c :: h, hc => by
    rw [streamedText, hc c (mem_cons_self ..), streamedText_eq_empty (fun c' hc' => hc c' (mem_cons_of_mem c hc')),
      String.empty_append]

def publishedIn (history : List TextChange) : List (Option String × TextEvidence) :=
  history.filterMap (fun c => match c with
    | .published native e => some (native, e)
    | .finished _ _ _ => none)

def finishedIn (history : List TextChange) : List (RunId × EvidenceId) :=
  history.filterMap (fun c => match c with
    | .published _ _ => none
    | .finished run id _ => some (run, id))

theorem mem_finishedIn {run : RunId} {id : EvidenceId} {history : List TextChange} :
    (run, id) ∈ finishedIn history ↔ ∃ authoritative, .finished run id authoritative ∈ history := by
  unfold finishedIn
  rw [mem_filterMap]
  constructor
  · rintro ⟨c, hc, h⟩
    cases c with
    | published => cases h
    | finished run' id' authoritative =>
      cases h
      exact ⟨authoritative, hc⟩
  · rintro ⟨authoritative, h⟩
    exact ⟨_, h, rfl⟩

/-! ## One change of the texts -/

inductive TextStep (store : ContentStore) (s : TextState) : TextState → Prop
  | start (k : BlockKey) (id : EvidenceId) (now : Timestamp) (payload : Json) (log : RunLog) (kind : k.kind = narration)
      (closed : ∀ b ∈ s.blocks, b.key ≠ k)
      (inserted : insertTextBlock (s.logs k.run) k.epoch id now (k.native.map (sourceKey k.epoch k.kind)) payload = some log) :
      TextStep store s { s.setLog k.run log with blocks := s.blocks ++ [newBlock s id now k] }
  | append (b : TextBlock) (mem : b ∈ s.blocks) (io : AppendIo) (event text : String) (kept : (b.body.append io text).2 = true) :
      TextStep store s { s.setBlock b.key { b with
          body := (b.body.append io text).1, utf16Len := b.utf16Len + utf16Length text } with
        history := s.history ++ [.published b.nativeId (b.liveDelta store event text b.utf16Len)] }
  | appendFailed (b : TextBlock) (mem : b ∈ s.blocks) (io : AppendIo) (text : String) (kept : (b.body.append io text).2 = false) :
      TextStep store s (s.setBlock b.key { b with body := (b.body.append io text).1 })
  | finish (b : TextBlock) (mem : b ∈ s.blocks) (authoritative : Option String) (text status : String) (preview : Json)
      (log : RunLog) (whole : authoritative.or b.body.text = some text)
      (updated : updateTextBlock (s.logs b.run) b.id (finishedPhase status) (finishedPayload b text status) preview
        (b.revision + 1) = some log) :
      TextStep store s { s.setLog b.run log with
        blocks := s.blocks.filter (fun x => x.key ≠ b.key)
        history := s.history ++ [.finished b.run b.id authoritative] }
  | write (run : RunId) (w : Write) (other : w.isTextBlock = false) :
      TextStep store s (s.setLog run ((s.logs run).write store w))
  | rest (runs : RunId → Option AgentRunRecord) (retry : Option FlushRetry) :
      TextStep store s { s with runs := runs, retry := retry }

section

variable {store : ContentStore} {s : TextState} {k : BlockKey}

theorem find_eq_some {b : TextBlock} (h : s.find k = some b) : b ∈ s.blocks ∧ b.key = k :=
  ⟨mem_of_find?_eq_some h, by simpa using find?_some h⟩

theorem find_eq_none (h : s.find k = none) : ∀ b ∈ s.blocks, b.key ≠ k := by
  intro b hb
  simpa using find?_eq_none.1 h b hb

theorem steps_andThen {α β : Type} {r : TextState × Except String α} {f : TextState → α → TextState × Except String β}
    (hr : ReflTransGen (TextStep store) s r.1) (hf : ∀ a, ReflTransGen (TextStep store) r.1 (f r.1 a).1) :
    ReflTransGen (TextStep store) s (andThen r f).1 := by
  unfold andThen
  split
  · exact hr.trans (hf _)
  · exact hr

theorem steps_finish (persists : Bool) (k : BlockKey) (authoritative : Option String) (status : String) :
    ReflTransGen (TextStep store) s (finish store s persists k authoritative status).1 := by
  unfold finish
  cases hfind : s.find k with
  | none => exact .refl
  | some b =>
    obtain ⟨hb, rfl⟩ := find_eq_some hfind
    simp only
    split
    · exact .refl
    rename_i text htext
    split at htext
    · split
      · exact .refl
      rename_i log hlog
      exact .single (.finish b hb authoritative text status _ log htext hlog)
    · cases htext

theorem steps_finishAll (persists : BlockKey → Bool) : ∀ (ks : List (BlockKey × String)) (s : TextState),
    ReflTransGen (TextStep store) s (finishAll store persists s ks).1
  | [], _ => .refl
  | (k, status) :: ks, s => by
    rw [finishAll]
    refine steps_andThen (steps_finish (persists k) k none status) (fun _ => ?_)
    exact steps_andThen (steps_finishAll persists ks _) (fun _ => .refl)

variable (io : ObserveIo)

theorem steps_start (hkind : k.kind = narration) (hclosed : s.find k = none) :
    ReflTransGen (TextStep store) s (start s io k).1 := by
  unfold start
  simp only
  split
  · exact .refl
  rename_i log hlog
  split at hlog
  · exact .single (.start k io.id io.now _ log hkind (find_eq_none hclosed) hlog)
  · cases hlog

theorem steps_openBlock (hkind : k.kind = narration) :
    ReflTransGen (TextStep store) s (openBlock s io k).1 := by
  unfold openBlock
  split
  · exact .refl
  rename_i hclosed
  rw [Option.not_isSome_iff_eq_none] at hclosed
  split
  · exact .refl
  · exact steps_andThen (steps_start io hkind hclosed) (fun _ => .refl)

theorem steps_appendDelta (k : BlockKey) (event text : String) :
    ReflTransGen (TextStep store) s (appendDelta store s io k event text).1 := by
  unfold appendDelta
  cases hfind : s.find k with
  | none => exact .refl
  | some b =>
    obtain ⟨hb, rfl⟩ := find_eq_some hfind
    simp only
    split
    · rename_i hkept
      exact .single (.append b hb io.append event text hkept)
    · rename_i hkept
      exact .single (.appendFailed b hb io.append text (Bool.not_eq_true _ ▸ hkept))

theorem steps_observe (run : RunId) (epoch : Nat) (event : String) (payload : Json) :
    ReflTransGen (TextStep store) s (observe store s io run epoch event payload).1 := by
  unfold observe
  simp only
  split
  · exact .refl
  split
  · exact .refl
  split
  · exact steps_andThen (steps_finishAll _ _ _) (fun _ => .refl)
  split
  · unfold observeDelta
    refine steps_andThen (steps_finishAll _ _ _) (fun _ => ?_)
    simp only
    split
    · exact .refl
    split
    · exact .refl
    refine steps_andThen (steps_openBlock io rfl) (fun isOpen => ?_)
    split
    · exact steps_appendDelta io _ event _
    · exact .refl
  split
  · unfold observeCompletion
    simp only
    split
    · exact .refl
    split
    · exact .refl
    refine steps_andThen (steps_openBlock io rfl) (fun isOpen => ?_)
    split
    · exact steps_andThen (steps_finish _ _ _ _) (fun _ => .refl)
    · exact .refl
  split
  · exact .refl
  unfold observeBoundary
  exact steps_andThen (steps_finishAll _ _ _) (fun _ => .refl)

/-- **Every step of the program is a sequence of changes.** -/
theorem steps_step (a : TextAction) : ReflTransGen (TextStep store) s (s.step store a) := by
  cases a with
  | observe io run epoch event payload => exact steps_observe io run epoch event payload
  | settle io =>
    rw [TextState.step, maintainSettledUntil]
    split
    · exact .refl
    split
    · exact .single (.rest s.runs none)
    refine ReflTransGen.tail (b := (attemptFlushSettled store s io).1) ?_ (.rest _ _)
    unfold attemptFlushSettled
    split
    · exact .refl
    · exact steps_finishAll _ _ _
  | request now =>
    rw [TextState.step, requestSettlement]
    split
    · exact .refl
    · exact .single (.rest s.runs _)
  | evidence run w =>
    rw [TextState.step]
    split
    · exact .refl
    rename_i hw
    exact .single (.write run w (Bool.not_eq_true _ ▸ hw))
  | runs runs => exact .single (.rest runs s.retry)

end

/-! ## Rows of text -/

def EvidenceRow.isBlock (r : EvidenceRow) : Prop := r.eventType = blockEvent

section

variable {store : ContentStore} {log log' : RunLog} {epoch : Nat} {id : EvidenceId} {now : Timestamp} {e : RuntimeEvent}
  {r : EvidenceRow}

def SameBlocks (log log' : RunLog) : Prop := ∀ r : EvidenceRow, r.isBlock → (r ∈ log'.rows ↔ r ∈ log.rows)

theorem sameBlocks_append (hrows : log'.rows = log.rows ++ [r]) (hother : ¬ r.isBlock) : SameBlocks log log' := by
  intro x hx
  rw [hrows, mem_append, mem_singleton]
  refine or_iff_left ?_
  rintro rfl
  exact hother hx

theorem sameBlocks_rewrite (inv : LogInv log) {r' : EvidenceRow} (hr : r ∈ log.rows)
    (hrows : log'.rows = updateRow log r.id (fun _ => r')) (hother : ¬ r.isBlock) (hother' : ¬ r'.isBlock) :
    SameBlocks log log' := by
  intro x hx
  rw [hrows, inv.mem_rewrite hr]
  constructor
  · rintro (rfl | ⟨h, -⟩)
    · exact absurd hx hother'
    · exact h
  · intro h
    refine .inr ⟨h, ?_⟩
    rintro rfl
    exact hother hx

/-- **Evidence that is not text leaves the rows of text.** -/
theorem sameBlocks_write (inv : LogInv log) (w : Write) (hother : w.isTextBlock = false) : SameBlocks log (log.write store w) := by
  refine (write_induction (P := SameBlocks log) w (fun l l' hl hstep hsame => ?_) store inv fun _ _ => Iff.rfl).2
  rw [hother] at hstep
  refine fun x hx => Iff.trans ?_ (hsame x hx)
  cases hstep with
  | insert r activities watermark fresh changed plain joined block =>
    exact sameBlocks_append rfl (fun h => Bool.false_ne_true (block h)) x hx
  | insertOperation r o watermark fresh changed own format recorded =>
    exact sameBlocks_append rfl (not_block_of_recorded recorded) x hx
  | rewrite r r' watermark mem sameId sameEpoch sameSequence changed place =>
    refine sameBlocks_rewrite hl mem rfl (fun h => ?_) (fun h => ?_) x hx
    · obtain ⟨-, block⟩ | ⟨-, o, -, ho, -⟩ := place
      · exact Bool.false_ne_true (block h)
      · exact not_block_of_recorded (hl.recorded r mem o ho) h
    · obtain ⟨⟨-, htype, -⟩, block⟩ | ⟨hrecorded, -⟩ := place
      · exact Bool.false_ne_true (block (htype.symm.trans h))
      · exact not_block_of_recorded hrecorded h
  | digest r o d mem own =>
    have hr := not_block_of_recorded (hl.recorded r mem o own)
    exact @sameBlocks_rewrite l _ r hl { r with operation := some { o with resultDigest := d } } mem rfl hr hr x hx

theorem insertTextBlock_rows {key : Option String} {payload : Json}
    (h : insertTextBlock log epoch id now key payload = some log') :
    log'.rows = log.rows ++ [textBlockRow log epoch id now key payload] ∧ ∀ r ∈ log.rows, r.id ≠ id := by
  unfold insertTextBlock at h
  split at h
  · cases h
  rename_i hfree
  rw [Bool.or_eq_true, not_or, Bool.not_eq_true] at hfree
  rw [Option.some.injEq] at h
  subst h
  exact ⟨rfl, idTaken_eq_false.1 hfree.1⟩

theorem updateTextBlock_rows (inv : LogInv log) (hr : r ∈ log.rows) {phase : String} {payload preview : Json} {revision : Nat}
    (h : updateTextBlock log r.id phase payload preview revision = some log') :
    ∃ r', r'.id = r.id ∧ r'.eventType = r.eventType ∧ r'.executionEpoch = r.executionEpoch ∧
      r'.sourceEventKey = r.sourceEventKey ∧ r'.phase = phase ∧ r'.payload = payload ∧
      ∀ x, x ∈ log'.rows ↔ x = r' ∨ (x ∈ log.rows ∧ x ≠ r) := by
  unfold updateTextBlock at h
  split at h
  · rw [Option.some.injEq] at h
    subst h
    refine ⟨{ r with
      phase := phase, payload := payload, preview := preview, revision := revision
      changeSequence := some (allocateChangeSequence log) }, rfl, rfl, rfl, rfl, rfl, rfl, fun x => ?_⟩
    rw [inv.updateRow_eq hr]
    exact inv.mem_rewrite hr
  · cases h

end

/-! ## The invariant -/

structure StreamingRow (b : TextBlock) (r : EvidenceRow) : Prop where
  id : r.id = b.id
  block : r.isBlock
  phase : r.phase = "updated"
  epoch : r.executionEpoch = b.epoch
  key : r.sourceEventKey = b.nativeId.map (sourceKey b.epoch narration)

structure OpenBlock (s : TextState) (b : TextBlock) : Prop where
  kind : b.kind = narration
  row : ∃ r ∈ (s.logs b.run).rows, StreamingRow b r
  holds : b.body.Holds (streamedText b.run b.id s.history)
  length : b.utf16Len = utf16Length (streamedText b.run b.id s.history)

def Routed (s : TextState) (before : List TextChange) (native : Option String) (e : TextEvidence) : Prop :=
  ∃ id, e.payload.strField "blockId" = some id ∧
    e.payload.get? "textOffset" = some (.num (utf16Length (streamedText e.agentRunId id before))) ∧
    ∃ r ∈ (s.logs e.agentRunId).rows, r.id = id ∧ r.isBlock ∧ r.executionEpoch = e.executionEpoch ∧
      r.sourceEventKey = native.map (sourceKey e.executionEpoch narration)

def FinishedRow (s : TextState) (run : RunId) (id : EvidenceId) (authoritative : Option String) : Prop :=
  ∃ r ∈ (s.logs run).rows, r.id = id ∧ r.isBlock ∧ r.phase ≠ "updated" ∧
    r.payload.strField "text" = some (authoritative.getD (streamedText run id s.history))

structure TextInv (s : TextState) : Prop where
  logs : ∀ run, LogInv (s.logs run)
  keys : s.blocks.Pairwise (fun a b => a.key ≠ b.key)
  ids : s.blocks.Pairwise (fun a b => ¬ (a.run = b.run ∧ a.id = b.id))
  blocks : ∀ b ∈ s.blocks, OpenBlock s b
  routed : ∀ before native e after, s.history = before ++ .published native e :: after → Routed s before native e
  finished : ∀ run id authoritative, .finished run id authoritative ∈ s.history → FinishedRow s run id authoritative
  once : (finishedIn s.history).Nodup
  rows : ∀ run, ∀ r ∈ (s.logs run).rows, r.isBlock →
    (∃ b ∈ s.blocks, b.run = run ∧ b.id = r.id) ∨ (run, r.id) ∈ finishedIn s.history

theorem textInv_initial : TextInv TextState.initial where
  logs := fun _ => logInv_empty
  keys := List.Pairwise.nil
  ids := List.Pairwise.nil
  blocks := fun _ h => nomatch h
  routed := fun before _ _ _ h => by cases before <;> cases h
  finished := fun _ _ _ h => nomatch h
  once := nodup_nil
  rows := fun _ _ h => nomatch h

section

variable {store : ContentStore} {s s' : TextState} {b : TextBlock}

theorem setLog_logs (s : TextState) (run : RunId) (log : RunLog) (r : RunId) :
    (s.setLog run log).logs r = if r = run then log else s.logs r := rfl

theorem TextInv.eq_of_key (inv : TextInv s) {a b : TextBlock} (ha : a ∈ s.blocks) (hb : b ∈ s.blocks) (h : a.key = b.key) :
    a = b := by
  by_contra hne
  rcases pairwise_ne inv.keys ha hb hne with hk | hk
  · exact hk h
  · exact hk h.symm

theorem TextInv.eq_of_id (inv : TextInv s) {a b : TextBlock} (ha : a ∈ s.blocks) (hb : b ∈ s.blocks) (hrun : a.run = b.run)
    (h : a.id = b.id) : a = b := by
  by_contra hne
  rcases pairwise_ne inv.ids ha hb hne with hk | hk
  · exact hk ⟨hrun, h⟩
  · exact hk ⟨hrun.symm, h.symm⟩

variable {run : RunId} {id : EvidenceId}

theorem TextInv.not_open (inv : TextInv s) (h : (run, id) ∈ finishedIn s.history)
    (hb : b ∈ s.blocks) : ¬ (b.run = run ∧ b.id = id) := by
  rintro ⟨rfl, rfl⟩
  obtain ⟨authoritative, h⟩ := mem_finishedIn.1 h
  obtain ⟨r, hr, hid, -, hphase, -⟩ := inv.finished _ _ _ h
  obtain ⟨x, hx, hrow⟩ := (inv.blocks b hb).row
  rw [(inv.logs b.run).eq_of_id hr hx (hid.trans hrow.id.symm)] at hphase
  exact hphase hrow.phase

variable {native : Option String} {e : TextEvidence}

theorem TextInv.published_row (inv : TextInv s)
    (h : .published native e ∈ s.history) : ∃ id, e.payload.strField "blockId" = some id ∧
      ∃ r ∈ (s.logs e.agentRunId).rows, r.id = id := by
  obtain ⟨before, after, hsplit⟩ := append_of_mem h
  obtain ⟨id, hid, -, r, hr, hrid, -⟩ := inv.routed before native e after hsplit
  exact ⟨id, hid, r, hr, hrid⟩

theorem TextInv.streamedText_fresh (inv : TextInv s) (hfresh : ∀ r ∈ (s.logs run).rows, r.id ≠ id) :
    streamedText run id s.history = "" := by
  refine streamedText_eq_empty (fun c hc => ?_)
  cases c with
  | finished => rfl
  | published =>
    obtain ⟨id', hid', r, hr, hrid⟩ := inv.published_row hc
    refine if_neg (fun h => ?_)
    rw [Bool.and_eq_true, decide_eq_true_eq, decide_eq_true_eq] at h
    rw [hid', Option.some.injEq] at h
    obtain ⟨rfl, rfl⟩ := h
    exact hfresh r hr hrid

/-! ## Logs that keep the blocks' rows -/

theorem Routed.kept {before : List TextChange} (h : Routed s before native e)
    (hrows : ∀ run, ∀ r ∈ (s.logs run).rows, r.isBlock → ∃ r' ∈ (s'.logs run).rows, r'.id = r.id ∧ r'.isBlock ∧
      r'.executionEpoch = r.executionEpoch ∧ r'.sourceEventKey = r.sourceEventKey) : Routed s' before native e := by
  obtain ⟨id, hid, hoffset, r, hr, hrid, hblock, hepoch, hkey⟩ := h
  obtain ⟨r', hr', hrid', hblock', hepoch', hkey'⟩ := hrows _ r hr hblock
  exact ⟨id, hid, hoffset, r', hr', hrid'.trans hrid, hblock', hepoch'.trans hepoch, hkey'.trans hkey⟩

theorem OpenBlock.kept (h : OpenBlock s b) (hrow : ∀ r ∈ (s.logs b.run).rows, r.isBlock → r.id = b.id → r ∈ (s'.logs b.run).rows)
    (hstreamed : streamedText b.run b.id s'.history = streamedText b.run b.id s.history) : OpenBlock s' b := by
  obtain ⟨r, hr, hstreaming⟩ := h.row
  refine ⟨h.kind, ⟨r, hrow r hr hstreaming.block hstreaming.id, hstreaming⟩, ?_, ?_⟩
  · rw [hstreamed]
    exact h.holds
  · rw [hstreamed]
    exact h.length

theorem FinishedRow.kept {authoritative : Option String} (h : FinishedRow s run id authoritative)
    (hrow : ∀ r ∈ (s.logs run).rows, r.isBlock → r.phase ≠ "updated" → r ∈ (s'.logs run).rows)
    (hstreamed : streamedText run id s'.history = streamedText run id s.history) : FinishedRow s' run id authoritative := by
  obtain ⟨r, hr, hid, hblock, hphase, htext⟩ := h
  exact ⟨r, hrow r hr hblock hphase, hid, hblock, hphase, by rw [hstreamed]; exact htext⟩

/-! ## Each change keeps the invariant -/

theorem textInv_sameBlocks (inv : TextInv s) (hlogs : ∀ run, LogInv (s'.logs run))
    (hsame : ∀ run, SameBlocks (s.logs run) (s'.logs run)) (hblocks : s'.blocks = s.blocks) (hhistory : s'.history = s.history) :
    TextInv s' := by
  refine ⟨hlogs, hblocks ▸ inv.keys, hblocks ▸ inv.ids, fun b hb => ?_, fun before native e after h => ?_, fun run id a h => ?_,
    hhistory ▸ inv.once, fun run r hr hblock => ?_⟩
  · rw [hblocks] at hb
    exact (inv.blocks b hb).kept (fun r hr hblock _ => (hsame b.run r hblock).2 hr) (by rw [hhistory])
  · rw [hhistory] at h
    exact (inv.routed before native e after h).kept (fun run r hr hblock => ⟨r, (hsame run r hblock).2 hr, rfl, hblock, rfl, rfl⟩)
  · rw [hhistory] at h
    exact (inv.finished run id a h).kept (fun r hr hblock _ => (hsame run r hblock).2 hr) (by rw [hhistory])
  · rw [hblocks, hhistory]
    exact inv.rows run r ((hsame run r hblock).1 hr) hblock

theorem textInv_write (inv : TextInv s) (run : RunId) (w : Write) (hother : w.isTextBlock = false) :
    TextInv (s.setLog run ((s.logs run).write store w)) := by
  refine textInv_sameBlocks inv (fun r => ?_) (fun r => ?_) rfl rfl
  · rw [setLog_logs]
    split
    · exact logInv_write store (inv.logs run) w
    · exact inv.logs r
  · rw [setLog_logs]
    split
    · rename_i hr
      subst hr
      exact sameBlocks_write (inv.logs r) w hother
    · exact fun _ _ => Iff.rfl

theorem textInv_setBlock (inv : TextInv s) (hb : b ∈ s.blocks) (b' : TextBlock) (history : List TextChange)
    (hkey : b'.key = b.key) (hid : b'.id = b.id) (hnew : OpenBlock { s with history := history } b')
    (hothers : ∀ run id, ¬ (b.run = run ∧ b.id = id) → streamedText run id history = streamedText run id s.history)
    (hrouted : ∀ before native e after, history = before ++ .published native e :: after → Routed s before native e)
    (hfinished : ∀ run id a, .finished run id a ∈ history → .finished run id a ∈ s.history)
    (honce : finishedIn history = finishedIn s.history) :
    TextInv { s.setBlock b.key b' with history := history } := by
  have hrun : b'.run = b.run := congrArg BlockKey.run hkey
  have hsame : ∀ x ∈ s.blocks, (if x.key = b.key then b' else x).key = x.key ∧
      (if x.key = b.key then b' else x).run = x.run ∧ (if x.key = b.key then b' else x).id = x.id := by
    intro x hx
    by_cases h : x.key = b.key
    · rw [if_pos h, inv.eq_of_key hx hb h]
      exact ⟨hkey, hrun, hid⟩
    · rw [if_neg h]
      exact ⟨rfl, rfl, rfl⟩
  refine ⟨inv.logs, ?_, ?_, fun x hx => ?_, hrouted, fun run id a h => ?_, honce ▸ inv.once, fun run r hr hblock => ?_⟩
  · refine pairwise_map.2 (inv.keys.imp_of_mem fun {x y} hx hy hxy => ?_)
    rw [(hsame x hx).1, (hsame y hy).1]
    exact hxy
  · refine pairwise_map.2 (inv.ids.imp_of_mem fun {x y} hx hy hxy => ?_)
    rw [(hsame x hx).2.1, (hsame y hy).2.1, (hsame x hx).2.2, (hsame y hy).2.2]
    exact hxy
  · obtain ⟨y, hy, rfl⟩ := mem_map.1 hx
    by_cases h : y.key = b.key
    · rw [if_pos h]
      exact ⟨hnew.kind, hnew.row, hnew.holds, hnew.length⟩
    · rw [if_neg h]
      refine (inv.blocks y hy).kept (fun _ hr _ _ => hr) (hothers y.run y.id ?_)
      rintro ⟨hr, hi⟩
      exact h (congrArg TextBlock.key (inv.eq_of_id hy hb hr.symm hi.symm))
  · have h := hfinished run id a h
    refine (inv.finished run id a h).kept (fun _ hr _ _ => hr) (hothers run id ?_)
    exact inv.not_open (mem_finishedIn.2 ⟨a, h⟩) hb
  · rcases inv.rows run r hr hblock with ⟨x, hx, hxrun, hxid⟩ | h
    · refine .inl ⟨if x.key = b.key then b' else x, mem_map.2 ⟨x, hx, rfl⟩, ?_, ?_⟩
      · rw [(hsame x hx).2.1, hxrun]
      · rw [(hsame x hx).2.2, hxid]
    · exact .inr (honce ▸ h)

theorem textInv_appendFailed (inv : TextInv s) (hb : b ∈ s.blocks) (io : AppendIo) (text : String)
    (hkept : (b.body.append io text).2 = false) : TextInv (s.setBlock b.key { b with body := (b.body.append io text).1 }) := by
  have hopen := inv.blocks b hb
  refine textInv_setBlock inv hb { b with body := (b.body.append io text).1 } s.history rfl rfl ?_ (fun _ _ _ => rfl)
    inv.routed (fun _ _ _ h => h) rfl
  obtain ⟨r, hr, hrow⟩ := hopen.row
  refine ⟨hopen.kind, ⟨r, hr, hrow.id, hrow.block, hrow.phase, hrow.epoch, hrow.key⟩, ?_, hopen.length⟩
  have hholds := holds_append hopen.holds io text
  rw [hkept, if_neg Bool.false_ne_true] at hholds
  exact hholds

theorem blockId_liveDelta (b : TextBlock) (event text : String) (offset : Nat) :
    (b.liveDelta store event text offset).payload.strField "blockId" = some b.id := by
  simp [TextBlock.liveDelta, TextBlock.event, Json.strField, Json.get?, Json.lookupField, Json.asStr]

theorem textOffset_liveDelta (b : TextBlock) (event text : String) (offset : Nat) :
    (b.liveDelta store event text offset).payload.get? "textOffset" = some (.num offset) := by
  simp [TextBlock.liveDelta, TextBlock.event, Json.get?, Json.lookupField]

theorem deltaFor_liveDelta (b : TextBlock) (native : Option String) (event text : String) (offset : Nat) (run : RunId)
    (id : EvidenceId) : (TextChange.published native (b.liveDelta store event text offset)).deltaFor run id =
      if b.run = run ∧ b.id = id then text else "" := by
  simp [TextChange.deltaFor, TextBlock.liveDelta, TextBlock.event, Json.strField, Json.get?, Json.lookupField, Json.asStr]

theorem textInv_append (inv : TextInv s) (hb : b ∈ s.blocks) (io : AppendIo) (event text : String)
    (hkept : (b.body.append io text).2 = true) :
    TextInv { s.setBlock b.key { b with
        body := (b.body.append io text).1, utf16Len := b.utf16Len + utf16Length text } with
      history := s.history ++ [.published b.nativeId (b.liveDelta store event text b.utf16Len)] } := by
  have hopen := inv.blocks b hb
  obtain ⟨r, hr, hrow⟩ := hopen.row
  have hown : streamedText b.run b.id (s.history ++ [.published b.nativeId (b.liveDelta store event text b.utf16Len)]) =
      streamedText b.run b.id s.history ++ text := by
    rw [streamedText_snoc, deltaFor_liveDelta, if_pos ⟨rfl, rfl⟩]
  refine textInv_setBlock inv hb
    { b with body := (b.body.append io text).1, utf16Len := b.utf16Len + utf16Length text } _ rfl rfl ?_
    (fun run id hne => ?_) (fun before native e after h => ?_) (fun run id a h => ?_) ?_
  · refine ⟨hopen.kind, ⟨r, hr, hrow.id, hrow.block, hrow.phase, hrow.epoch, hrow.key⟩, ?_, ?_⟩
    · have hholds := holds_append hopen.holds io text
      rw [hkept, if_pos rfl] at hholds
      simp only [hown]
      exact hholds
    · show b.utf16Len + utf16Length text = _
      rw [hown, utf16Length_append, ← hopen.length]
  · rw [streamedText_snoc, deltaFor_liveDelta, if_neg hne, String.append_empty]
  · rcases Lists.snoc_eq_append_cons h with ⟨rfl, hlast⟩ | ⟨after', hold⟩
    · rw [TextChange.published.injEq] at hlast
      obtain ⟨rfl, rfl⟩ := hlast
      refine ⟨b.id, blockId_liveDelta .., ?_, r, hr, hrow.id, hrow.block, hrow.epoch, hrow.key⟩
      have hrun : (b.liveDelta store event text b.utf16Len).agentRunId = b.run := rfl
      rw [textOffset_liveDelta, hrun, ← hopen.length]
    · exact inv.routed before native e after' hold
  · rcases mem_append.1 h with h | h
    · exact h
    · cases mem_singleton.1 h
  · rw [finishedIn, filterMap_append]
    exact append_nil _

variable {payload : Json} {k : BlockKey}

theorem textInv_start (inv : TextInv s) {now : Timestamp} {log : RunLog}
    (hkind : k.kind = narration) (hclosed : ∀ b ∈ s.blocks, b.key ≠ k)
    (hinserted : insertTextBlock (s.logs k.run) k.epoch id now (k.native.map (sourceKey k.epoch k.kind)) payload = some log) :
    TextInv { s.setLog k.run log with blocks := s.blocks ++ [newBlock s id now k] } := by
  obtain ⟨hrows, hfresh⟩ := insertTextBlock_rows hinserted
  have hmem : ∀ run, ∀ r ∈ (s.logs run).rows, r ∈ ((s.setLog k.run log).logs run).rows := by
    intro run r hr
    rw [setLog_logs]
    split
    · rename_i hrun
      subst hrun
      rw [hrows]
      exact mem_append_left _ hr
    · exact hr
  have hnew : textBlockRow (s.logs k.run) k.epoch id now (k.native.map (sourceKey k.epoch k.kind)) payload ∈
      ((s.setLog k.run log).logs k.run).rows := by
    rw [setLog_logs, if_pos rfl, hrows]
    exact mem_append_right _ (mem_singleton.2 rfl)
  have hempty := inv.streamedText_fresh hfresh
  refine ⟨fun run => ?_, ?_, ?_, fun b hb => ?_, fun before native e after h => ?_, fun run id' a h => ?_, inv.once,
    fun run r hr hblock => ?_⟩
  · show LogInv ((s.setLog k.run log).logs run)
    rw [setLog_logs]
    split
    · exact (inv.logs k.run).rowWrite (insertTextBlock_rowWrite hinserted)
    · exact inv.logs run
  · rw [pairwise_append]
    refine ⟨inv.keys, pairwise_singleton _ _, fun a ha b hb => ?_⟩
    rw [mem_singleton.1 hb]
    exact hclosed a ha
  · rw [pairwise_append]
    refine ⟨inv.ids, pairwise_singleton _ _, fun a ha b hb => ?_⟩
    rw [mem_singleton.1 hb]
    rintro ⟨hrun, hid⟩
    obtain ⟨r, hr, hrow⟩ := (inv.blocks a ha).row
    rw [hrun] at hr
    exact hfresh r hr (hrow.id.trans hid)
  · rcases mem_append.1 hb with hb | hb
    · exact (inv.blocks b hb).kept (fun r hr _ _ => hmem b.run r hr) rfl
    rw [mem_singleton.1 hb]
    refine ⟨hkind, ⟨_, hnew, rfl, rfl, rfl, rfl, by rw [← hkind]; rfl⟩, ?_, ?_⟩
    · show Body.empty.Holds (streamedText k.run id s.history)
      rw [hempty]
      exact holds_empty
    · show 0 = utf16Length (streamedText k.run id s.history)
      rw [hempty]
      rfl
  · exact (inv.routed before native e after h).kept (fun run r hr hblock => ⟨r, hmem run r hr, rfl, hblock, rfl, rfl⟩)
  · exact (inv.finished run id' a h).kept (fun r hr _ _ => hmem run r hr) rfl
  · have hold : ∀ r ∈ (s.logs run).rows, r.isBlock →
        (∃ b ∈ s.blocks ++ [newBlock s id now k], b.run = run ∧ b.id = r.id) ∨ (run, r.id) ∈ finishedIn s.history := by
      intro r hr hblock
      refine (inv.rows run r hr hblock).imp (fun h => ?_) (fun h => h)
      obtain ⟨b, hb, h⟩ := h
      exact ⟨b, mem_append_left _ hb, h⟩
    change r ∈ ((s.setLog k.run log).logs run).rows at hr
    rw [setLog_logs] at hr
    split at hr
    · rename_i hrun
      subst hrun
      rw [hrows] at hr
      rcases mem_append.1 hr with hr | hr
      · exact hold r hr hblock
      rw [mem_singleton.1 hr]
      exact .inl ⟨_, mem_append_right _ (mem_singleton.2 rfl), rfl, rfl⟩
    · exact hold r hr hblock

theorem finishedPhase_ne (status : String) : finishedPhase status ≠ "updated" := by
  unfold finishedPhase
  split <;> decide

theorem text_finishedPayload (b : TextBlock) (text status : String) :
    (finishedPayload b text status).strField "text" = some text := by
  rw [Json.strField, finishedPayload, Json.get?_setField_of_ne _ _ (by decide), Json.get?_setField_of_ne _ _ (by decide)]
  simp [TextBlock.payload, Json.get?, Json.lookupField, Json.asStr]

theorem textInv_finish (inv : TextInv s) (hb : b ∈ s.blocks) {authoritative : Option String} {text status : String}
    {preview : Json} {log : RunLog} (hwhole : authoritative.or b.body.text = some text)
    (hupdated : updateTextBlock (s.logs b.run) b.id (finishedPhase status) (finishedPayload b text status) preview
      (b.revision + 1) = some log) :
    TextInv { s.setLog b.run log with
      blocks := s.blocks.filter (fun x => x.key ≠ b.key)
      history := s.history ++ [.finished b.run b.id authoritative] } := by
  obtain ⟨r, hr, hrow⟩ := (inv.blocks b hb).row
  rw [← hrow.id] at hupdated
  obtain ⟨r', hid', htype', hepoch', hkey', hphase', hpayload', hrows⟩ := updateTextBlock_rows (inv.logs b.run) hr hupdated
  have hblock' : r'.isBlock := htype'.trans hrow.block
  have hstreamed : ∀ run id, streamedText run id (s.history ++ [.finished b.run b.id authoritative]) =
      streamedText run id s.history := fun run id => by
    rw [streamedText_snoc, TextChange.deltaFor, String.append_empty]
  have hkept : ∀ run, ∀ x ∈ (s.logs run).rows, ¬ (b.run = run ∧ b.id = x.id) → x ∈ ((s.setLog b.run log).logs run).rows := by
    intro run x hx hne
    rw [setLog_logs]
    split
    · rename_i hrun
      subst hrun
      refine (hrows x).2 (.inr ⟨hx, ?_⟩)
      rintro rfl
      exact hne ⟨rfl, hrow.id.symm⟩
    · exact hx
  have hr' : r' ∈ ((s.setLog b.run log).logs b.run).rows := by
    rw [setLog_logs, if_pos rfl]
    exact (hrows r').2 (.inl rfl)
  have hfinished : (b.run, b.id) ∉ finishedIn s.history := fun h => inv.not_open h hb ⟨rfl, rfl⟩
  have hgrows : finishedIn (s.history ++ [.finished b.run b.id authoritative]) = finishedIn s.history ++ [(b.run, b.id)] := by
    rw [finishedIn, filterMap_append]
    rfl
  refine ⟨fun run => ?_, inv.keys.filter _, inv.ids.filter _, fun x hx => ?_, fun before native e after h => ?_,
    fun run id a h => ?_, ?_, fun run x hx hblock => ?_⟩
  · show LogInv ((s.setLog b.run log).logs run)
    rw [setLog_logs]
    split
    · exact (inv.logs b.run).rowWrite (updateTextBlock_rowWrite (inv.logs b.run) hupdated)
    · exact inv.logs run
  · obtain ⟨hx, hne⟩ := mem_filter.1 hx
    refine (inv.blocks x hx).kept (fun y hy _ hyid => hkept x.run y hy ?_) (hstreamed _ _)
    rintro ⟨hrun, hid⟩
    rw [inv.eq_of_id hx hb hrun.symm (hyid.symm.trans hid.symm)] at hne
    simp at hne
  · rcases Lists.snoc_eq_append_cons h with ⟨-, hlast⟩ | ⟨after', hold⟩
    · cases hlast
    refine (inv.routed before native e after' hold).kept (fun run x hx hblock => ?_)
    by_cases hne : b.run = run ∧ b.id = x.id
    · obtain ⟨rfl, hid⟩ := hne
      rw [(inv.logs b.run).eq_of_id hx hr (hid.symm.trans hrow.id.symm)]
      exact ⟨r', hr', hid', hblock', hepoch', hkey'⟩
    · exact ⟨x, hkept run x hx hne, rfl, hblock, rfl, rfl⟩
  · rcases mem_append.1 h with h | h
    · refine (inv.finished run id a h).kept (fun x hx _ hphase => hkept run x hx ?_) (hstreamed _ _)
      rintro ⟨rfl, hid⟩
      rw [(inv.logs b.run).eq_of_id hx hr (hid.symm.trans hrow.id.symm)] at hphase
      exact hphase hrow.phase
    · obtain ⟨rfl, rfl, rfl⟩ : run = b.run ∧ id = b.id ∧ a = authoritative := by simpa using h
      refine ⟨r', hr', hid'.trans hrow.id, hblock', hphase' ▸ finishedPhase_ne status, ?_⟩
      rw [hpayload', text_finishedPayload, hstreamed, ← hwhole, (inv.blocks b hb).holds.text_eq]
      cases a <;> rfl
  · show (finishedIn (s.history ++ [.finished b.run b.id authoritative])).Nodup
    rw [hgrows, nodup_append]
    refine ⟨inv.once, nodup_singleton _, fun x hx y hy => ?_⟩
    rw [mem_singleton.1 hy]
    rintro rfl
    exact hfinished hx
  · show (∃ y ∈ s.blocks.filter (fun x => x.key ≠ b.key), y.run = run ∧ y.id = x.id) ∨
      (run, x.id) ∈ finishedIn (s.history ++ [.finished b.run b.id authoritative])
    rw [hgrows, mem_append, mem_singleton]
    have hold : x ∈ (s.logs run).rows ∨ (run = b.run ∧ x.id = b.id) := by
      change x ∈ ((s.setLog b.run log).logs run).rows at hx
      rw [setLog_logs] at hx
      split at hx
      · rename_i hrun
        subst hrun
        rcases (hrows x).1 hx with rfl | ⟨hx, -⟩
        · exact .inr ⟨rfl, hid'.trans hrow.id⟩
        · exact .inl hx
      · exact .inl hx
    rcases hold with hold | ⟨rfl, hid⟩
    · rcases inv.rows run x hold hblock with ⟨y, hy, hyrun, hyid⟩ | h
      · by_cases hyb : y = b
        · subst hyb
          exact .inr (.inr (by rw [hyrun, hyid]))
        · refine .inl ⟨y, mem_filter.2 ⟨hy, ?_⟩, hyrun, hyid⟩
          simpa using fun hk => hyb (inv.eq_of_key hy hb hk)
      · exact .inr (.inl h)
    · exact .inr (.inr (by rw [hid]))

/-- **Every change keeps the invariant.** -/
theorem textInv_textStep (inv : TextInv s) (h : TextStep store s s') : TextInv s' := by
  cases h with
  | start k id now payload log kind closed inserted => exact textInv_start inv kind closed inserted
  | append b mem io event text kept => exact textInv_append inv mem io event text kept
  | appendFailed b mem io text kept => exact textInv_appendFailed inv mem io text kept
  | finish b mem authoritative text status preview log whole updated => exact textInv_finish inv mem whole updated
  | write run w other => exact textInv_write inv run w other
  | rest => exact textInv_sameBlocks inv inv.logs (fun _ _ _ => Iff.rfl) rfl rfl

theorem textInv_steps (inv : TextInv s) (h : ReflTransGen (TextStep store) s s') : TextInv s' := by
  induction h with
  | refl => exact inv
  | tail _ hstep ih => exact textInv_textStep ih hstep

/-! ## What is finished stays -/

/-- Nothing that happens later changes a finished block: no delta is published under its id, and its row stands. -/
structure FinishedStays (s s' : TextState) : Prop where
  history : s.history <+: s'.history
  streamed : ∀ run id, (run, id) ∈ finishedIn s.history → streamedText run id s'.history = streamedText run id s.history
  rows : ∀ run, ∀ r ∈ (s.logs run).rows, r.isBlock → (run, r.id) ∈ finishedIn s.history → r ∈ (s'.logs run).rows

theorem FinishedStays.refl (s : TextState) : FinishedStays s s :=
  ⟨prefix_refl _, fun _ _ _ => rfl, fun _ _ hr _ _ => hr⟩

theorem FinishedStays.trans {s'' : TextState} (h : FinishedStays s s') (h' : FinishedStays s' s'') : FinishedStays s s'' := by
  have hmono : ∀ x ∈ finishedIn s.history, x ∈ finishedIn s'.history := by
    intro x hx
    obtain ⟨l, hl⟩ := h.history
    rw [← hl, finishedIn, filterMap_append]
    exact mem_append_left _ hx
  refine ⟨h.history.trans h'.history, fun run id hf => ?_, fun run r hr hblock hf => ?_⟩
  · rw [h'.streamed run id (hmono _ hf), h.streamed run id hf]
  · exact h'.rows run r (h.rows run r hr hblock hf) hblock (hmono _ hf)

theorem finishedStays_textStep (inv : TextInv s) (h : TextStep store s s') : FinishedStays s s' := by
  cases h with
  | start k id now payload log kind closed inserted =>
    refine ⟨prefix_refl _, fun _ _ _ => rfl, fun run r hr _ _ => ?_⟩
    show r ∈ ((s.setLog k.run log).logs run).rows
    rw [setLog_logs]
    split
    · rename_i hrun
      subst hrun
      rw [(insertTextBlock_rows inserted).1]
      exact mem_append_left _ hr
    · exact hr
  | append b mem =>
    refine ⟨prefix_append _ _, fun run id hf => ?_, fun _ _ hr _ _ => hr⟩
    show streamedText run id (s.history ++ [_]) = _
    rw [streamedText_snoc, deltaFor_liveDelta, if_neg (inv.not_open hf mem), String.append_empty]
  | appendFailed => exact ⟨prefix_refl _, fun _ _ _ => rfl, fun _ _ hr _ _ => hr⟩
  | finish b mem authoritative text status preview log whole updated =>
    refine ⟨prefix_append _ _, fun run id _ => ?_, fun run r hr _ hf => ?_⟩
    · show streamedText run id (s.history ++ [_]) = _
      rw [streamedText_snoc, TextChange.deltaFor, String.append_empty]
    · show r ∈ ((s.setLog b.run log).logs run).rows
      rw [setLog_logs]
      split
      · rename_i hrun
        subst hrun
        obtain ⟨x, hx, hrow⟩ := (inv.blocks b mem).row
        rw [← hrow.id] at updated
        obtain ⟨r', -, -, -, -, -, -, hrows⟩ := updateTextBlock_rows (inv.logs b.run) hx updated
        refine (hrows r).2 (.inr ⟨hr, ?_⟩)
        rintro rfl
        exact inv.not_open hf mem ⟨rfl, hrow.id.symm⟩
      · exact hr
  | write run w other =>
    refine ⟨prefix_refl _, fun _ _ _ => rfl, fun run' r hr hblock _ => ?_⟩
    rw [setLog_logs]
    split
    · rename_i hrun
      subst hrun
      exact (sameBlocks_write (inv.logs run') w other r hblock).2 hr
    · exact hr
  | rest => exact ⟨prefix_refl _, fun _ _ _ => rfl, fun _ _ hr _ _ => hr⟩

theorem finishedStays_steps (inv : TextInv s) (h : ReflTransGen (TextStep store) s s') : FinishedStays s s' := by
  induction h with
  | refl => exact FinishedStays.refl s
  | tail hsteps hstep ih => exact ih.trans (finishedStays_textStep (textInv_steps inv hsteps) hstep)

/-! ## What is published is what was answered -/

def answerOf (native : Option String) : Observed → List (Option String × TextEvidence)
  | .ok (some (some e)) => [(native, e)]
  | _ => []

def answered (store : ContentStore) (s : TextState) : TextAction → List (Option String × TextEvidence)
  | .observe io run epoch event payload =>
    if isTextDelta event then answerOf (nativeIdentity payload) (observe store s io run epoch event payload).2 else []
  | _ => []

def answers (store : ContentStore) : TextState → List TextAction → List (Option String × TextEvidence)
  | _, [] => []
  | s, a :: as => answered store s a ++ answers store (s.step store a) as

def Silent (s s' : TextState) : Prop := publishedIn s'.history = publishedIn s.history

theorem silent_andThen {α β : Type} {r : TextState × Except String α} {f : TextState → α → TextState × Except String β}
    (hr : Silent s r.1) (hf : ∀ a, Silent r.1 (f r.1 a).1) : Silent s (andThen r f).1 := by
  unfold andThen
  split
  · exact (hf _).trans hr
  · exact hr

theorem silent_finish (persists : Bool) (k : BlockKey) (authoritative : Option String) (status : String) :
    Silent s (finish store s persists k authoritative status).1 := by
  unfold finish
  split
  · exact rfl
  simp only
  split
  · exact rfl
  split
  · exact rfl
  show publishedIn (s.history ++ [_]) = _
  rw [publishedIn, filterMap_append]
  exact append_nil _

theorem silent_finishAll (persists : BlockKey → Bool) : ∀ (ks : List (BlockKey × String)) (s : TextState),
    Silent s (finishAll store persists s ks).1
  | [], _ => rfl
  | (k, status) :: ks, s => by
    rw [finishAll]
    refine silent_andThen (silent_finish (persists k) k none status) (fun _ => ?_)
    exact silent_andThen (silent_finishAll persists ks _) (fun _ => rfl)

variable (io : ObserveIo)

theorem silent_openBlock (k : BlockKey) : Silent s (openBlock s io k).1 := by
  unfold openBlock
  split
  · exact rfl
  split
  · exact rfl
  refine silent_andThen ?_ (fun _ => rfl)
  unfold start
  simp only
  split <;> exact rfl

def Publishes (native : Option String) (s : TextState) (r : TextState × Observed) : Prop :=
  publishedIn r.1.history = publishedIn s.history ++ answerOf native r.2

theorem publishes_andThen {α : Type} {r : TextState × Except String α}
    {f : TextState → α → TextState × Observed} (hr : Silent s r.1) (hf : ∀ a, Publishes native r.1 (f r.1 a)) :
    Publishes native s (andThen r f) := by
  unfold andThen
  split
  · have h := hf ‹_›
    rw [Publishes, hr] at h
    exact h
  · exact hr.trans (append_nil _).symm

theorem publishes_nothing (s : TextState) {answer : Observed} (h : answerOf native answer = []) :
    Publishes native s (s, answer) := by
  rw [Publishes, h, append_nil]

theorem publishes_appendDelta (k : BlockKey) (event text : String) :
    Publishes k.native s (appendDelta store s io k event text) := by
  unfold appendDelta
  split
  · exact publishes_nothing s rfl
  simp only
  split
  · show publishedIn (s.history ++ [_]) = _
    rw [publishedIn, filterMap_append]
    rfl
  · exact (append_nil _).symm

theorem publishes_observeDelta (run : RunId) (epoch : Nat) (event : String) (payload : Json) :
    Publishes (nativeIdentity payload) s (observeDelta store s io run epoch event payload) := by
  unfold observeDelta
  refine publishes_andThen (silent_finishAll _ _ _) (fun _ => ?_)
  simp only
  split
  · exact publishes_nothing _ rfl
  split
  · exact publishes_nothing _ rfl
  refine publishes_andThen (silent_openBlock io _) (fun isOpen => ?_)
  split
  · exact publishes_appendDelta io _ event _
  · exact publishes_nothing _ rfl

variable {event : String}

theorem silent_observe (io : ObserveIo) (run : RunId) (epoch : Nat) (payload : Json)
    (hdelta : isTextDelta event = false) : Silent s (observe store s io run epoch event payload).1 := by
  unfold observe
  simp only [hdelta, Bool.false_eq_true, if_false]
  split
  · exact rfl
  split
  · exact rfl
  split
  · exact silent_andThen (silent_finishAll _ _ _) (fun _ => rfl)
  split
  · unfold observeCompletion
    simp only
    split
    · exact rfl
    split
    · exact rfl
    refine silent_andThen (silent_openBlock io _) (fun isOpen => ?_)
    split
    · exact silent_andThen (silent_finish _ _ _ _) (fun _ => rfl)
    · exact rfl
  split
  · exact rfl
  unfold observeBoundary
  exact silent_andThen (silent_finishAll _ _ _) (fun _ => rfl)

theorem publishes_observe (io : ObserveIo) (run : RunId) (epoch : Nat) (payload : Json)
    (hdelta : isTextDelta event = true) : Publishes (nativeIdentity payload) s (observe store s io run epoch event payload) := by
  unfold observe
  simp only [hdelta, if_true]
  split
  · exact publishes_nothing s rfl
  split
  · refine publishes_nothing s ?_
    split <;> rfl
  split
  · exact publishes_andThen (silent_finishAll _ _ _) (fun _ => publishes_nothing _ rfl)
  · exact publishes_observeDelta io run epoch event payload

/-- **A step publishes the delta it accepts, and nothing else.** -/
theorem publishedIn_step (a : TextAction) : publishedIn (s.step store a).history = publishedIn s.history ++ answered store s a := by
  have hsilent : ∀ s', Silent s s' → publishedIn s'.history = publishedIn s.history ++ [] :=
    fun s' h => h.trans (append_nil _).symm
  cases a with
  | observe io run epoch event payload =>
    rw [TextState.step, answered]
    cases hdelta : isTextDelta event with
    | false => exact hsilent _ (silent_observe io run epoch payload hdelta)
    | true => exact publishes_observe io run epoch payload hdelta
  | settle io =>
    refine hsilent _ ?_
    rw [TextState.step, maintainSettledUntil]
    split
    · exact rfl
    split
    · exact rfl
    show Silent s (attemptFlushSettled store s io).1
    unfold attemptFlushSettled
    split
    · exact rfl
    · exact silent_finishAll _ _ _
  | request now =>
    refine hsilent _ ?_
    rw [TextState.step, requestSettlement]
    split <;> exact rfl
  | evidence =>
    refine hsilent _ ?_
    rw [TextState.step]
    split <;> exact rfl
  | runs runs => exact hsilent _ rfl

theorem publishedIn_run (store : ContentStore) : ∀ (as : List TextAction) (s : TextState),
    publishedIn (as.foldl (TextState.step store) s).history = publishedIn s.history ++ answers store s as
  | [], s => (append_nil _).symm
  | a :: as, s => by
    rw [foldl_cons, publishedIn_run store as, publishedIn_step, answers, append_assoc]

/-! ## Which deltas are accepted -/

theorem andThen_eq_ok {α β : Type} {r : TextState × Except String α} {f : TextState → α → TextState × Except String β} {c : β}
    (h : (andThen r f).2 = .ok c) : ∃ a, r.2 = .ok a ∧ (f r.1 a).2 = .ok c ∧ (andThen r f).1 = (f r.1 a).1 := by
  unfold andThen at h ⊢
  split at h
  · rename_i a ha
    rw [ha]
    exact ⟨a, rfl, h, rfl⟩
  · cases h

variable {io : ObserveIo}

theorem live_of_appendDelta {event text : String}
    (h : (appendDelta store s io k event text).2 = .ok (some (some e))) :
    ∃ b : TextBlock, b.key = k ∧ e = b.liveDelta store event text b.utf16Len := by
  unfold appendDelta at h
  cases hfind : s.find k with
  | none =>
    rw [hfind] at h
    cases h
  | some b =>
    rw [hfind] at h
    simp only at h
    split at h
    · cases h
      exact ⟨b, (find_eq_some hfind).2, rfl⟩
    · cases h

theorem appendDelta_ne_nothing {event text : String} :
    (appendDelta store s io k event text).2 ≠ .ok (some none) := by
  unfold appendDelta
  split
  · exact nofun
  simp only
  split <;> exact nofun

theorem openBlock_refused (h : (openBlock s io k).2 = .ok false) :
    (openBlock s io k).1 = s ∧ s.find k = none ∧ sourceExists s k = true := by
  unfold openBlock at h ⊢
  split at h
  · cases h
  rename_i hfind
  rw [if_neg hfind]
  split at h
  · rename_i hexists
    rw [if_pos hexists]
    exact ⟨rfl, Option.not_isSome_iff_eq_none.1 hfind, hexists⟩
  · obtain ⟨-, -, h, -⟩ := andThen_eq_ok h
    cases h

def deltaKey (run : RunId) (epoch : Nat) (payload : Json) : BlockKey :=
  { run := run, epoch := epoch, kind := narration, native := nativeIdentity payload }

structure AcceptedDelta (s : TextState) (run : RunId) (epoch : Nat) (payload : Json) (x : Option String × TextEvidence) : Prop where
  root : isRootOutput payload = true ∧ isRootOutput (payload.getD "item") = true
  admitted : admitted s run epoch = true
  native : x.1 = nativeIdentity payload
  run : x.2.agentRunId = run
  epoch : x.2.executionEpoch = epoch
  text : x.2.payload.strField "delta" = some (deltaText payload)

variable {epoch : Nat}

theorem observeDelta_accepted
    (h : (observeDelta store s io run epoch event payload).2 = .ok (some (some e))) :
    e.agentRunId = run ∧ e.executionEpoch = epoch ∧ e.payload.strField "delta" = some (deltaText payload) := by
  unfold observeDelta at h
  obtain ⟨-, -, h, -⟩ := andThen_eq_ok h
  simp only at h
  split at h
  · cases h
  split at h
  · cases h
  obtain ⟨isOpen, -, h, -⟩ := andThen_eq_ok h
  split at h
  · obtain ⟨b, hkey, rfl⟩ := live_of_appendDelta h
    refine ⟨congrArg BlockKey.run hkey, congrArg BlockKey.epoch hkey, ?_⟩
    simp [TextBlock.liveDelta, TextBlock.event, Json.strField, Json.get?, Json.lookupField, Json.asStr]
  · cases h

theorem observe_accepted
    (hdelta : isTextDelta event = true) {x : Option String × TextEvidence}
    (hx : x ∈ answerOf (nativeIdentity payload) (observe store s io run epoch event payload).2) :
    AcceptedDelta s run epoch payload x := by
  obtain ⟨e, h, rfl⟩ : ∃ e, (observe store s io run epoch event payload).2 = .ok (some (some e)) ∧
      x = (nativeIdentity payload, e) := by
    unfold answerOf at hx
    split at hx
    · rename_i e he
      exact ⟨e, he, mem_singleton.1 hx⟩
    · cases hx
  unfold observe at h
  simp only [hdelta, Bool.true_or, Bool.true_and, if_true] at h
  split at h
  · cases h
  rename_i hroot
  split at h
  · cases h
  rename_i hadmitted
  split at h
  · obtain ⟨-, -, h, -⟩ := andThen_eq_ok h
    cases h
  · obtain ⟨hrun, hepoch, htext⟩ := observeDelta_accepted h
    exact ⟨by simpa using hroot, by simpa using hadmitted, rfl, hrun, hepoch, htext⟩

/-- **A delta of the root that is answered with nothing has no text, or its block is done with.** -/
theorem observe_refused
    (hdelta : isTextDelta event = true) (hroot : isRootOutput payload = true ∧ isRootOutput (payload.getD "item") = true)
    (hadmitted : admitted s run epoch = true) (hpublic : privateReasoning event payload = false)
    (h : (observe store s io run epoch event payload).2 = .ok (some none)) :
    deltaText payload = "" ∨
      ((observe store s io run epoch event payload).1.find (deltaKey run epoch payload) = none ∧
        sourceExists (observe store s io run epoch event payload).1 (deltaKey run epoch payload) = true) := by
  have hobserve : observe store s io run epoch event payload = observeDelta store s io run epoch event payload := by
    unfold observe
    simp [hdelta, hroot, hadmitted, hpublic]
  rw [hobserve] at h ⊢
  unfold observeDelta at h ⊢
  obtain ⟨es, -, h, heq⟩ := andThen_eq_ok h
  rw [heq]
  generalize (finishAll store io.persists s
    (anonymousKeys s run epoch (fun b => (nativeIdentity payload).isSome || b.kind ≠ narration))).1 = t at h ⊢
  simp only at h ⊢
  split at h
  · rename_i hempty
    exact .inl hempty
  rename_i hempty
  split at h
  · cases h
  rename_i hroom
  rw [if_neg hempty, if_neg hroom]
  obtain ⟨isOpen, hopen, h, heq⟩ := andThen_eq_ok h
  rw [heq]
  cases isOpen with
  | true => exact absurd h appendDelta_ne_nothing
  | false =>
    obtain ⟨hstate, hnone, hexists⟩ := openBlock_refused hopen
    rw [if_neg Bool.false_ne_true, hstate]
    exact .inr ⟨hnone, hexists⟩

end

/-! ## Runs -/

structure StreamFaithful (store : ContentStore) (as : List TextAction) (s : TextState) : Prop where
  /-- The published deltas are those that were accepted, in order. -/
  published : publishedIn s.history = answers store TextState.initial as
  accepted : ∀ pre io run epoch event payload post, as = pre ++ .observe io run epoch event payload :: post →
    ∀ x ∈ answered store (pre.foldl (TextState.step store) TextState.initial) (.observe io run epoch event payload),
      AcceptedDelta (pre.foldl (TextState.step store) TextState.initial) run epoch payload x
  refused : ∀ io run epoch event payload, isTextDelta event = true →
    isRootOutput payload = true ∧ isRootOutput (payload.getD "item") = true → admitted s run epoch = true →
    privateReasoning event payload = false → (observe store s io run epoch event payload).2 = .ok (some none) →
    deltaText payload = "" ∨
      ((observe store s io run epoch event payload).1.find (deltaKey run epoch payload) = none ∧
        sourceExists (observe store s io run epoch event payload).1 (deltaKey run epoch payload) = true)
  routed : ∀ before native e after, s.history = before ++ .published native e :: after → Routed s before native e
  streaming : ∀ b ∈ s.blocks, b.body.text = some (streamedText b.run b.id s.history)
  rows : ∀ run, ∀ r ∈ (s.logs run).rows, r.isBlock →
    (∃ b ∈ s.blocks, b.run = run ∧ b.id = r.id) ∨ (run, r.id) ∈ finishedIn s.history
  finished : ∀ run id authoritative, .finished run id authoritative ∈ s.history → FinishedRow s run id authoritative
  once : (finishedIn s.history).Nodup
  anonymous : ∀ a ∈ s.blocks, ∀ b ∈ s.blocks, a.run = b.run → a.epoch = b.epoch → a.nativeId = none → b.nativeId = none →
    a = b

/-- **Streaming text is neither lost, nor doubled, nor reordered**, and what is finished stays as it is. -/
theorem streaming_text_faithful (store : ContentStore) (as bs : List TextAction) :
    StreamFaithful store as (as.foldl (TextState.step store) TextState.initial) ∧
      FinishedStays (as.foldl (TextState.step store) TextState.initial)
        ((as ++ bs).foldl (TextState.step store) TextState.initial) := by
  rw [foldl_append]
  have inv : TextInv (as.foldl (TextState.step store) TextState.initial) :=
    Runs.run_invariant (P := TextInv) _ (fun s a inv => textInv_steps inv (steps_step a)) as _ textInv_initial
  have hpublished := publishedIn_run store as TextState.initial
  generalize as.foldl (TextState.step store) TextState.initial = s at *
  constructor
  · refine ⟨hpublished, fun pre io run epoch event payload post _ x hx => ?_,
      fun _ _ _ _ _ hdelta hroot hadmitted hpublic h => observe_refused hdelta hroot hadmitted hpublic h, inv.routed,
      fun b hb => (inv.blocks b hb).holds.text_eq, inv.rows, inv.finished, inv.once, fun a ha b hb hrun hepoch hna hnb => inv.eq_of_key ha hb ?_⟩
    · rw [answered] at hx
      split at hx
      · rename_i hdelta
        exact observe_accepted hdelta hx
      · cases hx
    · rw [TextBlock.key, TextBlock.key, hrun, hepoch, hna, hnb, (inv.blocks a ha).kind, (inv.blocks b hb).kind]
  · refine (Runs.run_invariant (P := fun t => TextInv t ∧ FinishedStays s t) _ (fun t a ht => ?_) bs s
      ⟨inv, FinishedStays.refl s⟩).2
    exact ⟨textInv_steps ht.1 (steps_step a), ht.2.trans (finishedStays_steps ht.1 (steps_step a))⟩

end Rovai
