import RovaiCore.FileFactsLog
/-!
# Projecting a terminal run (`project_terminal_run`)

A projection reads the file-facts watermark, then the evidence, and publishes under the watermark it read.
-/
namespace Rovai

open Lines (Text)

/-! ## The system -/

structure TerminalRun where
  agentRunId : String
  executionEpoch : Nat
  completedAt : String
  executionRoot : ExecutionRoot

structure ProjectionRow where
  projection : Option AggregatedProjection
  completedAt : String
  (sourceChangeSequence revision lastAttemptedSourceChangeSequence : Nat)
  lastErrorCode : Option String

inductive ProjectionCall where
  | idle
  | began (sourceChangeSequence : Nat) (existing : Option ProjectionRow)
  | built (sourceChangeSequence : Nat) (existing : Option ProjectionRow) (projection : Option AggregatedProjection)

structure ProjectorState where
  log : RunLog
  live : LiveTexts
  row : Option ProjectionRow
  calls : Nat → ProjectionCall

def ProjectorState.initial : ProjectorState where
  log := RunLog.empty
  live := fun _ => none
  row := none
  calls := fun _ => .idle

variable (s : ProjectorState)

def ProjectorState.setCall (call : Nat) (c : ProjectionCall) : ProjectorState :=
  { s with calls := fun n => if n = call then c else s.calls n }

variable (run : TerminalRun)

def beginProjection (s : ProjectorState) (call : Nat) : ProjectorState :=
  let source := s.log.watermark run.executionEpoch
  if s.row.any (fun row => row.sourceChangeSequence = source) then s
  else s.setCall call (.began source s.row)

def loadExistingFileIds (row : Option ProjectionRow) (path : Text) : Option String :=
  (row.bind ProjectionRow.projection).bind (fun p =>
    (p.card.files.reverse.find? (fun file => file.path = path)).map ChangedFileSummary.evidenceFileId)

def fileFactSourceError (evidence : List SequencedEvidence) : Option String :=
  evidence.findSome? (fun item =>
    if !payloadAffectsFileFacts item.payload then none
    else if (item.payload.pointer ["_rovaiLifecycle", "terminalConflict"]).bind Json.asBool = some true then
      some "source_terminal_conflict"
    else if (item.payload.pointer ["_rovaiContent", "complete"]).bind Json.asBool = some false then
      some "source_content_incomplete"
    else none)

def recordProjectionFailure (call source : Nat) (errorCode : String) : ProjectorState :=
  { s.setCall call .idle with
    row := s.row.map (fun row => { row with lastAttemptedSourceChangeSequence := source, lastErrorCode := some errorCode }) }

def nextRevision (existing : Option ProjectionRow) : Nat := (existing.map (fun row => row.revision + 1)).getD 1

def AggregatedProjection.stamp (p : AggregatedProjection) (source revision : Nat) : AggregatedProjection :=
  { p with card := { p.card with sourceChangeSequence := source, revision := revision, isStale := false } }

def currentProjection (s : ProjectorState) (existing : Text → Option String) (fresh : Nat → String) :
    Option AggregatedProjection :=
  aggregateEvidenceWithExistingIds run.agentRunId run.executionEpoch run.completedAt run.executionRoot
    (loadFullEvidence s.live s.log run.executionEpoch) existing fresh

def buildProjection (s : ProjectorState) (call : Nat) (fresh : Nat → String) : ProjectorState :=
  match s.calls call with
  | .began source existing =>
    match fileFactSourceError (loadFullEvidence s.live s.log run.executionEpoch) with
    | some errorCode => recordProjectionFailure s call source errorCode
    | none =>
      s.setCall call (.built source existing
        ((currentProjection run s (loadExistingFileIds s.row) fresh).map (fun p => p.stamp source (nextRevision existing))))
  | _ => s

def failProjection (call : Nat) : ProjectorState :=
  match s.calls call with
  | .began source _ => recordProjectionFailure s call source "source_unreadable"
  | _ => s

def publishProjection (s : ProjectorState) (call : Nat) : ProjectorState :=
  match s.calls call with
  | .built source existing projection =>
    if s.log.watermark run.executionEpoch ≠ source then s.setCall call .idle
    else { s.setCall call .idle with
      row := some {
        projection := projection
        completedAt := run.completedAt
        sourceChangeSequence := source
        revision := nextRevision existing
        lastAttemptedSourceChangeSequence := source
        lastErrorCode := none } }
  | _ => s

inductive ProjectorAction where
  | write (w : Write)
  | stream (id : EvidenceId) (payload : Option Json)
  | begin (call : Nat)
  | build (call : Nat) (fresh : Nat → String)
  | fail (call : Nat)
  | publish (call : Nat)

def streamText (id : EvidenceId) (payload : Option Json) : ProjectorState :=
  { s with live := fun x => if x = id then payload else s.live x }

def ProjectorState.step (store : ContentStore) (run : TerminalRun) (s : ProjectorState) : ProjectorAction → ProjectorState
  | .write w => { s with log := s.log.write store w }
  | .stream id payload => streamText s id payload
  | .begin call => beginProjection run s call
  | .build call fresh => buildProjection run s call fresh
  | .fail call => failProjection s call
  | .publish call => publishProjection run s call

def actionInOrder (store : ContentStore) (s : ProjectorState) : ProjectorAction → Bool
  | .write w => inOrder store s.log w
  | .stream id (some payload) => s.log.rows.any (fun r => r.id = id && r.isText) && !hasFileFacts payload
  | _ => true

/-! ## What the steps keep -/

def currentView (s : ProjectorState) : Option ProjectionView :=
  (currentProjection run s (fun _ => none) (fun _ => "")).map AggregatedProjection.view

/-- A projection of an earlier watermark, and of the evidence when the watermark still stands. -/
def Current (s : ProjectorState) (source : Nat) (projection : Option AggregatedProjection) : Prop :=
  source ≤ s.log.watermark run.executionEpoch ∧
    (source = s.log.watermark run.executionEpoch → projection.map AggregatedProjection.view = currentView run s)

structure ProjectorInv (run : TerminalRun) (s : ProjectorState) : Prop where
  facts : FactInv s.log
  texts : ∀ id p, s.live id = some p → hasFileFacts p = false ∧ ∃ r ∈ s.log.rows, r.id = id ∧ r.isText = true
  row : ∀ row, s.row = some row → Current run s row.sourceChangeSequence row.projection
  began : ∀ call source existing, s.calls call = .began source existing → source ≤ s.log.watermark run.executionEpoch
  built : ∀ call source existing projection, s.calls call = .built source existing projection → Current run s source projection

theorem projectorInv_initial : ProjectorInv run ProjectorState.initial where
  facts := factInv_empty
  texts := fun _ _ h => nomatch h
  row := fun _ h => nomatch h
  began := fun _ _ _ h => nomatch h
  built := fun _ _ _ _ h => nomatch h

section

variable {store : ContentStore} {run : TerminalRun} {s s' : ProjectorState}

theorem ProjectorInv.textsOf (inv : ProjectorInv run s) : TextsOf s.live s.log := by
  intro r hr p hp
  obtain ⟨hnone, x, hx, hid, htext⟩ := inv.texts r.id p hp
  rw [inv.facts.inv.eq_of_id hx hr hid] at htext
  exact ⟨htext, hnone⟩

theorem view_eq_of_facts (inv : ProjectorInv run s) (inv' : FactInv s'.log) (htexts' : TextsOf s'.live s'.log)
    (h : fileFacts s'.log run.executionEpoch = fileFacts s.log run.executionEpoch)
    (existing existing' : Text → Option String) (fresh fresh' : Nat → String) :
    (currentProjection run s existing fresh).map AggregatedProjection.view =
      (currentProjection run s' existing' fresh').map AggregatedProjection.view :=
  view_loadFullEvidence inv.facts inv' inv.textsOf htexts' h.symm

theorem view_current (inv : ProjectorInv run s) (existing : Text → Option String) (fresh : Nat → String) :
    (currentProjection run s existing fresh).map AggregatedProjection.view = currentView run s :=
  view_eq_of_facts inv inv.facts inv.textsOf rfl existing _ fresh _

theorem Current.kept (inv : ProjectorInv run s) (inv' : FactInv s'.log) (htexts' : TextsOf s'.live s'.log)
    (hkept : Kept run.executionEpoch s.log s'.log) {source : Nat} {projection : Option AggregatedProjection}
    (h : Current run s source projection) : Current run s' source projection := by
  obtain ⟨hle, hview⟩ := h
  obtain ⟨hmono, hfacts⟩ := hkept
  refine ⟨Nat.le_trans hle hmono, fun heq => ?_⟩
  rw [hview (by omega)]
  exact view_eq_of_facts inv inv' htexts' (hfacts (by omega)) _ _ _ _

theorem ProjectorInv.kept (inv : ProjectorInv run s) (inv' : FactInv s'.log) (hkept : Kept run.executionEpoch s.log s'.log)
    (htexts : ∀ id p, s'.live id = some p → hasFileFacts p = false ∧ ∃ r ∈ s'.log.rows, r.id = id ∧ r.isText = true)
    (hrow : s'.row = s.row) (hcalls : s'.calls = s.calls) : ProjectorInv run s' := by
  have htexts' : TextsOf s'.live s'.log := by
    intro r hr p hp
    obtain ⟨hnone, x, hx, hid, htext⟩ := htexts r.id p hp
    rw [inv'.inv.eq_of_id hx hr hid] at htext
    exact ⟨htext, hnone⟩
  refine ⟨inv', htexts, fun row h => ?_, fun call source existing h => ?_, fun call source existing projection h => ?_⟩
  · rw [hrow] at h
    exact (inv.row row h).kept inv inv' htexts' hkept
  · rw [hcalls] at h
    exact Nat.le_trans (inv.began call source existing h) hkept.1
  · rw [hcalls] at h
    exact (inv.built call source existing projection h).kept inv inv' htexts' hkept

theorem text_write (inv : LogInv s.log) (w : Write) {id : EvidenceId} (h : ∃ r ∈ s.log.rows, r.id = id ∧ r.isText = true) :
    ∃ r ∈ (s.log.write store w).rows, r.id = id ∧ r.isText = true := by
  refine (write_induction (P := fun l => ∃ r ∈ l.rows, r.id = id ∧ r.isText = true) w ?_ store inv h).2
  rintro l l' hl hw ⟨x, hx, hid, htext⟩
  have hrewrite : ∀ r r' : EvidenceRow, r ∈ l.rows → r'.id = r.id → (r = x → r'.isText = true) →
      ∃ y ∈ updateRow l r.id (fun _ => r'), y.id = id ∧ y.isText = true := by
    intro r r' hr hid' htext'
    by_cases hxr : x = r
    · exact ⟨r', (hl.mem_rewrite hr).2 (.inl rfl), by rw [hid', ← hxr, hid], htext' hxr.symm⟩
    · exact ⟨x, (hl.mem_rewrite hr).2 (.inr ⟨hx, hxr⟩), hid, htext⟩
  cases hw with
  | insert => exact ⟨x, List.mem_append_left _ hx, hid, htext⟩
  | insertOperation =>
    exact ⟨x, List.mem_append_left _ hx, hid, htext⟩
  | rewrite r r' watermark mem sameId sameEpoch sameSequence changed place =>
    refine hrewrite r r' mem sameId (fun hrx => ?_)
    subst hrx
    rcases place with ⟨⟨-, htype, -⟩, -⟩ | ⟨-, o, -, ho, -⟩
    · rw [EvidenceRow.isText, htype]
      exact htext
    · rw [operation_of_text hl mem htext] at ho
      cases ho
  | digest r o d mem =>
    refine hrewrite r _ mem rfl (fun hrx => ?_)
    subst hrx
    exact htext

theorem ProjectorInv.setCall (inv : ProjectorInv run s) (call : Nat) {c : ProjectionCall}
    (hbegan : ∀ source existing, c = .began source existing → source ≤ s.log.watermark run.executionEpoch)
    (hbuilt : ∀ source existing projection, c = .built source existing projection → Current run s source projection) :
    ProjectorInv run (s.setCall call c) := by
  refine ⟨inv.facts, inv.texts, inv.row, fun n source existing h => ?_, fun n source existing projection h => ?_⟩
  · simp only [ProjectorState.setCall] at h
    split at h
    · exact hbegan source existing h
    · exact inv.began n source existing h
  · simp only [ProjectorState.setCall] at h
    split at h
    · exact hbuilt source existing projection h
    · exact inv.built n source existing projection h

theorem ProjectorInv.setRow (inv : ProjectorInv run s) {row : Option ProjectionRow}
    (hrow : ∀ r, row = some r → Current run s r.sourceChangeSequence r.projection) :
    ProjectorInv run { s with row := row } :=
  ⟨inv.facts, inv.texts, hrow, inv.began, inv.built⟩

theorem ProjectorInv.idle (inv : ProjectorInv run s) (call : Nat) : ProjectorInv run (s.setCall call .idle) :=
  inv.setCall call (fun _ _ h => nomatch h) (fun _ _ _ h => nomatch h)

theorem projectorInv_recordFailure (inv : ProjectorInv run s) (call source : Nat) (errorCode : String) :
    ProjectorInv run (recordProjectionFailure s call source errorCode) := by
  refine (inv.idle call).setRow (fun r hr => ?_)
  obtain ⟨row, hrow, rfl⟩ := Option.map_eq_some_iff.1 hr
  exact inv.row row hrow

theorem projectorInv_begin (inv : ProjectorInv run s) (call : Nat) : ProjectorInv run (beginProjection run s call) := by
  simp only [beginProjection]
  split
  · exact inv
  refine inv.setCall call (fun source existing h => ?_) (fun _ _ _ h => nomatch h)
  rw [ProjectionCall.began.injEq] at h
  exact Nat.le_of_eq h.1.symm

theorem projectorInv_build (inv : ProjectorInv run s) (call : Nat) (fresh : Nat → String) :
    ProjectorInv run (buildProjection run s call fresh) := by
  unfold buildProjection
  split
  · rename_i source existing hcall
    split
    · exact projectorInv_recordFailure inv call source _
    refine inv.setCall call (fun _ _ h => nomatch h) (fun source' existing' projection h => ?_)
    rw [ProjectionCall.built.injEq] at h
    obtain ⟨rfl, -, rfl⟩ := h
    refine ⟨inv.began call source existing hcall, fun _ => ?_⟩
    rw [Option.map_map, ← view_current inv (loadExistingFileIds s.row) fresh]
    rfl
  · exact inv

theorem projectorInv_fail (inv : ProjectorInv run s) (call : Nat) : ProjectorInv run (failProjection s call) := by
  unfold failProjection
  split
  · exact projectorInv_recordFailure inv call _ _
  · exact inv

theorem projectorInv_publish (inv : ProjectorInv run s) (call : Nat) : ProjectorInv run (publishProjection run s call) := by
  unfold publishProjection
  split
  · rename_i source existing projection hcall
    split
    · exact inv.idle call
    refine (inv.idle call).setRow (fun r hr => ?_)
    rw [Option.some.injEq] at hr
    subst hr
    exact inv.built call source existing projection hcall
  · exact inv

/-- **A step in order keeps the invariant, and keeps the facts of the epoch or moves its watermark.** -/
theorem projectorInv_step (inv : ProjectorInv run s) (a : ProjectorAction) (horder : actionInOrder store s a = true) :
    ProjectorInv run (s.step store run a) ∧ Kept run.executionEpoch s.log (s.step store run a).log := by
  have hsame : ∀ s' : ProjectorState, s'.log = s.log → Kept run.executionEpoch s.log s'.log := fun s' h => h ▸ Kept.refl _ _
  cases a with
  | write w =>
    obtain ⟨inv', hkept⟩ := kept_write inv.facts w horder
    refine ⟨inv.kept inv' (hkept _) (fun id p hp => ?_) rfl rfl, hkept _⟩
    obtain ⟨hnone, hrow⟩ := inv.texts id p hp
    exact ⟨hnone, text_write inv.facts.inv w hrow⟩
  | stream id payload =>
    refine ⟨inv.kept inv.facts (Kept.refl _ _) (fun x p hp => ?_) rfl rfl, Kept.refl _ _⟩
    simp only [ProjectorState.step, streamText] at hp ⊢
    split at hp
    · rename_i hx
      subst hx hp
      simp only [actionInOrder, Bool.and_eq_true, List.any_eq_true, decide_eq_true_eq, Bool.not_eq_true'] at horder
      exact ⟨horder.2, horder.1⟩
    · exact inv.texts x p hp
  | begin call =>
    refine ⟨projectorInv_begin inv call, hsame _ ?_⟩
    simp only [ProjectorState.step, beginProjection]
    split <;> rfl
  | build call fresh =>
    refine ⟨projectorInv_build inv call fresh, hsame _ ?_⟩
    simp only [ProjectorState.step, buildProjection]
    repeat' split
    all_goals rfl
  | fail call =>
    refine ⟨projectorInv_fail inv call, hsame _ ?_⟩
    simp only [ProjectorState.step, failProjection]
    split <;> rfl
  | publish call =>
    refine ⟨projectorInv_publish inv call, hsame _ ?_⟩
    simp only [ProjectorState.step, publishProjection]
    repeat' split
    all_goals rfl

end

/-! ## Runs -/

/-- **Equal watermarks of two states of a run mean equal projections, and the row of the current watermark shows the
current evidence.** -/
theorem watermark_determines_projection (store : ContentStore) (run : TerminalRun) (as bs : List ProjectorAction)
    (horder : Runs.AllSteps (ProjectorState.step store run) (fun s a => actionInOrder store s a = true)
      ProjectorState.initial (as ++ bs)) (existing existing' : Text → Option String) (fresh fresh' : Nat → String) :
    ((as.foldl (ProjectorState.step store run) ProjectorState.initial).log.watermark run.executionEpoch =
        ((as ++ bs).foldl (ProjectorState.step store run) ProjectorState.initial).log.watermark run.executionEpoch →
      (currentProjection run (as.foldl (ProjectorState.step store run) ProjectorState.initial) existing fresh).map
          AggregatedProjection.view =
        (currentProjection run ((as ++ bs).foldl (ProjectorState.step store run) ProjectorState.initial) existing'
          fresh').map AggregatedProjection.view) ∧
    (∀ row, ((as ++ bs).foldl (ProjectorState.step store run) ProjectorState.initial).row = some row →
      row.sourceChangeSequence =
        ((as ++ bs).foldl (ProjectorState.step store run) ProjectorState.initial).log.watermark run.executionEpoch →
      row.projection.map AggregatedProjection.view =
        (currentProjection run ((as ++ bs).foldl (ProjectorState.step store run) ProjectorState.initial) existing
          fresh).map AggregatedProjection.view) := by
  obtain ⟨has, hbs⟩ := (Runs.allSteps_append _ as bs _).1 horder
  rw [List.foldl_append]
  have inv : ProjectorInv run (as.foldl (ProjectorState.step store run) ProjectorState.initial) :=
    Runs.run_invariant_of_allSteps (P := ProjectorInv run) _ (fun s a ha inv => (projectorInv_step inv a ha).1) as _ has
      (projectorInv_initial run)
  generalize as.foldl (ProjectorState.step store run) ProjectorState.initial = s at *
  obtain ⟨inv', hkept⟩ : ProjectorInv run (bs.foldl (ProjectorState.step store run) s) ∧
      Kept run.executionEpoch s.log (bs.foldl (ProjectorState.step store run) s).log := by
    refine Runs.run_invariant_of_allSteps (P := fun t => ProjectorInv run t ∧ Kept run.executionEpoch s.log t.log) _
      (fun t a ha ht => ?_) bs s hbs ⟨inv, Kept.refl _ _⟩
    obtain ⟨inv', hkept⟩ := projectorInv_step ht.1 a ha
    exact ⟨inv', ht.2.trans hkept⟩
  generalize bs.foldl (ProjectorState.step store run) s = s' at *
  refine ⟨fun heq => ?_, fun row hrow hsource => ?_⟩
  · exact view_eq_of_facts inv inv'.facts inv'.textsOf (hkept.2 heq.symm) existing existing' fresh fresh'
  · rw [(inv'.row row hrow).2 hsource, view_current inv']

/-! ## Runs of two edits -/

def editEvent (toolCallId before after : String) : RuntimeEvent where
  eventType := "runtime.action"
  kind := "file_change"
  phase := "completed"
  payload := .obj [("runtimeDiff", .obj [("entries", .arr [.obj [("after", .str after), ("before", .str before),
    ("path", .str "x")]]), ("semanticKind", .str "full_before_after"), ("status", .str "available")]),
    ("toolCallId", .str toolCallId)]
  preview := .obj []
  sourceEventKey := none
  outputUpdate := none
  outputTruncated := none

def titleEvent (toolCallId title : String) : RuntimeEvent where
  eventType := "runtime.action"
  kind := "file_change"
  phase := "updated"
  payload := .obj [("title", .str title), ("toolCallId", .str toolCallId)]
  preview := .obj []
  sourceEventKey := none
  outputUpdate := none
  outputTruncated := none

def inlineStore : ContentStore := { encodedLength := fun _ => 0, lossyPreview := fun v => v }

def editedRun : TerminalRun where
  agentRunId := "run"
  executionEpoch := 1
  completedAt := ""
  executionRoot := repository

def twoEdits : List ProjectorAction :=
  [.write (.event 1 "e0" 0 (editEvent "a" "A" "B")), .write (.event 1 "e1" 1 (editEvent "b" "B" "C")), .begin 0,
    .build 0 countedId, .publish 0]

def lastTitled : List ProjectorAction := [.write (.event 1 "e2" 2 (titleEvent "b" "edit"))]

def firstTitled : List ProjectorAction := [.write (.event 1 "e2" 2 (titleEvent "a" "edit"))]

def afterActions (actions : List ProjectorAction) : ProjectorState :=
  actions.foldl (ProjectorState.step inlineStore editedRun) ProjectorState.initial

theorem watermark_determines_projection_two_edits :
    (currentProjection editedRun (afterActions twoEdits) (fun _ => none) countedId).map AggregatedProjection.view =
      (currentProjection editedRun (afterActions (twoEdits ++ lastTitled)) (fun _ => none) countedId).map
        AggregatedProjection.view :=
  (watermark_determines_projection inlineStore editedRun twoEdits lastTitled
    ⟨by decide, by decide, rfl, rfl, rfl, by decide +kernel, trivial⟩ (fun _ => none) (fun _ => none) countedId
      countedId).1 (by decide +kernel)

/-- The title moves the first edit behind the second: the watermark stands, the two edits no longer join, and the
published row claims the evidence it does not show. -/
theorem watermark_misses_move :
    (afterActions twoEdits).log.watermark 1 = (afterActions (twoEdits ++ firstTitled)).log.watermark 1 ∧
      (currentProjection editedRun (afterActions twoEdits) (fun _ => none) countedId).map AggregatedProjection.view ≠
        (currentProjection editedRun (afterActions (twoEdits ++ firstTitled)) (fun _ => none) countedId).map
          AggregatedProjection.view ∧
      ((afterActions (twoEdits ++ firstTitled)).row.any (fun row =>
        row.sourceChangeSequence = (afterActions (twoEdits ++ firstTitled)).log.watermark 1 &&
          row.projection.map AggregatedProjection.view ≠
            (currentProjection editedRun (afterActions (twoEdits ++ firstTitled)) (fun _ => none) countedId).map
              AggregatedProjection.view)) = true := by
  decide +kernel

end Rovai
