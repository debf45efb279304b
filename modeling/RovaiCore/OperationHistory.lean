import RovaiCore.EvidenceWriter
import RovaiCore.OperationReplay
/-!
# The history of one operation

The row of an operation across every write of its run.
-/
namespace Rovai

open List

/-! ## Which writes are the operation's -/

def recordsOperation (log : RunLog) (epoch : Nat) (id : EvidenceId) (e : RuntimeEvent) : Bool :=
  evidenceEventTypes.contains e.eventType && isActivity e
  && !((operationIdentity e.payload).isNone && sourceKeyTaken log e.sourceEventKey)
  && match lifecycleRow log epoch (operationOf id e) with
    | some r => match r.operation with
      | some o => semanticallyUnchanged r o e (nextLifecycle (some (r, o)) e) || !sourceKeyClash log r e.sourceEventKey
      | none => false
    | none => !legacyStarted log epoch (operationOf id e) && !(idTaken log id || sourceKeyTaken log e.sourceEventKey)

def recordedFor (log : RunLog) (epoch : Nat) (operationId : String) : Write → Option RuntimeEvent
  | .event epoch' id _ e =>
    if epoch' = epoch ∧ operationOf id e = operationId ∧ recordsOperation log epoch' id e = true then some e else none
  | _ => none

/-! ## Where the operation's row is -/

section

variable {log log' : RunLog} {epoch : Nat} {op : String} {r r' : EvidenceRow} {store : ContentStore}

variable {activities : List ActivityRow} {watermark : Nat → Nat} {counter : Nat}

theorem lifecycleRow_append (hr : isLifecycleRow epoch op r = false)
    :
    lifecycleRow ⟨counter, log.rows ++ [r], activities, watermark⟩ epoch op = lifecycleRow log epoch op := by
  simp [lifecycleRow, find?_append, hr]

theorem lifecycleRow_append_new (hnone : lifecycleRow log epoch op = none) (hr : isLifecycleRow epoch op r = true)
    :
    lifecycleRow ⟨counter, log.rows ++ [r], activities, watermark⟩ epoch op = some r := by
  unfold lifecycleRow at hnone ⊢
  rw [find?_append, hnone]
  simp [hr]

theorem lifecycleRow_rewrite_other (inv : LogInv log) (hr : r ∈ log.rows) (hold : isLifecycleRow epoch op r = false)
    (hnew : isLifecycleRow epoch op r' = false) :
    lifecycleRow ⟨counter, updateRow log r.id (fun _ => r'), activities, watermark⟩ epoch op = lifecycleRow log epoch op := by
  unfold lifecycleRow updateRow
  rw [find?_map]
  have hcongr : ∀ rows : List EvidenceRow, (∀ y ∈ rows, y ∈ log.rows) →
      (rows.find? (isLifecycleRow epoch op ∘ fun y => if y.id = r.id then r' else y)).map
        (fun y => if y.id = r.id then r' else y) = rows.find? (isLifecycleRow epoch op) := by
    intro rows
    induction rows with
    | nil => exact fun _ => rfl
    | cons y rows ih =>
      intro hmem
      have ih := ih (fun z hz => hmem z (mem_cons_of_mem y hz))
      by_cases hy : y.id = r.id
      · obtain rfl := inv.eq_of_id (hmem y (mem_cons_self ..)) hr hy
        rw [find?_cons_of_neg (by simp [hnew]), find?_cons_of_neg (by simp [hold]), ih]
      · cases hl : isLifecycleRow epoch op y with
        | true => rw [find?_cons_of_pos (by simp [hy, hl]), find?_cons_of_pos hl, Option.map_some, if_neg hy]
        | false => rw [find?_cons_of_neg (by simp [hy, hl]), find?_cons_of_neg (by simp [hl]), ih]
  exact hcongr log.rows (fun _ h => h)

theorem lifecycleRow_rewrite (inv : LogInv log) (hr : lifecycleRow log epoch op = some r)
    (hnew : isLifecycleRow epoch op r' = true) :
    lifecycleRow ⟨counter, updateRow log r.id (fun _ => r'), activities, watermark⟩ epoch op = some r' := by
  obtain ⟨hmem, he, o, ho, hop⟩ := lifecycleRow_some hr
  have hmem' : r' ∈ updateRow log r.id (fun _ => r') := (inv.mem_rewrite hmem).2 (.inl rfl)
  unfold lifecycleRow
  cases hf : (updateRow log r.id (fun _ => r')).find? (isLifecycleRow epoch op) with
  | none => exact absurd hnew (find?_eq_none.1 hf r' hmem')
  | some x =>
    rcases (inv.mem_rewrite hmem).1 (mem_of_find?_eq_some hf) with rfl | ⟨hx, hne⟩
    · rfl
    obtain ⟨hxe, ox, hox, hxop⟩ := isLifecycleRow_iff.1 (find?_some hf)
    exact absurd (inv.eq_of_lifecycle hx hmem hox ho ⟨hxe.trans he.symm, hxop.trans hop.symm⟩) hne

end

/-! ## What a write does to the operation's row -/

section

variable {store : ContentStore} {log log' : RunLog} {epoch epoch' : Nat} {op : String} {id : EvidenceId} {now : Timestamp}
variable {e : RuntimeEvent} {r : EvidenceRow} {o : Operation}

theorem lifecycleRow_insertPlain (h : insertPlain log epoch' id now e = some log') :
    lifecycleRow log' epoch op = lifecycleRow log epoch op := by
  unfold insertPlain at h
  split at h
  · cases h
  split at h
  · cases h
  rw [Option.some.injEq] at h
  subst h
  exact lifecycleRow_append (isLifecycleRow_plain rfl)

theorem lifecycleRow_recordBatch (events : List (EvidenceId × Timestamp × RuntimeEvent)) :
    lifecycleRow (recordBatch log epoch' events) epoch op = lifecycleRow log epoch op :=
  recordBatch_induction (P := fun l => lifecycleRow l epoch op = lifecycleRow log epoch op)
    (fun _ _ _ _ _ _ hins hl => (lifecycleRow_insertPlain hins).trans hl) rfl events

theorem not_lifecycle_of_type (inv : LogInv log) (hr : r ∈ log.rows) (htype : evidenceEventTypes.contains r.eventType = false) :
    r.operation = none := by
  cases ho : r.operation with
  | none => rfl
  | some o =>
    have := inv.recorded r hr o ho
    rw [htype] at this
    cases this

theorem lifecycleRow_updateTextBlock (inv : LogInv log) {phase : String} {payload preview : Json} {revision : Nat}
    (h : updateTextBlock log id phase payload preview revision = some log') :
    lifecycleRow log' epoch op = lifecycleRow log epoch op := by
  unfold updateTextBlock at h
  split at h
  · rename_i hrow
    obtain ⟨r, hr, hid, htype⟩ : ∃ r ∈ log.rows, r.id = id ∧ r.eventType = "agent.text.block" := by simpa using hrow
    rw [Option.some.injEq] at h
    subst h hid
    have hplain : r.operation = none := not_lifecycle_of_type inv hr (by rw [htype]; decide)
    rw [inv.updateRow_eq hr]
    refine lifecycleRow_rewrite_other inv hr (isLifecycleRow_plain hplain) ?_
    exact isLifecycleRow_plain hplain
  · cases h

theorem lifecycleRow_inputChanged (inv : LogInv log) (key : EvidenceId) :
    lifecycleRow (inputChanged log key) epoch op = lifecycleRow log epoch op := by
  unfold inputChanged
  split
  · rename_i hrow
    obtain ⟨r, hr, hid, htype⟩ : ∃ r ∈ log.rows, r.id = key ∧ r.eventType = "agent_run.input" := by simpa using hrow
    subst hid
    have hplain : r.operation = none := not_lifecycle_of_type inv hr (by rw [htype]; decide)
    rw [inv.updateRow_eq hr]
    refine lifecycleRow_rewrite_other inv hr (isLifecycleRow_plain hplain) ?_
    exact isLifecycleRow_plain hplain
  · rfl

theorem lifecycleRow_updateOperation_other (inv : LogInv log) (hr : r ∈ log.rows) (ho : r.operation = some o)
    (hother : isLifecycleRow epoch op r = false) :
    lifecycleRow (updateOperation store log r o e) epoch op = lifecycleRow log epoch op := by
  have hnot : ∀ r' : EvidenceRow, r'.executionEpoch = r.executionEpoch → (∀ o', r'.operation = some o' →
      o'.operationId = o.operationId) → isLifecycleRow epoch op r' = false := by
    intro r' hepoch hop
    rw [← Bool.not_eq_true, isLifecycleRow_iff]
    rintro ⟨he, o', ho', hid⟩
    rw [← Bool.not_eq_true, isLifecycleRow_iff] at hother
    exact hother ⟨hepoch ▸ he, o, ho, (hop o' ho').symm.trans hid⟩
  unfold updateOperation
  simp only
  split
  · rw [inv.updateRow_eq hr]
    refine lifecycleRow_rewrite_other inv hr hother ?_
    refine hnot _ rfl (fun o' ho' => ?_)
    rw [Option.some.injEq] at ho'
    rw [← ho']
  · split
    · rfl
    refine lifecycleRow_rewrite_other inv hr hother ?_
    refine hnot _ rfl (fun o' ho' => ?_)
    rw [updatedRow, Option.some.injEq] at ho'
    rw [← ho']
    rfl

theorem write_recorded (store : ContentStore) {w : Write} (h : recordedFor log epoch op w = some e) :
    (∃ r o, lifecycleRow log epoch op = some r ∧ r.operation = some o ∧
      log.write store w = updateOperation store log r o e ∧
      (semanticallyUnchanged r o e (nextLifecycle (some (r, o)) e) = true ∨ sourceKeyClash log r e.sourceEventKey = false)) ∨
    (lifecycleRow log epoch op = none ∧ ∃ id now, log.write store w = insertOperation store log epoch id now op e ∧
      idTaken log id = false ∧ sourceKeyTaken log e.sourceEventKey = false) := by
  cases w with
  | event epoch' id now e' =>
    simp only [recordedFor] at h
    split at h
    · rename_i hrec
      obtain ⟨rfl, rfl, hrec⟩ := hrec
      rw [Option.some.injEq] at h
      subst h
      simp only [recordsOperation, Bool.and_eq_true, Bool.not_eq_true', Bool.and_eq_false_imp] at hrec
      obtain ⟨⟨⟨hclassified, hactivity⟩, hkey⟩, hrow⟩ := hrec
      have hkey' : ¬ ((operationIdentity e'.payload).isNone && sourceKeyTaken log e'.sourceEventKey) = true := by
        rw [Bool.and_eq_true, not_and, Bool.not_eq_true]
        exact hkey
      rw [RunLog.write, recordRuntimeEvent, if_pos hclassified, recordOperationLifecycle, hactivity, if_neg (by simp),
        if_neg hkey']
      cases hl : lifecycleRow log epoch' (operationOf id e') with
      | some r =>
        obtain ⟨-, -, o, ho, -⟩ := lifecycleRow_some hl
        simp only [hl, ho, Bool.or_eq_true, Bool.not_eq_true'] at hrow
        refine .inl ⟨r, o, rfl, ho, ?_, hrow⟩
        simp only [ho, Option.getD_some]
      | none =>
        simp only [hl, Bool.and_eq_true, Bool.not_eq_true', Bool.or_eq_false_iff] at hrow
        refine .inr ⟨rfl, id, now, ?_, hrow.2⟩
        simp [hrow.1]
    · cases h
  | _ => cases h

/-- **A write that records nothing for the operation leaves its row as it is.** -/
theorem lifecycleRow_frame (inv : LogInv log) {w : Write} (h : recordedFor log epoch op w = none) :
    lifecycleRow (log.write store w) epoch op = lifecycleRow log epoch op := by
  cases w with
  | event epoch' id now e =>
    rw [RunLog.write]
    cases recordRuntimeEvent_eventWrite store log epoch' id now e with
    | nothing after => rw [after]
    | plain recorded after => exact lifecycleRow_insertPlain after
    | update r o recorded activity key row own after =>
      obtain ⟨hr, hepoch, o', ho, hop⟩ := lifecycleRow_some row
      obtain rfl := Option.mem_unique own ho
      rw [after]
      by_cases hthis : epoch' = epoch ∧ operationOf id e = op
      · obtain ⟨rfl, rfl⟩ := hthis
        have hnot : ¬ recordsOperation log epoch' id e = true := fun hrec => by simp [recordedFor, hrec] at h
        simp only [recordsOperation, recorded, activity, key, row, own, Bool.not_false, Bool.true_and, Bool.or_eq_true, not_or,
          Bool.not_eq_true, Bool.not_eq_true', Bool.not_eq_false] at hnot
        rw [updateOperation]
        simp [hnot.1, hnot.2]
      · refine lifecycleRow_updateOperation_other inv hr own ?_
        rw [← Bool.not_eq_true, isLifecycleRow_iff]
        rintro ⟨he, o', ho', hid⟩
        obtain rfl := Option.mem_unique own ho'
        exact hthis ⟨hepoch.symm.trans he, hop.symm.trans hid⟩
    | insert recorded activity key row started after =>
      rw [after, insertOperation]
      split
      · rfl
      rename_i hfree
      refine lifecycleRow_append ?_
      rw [← Bool.not_eq_true, isLifecycleRow_iff]
      rintro ⟨he, o', ho', hid⟩
      rw [insertedRow, Option.some.injEq] at ho'
      subst ho'
      have hthis : epoch' = epoch ∧ operationOf id e = op := ⟨he, hid⟩
      obtain ⟨rfl, rfl⟩ := hthis
      have hrec : recordsOperation log epoch' id e = true := by
        simp only [recordsOperation, recorded, activity, key, row, started, hfree, Bool.not_false, Bool.true_and]
      simp [recordedFor, hrec] at h
  | batch epoch' events => exact lifecycleRow_recordBatch events
  | textStart epoch' id now key payload =>
    rw [RunLog.write]
    cases hl : insertTextBlock log epoch' id now key payload with
    | none => rfl
    | some l =>
      unfold insertTextBlock at hl
      split at hl
      · cases hl
      rw [Option.some.injEq] at hl
      subst hl
      exact lifecycleRow_append (isLifecycleRow_plain rfl)
  | textFinish id phase payload preview revision =>
    rw [RunLog.write]
    cases hl : updateTextBlock log id phase payload preview revision with
    | none => rfl
    | some l => exact lifecycleRow_updateTextBlock inv hl
  | inputRecord =>
    rw [RunLog.write, recordInput]
    split
    · rfl
    · exact lifecycleRow_append (isLifecycleRow_plain rfl)
  | inputChanged key => exact lifecycleRow_inputChanged inv key

end

/-! ## The row after a recorded event -/

def loadLifecycleEvidence (log : RunLog) (epoch : Nat) (operationId : String) : Option (EvidenceRow × Operation) :=
  (lifecycleRow log epoch operationId).bind (fun r => r.operation.map (fun o => (r, o)))

def Fits (store : ContentStore) (existing : Option (EvidenceRow × Operation)) (e : RuntimeEvent) : Prop :=
  (existing.map (fun x => x.2.input.value) = some (nextInput existing e) ∨
    store.encodedLength (nextInput existing e) ≤ maxBlobBytes) ∧
  (incomingIsStart e = true ∨ resultValue existing = some (nextResult existing e).1 ∨
    store.encodedLength (nextResult existing e).1 ≤ maxBlobBytes)

/-- The row keeps its identity and a settled phase, and a change of its content shows: the revision is the next one and
the change sequence is later than any of the run. -/
structure Advances (log : RunLog) (r r' : EvidenceRow) (o o' : Operation) : Prop where
  id : r'.id = r.id
  sequence : r'.sequence = r.sequence
  occurredAt : r'.occurredAt = r.occurredAt
  phase : terminalPhase r.phase = true → r'.phase = r.phase
  shows : { currentLifecycle r' o' with resultDigest := none } ≠ { currentLifecycle r o with resultDigest := none } →
    r'.revision = r.revision + 1 ∧ ∃ c, r'.changeSequence = some c ∧ log.changeCounter < c ∧
      ∀ x ∈ log.rows, ∀ d, x.changeSequence = some d → d < c

section

variable {store : ContentStore} {log : RunLog} {epoch : Nat} {op : String} {e : RuntimeEvent} {r : EvidenceRow}
variable {o : Operation} {w : Write}

theorem loadLifecycleEvidence_eq_some : loadLifecycleEvidence log epoch op = some (r, o) ↔
    lifecycleRow log epoch op = some r ∧ r.operation = some o := by
  unfold loadLifecycleEvidence
  constructor
  · intro h
    obtain ⟨x, hx, h⟩ := Option.bind_eq_some_iff.1 h
    obtain ⟨y, hy, h⟩ := Option.map_eq_some_iff.1 h
    rw [Prod.mk.injEq] at h
    obtain ⟨rfl, rfl⟩ := h
    exact ⟨hx, hy⟩
  · rintro ⟨hr, ho⟩
    rw [hr, Option.bind_some, ho]
    rfl

theorem loadLifecycleEvidence_of_row (h : lifecycleRow log epoch op = some r) (ho : r.operation = some o) :
    loadLifecycleEvidence log epoch op = some (r, o) := loadLifecycleEvidence_eq_some.2 ⟨h, ho⟩

theorem loadLifecycleEvidence_of_none (h : lifecycleRow log epoch op = none) :
    loadLifecycleEvidence log epoch op = none := by
  rw [loadLifecycleEvidence, h]
  rfl

theorem nextPart_value {current : Option ContentPart} {value : Json}
    (h : current.map (·.value) = some value ∨ store.encodedLength value ≤ maxBlobBytes) :
    (nextPart store current value).value = value := by
  have hprepared : store.encodedLength value ≤ maxBlobBytes → (prepareLifecyclePart store value).value = value := by
    intro hfit
    unfold prepareLifecyclePart
    split
    · rfl
    · rfl
  cases current with
  | none => exact hprepared (h.resolve_left (by simp))
  | some part =>
    simp only [nextPart]
    split
    · assumption
    rename_i hne
    exact hprepared (h.resolve_left (by simpa using hne))

theorem currentLifecycle_written {existing : Option (EvidenceRow × Operation)} (h : Fits store existing e) {x : EvidenceRow}
    (hphase : x.phase = (nextLifecycle existing e).phase) (htype : x.eventType = (nextLifecycle existing e).eventType)
    (hkind : x.kind = (nextLifecycle existing e).kind) :
    currentLifecycle x (writtenOperation store existing op (nextLifecycle existing e)) = nextLifecycle existing e := by
  refine Lifecycle.ext (nextPart_value ?_) ?_ rfl rfl hphase htype hkind
  · rw [Option.map_map]
    exact h.1
  · simp only [currentLifecycle, writtenOperation, Option.map_map]
    cases hres : (nextLifecycle existing e).result with
    | none => rfl
    | some v =>
      refine congrArg some (nextPart_value ?_)
      cases hstart : incomingIsStart e with
      | true =>
        -- a start leaves the result part where it is
        left
        rw [← hres]
        simp [nextLifecycle, hstart]
      | false =>
        have hv : v = (nextResult existing e).1 := by
          simpa [nextLifecycle, hstart] using hres.symm
        rw [hv]
        exact h.2.resolve_left (by rw [hstart]; simp)

theorem semanticallyUnchanged_eq {next : Lifecycle} (h : semanticallyUnchanged r o e next = true) :
    currentLifecycle r { o with resultDigest := next.resultDigest } = next := by
  simp only [semanticallyUnchanged, Bool.and_eq_true, decide_eq_true_eq] at h
  obtain ⟨⟨⟨⟨⟨⟨hinput, hresult⟩, hphase⟩, htype⟩, hkind⟩, htruncated⟩, -⟩ := h
  exact Lifecycle.ext hinput hresult htruncated rfl hphase htype hkind

theorem lifecycleRow_unchanged (inv : LogInv log) (hl : lifecycleRow log epoch op = some r) (ho : r.operation = some o)
    (h : semanticallyUnchanged r o e (nextLifecycle (some (r, o)) e) = true) :
    lifecycleRow (updateOperation store log r o e) epoch op = some { r with
      operation := some { o with resultDigest := (nextLifecycle (some (r, o)) e).resultDigest } } := by
  obtain ⟨hr, hepoch, o', ho', hop⟩ := lifecycleRow_some hl
  rw [ho, Option.some.injEq] at ho'
  subst ho'
  rw [updateOperation]
  simp only [h, if_true]
  rw [inv.updateRow_eq hr]
  refine lifecycleRow_rewrite inv hl ?_
  exact isLifecycleRow_iff.2 ⟨hepoch, _, rfl, hop⟩

theorem lifecycleRow_updated (inv : LogInv log) (hl : lifecycleRow log epoch op = some r) (ho : r.operation = some o)
    (h : semanticallyUnchanged r o e (nextLifecycle (some (r, o)) e) = false)
    (hkey : sourceKeyClash log r e.sourceEventKey = false) :
    lifecycleRow (updateOperation store log r o e) epoch op =
      some (updatedRow store log r o e (nextLifecycle (some (r, o)) e)) := by
  obtain ⟨hr, hepoch, o', ho', hop⟩ := lifecycleRow_some hl
  rw [ho, Option.some.injEq] at ho'
  subst ho'
  rw [updateOperation]
  simp only [h, hkey, Bool.false_eq_true, if_false]
  refine lifecycleRow_rewrite inv hl ?_
  exact isLifecycleRow_iff.2 ⟨hepoch, _, rfl, hop⟩

theorem lifecycleRow_inserted {id : EvidenceId} {now : Timestamp} (hl : lifecycleRow log epoch op = none)
    (hid : idTaken log id = false) (hkey : sourceKeyTaken log e.sourceEventKey = false) :
    lifecycleRow (insertOperation store log epoch id now op e) epoch op =
      some (insertedRow store log epoch id now op e (nextLifecycle none e)) := by
  rw [insertOperation]
  simp only [hid, hkey, Bool.or_self, Bool.false_eq_true, if_false]
  exact lifecycleRow_append_new hl (isLifecycleRow_iff.2 ⟨rfl, _, rfl, rfl⟩)

/-- **A recorded event leaves the content computed from it.** -/
theorem recorded_justRecorded (inv : LogInv log) (h : recordedFor log epoch op w = some e)
    (hfits : Fits store (loadLifecycleEvidence log epoch op) e) :
    ∃ r o, loadLifecycleEvidence (log.write store w) epoch op = some (r, o) ∧
      JustRecorded (loadLifecycleEvidence log epoch op) e r o := by
  rcases write_recorded store h with ⟨r, o, hl, ho, hwrite, hcond⟩ | ⟨hl, id, now, hwrite, hid, hkey⟩
  · rw [loadLifecycleEvidence_of_row hl ho] at hfits ⊢
    rw [hwrite]
    cases hsame : semanticallyUnchanged r o e (nextLifecycle (some (r, o)) e) with
    | true =>
      refine ⟨_, _, loadLifecycleEvidence_of_row (lifecycleRow_unchanged inv hl ho hsame) rfl, ⟨?_⟩⟩
      exact semanticallyUnchanged_eq hsame
    | false =>
      have hkey : sourceKeyClash log r e.sourceEventKey = false := hcond.resolve_left (by rw [hsame]; simp)
      refine ⟨_, _, loadLifecycleEvidence_of_row (lifecycleRow_updated inv hl ho hsame hkey) rfl, ⟨?_⟩⟩
      exact currentLifecycle_written hfits rfl rfl rfl
  · rw [loadLifecycleEvidence_of_none hl] at hfits ⊢
    rw [hwrite]
    refine ⟨_, _, loadLifecycleEvidence_of_row (lifecycleRow_inserted hl hid hkey) rfl, ⟨?_⟩⟩
    exact currentLifecycle_written hfits rfl rfl rfl

theorem advances_refl (log : RunLog) (r : EvidenceRow) (o : Operation) : Advances log r r o o :=
  ⟨rfl, rfl, rfl, fun _ => rfl, fun h => absurd rfl h⟩

/-- **What any write does to an operation's row.** -/
theorem lifecycleRow_advances (store : ContentStore) (inv : LogInv log) (hl : loadLifecycleEvidence log epoch op = some (r, o)) (w : Write) :
    ∃ r' o', loadLifecycleEvidence (log.write store w) epoch op = some (r', o') ∧ Advances log r r' o o' := by
  obtain ⟨hrow, ho⟩ := loadLifecycleEvidence_eq_some.1 hl
  cases hrec : recordedFor log epoch op w with
  | none =>
    have hframe : lifecycleRow (log.write store w) epoch op = some r := (lifecycleRow_frame inv hrec).trans hrow
    exact ⟨r, o, loadLifecycleEvidence_of_row hframe ho, advances_refl log r o⟩
  | some e =>
    rcases write_recorded store hrec with ⟨r₁, o₁, hl₁, ho₁, hwrite, hcond⟩ | ⟨hnone, -⟩
    · rw [hrow, Option.some.injEq] at hl₁
      subst hl₁
      rw [ho, Option.some.injEq] at ho₁
      subst ho₁
      rw [hwrite]
      cases hsame : semanticallyUnchanged r o e (nextLifecycle (some (r, o)) e) with
      | true =>
        refine ⟨_, _, loadLifecycleEvidence_of_row (lifecycleRow_unchanged inv hrow ho hsame) rfl, ?_⟩
        exact ⟨rfl, rfl, rfl, fun _ => rfl, fun h => absurd rfl h⟩
      | false =>
        have hkey : sourceKeyClash log r e.sourceEventKey = false := hcond.resolve_left (by rw [hsame]; simp)
        refine ⟨_, _, loadLifecycleEvidence_of_row (lifecycleRow_updated inv hrow ho hsame hkey) rfl, ?_⟩
        refine ⟨rfl, rfl, rfl, fun hphase => ?_, fun _ => ⟨rfl, _, rfl, lt_allocateChangeSequence log, fun x hx d hd => ?_⟩⟩
        · exact if_pos hphase
        · exact inv.lt_allocate hx hd
    · rw [hrow] at hnone
      cases hnone

end

/-! ## Runs -/

structure OperationTrack where
  log : RunLog
  events : List RuntimeEvent

def OperationTrack.empty : OperationTrack := { log := RunLog.empty, events := [] }

def OperationTrack.step (store : ContentStore) (epoch : Nat) (op : String) (t : OperationTrack) (w : Write) : OperationTrack where
  log := t.log.write store w
  events := t.events ++ (recordedFor t.log epoch op w).toList

def OperationTrack.terminalStatuses (t : OperationTrack) : List String :=
  t.events.filterMap (fun e => lifecycleTerminalStatus (compactPayload e))

structure KeepsOperation (store : ContentStore) (existing : Option (EvidenceRow × Operation)) (e : RuntimeEvent) : Prop where
  payload : PublicPayload e.payload
  noDelta : e.outputUpdate ≠ some .orderedDelta
  fits : Fits store existing e
  status : KeepsStatus (inputValue existing) (resultValue existing) e

def KeepsOperationStep (store : ContentStore) (epoch : Nat) (op : String) (t : OperationTrack) (w : Write) : Prop :=
  ∀ e, recordedFor t.log epoch op w = some e → KeepsOperation store (loadLifecycleEvidence t.log epoch op) e

structure Unsettled (payload : Json) (statuses : List String) : Prop where
  marked : lifecycleHasTerminalConflict payload = true
  status : payload.strField "status" = some "unsettled"
  listed : ∀ s ∈ statuses, s ∈ lifecycleObservedTerminalStatuses payload

structure TrackInv (store : ContentStore) (epoch : Nat) (op : String) (t : OperationTrack) : Prop where
  log : LogInv t.log
  status : StatusInv (inputValue (loadLifecycleEvidence t.log epoch op)) (resultValue (loadLifecycleEvidence t.log epoch op))
    t.terminalStatuses
  last : ∀ e, t.events.getLast? = some e → ∃ r o, loadLifecycleEvidence t.log epoch op = some (r, o) ∧
    evidenceEventTypes.contains e.eventType = true ∧ isActivity e = true ∧
    nextLifecycle (some (r, o)) e = currentLifecycle r o

section

variable {store : ContentStore} {epoch : Nat} {op : String} {t : OperationTrack} {w : Write} {e : RuntimeEvent}

theorem trackInv_empty : TrackInv store epoch op OperationTrack.empty where
  log := logInv_empty
  status := statusInv_none
  last := fun e he => by cases he

variable {log : RunLog}

theorem recordedFor_classified (h : recordedFor log epoch op w = some e) :
    evidenceEventTypes.contains e.eventType = true ∧ isActivity e = true := by
  cases w with
  | event epoch' id now e' =>
    simp only [recordedFor] at h
    split at h
    · rename_i hrec
      rw [Option.some.injEq] at h
      subst h
      simp only [recordsOperation, Bool.and_eq_true] at hrec
      exact hrec.2.2.1.1
    · cases h
  | _ => cases h

/-- **The step lemma.** -/
theorem trackInv_step (inv : TrackInv store epoch op t) (hok : KeepsOperationStep store epoch op t w) :
    TrackInv store epoch op (t.step store epoch op w) := by
  have hlog := logInv_write store inv.log w
  cases hrec : recordedFor t.log epoch op w with
  | none =>
    have hframe : loadLifecycleEvidence (t.log.write store w) epoch op = loadLifecycleEvidence t.log epoch op := by
      rw [loadLifecycleEvidence, lifecycleRow_frame inv.log hrec, loadLifecycleEvidence]
    have hstep : t.step store epoch op w = ⟨t.log.write store w, t.events⟩ := by simp [OperationTrack.step, hrec]
    rw [hstep]
    refine ⟨hlog, ?_, ?_⟩
    · simp only [hframe]
      exact inv.status
    · simp only [hframe]
      exact inv.last
  | some e =>
    obtain ⟨hp, hdelta, hfits, hk⟩ := hok e hrec
    obtain ⟨r, o, hload, hjust⟩ := recorded_justRecorded inv.log hrec hfits
    have hstep : t.step store epoch op w = ⟨t.log.write store w, t.events ++ [e]⟩ := by simp [OperationTrack.step, hrec]
    rw [hstep]
    refine ⟨hlog, ?_, ?_⟩
    · have hnext := statusInv_next inv.status hp hdelta hk
      have hinput : inputValue (some (r, o)) = (nextLifecycle (loadLifecycleEvidence t.log epoch op) e).input :=
        congrArg Lifecycle.input hjust.current
      simp only [hload]
      rw [hinput, resultValue_recorded hjust]
      have hseen : OperationTrack.terminalStatuses ⟨t.log.write store w, t.events ++ [e]⟩ =
          t.terminalStatuses ++ (lifecycleTerminalStatus (compactPayload e)).toList := by
        simp only [OperationTrack.terminalStatuses, filterMap_append]
        cases hs : lifecycleTerminalStatus (compactPayload e) with
        | none => simp [hs]
        | some s => simp [hs]
      rw [hseen]
      exact hnext
    · intro e' he'
      have hlast : e = e' := by simpa using he'
      subst hlast
      obtain ⟨hclassified, hactivity⟩ := recordedFor_classified hrec
      exact ⟨r, o, hload, hclassified, hactivity, nextLifecycle_replay inv.status hp hdelta hk hjust⟩

theorem unsettled_of_two (inv : TrackInv store epoch op t) {a b : String} (ha : a ∈ t.terminalStatuses)
    (hb : b ∈ t.terminalStatuses) (hne : a ≠ b) :
    ∃ r o, loadLifecycleEvidence t.log epoch op = some (r, o) ∧ Unsettled o.combined t.terminalStatuses := by
  have hmarked : lifecycleHasTerminalConflict (combineLifecycleValues (inputValue (loadLifecycleEvidence t.log epoch op))
      (resultValue (loadLifecycleEvidence t.log epoch op))) = true := by
    by_contra hnot
    rw [Bool.not_eq_true] at hnot
    have hshown := (inv.status.shown hnot).1
    have hab := (hshown a ha).symm.trans (hshown b hb)
    exact hne (Option.some.inj hab)
  cases hload : loadLifecycleEvidence t.log epoch op with
  | none =>
    rw [hload] at hmarked
    exact absurd hmarked (by decide)
  | some x =>
    obtain ⟨r, o⟩ := x
    have inv' := inv.status
    rw [hload] at hmarked inv'
    obtain ⟨hroot, hlisted⟩ := inv'.marked hmarked
    obtain ⟨-, hread₂, hread₃⟩ := existingPayload_reads inv'
    have hpayload : existingPayload (some (r, o)) = o.combined := rfl
    rw [hpayload] at hread₂ hread₃
    refine ⟨r, o, rfl, hread₂.trans hmarked, ?_, fun s hs => ?_⟩
    · have hkeep : o.combined.getD "status" =
          rootStatus (combineLifecycleValues (inputValue (some (r, o))) (resultValue (some (r, o)))) :=
        (keepsReads_withResultDigest (readable_combined inv').record o.resultDigest).1
      rw [Json.strField_eq, hkeep, combineLifecycleValues, rootStatus_fill inv'.readableResult inv'.readableInput, hroot,
        Json.asStr_fillMissing, if_neg (by decide)]
      rfl
    · rw [hread₃]
      exact hlisted s hs

variable {r : EvidenceRow}

theorem updateRow_self (inv : LogInv log) (hr : r ∈ log.rows) :
    updateRow log r.id (fun _ => r) = log.rows := by
  unfold updateRow
  refine (map_congr_left (fun y hy => ?_)).trans (map_id' log.rows)
  split
  · rename_i hid
    exact (inv.eq_of_id hy hr hid).symm
  · rfl

theorem semanticallyUnchanged_of_eq {o : Operation} {next : Lifecycle} (h : next = currentLifecycle r o) :
    semanticallyUnchanged r o e next = true := by
  subst h
  simp [semanticallyUnchanged, currentLifecycle]

theorem write_replay (inv : LogInv log) {o : Operation}
    (hload : loadLifecycleEvidence log epoch op = some (r, o)) (hclassified : evidenceEventTypes.contains e.eventType = true)
    (hactivity : isActivity e = true) (h : nextLifecycle (some (r, o)) e = currentLifecycle r o) {id : EvidenceId}
    (now : Timestamp) (hop : operationOf id e = op) : log.write store (.event epoch id now e) = log := by
  obtain ⟨hrow, ho⟩ := loadLifecycleEvidence_eq_some.1 hload
  obtain ⟨hr, -⟩ := lifecycleRow_some hrow
  subst hop
  rw [RunLog.write, recordRuntimeEvent, if_pos hclassified, recordOperationLifecycle, hactivity, if_neg (by simp)]
  split
  · rfl
  simp only [hrow, ho, Option.getD_some, updateOperation]
  rw [if_pos (semanticallyUnchanged_of_eq h), h, inv.updateRow_eq hr]
  have hself : ({ r with operation := some { o with resultDigest := (currentLifecycle r o).resultDigest } } : EvidenceRow) = r := by
    obtain ⟨⟩ := r
    simp only at ho
    subst ho
    rfl
  rw [hself, updateRow_self inv hr]

theorem trackInv_run {ws : List Write}
    (h : Runs.AllSteps (OperationTrack.step store epoch op) (KeepsOperationStep store epoch op) OperationTrack.empty ws) :
    TrackInv store epoch op (ws.foldl (OperationTrack.step store epoch op) OperationTrack.empty) :=
  Runs.run_invariant_of_allSteps (P := TrackInv store epoch op) _ (fun _ _ hok inv => trackInv_step inv hok) ws _ h trackInv_empty

theorem run_keeps_row : ∀ (us : List Write) {log : RunLog} {r : EvidenceRow} {o : Operation}, LogInv log →
    loadLifecycleEvidence log epoch op = some (r, o) →
    ∃ r' o', loadLifecycleEvidence (us.foldl (RunLog.write store) log) epoch op = some (r', o') ∧ r'.id = r.id ∧
      r'.sequence = r.sequence ∧ r'.occurredAt = r.occurredAt ∧ (terminalPhase r.phase = true → r'.phase = r.phase)
  | [], _, r, o, _, hload => ⟨r, o, hload, rfl, rfl, rfl, fun _ => rfl⟩
  | u :: us, _, _, _, inv, hload => by
    obtain ⟨r₁, o₁, hload₁, hadv⟩ := lifecycleRow_advances store inv hload u
    obtain ⟨r', o', hload', hid, hsequence, hat, hphase⟩ := run_keeps_row us (logInv_write store inv u) hload₁
    refine ⟨r', o', hload', hid.trans hadv.id, hsequence.trans hadv.sequence, hat.trans hadv.occurredAt, fun hterminal => ?_⟩
    have hkept := hadv.phase hterminal
    exact (hphase (hkept ▸ hterminal)).trans hkept

/-- **Monotone and replay-safe**, for every run, epoch and operation.  Over every run the row keeps its identity and a
settled phase, and every change of its content takes the next revision and a fresh change sequence.  Over every run whose
recordings keep the operation's status, two terminal statuses leave the row unsettled with all of them listed, and the
event recorded last, recorded again, changes nothing. -/
theorem operationLifecycle_monotone (store : ContentStore) (epoch : Nat) (op : String) (ws : List Write) :
    (∀ us r o, loadLifecycleEvidence (ws.foldl (RunLog.write store) RunLog.empty) epoch op = some (r, o) →
      ∃ r' o', loadLifecycleEvidence ((ws ++ us).foldl (RunLog.write store) RunLog.empty) epoch op = some (r', o') ∧
        r'.id = r.id ∧ r'.sequence = r.sequence ∧ r'.occurredAt = r.occurredAt ∧
        (terminalPhase r.phase = true → r'.phase = r.phase)) ∧
    (∀ w r o, loadLifecycleEvidence (ws.foldl (RunLog.write store) RunLog.empty) epoch op = some (r, o) →
      ∃ r' o', loadLifecycleEvidence ((ws.foldl (RunLog.write store) RunLog.empty).write store w) epoch op = some (r', o') ∧
        Advances (ws.foldl (RunLog.write store) RunLog.empty) r r' o o') ∧
    (Runs.AllSteps (OperationTrack.step store epoch op) (KeepsOperationStep store epoch op) OperationTrack.empty ws →
      let t := ws.foldl (OperationTrack.step store epoch op) OperationTrack.empty
      (∀ a ∈ t.terminalStatuses, ∀ b ∈ t.terminalStatuses, a ≠ b →
        ∃ r o, loadLifecycleEvidence t.log epoch op = some (r, o) ∧ Unsettled o.combined t.terminalStatuses) ∧
      (∀ e, t.events.getLast? = some e → ∀ id now, operationOf id e = op →
        t.log.write store (.event epoch id now e) = t.log)) := by
  have inv := logInv_run store ws
  refine ⟨fun us r o hload => ?_, fun w r o hload => lifecycleRow_advances store inv hload w, fun hok => ?_⟩
  · rw [foldl_append]
    exact run_keeps_row us inv hload
  · have track := trackInv_run hok
    refine ⟨fun a ha b hb hne => unsettled_of_two track ha hb hne, fun e he id now hop => ?_⟩
    obtain ⟨r, o, hload, hclassified, hactivity, hnext⟩ := track.last e he
    exact write_replay track.log hload hclassified hactivity hnext now hop

end

/-! ## Runs of one tool call -/

def toolCallEvent (phase status : String) : RuntimeEvent where
  eventType := "runtime.action"
  kind := "command"
  phase := phase
  payload := .obj [("status", .str status), ("toolCallId", .str "t")]
  preview := .obj []
  sourceEventKey := none
  outputUpdate := none
  outputTruncated := none

def smallStore : ContentStore := { encodedLength := fun _ => 0, lossyPreview := fun v => v }

def toolCallRun (statuses : List (String × String)) : List Write :=
  statuses.mapIdx (fun i s => .event 1 ("e" ++ toString i) i (toolCallEvent s.1 s.2))

theorem publicPayload_toolCall (phase status : String) : PublicPayload (toolCallEvent phase status).payload where
  sorted := by
    have hlt : "status" < "toolCallId" := by decide
    refine ⟨?_, trivial, trivial, trivial⟩
    rw [pairwise_pair]
    exact hlt
  object := rfl
  item := rfl
  place := .inr rfl
  unmarked := rfl

theorem operationLifecycle_monotone_unsettled :
    ∃ r o, loadLifecycleEvidence ((toolCallRun [("completed", "completed"), ("failed", "failed")]).foldl
        (OperationTrack.step smallStore 1 "t") OperationTrack.empty).log 1 "t" = some (r, o) ∧
      Unsettled o.combined ["completed", "failed"] := by
  have hok : Runs.AllSteps (OperationTrack.step smallStore 1 "t") (KeepsOperationStep smallStore 1 "t") OperationTrack.empty
      (toolCallRun [("completed", "completed"), ("failed", "failed")]) := by
    refine ⟨?_, ?_, trivial⟩
    · intro e he
      have hrec : recordedFor OperationTrack.empty.log 1 "t" (.event 1 "e0" 0 (toolCallEvent "completed" "completed")) =
        some (toolCallEvent "completed" "completed") := by decide
      obtain rfl := Option.mem_unique hrec he
      exact ⟨publicPayload_toolCall _ _, by decide, ⟨.inr (Nat.zero_le _), .inr (.inr (Nat.zero_le _))⟩, keepsStatus_first _⟩
    · intro e he
      have hrec : recordedFor (OperationTrack.empty.step smallStore 1 "t"
          (.event 1 "e0" 0 (toolCallEvent "completed" "completed"))).log 1 "t" (.event 1 "e1" 1 (toolCallEvent "failed" "failed")) =
        some (toolCallEvent "failed" "failed") := by decide
      obtain rfl := Option.mem_unique hrec he
      refine ⟨publicPayload_toolCall _ _, by decide, ⟨.inr (Nat.zero_le _), .inr (.inr (Nat.zero_le _))⟩, ?_⟩
      exact keepsStatus_second "completed" "failed" (by decide) (by decide) (by decide) (by decide) (by decide)
  exact ((operationLifecycle_monotone smallStore 1 "t" _).2.2 hok).1 "completed" (by decide) "failed" (by decide) (by decide)

/-- The call completes, reports itself running again and then fails: the row forgets that it completed. -/
theorem terminalStatus_lost :
    let t := (toolCallRun [("updated", "pending"), ("completed", "completed"), ("updated", "running"), ("failed", "failed")]).foldl
      (OperationTrack.step smallStore 1 "t") OperationTrack.empty
    t.terminalStatuses = ["completed", "failed"] ∧
      (loadLifecycleEvidence t.log 1 "t").map (fun x => lifecycleHasTerminalConflict x.2.combined) = some false := by
  decide

end Rovai
