import RovaiCore.JsonPaths
import RovaiCore.OperationHistory
/-!
# The latest report of a field

What an operation shows at one field path. Every event is stored as its difference from the input, laid over the result that
stands.
-/
namespace Rovai

open Json (fillMissing difference differenceOrNull valueAt Open)

/-! ## Field paths -/

/-- A path to a member that the merges treat as data: no output, no digest and no marker of the lifecycle. -/
structure FieldPath (p : List String) : Prop where
  member : p ≠ []
  output : Json.omitted outputFields itemOutputFields p = false
  digest : p.head? ≠ some "resultDigest"
  marker : p.head? ≠ some "_rovaiLifecycle"

instance (p : List String) : Decidable (FieldPath p) :=
  decidable_of_iff (p ≠ [] ∧ Json.omitted outputFields itemOutputFields p = false ∧ p.head? ≠ some "resultDigest" ∧
    p.head? ≠ some "_rovaiLifecycle") ⟨fun ⟨a, b, c, d⟩ => ⟨a, b, c, d⟩, fun ⟨a, b, c, d⟩ => ⟨a, b, c, d⟩⟩

def inputOmits (p : List String) : Bool := Json.omitted inputOmittedFields inputOmittedItemFields p

def shownAt (p : List String) (o : Operation) : Json :=
  valueAt p (combineLifecycleValues o.input.value (o.result.map (·.value)))

section

variable {p : List String} {payload : Json}

theorem FieldPath.cons (hp : FieldPath p) : ∃ k ks, p = k :: ks ∧ k ≠ "resultDigest" ∧ k ≠ "_rovaiLifecycle" := by
  cases p with
  | nil => exact absurd rfl hp.member
  | cons k ks => exact ⟨k, ks, rfl, fun h => hp.digest (congrArg some h), fun h => hp.marker (congrArg some h)⟩

/-! ## What the merges do to one path -/

theorem path_compactPayload (hp : FieldPath p) {e : RuntimeEvent} (h : Open p e.payload) :
    valueAt p (compactPayload e) = valueAt p e.payload ∧ Open p (compactPayload e) := by
  obtain ⟨k, ks, rfl, hk, -⟩ := hp.cons
  have hmember : (compactPayload e).getD k = e.payload.getD k := by
    rw [compactPayload, Json.getD_removeFields, if_neg (by simpa using hk)]
  refine ⟨Json.valueAt_congr hmember, ?_, ?_⟩
  · rw [compactPayload, Json.isRecord_removeFields]
    exact h.1
  · rw [hmember]
    exact h.2

theorem path_inputPayload (hp : FieldPath p) (h : Open p payload) :
    valueAt p (lifecycleInputPayload payload) = (if inputOmits p then .null else valueAt p payload) ∧
      Open p (lifecycleInputPayload payload) :=
  ⟨Json.valueAt_without inputOmittedFields inputOmittedItemFields hp.member h,
    Json.open_without inputOmittedFields inputOmittedItemFields hp.member h⟩

theorem path_outputAliases (hp : FieldPath p) (h : Open p payload) :
    valueAt p (removePersistedOutputAliases payload) = valueAt p payload ∧ Open p (removePersistedOutputAliases payload) := by
  have hvalue := Json.valueAt_without outputFields itemOutputFields hp.member h
  rw [hp.output, if_neg (by decide)] at hvalue
  exact ⟨hvalue, Json.open_without outputFields itemOutputFields hp.member h⟩

theorem path_setItemOutput (hp : FieldPath p) (h : Open p payload) {field : String} (hfield : itemOutputFields.contains field = true)
    (hitem : (payload.getD "item").isObj = true) (output : Json) :
    valueAt p (payload.mapField "item" (fun item => item.setField field output)) = valueAt p payload ∧
      Open p (payload.mapField "item" (fun item => item.setField field output)) := by
  have hput : ∀ l, l ≠ "item" →
      (payload.mapField "item" (fun item => item.setField field output)).getD l = payload.getD l := by
    intro l hl
    rw [Json.getD, Json.get?_mapField, if_neg hl]
    rfl
  have hin : (payload.mapField "item" (fun item => item.setField field output)).getD "item" =
      (payload.getD "item").setField field output := by
    rw [Json.getD, Json.get?_mapField, if_pos rfl]
    cases hg : payload.get? "item" with
    | none => rw [Json.getD, hg] at hitem; cases hitem
    | some v => rw [Json.getD, hg]; rfl
  cases p with
  | nil => exact absurd rfl hp.member
  | cons k ks =>
    have hrecord : (payload.mapField "item" (fun item => item.setField field output)).isRecord = true := by
      rw [Json.isRecord_mapField]
      exact h.1
    by_cases hk : k = "item"
    · subst hk
      cases ks with
      | nil =>
        have hend : (payload.getD "item").isObj = false := h.2
        rw [hitem] at hend
        cases hend
      | cons l ls =>
        have hl : l ≠ field := by
          rintro rfl
          have := hp.output
          simp [Json.omitted] at this
          simp at hfield
          exact this.2 hfield
        have hitemRecord : (payload.getD "item").isRecord = true := h.2.1
        have hmember : ((payload.getD "item").setField field output).getD l = (payload.getD "item").getD l := by
          rw [Json.getD_setField hitemRecord, if_neg hl]
        refine ⟨?_, hrecord, ?_⟩
        · rw [valueAt, hin]
          exact Json.valueAt_congr hmember
        · rw [hin]
          refine ⟨Json.isRecord_setField hitemRecord field output, ?_⟩
          rw [hmember]
          exact h.2.2
    · refine ⟨Json.valueAt_congr (hput k hk), hrecord, ?_⟩
      rw [hput k hk]
      exact h.2

theorem isObj_of_pointer_isSome {k l : String} (h : (payload.pointer [k, l]).isSome = true) :
    (payload.getD k).isObj = true := by
  unfold Json.getD
  cases hk : payload.get? k with
  | none => simp [Json.pointer, hk] at h
  | some v =>
    simp only [Json.pointer, hk, Option.bind_some] at h
    cases v with
    | obj fields => rfl
    | null | bool _ | num _ | float _ | str _ | arr _ => simp [Json.get?] at h

theorem path_setExistingOutput (hp : FieldPath p) (h : Open p payload) (output : String) :
    valueAt p (setExistingPersistedOutput payload output) = valueAt p payload ∧
      Open p (setExistingPersistedOutput payload output) := by
  unfold setExistingPersistedOutput
  split
  · rename_i hsome
    exact path_setItemOutput hp h (by decide) (isObj_of_pointer_isSome hsome) _
  split
  · rename_i hsome
    exact path_setItemOutput hp h (by decide) (isObj_of_pointer_isSome hsome) _
  · cases p with
    | nil => exact absurd rfl hp.member
    | cons k ks =>
      have hk : k ≠ "output" := by
        rintro rfl
        have := hp.output
        cases ks <;> simp [Json.omitted, outputFields] at this
      have hmember : (payload.setField "output" (.str output)).getD k = payload.getD k := by
        rw [Json.getD_setField h.1, if_neg hk]
      refine ⟨Json.valueAt_congr hmember, Json.isRecord_setField h.1 _ _, ?_⟩
      rw [hmember]
      exact h.2

theorem path_appendOrderedDelta (hp : FieldPath p) {old : Json} (h : Open p old) (incoming : Json) (t t' : Option Bool) :
    valueAt p (appendOrderedDelta old incoming t t').1 = valueAt p old ∧ Open p (appendOrderedDelta old incoming t t').1 := by
  unfold appendOrderedDelta
  split
  · exact ⟨rfl, h⟩
  · exact path_setExistingOutput hp h _

theorem sorted_appendOrderedDelta {old : Json} (incoming : Json) (h : old.Sorted) (t t' : Option Bool) :
    (appendOrderedDelta old incoming t t').1.Sorted := by
  have hstr : ∀ s : String, (Json.str s).Sorted := fun s => by simp [Json.Sorted]
  unfold appendOrderedDelta
  split
  · exact h
  simp only [setExistingPersistedOutput]
  split
  · exact Json.sorted_mapField _ h (fun _ hv => Json.sorted_setField hv (hstr _) _)
  split
  · exact Json.sorted_mapField _ h (fun _ hv => Json.sorted_setField hv (hstr _) _)
  · exact Json.sorted_setField h (hstr _) _

end

/-! ## One recording -/

structure PathInv (p : List String) (existing : Option (EvidenceRow × Operation)) : Prop where
  openInput : Open p (inputValue existing)
  openResult : Open p ((resultValue existing).getD .null)
  sortedInput : (inputValue existing).Sorted
  sortedResult : ((resultValue existing).getD .null).Sorted
  omitted : inputOmits p = true → valueAt p (inputValue existing) = .null
  first : inputOmits p = false → valueAt p (inputValue existing) = .null → valueAt p ((resultValue existing).getD .null) = .null

/-- The claim's own conditions on a recording, for one path: a payload that leads to the path, parts stored whole, and after
the first event neither a start nor a terminal conflict. -/
structure Reports (store : ContentStore) (p : List String) (existing : Option (EvidenceRow × Operation)) (e : RuntimeEvent) :
    Prop where
  sorted : e.payload.Sorted
  leads : Open p e.payload
  fits : Fits store existing e
  later : existing.isSome = true → incomingIsStart e = false ∧ terminalConflict existing e = false

def NoReturn (p : List String) (existing : Option (EvidenceRow × Operation)) (e : RuntimeEvent) : Prop :=
  valueAt p e.payload ≠ .null → valueAt p e.payload = valueAt p (inputValue existing) →
    valueAt p ((resultValue existing).getD .null) = .null ∨
      valueAt p ((resultValue existing).getD .null) = valueAt p e.payload

section

variable {store : ContentStore} {p : List String} {existing : Option (EvidenceRow × Operation)} {e : RuntimeEvent}
variable {r : EvidenceRow} {o : Operation}

theorem isNull_iff {j : Json} : j.isNull = true ↔ j = .null := by
  cases j <;> simp [Json.isNull]

theorem sorted_compactPayload (h : e.payload.Sorted) : (compactPayload e).Sorted := Json.sorted_removeFields _ h

/-- **The input keeps the first value of the path**, unless it leaves the path out. -/
theorem path_nextInput (hp : FieldPath p) (inv : PathInv p existing) (h : Reports store p existing e) :
    valueAt p (nextInput existing e) = (if (valueAt p (inputValue existing)).isNull then
        (if inputOmits p then .null else valueAt p e.payload) else valueAt p (inputValue existing)) ∧
      Open p (nextInput existing e) ∧ (nextInput existing e).Sorted := by
  obtain ⟨hcompact, hopen⟩ := path_compactPayload hp h.leads
  obtain ⟨hinput, hopen'⟩ := path_inputPayload hp hopen
  have hsorted : (lifecycleInputPayload (compactPayload e)).Sorted :=
    Json.sorted_without inputOmittedFields inputOmittedItemFields (sorted_compactPayload h.sorted)
  refine ⟨?_, Json.open_fillMissing inv.openInput hopen' hsorted, Json.sorted_fillMissing inv.sortedInput hsorted⟩
  rw [← hcompact, ← hinput]
  exact Json.valueAt_fillMissing inv.openInput hopen' hsorted

/-- **What an event stores of the path**: its report, when it differs from the input's value. -/
theorem path_incomingResult (hp : FieldPath p) (inv : PathInv p existing) (h : Reports store p existing e) :
    valueAt p (incomingResult existing e) =
        (if valueAt p e.payload = valueAt p (nextInput existing e) then .null else valueAt p e.payload) ∧
      Open p (incomingResult existing e) ∧ (incomingResult existing e).Sorted := by
  obtain ⟨hcompact, hopen⟩ := path_compactPayload hp h.leads
  obtain ⟨-, hnext, -⟩ := path_nextInput hp inv h
  have hs := sorted_compactPayload h.sorted
  have hvalue := Json.valueAt_differenceOrNull hopen hnext hs
  have hdiff := Json.open_differenceOrNull hopen hnext hs
  rw [hcompact] at hvalue
  rw [← hvalue]
  unfold incomingResult
  unfold differenceOrNull at hdiff ⊢
  cases hd : difference (compactPayload e) (nextInput existing e) with
  | some d =>
    rw [hd] at hdiff
    exact ⟨rfl, hdiff, Json.sorted_difference hs hd⟩
  | none =>
    -- nothing new: the marker stands in for it, and the path does not lead into the marker
    obtain ⟨k, ks, rfl, -, hk⟩ := hp.cons
    have hmember : resultObservedMarker.getD k = .null := by
      simp [resultObservedMarker, Json.getD, Json.get?, Json.lookupField, Ne.symm hk]
    refine ⟨?_, ⟨rfl, ?_⟩, ?_⟩
    · simp only [Option.getD_none, valueAt, hmember]
      rfl
    · simp only [Option.getD_none, hmember]
      exact Json.open_null ks
    · simp [resultObservedMarker, Json.Sorted, Json.SortedFields]

/-- **The result of the path**: what the event stores of it, or what stood. -/
theorem path_nextResult (hp : FieldPath p) (inv : PathInv p existing) (h : Reports store p existing e)
    (hconflict : terminalConflict existing e = false) :
    valueAt p (nextResult existing e).1 = (if (valueAt p (incomingResult existing e)).isNull then
        valueAt p ((resultValue existing).getD .null) else valueAt p (incomingResult existing e)) ∧
      Open p (nextResult existing e).1 ∧ (nextResult existing e).1.Sorted := by
  obtain ⟨-, hopen, hsorted⟩ := path_incomingResult hp inv h
  have hfill : ∀ {a b : Json}, valueAt p a = valueAt p (incomingResult existing e) → Open p a → a.Sorted →
      valueAt p b = valueAt p ((resultValue existing).getD .null) → Open p b → b.Sorted →
      valueAt p (fillMissing a b) = (if (valueAt p (incomingResult existing e)).isNull then
        valueAt p ((resultValue existing).getD .null) else valueAt p (incomingResult existing e)) ∧
      Open p (fillMissing a b) ∧ (fillMissing a b).Sorted := by
    intro a b ha hao has hb hbo hbs
    refine ⟨?_, Json.open_fillMissing hao hbo hbs, Json.sorted_fillMissing has hbs⟩
    rw [← ha, ← hb]
    exact Json.valueAt_fillMissing hao hbo hbs
  unfold nextResult
  cases hres : (existing.bind (fun x => x.2.result)).map (·.value) with
  | none =>
    have hnull : resultValue existing = none := hres
    simp only [hnull, Option.getD_none, Json.valueAt_null]
    refine ⟨?_, hopen, hsorted⟩
    split
    · rename_i hn
      exact isNull_iff.1 hn
    · rfl
  | some old =>
    have hold : resultValue existing = some old := hres
    have holdOpen := inv.openResult
    have holdSorted := inv.sortedResult
    rw [hold, Option.getD_some] at holdOpen holdSorted hfill
    simp only [hconflict, Bool.false_eq_true, if_false, hold, Option.getD_some]
    cases hu : e.outputUpdate with
    | none => exact hfill rfl hopen hsorted rfl holdOpen holdSorted
    | some u =>
      cases u with
      | orderedDelta =>
        obtain ⟨hkeep, hkeepOpen⟩ := path_appendOrderedDelta hp holdOpen (incomingResult existing e)
          (existing.bind (fun x => x.2.outputTruncated)) e.outputTruncated
        obtain ⟨halias, haliasOpen⟩ := path_outputAliases hp hopen
        exact hfill halias haliasOpen (Json.sorted_without outputFields itemOutputFields hsorted) hkeep hkeepOpen
          (sorted_appendOrderedDelta _ holdSorted _ _)
      | completeSnapshot =>
        obtain ⟨halias, haliasOpen⟩ := path_outputAliases hp holdOpen
        exact hfill rfl hopen hsorted halias haliasOpen (Json.sorted_without outputFields itemOutputFields holdSorted)
      | metadataOnly => exact hfill rfl hopen hsorted rfl holdOpen holdSorted

theorem shownAt_eq (inv : PathInv p (some (r, o))) :
    shownAt p o = if (valueAt p ((resultValue (some (r, o))).getD .null)).isNull then valueAt p (inputValue (some (r, o)))
      else valueAt p ((resultValue (some (r, o))).getD .null) :=
  Json.valueAt_fillMissing inv.openResult inv.openInput inv.sortedInput

/-- **A recording keeps what the row keeps about the path.** -/
theorem pathInv_recorded (hp : FieldPath p) (inv : PathInv p existing) (h : Reports store p existing e)
    (hjust : JustRecorded existing e r o) : PathInv p (some (r, o)) := by
  have hinput : inputValue (some (r, o)) = nextInput existing e := inputValue_recorded hjust
  have hresult : resultValue (some (r, o)) = (nextLifecycle existing e).result := resultValue_recorded hjust
  obtain ⟨hi, hio, his⟩ := path_nextInput hp inv h
  obtain ⟨hd, -, -⟩ := path_incomingResult hp inv h
  by_cases hstart : incomingIsStart e = true
  · -- a start is the first event: no result yet
    have hnone : existing = none := by
      cases existing with
      | none => rfl
      | some x => exact absurd (hstart.symm.trans (h.later rfl).1) (by decide)
    subst hnone
    have hres : resultValue (some (r, o)) = none := by
      rw [hresult]
      simp [nextLifecycle, hstart]
    refine ⟨hinput ▸ hio, ?_, hinput ▸ his, ?_, fun homit => ?_, fun _ _ => ?_⟩
    · rw [hres]
      exact Json.open_null p
    · rw [hres]
      simp [Json.Sorted]
    · rw [hinput, hi, inv.omitted homit, homit]
      rfl
    · rw [hres]
      exact Json.valueAt_null p
  · rw [Bool.not_eq_true] at hstart
    have hconflict : terminalConflict existing e = false := by
      cases existing with
      | none => rfl
      | some x => exact (h.later rfl).2
    obtain ⟨hv, hvo, hvs⟩ := path_nextResult hp inv h hconflict
    have hres : resultValue (some (r, o)) = some (nextResult existing e).1 := by
      rw [hresult]
      simp [nextLifecycle, hstart]
    refine ⟨hinput ▸ hio, ?_, hinput ▸ his, ?_, fun homit => ?_, fun hkept hnull => ?_⟩
    · rw [hres]
      exact hvo
    · rw [hres]
      exact hvs
    · rw [hinput, hi, inv.omitted homit, homit]
      rfl
    · -- the input keeps the path and shows nothing there: neither the event nor the old result says anything
      rw [hinput, hi, hkept] at hnull
      have hold : valueAt p (inputValue existing) = .null := by
        by_contra hne
        rw [if_neg (fun hn => hne (isNull_iff.1 hn))] at hnull
        exact hne hnull
      rw [hold] at hnull
      have hreport : valueAt p e.payload = .null := hnull
      have hincoming : valueAt p (incomingResult existing e) = .null := by
        rw [hd, hreport]
        split <;> rfl
      rw [hres, Option.getD_some, hv, hincoming]
      exact inv.first hkept hold

theorem pathInv_none : PathInv p none where
  openInput := Json.open_null p
  openResult := Json.open_null p
  sortedInput := by simp [inputValue, Json.Sorted]
  sortedResult := by simp [resultValue, Json.Sorted]
  omitted := fun _ => Json.valueAt_null p
  first := fun _ _ => Json.valueAt_null p

/-- **One more report shows, and an event without one changes nothing, exactly when the event does not go back to the
input's value.** -/
theorem report_shows_iff (hp : FieldPath p) {r₀ : EvidenceRow} {o₀ : Operation} (inv : PathInv p (some (r₀, o₀)))
    (h : Reports store p (some (r₀, o₀)) e) (hjust : JustRecorded (some (r₀, o₀)) e r o) :
    shownAt p o = (if (valueAt p e.payload).isNull then shownAt p o₀ else valueAt p e.payload) ↔
      NoReturn p (some (r₀, o₀)) e := by
  obtain ⟨hstart, hconflict⟩ := h.later rfl
  have hinput : inputValue (some (r, o)) = nextInput (some (r₀, o₀)) e := inputValue_recorded hjust
  have hres : resultValue (some (r, o)) = some (nextResult (some (r₀, o₀)) e).1 := by
    rw [resultValue_recorded hjust]
    simp [nextLifecycle, hstart]
  obtain ⟨hi, -, -⟩ := path_nextInput hp inv h
  obtain ⟨hd, -, -⟩ := path_incomingResult hp inv h
  obtain ⟨hv, -, -⟩ := path_nextResult hp inv h hconflict
  rw [shownAt_eq (pathInv_recorded hp inv h hjust), shownAt_eq inv, hres, Option.getD_some, hinput, hv, hd, hi]
  have homitted := inv.omitted
  have hfirst := inv.first
  unfold NoReturn
  generalize valueAt p (inputValue (some (r₀, o₀))) = i at homitted hfirst ⊢
  generalize valueAt p ((resultValue (some (r₀, o₀))).getD .null) = w at hfirst ⊢
  generalize valueAt p e.payload = v
  have hnull : Json.null.isNull = true := rfl
  by_cases hv0 : v = .null
  · -- nothing is reported
    subst hv0
    simp only [hnull, if_true, ite_self, ne_eq, not_true_eq_false, false_implies, iff_true]
    by_cases hi0 : i = .null
    · subst hi0
      simp [hnull]
    · have hin : i.isNull = false := by simpa using fun hn => hi0 (isNull_iff.1 hn)
      simp [hin]
  · have hvn : v.isNull = false := by simpa using fun hn => hv0 (isNull_iff.1 hn)
    by_cases hi0 : i = .null
    · -- the input has no value yet: the report becomes it, or the input leaves the path out
      subst hi0
      cases homit : inputOmits p with
      | true =>
        simp only [hnull, if_true, if_neg hv0, hvn, Bool.false_eq_true, if_false, true_iff]
        exact fun _ heq => absurd heq hv0
      | false =>
        have hw := hfirst homit rfl
        subst hw
        simp [hnull, hvn]
    · have hin : i.isNull = false := by simpa using fun hn => hi0 (isNull_iff.1 hn)
      simp only [hin, Bool.false_eq_true, if_false, hvn]
      by_cases hvi : v = i
      · -- the report repeats the input's value: it leaves no trace
        subst hvi
        simp only [if_true, hnull]
        by_cases hw0 : w = .null
        · subst hw0
          simp [hnull]
        · have hwn : w.isNull = false := by simpa using fun hn => hw0 (isNull_iff.1 hn)
          simp [hwn, hw0, hv0]
      · simp only [if_neg hvi, hvn, Bool.false_eq_true, if_false, true_iff]
        exact fun _ heq => absurd heq hvi

end

/-! ## Runs -/

/-- The log of a run, and the value that the path of one operation should show: what its first event left, then the last
report. -/
structure ReportTrack where
  log : RunLog
  latest : Option Json

def ReportTrack.empty : ReportTrack := { log := RunLog.empty, latest := none }

def latestAfter (p : List String) (latest : Json) (e : RuntimeEvent) : Json :=
  if (valueAt p e.payload).isNull then latest else valueAt p e.payload

def ReportTrack.step (store : ContentStore) (epoch : Nat) (op : String) (p : List String) (t : ReportTrack) (w : Write) :
    ReportTrack where
  log := t.log.write store w
  latest := match recordedFor t.log epoch op w with
    | none => t.latest
    | some e => match t.latest with
      | some latest => some (latestAfter p latest e)
      | none => (loadLifecycleEvidence (t.log.write store w) epoch op).map (fun x => shownAt p x.2)

def ReportTrack.ShowsLatest (epoch : Nat) (op : String) (p : List String) (t : ReportTrack) : Prop :=
  (loadLifecycleEvidence t.log epoch op).map (fun x => shownAt p x.2) = t.latest

def ReportsStep (store : ContentStore) (epoch : Nat) (op : String) (p : List String) (t : ReportTrack) (w : Write) : Prop :=
  ∀ e, recordedFor t.log epoch op w = some e → Reports store p (loadLifecycleEvidence t.log epoch op) e

def NoReturnStep (epoch : Nat) (op : String) (p : List String) (t : ReportTrack) (w : Write) : Prop :=
  ∀ e, recordedFor t.log epoch op w = some e → NoReturn p (loadLifecycleEvidence t.log epoch op) e

structure ReportTrackInv (epoch : Nat) (op : String) (p : List String) (t : ReportTrack) : Prop where
  log : LogInv t.log
  path : PathInv p (loadLifecycleEvidence t.log epoch op)

section

variable {store : ContentStore} {epoch : Nat} {op : String} {p : List String} {t : ReportTrack} {w : Write}

theorem reportTrack_step (hp : FieldPath p) (inv : ReportTrackInv epoch op p t) (h : ReportsStep store epoch op p t w) :
    ReportTrackInv epoch op p (t.step store epoch op p w) := by
  refine ⟨logInv_write store inv.log w, ?_⟩
  rw [ReportTrack.step]
  cases hrec : recordedFor t.log epoch op w with
  | none =>
    rw [loadLifecycleEvidence, lifecycleRow_frame inv.log hrec]
    exact inv.path
  | some e =>
    obtain ⟨r, o, hload, hjust⟩ := recorded_justRecorded inv.log hrec (h e hrec).fits
    rw [hload]
    exact pathInv_recorded hp inv.path (h e hrec) hjust

/-- **The step lemma.** -/
theorem showsLatest_step (hp : FieldPath p) (inv : ReportTrackInv epoch op p t) (h : ReportsStep store epoch op p t w)
    (hshows : t.ShowsLatest epoch op p) :
    (t.step store epoch op p w).ShowsLatest epoch op p ↔ NoReturnStep epoch op p t w := by
  unfold ReportTrack.ShowsLatest at hshows ⊢
  rw [ReportTrack.step]
  cases hrec : recordedFor t.log epoch op w with
  | none =>
    have hvacuous : NoReturnStep epoch op p t w := fun e he => by rw [hrec] at he; cases he
    rw [loadLifecycleEvidence, lifecycleRow_frame inv.log hrec]
    exact iff_of_true hshows hvacuous
  | some e =>
    obtain ⟨r, o, hload, hjust⟩ := recorded_justRecorded inv.log hrec (h e hrec).fits
    have hneeds : NoReturnStep epoch op p t w ↔ NoReturn p (loadLifecycleEvidence t.log epoch op) e := by
      refine ⟨fun hn => hn e hrec, fun hn e' he' => ?_⟩
      rw [hrec, Option.some.injEq] at he'
      exact he' ▸ hn
    rw [hneeds, ← hshows]
    cases hold : loadLifecycleEvidence t.log epoch op with
    | none =>
      -- the first event sets what there is to show
      refine iff_of_true rfl (fun hv heq => absurd heq ?_)
      rw [inputValue, Option.map_none, Option.getD_none, Json.valueAt_null]
      exact hv
    | some x =>
      have hpath := inv.path
      have hreports := h e hrec
      rw [hold] at hpath hreports hjust
      rw [← report_shows_iff hp hpath hreports hjust, hload, Option.map_some, Option.map_some, Option.some.injEq]
      rfl

theorem reportTrack_empty : ReportTrackInv epoch op p ReportTrack.empty where
  log := logInv_empty
  path := pathInv_none

/-- **The latest report wins**, for every operation and field path: in a run whose events report the path, it shows the last
report after every beginning of the run exactly when no event goes back to the input's value over another one. -/
theorem latest_report_wins (store : ContentStore) (epoch : Nat) (op : String) (p : List String) (hp : FieldPath p)
    (ws : List Write)
    (h : Runs.AllSteps (ReportTrack.step store epoch op p) (ReportsStep store epoch op p) ReportTrack.empty ws) :
    (∀ us, us <+: ws → (us.foldl (ReportTrack.step store epoch op p) ReportTrack.empty).ShowsLatest epoch op p) ↔
      Runs.AllSteps (ReportTrack.step store epoch op p) (NoReturnStep epoch op p) ReportTrack.empty ws :=
  Runs.always_iff_allSteps (P := ReportTrackInv epoch op p) _ (fun _ _ hok inv => reportTrack_step hp inv hok)
    (fun _ _ hok inv hshows => showsLatest_step hp inv hok hshows) h reportTrack_empty rfl

end

/-! ## Runs of one tool call -/

def titledEvent (title : String) : RuntimeEvent where
  eventType := "runtime.action"
  kind := "command"
  phase := "updated"
  payload := .obj [("title", .str title), ("toolCallId", .str "t")]
  preview := .obj []
  sourceEventKey := none
  outputUpdate := none
  outputTruncated := none

def titledRun (titles : List String) : List Write :=
  titles.mapIdx (fun i title => .event 1 ("e" ++ toString i) i (titledEvent title))

theorem reports_titled {existing : Option (EvidenceRow × Operation)} {title : String}
    (h : existing.isSome = true → incomingIsStart (titledEvent title) = false ∧ terminalConflict existing (titledEvent title) = false) :
    Reports smallStore ["title"] existing (titledEvent title) where
  sorted := by
    have hlt : "title" < "toolCallId" := by decide
    refine ⟨?_, trivial, trivial, trivial⟩
    rw [List.pairwise_pair]
    exact hlt
  leads := ⟨rfl, rfl⟩
  fits := ⟨.inr (Nat.zero_le _), .inr (.inr (Nat.zero_le _))⟩
  later := h

theorem latest_report_wins_titles :
    FieldPath ["title"] ∧
      (((titledRun ["Read", "Read a.rs"]).foldl (ReportTrack.step smallStore 1 "t" ["title"]) ReportTrack.empty).ShowsLatest 1 "t"
        ["title"]) := by
  have hp : FieldPath ["title"] := by decide
  refine ⟨hp, (latest_report_wins smallStore 1 "t" ["title"] hp (titledRun ["Read", "Read a.rs"]) ?_).2 ?_ _ List.prefix_rfl⟩
  · refine ⟨fun e he => ?_, fun e he => ?_, trivial⟩
    · obtain rfl := Option.some.inj ((show recordedFor ReportTrack.empty.log 1 "t" (.event 1 "e0" 0 (titledEvent "Read")) =
        some (titledEvent "Read") by decide).symm.trans he)
      exact reports_titled (fun hsome => absurd hsome (by decide))
    · obtain rfl := Option.some.inj ((show recordedFor _ 1 "t" (.event 1 "e1" 1 (titledEvent "Read a.rs")) =
        some (titledEvent "Read a.rs") by decide).symm.trans he)
      exact reports_titled (fun _ => by decide)
  · refine ⟨fun e he => ?_, fun e he => ?_, trivial⟩
    · obtain rfl := Option.some.inj ((show recordedFor ReportTrack.empty.log 1 "t" (.event 1 "e0" 0 (titledEvent "Read")) =
        some (titledEvent "Read") by decide).symm.trans he)
      exact fun hne heq => absurd heq (by decide)
    · obtain rfl := Option.some.inj ((show recordedFor _ 1 "t" (.event 1 "e1" 1 (titledEvent "Read a.rs")) =
        some (titledEvent "Read a.rs") by decide).symm.trans he)
      exact fun hne heq => absurd heq (by decide)

/-- The title changes and changes back, no event starts or ends the call, and the row still shows the title between. -/
theorem returned_report_lost :
    let t := (titledRun ["Read", "Read a.rs", "Read"]).foldl (ReportTrack.step smallStore 1 "t" ["title"]) ReportTrack.empty
    (∀ title ∈ ["Read", "Read a.rs"], incomingIsStart (titledEvent title) = false ∧
        lifecycleTerminalStatus (compactPayload (titledEvent title)) = none) ∧
      t.latest = some (.str "Read") ∧
      (loadLifecycleEvidence t.log 1 "t").map (fun x => shownAt ["title"] x.2) = some (.str "Read a.rs") := by
  decide

end Rovai
