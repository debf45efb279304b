import RovaiCore.JsonFields
import RovaiCore.OperationLifecycle
/-!
# The status a payload reports

A payload reports a status at its root or at its item (`reportedStatus`).
-/
namespace Rovai

open Json (fillMissing difference differenceOrNull)

/-! ## Reading a payload -/

variable (p : Json)

def rootStatus : Json := p.getD "status"

def itemStatus : Json := (p.getD "item").getD "status"

def lifecycleMarker : Json := p.getD "_rovaiLifecycle"

/-- What `normalize_public_payload` builds: an object whose item is an object if there is one, with a status at one
place at most, and no lifecycle marker of its own. -/
structure PublicPayload (p : Json) : Prop where
  sorted : p.Sorted
  object : p.isObj = true
  item : (p.getD "item").isRecord = true
  place : (rootStatus p).isNull = true ∨ (itemStatus p).isNull = true
  unmarked : lifecycleMarker p = .null

structure Readable (p : Json) : Prop where
  sorted : p.Sorted
  record : p.isRecord = true
  item : (p.getD "item").isRecord = true

theorem PublicPayload.readable {p : Json} (h : PublicPayload p) : Readable p :=
  ⟨h.sorted, by simp [Json.isRecord, h.object], h.item⟩

theorem readable_null : Readable .null := ⟨by simp [Json.Sorted], rfl, rfl⟩

theorem reportedStatus_eq : reportedStatus p = (rootStatus p).asStr.or (itemStatus p).asStr := by
  rw [reportedStatus, Json.strField_eq, Json.strAt_eq]
  rfl

theorem lifecycleHasTerminalConflict_eq :
    lifecycleHasTerminalConflict p = ((lifecycleMarker p).getD "terminalConflict").asBool.getD false := by
  unfold lifecycleHasTerminalConflict lifecycleMarker
  rw [← Json.pointer_two]
  cases p.pointer ["_rovaiLifecycle", "terminalConflict"] <;> rfl

theorem lifecycleObservedTerminalStatuses_eq : lifecycleObservedTerminalStatuses p =
    (((lifecycleMarker p).getD "observedStatuses").asArr.getD []).filterMap Json.asStr := by
  unfold lifecycleObservedTerminalStatuses lifecycleMarker
  rw [← Json.pointer_two]
  cases p.pointer ["_rovaiLifecycle", "observedStatuses"] <;> rfl

/-! ## Fills and differences of readable values -/

section

variable {a e : Json}

theorem Readable.fill (ha : Readable a) (he : Readable e) : Readable (fillMissing a e) := by
  refine ⟨Json.sorted_fillMissing ha.sorted he.sorted, Json.isRecord_fillMissing ha.record he.record, ?_⟩
  rw [Json.getD_fillMissing ha.record he.record he.sorted]
  exact Json.isRecord_fillMissing ha.item he.item

theorem rootStatus_fill (ha : Readable a) (he : Readable e) :
    rootStatus (fillMissing a e) = fillMissing (rootStatus a) (rootStatus e) :=
  Json.getD_fillMissing ha.record he.record he.sorted "status"

theorem itemStatus_fill (ha : Readable a) (he : Readable e) :
    itemStatus (fillMissing a e) = fillMissing (itemStatus a) (itemStatus e) := by
  unfold itemStatus
  rw [Json.getD_fillMissing ha.record he.record he.sorted, Json.getD_fillMissing ha.item he.item (Json.sorted_getD he.sorted)]

theorem lifecycleMarker_fill (ha : Readable a) (he : Readable e) :
    lifecycleMarker (fillMissing a e) = fillMissing (lifecycleMarker a) (lifecycleMarker e) :=
  Json.getD_fillMissing ha.record he.record he.sorted "_rovaiLifecycle"

theorem Readable.difference (ha : Readable a) (he : Readable e) : Readable (differenceOrNull a e) := by
  refine ⟨Json.sorted_differenceOrNull ha.sorted, Json.isRecord_differenceOrNull ha.record, ?_⟩
  rw [Json.getD_differenceOrNull ha.record he.record ha.sorted]
  exact Json.isRecord_differenceOrNull ha.item

theorem rootStatus_difference (ha : Readable a) (he : Readable e) :
    rootStatus (differenceOrNull a e) = differenceOrNull (rootStatus a) (rootStatus e) :=
  Json.getD_differenceOrNull ha.record he.record ha.sorted "status"

theorem itemStatus_difference (ha : Readable a) (he : Readable e) :
    itemStatus (differenceOrNull a e) = differenceOrNull (itemStatus a) (itemStatus e) := by
  unfold itemStatus
  rw [Json.getD_differenceOrNull ha.record he.record ha.sorted,
    Json.getD_differenceOrNull ha.item he.item (Json.sorted_getD ha.sorted)]

theorem lifecycleMarker_difference (ha : Readable a) (he : Readable e) :
    lifecycleMarker (differenceOrNull a e) = differenceOrNull (lifecycleMarker a) (lifecycleMarker e) :=
  Json.getD_differenceOrNull ha.record he.record ha.sorted "_rovaiLifecycle"

end

/-! ## Removals keep the statuses -/

/-- A rewriting of payloads that only drops members no status or marker is read from. -/
structure KeepsReads (f : Json → Json) : Prop where
  readable : ∀ {p : Json}, Readable p → Readable (f p)
  root : ∀ p : Json, rootStatus (f p) = rootStatus p
  item : ∀ p : Json, itemStatus (f p) = itemStatus p
  marker : ∀ p : Json, lifecycleMarker (f p) = lifecycleMarker p

theorem keepsReads_removeFields (ks : List String) (h : ks.contains "status" = false) (hitem : ks.contains "item" = false)
    (hmarker : ks.contains "_rovaiLifecycle" = false) : KeepsReads (fun p => p.removeFields ks) where
  readable := fun {p} hp => by
    refine ⟨Json.sorted_removeFields ks hp.sorted, ?_, ?_⟩
    · rw [Json.isRecord_removeFields]
      exact hp.record
    · rw [Json.getD_removeFields, hitem]
      exact hp.item
  root := fun p => by
    unfold rootStatus
    rw [Json.getD_removeFields, h]
    rfl
  item := fun p => by
    unfold itemStatus
    rw [Json.getD_removeFields, hitem]
    rfl
  marker := fun p => by
    unfold lifecycleMarker
    rw [Json.getD_removeFields, hmarker]
    rfl

theorem keepsReads_mapItem (ks : List String) (h : ks.contains "status" = false) :
    KeepsReads (fun p => p.mapField "item" (fun item => item.removeFields ks)) where
  readable := fun {p} hp => by
    refine ⟨Json.sorted_mapField "item" hp.sorted (fun v => Json.sorted_removeFields ks), ?_, ?_⟩
    · rw [Json.isRecord_mapField]
      exact hp.record
    · rw [Json.getD_mapField rfl, if_pos rfl, Json.isRecord_removeFields]
      exact hp.item
  root := fun p => by
    unfold rootStatus
    rw [Json.getD_mapField rfl, if_neg (by decide)]
  item := fun p => by
    unfold itemStatus
    rw [Json.getD_mapField rfl, if_pos rfl, Json.getD_removeFields, h]
    rfl
  marker := fun p => by
    unfold lifecycleMarker
    rw [Json.getD_mapField rfl, if_neg (by decide)]

theorem KeepsReads.comp {f g : Json → Json} (hf : KeepsReads f) (hg : KeepsReads g) : KeepsReads (fun p => g (f p)) where
  readable := fun hp => hg.readable (hf.readable hp)
  root := fun p => (hg.root _).trans (hf.root p)
  item := fun p => (hg.item _).trans (hf.item p)
  marker := fun p => (hg.marker _).trans (hf.marker p)

theorem keepsReads_inputPayload : KeepsReads lifecycleInputPayload :=
  (keepsReads_removeFields inputOmittedFields (by decide) (by decide) (by decide)).comp
    (keepsReads_mapItem inputOmittedItemFields (by decide))

theorem keepsReads_outputAliases : KeepsReads removePersistedOutputAliases :=
  (keepsReads_removeFields outputFields (by decide) (by decide) (by decide)).comp
    (keepsReads_mapItem itemOutputFields (by decide))

theorem publicPayload_compact {e : RuntimeEvent} (h : PublicPayload e.payload) : PublicPayload (compactPayload e) := by
  have hk := keepsReads_removeFields ["resultDigest"] (by decide) (by decide) (by decide)
  have hr := hk.readable h.readable
  refine ⟨hr.sorted, ?_, hr.item, ?_, ?_⟩
  · have := h.object
    unfold compactPayload
    cases hp : e.payload <;> rw [hp] at this <;> cases this
    rfl
  · rw [compactPayload, hk.root, hk.item]
    exact h.place
  · rw [compactPayload, hk.marker]
    exact h.unmarked

/-! ## Laying a status over another -/

/-- The event's status comes to stand at its place: at a start, or where the input has none, only when nothing stands
there; otherwise when it says something beyond the input. -/
def laidOver (start : Bool) (input shown value : Json) : Bool :=
  if start || input.isNull then shown.isNull && !value.isNull else !(differenceOrNull value (fillMissing input value)).isNull

theorem asStr_null_of_isNull {j : Json} (h : j.isNull = true) : j.asStr = none := by
  cases j <;> first | rfl | cases h

theorem isNull_eq_true {j : Json} : j.isNull = true ↔ j = .null := by
  cases j <;> simp [Json.isNull]

theorem asStr_shown_start (result input value : Json) :
    (fillMissing result (fillMissing input value)).asStr =
      if laidOver true input (fillMissing result input) value then value.asStr else (fillMissing result input).asStr := by
  simp only [laidOver, Bool.true_or, if_true, Json.asStr_fillMissing, Json.isNull_fillMissing]
  cases hr : result.isNull with
  | false => simp
  | true =>
    cases hi : input.isNull with
    | false => simp
    | true =>
      cases hv : value.isNull with
      | false => simp
      | true => simp [asStr_null_of_isNull hv, asStr_null_of_isNull hi]

variable {result input value : Json}

theorem asStr_shown_result (h : input.isNull = true → result.isNull = true) :
    (fillMissing (fillMissing (differenceOrNull value (fillMissing input value)) result) (fillMissing input value)).asStr =
      if laidOver false input (fillMissing result input) value then value.asStr else (fillMissing result input).asStr := by
  cases hi : input.isNull with
  | true =>
    rw [isNull_eq_true.1 hi, isNull_eq_true.1 (h hi), Json.fillMissing_null, Json.differenceOrNull_self, Json.fillMissing_null,
      Json.fillMissing_null]
    cases hv : value.isNull with
    | true => simp [laidOver, hv, asStr_null_of_isNull hv]
    | false => simp [laidOver, hv]
  | false =>
    simp only [laidOver, hi, Bool.or_self, Bool.false_eq_true, if_false, Json.asStr_fillMissing, Json.isNull_fillMissing,
      Bool.false_and, Bool.and_false]
    cases hd : (differenceOrNull value (fillMissing input value)).isNull with
    | true => simp
    | false =>
      have hne : value ≠ fillMissing input value := fun heq => by
        rw [← heq, Json.differenceOrNull_self] at hd
        cases hd
      simp [Json.asStr_differenceOrNull, hne]

theorem isNull_result_start (h : input.isNull = true → result.isNull = true)
    (hi : (fillMissing input value).isNull = true) : result.isNull = true := by
  rw [Json.isNull_fillMissing, Bool.and_eq_true] at hi
  exact h hi.1

theorem isNull_result_result (h : input.isNull = true → result.isNull = true)
    (hi : (fillMissing input value).isNull = true) :
    (fillMissing (differenceOrNull value (fillMissing input value)) result).isNull = true := by
  rw [Json.isNull_fillMissing, Bool.and_eq_true] at hi
  rw [isNull_eq_true.1 hi.2, Json.differenceOrNull_null, Json.fillMissing_null]
  exact h hi.1

/-! ## What one event leaves -/

section

variable {input result p : Json}

def inputAfter (input p : Json) : Json := fillMissing input (lifecycleInputPayload p)

theorem readable_inputAfter (hi : Readable input) (hp : Readable p) : Readable (inputAfter input p) :=
  hi.fill (keepsReads_inputPayload.readable hp)

theorem rootStatus_inputAfter (hi : Readable input) (hp : Readable p) :
    rootStatus (inputAfter input p) = fillMissing (rootStatus input) (rootStatus p) := by
  rw [inputAfter, rootStatus_fill hi (keepsReads_inputPayload.readable hp), keepsReads_inputPayload.root]

theorem itemStatus_inputAfter (hi : Readable input) (hp : Readable p) :
    itemStatus (inputAfter input p) = fillMissing (itemStatus input) (itemStatus p) := by
  rw [inputAfter, itemStatus_fill hi (keepsReads_inputPayload.readable hp), keepsReads_inputPayload.item]

theorem lifecycleMarker_inputAfter (hi : Readable input) (hp : PublicPayload p) (h : lifecycleMarker input = .null) :
    lifecycleMarker (inputAfter input p) = .null := by
  rw [inputAfter, lifecycleMarker_fill hi (keepsReads_inputPayload.readable hp.readable), keepsReads_inputPayload.marker, h,
    hp.unmarked, Json.fillMissing_null]

def resultOf (input p : Json) : Json := (difference p (inputAfter input p)).getD resultObservedMarker

structure PlainMarker (m : Json) : Prop where
  record : m.isRecord = true
  sorted : m.Sorted
  conflict : m.getD "terminalConflict" = .null
  statuses : m.getD "observedStatuses" = .null

theorem resultOf_cases (input p : Json) : resultOf input p = differenceOrNull p (inputAfter input p) ∨
    (differenceOrNull p (inputAfter input p) = .null ∧ resultOf input p = resultObservedMarker) := by
  unfold resultOf differenceOrNull
  cases difference p (inputAfter input p) with
  | none => exact .inr ⟨rfl, rfl⟩
  | some d => exact .inl rfl

theorem readable_resultObservedMarker : Readable resultObservedMarker := by
  refine ⟨?_, rfl, rfl⟩
  simp [resultObservedMarker, Json.Sorted, Json.SortedFields]

theorem readable_resultOf (hi : Readable input) (hp : Readable p) : Readable (resultOf input p) := by
  rcases resultOf_cases input p with h | ⟨-, h⟩
  · rw [h]
    exact hp.difference (readable_inputAfter hi hp)
  · rw [h]
    exact readable_resultObservedMarker

theorem rootStatus_resultOf (hi : Readable input) (hp : Readable p) :
    rootStatus (resultOf input p) = differenceOrNull (rootStatus p) (fillMissing (rootStatus input) (rootStatus p)) := by
  have hd := rootStatus_difference hp (readable_inputAfter hi hp)
  rw [rootStatus_inputAfter hi hp] at hd
  rcases resultOf_cases input p with h | ⟨hnull, h⟩
  · rw [h, hd]
  rw [h, ← hd, hnull]
  rfl

theorem itemStatus_resultOf (hi : Readable input) (hp : Readable p) :
    itemStatus (resultOf input p) = differenceOrNull (itemStatus p) (fillMissing (itemStatus input) (itemStatus p)) := by
  have hd := itemStatus_difference hp (readable_inputAfter hi hp)
  rw [itemStatus_inputAfter hi hp] at hd
  rcases resultOf_cases input p with h | ⟨hnull, h⟩
  · rw [h, hd]
  rw [h, ← hd, hnull]
  rfl

theorem plainMarker_resultOf (hi : Readable input) (hp : PublicPayload p) : PlainMarker (lifecycleMarker (resultOf input p)) := by
  rcases resultOf_cases input p with h | ⟨-, h⟩
  · rw [h, lifecycleMarker_difference hp.readable (readable_inputAfter hi hp.readable), hp.unmarked, Json.differenceOrNull_null]
    exact ⟨rfl, by simp [Json.Sorted], rfl, rfl⟩
  · rw [h]
    have hm : lifecycleMarker resultObservedMarker = .obj [("resultObserved", .bool true)] := rfl
    rw [hm]
    exact ⟨rfl, by simp [Json.Sorted, Json.SortedFields], rfl, rfl⟩

end

end Rovai
