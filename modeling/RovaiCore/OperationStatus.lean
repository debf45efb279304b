import RovaiCore.PayloadStatus
/-!
# What status an operation shows

`StatusInv` is what the row of an operation keeps about the terminal statuses seen so far: without a conflict marker all of them
are the one it shows.
-/
namespace Rovai

open Json (fillMissing difference differenceOrNull)
open List

/-! ## The statuses seen so far -/

/-- What an operation's row keeps about the terminal statuses seen so far. -/
structure StatusInv (input : Json) (result : Option Json) (seen : List String) : Prop where
  readableInput : Readable input
  readableResult : Readable (result.getD .null)
  inputMarker : lifecycleMarker input = .null
  resultMarker : (lifecycleMarker (result.getD .null)).isRecord = true ∧ (lifecycleMarker (result.getD .null)).Sorted
  marked : lifecycleHasTerminalConflict (combineLifecycleValues input result) = true →
    rootStatus (result.getD .null) = .str "unsettled" ∧
      ∀ t ∈ seen, t ∈ lifecycleObservedTerminalStatuses (combineLifecycleValues input result)
  shown : lifecycleHasTerminalConflict (combineLifecycleValues input result) = false →
    (∀ t ∈ seen, lifecycleTerminalStatus (combineLifecycleValues input result) = some t) ∧
      ((rootStatus input).isNull = true → (rootStatus (result.getD .null)).isNull = true) ∧
      ((itemStatus input).isNull = true → (itemStatus (result.getD .null)).isNull = true)

def KeepsStatus (input : Json) (result : Option Json) (e : RuntimeEvent) : Prop :=
  let shown := combineLifecycleValues input result
  let p := compactPayload e
  let start := incomingIsStart e
  if lifecycleHasTerminalConflict shown then
    start = true → ∀ t, lifecycleTerminalStatus p = some t → t ∈ lifecycleObservedTerminalStatuses shown
  else match lifecycleTerminalStatus shown, lifecycleTerminalStatus p with
    | none, none => True
    | some _, none =>
      (laidOver start (rootStatus input) (rootStatus shown) (rootStatus p) = false ∨
        ((rootStatus p).asStr = none ∧ (rootStatus shown).asStr = none)) ∧
      (laidOver start (itemStatus input) (itemStatus shown) (itemStatus p) = false ∨ (rootStatus shown).asStr ≠ none)
    | none, some _ =>
      ((rootStatus p).isNull = false → laidOver start (rootStatus input) (rootStatus shown) (rootStatus p) = true) ∧
      ((itemStatus p).isNull = false →
        laidOver start (itemStatus input) (itemStatus shown) (itemStatus p) = true ∧ (rootStatus shown).asStr = none)
    | some old, some new => old = new ∨ (start = false ∧ result.isSome = true)

section

variable {input : Json} {result : Option Json} {seen : List String} {p : Json}

theorem readable_combined (inv : StatusInv input result seen) : Readable (combineLifecycleValues input result) :=
  inv.readableResult.fill inv.readableInput

theorem lifecycleMarker_combined {r : Json} (hi : Readable input) (hm : lifecycleMarker input = .null) (hr : Readable r) :
    lifecycleMarker (fillMissing r input) = lifecycleMarker r := by
  rw [lifecycleMarker_fill hr hi, hm, Json.fillMissing_null_right]

/-- The status an event leaves at both places, from what stood there and what was laid over. -/
def reportedAfter (start : Bool) (input shown p : Json) : Option String :=
  (if laidOver start (rootStatus input) (rootStatus shown) (rootStatus p) then (rootStatus p).asStr
    else (rootStatus shown).asStr).or
  (if laidOver start (itemStatus input) (itemStatus shown) (itemStatus p) then (itemStatus p).asStr
    else (itemStatus shown).asStr)

theorem reportedStatus_start (inv : StatusInv input result seen) (hp : Readable p) :
    reportedStatus (combineLifecycleValues (inputAfter input p) result) =
      reportedAfter true input (combineLifecycleValues input result) p := by
  have hi := readable_inputAfter inv.readableInput hp
  rw [reportedStatus_eq, combineLifecycleValues, rootStatus_fill inv.readableResult hi, itemStatus_fill inv.readableResult hi,
    rootStatus_inputAfter inv.readableInput hp, itemStatus_inputAfter inv.readableInput hp, asStr_shown_start, asStr_shown_start,
    reportedAfter, combineLifecycleValues, rootStatus_fill inv.readableResult inv.readableInput, itemStatus_fill inv.readableResult inv.readableInput]

theorem reportedStatus_result (inv : StatusInv input result seen) (hp : Readable p)
    (hfree : lifecycleHasTerminalConflict (combineLifecycleValues input result) = false) {f : Json → Json} (hf : KeepsReads f) :
    reportedStatus (combineLifecycleValues (inputAfter input p)
      (some (fillMissing (resultOf input p) (f (result.getD .null))))) =
      reportedAfter false input (combineLifecycleValues input result) p := by
  obtain ⟨-, hroot, hitem⟩ := inv.shown hfree
  have hi := readable_inputAfter inv.readableInput hp
  have hr := readable_resultOf inv.readableInput hp
  have ho := hf.readable inv.readableResult
  have hro := hr.fill ho
  rw [reportedStatus_eq, combineLifecycleValues, Option.getD_some, rootStatus_fill hro hi, itemStatus_fill hro hi,
    rootStatus_fill hr ho, itemStatus_fill hr ho, hf.root, hf.item, rootStatus_resultOf inv.readableInput hp,
    itemStatus_resultOf inv.readableInput hp, rootStatus_inputAfter inv.readableInput hp, itemStatus_inputAfter inv.readableInput hp,
    asStr_shown_result hroot, asStr_shown_result hitem, reportedAfter, combineLifecycleValues,
    rootStatus_fill inv.readableResult inv.readableInput, itemStatus_fill inv.readableResult inv.readableInput]

theorem laidOver_null {start : Bool} {i shown v : Json} (hv : v.isNull = true) : laidOver start i shown v = false := by
  unfold laidOver
  rw [isNull_eq_true.1 hv]
  split
  · simp
  · simp [Json.differenceOrNull_null]

theorem lifecycleTerminalStatus_eq (q : Json) : lifecycleTerminalStatus q =
    ((rootStatus q).asStr.or (itemStatus q).asStr).filter (fun s => terminalStatuses.contains s) := by
  rw [lifecycleTerminalStatus, reportedStatus_eq]

/-- **An event that keeps the statuses leaves every terminal status on display**: the one shown and its own. -/
theorem terminal_reportedAfter {e : RuntimeEvent} (hplace : (rootStatus (compactPayload e)).isNull = true ∨
      (itemStatus (compactPayload e)).isNull = true) (hk : KeepsStatus input result e)
    (hfree : lifecycleHasTerminalConflict (combineLifecycleValues input result) = false)
    (hsame : ∀ old new, lifecycleTerminalStatus (combineLifecycleValues input result) = some old →
      lifecycleTerminalStatus (compactPayload e) = some new → old = new) {t : String}
    (ht : lifecycleTerminalStatus (combineLifecycleValues input result) = some t ∨
      lifecycleTerminalStatus (compactPayload e) = some t) :
    (reportedAfter (incomingIsStart e) input (combineLifecycleValues input result) (compactPayload e)).filter
      (fun s => terminalStatuses.contains s) = some t := by
  simp only [KeepsStatus, hfree, Bool.false_eq_true, if_false] at hk
  generalize combineLifecycleValues input result = shown at *
  generalize compactPayload e = p at *
  have hnullR : (rootStatus p).isNull = true → (rootStatus p).asStr = none := asStr_null_of_isNull
  have hnullI : (itemStatus p).isNull = true → (itemStatus p).asStr = none := asStr_null_of_isNull
  unfold reportedAfter
  cases hs : lifecycleTerminalStatus shown with
  | some old =>
    have hshown : ((rootStatus shown).asStr.or (itemStatus shown).asStr).filter (fun s => terminalStatuses.contains s) =
        some old := by rw [← lifecycleTerminalStatus_eq, hs]
    cases hn : lifecycleTerminalStatus p with
    | some new =>
      have heq := hsame old new hs hn
      subst heq
      have htt : t = old := by
        rcases ht with h | h
        · exact (Option.mem_unique hs h).symm
        · exact (Option.mem_unique hn h).symm
      subst htt
      have hown : ((rootStatus p).asStr.or (itemStatus p).asStr).filter (fun s => terminalStatuses.contains s) = some t := by
        rw [← lifecycleTerminalStatus_eq, hn]
      rcases hplace with hr | hi
      · rw [laidOver_null hr]
        rw [hnullR hr, Option.none_or] at hown
        cases hsr : (rootStatus shown).asStr with
        | some x => rw [hsr, Option.some_or] at hshown; simpa using hshown
        | none =>
          rw [hsr, Option.none_or] at hshown
          simp only [Bool.false_eq_true, if_false, Option.none_or]
          split
          · exact hown
          · exact hshown
      · rw [laidOver_null hi]
        rw [hnullI hi, Option.or_none] at hown
        simp only [Bool.false_eq_true, if_false]
        split
        · cases hv : (rootStatus p).asStr with
          | none => rw [hv] at hown; cases hown
          | some x => rw [hv] at hown; simpa using hown
        · exact hshown
    | none =>
      rw [hs, hn] at hk
      obtain ⟨hroot, hitem⟩ := hk
      have htt : t = old := by
        rcases ht with h | h
        · exact (Option.mem_unique hs h).symm
        · rw [hn] at h; cases h
      subst htt
      have hrootpart : (if laidOver (incomingIsStart e) (rootStatus input) (rootStatus shown) (rootStatus p) then
          (rootStatus p).asStr else (rootStatus shown).asStr) = (rootStatus shown).asStr := by
        rcases hroot with h | ⟨h1, h2⟩
        · rw [h]; rfl
        · rw [h1, h2]; simp
      rw [hrootpart]
      cases hsr : (rootStatus shown).asStr with
      | some x => rw [hsr, Option.some_or] at hshown; simpa using hshown
      | none =>
        rw [hsr, Option.none_or] at hshown
        have hlaid := hitem.resolve_right (fun h => h hsr)
        rw [hlaid, Option.none_or]
        exact hshown
  | none =>
    have hn : lifecycleTerminalStatus p = some t := ht.resolve_left (by rw [hs]; simp)
    rw [hs, hn] at hk
    obtain ⟨hroot, hitem⟩ := hk
    have hown : ((rootStatus p).asStr.or (itemStatus p).asStr).filter (fun s => terminalStatuses.contains s) = some t := by
      rw [← lifecycleTerminalStatus_eq, hn]
    rcases hplace with hr | hi
    · rw [hnullR hr, Option.none_or] at hown
      have hni : (itemStatus p).isNull = false := by
        rw [← Bool.not_eq_true]
        intro h
        rw [hnullI h] at hown
        cases hown
      obtain ⟨hlaid, hsr⟩ := hitem hni
      rw [laidOver_null hr, hlaid, hsr]
      exact hown
    · rw [hnullI hi, Option.or_none] at hown
      have hnr : (rootStatus p).isNull = false := by
        rw [← Bool.not_eq_true]
        intro h
        rw [hnullR h] at hown
        cases hown
      rw [hroot hnr]
      cases hv : (rootStatus p).asStr with
      | none => rw [hv] at hown; cases hown
      | some x => rw [hv] at hown; simpa using hown

end

/-! ## One more event -/

def inputValue (existing : Option (EvidenceRow × Operation)) : Json := (existing.map (fun x => x.2.input.value)).getD .null

def resultValue (existing : Option (EvidenceRow × Operation)) : Option Json := (existing.bind (fun x => x.2.result)).map (·.value)

section

variable {existing : Option (EvidenceRow × Operation)} {e : RuntimeEvent} {seen : List String}

theorem incomingResult_eq (existing : Option (EvidenceRow × Operation)) (e : RuntimeEvent) :
    incomingResult existing e = resultOf (inputValue existing) (compactPayload e) := rfl

theorem keepsReads_withResultDigest {p : Json} (hp : p.isRecord = true) (digest : Option String) :
    rootStatus (withResultDigest p digest) = rootStatus p ∧ itemStatus (withResultDigest p digest) = itemStatus p ∧
      lifecycleMarker (withResultDigest p digest) = lifecycleMarker p := by
  cases digest with
  | none => exact ⟨rfl, rfl, rfl⟩
  | some d =>
    simp only [withResultDigest, rootStatus, itemStatus, lifecycleMarker, Json.getD_setField hp]
    exact ⟨rfl, rfl, rfl⟩

theorem existingPayload_reads (inv : StatusInv (inputValue existing) (resultValue existing) seen) :
    lifecycleTerminalStatus (existingPayload existing) =
        lifecycleTerminalStatus (combineLifecycleValues (inputValue existing) (resultValue existing)) ∧
      lifecycleHasTerminalConflict (existingPayload existing) =
        lifecycleHasTerminalConflict (combineLifecycleValues (inputValue existing) (resultValue existing)) ∧
      lifecycleObservedTerminalStatuses (existingPayload existing) =
        lifecycleObservedTerminalStatuses (combineLifecycleValues (inputValue existing) (resultValue existing)) := by
  cases existing with
  | none => exact ⟨rfl, rfl, rfl⟩
  | some x =>
    obtain ⟨h1, h2, h3⟩ := keepsReads_withResultDigest (readable_combined inv).record x.2.resultDigest
    have hpay : existingPayload (some x) =
        withResultDigest (combineLifecycleValues (inputValue (some x)) (resultValue (some x))) x.2.resultDigest := rfl
    rw [hpay, lifecycleTerminalStatus_eq, lifecycleTerminalStatus_eq, lifecycleHasTerminalConflict_eq,
      lifecycleHasTerminalConflict_eq, lifecycleObservedTerminalStatuses_eq, lifecycleObservedTerminalStatuses_eq, h1, h2, h3]
    exact ⟨rfl, rfl, rfl⟩

theorem terminalConflict_eq_true (inv : StatusInv (inputValue existing) (resultValue existing) seen) :
    terminalConflict existing e = true ↔
      lifecycleHasTerminalConflict (combineLifecycleValues (inputValue existing) (resultValue existing)) = true ∨
        ∃ old new, lifecycleTerminalStatus (combineLifecycleValues (inputValue existing) (resultValue existing)) = some old ∧
          lifecycleTerminalStatus (compactPayload e) = some new ∧ old ≠ new := by
  obtain ⟨h1, h2, -⟩ := existingPayload_reads inv
  cases existing with
  | none =>
    refine ⟨nofun, ?_⟩
    rintro (h | ⟨old, new, h, -⟩) <;> cases h
  | some x =>
    have hpay : existingPayload (some x) = x.2.combined := rfl
    rw [hpay] at h1 h2
    rw [terminalConflict, h1, h2, Bool.or_eq_true]
    refine or_congr_right ?_
    cases lifecycleTerminalStatus (combineLifecycleValues (inputValue (some x)) (resultValue (some x))) with
    | none => simp
    | some old => cases lifecycleTerminalStatus (compactPayload e) <;> simp

theorem marker_fill_plain {r d : Json} (hr : Readable r) (hd : Readable d) (hplain : PlainMarker (lifecycleMarker d))
    (hm : (lifecycleMarker r).isRecord = true ∧ (lifecycleMarker r).Sorted) :
    (lifecycleMarker (fillMissing d r)).getD "terminalConflict" = (lifecycleMarker r).getD "terminalConflict" ∧
      (lifecycleMarker (fillMissing d r)).isRecord = true ∧ (lifecycleMarker (fillMissing d r)).Sorted := by
  rw [lifecycleMarker_fill hd hr, Json.getD_fillMissing hplain.record hm.1 hm.2, hplain.conflict, Json.fillMissing_null]
  exact ⟨rfl, Json.isRecord_fillMissing hplain.record hm.1, Json.sorted_fillMissing hplain.sorted hm.2⟩

theorem observed_fill_plain {r d : Json} (hr : Readable r) (hd : Readable d) (hplain : PlainMarker (lifecycleMarker d))
    (hm : (lifecycleMarker r).isRecord = true) :
    lifecycleObservedTerminalStatuses (fillMissing r d) = lifecycleObservedTerminalStatuses r := by
  rw [lifecycleObservedTerminalStatuses_eq, lifecycleObservedTerminalStatuses_eq, lifecycleMarker_fill hr hd,
    Json.getD_fillMissing hm hplain.record hplain.sorted, hplain.statuses, Json.fillMissing_null_right]

theorem conflict_combined {input r : Json} (hi : Readable input) (hm : lifecycleMarker input = .null) (hr : Readable r) :
    lifecycleHasTerminalConflict (fillMissing r input) = lifecycleHasTerminalConflict r ∧
      lifecycleObservedTerminalStatuses (fillMissing r input) = lifecycleObservedTerminalStatuses r := by
  rw [lifecycleHasTerminalConflict_eq, lifecycleHasTerminalConflict_eq, lifecycleObservedTerminalStatuses_eq,
    lifecycleObservedTerminalStatuses_eq, lifecycleMarker_combined hi hm hr]
  exact ⟨rfl, rfl⟩

/-! ### The conflict arm -/

theorem mem_addStatuses : ∀ (new statuses : List String) {t : String},
    t ∈ addStatuses statuses new ↔ t ∈ statuses ∨ t ∈ new
  | [], statuses, t => by simp [addStatuses]
  | s :: new, statuses, t => by
    have ih := mem_addStatuses new (if statuses.contains s then statuses else statuses ++ [s]) (t := t)
    simp only [addStatuses, foldl_cons] at ih ⊢
    rw [ih]
    split
    · rename_i hs
      rw [contains_iff_mem] at hs
      simp only [mem_cons]
      constructor
      · rintro (h | h)
        · exact .inl h
        · exact .inr (.inr h)
      · rintro (h | rfl | h)
        · exact .inl h
        · exact .inl hs
        · exact .inr h
    · simp [or_assoc]

theorem conflictMarker_reads (statuses : List String) :
    (conflictMarker statuses).isRecord = true ∧ (conflictMarker statuses).Sorted ∧
      ((conflictMarker statuses).getD "terminalConflict").asBool.getD false = true ∧
      ((((conflictMarker statuses).getD "observedStatuses").asArr.getD []).filterMap Json.asStr) = statuses := by
  have hitems : ∀ l : List String, Json.SortedItems (l.map Json.str) := by
    intro l
    induction l with
    | nil => simp [Json.SortedItems]
    | cons s l ih => simpa [Json.SortedItems, Json.Sorted] using ih
  refine ⟨rfl, ?_, rfl, ?_⟩
  · simp only [conflictMarker, Json.Sorted, Json.SortedFields, hitems, and_true, pairwise_cons, mem_singleton,
      forall_eq, not_mem_nil, false_implies, implies_true, List.Pairwise.nil]
    decide
  · have harr : (((conflictMarker statuses).getD "observedStatuses").asArr.getD []) = statuses.map Json.str := rfl
    rw [harr, filterMap_map]
    exact filterMap_some

theorem conflictResult_reads {old d : Json} (ho : Readable old) (hd : Readable d) (t₁ t₂ : Option String) :
    Readable (conflictResult old d t₁ t₂) ∧ rootStatus (conflictResult old d t₁ t₂) = .str "unsettled" ∧
      lifecycleMarker (conflictResult old d t₁ t₂) = conflictMarker
        (addStatuses (lifecycleObservedTerminalStatuses (fillMissing old d)) (t₁.toList ++ t₂.toList)) := by
  have hf := ho.fill hd
  have hs := Json.isRecord_setField hf.record "status" (.str "unsettled")
  simp only [conflictResult]
  generalize addStatuses (lifecycleObservedTerminalStatuses (fillMissing old d)) (t₁.toList ++ t₂.toList) = statuses
  obtain ⟨hrec, hsorted, -, -⟩ := conflictMarker_reads statuses
  refine ⟨⟨?_, Json.isRecord_setField hs _ _, ?_⟩, ?_, ?_⟩
  · exact Json.sorted_setField (Json.sorted_setField hf.sorted (by simp [Json.Sorted]) _) hsorted _
  · rw [Json.getD_setField hs, if_neg (by decide), Json.getD_setField hf.record, if_neg (by decide)]
    exact hf.item
  · rw [rootStatus, Json.getD_setField hs, if_neg (by decide), Json.getD_setField hf.record, if_pos rfl]
  · rw [lifecycleMarker, Json.getD_setField hs, if_pos rfl]

/-! ### The step -/

variable {result : Option Json} {input : Json}

theorem result_of_conflict (inv : StatusInv input result seen)
    (h : lifecycleHasTerminalConflict (combineLifecycleValues input result) = true) : ∃ old, result = some old := by
  cases result with
  | some old => exact ⟨old, rfl⟩
  | none =>
    rw [combineLifecycleValues, (conflict_combined inv.readableInput inv.inputMarker inv.readableResult).1] at h
    cases h

theorem statusInv_none : StatusInv .null none [] := by
  refine ⟨readable_null, readable_null, rfl, ⟨rfl, by simp [lifecycleMarker, Json.Sorted]⟩, fun h => ?_, fun _ => ?_⟩
  · cases h
  · exact ⟨fun t ht => (nomatch ht), fun _ => rfl, fun _ => rfl⟩

theorem statusInv_shown {input r' : Json} (inv : StatusInv input result seen) {start : Bool}
    (hstart : incomingIsStart e = start) (hp : PublicPayload e.payload) (hk : KeepsStatus input result e)
    (hfree : lifecycleHasTerminalConflict (combineLifecycleValues input result) = false)
    (hsame : ∀ old new, lifecycleTerminalStatus (combineLifecycleValues input result) = some old →
      lifecycleTerminalStatus (compactPayload e) = some new → old = new)
    (hreported : reportedStatus r' = reportedAfter start input (combineLifecycleValues input result) (compactPayload e)) :
    ∀ t ∈ seen ++ (lifecycleTerminalStatus (compactPayload e)).toList, lifecycleTerminalStatus r' = some t := by
  intro t ht
  rw [lifecycleTerminalStatus, hreported, ← hstart]
  refine terminal_reportedAfter (publicPayload_compact hp).place hk hfree hsame ?_
  rcases mem_append.1 ht with h | h
  · exact .inl ((inv.shown hfree).1 t h)
  · exact .inr (Option.mem_toList.1 h)

theorem statusInv_start (inv : StatusInv input result seen)
    (hstart : incomingIsStart e = true) (hp : PublicPayload e.payload) (hk : KeepsStatus input result e) :
    StatusInv (inputAfter input (compactPayload e)) result
      (seen ++ (lifecycleTerminalStatus (compactPayload e)).toList) := by
  have hc := publicPayload_compact hp
  have hi := readable_inputAfter inv.readableInput hc.readable
  have him := lifecycleMarker_inputAfter inv.readableInput hc inv.inputMarker
  obtain ⟨hconf, hobs⟩ := conflict_combined inv.readableInput inv.inputMarker inv.readableResult
  obtain ⟨hconf', hobs'⟩ := conflict_combined hi him inv.readableResult
  refine ⟨hi, inv.readableResult, him, inv.resultMarker, fun h => ?_, fun h => ?_⟩
  · have hmarked : lifecycleHasTerminalConflict (combineLifecycleValues input result) = true := by
      rw [combineLifecycleValues, hconf, ← hconf']
      exact h
    obtain ⟨hroot, hseen⟩ := inv.marked hmarked
    refine ⟨hroot, fun t ht => ?_⟩
    rw [combineLifecycleValues, hobs', ← hobs]
    rcases mem_append.1 ht with ht | ht
    · exact hseen t ht
    simp only [KeepsStatus, hmarked, if_true] at hk
    exact hk hstart t (Option.mem_toList.1 ht)
  · have hfree : lifecycleHasTerminalConflict (combineLifecycleValues input result) = false := by
      rw [combineLifecycleValues, hconf, ← hconf']
      exact h
    obtain ⟨-, hrn, hin⟩ := inv.shown hfree
    refine ⟨?_, fun hn => ?_, fun hn => ?_⟩
    · refine statusInv_shown inv hstart hp hk hfree (fun old new ho hn => ?_) (reportedStatus_start inv hc.readable)
      simp only [KeepsStatus, hfree, Bool.false_eq_true, if_false, ho, hn, hstart] at hk
      exact hk.resolve_right (fun h => by cases h.1)
    · rw [rootStatus_inputAfter inv.readableInput hc.readable] at hn
      exact isNull_result_start hrn hn
    · rw [itemStatus_inputAfter inv.readableInput hc.readable] at hn
      exact isNull_result_start hin hn

theorem conflict_result (inv : StatusInv input result seen) {p : Json}
    (hc : PublicPayload p) (hfree : lifecycleHasTerminalConflict (combineLifecycleValues input result) = false)
    {f : Json → Json} (hf : KeepsReads f) :
    lifecycleHasTerminalConflict (fillMissing (resultOf input p) (f (result.getD .null))) = false := by
  have hmf : (lifecycleMarker (f (result.getD .null))).isRecord = true ∧ (lifecycleMarker (f (result.getD .null))).Sorted := by
    rw [hf.marker]
    exact inv.resultMarker
  obtain ⟨htc, -⟩ := marker_fill_plain (hf.readable inv.readableResult) (readable_resultOf inv.readableInput hc.readable)
    (plainMarker_resultOf inv.readableInput hc) hmf
  rw [lifecycleHasTerminalConflict_eq, htc, hf.marker, ← lifecycleHasTerminalConflict_eq,
    ← (conflict_combined inv.readableInput inv.inputMarker inv.readableResult).1]
  exact hfree

theorem statusInv_result (inv : StatusInv input result seen)
    (hstart : incomingIsStart e = false) (hp : PublicPayload e.payload) (hk : KeepsStatus input result e)
    (hfree : lifecycleHasTerminalConflict (combineLifecycleValues input result) = false)
    (hsame : ∀ old new, lifecycleTerminalStatus (combineLifecycleValues input result) = some old →
      lifecycleTerminalStatus (compactPayload e) = some new → old = new) {f : Json → Json} (hf : KeepsReads f) :
    StatusInv (inputAfter input (compactPayload e))
      (some (fillMissing (resultOf input (compactPayload e)) (f (result.getD .null))))
      (seen ++ (lifecycleTerminalStatus (compactPayload e)).toList) := by
  have hc := publicPayload_compact hp
  have hi := readable_inputAfter inv.readableInput hc.readable
  have him := lifecycleMarker_inputAfter inv.readableInput hc inv.inputMarker
  have hr := readable_resultOf inv.readableInput hc.readable
  have ho := hf.readable inv.readableResult
  have hmf : (lifecycleMarker (f (result.getD .null))).isRecord = true ∧ (lifecycleMarker (f (result.getD .null))).Sorted := by
    rw [hf.marker]
    exact inv.resultMarker
  obtain ⟨-, hrec, hsorted⟩ := marker_fill_plain ho hr (plainMarker_resultOf inv.readableInput hc) hmf
  obtain ⟨-, hrn, hin⟩ := inv.shown hfree
  refine ⟨hi, hr.fill ho, him, ⟨hrec, hsorted⟩, fun h => ?_, fun _ => ⟨?_, fun hn => ?_, fun hn => ?_⟩⟩
  · rw [combineLifecycleValues, Option.getD_some, (conflict_combined hi him (hr.fill ho)).1, conflict_result inv hc hfree hf] at h
    cases h
  · exact statusInv_shown inv hstart hp hk hfree hsame (reportedStatus_result inv hc.readable hfree hf)
  · rw [rootStatus_inputAfter inv.readableInput hc.readable] at hn
    rw [Option.getD_some, rootStatus_fill hr ho, hf.root, rootStatus_resultOf inv.readableInput hc.readable]
    exact isNull_result_result hrn hn
  · rw [itemStatus_inputAfter inv.readableInput hc.readable] at hn
    rw [Option.getD_some, itemStatus_fill hr ho, hf.item, itemStatus_resultOf inv.readableInput hc.readable]
    exact isNull_result_result hin hn

theorem statusInv_conflict {input old : Json} (inv : StatusInv input (some old) seen) (hp : PublicPayload e.payload) :
    StatusInv (inputAfter input (compactPayload e))
      (some (conflictResult old (resultOf input (compactPayload e))
        (lifecycleTerminalStatus (combineLifecycleValues input (some old))) (lifecycleTerminalStatus (compactPayload e))))
      (seen ++ (lifecycleTerminalStatus (compactPayload e)).toList) := by
  have hc := publicPayload_compact hp
  have hi := readable_inputAfter inv.readableInput hc.readable
  have him := lifecycleMarker_inputAfter inv.readableInput hc inv.inputMarker
  have hr := readable_resultOf inv.readableInput hc.readable
  have hplain := plainMarker_resultOf inv.readableInput hc
  have ho : Readable old := inv.readableResult
  obtain ⟨hread, hroot, hmark⟩ := conflictResult_reads ho hr
    (lifecycleTerminalStatus (combineLifecycleValues input (some old))) (lifecycleTerminalStatus (compactPayload e))
  rw [observed_fill_plain ho hr hplain inv.resultMarker.1] at hmark
  obtain ⟨hmr, hms, htc, hstatuses⟩ := conflictMarker_reads (addStatuses (lifecycleObservedTerminalStatuses old)
    ((lifecycleTerminalStatus (combineLifecycleValues input (some old))).toList ++
      (lifecycleTerminalStatus (compactPayload e)).toList))
  obtain ⟨hconf', hobs'⟩ := conflict_combined hi him hread
  refine ⟨hi, hread, him, by rw [Option.getD_some, hmark]; exact ⟨hmr, hms⟩, fun _ => ⟨hroot, fun t ht => ?_⟩, fun h => ?_⟩
  · rw [combineLifecycleValues, Option.getD_some, hobs', lifecycleObservedTerminalStatuses_eq, hmark, hstatuses, mem_addStatuses]
    rcases mem_append.1 ht with ht | ht
    · cases hm : lifecycleHasTerminalConflict (combineLifecycleValues input (some old)) with
      | true =>
        have := (inv.marked hm).2 t ht
        rw [combineLifecycleValues, (conflict_combined inv.readableInput inv.inputMarker inv.readableResult).2] at this
        exact .inl this
      | false =>
        rw [(inv.shown hm).1 t ht]
        exact .inr (mem_append_left _ (by simp))
    · exact .inr (mem_append_right _ ht)
  · rw [combineLifecycleValues, Option.getD_some, hconf', lifecycleHasTerminalConflict_eq, hmark, htc] at h
    cases h

theorem keepsReads_id : KeepsReads (fun p => p) := ⟨fun h => h, fun _ => rfl, fun _ => rfl, fun _ => rfl⟩

def keptResult (u : Option OutputUpdate) : Json → Json :=
  match u with
  | some .completeSnapshot => removePersistedOutputAliases
  | _ => fun p => p

theorem keepsReads_keptResult (u : Option OutputUpdate) : KeepsReads (keptResult u) := by
  unfold keptResult
  split
  · exact keepsReads_outputAliases
  · exact keepsReads_id

theorem nextResult_eq (hconflict : terminalConflict existing e = false) (hdelta : e.outputUpdate ≠ some .orderedDelta) :
    nextResult existing e =
      (fillMissing (resultOf (inputValue existing) (compactPayload e)) (keptResult e.outputUpdate ((resultValue existing).getD .null)),
        if e.outputUpdate = some .completeSnapshot then e.outputTruncated else existing.bind (fun x => x.2.outputTruncated)) := by
  have hnull : keptResult e.outputUpdate .null = .null := by
    cases e.outputUpdate with
    | none => rfl
    | some u => cases u <;> rfl
  cases hres : resultValue existing with
  | none =>
    have hres' : (existing.bind (fun x => x.2.result)).map (·.value) = none := hres
    simp only [nextResult, hres', incomingResult_eq, Option.getD_none, hnull, Json.fillMissing_null_right]
    cases hu : e.outputUpdate with
    | none => rfl
    | some u =>
      cases u with
      | orderedDelta => exact absurd hu hdelta
      | completeSnapshot | metadataOnly => rfl
  | some old =>
    have hres' : (existing.bind (fun x => x.2.result)).map (·.value) = some old := hres
    simp only [nextResult, hres', hconflict, Bool.false_eq_true, if_false, incomingResult_eq, Option.getD_some]
    cases hu : e.outputUpdate with
    | none => rfl
    | some u =>
      cases u with
      | orderedDelta => exact absurd hu hdelta
      | completeSnapshot | metadataOnly => rfl

theorem nextResult_conflict (inv : StatusInv (inputValue existing) (resultValue existing) seen)
    (hk : KeepsStatus (inputValue existing) (resultValue existing) e) (hconflict : terminalConflict existing e = true)
    (hstart : incomingIsStart e = false) :
    ∃ old, resultValue existing = some old ∧
      nextResult existing e = (conflictResult old (resultOf (inputValue existing) (compactPayload e))
        (lifecycleTerminalStatus (combineLifecycleValues (inputValue existing) (some old)))
        (lifecycleTerminalStatus (compactPayload e)), existing.bind (fun x => x.2.outputTruncated)) := by
  obtain ⟨old, hres⟩ : ∃ old, resultValue existing = some old := by
    cases hm : lifecycleHasTerminalConflict (combineLifecycleValues (inputValue existing) (resultValue existing)) with
    | true => exact result_of_conflict inv hm
    | false =>
      rcases (terminalConflict_eq_true inv).1 hconflict with h | ⟨old, new, hold, hnew, hne⟩
      · rw [hm] at h
        cases h
      · simp only [KeepsStatus, hm, Bool.false_eq_true, if_false, hold, hnew, hstart, true_and] at hk
        exact Option.isSome_iff_exists.1 (hk.resolve_left hne)
  have hread := (existingPayload_reads inv).1
  have hres' : (existing.bind (fun x => x.2.result)).map (·.value) = some old := hres
  rw [hres] at hread
  refine ⟨old, hres, ?_⟩
  simp [nextResult, hres', hconflict, hread, incomingResult_eq]

/-- **One more event**: under its condition, the row keeps what it says of the terminal statuses seen, the event's
included. -/
theorem statusInv_next (inv : StatusInv (inputValue existing) (resultValue existing) seen) (hp : PublicPayload e.payload)
    (hdelta : e.outputUpdate ≠ some .orderedDelta)
    (hk : KeepsStatus (inputValue existing) (resultValue existing) e) :
    StatusInv (nextLifecycle existing e).input (nextLifecycle existing e).result
      (seen ++ (lifecycleTerminalStatus (compactPayload e)).toList) := by
  have hinput : (nextLifecycle existing e).input = inputAfter (inputValue existing) (compactPayload e) := rfl
  rw [hinput]
  cases hstart : incomingIsStart e with
  | true =>
    have hresult : (nextLifecycle existing e).result = resultValue existing := by simp [nextLifecycle, hstart, resultValue]
    rw [hresult]
    exact statusInv_start inv hstart hp hk
  | false =>
    have hresult : (nextLifecycle existing e).result = some (nextResult existing e).1 := by simp [nextLifecycle, hstart]
    rw [hresult]
    cases hconflict : terminalConflict existing e with
    | true =>
      obtain ⟨old, hres, hnext⟩ := nextResult_conflict inv hk hconflict hstart
      rw [hnext]
      exact statusInv_conflict (hres ▸ inv) hp
    | false =>
      have hnone : ¬ (lifecycleHasTerminalConflict (combineLifecycleValues (inputValue existing) (resultValue existing)) = true ∨
          ∃ old new, lifecycleTerminalStatus (combineLifecycleValues (inputValue existing) (resultValue existing)) = some old ∧
            lifecycleTerminalStatus (compactPayload e) = some new ∧ old ≠ new) := by
        rw [← terminalConflict_eq_true inv, hconflict]
        exact Bool.false_ne_true
      rw [not_or, Bool.not_eq_true] at hnone
      have hsame : ∀ old new, lifecycleTerminalStatus (combineLifecycleValues (inputValue existing) (resultValue existing)) =
          some old → lifecycleTerminalStatus (compactPayload e) = some new → old = new := by
        intro old new hold hnew
        by_contra hne
        exact hnone.2 ⟨old, new, hold, hnew, hne⟩
      rw [nextResult_eq hconflict hdelta]
      exact statusInv_result inv hstart hp hk hnone.1 hsame (keepsReads_keptResult e.outputUpdate)

end

/-! ## Events that keep the status -/

theorem keepsStatus_first (e : RuntimeEvent) : KeepsStatus .null none e := by
  have hlaid : ∀ (start : Bool) (v : Json), v.isNull = false → laidOver start .null .null v = true := by
    intro start v hv
    have hnull : Json.isNull .null = true := rfl
    simp [laidOver, hnull, hv]
  have hmarked : lifecycleHasTerminalConflict (combineLifecycleValues .null none) = false := by decide
  have hshown : lifecycleTerminalStatus (combineLifecycleValues .null none) = none := by decide
  simp only [KeepsStatus, hmarked, hshown]
  cases hs : lifecycleTerminalStatus (compactPayload e) with
  | none => trivial
  | some s => exact ⟨hlaid _ _, fun hv => ⟨hlaid _ _ hv, rfl⟩⟩

theorem keepsStatus_second {input : Json} {result : Option Json} {e : RuntimeEvent} (old new : String)
    (hmarked : lifecycleHasTerminalConflict (combineLifecycleValues input result) = false)
    (hold : lifecycleTerminalStatus (combineLifecycleValues input result) = some old)
    (hnew : lifecycleTerminalStatus (compactPayload e) = some new) (hstart : incomingIsStart e = false)
    (hresult : result.isSome = true) : KeepsStatus input result e := by
  simp only [KeepsStatus, hmarked, hold, hnew]
  exact .inr ⟨hstart, hresult⟩

end Rovai
