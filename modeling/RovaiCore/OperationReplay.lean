import RovaiCore.OperationStatus
/-!
# Recording an event twice

An event that was just recorded says nothing new: every part of the next row is what it was (`nextLifecycle_replay`).
-/
namespace Rovai

open Json (fillMissing difference differenceOrNull)

/-! ## Values -/

theorem fillMissing_outputAliases_idem {a b : Json} (ha : Readable a) (hb : Readable b) :
    fillMissing a (removePersistedOutputAliases (fillMissing a (removePersistedOutputAliases b))) =
      fillMissing a (removePersistedOutputAliases b) := by
  have hkeep := keepsReads_outputAliases
  have hb' := hkeep.readable hb
  have hget : ∀ (j : Json) (k : String), (removePersistedOutputAliases j).get? k =
      if k = "item" then ((j.removeFields outputFields).get? k).map (fun item => item.removeFields itemOutputFields)
      else (j.removeFields outputFields).get? k := fun j k => Json.get?_mapField _ _ _ _
  rcases Json.isRecord_cases ha.record with rfl | ⟨own, rfl⟩
  · rw [Json.fillMissing_null, Json.fillMissing_null]
    rcases Json.isRecord_cases hb.record with rfl | ⟨fields, rfl⟩
    · rfl
    refine Json.obj_ext rfl rfl (hkeep.readable hb').sorted hb'.sorted (fun k => ?_)
    rw [hget, Json.get?_removeFields, hget, Json.get?_removeFields]
    by_cases hk : k = "item"
    · subst hk
      rw [if_pos rfl, if_pos rfl]
      cases hc : outputFields.contains "item" with
      | true => rfl
      | false =>
        simp only [Bool.false_eq_true, if_false]
        cases (Json.obj fields).get? "item" with
        | none => rfl
        | some v => simp [Json.removeFields_idem]
    · rw [if_neg hk, if_neg hk]
      split <;> rfl
  · have hobj : (Json.obj own).isObj = true := rfl
    have hfill := ha.fill hb'
    have hobj' : (fillMissing (.obj own) (removePersistedOutputAliases b)).isObj = true := Json.isObj_fillMissing hobj
    have haliases := hkeep.readable hfill
    refine Json.obj_ext (Json.isObj_fillMissing hobj) hobj' (ha.fill haliases).sorted hfill.sorted (fun k => ?_)
    rw [Json.get?_fillMissing hobj haliases.record haliases.sorted, hget, Json.get?_removeFields,
      Json.get?_fillMissing hobj hb'.record hb'.sorted]
    have hown : ∀ w, (Json.obj own).get? k = some w → (Json.obj own).getD k = w := fun w hw => by rw [Json.getD, hw]; rfl
    by_cases hk : k = "item"
    · subst hk
      rw [if_pos rfl, hget b, if_pos rfl, Json.get?_removeFields]
      cases hc : outputFields.contains "item" with
      | true => rfl
      | false =>
        simp only [Bool.false_eq_true, if_false]
        cases hv : b.get? "item" with
        | some v =>
          have hsv := Json.sorted_get? hb.sorted hv
          simp [Json.fillMissing_removeFields_idem (Json.sorted_getD ha.sorted) hsv]
        | none =>
          cases hw : (Json.obj own).get? "item" with
          | none => rfl
          | some w =>
            have hsw := Json.sorted_get? ha.sorted hw
            simp only [Option.map_some, Option.map_none, hown w hw, Option.some.injEq]
            by_cases hnull : w = .null
            · subst hnull
              rfl
            · exact Json.fillMissing_removeFields hsw hnull itemOutputFields
    · rw [if_neg hk, hget b, if_neg hk, Json.get?_removeFields]
      cases hc : outputFields.contains k with
      | true => rfl
      | false =>
        simp only [Bool.false_eq_true, if_false]
        cases hv : b.get? k with
        | some v =>
          simp [Json.fillMissing_right_idem (Json.sorted_getD ha.sorted) (Json.sorted_get? hb.sorted hv)]
        | none =>
          cases hw : (Json.obj own).get? k with
          | none => rfl
          | some w => simp [hown w hw, Json.fillMissing_self (Json.sorted_get? ha.sorted hw)]

theorem keptResult_idem (u : Option OutputUpdate) {d old : Json} (hd : Readable d) (ho : Readable old) :
    fillMissing d (keptResult u (fillMissing d (keptResult u old))) = fillMissing d (keptResult u old) := by
  have hwhole : fillMissing d (fillMissing d old) = fillMissing d old := Json.fillMissing_right_idem hd.sorted ho.sorted
  cases u with
  | none => exact hwhole
  | some u =>
    cases u with
    | completeSnapshot => exact fillMissing_outputAliases_idem hd ho
    | orderedDelta | metadataOnly => exact hwhole

theorem addStatuses_of_mem {statuses : List String} : ∀ {new : List String}, (∀ t ∈ new, t ∈ statuses) →
    addStatuses statuses new = statuses
  | [], _ => rfl
  | s :: new, h => by
    have hs : statuses.contains s = true := List.contains_iff_mem.2 (h s (List.mem_cons_self ..))
    rw [addStatuses, List.foldl_cons, if_pos hs]
    exact addStatuses_of_mem (fun t ht => h t (List.mem_cons_of_mem s ht))

/-- **The conflict arm, twice**: the same marker over the same values. -/
theorem conflictResult_again {old d : Json} (ho : Readable old) (hd : Readable d)
    (hplain : PlainMarker (lifecycleMarker d)) (t₁ t₂ : Option String) :
    conflictResult (conflictResult old d t₁ t₂) d none t₂ = conflictResult old d t₁ t₂ := by
  obtain ⟨hread, -, hmark⟩ := conflictResult_reads ho hd t₁ t₂
  obtain ⟨hmr, -, -, hstatuses⟩ := conflictMarker_reads
    (addStatuses (lifecycleObservedTerminalStatuses (fillMissing old d)) (t₁.toList ++ t₂.toList))
  have hobs : lifecycleObservedTerminalStatuses (conflictResult old d t₁ t₂) =
      addStatuses (lifecycleObservedTerminalStatuses (fillMissing old d)) (t₁.toList ++ t₂.toList) := by
    rw [lifecycleObservedTerminalStatuses_eq, hmark, hstatuses]
  have hagain : addStatuses (lifecycleObservedTerminalStatuses (fillMissing (conflictResult old d t₁ t₂) d))
      ((none : Option String).toList ++ t₂.toList) =
        addStatuses (lifecycleObservedTerminalStatuses (fillMissing old d)) (t₁.toList ++ t₂.toList) := by
    rw [observed_fill_plain hread hd hplain (by rw [hmark]; exact hmr), hobs]
    refine addStatuses_of_mem (fun t ht => (mem_addStatuses _ _).2 (.inr ?_))
    exact List.mem_append_right _ (by simpa using ht)
  -- the same two members are set over fills that agree on every other member
  have hset : ∀ a M : Json, Readable a → Json.Sorted M → (((a.setField "status" (.str "unsettled")).setField "_rovaiLifecycle" M)).Sorted :=
    fun a M ha hM => Json.sorted_setField (Json.sorted_setField ha.sorted (by simp [Json.Sorted]) _) hM _
  rw [conflictResult, hagain]
  have hf := ho.fill hd
  have hf' := hread.fill hd
  have hM := (conflictMarker_reads (addStatuses (lifecycleObservedTerminalStatuses (fillMissing old d))
    (t₁.toList ++ t₂.toList))).2.1
  refine Json.obj_ext (Json.isObj_setField (Json.isRecord_setField hf'.record _ _) _ _)
    (Json.isObj_setField (Json.isRecord_setField hf.record _ _) _ _) (hset _ _ hf' hM) (hset _ _ hf hM) (fun k => ?_)
  rw [Json.get?_setField (Json.isRecord_setField hf'.record _ _), Json.get?_setField hf'.record, conflictResult,
    Json.get?_setField (Json.isRecord_setField hf.record _ _), Json.get?_setField hf.record]
  by_cases hk1 : k = "_rovaiLifecycle"
  · rw [if_pos hk1, if_pos hk1]
  rw [if_neg hk1, if_neg hk1]
  by_cases hk2 : k = "status"
  · rw [if_pos hk2, if_pos hk2]
  rw [if_neg hk2, if_neg hk2]
  have hobjR : ((((fillMissing old d).setField "status" (.str "unsettled")).setField "_rovaiLifecycle" (conflictMarker
      (addStatuses (lifecycleObservedTerminalStatuses (fillMissing old d)) (t₁.toList ++ t₂.toList))))).isObj = true :=
    Json.isObj_setField (Json.isRecord_setField hf.record _ _) _ _
  rw [Json.get?_fillMissing hobjR hd.record hd.sorted, Json.get?_setField (Json.isRecord_setField hf.record _ _), if_neg hk1,
    Json.get?_setField hf.record, if_neg hk2, Json.getD_setField (Json.isRecord_setField hf.record _ _), if_neg hk1,
    Json.getD_setField hf.record, if_neg hk2, Json.getD_fillMissing ho.record hd.record hd.sorted]
  cases hv : d.get? k with
  | none => rfl
  | some v =>
    have hdv : d.getD k = v := by rw [Json.getD, hv]; rfl
    rcases Json.isRecord_cases ho.record with rfl | ⟨own, rfl⟩
    · rw [Json.fillMissing_null, hdv]
      simp [hv, Json.fillMissing_self (Json.sorted_get? hd.sorted hv)]
    · rw [Json.get?_fillMissing rfl hd.record hd.sorted, hv, hdv]
      simp [Json.fillMissing_idem (Json.sorted_getD ho.sorted) (Json.sorted_get? hd.sorted hv)]

/-! ## The next row, twice -/

section

variable {existing : Option (EvidenceRow × Operation)} {r : EvidenceRow} {o : Operation} {e : RuntimeEvent} {seen : List String}

theorem inputAfter_again {input p : Json} (hi : Readable input) (hp : Readable p) :
    inputAfter (inputAfter input p) p = inputAfter input p :=
  Json.fillMissing_idem hi.sorted (keepsReads_inputPayload.readable hp).sorted

theorem resultOf_again {input p : Json} (hi : Readable input) (hp : Readable p) :
    resultOf (inputAfter input p) p = resultOf input p := by
  rw [resultOf, inputAfter_again hi hp, resultOf]

structure JustRecorded (existing : Option (EvidenceRow × Operation)) (e : RuntimeEvent) (r : EvidenceRow) (o : Operation) :
    Prop where
  current : currentLifecycle r o = nextLifecycle existing e

theorem inputValue_recorded (h : JustRecorded existing e r o) :
    inputValue (some (r, o)) = inputAfter (inputValue existing) (compactPayload e) :=
  congrArg Lifecycle.input h.current

theorem resultValue_recorded (h : JustRecorded existing e r o) :
    resultValue (some (r, o)) = (nextLifecycle existing e).result := congrArg Lifecycle.result h.current

theorem terminalConflict_of_marked (inv : StatusInv (inputValue (some (r, o))) (resultValue (some (r, o))) seen)
    {old d : Json} {t₁ t₂ : Option String} (ho : Readable old) (hd : Readable d)
    (hres : resultValue (some (r, o)) = some (conflictResult old d t₁ t₂)) (e : RuntimeEvent) :
    terminalConflict (some (r, o)) e = true ∧
      lifecycleTerminalStatus (combineLifecycleValues (inputValue (some (r, o))) (resultValue (some (r, o)))) = none := by
  obtain ⟨hread, hroot, hmark⟩ := conflictResult_reads ho hd t₁ t₂
  obtain ⟨-, -, htc, -⟩ := conflictMarker_reads
    (addStatuses (lifecycleObservedTerminalStatuses (fillMissing old d)) (t₁.toList ++ t₂.toList))
  constructor
  · refine (terminalConflict_eq_true inv).2 (.inl ?_)
    rw [combineLifecycleValues, (conflict_combined inv.readableInput inv.inputMarker inv.readableResult).1, hres,
      Option.getD_some, lifecycleHasTerminalConflict_eq, hmark, htc]
  · rw [combineLifecycleValues, lifecycleTerminalStatus_eq, rootStatus_fill inv.readableResult inv.readableInput, hres,
      Option.getD_some, hroot, Json.asStr_fillMissing, if_neg (by decide)]
    have hword : (some "unsettled").filter (fun s => terminalStatuses.contains s) = none := by decide
    exact hword

theorem terminalConflict_again (inv : StatusInv (inputValue existing) (resultValue existing) seen)
    (hp : PublicPayload e.payload) (hdelta : e.outputUpdate ≠ some .orderedDelta)
    (hk : KeepsStatus (inputValue existing) (resultValue existing) e) (hstart : incomingIsStart e = false)
    (hconflict : terminalConflict existing e = false) (h : JustRecorded existing e r o) :
    terminalConflict (some (r, o)) e = false := by
  have inv' := statusInv_next inv hp hdelta hk
  have hc := publicPayload_compact hp
  have hres : (nextLifecycle existing e).result = some (nextResult existing e).1 := by simp [nextLifecycle, hstart]
  have hiv : inputValue (some (r, o)) = (nextLifecycle existing e).input := congrArg Lifecycle.input h.current
  rw [← hiv, ← resultValue_recorded h] at inv'
  rw [← Bool.not_eq_true, terminalConflict_eq_true inv']
  have hfree : lifecycleHasTerminalConflict
      (combineLifecycleValues (inputValue (some (r, o))) (resultValue (some (r, o)))) = false := by
    have hnot : ¬ lifecycleHasTerminalConflict (combineLifecycleValues (inputValue existing) (resultValue existing)) = true :=
      fun hm => by
        have := (terminalConflict_eq_true (e := e) inv).2 (.inl hm)
        rw [hconflict] at this
        cases this
    rw [Bool.not_eq_true] at hnot
    rw [combineLifecycleValues, (conflict_combined inv'.readableInput inv'.inputMarker inv'.readableResult).1,
      resultValue_recorded h, hres, Option.getD_some, nextResult_eq hconflict hdelta]
    exact conflict_result inv hc hnot (keepsReads_keptResult e.outputUpdate)
  rintro (hm | ⟨old, new, hold, hnew, hne⟩)
  · rw [hfree] at hm
    cases hm
  · have hshown := (inv'.shown hfree).1 new (List.mem_append_right _ (by rw [hnew]; simp))
    rw [hold, Option.some.injEq] at hshown
    exact hne hshown

theorem nextPhase_cases (existing : Option (EvidenceRow × Operation)) (e : RuntimeEvent) :
    nextPhase existing e = e.phase ∨ terminalPhase (nextPhase existing e) = true := by
  cases existing with
  | none => exact .inl rfl
  | some x =>
    by_cases hx : terminalPhase x.1.phase = true
    · have hkeep : nextPhase (some x) e = x.1.phase := if_pos hx
      rw [hkeep]
      exact .inr hx
    · exact .inl (if_neg hx)

theorem nextPhase_again (h : JustRecorded existing e r o) : nextPhase (some (r, o)) e = nextPhase existing e := by
  have hphase : r.phase = nextPhase existing e := congrArg Lifecycle.phase h.current
  by_cases hterminal : terminalPhase r.phase = true
  · exact (if_pos hterminal).trans hphase
  rcases nextPhase_cases existing e with hsame | hsettled
  · exact (if_neg hterminal).trans hsame.symm
  rw [hphase] at hterminal
  exact absurd hsettled hterminal

theorem nextEventType_again (h : JustRecorded existing e r o) :
    (nextLifecycle (some (r, o)) e).eventType = (nextLifecycle existing e).eventType ∧
      (nextLifecycle (some (r, o)) e).kind = (nextLifecycle existing e).kind := by
  have htype : r.eventType = (nextLifecycle existing e).eventType := congrArg Lifecycle.eventType h.current
  have hkind : r.kind = (nextLifecycle existing e).kind := congrArg Lifecycle.kind h.current
  have hphase : r.phase = nextPhase existing e := congrArg Lifecycle.phase h.current
  cases hkeep : keepsEventType existing e with
  | true =>
    -- a start of a settled operation finds it settled again
    have hkeep' : keepsEventType (some (r, o)) e = true := by
      simp only [keepsEventType, Bool.and_eq_true] at hkeep ⊢
      refine ⟨hkeep.1, ?_⟩
      cases existing with
      | none => exact absurd hkeep.2 (by simp)
      | some x =>
        have hx : terminalPhase x.1.phase = true := by simpa using hkeep.2
        simp only [Option.any_some]
        rw [hphase, nextPhase, if_pos hx]
        exact hx
    simp only [nextLifecycle, hkeep', if_true, Option.map_some, Option.getD_some]
    exact ⟨htype, hkind⟩
  | false =>
    have htype' : (nextLifecycle existing e).eventType = e.eventType := by simp [nextLifecycle, hkeep]
    have hkind' : (nextLifecycle existing e).kind = e.kind := by simp [nextLifecycle, hkeep]
    rw [htype', hkind']
    rw [htype'] at htype
    rw [hkind'] at hkind
    simp only [nextLifecycle, Option.map_some, Option.getD_some, htype, hkind]
    split <;> exact ⟨rfl, rfl⟩

theorem nextResultDigest_again (h : JustRecorded existing e r o)
    (hmarked : incomingIsStart e = false → terminalConflict existing e = true → terminalConflict (some (r, o)) e = true) :
    nextResultDigest (some (r, o)) e = nextResultDigest existing e := by
  have hdigest : o.resultDigest = nextResultDigest existing e := congrArg Lifecycle.resultDigest h.current
  have hnow : nextResultDigest (some (r, o)) e = if !incomingIsStart e && (!terminalConflict (some (r, o)) e ||
      o.resultDigest.isNone) && (e.payload.strField "resultDigest").isSome then e.payload.strField "resultDigest"
      else o.resultDigest := rfl
  rw [hnow, hdigest]
  cases hstart : incomingIsStart e with
  | true => simp
  | false =>
    cases hin : (e.payload.strField "resultDigest") with
    | none => simp
    | some d =>
      cases hconflict : terminalConflict existing e with
      | false =>
        have hset : nextResultDigest existing e = some d := by simp [nextResultDigest, hstart, hconflict, hin]
        rw [hset]
        simp
      | true =>
        rw [hmarked hstart hconflict]
        cases hold : existing.bind (fun x => x.2.resultDigest) with
        | none =>
          have hset : nextResultDigest existing e = some d := by simp [nextResultDigest, hstart, hconflict, hin, hold]
          rw [hset]
          simp
        | some d' =>
          have hset : nextResultDigest existing e = some d' := by simp [nextResultDigest, hstart, hconflict, hin, hold]
          rw [hset]
          simp

/-- **The event just recorded says nothing new.** -/
theorem nextLifecycle_replay (inv : StatusInv (inputValue existing) (resultValue existing) seen)
    (hp : PublicPayload e.payload) (hdelta : e.outputUpdate ≠ some .orderedDelta)
    (hk : KeepsStatus (inputValue existing) (resultValue existing) e) (h : JustRecorded existing e r o) :
    nextLifecycle (some (r, o)) e = currentLifecycle r o := by
  have hc := publicPayload_compact hp
  have hcr := hc.readable
  have inv' := statusInv_next inv hp hdelta hk
  have hiv : inputValue (some (r, o)) = (nextLifecycle existing e).input := congrArg Lifecycle.input h.current
  rw [← hiv, ← resultValue_recorded h] at inv'
  have hinput : (nextLifecycle (some (r, o)) e).input = (nextLifecycle existing e).input := by
    have : (nextLifecycle (some (r, o)) e).input = inputAfter (inputValue (some (r, o))) (compactPayload e) := rfl
    rw [this, inputValue_recorded h, inputAfter_again inv.readableInput hcr]
    rfl
  have hd : resultOf (inputValue (some (r, o))) (compactPayload e) = resultOf (inputValue existing) (compactPayload e) := by
    rw [inputValue_recorded h, resultOf_again inv.readableInput hcr]
  have htruncated : o.outputTruncated = (nextLifecycle existing e).outputTruncated := congrArg Lifecycle.outputTruncated h.current
  have hrest : (nextLifecycle (some (r, o)) e).result = (nextLifecycle existing e).result ∧
      (nextLifecycle (some (r, o)) e).outputTruncated = (nextLifecycle existing e).outputTruncated ∧
      (incomingIsStart e = false → terminalConflict existing e = true → terminalConflict (some (r, o)) e = true) := by
    cases hstart : incomingIsStart e with
    | true =>
      refine ⟨?_, ?_, nofun⟩
      · have : (nextLifecycle (some (r, o)) e).result = resultValue (some (r, o)) := by simp [nextLifecycle, hstart, resultValue]
        rw [this, resultValue_recorded h]
      · have : (nextLifecycle (some (r, o)) e).outputTruncated = o.outputTruncated := by simp [nextLifecycle, hstart]
        rw [this, htruncated]
    | false =>
      have hres : (nextLifecycle existing e).result = some (nextResult existing e).1 := by simp [nextLifecycle, hstart]
      have hres' : (nextLifecycle (some (r, o)) e).result = some (nextResult (some (r, o)) e).1 := by
        simp [nextLifecycle, hstart]
      have hvalue : resultValue (some (r, o)) = some (nextResult existing e).1 := (resultValue_recorded h).trans hres
      rw [hres, hres']
      cases hconflict : terminalConflict existing e with
      | true =>
        obtain ⟨old, hold, hnext⟩ := nextResult_conflict inv hk hconflict hstart
        have hro : Readable old := by
          have := inv.readableResult
          rwa [hold] at this
        have hrd := readable_resultOf inv.readableInput hcr
        rw [hnext] at hvalue
        obtain ⟨hconflict', hnone⟩ := terminalConflict_of_marked inv' hro hrd hvalue e
        have hread := (existingPayload_reads inv').1
        rw [hnone] at hread
        have hagain : nextResult (some (r, o)) e = (conflictResult (nextResult existing e).1
            (resultOf (inputValue existing) (compactPayload e)) none (lifecycleTerminalStatus (compactPayload e)),
              o.outputTruncated) := by
          have hmap : ((some (r, o)).bind (fun x : EvidenceRow × Operation => x.2.result)).map (·.value) =
              some (nextResult existing e).1 := by rw [hnext]; exact hvalue
          simp only [nextResult, hmap, hconflict', if_true, hread, incomingResult_eq, hd]
          rfl
        refine ⟨?_, ?_, fun _ _ => hconflict'⟩
        · rw [hagain, hnext]
          exact congrArg some (conflictResult_again hro hrd (plainMarker_resultOf inv.readableInput hc) _ _)
        · have : (nextLifecycle (some (r, o)) e).outputTruncated = o.outputTruncated := by simp [nextLifecycle, hconflict']
          rw [this, htruncated]
      | false =>
        have hconflict' := terminalConflict_again inv hp hdelta hk hstart hconflict h
        rw [nextResult_eq hconflict hdelta] at hvalue ⊢
        have hagain := nextResult_eq hconflict' hdelta
        rw [hvalue, hd] at hagain
        refine ⟨?_, ?_, fun _ h => by cases h⟩
        · rw [hagain, Option.getD_some]
          exact congrArg some (keptResult_idem e.outputUpdate (readable_resultOf inv.readableInput hcr) inv.readableResult)
        · have hnow : (nextLifecycle (some (r, o)) e).outputTruncated = (nextResult (some (r, o)) e).2 := by
            simp [nextLifecycle, hstart, hconflict']
          have hthen : (nextLifecycle existing e).outputTruncated = (nextResult existing e).2 := by
            simp [nextLifecycle, hstart, hconflict]
          rw [hthen] at htruncated
          rw [hnow, hthen, hagain]
          rw [nextResult_eq hconflict hdelta] at htruncated ⊢
          simp only [Option.bind_some, htruncated]
          split <;> rfl
  obtain ⟨hresult, htrunc, hmarked⟩ := hrest
  rw [h.current]
  have hdigest := nextResultDigest_again h hmarked
  obtain ⟨htype, hkind⟩ := nextEventType_again h
  have hphase := nextPhase_again h
  refine Lifecycle.ext hinput hresult htrunc hdigest hphase htype hkind

end

end Rovai
