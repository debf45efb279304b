import RovaiCore.EvidenceInvariant
import RovaiCore.Runs
/-!
# Everything that writes a run's evidence

One transaction of any writer is one `Write`; `RunLog.write` is its effect, and a run of the log is a fold of writes from the
empty log.
-/
namespace Rovai

inductive Write where
  | event (epoch : Nat) (id : EvidenceId) (now : Timestamp) (e : RuntimeEvent)
  | batch (epoch : Nat) (events : List (EvidenceId × Timestamp × RuntimeEvent))
  | textStart (epoch : Nat) (id : EvidenceId) (now : Timestamp) (key : Option String) (payload : Json)
  | textFinish (id : EvidenceId) (phase : String) (payload preview : Json) (revision : Nat)
  | inputRecord (epoch : Nat) (key : EvidenceId) (now : Timestamp) (payload : Json)
  | inputChanged (key : EvidenceId)

def RunLog.write (store : ContentStore) (log : RunLog) : Write → RunLog
  | .event epoch id now e => recordRuntimeEvent store log epoch id now e
  | .batch epoch events => recordBatch log epoch events
  | .textStart epoch id now key payload => (insertTextBlock log epoch id now key payload).getD log
  | .textFinish id phase payload preview revision => (updateTextBlock log id phase payload preview revision).getD log
  | .inputRecord epoch key now payload => recordInput log epoch key now payload
  | .inputChanged key => Rovai.inputChanged log key

def Write.isTextBlock : Write → Bool
  | .textStart _ _ _ _ _ => true
  | .textFinish _ _ _ _ _ => true
  | _ => false

/-! ## Every write is a sequence of row writes -/

section

variable {store : ContentStore} {log log' : RunLog} {epoch : Nat} {id : EvidenceId} {now : Timestamp} {e : RuntimeEvent}

theorem not_block_of_recorded {eventType : String} (h : evidenceEventTypes.contains eventType = true) :
    eventType ≠ "agent.text.block" := by
  rintro rfl
  exact absurd h (by decide)

theorem not_block_of_batchable (h : batchable e = true) : e.eventType ≠ "agent.text.block" := by
  rw [batchable, Bool.and_eq_true, List.contains_iff_mem] at h
  simp only [List.mem_cons, List.not_mem_nil, or_false] at h
  rcases h.2 with h | h <;> simp [h]

theorem insertPlain_rowWrite (hother : e.eventType ≠ "agent.text.block") (h : insertPlain log epoch id now e = some log') :
    RowWrite false log log' := by
  unfold insertPlain at h
  split at h
  · cases h
  rename_i hfree
  rw [Bool.or_eq_true, not_or, Bool.not_eq_true] at hfree
  split at h
  · cases h
  rename_i htrigger
  rw [Option.some.injEq] at h
  subst h
  refine .insert (plainRow log epoch id now e) _ _ hfree.1 rfl rfl ?_ (fun hblock => absurd hblock hother)
  split
  · rename_i hactivity
    rw [hactivity, Bool.true_and, Bool.not_eq_true] at htrigger
    exact .inr ⟨_, htrigger, rfl⟩
  · exact .inl rfl

theorem nextLifecycle_eventType (existing : Option (EvidenceRow × Operation)) (e : RuntimeEvent) :
    (nextLifecycle existing e).eventType = e.eventType ∨
      ∃ x, existing = some x ∧ (nextLifecycle existing e).eventType = x.1.eventType := by
  simp only [nextLifecycle]
  split
  · cases existing with
    | none => exact .inl rfl
    | some x => exact .inr ⟨x, rfl, rfl⟩
  · exact .inl rfl

theorem insertOperation_rowWrite (store : ContentStore) (now : Timestamp) {operationId : String}
    (hrecorded : evidenceEventTypes.contains e.eventType = true) (hnew : lifecycleRow log epoch operationId = none)
    (hstarted : legacyStarted log epoch operationId = false) :
    insertOperation store log epoch id now operationId e = log ∨
      RowWrite false log (insertOperation store log epoch id now operationId e) := by
  unfold insertOperation
  split
  · exact .inl rfl
  rename_i hfree
  rw [Bool.or_eq_true, not_or, Bool.not_eq_true] at hfree
  have htype : (nextLifecycle none e).eventType = e.eventType := by
    rcases nextLifecycle_eventType none e with h | ⟨x, hx, -⟩
    · exact h
    · cases hx
  refine .inr (.insertOperation _ _ _ hfree.1 rfl rfl ⟨rfl, rfl⟩ ?_ hnew hstarted)
  rw [insertedRow, htype]
  exact hrecorded

theorem updateOperation_rowWrite (inv : LogInv log) (store : ContentStore) {r : EvidenceRow} {o : Operation} (hr : r ∈ log.rows)
    (ho : r.operation = some o) (hrecorded : evidenceEventTypes.contains e.eventType = true) :
    updateOperation store log r o e = log ∨ RowWrite false log (updateOperation store log r o e) := by
  unfold updateOperation
  simp only
  split
  · rw [inv.updateRow_eq hr]
    exact .inr (.digest r o _ hr ho)
  · split
    · exact .inl rfl
    refine .inr (.rewrite r _ _ hr rfl rfl rfl rfl (.inr ⟨?_, o, _, ho, rfl, rfl, rfl, rfl⟩))
    rw [updatedRow]
    rcases nextLifecycle_eventType (some (r, o)) e with h | ⟨x, hx, h⟩
    · rw [h]
      exact hrecorded
    · rw [Option.some.injEq] at hx
      subst hx
      rw [h]
      exact inv.recorded r hr o ho

theorem lifecycleRow_some {operationId : String} {r : EvidenceRow} (h : lifecycleRow log epoch operationId = some r) :
    r ∈ log.rows ∧ r.executionEpoch = epoch ∧ ∃ o, r.operation = some o ∧ o.operationId = operationId :=
  ⟨List.mem_of_find?_eq_some h, isLifecycleRow_iff.1 (List.find?_some h)⟩

/-- **What the transaction of an event does**: nothing, the insert of a plain row, or the update or the insert of an operation's. -/
inductive EventWrite (store : ContentStore) (log : RunLog) (epoch : Nat) (id : EvidenceId) (now : Timestamp) (e : RuntimeEvent)
    (log' : RunLog) : Prop
  | nothing (after : log' = log)
  | plain (recorded : evidenceEventTypes.contains e.eventType = true) (after : insertPlain log epoch id now e = some log')
  | update (r : EvidenceRow) (o : Operation) (recorded : evidenceEventTypes.contains e.eventType = true)
      (activity : isActivity e = true) (key : ((operationIdentity e.payload).isNone && sourceKeyTaken log e.sourceEventKey) = false)
      (row : lifecycleRow log epoch (operationOf id e) = some r) (own : r.operation = some o)
      (after : log' = updateOperation store log r o e)
  | insert (recorded : evidenceEventTypes.contains e.eventType = true) (activity : isActivity e = true)
      (key : ((operationIdentity e.payload).isNone && sourceKeyTaken log e.sourceEventKey) = false)
      (row : lifecycleRow log epoch (operationOf id e) = none) (started : legacyStarted log epoch (operationOf id e) = false)
      (after : log' = insertOperation store log epoch id now (operationOf id e) e)

theorem recordPlain_eventWrite (hrecorded : evidenceEventTypes.contains e.eventType = true) :
    EventWrite store log epoch id now e (recordPlain log epoch id now e) := by
  unfold recordPlain
  split
  · exact .nothing rfl
  cases h : insertPlain log epoch id now e with
  | none => exact .nothing rfl
  | some log' => exact .plain hrecorded h

theorem recordRuntimeEvent_eventWrite (store : ContentStore) (log : RunLog) (epoch : Nat) (id : EvidenceId) (now : Timestamp)
    (e : RuntimeEvent) : EventWrite store log epoch id now e (recordRuntimeEvent store log epoch id now e) := by
  unfold recordRuntimeEvent
  split
  rotate_left
  · exact .nothing rfl
  rename_i hrecorded
  unfold recordOperationLifecycle
  split
  · exact recordPlain_eventWrite hrecorded
  rename_i hactivity
  rw [Bool.not_eq_true, Bool.not_eq_false'] at hactivity
  split
  · exact .nothing rfl
  rename_i hkey
  rw [Bool.not_eq_true] at hkey
  cases hrow : lifecycleRow log epoch (operationOf id e) with
  | some r =>
    obtain ⟨-, -, o, ho, -⟩ := lifecycleRow_some hrow
    simp only [ho, Option.getD_some]
    exact .update r o hrecorded hactivity hkey hrow ho rfl
  | none =>
    simp only
    split
    · exact recordPlain_eventWrite hrecorded
    · exact .insert hrecorded hactivity hkey hrow (Bool.not_eq_true _ ▸ ‹_›) rfl

theorem recordRuntimeEvent_rowWrite (inv : LogInv log) (store : ContentStore) (epoch : Nat) (id : EvidenceId) (now : Timestamp)
    (e : RuntimeEvent) :
    recordRuntimeEvent store log epoch id now e = log ∨ RowWrite false log (recordRuntimeEvent store log epoch id now e) := by
  cases recordRuntimeEvent_eventWrite store log epoch id now e with
  | nothing after => exact .inl after
  | plain recorded after => exact .inr (insertPlain_rowWrite (not_block_of_recorded recorded) after)
  | update r o recorded activity key row own after =>
    rw [after]
    exact updateOperation_rowWrite inv store (lifecycleRow_some row).1 own recorded
  | insert recorded activity key row started after =>
    rw [after]
    exact insertOperation_rowWrite store now recorded row started

theorem insertTextBlock_rowWrite {key : Option String} {payload : Json}
    (h : insertTextBlock log epoch id now key payload = some log') : RowWrite true log log' := by
  unfold insertTextBlock at h
  split at h
  · cases h
  rename_i hfree
  rw [Bool.or_eq_true, not_or, Bool.not_eq_true] at hfree
  rw [Option.some.injEq] at h
  subst h
  exact .insert _ _ _ hfree.1 rfl rfl (.inl rfl) fun _ => rfl

theorem updateTextBlock_rowWrite (inv : LogInv log) {phase : String} {payload preview : Json} {revision : Nat}
    (h : updateTextBlock log id phase payload preview revision = some log') : RowWrite true log log' := by
  unfold updateTextBlock at h
  split at h
  · rename_i hrow
    obtain ⟨r, hr, hid, htype⟩ : ∃ r ∈ log.rows, r.id = id ∧ r.eventType = "agent.text.block" := by simpa using hrow
    rw [Option.some.injEq] at h
    subst h hid
    rw [inv.updateRow_eq hr]
    exact .rewrite r _ _ hr rfl rfl rfl rfl (.inl ⟨⟨rfl, rfl, rfl, .inl htype⟩, fun _ => rfl⟩)
  · cases h

theorem recordInput_rowWrite (log : RunLog) (epoch : Nat) (key : EvidenceId) (now : Timestamp) (payload : Json) :
    recordInput log epoch key now payload = log ∨ RowWrite false log (recordInput log epoch key now payload) := by
  unfold recordInput
  split
  · exact .inl rfl
  rename_i hfree
  rw [Bool.or_eq_true, not_or, Bool.not_eq_true, Bool.not_eq_true] at hfree
  exact .inr (.insert _ _ _ hfree.2 rfl rfl (.inl rfl) fun hblock => absurd hblock (by simp [inputMarkerRow]))

theorem inputChanged_rowWrite (inv : LogInv log) (key : EvidenceId) :
    inputChanged log key = log ∨ RowWrite false log (inputChanged log key) := by
  unfold inputChanged
  split
  · rename_i hrow
    obtain ⟨r, hr, hid, htype⟩ : ∃ r ∈ log.rows, r.id = key ∧ r.eventType = "agent_run.input" := by simpa using hrow
    subst hid
    rw [inv.updateRow_eq hr]
    exact .inr (.rewrite r _ _ hr rfl rfl rfl rfl (.inl ⟨⟨rfl, rfl, rfl, .inr rfl⟩, fun hblock => absurd (hblock.symm.trans htype) (by decide)⟩))
  · exact .inl rfl

theorem recordBatch_induction {P : RunLog → Prop} (hstep : ∀ l l' id now e, batchable e = true →
    insertPlain l epoch id now e = some l' → P l → P l') (h : P log) (events : List (EvidenceId × Timestamp × RuntimeEvent)) :
    P (recordBatch log epoch events) := by
  have hfold : ∀ (events : List (EvidenceId × Timestamp × RuntimeEvent)) (acc : Option RunLog),
      events.all (fun e => batchable e.2.2) = true → (∀ l, acc = some l → P l) → ∀ l,
        events.foldl (fun acc e => acc.bind (fun l => insertPlain l epoch e.1 e.2.1 e.2.2)) acc = some l → P l := by
    intro events
    induction events with
    | nil => exact fun acc _ hacc l hl => hacc l hl
    | cons e events ih =>
      intro acc hall hacc
      rw [List.all_cons, Bool.and_eq_true] at hall
      refine ih _ hall.2 (fun l hl => ?_)
      obtain ⟨l₀, hl₀, hins⟩ := Option.bind_eq_some_iff.1 hl
      exact hstep _ _ _ _ _ hall.1 hins (hacc l₀ hl₀)
  unfold recordBatch
  split
  · rename_i hall
    cases hres : events.foldl (fun acc e => acc.bind (fun l => insertPlain l epoch e.1 e.2.1 e.2.2)) (some log) with
    | none => exact h
    | some l =>
      refine hfold events (some log) hall (fun l₀ hl₀ => ?_) l hres
      rw [Option.some.injEq] at hl₀
      exact hl₀ ▸ h
  · exact h

/-- **What every row write preserves, every write preserves**, and the invariant with it. -/
theorem write_induction {P : RunLog → Prop} (w : Write) (hstep : ∀ l l', LogInv l → RowWrite w.isTextBlock l l' → P l → P l')
    (store : ContentStore) (inv : LogInv log) (h : P log) : LogInv (log.write store w) ∧ P (log.write store w) := by
  have hone : ∀ l, (l = log ∨ RowWrite w.isTextBlock log l) → LogInv l ∧ P l := by
    rintro l (rfl | hl)
    · exact ⟨inv, h⟩
    · exact ⟨inv.rowWrite hl, hstep _ _ inv hl h⟩
  cases w with
  | event epoch id now e => exact hone _ (recordRuntimeEvent_rowWrite inv store epoch id now e)
  | batch epoch events =>
    refine recordBatch_induction (P := fun l => LogInv l ∧ P l) (fun l l' _ _ _ hbatch hins hl => ?_) ⟨inv, h⟩ events
    have hw := insertPlain_rowWrite (not_block_of_batchable hbatch) hins
    exact ⟨hl.1.rowWrite hw, hstep _ _ hl.1 hw hl.2⟩
  | textStart epoch id now key payload =>
    rw [RunLog.write]
    cases hl : insertTextBlock log epoch id now key payload with
    | none => exact ⟨inv, h⟩
    | some l => exact hone l (.inr (insertTextBlock_rowWrite hl))
  | textFinish id phase payload preview revision =>
    rw [RunLog.write]
    cases hl : updateTextBlock log id phase payload preview revision with
    | none => exact ⟨inv, h⟩
    | some l => exact hone l (.inr (updateTextBlock_rowWrite inv hl))
  | inputRecord epoch key now payload => exact hone _ (recordInput_rowWrite log epoch key now payload)
  | inputChanged key => exact hone _ (inputChanged_rowWrite inv key)

theorem logInv_write (store : ContentStore) (inv : LogInv log) (w : Write) : LogInv (log.write store w) :=
  (write_induction (P := fun _ => True) w (fun _ _ _ _ _ => trivial) store inv trivial).1

/-- **After every run of writes from the empty log the invariant holds.** -/
theorem logInv_run (store : ContentStore) (ws : List Write) : LogInv (ws.foldl (RunLog.write store) RunLog.empty) :=
  Runs.run_invariant (P := LogInv) _ (fun _ w inv => logInv_write store inv w) ws _ logInv_empty

end

/-- **Each evidence row tells one thing**: after every run of writes, a canonical activity rests on rows of its own that are of no
operation, an operation of an epoch has one row or one activity, and no two rows share an id or a change. -/
theorem evidence_orderly (store : ContentStore) (ws : List Write) :
    let log := ws.foldl (RunLog.write store) RunLog.empty
    (∀ a ∈ log.activities, a.sourceEvidenceIds ≠ [] ∧ (∀ id ∈ a.sourceEvidenceIds, ∃ r ∈ log.rows, r.id = id ∧ r.operation = none) ∧
      ∀ r ∈ log.rows, isLifecycleRow a.executionEpoch a.operationId r = false) ∧
    log.activities.Pairwise (fun a b => (a.executionEpoch, a.operationId) ≠ (b.executionEpoch, b.operationId) ∧
      ∀ id ∈ a.sourceEvidenceIds, id ∉ b.sourceEvidenceIds) ∧
    log.rows.Pairwise fun a b => a.id ≠ b.id ∧ a.changeSequence ≠ b.changeSequence ∧ ∀ epoch op,
      isLifecycleRow epoch op a = true → isLifecycleRow epoch op b = false := by
  intro log
  have inv : LogInv log := logInv_run store ws
  refine ⟨fun a ha => ⟨inv.sourced a ha, inv.sources a ha, inv.apart a ha⟩, ?_, ?_⟩
  · refine (inv.operations.and inv.owners).imp fun ⟨hop, howner⟩ => ⟨fun h => hop ⟨?_, ?_⟩, howner⟩
    · exact congrArg Prod.fst h
    · exact congrArg Prod.snd h
  · refine (inv.ids.and (inv.distinct.and inv.lifecycles)).imp fun ⟨hid, hchange, hlife⟩ => ⟨hid, hchange, fun epoch op ha => ?_⟩
    obtain ⟨hepoch, o, ho, hop⟩ := isLifecycleRow_iff.1 ha
    by_contra hb
    obtain ⟨hepoch', o', ho', hop'⟩ := isLifecycleRow_iff.1 (Bool.eq_true_of_not_eq_false hb)
    exact hlife o o' ho ho' ⟨hepoch.trans hepoch'.symm, hop.trans hop'.symm⟩

end Rovai
