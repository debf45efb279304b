import RovaiCore.SessionContext
/-!
# The Deliveries of a batch Run

A Delivery that started a batch Run ends with it.  What a settlement does to one Delivery, where a Delivery that has started a
Run can be, and what the end of a Run and a launch make of it.
-/
namespace Rovai.AgentRuns

open Tables (Table)
open Store

/-! ## One Delivery of a settlement -/

/-- What the settlement of a Run's steered Deliveries does to one: its outcome is unknown, or it returns to the queue. -/
inductive SteerRow (d : CampMessageDelivery) : CampMessageDelivery → Prop
  | kept : SteerRow d d
  | unknown {d' : CampMessageDelivery} (hsteer : d.requestedMode = .steer) (hmode : d'.requestedMode = .steer)
      (hstatus : d'.status = .failed) : SteerRow d d'
  | returned {d' : CampMessageDelivery} (hsteer : d.requestedMode = .steer) (hclaimed : d'.claimedAgentRunId = none)
      (hmode : d'.requestedMode = .start) (hstatus : d'.status = .waiting) : SteerRow d d'

theorem SteerRow.trans {a b c : CampMessageDelivery} (h : SteerRow a b) (h' : SteerRow b c) : SteerRow a c := by
  cases h with
  | kept => exact h'
  | unknown hsteer hmode hstatus =>
    cases h' with
    | kept => exact .unknown hsteer hmode hstatus
    | unknown _ hmode hstatus => exact .unknown hsteer hmode hstatus
    | returned _ hclaimed hmode hstatus => exact .returned hsteer hclaimed hmode hstatus
  | returned hsteer hclaimed hmode hstatus =>
    -- What is back in the queue is not steered any more.
    cases h' with
    | kept => exact .returned hsteer hclaimed hmode hstatus
    | unknown hsteer => simp [hmode] at hsteer
    | returned hsteer => simp [hmode] at hsteer

inductive SettledRow (runId : String) (status : DeliveryStatus) (code : Option String) (d : CampMessageDelivery) :
    CampMessageDelivery → Prop
  | kept (hnot : d.claimedAgentRunId = some runId → d.status ≠ .claimed) : SettledRow runId status code d d
  | settled (hclaimed : d.claimedAgentRunId = some runId) (hstatus : d.status = .claimed) :
      SettledRow runId status code d { d with status := status, failureCode := code }
  | steered {d' : CampMessageDelivery} (hsteer : d.requestedMode = .steer) (h : SteerRow d d')
      (hstatus : d'.status ≠ .claimed) : SettledRow runId status code d d'

namespace Store

variable (s : Store) (runId : String)

theorem failUnknownSteer_rows :
    Table.Grows SteerRow (fun _ => False) s.deliveries (s.failUnknownSteer runId).deliveries := by
  refine .updateWhere (fun _ => .kept) s.deliveries _ _ (by intro _; rfl) fun k d hd hguard => ?_
  simp only [Bool.and_eq_true, beq_iff_eq] at hguard
  exact .unknown hguard.1.1.2 hguard.1.1.2 rfl

theorem returnUnsentSteer_rows :
    Table.Grows SteerRow (fun _ => False) s.deliveries (s.returnUnsentSteer runId).deliveries := by
  refine .updateWhere (fun _ => .kept) s.deliveries _ _ (by intro _; rfl) fun k d hd hguard => ?_
  simp only [Bool.and_eq_true, beq_iff_eq] at hguard
  exact .returned hguard.1.1.2 rfl rfl rfl

theorem settleExecution_rows (runStatus : AgentRunStatus) :
    Table.Grows SteerRow (fun _ => False) s.deliveries (s.settleExecution runId runStatus).deliveries := by
  have hreturned : Table.Grows SteerRow (fun _ => False) s.deliveries
      (if runStatus = .succeeded then (s.refuseUnsentSteer runId).returnUnsentSteer runId
        else s.refuseUnsentSteer runId).deliveries := by
    split
    · exact (s.refuseUnsentSteer runId).returnUnsentSteer_rows runId
    · exact .refl (fun _ => .kept) s.deliveries
  exact hreturned.trans SteerRow.trans (fun hf _ => hf) (Store.failUnknownSteer_rows
    ((if runStatus = .succeeded then (s.refuseUnsentSteer runId).returnUnsentSteer runId
      else s.refuseUnsentSteer runId).loseSentSteer runId) runId)

/-- **A settlement**, one Delivery at a time. -/
theorem settleBatchDeliveries_rows {run : AgentRun} {runStatus : AgentRunStatus} {status : DeliveryStatus}
    {code : Option String} (hbatch : run.campTurnId = none) (hstatus : deliveryStatus runStatus = some status) :
    Table.Grows (SettledRow run.id status code) (fun _ => False) s.deliveries
      (s.settleBatchDeliveries run runStatus code).deliveries := by
  unfold settleBatchDeliveries settleRunDeliveries
  rw [if_pos hbatch, hstatus]
  have hclaimed : ∀ s : Store, Table.Grows (SettledRow run.id status code) (fun _ => False) s.deliveries
      (s.settleClaimedDeliveries run.id status code).deliveries := by
    intro s
    refine .rows s.deliveries _ _ (by intro _; rfl) fun k d hd => ?_
    by_cases hguard : d.claimedAgentRunId = some run.id ∧ d.status = .claimed
    · rw [if_pos (by simpa using hguard)]
      exact .settled hguard.1 hguard.2
    · rw [if_neg (by simpa using hguard)]
      exact .kept fun hclaimed hstatus => hguard ⟨hclaimed, hstatus⟩
  refine .comp (fun hab hbc => ?_) (fun hf _ => hf) id (s.settleExecution_rows run.id runStatus) (hclaimed _)
  cases hbc with
  | kept hnot =>
    cases hab with
    | kept => exact .kept hnot
    | unknown hsteer hmode hstatus => exact .steered hsteer (.unknown hsteer hmode hstatus) (by simp [hstatus])
    | returned hsteer hclaimed hmode hstatus =>
      exact .steered hsteer (.returned hsteer hclaimed hmode hstatus) (by simp [hstatus])
  | settled hclaimed hstatus =>
    cases hab with
    | kept => exact .settled hclaimed hstatus
    | unknown _ _ hfailed => simp [hfailed] at hstatus
    | returned _ hnone => simp [hnone] at hclaimed
  | steered hsteer h hstatus =>
    cases hab with
    | kept => exact .steered hsteer h hstatus
    | unknown hsteer' hmode hfailed => exact .steered hsteer' (.trans (.unknown hsteer' hmode hfailed) h) hstatus
    | returned _ _ hmode => simp [hmode] at hsteer

end Store

/-! ## Where a Delivery is -/

def starts (d : CampMessageDelivery) (runId : String) : Prop :=
  d.requestedMode = .start ∧ d.claimedAgentRunId = some runId

/-- A Delivery waits for a Run, and what has started one is claimed until the Run ends; no input of that Run was built for it
besides. -/
structure Placed (s : Store) : Prop where
  waiting : ∀ {k d}, s.deliveries.find? k = some d → d.status = .waiting → d.claimedAgentRunId = none
  started : ∀ {k d runId}, s.deliveries.find? k = some d → starts d runId →
    ∃ run, s.runs.find? runId = some run ∧ run.invocationKind = .batch ∧ (d.status = .claimed ↔ terminal run.status = false)
  unsteered : ∀ {k d l m}, s.deliveries.find? k = some d → s.manifests.find? l = some m → m.sourceDeliveryId = some k →
    ¬starts d m.agentRunId

def Agrees (s : Store) (runId : String) : Prop :=
  ∀ run, s.runs.find? runId = some run → terminal run.status = true →
    ∀ k d, s.deliveries.find? k = some d → starts d runId →
      deliveryStatus run.status = some d.status ∧ d.failureCode = run.terminalReason

inductive DeliveryKept (d : CampMessageDelivery) : CampMessageDelivery → Prop
  | same : DeliveryKept d d
  | queued {d' : CampMessageDelivery} (before : ∀ runId, ¬starts d runId) (after : ∀ runId, ¬starts d' runId)
      (waiting : d'.status = .waiting → d'.claimedAgentRunId = none) : DeliveryKept d d'

structure NewDelivery (d : CampMessageDelivery) : Prop where
  after : ∀ runId, ¬starts d runId
  waiting : d.status = .waiting → d.claimedAgentRunId = none

abbrev DeliveriesKept (s s' : Store) : Prop :=
  Table.Grows DeliveryKept NewDelivery s.deliveries s'.deliveries

variable {s s' : Store}

theorem DeliveriesKept.of_eq (h : s'.deliveries = s.deliveries) : DeliveriesKept s s' := by
  unfold DeliveriesKept
  rw [h]
  exact .refl (fun _ => .same) s.deliveries

theorem DeliveriesKept.started (h : DeliveriesKept s s') {k runId : String} {d : CampMessageDelivery}
    (hd : s'.deliveries.find? k = some d) (hstarts : starts d runId) : s.deliveries.find? k = some d := by
  obtain ⟨d₀, hd₀, hkept⟩ | ⟨-, hnew⟩ := h.origin hd
  · cases hkept with
    | same => exact hd₀
    | queued before after => exact absurd hstarts (after runId)
  · exact absurd hstarts (hnew.after runId)

def BatchRunsKept (s s' : Store) : Prop :=
  ∀ k run, s.runs.find? k = some run → run.invocationKind = .batch → ∃ run', s'.runs.find? k = some run' ∧
    run'.invocationKind = .batch ∧ (run' = run ∨ terminal run.status = false ∧ terminal run'.status = false)

theorem BatchRunsKept.of_eq (h : s'.runs = s.runs) : BatchRunsKept s s' :=
  fun k run hrun hbatch => ⟨run, by rw [h, hrun], hbatch, .inl rfl⟩

theorem Placed.of_kept (h : Placed s) (hruns : BatchRunsKept s s') (hdeliveries : DeliveriesKept s s')
    (hmanifests : ∀ l m, s'.manifests.find? l = some m → s.manifests.find? l = some m ∨
      ∀ k d, m.sourceDeliveryId = some k → s'.deliveries.find? k = some d → d.requestedMode = .steer) : Placed s' where
  waiting {k d} hd hwaiting := by
    obtain ⟨d₀, hd₀, hkept⟩ | ⟨-, hnew⟩ := hdeliveries.origin hd
    · cases hkept with
      | same => exact h.waiting hd₀ hwaiting
      | queued before after waiting => exact waiting hwaiting
    · exact hnew.waiting hwaiting
  started {k d runId} hd hstarts := by
    obtain ⟨run, hrun, hbatch, hopen⟩ := h.started (hdeliveries.started hd hstarts) hstarts
    obtain ⟨run', hrun', hbatch', hsame⟩ := hruns runId run hrun hbatch
    refine ⟨run', hrun', hbatch', ?_⟩
    obtain rfl | ⟨hbefore, hafter⟩ := hsame
    · exact hopen
    · rw [hopen, hbefore, hafter]
  unsteered {k d l m} hd hm hsource hstarts := by
    obtain hold | hsteer := hmanifests l m hm
    · exact h.unsteered (hdeliveries.started hd hstarts) hold hsource hstarts
    have hmode := hsteer k d hsource hd
    rw [hstarts.1] at hmode
    cases hmode

theorem Agrees.of_kept {runId : String} (h : Agrees s runId) (hplaced : Placed s)
    (hruns : BatchRunsKept s s') (hdeliveries : DeliveriesKept s s') : Agrees s' runId := by
  intro run' hrun' hended k d hd hstarts
  have hold := hdeliveries.started hd hstarts
  obtain ⟨run, hrun, hbatch, -⟩ := hplaced.started hold hstarts
  obtain ⟨t, ht, -, hsame⟩ := hruns runId run hrun hbatch
  rw [hrun'] at ht
  cases ht
  obtain rfl | ⟨-, hopen⟩ := hsame
  · exact h run' hrun hended k d hold hstarts
  rw [hopen] at hended
  cases hended

/-! ## The end of a Run -/

theorem deliveryStatus_of_terminal {status : AgentRunStatus} (h : terminal status = true) :
    ∃ outcome, deliveryStatus status = some outcome := by
  cases status <;> first | exact ⟨_, rfl⟩ | cases h

theorem deliveryStatus_done {status : AgentRunStatus} {outcome : DeliveryStatus} (h : deliveryStatus status = some outcome) :
    outcome ≠ .waiting ∧ outcome ≠ .claimed := by
  cases status <;> cases h <;> decide

structure EndsWith (s s' : Store) (run ended : AgentRun) (status : DeliveryStatus) (code : Option String) : Prop where
  found : s.runs.find? run.id = some run
  ends : Ends run ended
  done : status ≠ .waiting ∧ status ≠ .claimed
  runs : ∀ k, s'.runs.find? k = if k = run.id then some ended else s.runs.find? k
  manifests : s'.manifests = s.manifests
  deliveries : run.campTurnId = none →
    Table.Grows (SettledRow run.id status code) (fun _ => False) s.deliveries s'.deliveries
  elsewhere : run.campTurnId ≠ none → s'.deliveries = s.deliveries

theorem endsWith_settled {s closed : Store} {run : AgentRun} {f : AgentRun → AgentRun} (hf : ∀ r, (f r).id = r.id)
    {runStatus : AgentRunStatus} {status : DeliveryStatus} {code : Option String} (hrun : s.runs.find? run.id = some run)
    (hclosed : closed = s ∨ closed = s.closeAbortiveRunEffects run.id) (h : Ends run (f run))
    (hstatus : deliveryStatus runStatus = some status) :
    EndsWith s ({ closed with runs := closed.runs.update run.id f hf }.settleBatchDeliveries run runStatus code) run (f run)
      status code where
  found := hrun
  ends := h
  done := deliveryStatus_done hstatus
  runs k := by
    have hruns : closed.runs = s.runs := by obtain rfl | rfl := hclosed <;> rfl
    rw [settleBatchDeliveries_eq]
    dsimp only
    rw [hruns, Table.find?_update]
    split
    · rename_i hk
      rw [hk, hrun, Option.map_some]
    · rfl
  manifests := by
    rw [settleBatchDeliveries_eq]
    obtain rfl | rfl := hclosed <;> rfl
  deliveries hbatch := by
    have hdeliveries : closed.deliveries = s.deliveries := by obtain rfl | rfl := hclosed <;> rfl
    have hrows := @settleBatchDeliveries_rows { closed with runs := closed.runs.update run.id f hf } run runStatus status code
      hbatch hstatus
    rw [← hdeliveries]
    exact hrows
  elsewhere hturn := by
    unfold settleBatchDeliveries
    rw [if_neg hturn]
    obtain rfl | rfl := hclosed <;> rfl

section

variable {s s' : Store} {run ended : AgentRun} {status : DeliveryStatus} {code : Option String} {k runId : String}

theorem EndsWith.batchTurn (h : EndsWith s s' run ended status code) {d : CampMessageDelivery}
    (hplaced : Placed s) (hd : s.deliveries.find? k = some d) (hstarts : starts d runId) (hrun : runId = run.id) :
    run.campTurnId = none ∧ d.status = .claimed := by
  obtain ⟨r, hr, hbatch, hopen⟩ := hplaced.started hd hstarts
  rw [hrun, h.found] at hr
  cases hr
  exact ⟨run.turn_of_batch hbatch, hopen.2 h.ends.open_before⟩

theorem EndsWith.started (h : EndsWith s s' run ended status code) (hplaced : Placed s)
    {d' : CampMessageDelivery} (hd' : s'.deliveries.find? k = some d') (hstarts : starts d' runId) :
    ∃ d, s.deliveries.find? k = some d ∧ starts d runId ∧
      (runId ≠ run.id ∧ d' = d ∨ runId = run.id ∧ d'.status = status ∧ d'.failureCode = code) := by
  by_cases hturn : run.campTurnId = none
  · obtain ⟨d, hd, hrow⟩ | ⟨-, hnew⟩ := (h.deliveries hturn).origin hd'
    · cases hrow with
      | kept hnot =>
        refine ⟨d', hd, hstarts, .inl ⟨fun hrun => ?_, rfl⟩⟩
        exact hnot (hrun ▸ hstarts.2) (h.batchTurn hplaced hd hstarts hrun).2
      | settled hclaimed =>
        refine ⟨d, hd, hstarts, .inr ⟨?_, rfl, rfl⟩⟩
        have hsame : d.claimedAgentRunId = some runId := hstarts.2
        rw [hclaimed] at hsame
        cases hsame
        rfl
      | steered hsteer hrow =>
        obtain ⟨hstart, hclaimed⟩ := hstarts
        cases hrow with
        | kept => simp [hsteer] at hstart
        | unknown _ hmode => simp [hmode] at hstart
        | returned _ hnone => simp [hnone] at hclaimed
    · exact hnew.elim
  · have hd : s.deliveries.find? k = some d' := by rw [← h.elsewhere hturn, hd']
    exact ⟨d', hd, hstarts, .inl ⟨fun hrun => hturn (h.batchTurn hplaced hd hstarts hrun).1, rfl⟩⟩

theorem EndsWith.placed (h : EndsWith s s' run ended status code) (hplaced : Placed s) : Placed s' where
  waiting {k d'} hd' hwaiting := by
    by_cases hturn : run.campTurnId = none
    · obtain ⟨d, hd, hrow⟩ | ⟨-, hnew⟩ := (h.deliveries hturn).origin hd'
      · cases hrow with
        | kept => exact hplaced.waiting hd hwaiting
        | settled => exact absurd hwaiting h.done.1
        | steered hsteer hrow =>
          cases hrow with
          | kept => exact hplaced.waiting hd hwaiting
          | unknown _ _ hfailed => simp [hfailed] at hwaiting
          | returned _ hnone => exact hnone
      · exact hnew.elim
    · rw [h.elsewhere hturn] at hd'
      exact hplaced.waiting hd' hwaiting
  started {k d' runId} hd' hstarts := by
    obtain ⟨d, hd, hstarts', hcase⟩ := h.started hplaced hd' hstarts
    obtain ⟨r, hr, hbatch, hopen⟩ := hplaced.started hd hstarts'
    rw [h.runs]
    obtain ⟨hne, rfl⟩ | ⟨rfl, hstatus, -⟩ := hcase
    · exact ⟨r, by rw [if_neg hne, hr], hbatch, hopen⟩
    rw [h.found] at hr
    cases hr
    refine ⟨ended, if_pos rfl, h.ends.invocationKind.trans hbatch, ?_⟩
    rw [hstatus, h.ends.ended]
    simp [h.done.2]
  unsteered {k d' l m} hd' hm hsource hstarts := by
    obtain ⟨d, hd, hstarts', -⟩ := h.started hplaced hd' hstarts
    rw [h.manifests] at hm
    exact hplaced.unsteered hd hm hsource hstarts'

theorem EndsWith.agrees (h : EndsWith s s' run ended status code) (hplaced : Placed s) {runId : String}
    (hagrees : Agrees s runId)
    (houtcome : runId = run.id → deliveryStatus ended.status = some status ∧ code = ended.terminalReason) :
    Agrees s' runId := by
  intro run' hrun' hended k d' hd' hstarts
  rw [h.runs] at hrun'
  obtain ⟨d, hd, hstarts', ⟨hne, rfl⟩ | ⟨rfl, hstatus, hcode⟩⟩ := h.started hplaced hd' hstarts
  · rw [if_neg hne] at hrun'
    exact hagrees run' hrun' hended k d' hd hstarts'
  · rw [if_pos rfl] at hrun'
    cases hrun'
    rw [hstatus, hcode]
    exact houtcome rfl

theorem EndsWith.fixed (h : EndsWith s s' run ended status code) {d : CampMessageDelivery} {r : AgentRun}
    (hd : s.deliveries.find? k = some d) (hstarts : starts d runId) (hr : s.runs.find? runId = some r)
    (hended : terminal r.status = true) : s'.deliveries.find? k = some d ∧ s'.runs.find? runId = some r := by
  have hne : runId ≠ run.id := by
    rintro rfl
    rw [h.found] at hr
    cases hr
    rw [h.ends.open_before] at hended
    cases hended
  refine ⟨?_, by rw [h.runs, if_neg hne, hr]⟩
  by_cases hturn : run.campTurnId = none
  · obtain ⟨d', hd', hrow⟩ := (h.deliveries hturn).kept hd
    cases hrow with
    | kept => exact hd'
    | settled hclaimed =>
      rw [hstarts.2] at hclaimed
      cases hclaimed
      exact absurd rfl hne
    | steered hsteer =>
      rw [hstarts.1] at hsteer
      cases hsteer
  · rw [h.elsewhere hturn, hd]

end

/-! ## A launch -/

theorem insertBatchRun_row {s : Store} {claim : LaneClaim} {conversationId : String} {selected : List String} {k : String}
    {d' : CampMessageDelivery} (h : (s.insertBatchRun claim conversationId selected).deliveries.find? k = some d') :
    s.deliveries.find? k = some d' ∨ ∃ d, s.deliveries.find? k = some d ∧ d.status = .waiting ∧ d' = { d with
      status := if claim.errorCode.isSome then .failed else .claimed
      claimedAgentRunId := some claim.runId, failureCode := claim.errorCode } := by
  unfold insertBatchRun at h
  rw [Table.find?_updateWhere] at h
  obtain ⟨d, hd, rfl⟩ := Option.map_eq_some_iff.1 h
  split
  · rename_i hguard
    simp only [Bool.and_eq_true, beq_iff_eq] at hguard
    exact .inr ⟨d, hd, hguard.2, rfl⟩
  · exact .inl hd

theorem insertBatchRun_run {s : Store} {claim : LaneClaim} {conversationId : String} {selected : List String}
    (hfresh : s.runs.find? claim.runId = none) (k : String) :
    (s.insertBatchRun claim conversationId selected).runs.find? k =
      if k = claim.runId then some (newBatchRun claim conversationId) else s.runs.find? k :=
  Table.find?_insert hfresh k

theorem launched_status (claim : LaneClaim) :
    (if claim.errorCode.isSome then DeliveryStatus.failed else .claimed) = .claimed ↔
      terminal (if claim.errorCode.isSome then AgentRunStatus.failed else .queued) = false := by
  by_cases herror : claim.errorCode.isSome = true <;> simp [herror, terminal]

section

variable {s : Store} {claim : LaneClaim} {conversationId : String} {selected : List String}

theorem Placed.not_fresh (h : Placed s) {k runId : String} {d : CampMessageDelivery} (hd : s.deliveries.find? k = some d)
    (hstarts : starts d runId) (hfresh : s.runs.find? claim.runId = none) : runId ≠ claim.runId := by
  rintro rfl
  obtain ⟨run, hrun, -⟩ := h.started hd hstarts
  rw [hfresh] at hrun
  cases hrun

theorem Placed.launched (h : Placed s) (hregistered : Registered s) (hfresh : s.runs.find? claim.runId = none) :
    Placed (s.insertBatchRun claim conversationId selected) where
  waiting {k d'} hd' hwaiting := by
    obtain hd | ⟨d, hd, -, rfl⟩ := insertBatchRun_row hd'
    · exact h.waiting hd hwaiting
    · by_cases herror : claim.errorCode.isSome = true <;> simp [herror] at hwaiting
  started {k d' runId} hd' hstarts := by
    rw [insertBatchRun_run hfresh]
    obtain hd | ⟨d, hd, -, rfl⟩ := insertBatchRun_row hd'
    · rw [if_neg (h.not_fresh hd hstarts hfresh)]
      exact h.started hd hstarts
    · obtain ⟨-, hclaimed⟩ := hstarts
      cases hclaimed
      exact ⟨newBatchRun claim conversationId, if_pos rfl, rfl, launched_status claim⟩
  unsteered {k d' l m} hd' hm hsource hstarts := by
    obtain hd | ⟨d, hd, -, rfl⟩ := insertBatchRun_row hd'
    · exact h.unsteered hd hm hsource hstarts
    obtain ⟨-, hclaimed⟩ := hstarts
    obtain ⟨r, hr⟩ := hregistered.manifest_run hm
    have hrun : claim.runId = m.agentRunId := Option.some.inj hclaimed
    rw [← hrun, hfresh] at hr
    cases hr

theorem Agrees.launched {runId : String} (h : Agrees s runId) (hplaced : Placed s)
    (hfresh : s.runs.find? claim.runId = none) : Agrees (s.insertBatchRun claim conversationId selected) runId := by
  intro run hrun hended k d' hd' hstarts
  rw [insertBatchRun_run hfresh] at hrun
  obtain hd | ⟨d, hd, -, rfl⟩ := insertBatchRun_row hd'
  · rw [if_neg (hplaced.not_fresh hd hstarts hfresh)] at hrun
    exact h run hrun hended k d' hd hstarts
  · obtain ⟨-, hclaimed⟩ := hstarts
    cases hclaimed
    rw [if_pos rfl] at hrun
    cases hrun
    -- Only a launch that failed has ended.
    cases herror : claim.errorCode with
    | none => simp [newBatchRun, herror, terminal] at hended
    | some code => simp [newBatchRun, herror, deliveryStatus, AgentRun.terminalReason]

theorem insertBatchRun_fixed (hplaced : Placed s) {k runId : String} {d : CampMessageDelivery}
    (hd : s.deliveries.find? k = some d) (hstarts : starts d runId) :
    (s.insertBatchRun claim conversationId selected).deliveries.find? k = some d := by
  have hnot : d.status ≠ .waiting := by
    intro hwaiting
    have hnone := hplaced.waiting hd hwaiting
    rw [hstarts.2] at hnone
    cases hnone
  unfold insertBatchRun
  rw [Table.find?_updateWhere, hd, Option.map_some, if_neg (by simp [hnot])]

end

end Rovai.AgentRuns
