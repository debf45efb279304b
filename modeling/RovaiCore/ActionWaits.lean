import RovaiCore.ActionRows
/-!
# What a Run waits for

A Run that waits with a reason of its actions has something that it waits for, and one that runs has nothing that blocks it.
-/
namespace Rovai.Actions

open Tables (Table)

variable {s t x : Store} {r k : String} {C : Prop}

/-! ## Something to wait for -/

namespace Store

def HasUnknown (s : Store) (agentRunId : String) : Prop :=
  s.actions.any (activeUnknown agentRunId) = true

def Blocked (s : Store) (agentRunId : String) : Prop :=
  s.approvals.any (s.pendingApproval agentRunId) = true ∨ s.HasUnknown agentRunId ∨ s.deliveries.any (openDelivery agentRunId) = true

def inHand (agentRunId : String) (a : ActionExecution) : Bool :=
  a.agentRunId == agentRunId && (a.status == .prepared || a.status == .executing)

def Occupied (s : Store) (agentRunId : String) : Prop :=
  s.Blocked agentRunId ∨ s.actions.any (inHand agentRunId) = true

instance (s : Store) (agentRunId : String) : Decidable (s.HasUnknown agentRunId) :=
  inferInstanceAs (Decidable (_ = true))

instance (s : Store) (agentRunId : String) : Decidable (s.Blocked agentRunId) :=
  inferInstanceAs (Decidable (_ ∨ _ ∨ _))

instance (s : Store) (agentRunId : String) : Decidable (s.Occupied agentRunId) :=
  inferInstanceAs (Decidable (_ ∨ _))

end Store

theorem pendingApproval_iff {p : Approval} :
    s.pendingApproval r p = true ↔ p.status = .pending ∧ ∃ a, s.actions.find? p.actionId = some a ∧ a.agentRunId = r := by
  simp [Store.pendingApproval, Option.any_eq_true]

variable {a : ActionExecution}

theorem activeUnknown_iff :
    Store.activeUnknown r a = true ↔ a.agentRunId = r ∧ a.status = .unknown ∧ a.unknownDisposition = some .active := by
  simp [Store.activeUnknown, and_assoc]

theorem openDelivery_iff {d : RuntimeDelivery} : Store.openDelivery r d = true ↔ d.agentRunId = r ∧ d.status.unsettled = true := by
  simp [Store.openDelivery]

theorem inHand_iff :
    Store.inHand r a = true ↔ a.agentRunId = r ∧ (a.status = .prepared ∨ a.status = .executing) := by
  simp [Store.inHand]

theorem Store.Blocked.ofApproval {p : Approval} (hp : s.approvals.find? k = some p) (hpending : p.status = .pending)
    (ha : s.actions.find? p.actionId = some a) (hrun : a.agentRunId = r) : s.Blocked r :=
  .inl (Table.any_iff.2 ⟨k, p, hp, pendingApproval_iff.2 ⟨hpending, a, ha, hrun⟩⟩)

theorem Store.Blocked.ofUnknown (h : s.HasUnknown r) : s.Blocked r :=
  .inr (.inl h)

theorem Store.Blocked.ofDelivery {d : RuntimeDelivery} (hd : s.deliveries.find? k = some d) (hrun : d.agentRunId = r)
    (hopen : d.status.unsettled = true) : s.Blocked r :=
  .inr (.inr (Table.any_iff.2 ⟨k, d, hd, openDelivery_iff.2 ⟨hrun, hopen⟩⟩))

theorem Store.Occupied.ofAction (ha : s.actions.find? k = some a) (hrun : a.agentRunId = r)
    (hstatus : a.status = .prepared ∨ a.status = .executing) : s.Occupied r :=
  .inr (Table.any_iff.2 ⟨k, a, ha, inHand_iff.2 ⟨hrun, hstatus⟩⟩)

theorem Store.HasUnknown.ofAction (ha : s.actions.find? k = some a) (hrun : a.agentRunId = r)
    (hstatus : a.status = .unknown) (hactive : a.unknownDisposition = some .active) : s.HasUnknown r :=
  Table.any_iff.2 ⟨k, a, ha, activeUnknown_iff.2 ⟨hrun, hstatus, hactive⟩⟩

theorem Store.Blocked.back
    (happroval : ∀ {k p a}, x.approvals.find? k = some p → p.status = .pending → x.actions.find? p.actionId = some a →
      a.agentRunId = r → s.Blocked r)
    (hunknown : x.HasUnknown r → s.Blocked r)
    (hdelivery : ∀ {k d}, x.deliveries.find? k = some d → d.agentRunId = r → d.status.unsettled = true → s.Blocked r) :
    x.Blocked r → s.Blocked r := by
  rintro (h | h | h)
  · obtain ⟨k, p, hp, h⟩ := Table.any_iff.1 h
    obtain ⟨hpending, a, ha, hrun⟩ := pendingApproval_iff.1 h
    exact happroval hp hpending ha hrun
  · exact hunknown h
  · obtain ⟨k, d, hd, h⟩ := Table.any_iff.1 h
    obtain ⟨hrun, hopen⟩ := openDelivery_iff.1 h
    exact hdelivery hd hrun hopen

theorem otherBlockers_eq_zero : s.otherBlockers r = 0 ↔ ¬ s.Blocked r := by
  unfold Store.otherBlockers Store.Blocked Store.HasUnknown
  rw [Nat.add_eq_zero_iff, Nat.add_eq_zero_iff, Table.countP_eq_zero, Table.countP_eq_zero, Table.countP_eq_zero, not_or, not_or, and_assoc]

/-! ## The other Runs -/

section
variable (h : Elsewhere r s t) (hne : k ≠ r)
include h hne

theorem Elsewhere.any_actions {p : ActionExecution → Bool} (hp : ∀ a, p a = true → a.agentRunId = k) :
    t.actions.any p = true ↔ s.actions.any p = true := by
  rw [Table.any_iff, Table.any_iff]
  refine exists_congr fun j => exists_congr fun a => and_congr_left fun ha => h.actions ?_
  exact fun hrun => hne ((hp a ha).symm.trans hrun)

theorem Elsewhere.hasUnknown : t.HasUnknown k ↔ s.HasUnknown k :=
  h.any_actions hne fun _ ha => (activeUnknown_iff.1 ha).1

theorem Elsewhere.pending : t.approvals.any (t.pendingApproval k) = true ↔ s.approvals.any (s.pendingApproval k) = true := by
  rw [Table.any_iff, Table.any_iff]
  refine exists_congr fun j => exists_congr fun p => ⟨fun ⟨hp, hpending⟩ => ?_, fun ⟨hp, hpending⟩ => ?_⟩
  · obtain ⟨hstatus, a, ha, hrun⟩ := pendingApproval_iff.1 hpending
    have hother : a.agentRunId ≠ r := hrun ▸ hne
    have ha' := (h.actions hother).1 ha
    exact ⟨(h.approvals ha' hother).1 hp, pendingApproval_iff.2 ⟨hstatus, a, ha', hrun⟩⟩
  · obtain ⟨hstatus, a, ha, hrun⟩ := pendingApproval_iff.1 hpending
    have hother : a.agentRunId ≠ r := hrun ▸ hne
    exact ⟨(h.approvals ha hother).2 hp, pendingApproval_iff.2 ⟨hstatus, a, (h.actions hother).2 ha, hrun⟩⟩

theorem Elsewhere.blocked : t.Blocked k ↔ s.Blocked k := by
  refine or_congr (h.pending hne) (or_congr (h.hasUnknown hne) ?_)
  rw [Table.any_iff, Table.any_iff]
  refine exists_congr fun j => exists_congr fun d => and_congr_left fun hd => h.deliveries ?_
  exact fun hrun => hne ((openDelivery_iff.1 hd).1.symm.trans hrun)

theorem Elsewhere.occupied : t.Occupied k ↔ s.Occupied k :=
  or_congr (h.blocked hne) (h.any_actions hne fun _ ha => (inHand_iff.1 ha).1)

end

/-! ## Runs -/

def AgentRun.attended (run : AgentRun) : Bool :=
  !run.cancelRequested && !run.runtimeRecoveryRequired

/-- `C` tells whether the unknown outcomes are settled with care. -/
structure RunWaits (C : Prop) (s : Store) (run : AgentRun) : Prop where
  occupied : run.status = .waiting → Store.resumable run.waitReason = true → s.Occupied run.id
  unknown : C → run.status = .waiting → run.waitReason = some .unknownActionOutcome → s.HasUnknown run.id
  unblocked : run.status = .running → ¬ s.Blocked run.id

def Waits (C : Prop) (s : Store) : Prop :=
  ∀ k run, s.runs.find? k = some run → run.attended = true → RunWaits C s run

variable {run : AgentRun}

theorem RunWaits.elsewhere (h : RunWaits C s run) (he : Elsewhere r s t) (hne : run.id ≠ r) : RunWaits C t run where
  occupied hwaiting hreason := (he.occupied hne).2 (h.occupied hwaiting hreason)
  unknown hC hwaiting hreason := (he.hasUnknown hne).2 (h.unknown hC hwaiting hreason)
  unblocked hrunning hblocked := h.unblocked hrunning ((he.blocked hne).1 hblocked)

theorem RunWaits.ofInactive (h : run.status.active = false) : RunWaits C s run where
  occupied hwaiting := by
    rw [hwaiting] at h
    cases h
  unknown _ hwaiting := by
    rw [hwaiting] at h
    cases h
  unblocked hrunning := by
    rw [hrunning] at h
    cases h

def waitingRun (reason : WaitReason) (run : AgentRun) : AgentRun :=
  { run with status := .waiting, waitReason := some reason, version := run.version + 1 }

theorem runs_markAgentRunWaiting {reason : WaitReason}
    (h : (s.markAgentRunWaiting r reason).runs.find? k = some run) :
    ∃ before, s.runs.find? k = some before ∧
      (before.id = r ∧ before.status.active = true ∧ run = waitingRun reason before ∨
        ¬ (before.id = r ∧ before.status.active = true) ∧ run = before) := by
  unfold Store.markAgentRunWaiting at h
  rw [Table.find?_updateWhere] at h
  obtain ⟨before, hbefore, rfl⟩ := Option.map_eq_some_iff.1 h
  refine ⟨before, hbefore, ?_⟩
  split
  · rename_i hguard
    simp only [Bool.and_eq_true, beq_iff_eq] at hguard
    exact .inl ⟨hguard.1, hguard.2, rfl⟩
  · rename_i hguard
    simp only [Bool.and_eq_true, beq_iff_eq] at hguard
    exact .inr ⟨hguard, rfl⟩

def resumedRun (run : AgentRun) : AgentRun :=
  { run with
    status := if run.runtimeRecoveryRequired then .waiting else .running
    waitReason := if run.runtimeRecoveryRequired then some .runtimeRecovery else none
    version := run.version + 1 }

theorem runs_resumeAgentRunIfUnblocked (h : (s.resumeAgentRunIfUnblocked r).runs.find? k = some run) :
    ∃ before, s.runs.find? k = some before ∧
      (before.id = r ∧ ¬ s.Blocked r ∧ before.status = .waiting ∧ Store.resumable before.waitReason = true ∧ run = resumedRun before ∨
        (before.id = r → s.Blocked r ∨ ¬ (before.status = .waiting ∧ Store.resumable before.waitReason = true)) ∧ run = before) := by
  unfold Store.resumeAgentRunIfUnblocked at h
  split at h
  · rename_i hnone
    rw [Table.find?_updateWhere] at h
    obtain ⟨before, hbefore, rfl⟩ := Option.map_eq_some_iff.1 h
    refine ⟨before, hbefore, ?_⟩
    split
    · rename_i hguard
      simp only [Bool.and_eq_true, beq_iff_eq] at hguard
      exact .inl ⟨hguard.1.1, otherBlockers_eq_zero.1 hnone, hguard.1.2, hguard.2, rfl⟩
    · rename_i hguard
      simp only [Bool.and_eq_true, beq_iff_eq] at hguard
      exact .inr ⟨fun hid => .inr fun hwaits => hguard ⟨⟨hid, hwaits.1⟩, hwaits.2⟩, rfl⟩
  · rename_i hsome
    exact ⟨run, h, .inr ⟨fun _ => .inl (by_contra fun hno => hsome (otherBlockers_eq_zero.2 hno)), rfl⟩⟩

/-! ## What a command does to its Run -/

inductive Settles (C : Prop) (s t : Store) : Prop
  | keep (r : String) (hwrites : Writes r s t) (hblocked : t.Blocked r → s.Blocked r) (hoccupied : s.Occupied r → t.Occupied r)
      (hunknown : C → s.HasUnknown r → t.HasUnknown r)
  | wait (r : String) (x : Store) (reason : WaitReason) (hwrites : Writes r s x) (ht : t = x.markAgentRunWaiting r reason)
      (hoccupied : Store.resumable (some reason) = true → x.Occupied r) (hunknown : reason = .unknownActionOutcome → x.HasUnknown r)
  | resume (r : String) (x : Store) (hwrites : Writes r s x) (ht : t = x.resumeAgentRunIfUnblocked r)
      (hblocked : x.Blocked r → s.Blocked r) (hunknown : C → s.HasUnknown r → x.HasUnknown r)
  | leave (r : String) (x : Store) (f : AgentRun → AgentRun) (hf : ∀ run, (f run).id = run.id) (hwrites : Writes r s x)
      (ht : t = { x with runs := x.runs.update r f hf })
      (hleft : (∀ run, (f run).runtimeRecoveryRequired = true ∧ (f run).status.active = true) ∨
        (∀ run, (f run).status.active = false) ∧ ∀ k a, x.actions.find? k = some a → a.agentRunId = r → a.status ≠ .prepared)
  | aside (r : String) (hwrites : Writes r s t)
      (hleft : ∀ run, s.runs.find? r = some run → run.status.active = false ∨ run.cancelRequested = true)

theorem Sound.of_rows (h : Sound s) (hactions : t.actions = s.actions) (hattempts : t.attempts = s.attempts)
    (happrovals : t.approvals = s.approvals) (hdeliveries : t.deliveries = s.deliveries) : Sound t := by
  obtain ⟨runs, actions, attempts, approvals, deliveries⟩ := t
  dsimp only at hactions hattempts happrovals hdeliveries
  subst hactions hattempts happrovals hdeliveries
  exact ⟨h.approvalAction, h.approvalUnique, h.deliveryAction, h.attemptAction, h.unanswered, h.resulted⟩

theorem Settles.sound (h : Settles C s t) : Sound t := by
  cases h with
  | keep _ hwrites => exact hwrites.sound
  | wait _ _ _ hwrites ht =>
    subst ht
    exact hwrites.sound.of_rows rfl rfl rfl rfl
  | resume _ _ hwrites ht =>
    subst ht
    unfold Store.resumeAgentRunIfUnblocked
    split
    · exact hwrites.sound.of_rows rfl rfl rfl rfl
    · exact hwrites.sound
  | leave _ _ _ _ hwrites ht =>
    subst ht
    exact hwrites.sound.of_rows rfl rfl rfl rfl
  | aside _ hwrites => exact hwrites.sound

theorem attended_iff :
    run.attended = true ↔ run.cancelRequested = false ∧ run.runtimeRecoveryRequired = false := by
  simp [AgentRun.attended]

theorem RunWaits.of_rows (h : RunWaits C x run) (hactions : t.actions = x.actions)
    (happrovals : t.approvals = x.approvals) (hdeliveries : t.deliveries = x.deliveries) : RunWaits C t run := by
  obtain ⟨runs, actions, attempts, approvals, deliveries⟩ := t
  dsimp only at hactions happrovals hdeliveries
  subst hactions happrovals hdeliveries
  exact ⟨h.occupied, h.unknown, h.unblocked⟩

/-- **A Run goes on waiting only for something**, whatever the command has done. -/
theorem Settles.waits (h : Settles C s t) (hs : Waits C s) : Waits C t := by
  intro k run hrun hattended
  cases h with
  | keep r hwrites hblocked hoccupied hunknown =>
    have hbefore := hs k run (hwrites.runs ▸ hrun) hattended
    by_cases hid : run.id = r
    · subst hid
      exact ⟨fun hw hr => hoccupied (hbefore.occupied hw hr), fun hC hw hr => hunknown hC (hbefore.unknown hC hw hr),
        fun hr hb => hbefore.unblocked hr (hblocked hb)⟩
    · exact hbefore.elsewhere hwrites.toElsewhere hid
  | wait r x reason hwrites ht hoccupied hunknown =>
    subst ht
    obtain ⟨before, hfound, ⟨hid, hactive, rfl⟩ | ⟨hother, rfl⟩⟩ := runs_markAgentRunWaiting hrun
    · subst hid
      refine RunWaits.of_rows (x := x) ⟨fun _ hr => hoccupied hr, fun _ _ hr => ?_, fun hr => ?_⟩ rfl rfl rfl
      · exact hunknown (Option.some.inj hr)
      · cases hr
    · refine RunWaits.of_rows (x := x) ?_ rfl rfl rfl
      by_cases hid : run.id = r
      · exact .ofInactive (Bool.of_not_eq_true fun hactive => hother ⟨hid, hactive⟩)
      · exact (hs k run (hwrites.runs ▸ hfound) hattended).elsewhere hwrites.toElsewhere hid
  | resume r x hwrites ht hblocked hunknown =>
    subst ht
    have hrows : ∀ {run}, RunWaits C x run → RunWaits C (x.resumeAgentRunIfUnblocked r) run := by
      intro run h
      unfold Store.resumeAgentRunIfUnblocked
      split
      · exact h.of_rows rfl rfl rfl
      · exact h
    refine hrows ?_
    obtain ⟨before, hfound, ⟨hid, hfree, hwaiting, hresumable, rfl⟩ | ⟨hstays, rfl⟩⟩ := runs_resumeAgentRunIfUnblocked hrun
    · -- The Run is resumed, for nothing blocks it.
      subst hid
      have hrecovery : before.runtimeRecoveryRequired = false := (attended_iff.1 hattended).2
      refine ⟨fun hw => ?_, fun _ hw => ?_, fun _ => hfree⟩
      · simp [resumedRun, hrecovery] at hw
      · simp [resumedRun, hrecovery] at hw
    · have hbefore := hs k run (hwrites.runs ▸ hfound) hattended
      by_cases hid : run.id = r
      · subst hid
        refine ⟨fun hw hr => ?_, fun hC hw hr => hunknown hC (hbefore.unknown hC hw hr), fun hr hb => ?_⟩
        · exact .inl ((hstays rfl).resolve_right fun hno => hno ⟨hw, hr⟩)
        · exact hbefore.unblocked hr (hblocked hb)
      · exact hbefore.elsewhere hwrites.toElsewhere hid
  | leave r x f hf hwrites ht hleft =>
    subst ht
    refine RunWaits.of_rows (x := x) ?_ rfl rfl rfl
    rw [Table.find?_update] at hrun
    split at hrun
    · obtain ⟨before, -, rfl⟩ := Option.map_eq_some_iff.1 hrun
      obtain hrecovers | ⟨hends, -⟩ := hleft
      · have hrecovery := (hrecovers before).1
        rw [(attended_iff.1 hattended).2] at hrecovery
        cases hrecovery
      · exact .ofInactive (hends before)
    · rename_i hne
      refine (hs k run (hwrites.runs ▸ hrun) hattended).elsewhere hwrites.toElsewhere ?_
      exact Table.key_of_find? hrun ▸ hne
  | aside r hwrites hleft =>
    have hfound := hwrites.runs ▸ hrun
    by_cases hid : run.id = r
    · obtain hinactive | hcancelled := hleft run (hid ▸ Table.find?_key hfound)
      · exact .ofInactive hinactive
      rw [(attended_iff.1 hattended).1] at hcancelled
      cases hcancelled
    · exact (hs k run hfound hattended).elsewhere hwrites.toElsewhere hid

end Rovai.Actions
