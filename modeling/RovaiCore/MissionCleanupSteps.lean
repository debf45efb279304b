import RovaiCore.MissionSystem
/-!
# What the steps of an attempt and of a preparation do

While an attempt holds the gate, nothing that comes at any time takes the row of its pending cleanup away before it has ended, or
changes more of it than the command and the diagnostic.
-/
namespace Rovai.Mission

open Program (Stable Triple)

/-! ## The others -/

def Others (s s' : Lifecycle) : Prop :=
  ∃ event : Outside, s' = event.apply s

def Same (w row : MissionWorkspace) : Prop :=
  row = { w with cleanupCommandId := row.cleanupCommandId, diagnostic := row.diagnostic }

variable (w : MissionWorkspace)

theorem Same.refl : Same w w := rfl

theorem Same.finished {w row : MissionWorkspace} (h : Same w row) : row.cleanupFinished = w.cleanupFinished := by
  rw [h]; rfl

theorem Same.state {w row : MissionWorkspace} (h : Same w row) : row.state = w.state := by
  rw [h]

/-- The row is the one of the pending cleanup, or the cleanup has ended and the row is gone with its thread. -/
def Custody (s : Lifecycle) : Prop :=
  w.state = .cleanupPending ∧
    ((∃ row, s.workspace = some row ∧ Same w row) ∨ (w.cleanupFinished = true ∧ s.workspace = none))

section Others

variable {s : Lifecycle} {row : MissionWorkspace} (operationId : String)

theorem acceptDeletion_workspace (disposition : Lifecycle.MissionWorkspaceDisposition)
    (hrow : s.workspace = some row) (hstate : row.state = .cleanupPending) :
    (s.acceptDeletion operationId disposition).workspace = some row ∨
      (row.cleanupFinished = true ∧ (s.acceptDeletion operationId disposition).workspace = none) ∨
      (s.acceptDeletion operationId disposition).workspace = some { row with cleanupCommandId := some operationId, diagnostic := none } := by
  rw [Lifecycle.acceptDeletion]
  cases s.camp with
  | deleting => exact .inl hrow
  | gone => exact .inl hrow
  | active =>
    simp only [hrow]
    by_cases hfinished : row.cleanupFinished = true
    · simp only [hfinished, if_true]
      exact .inr (.inl ⟨trivial, trivial⟩)
    · simp only [hfinished]
      cases disposition with
      | cleanup => exact .inr (.inr (by simp [Lifecycle.scheduleDeletion, hstate]))
      | retain => simp [hstate, hrow]

theorem retryDeletion_workspace (hrow : s.workspace = some row)
    (hstate : row.state = .cleanupPending) : (s.retryDeletion operationId).workspace = some row := by
  rw [Lifecycle.retryDeletion]
  split
  · split
    · simp [Lifecycle.update, hrow, Lifecycle.failedFor, hstate]
    · exact hrow
  · exact hrow

theorem finalizeCampDeleteCleanup_workspace (hrow : s.workspace = some row) :
    (s.finalizeCampDeleteCleanup operationId).workspace = some row ∨
      (row.cleanupFinished = true ∧ (s.finalizeCampDeleteCleanup operationId).workspace = none) := by
  rw [Lifecycle.finalizeCampDeleteCleanup]
  split
  · split
    · by_cases hfinished : row.cleanupFinished = true
      · by_cases hcommand : row.cleanupCommandId = some operationId
        · exact .inr ⟨hfinished, by simp [hrow, hfinished, hcommand, Option.filter]⟩
        · exact .inl (by simp [hrow, hcommand, Option.filter])
      · exact .inl (by simp [hrow, hfinished, Option.filter])
    · exact .inl hrow
  · exact .inl hrow

variable (event : Outside)

theorem outside_none (h : s.workspace = none) : (event.apply s).workspace = none := by
  cases event with
  | diskChanged d => exact h
  | acceptDeletion =>
    simp only [Outside.apply, Lifecycle.acceptDeletion, h]
    cases s.camp <;> simp [h]
  | retryDeletion operationId =>
    simp only [Outside.apply, Lifecycle.retryDeletion]
    split
    · split <;> simp [Lifecycle.update, h]
    · exact h
  | recordCleanupFailure =>
    simp only [Outside.apply, Lifecycle.recordCleanupFailure, Lifecycle.retryDeletion]
    split
    · exact h
    split
    · split <;> simp [Lifecycle.update, h]
    · exact h
  | finalizeCampDeleteCleanup operationId =>
    simp only [Outside.apply, Lifecycle.finalizeCampDeleteCleanup]
    split
    · split <;> simp [h]
    · exact h
  | takeSnapshot => simp [Outside.apply, Lifecycle.takeSnapshot, h]

theorem outside_pending (hrow : s.workspace = some row) (hstate : row.state = .cleanupPending) :
    (∃ row', (event.apply s).workspace = some row' ∧ Same row row') ∨
      (row.cleanupFinished = true ∧ (event.apply s).workspace = none) := by
  cases event with
  | diskChanged d => exact .inl ⟨row, hrow, .refl row⟩
  | acceptDeletion operationId disposition =>
    rcases acceptDeletion_workspace operationId disposition hrow hstate with h | h | h
    · exact .inl ⟨row, h, .refl row⟩
    · exact .inr h
    · exact .inl ⟨_, h, rfl⟩
  | retryDeletion operationId => exact .inl ⟨row, retryDeletion_workspace operationId hrow hstate, .refl row⟩
  | recordCleanupFailure operationId =>
    simp only [Outside.apply, Lifecycle.recordCleanupFailure]
    split
    · exact .inl ⟨row, hrow, .refl row⟩
    · exact .inl ⟨row, retryDeletion_workspace operationId hrow hstate, .refl row⟩
  | finalizeCampDeleteCleanup operationId =>
    rcases finalizeCampDeleteCleanup_workspace operationId hrow with h | h
    · exact .inl ⟨row, h, .refl row⟩
    · exact .inr h
  | takeSnapshot =>
    refine .inl ⟨row, ?_, .refl row⟩
    simp [Outside.apply, Lifecycle.takeSnapshot, hrow, hstate]

theorem outside_seen : (event.apply s).seen = s.seen ∧ (event.apply s).journal = s.journal := by
  cases event with
  | diskChanged d => exact ⟨rfl, rfl⟩
  | acceptDeletion =>
    simp only [Outside.apply, Lifecycle.acceptDeletion]
    split
    · split
      · exact ⟨rfl, rfl⟩
      split
      · exact ⟨rfl, rfl⟩
      split
      · exact ⟨rfl, rfl⟩
      · split <;> exact ⟨rfl, rfl⟩
    · exact ⟨rfl, rfl⟩
  | retryDeletion operationId =>
    simp only [Outside.apply, Lifecycle.retryDeletion]
    split
    · split <;> exact ⟨rfl, rfl⟩
    · exact ⟨rfl, rfl⟩
  | recordCleanupFailure =>
    simp only [Outside.apply, Lifecycle.recordCleanupFailure, Lifecycle.retryDeletion]
    split
    · exact ⟨rfl, rfl⟩
    split
    · split <;> exact ⟨rfl, rfl⟩
    · exact ⟨rfl, rfl⟩
  | finalizeCampDeleteCleanup operationId =>
    simp only [Outside.apply, Lifecycle.finalizeCampDeleteCleanup]
    split
    · split <;> exact ⟨rfl, rfl⟩
    · exact ⟨rfl, rfl⟩
  | takeSnapshot =>
    simp only [Outside.apply, Lifecycle.takeSnapshot]
    split
    · split <;> exact ⟨rfl, rfl⟩
    · exact ⟨rfl, rfl⟩

end Others

theorem Same.trans {w row row' : MissionWorkspace} (h : Same w row) (h' : Same row row') : Same w row' := by
  rw [Same] at h h' ⊢
  rw [h] at h'
  exact h'

theorem custody_stable : Stable Others (Custody w) := by
  rintro s s' ⟨event, rfl⟩ ⟨hstate, h⟩
  refine ⟨hstate, ?_⟩
  rcases h with ⟨row, hrow, hsame⟩ | ⟨hfinished, hnone⟩
  · rcases outside_pending event hrow (hsame.state.trans hstate) with ⟨row', hrow', hsame'⟩ | ⟨hfinished, hnone⟩
    · exact .inl ⟨row', hrow', hsame.trans hsame'⟩
    · exact .inr ⟨hsame.finished ▸ hfinished, hnone⟩
  · exact .inr ⟨hfinished, outside_none event hnone⟩

/-! ## The steps of an attempt -/

def Seen (p : Disk → Prop) (s : Lifecycle) : Prop :=
  ∃ d ∈ s.seen, p d

/-- Of the disks that have been read, one has the worktree with a branch checked out, or with a commit that some other reference of another
one contains. -/
def HeadRetained (git : CleanupGit) (w : MissionWorkspace) (seen : List Disk) : Prop :=
  ∃ d ∈ seen, ∃ commonDir adminDir modified, d.entries.lookup w.worktreePath = some (.checkout commonDir adminDir modified) ∧
    (checkoutReference d adminDir ≠ none ∨
      ∃ head, headOid d adminDir = some head ∧ ∃ d' ∈ seen, detachedHeadHasRetainedReference git (headRef w.branch) head d' = true)

def Recorded : Prop :=
  w.cleanupExpectedBranchOid.isSome = true ∨ w.cleanupBranchRemoved = true

inductive CleaningStep (git : CleanupGit) (s : Lifecycle) : Lifecycle → Prop where
  | unchanged : CleaningStep git s s
  | began : CleaningStep git s { s with seen := [] }
  | looked : CleaningStep git s { s with seen := s.disk :: s.seen }
  | recorded {row : MissionWorkspace} {expected : Option Oid} (hrow : s.workspace = some row) (hstate : row.state = .cleanupPending)
      (hsaved : ∀ oid, row.cleanupExpectedBranchOid = some oid → expected = some oid)
      (hremoved : row.cleanupBranchRemoved = true → expected = row.cleanupExpectedBranchOid) :
      CleaningStep git s { s with
        workspace := some { row with
          cleanupExpectedBranchOid := expected, cleanupBranchRemoved := row.cleanupBranchRemoved || expected.isNone }
        journal := s.journal ++ [.recorded expected] }
  | removedTarget {row : MissionWorkspace} {commonDir adminDir : Path} (hrow : s.workspace = some row) (hrecorded : Recorded row)
      (hentry : s.disk.entries.lookup row.worktreePath = some (.checkout commonDir adminDir false)) (hhead : HeadRetained git row s.seen) :
      CleaningStep git s { s with
        disk := s.disk.removeWorktree adminDir row.worktreePath, journal := s.journal ++ [.removed] }
  | removedStaging {row : MissionWorkspace} {commonDir adminDir : Path} {modified : Bool} (hrow : s.workspace = some row)
      (hentry : s.disk.entries.lookup (stagingCheckout row) = some (.checkout commonDir adminDir modified)) :
      CleaningStep git s { s with disk := s.disk.removeWorktree adminDir (stagingCheckout row) }
  | tidied {d : Disk} (hrefs : d.refs = s.disk.refs)
      (hentries : ∀ path commonDir adminDir modified, s.disk.entries.lookup path = some (.checkout commonDir adminDir modified) →
        d.entries.lookup path = s.disk.entries.lookup path) :
      CleaningStep git s { s with disk := d }
  | flagged {row : MissionWorkspace} (hrow : s.workspace = some row) (hrecorded : Recorded row)
      (habsent : Seen (fun d => d.pathOccupied row.worktreePath = false) s) :
      CleaningStep git s { s with
        workspace := some { row with cleanupWorktreeRemoved := true }, journal := s.journal ++ [.flagged s.seen] }
  | deletedBranch {row : MissionWorkspace} {tip : Oid} (hrow : s.workspace = some row) (hexpected : row.cleanupExpectedBranchOid = some tip)
      (htip : s.disk.refs.lookup (headRef row.branch) = some tip) :
      CleaningStep git s { s with
        disk := { s.disk with refs := s.disk.refs.erase (headRef row.branch) }
        journal := s.journal ++ [.branchGone { s.disk with refs := s.disk.refs.erase (headRef row.branch) }] }
  | foundNoBranch {row : MissionWorkspace} (hrow : s.workspace = some row) (hrecorded : Recorded row)
      (habsent : headRef row.branch ∉ s.disk.refs) :
      CleaningStep git s { s with journal := s.journal ++ [.branchGone s.disk] }
  | finished {row : MissionWorkspace} (hrow : s.workspace = some row) (hstate : row.state = .cleanupPending)
      (hworktree : row.cleanupWorktreeRemoved = true)
      (hbranch : row.cleanupBranchRemoved = true ∨ ∃ d, .branchGone d ∈ s.journal ∧ headRef row.branch ∉ d.refs) :
      CleaningStep git s { s with workspace := some { row with
        state := .cleanupPending, cleanupWorktreeRemoved := true, cleanupBranchRemoved := true, diagnostic := none } }
  | dropped {operationId : String} {completed : Bool} (hcamp : s.camp = .gone operationId completed) :
      CleaningStep git s { s with workspace := none }
  | failed (w : MissionWorkspace) (failure : CleanupFailure) : CleaningStep git s (publishFailure w failure s)

theorem publishFailure_cases (failure : CleanupFailure) (s : Lifecycle) : publishFailure w failure s = s ∨
    ∃ row, s.workspace = some row ∧ row.state = .cleanupPending ∧
      ((s.camp.accepts = true ∧ publishFailure w failure s =
          { s.makeReady { row.cleared with diagnostic := some failure.text } with journal := [] }) ∨
        publishFailure w failure s = { s with workspace := some { row with state := .cleanupFailed, diagnostic := some failure.text } }) := by
  cases hrow : s.workspace with
  | none => exact .inl (by simp [publishFailure, hrow])
  | some row =>
    by_cases hpending : isPending w row = true
    · refine .inr ⟨row, rfl, ?_, ?_⟩
      · rw [isPending, Bool.and_eq_true, decide_eq_true_iff, decide_eq_true_iff] at hpending
        exact hpending.2
      · simp only [publishFailure, hrow, hpending, Bool.not_true, Bool.false_eq_true, if_false]
        split
        · rename_i hrestore
          rw [Bool.and_eq_true] at hrestore
          exact .inl ⟨hrestore.2, rfl⟩
        · exact .inr rfl
    · exact .inl (by simp only [publishFailure, hrow, hpending]; rfl)

/-! ## The steps of a preparation -/

inductive PreparingStep (s : Lifecycle) : Lifecycle → Prop where
  | unchanged : PreparingStep s s
  | planned {w : MissionWorkspace} (hrow : s.workspace = none) (hcamp : s.camp.accepts = true) (hstate : w.state = .preparing)
      (hcleared : w.cleared = w) : PreparingStep s { s with workspace := some w, journal := [] }
  | reused {row : MissionWorkspace} (hrow : s.workspace = some row) (hcamp : s.camp.accepts = true) : PreparingStep s (reuseReady s row)
  | replanned {row : MissionWorkspace} (input : PreparationInput) (kind : PreparationKind) (baseSha : Oid) (hrow : s.workspace = some row) :
      PreparingStep s { s with workspace := some (preparedAgain input row kind baseSha), journal := [] }
  | renamed {row : MissionWorkspace} (next : MissionWorkspace) (hrow : s.workspace = some row) (hstate : row.state = .preparing) :
      PreparingStep s (renameCandidate next s row)
  | diagnosed {row : MissionWorkspace} (diagnostic : Option String) (hrow : s.workspace = some row) (hstate : row.state = .preparing) :
      PreparingStep s { s with workspace := some { row with diagnostic := diagnostic } }
  | readied {row : MissionWorkspace} (hrow : s.workspace = some row) (hcamp : s.camp.accepts = true) (hstate : row.state = .preparing) :
      PreparingStep s (s.makeReady { row with diagnostic := none })

/-! ## Assertions -/

def Firm (P : Lifecycle → Prop) : Prop :=
  Stable Others P ∧ ∀ s d, P s → P { s with seen := d :: s.seen }

theorem Firm.and {P P' : Lifecycle → Prop} (h : Firm P) (h' : Firm P') : Firm fun s => P s ∧ P' s :=
  ⟨h.1.and h'.1, fun s d hs => ⟨h.2 s d hs.1, h'.2 s d hs.2⟩⟩

theorem firm_const (p : Prop) : Firm fun _ => p :=
  ⟨Stable.const p, fun _ _ h => h⟩

theorem firm_custody : Firm (Custody w) :=
  ⟨custody_stable w, fun _ _ h => h⟩

/-- What is known of the disks that have been read is kept where it does not depend on how many they are. -/
theorem firm_seen {p : List Disk → Prop} (hmono : ∀ seen d, p seen → p (d :: seen)) : Firm fun s => p s.seen := by
  refine ⟨?_, fun s d h => hmono s.seen d h⟩
  rintro s s' ⟨event, rfl⟩ h
  rw [(outside_seen event).1]
  exact h

theorem firm_Seen (p : Disk → Prop) : Firm (Seen p) :=
  firm_seen (p := fun seen => ∃ d ∈ seen, p d) fun _ _ ⟨d', hmem, h⟩ => ⟨d', List.mem_cons_of_mem _ hmem, h⟩

theorem headRetained_cons {git : CleanupGit} {w : MissionWorkspace} {seen : List Disk} {d : Disk} (h : HeadRetained git w seen) :
    HeadRetained git w (d :: seen) := by
  obtain ⟨d₁, hmem, commonDir, adminDir, modified, hentry, hhead⟩ := h
  refine ⟨d₁, List.mem_cons_of_mem _ hmem, commonDir, adminDir, modified, hentry, hhead.imp_right ?_⟩
  rintro ⟨head, hoid, d₂, hmem₂, hretained⟩
  exact ⟨head, hoid, d₂, List.mem_cons_of_mem _ hmem₂, hretained⟩

theorem firm_headRetained (git : CleanupGit) (w : MissionWorkspace) : Firm fun s => HeadRetained git w s.seen :=
  firm_seen fun _ _ h => headRetained_cons h

def BranchGone (s : Lifecycle) : Prop :=
  ∃ d, .branchGone d ∈ s.journal ∧ headRef w.branch ∉ d.refs

theorem firm_branchGone : Firm (BranchGone w) := by
  refine ⟨?_, fun _ _ h => h⟩
  rintro s s' ⟨event, rfl⟩ h
  rw [BranchGone, (outside_seen event).2]
  exact h

/-! ## The parts of an attempt -/

section Parts

variable {git : CleanupGit} {P : Lifecycle → Prop} {α : Type}

/-- A triple of an attempt: of a failure nothing is promised but the steps on the way to it. -/
abbrev Attempt (git : CleanupGit) (P : Lifecycle → Prop) (p : Cleanup α) (Q : α → Lifecycle → Prop) : Prop :=
  Triple Others (CleaningStep git) P p Q fun _ _ => True

theorem attempt_readDisk (hP : Firm P) (f : Disk → Except CleanupFailure α) :
    Attempt git P (readDisk f) fun a s => P s ∧ Seen (fun d => f d = .ok a) s := by
  apply Program.triple_atomic hP.1
  · intro s _
    exact .looked
  · intro s a hs ha
    exact ⟨hP.2 s s.disk hs, s.disk, List.mem_cons_self, ha⟩
  · intros
    trivial

theorem attempt_lookAt (hP : Firm P) (f : Disk → α) : Attempt git P (lookAt f) fun a s => P s ∧ Seen (fun d => f d = a) s := by
  apply Program.triple_weaken (attempt_readDisk hP fun d => .ok (f d))
  · exact fun s h => h
  · rintro a s ⟨hs, d, hmem, hd⟩
    exact ⟨hs, d, hmem, Except.ok.inj hd⟩
  · exact fun _ _ h => h

theorem attempt_check (hP : Firm P) (f : Disk → Except CleanupFailure α) : Attempt git P (readDisk f) fun _ s => P s :=
  Program.triple_weaken (attempt_readDisk hP f) (fun _ h => h) (fun _ _ h => h.1) fun _ _ h => h

theorem attempt_settle (r : Except CleanupFailure α) : Attempt git P (Program.settle r) fun a s => P s ∧ r = .ok a :=
  Program.triple_settle (fun _ h _ hs => ⟨hs, h⟩) fun _ _ _ _ => trivial

theorem attempt_fail {Q : α → Lifecycle → Prop} (e : CleanupFailure) : Attempt git P (Program.fail e) Q :=
  Program.triple_fail fun _ _ => trivial

end Parts

/-! ## The parts of a preparation -/

section Preparation

variable {α β : Type}

def Prepares (p : Preparing α) : Prop :=
  Triple Others PreparingStep (fun _ => True) p (fun _ _ => True) fun _ _ => True

theorem prepares_bind {p : Preparing α} {f : α → Preparing β} (hp : Prepares p) (hf : ∀ a, Prepares (f a)) : Prepares (p >>= f) :=
  Program.triple_bind hp hf

theorem prepares_pure (a : α) : Prepares (pure a) :=
  Program.triple_pure fun _ _ => trivial

theorem prepares_fail (e : Stop) : Prepares (Program.fail e : Preparing α) :=
  Program.triple_fail fun _ _ => trivial

theorem prepares_settle (r : Except Stop α) : Prepares (Program.settle r) :=
  Program.triple_settle (fun _ _ _ _ => trivial) fun _ _ _ _ => trivial

theorem prepares_atomic {f : Lifecycle → Except Stop α × Lifecycle} (h : ∀ s, PreparingStep s (f s).2) : Prepares (Program.atomic f) :=
  Program.triple_atomic (Stable.const True) (fun s _ => h s) (fun _ _ _ _ => trivial) fun _ _ _ _ => trivial

theorem prepares_inspectDisk (f : Disk → Except Failure α) : Prepares (inspectDisk f) :=
  prepares_atomic fun _ => .unchanged

theorem prepares_compareAndSet {w : MissionWorkspace} {f : Lifecycle → MissionWorkspace → Lifecycle}
    (h : ∀ s row, s.workspace = some row → row.state = w.state → s.camp.accepts = true → PreparingStep s (f s row)) :
    Prepares (compareAndSet w f) := by
  apply prepares_atomic
  intro s
  split
  · rename_i row hrow
    split
    · rename_i hcurrent
      exact h s row hrow hcurrent.2.1 hcurrent.2.2.2.2
    · exact .unchanged
  · exact .unchanged

variable (input : PreparationInput)

theorem prepares_planWorkspace : Prepares (planWorkspace input) := by
  rw [planWorkspace]
  split
  · exact prepares_fail _
  rename_i repository _
  apply prepares_bind (prepares_atomic fun _ => .unchanged)
  intro host
  apply prepares_bind (prepares_inspectDisk _)
  intro suffix
  apply prepares_bind _ fun _ => prepares_pure _
  apply prepares_atomic
  intro s
  split
  · rename_i hcamp hrow
    exact .planned hrow hcamp rfl rfl
  · exact .unchanged

theorem prepares_recoverFailedCleanup : Prepares (recoverFailedCleanup w) := by
  rw [recoverFailedCleanup]
  split
  · apply prepares_bind (prepares_inspectDisk _)
    intro intact
    split
    · apply prepares_bind _ fun _ => prepares_pure _
      exact prepares_compareAndSet fun s row hrow _ hcamp => .reused hrow hcamp
    · exact prepares_pure _
  · exact prepares_pure _

theorem prepares_reopenWorkspace (w : MissionWorkspace) : Prepares (reopenWorkspace input w) := by
  rw [reopenWorkspace]
  apply prepares_bind (prepares_inspectDisk _)
  intro worktreeExists
  split
  · apply prepares_bind (prepares_inspectDisk _)
    intro _
    apply prepares_bind _ fun _ => prepares_pure _
    exact prepares_compareAndSet fun s row hrow _ hcamp => .reused hrow hcamp
  · apply prepares_bind (prepares_inspectDisk _)
    intro branchOid
    apply prepares_bind (prepares_settle _)
    intro baseSha
    apply prepares_bind _ fun _ => prepares_pure _
    exact prepares_compareAndSet fun s row hrow _ _ => .replanned input _ baseSha hrow

theorem prepares_openWorkspace (saved : MissionWorkspace) : Prepares (openWorkspace input saved) := by
  rw [openWorkspace]
  apply prepares_bind (prepares_atomic fun _ => .unchanged)
  intro _
  apply prepares_bind (prepares_recoverFailedCleanup saved)
  intro w
  apply prepares_bind (prepares_settle _)
  intro _
  split
  · exact prepares_pure _
  · exact prepares_reopenWorkspace input w

theorem materializeLoop_preparing (c : Candidates) : ∀ (results : List (Except Failure Unit)) (w : MissionWorkspace), w.state = .preparing →
    Triple Others PreparingStep (fun _ => True) (materializeLoop c results w) (fun w' _ => w'.state = .preparing) fun _ _ => True
  | [], _, _ => Program.triple_fail fun _ _ => trivial
  | .ok () :: _, _, hstate => Program.triple_pure fun _ _ => hstate
  | .error failure :: rest, w, hstate => by
    rw [materializeLoop]
    split
    · apply Program.triple_bind (prepares_inspectDisk _)
      intro suffix
      apply Program.triple_bind (prepares_compareAndSet fun s row hrow hsame _ => .renamed _ hrow (hsame.trans hstate))
      intro _
      exact materializeLoop_preparing c rest _ hstate
    · apply Program.triple_bind (prepares_compareAndSet fun s row hrow hsame _ => .diagnosed _ hrow (hsame.trans hstate))
      intro _
      exact Program.triple_fail fun _ _ => trivial

theorem prepares_materializeWorkspace (w : MissionWorkspace) : Prepares (materializeWorkspace input w) := by
  rw [materializeWorkspace]
  split
  · rename_i hstate
    apply Program.triple_bind (materializeLoop_preparing _ _ _ hstate)
    intro w' s hstate'
    have hset : Prepares (compareAndSet w' fun s row => s.makeReady { row with diagnostic := none }) :=
      prepares_compareAndSet fun s row hrow hsame hcamp => .readied hrow hcamp (hsame.trans hstate')
    exact prepares_bind hset (fun _ => prepares_pure _) s trivial
  · exact prepares_pure _

/-- **A preparation takes its steps**, whatever the others do. -/
theorem prepares_prepareMissionExecutionWorkspace : Prepares (prepareMissionExecutionWorkspace input) := by
  rw [prepareMissionExecutionWorkspace]
  apply prepares_bind (prepares_atomic fun _ => .unchanged)
  intro saved
  apply prepares_bind _ (prepares_materializeWorkspace input)
  cases saved with
  | some saved => exact prepares_openWorkspace input saved
  | none => exact prepares_planWorkspace input

end Preparation

end Rovai.Mission
