import RovaiCore.MissionCleanupAttempt
import RovaiCore.MissionReadyPeriods
import RovaiCore.Runs
/-!
# Cleanups over whole runs

What a row says of its cleanup is borne out by what cleanups have written since its columns were cleared.
-/
namespace Rovai.Mission

open Program (Meets)

/-! ## Rows and the journal -/

structure RowSound (w : MissionWorkspace) (journal : List Mark) : Prop where
  recorded : Recorded w → journal.head? = some (.recorded w.cleanupExpectedBranchOid)
  fresh : ¬ Recorded w → journal = []
  worktree : w.cleanupWorktreeRemoved = true →
    ∃ seen, .flagged seen ∈ journal ∧ ∃ d ∈ seen, d.pathOccupied w.worktreePath = false
  branch : w.cleanupBranchRemoved = true → w.cleanupExpectedBranchOid = none ∨ ∃ d, .branchGone d ∈ journal ∧ headRef w.branch ∉ d.refs
  preparing : w.state = .preparing → ¬ Recorded w ∧ w.cleanupWorktreeRemoved = false

def Sound (s : Lifecycle) : Prop :=
  ∀ w, s.workspace = some w → RowSound w s.journal

def Relabeled (w w' : MissionWorkspace) : Prop :=
  w' = { w with
    generation := w'.generation, state := w'.state, cleanupCommandId := w'.cleanupCommandId, diagnostic := w'.diagnostic }

section Rows

variable {w w' : MissionWorkspace} {journal : List Mark}

theorem RowSound.relabel (h : RowSound w journal) (hw : Relabeled w w') (hstate : w'.state = .preparing → w.state = .preparing) :
    RowSound w' journal := by
  rw [hw]
  exact ⟨h.recorded, h.fresh, h.worktree, h.branch, fun hpreparing => h.preparing (hstate hpreparing)⟩

theorem head_append {α : Type} {l : List α} {a : α} (more : List α) (h : l.head? = some a) : (l ++ more).head? = some a := by
  rw [List.head?_append, h]
  rfl

theorem RowSound.append (h : RowSound w journal) (hrecorded : Recorded w) (marks : List Mark) : RowSound w (journal ++ marks) where
  recorded _ := head_append marks (h.recorded hrecorded)
  fresh hnot := absurd hrecorded hnot
  worktree hremoved := by
    obtain ⟨seen, hmem, habsent⟩ := h.worktree hremoved
    exact ⟨seen, List.mem_append_left _ hmem, habsent⟩
  branch hremoved := (h.branch hremoved).imp_right fun ⟨d, hmem, hgone⟩ => ⟨d, List.mem_append_left _ hmem, hgone⟩
  preparing := h.preparing

theorem rowSound_cleared (hcleared : w.cleared = w) : RowSound w [] := by
  have hrecorded : ¬ Recorded w := by
    rw [← hcleared]
    rintro (h | h) <;> simp [MissionWorkspace.cleared] at h
  have hworktree : w.cleanupWorktreeRemoved = false := by rw [← hcleared]; rfl
  have hbranch : w.cleanupBranchRemoved = false := by rw [← hcleared]; rfl
  exact ⟨fun h => absurd h hrecorded, fun _ => rfl, by simp [hworktree], by simp [hbranch], fun _ => ⟨hrecorded, hworktree⟩⟩

theorem RowSound.record {expected : Option Oid} (h : RowSound w journal) (hstate : w.state = .cleanupPending)
    (hsaved : ∀ oid, w.cleanupExpectedBranchOid = some oid → expected = some oid)
    (hremoved : w.cleanupBranchRemoved = true → expected = w.cleanupExpectedBranchOid) :
    RowSound { w with cleanupExpectedBranchOid := expected, cleanupBranchRemoved := w.cleanupBranchRemoved || expected.isNone }
      (journal ++ [.recorded expected]) := by
  have hkept : Recorded w → expected = w.cleanupExpectedBranchOid := by
    rintro (hsome | hbranch)
    · obtain ⟨oid, hoid⟩ := Option.isSome_iff_exists.1 hsome
      rw [hoid, hsaved oid hoid]
    · exact hremoved hbranch
  refine ⟨fun _ => ?_, fun hnot => ?_, fun hworktree => ?_, fun hbranch => ?_, fun hpreparing => ?_⟩
  · by_cases hrecorded : Recorded w
    · rw [hkept hrecorded]
      exact head_append _ (h.recorded hrecorded)
    · rw [h.fresh hrecorded]
      rfl
  · cases expected with
    | none => exact absurd (.inr (Bool.or_true _)) hnot
    | some oid => exact absurd (.inl rfl) hnot
  · obtain ⟨seen, hmem, habsent⟩ := h.worktree hworktree
    exact ⟨seen, List.mem_append_left _ hmem, habsent⟩
  · rw [Bool.or_eq_true] at hbranch
    rcases hbranch with hbranch | hnone
    · rw [hremoved hbranch]
      exact (h.branch hbranch).imp_right fun ⟨d, hmem, hgone⟩ => ⟨d, List.mem_append_left _ hmem, hgone⟩
    · exact .inl (by simpa using hnone)
  · exact absurd (hstate.symm.trans hpreparing) (by decide)

end Rows

/-! ## Every step keeps it -/

section Steps

variable {s s' : Lifecycle}

theorem Sound.of_row {w' : MissionWorkspace} (hw' : s'.workspace = some w') (h : RowSound w' s'.journal) : Sound s' := by
  intro w hw
  rw [hw', Option.some.injEq] at hw
  exact hw ▸ h

theorem Sound.of_none (h : s'.workspace = none) : Sound s' := by
  intro w hw
  rw [h] at hw
  exact absurd hw (by simp)

theorem Sound.of_eq (hs : Sound s) (hworkspace : s'.workspace = s.workspace) (hjournal : s'.journal = s.journal) : Sound s' := by
  intro w hw
  rw [hjournal]
  exact hs w (hworkspace ▸ hw)

theorem Sound.of_relabeled (hs : Sound s) {w w' : MissionWorkspace} (hw : s.workspace = some w) (hw' : s'.workspace = some w')
    (hjournal : s'.journal = s.journal) (hrelabeled : Relabeled w w') (hstate : w'.state = .preparing → w.state = .preparing) : Sound s' := by
  apply Sound.of_row hw'
  rw [hjournal]
  exact (hs w hw).relabel hrelabeled hstate

theorem publishFailure_sound (hs : Sound s) (w : MissionWorkspace) (failure : CleanupFailure) : Sound (publishFailure w failure s) := by
  rcases publishFailure_cases w failure s with h | ⟨row, hrow, hstate, ⟨-, h⟩ | h⟩
  · rw [h]
    exact hs
  · rw [h]
    exact .of_row rfl (rowSound_cleared rfl)
  · rw [h]
    exact hs.of_relabeled hrow rfl rfl rfl (by simp)

theorem CleaningStep.sound {git : CleanupGit} (h : CleaningStep git s s') (hs : Sound s) : Sound s' := by
  cases h with
  | recorded hrow hstate hsaved hremoved => exact .of_row rfl ((hs _ hrow).record hstate hsaved hremoved)
  | removedTarget hrow hrecorded _ _ => exact .of_row hrow ((hs _ hrow).append hrecorded _)
  | @flagged row hrow hrecorded habsent =>
    have hsound := (hs _ hrow).append hrecorded [.flagged s.seen]
    refine .of_row rfl ⟨hsound.recorded, hsound.fresh, fun _ => ?_, hsound.branch, fun hpreparing => ?_⟩
    · exact ⟨s.seen, List.mem_append_right _ List.mem_cons_self, habsent⟩
    · exact absurd hrecorded ((hs _ hrow).preparing hpreparing).1
  | deletedBranch hrow hexpected _ => exact .of_row hrow ((hs _ hrow).append (.inl (by rw [hexpected]; rfl)) _)
  | foundNoBranch hrow hrecorded _ => exact .of_row hrow ((hs _ hrow).append hrecorded _)
  | @finished row hrow hstate hworktree hbranch =>
    have hsound := hs _ hrow
    have hrecorded : Recorded row := by
      by_contra hnot
      rcases hbranch with hbranch | ⟨d, hmem, -⟩
      · exact hnot (.inr hbranch)
      rw [hsound.fresh hnot] at hmem
      exact absurd hmem (by simp)
    refine .of_row rfl ⟨fun _ => hsound.recorded hrecorded, fun hnot => absurd (.inr rfl) hnot, fun _ => hsound.worktree hworktree,
      fun _ => ?_, fun hpreparing => by simp at hpreparing⟩
    exact hbranch.elim hsound.branch .inr
  | dropped _ => exact .of_none rfl
  | failed w failure => exact publishFailure_sound hs w failure
  | _ => exact hs

theorem PreparingStep.sound (h : PreparingStep s s') (hs : Sound s) : Sound s' := by
  cases h with
  | unchanged => exact hs
  | planned _ _ _ hcleared => exact .of_row rfl (rowSound_cleared hcleared)
  | reused => exact .of_row rfl (rowSound_cleared rfl)
  | replanned => exact .of_row rfl (rowSound_cleared rfl)
  | @renamed row next hrow hstate =>
    have hpreparing := (hs _ hrow).preparing hstate
    have hjournal := (hs _ hrow).fresh hpreparing.1
    refine .of_row rfl ⟨fun h => absurd h hpreparing.1, fun _ => hjournal, fun h => ?_, fun h => absurd (.inr h) hpreparing.1,
      fun _ => hpreparing⟩
    rw [hpreparing.2] at h
    exact absurd h (by decide)
  | diagnosed diagnostic hrow => exact hs.of_relabeled hrow rfl rfl rfl id
  | readied hrow => exact hs.of_relabeled hrow rfl rfl rfl (by simp)

theorem update_sound (hs : Sound s) {condition : MissionWorkspace → Bool} {f : MissionWorkspace → MissionWorkspace}
    (hf : ∀ w, Relabeled w (f w) ∧ (f w).state = .cleanupPending) : Sound (s.update condition f) := by
  cases hrow : s.workspace with
  | none =>
    rw [Lifecycle.update_skip (by simp [hrow])]
    exact hs
  | some row =>
    by_cases h : condition row = true
    · rw [Lifecycle.update_row hrow h]
      exact hs.of_relabeled hrow rfl rfl (hf row).1 (by simp [(hf row).2])
    · rw [Lifecycle.update_skip (by simpa [hrow] using h)]
      exact hs

theorem acceptDeletion_sound (hs : Sound s) (operationId : String) (disposition : Lifecycle.MissionWorkspaceDisposition) :
    Sound (s.acceptDeletion operationId disposition) := by
  rcases s.acceptDeletion_cases operationId disposition with h | ⟨-, h | ⟨row, hrow, h⟩ | ⟨row, hrow, hstate, h⟩ | h⟩ <;> rw [h]
  · exact hs
  · exact .of_none rfl
  · exact hs.of_relabeled hrow rfl rfl rfl (by simp [Lifecycle.scheduleDeletion])
  · exact hs.of_relabeled hrow rfl rfl rfl (by simp)
  · exact hs

theorem retryDeletion_sound (hs : Sound s) (operationId : String) : Sound (s.retryDeletion operationId) := by
  rw [Lifecycle.retryDeletion]
  split
  · split
    · refine update_sound hs fun w => ⟨?_, ?_⟩ <;> rfl
    · exact hs
  · exact hs

theorem Outside.sound (event : Outside) (hs : Sound s) : Sound (event.apply s) := by
  cases event with
  | diskChanged d => exact hs
  | acceptDeletion operationId disposition => exact acceptDeletion_sound hs operationId disposition
  | retryDeletion operationId => exact retryDeletion_sound hs operationId
  | recordCleanupFailure operationId =>
    rw [Outside.apply, Lifecycle.recordCleanupFailure]
    split
    · exact hs
    · exact retryDeletion_sound hs operationId
  | finalizeCampDeleteCleanup operationId =>
    rw [Outside.apply, Lifecycle.finalizeCampDeleteCleanup]
    split
    · split
      · intro w hw
        exact hs w (Option.filter_eq_some_iff.1 hw).1
      · exact hs
    · exact hs
  | takeSnapshot =>
    rw [Outside.apply, Lifecycle.takeSnapshot]
    split
    · split <;> exact hs
    · exact hs

theorem GateCommand.sound (command : GateCommand) (hs : Sound s) : Sound (command.apply s) := by
  cases command with
  | cleanupCommand commandId inUse =>
    rw [GateCommand.apply, Lifecycle.cleanupCommand]
    split
    · rename_i w hrow
      split
      · exact hs
      · exact hs.of_relabeled hrow rfl rfl rfl (by simp [Lifecycle.scheduleDeletion])
    · exact hs
  | retry commandId =>
    rw [GateCommand.apply, Lifecycle.retry]
    split
    · refine update_sound hs fun w => ⟨?_, ?_⟩ <;> rfl
    · exact hs
  | commitDeletion =>
    rw [GateCommand.apply, Lifecycle.commitDeletion]
    split
    · have hupdate : Sound (s.update (fun w => w.state = .ready || w.state = .preparing) fun w => { w with state := .cleanupPending }) := by
        refine update_sound hs fun w => ⟨?_, ?_⟩ <;> rfl
      exact hupdate.of_eq rfl rfl
    · exact .of_none rfl
    · exact hs

end Steps

/-! ## Runs -/

/-- What holds in every state of a run: the rows, the periods, and of what holds the gate that it takes its steps. -/
structure Safe (git : CleanupGit) (s : MissionSystem) : Prop where
  sound : Sound s.lifecycle
  timed : Timed s.lifecycle
  cleaning : ∀ p, s.holder = some (.cleaning p) →
    Meets Others (CleaningStep git) (fun _ _ => True) (fun _ _ => True) p s.lifecycle
  preparing : ∀ p, s.holder = some (.preparing p) → Meets Others PreparingStep (fun _ _ => True) (fun _ _ => True) p s.lifecycle

section Runs

variable {git : CleanupGit} {s : MissionSystem}

theorem Safe.start (host : String) (d : Disk) : Safe git (MissionSystem.start host d) where
  sound := .of_none rfl
  timed := ⟨.nil, fun _ _ => rfl, by simp [MissionSystem.start], by simp [MissionSystem.start], by simp [MissionSystem.start],
    by simp [MissionSystem.start]⟩
  cleaning := by simp [MissionSystem.start]
  preparing := by simp [MissionSystem.start]

theorem Safe.released {lifecycle : Lifecycle} (hsound : Sound lifecycle) (htimed : Timed lifecycle) : Safe git ⟨lifecycle, none⟩ :=
  ⟨hsound, htimed, by simp, by simp⟩

theorem Safe.advance (hs : Safe git s) : Safe git s.advance ∧ Turn s.lifecycle s.advance.lifecycle := by
  cases hholder : s.holder with
  | none =>
    simp only [MissionSystem.advance, hholder]
    exact ⟨hs, .of_eq rfl rfl rfl rfl⟩
  | some holder =>
    cases holder with
    | cleaning p =>
      cases p with
      | done r =>
        simp only [MissionSystem.advance, hholder]
        exact ⟨.released hs.sound hs.timed, .of_eq rfl rfl rfl rfl⟩
      | step change next =>
        obtain ⟨hown, hnext⟩ := (hs.cleaning _ hholder).next
        simp only [MissionSystem.advance, hholder]
        exact ⟨⟨hown.sound hs.sound, hown.turn.timed hs.timed, fun p hp => by cases hp; exact hnext, by simp⟩, hown.turn⟩
    | preparing p =>
      cases p with
      | done r =>
        simp only [MissionSystem.advance, hholder]
        exact ⟨.released hs.sound hs.timed, .of_eq rfl rfl rfl rfl⟩
      | step change next =>
        obtain ⟨hown, hnext⟩ := (hs.preparing _ hholder).next
        simp only [MissionSystem.advance, hholder]
        exact ⟨⟨hown.sound hs.sound, hown.turn.timed hs.timed, by simp, fun p hp => by cases hp; exact hnext⟩, hown.turn⟩

/-- **Every action keeps it**, and is a turn of the periods. -/
theorem Safe.step (hgit : git.Careful) (hs : Safe git s) (action : SystemAction) :
    Safe git (s.step git action) ∧ Turn s.lifecycle (s.step git action).lifecycle := by
  have hsame : Turn s.lifecycle s.lifecycle := .of_eq rfl rfl rfl rfl
  cases action with
  | outside event =>
    have hstable : Others s.lifecycle (event.apply s.lifecycle) := ⟨event, rfl⟩
    refine ⟨⟨event.sound hs.sound, (event.turn _).timed hs.timed, fun p hp => ?_, fun p hp => ?_⟩, event.turn _⟩
    · exact (hs.cleaning p hp).meanwhile (fun _ => Program.Stable.const True) (fun _ => Program.Stable.const True) hstable
    · exact (hs.preparing p hp).meanwhile (fun _ => Program.Stable.const True) (fun _ => Program.Stable.const True) hstable
  | command command =>
    by_cases hfree : s.holder = none
    · have hstep : s.step git (.command command) = ⟨command.apply s.lifecycle, none⟩ := by simp [MissionSystem.step, hfree]
      rw [hstep]
      exact ⟨.released (command.sound hs.sound) ((command.turn _).timed hs.timed), command.turn _⟩
    · have hstep : s.step git (.command command) = s := by simp [MissionSystem.step, hfree]
      rw [hstep]
      exact ⟨hs, hsame⟩
  | prepare input =>
    by_cases hfree : s.holder = none
    · have hstep : s.step git (.prepare input) = ⟨s.lifecycle, some (.preparing (prepareMissionExecutionWorkspace input))⟩ := by
        simp [MissionSystem.step, hfree]
      rw [hstep]
      refine ⟨⟨hs.sound, hs.timed, by simp, fun p hp => ?_⟩, hsame⟩
      cases hp
      exact prepares_prepareMissionExecutionWorkspace input _ trivial
    · have hstep : s.step git (.prepare input) = s := by simp [MissionSystem.step, hfree]
      rw [hstep]
      exact ⟨hs, hsame⟩
  | cleanup =>
    by_cases hfree : s.holder = none
    · have hstep : s.step git .cleanup = ⟨s.lifecycle, some (.cleaning (cleanupMissionWorkspaces git))⟩ := by
        simp [MissionSystem.step, hfree]
      rw [hstep]
      refine ⟨⟨hs.sound, hs.timed, fun p hp => ?_, by simp⟩, hsame⟩
      cases hp
      exact attempt_cleanupMissionWorkspaces hgit _ trivial
    · have hstep : s.step git .cleanup = s := by simp [MissionSystem.step, hfree]
      rw [hstep]
      exact ⟨hs, hsame⟩
  | advance => exact hs.advance
  | giveUp => exact ⟨.released hs.sound hs.timed, hsame⟩
  | restart =>
    have hturn : Turn s.lifecycle { s.lifecycle with missionDiffSnapshots := [] } :=
      ⟨.refl _ _ _, fun h => h, fun h => h, fun h h' => absurd h h', fun h h' => absurd h' h, by simp⟩
    exact ⟨.released hs.sound (hturn.timed hs.timed), hturn⟩

theorem Safe.run (hgit : git.Careful) (hs : Safe git s) (actions : List SystemAction) : Safe git (s.run git actions) :=
  Runs.run_invariant _ (fun _ action h => (h.step hgit action).1) actions s hs

theorem reached_run (hgit : git.Careful) (hs : Safe git s) {generation : Nat} (hreached : Reached generation s.lifecycle)
    (actions : List SystemAction) : Reached generation (s.run git actions).lifecycle := by
  have h := Runs.run_invariant (P := fun s => Safe git s ∧ Reached generation s.lifecycle) (MissionSystem.step git)
    (fun s action h => ⟨(h.1.step hgit action).1, (h.1.step hgit action).2.reached h.2⟩) actions s ⟨hs, hreached⟩
  exact h.2

end Runs

end Rovai.Mission
