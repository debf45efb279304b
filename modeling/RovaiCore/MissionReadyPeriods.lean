import RovaiCore.MissionCleanupSteps
/-!
# The periods in which a workspace is ready

Of the life of a workspace only the generation counts here, whether the workspace is ready, and whether its thread is there.
-/
namespace Rovai.Mission

open List

def Camp.isGone : Camp → Bool
  | .gone _ _ => true
  | _ => false

inductive RowTurn (gone gone' : Bool) (periods : List Nat) : Option MissionWorkspace → Option MissionWorkspace → List Nat → Prop where
  | absent : RowTurn gone gone' periods none none periods
  | vanished {w : MissionWorkspace} : RowTurn gone gone' periods (some w) none periods
  | planned {w : MissionWorkspace} (hstate : w.state ≠ .ready) : RowTurn gone gone' periods none (some w) periods
  | stays {w w' : MissionWorkspace} (hready : w.state = .ready) (hready' : w'.state = .ready) (hgeneration : w'.generation = w.generation)
      (hgone : gone' = true → gone = true) : RowTurn gone gone' periods (some w) (some w') periods
  | rests {w w' : MissionWorkspace} (hstate : w'.state ≠ .ready) (hgeneration : w.generation ≤ w'.generation)
      (hmore : gone' = true ∨ (w.state = .ready → w.generation < w'.generation)) : RowTurn gone gone' periods (some w) (some w') periods
  | begins {w w' : MissionWorkspace} (hstate : w.state ≠ .ready) (hready' : w'.state = .ready) (hgeneration : w'.generation = w.generation)
      (hgone : gone' = false) : RowTurn gone gone' periods (some w) (some w') (w.generation :: periods)

structure Turn (s s' : Lifecycle) : Prop where
  row : RowTurn s.camp.isGone s'.camp.isGone s.periods s.workspace s'.workspace s'.periods
  active : s'.camp = .active → s.camp = .active
  gone : s.camp.isGone = true → s'.camp.isGone = true
  planned : s.workspace = none → s'.workspace ≠ none → s.camp = .active
  vanished : s.workspace ≠ none → s'.workspace = none → s'.camp ≠ .active
  snapshots : ∀ snapshot ∈ s'.missionDiffSnapshots, snapshot ∈ s.missionDiffSnapshots ∨
    (snapshot.periods = s.periods ∧ ∃ w, s.workspace = some w ∧ w.state = .ready ∧ snapshot.workspaceGeneration = w.generation)

structure Timed (s : Lifecycle) : Prop where
  decreasing : s.periods.Pairwise (· > ·)
  unplanned : s.workspace = none → s.camp = .active → s.periods = []
  below : ∀ w, s.workspace = some w → ∀ p ∈ s.periods, p ≤ w.generation
  ready : ∀ w, s.workspace = some w → w.state = .ready → s.camp.isGone = false ∧ s.periods.head? = some w.generation
  waiting : ∀ w, s.workspace = some w → w.state ≠ .ready → s.camp.isGone = true ∨ ∀ p ∈ s.periods, p < w.generation
  snapshots : ∀ snapshot ∈ s.missionDiffSnapshots, snapshot.periods <:+ s.periods ∧
    snapshot.periods.head? = some snapshot.workspaceGeneration

theorem RowTurn.suffix {gone gone' : Bool} {periods periods' : List Nat} {row row' : Option MissionWorkspace}
    (h : RowTurn gone gone' periods row row' periods') : periods <:+ periods' := by
  cases h with
  | begins _ _ _ _ => exact suffix_cons _ _
  | _ => exact suffix_refl _

variable {s s' : Lifecycle}

theorem Turn.snapshots_timed (h : Turn s s') (hs : Timed s) : ∀ snapshot ∈ s'.missionDiffSnapshots,
    snapshot.periods <:+ s'.periods ∧ snapshot.periods.head? = some snapshot.workspaceGeneration := by
  intro snapshot hmem
  rcases h.snapshots snapshot hmem with hold | ⟨hperiods, w, hrow, hready, hgeneration⟩
  · obtain ⟨hsuffix, hhead⟩ := hs.snapshots snapshot hold
    exact ⟨hsuffix.trans h.row.suffix, hhead⟩
  · refine ⟨hperiods ▸ h.row.suffix, ?_⟩
    rw [hperiods, hgeneration]
    exact (hs.ready w hrow hready).2

/-- **A turn keeps what holds of the periods.** -/
theorem Turn.timed (h : Turn s s') (hs : Timed s) : Timed s' := by
  have hsnapshots := h.snapshots_timed hs
  have hrow := h.row
  generalize hw : s.workspace = row at hrow
  generalize hw' : s'.workspace = row' at hrow
  generalize hp' : s'.periods = periods' at hrow
  cases hrow with
  | absent =>
    refine ⟨hp' ▸ hs.decreasing, fun _ hactive => hp' ▸ hs.unplanned hw (h.active hactive), ?_, ?_, ?_, hsnapshots⟩ <;>
      · intro w hsome
        rw [hw'] at hsome
        exact absurd hsome (by simp)
  | vanished =>
    refine ⟨hp' ▸ hs.decreasing, fun hnone hactive => absurd hactive (h.vanished (by simp [hw]) hnone), ?_, ?_, ?_, hsnapshots⟩ <;>
      · intro w hsome
        rw [hw'] at hsome
        exact absurd hsome (by simp)
  | @planned w hstate =>
    have hempty : s'.periods = [] := by rw [hp', hs.unplanned hw (h.planned hw (by simp [hw']))]
    refine ⟨by simp [hempty], fun _ _ => hempty, by simp [hempty], fun w₁ hsome hready => ?_, by simp [hempty], hsnapshots⟩
    rw [hw', Option.some.injEq] at hsome
    subst hsome
    exact absurd hready hstate
  | @stays w w' hready hready' hgeneration hgone =>
    have hold := hs.ready w hw hready
    refine ⟨hp' ▸ hs.decreasing, fun hnone => by simp [hw'] at hnone, fun w₁ hsome p hp => ?_, fun w₁ hsome _ => ?_,
      fun w₁ hsome hnot => ?_, hsnapshots⟩
    all_goals
      rw [hw', Option.some.injEq] at hsome
      subst hsome
    · rw [hgeneration]
      exact hs.below w hw p (hp' ▸ hp)
    · rw [hgeneration, hp']
      exact ⟨Bool.eq_false_iff.2 fun hnow => by simp [hold.1] at hgone; simp [hgone] at hnow, hold.2⟩
    · exact absurd hready' hnot
  | @rests w w' hstate hgeneration hmore =>
    refine ⟨hp' ▸ hs.decreasing, fun hnone => by simp [hw'] at hnone, fun w₁ hsome p hp => ?_, fun w₁ hsome hready => ?_,
      fun w₁ hsome _ => ?_, hsnapshots⟩
    all_goals
      rw [hw', Option.some.injEq] at hsome
      subst hsome
    · exact (hs.below w hw p (hp' ▸ hp)).trans hgeneration
    · exact absurd hready hstate
    rcases hmore with hgone | hmore
    · exact .inl hgone
    by_cases hready : w.state = .ready
    · exact .inr fun p hp => lt_of_le_of_lt (hs.below w hw p (hp' ▸ hp)) (hmore hready)
    rcases hs.waiting w hw hready with hgone | hbelow
    · exact .inl (h.gone hgone)
    · exact .inr fun p hp => lt_of_lt_of_le (hbelow p (hp' ▸ hp)) hgeneration
  | @begins w w' hstate hready' hgeneration hgone =>
    have hbelow : ∀ p ∈ s.periods, p < w.generation := by
      rcases hs.waiting w hw hstate with hold | hbelow
      · rw [h.gone hold] at hgone
        exact absurd hgone (by decide)
      · exact hbelow
    refine ⟨hp' ▸ pairwise_cons.2 ⟨hbelow, hs.decreasing⟩, fun hnone => by simp [hw'] at hnone, fun w₁ hsome p hp => ?_,
      fun w₁ hsome _ => ?_, fun w₁ hsome hnot => ?_, hsnapshots⟩
    all_goals
      rw [hw', Option.some.injEq] at hsome
      subst hsome
    · rw [hp', mem_cons] at hp
      rw [hgeneration]
      rcases hp with rfl | hp
      · exact le_rfl
      · exact (hbelow p hp).le
    · rw [hp', hgeneration]
      exact ⟨hgone, rfl⟩
    · exact absurd hready' hnot

def Reached (generation : Nat) (s : Lifecycle) : Prop :=
  match s.workspace with
  | some w => generation ≤ w.generation
  | none => s.camp ≠ .active

theorem Turn.reached {generation : Nat} (h : Turn s s') (hs : Reached generation s) : Reached generation s' := by
  have hrow := h.row
  rw [Reached] at hs ⊢
  generalize hw : s.workspace = row at hrow hs
  generalize hw' : s'.workspace = row' at hrow
  generalize hp' : s'.periods = periods' at hrow
  cases hrow with
  | absent => exact fun hactive => hs (h.active hactive)
  | vanished => exact h.vanished (by simp [hw]) hw'
  | planned _ => exact absurd (h.planned hw (by simp [hw'])) hs
  | stays _ _ hgeneration => exact le_of_le_of_eq hs hgeneration.symm
  | rests _ hgeneration => exact le_trans hs hgeneration
  | begins _ _ hgeneration => exact le_of_le_of_eq hs hgeneration.symm

/-- **A snapshot is taken as current only in the period in which it was taken.** -/
theorem Timed.snapshot_current {s : Lifecycle} (h : Timed s) {w : MissionWorkspace} (hrow : s.workspace = some w) (hready : w.state = .ready)
    {snapshot : MissionDiffSnapshot} (hmem : snapshot ∈ s.missionDiffSnapshots) (hmatch : snapshot.matchesWorkspace w = true) :
    snapshot.periods = s.periods := by
  obtain ⟨⟨before, hsuffix⟩, hhead⟩ := h.snapshots snapshot hmem
  have hgeneration : snapshot.workspaceGeneration = w.generation := by
    simp only [MissionDiffSnapshot.matchesWorkspace, Bool.and_eq_true, decide_eq_true_iff] at hmatch
    exact hmatch.2
  have hcurrent := (h.ready w hrow hready).2
  cases before with
  | nil => exact hsuffix
  | cons p rest =>
    -- A later period has begun, with a generation above the one of the snapshot.
    rw [← hsuffix, cons_append, head?_cons, Option.some.injEq] at hcurrent
    have hbelow := h.decreasing
    rw [← hsuffix, cons_append, pairwise_cons] at hbelow
    have hmem' : snapshot.workspaceGeneration ∈ snapshot.periods := mem_of_mem_head? (by rw [hhead]; exact rfl)
    have hlt := hbelow.1 _ (mem_append_right rest hmem')
    omega

/-! ## Every step is a turn -/

theorem RowTurn.refl (gone : Bool) (periods : List Nat) : ∀ row, RowTurn gone gone periods row row periods
  | none => .absent
  | some w => by
    by_cases hready : w.state = .ready
    · exact .stays hready hready rfl id
    · exact .rests hready le_rfl (.inr fun h => absurd h hready)

theorem Turn.of_row (hcamp : s'.camp = s.camp) (hsnapshots : s'.missionDiffSnapshots = s.missionDiffSnapshots)
    (hsome : s'.workspace.isSome = s.workspace.isSome)
    (hrow : RowTurn s.camp.isGone s.camp.isGone s.periods s.workspace s'.workspace s'.periods) : Turn s s' where
  row := by rw [hcamp]; exact hrow
  active h := hcamp ▸ h
  gone h := by rw [hcamp]; exact h
  planned h h' := by simp_all
  vanished h h' := by simp_all
  snapshots _ hmem := .inl (hsnapshots ▸ hmem)

theorem Turn.of_eq (hcamp : s'.camp = s.camp) (hsnapshots : s'.missionDiffSnapshots = s.missionDiffSnapshots)
    (hworkspace : s'.workspace = s.workspace) (hperiods : s'.periods = s.periods) : Turn s s' :=
  .of_row hcamp hsnapshots (by rw [hworkspace]) (by rw [hworkspace, hperiods]; exact .refl _ _ _)

theorem Turn.of_same {w w' : MissionWorkspace} (hcamp : s'.camp = s.camp)
    (hsnapshots : s'.missionDiffSnapshots = s.missionDiffSnapshots) (hw : s.workspace = some w) (hw' : s'.workspace = some w')
    (hperiods : s'.periods = s.periods) (hgeneration : w'.generation = w.generation) (hstate : w'.state = w.state) : Turn s s' := by
  apply Turn.of_row hcamp hsnapshots (by rw [hw, hw']; rfl)
  rw [hw, hw', hperiods]
  by_cases hready : w.state = .ready
  · exact .stays hready (hstate.trans hready) hgeneration id
  · exact .rests (by rwa [hstate]) hgeneration.ge (.inr fun h => absurd h hready)

theorem Turn.of_resting {w w' : MissionWorkspace} (hcamp : s'.camp = s.camp)
    (hsnapshots : s'.missionDiffSnapshots = s.missionDiffSnapshots) (hw : s.workspace = some w) (hw' : s'.workspace = some w')
    (hperiods : s'.periods = s.periods) (hgeneration : w.generation ≤ w'.generation) (hstate' : w'.state ≠ .ready)
    (hmore : w.state = .ready → w.generation < w'.generation) : Turn s s' := by
  apply Turn.of_row hcamp hsnapshots (by rw [hw, hw']; rfl)
  rw [hw, hw', hperiods]
  exact .rests hstate' hgeneration (.inr hmore)

theorem rowTurn_makeReady {s : Lifecycle} {row w : MissionWorkspace} {gone : Bool} (hgone : gone = false) (hstate : w.state = row.state)
    (hgeneration : w.generation = row.generation) :
    RowTurn gone gone s.periods (some row) (s.makeReady w).workspace (s.makeReady w).periods := by
  rw [Lifecycle.makeReady]
  by_cases hready : row.state = .ready
  · simp only [hstate, hready, if_true]
    exact .stays hready rfl hgeneration id
  · have hperiods : w.generation :: s.periods = row.generation :: s.periods := by rw [hgeneration]
    simp only [hstate, hready, if_false]
    rw [hperiods]
    exact .begins hready rfl hgeneration hgone

theorem Turn.of_makeReady {row : MissionWorkspace} (w : MissionWorkspace) (hcamp : s'.camp = s.camp)
    (hsnapshots : s'.missionDiffSnapshots = s.missionDiffSnapshots) (hrow : s.workspace = some row) (hgone : s.camp.isGone = false)
    (hworkspace : s'.workspace = (s.makeReady w).workspace) (hperiods : s'.periods = (s.makeReady w).periods)
    (hstate : w.state = row.state) (hgeneration : w.generation = row.generation) : Turn s s' := by
  apply Turn.of_row hcamp hsnapshots (by rw [hrow, hworkspace]; rfl)
  rw [hrow, hworkspace, hperiods]
  exact rowTurn_makeReady hgone hstate hgeneration

theorem accepts_iff {camp : Camp} : camp.accepts = true ↔ camp = .active := by
  cases camp <;> simp [Camp.accepts]

theorem isGone_of_accepts {camp : Camp} (h : camp.accepts = true) : camp.isGone = false := by
  rw [accepts_iff.1 h]; rfl

theorem publishFailure_turn (w : MissionWorkspace) (failure : CleanupFailure) (s : Lifecycle) : Turn s (publishFailure w failure s) := by
  rcases publishFailure_cases w failure s with h | ⟨row, hrow, hstate, ⟨hcamp, h⟩ | h⟩
  · rw [h]
    exact .of_eq rfl rfl rfl rfl
  · rw [h]
    exact .of_makeReady _ rfl rfl hrow (isGone_of_accepts hcamp) rfl rfl rfl rfl
  · rw [h]
    exact .of_resting rfl rfl hrow rfl rfl le_rfl (by simp) fun h => absurd (hstate.symm.trans h) (by decide)

theorem CleaningStep.turn {git : CleanupGit} (h : CleaningStep git s s') : Turn s s' := by
  cases h with
  | recorded hrow => exact .of_same rfl rfl hrow rfl rfl rfl rfl
  | flagged hrow => exact .of_same rfl rfl hrow rfl rfl rfl rfl
  | finished hrow hstate => exact .of_same rfl rfl hrow rfl rfl rfl hstate.symm
  | dropped hcamp =>
    refine ⟨?_, fun h => h, fun h => h, fun _ h => absurd rfl h, fun _ _ h => ?_, fun _ h => .inl h⟩
    · cases hrow : s.workspace with
      | none => exact .absent
      | some row => exact .vanished
    · rw [hcamp] at h
      exact absurd h (by simp)
  | failed w failure => exact publishFailure_turn w failure s
  | _ => exact .of_eq rfl rfl rfl rfl

theorem PreparingStep.turn (h : PreparingStep s s') : Turn s s' := by
  cases h with
  | unchanged => exact .of_eq rfl rfl rfl rfl
  | planned hrow hcamp hstate =>
    refine ⟨?_, fun h => h, fun h => h, fun _ _ => accepts_iff.1 hcamp, fun h _ => absurd hrow h, fun _ h => .inl h⟩
    rw [hrow]
    exact .planned (by rw [hstate]; decide)
  | reused hrow hcamp => exact .of_makeReady _ rfl rfl hrow (isGone_of_accepts hcamp) rfl rfl rfl rfl
  | replanned input kind baseSha hrow =>
    exact .of_resting rfl rfl hrow rfl rfl (Nat.le_succ _) (by simp [preparedAgain]) fun _ => Nat.lt_succ_self _
  | renamed next hrow => exact .of_same rfl rfl hrow rfl rfl rfl rfl
  | diagnosed diagnostic hrow => exact .of_same rfl rfl hrow rfl rfl rfl rfl
  | readied hrow hcamp => exact .of_makeReady _ rfl rfl hrow (isGone_of_accepts hcamp) rfl rfl rfl rfl

theorem Turn.of_deletion (hactive : s'.camp ≠ .active) (hgone : s.camp.isGone = true → s'.camp.isGone = true)
    (hsnapshots : s'.missionDiffSnapshots = s.missionDiffSnapshots) (hnone : s.workspace = none → s'.workspace = none)
    (hrow : RowTurn s.camp.isGone s'.camp.isGone s.periods s.workspace s'.workspace s'.periods) : Turn s s' where
  row := hrow
  active h := absurd h hactive
  gone := hgone
  planned h h' := absurd (hnone h) h'
  vanished _ _ := hactive
  snapshots _ hmem := .inl (hsnapshots ▸ hmem)

theorem rowTurn_none (gone gone' : Bool) (periods : List Nat) : ∀ row, RowTurn gone gone' periods row none periods
  | none => .absent
  | some _ => .vanished

theorem acceptDeletion_turn (operationId : String) (disposition : Lifecycle.MissionWorkspaceDisposition) (s : Lifecycle) :
    Turn s (s.acceptDeletion operationId disposition) := by
  rcases s.acceptDeletion_cases operationId disposition with h | ⟨hcamp, h | ⟨row, hrow, h⟩ | ⟨row, hrow, hstate, h⟩ | h⟩
  · rw [h]
    exact .of_eq rfl rfl rfl rfl
  all_goals
    rw [h]
    refine .of_deletion (by simp) (by simp [hcamp, Camp.isGone]) rfl ?_ ?_
  · exact fun _ => rfl
  · exact rowTurn_none _ _ _ _
  · exact fun hnone => absurd (hrow.symm.trans hnone) (by simp)
  · rw [hrow]
    refine .rests (by simp [Lifecycle.scheduleDeletion]) (Nat.le_add_right _ _) (.inr fun hready => ?_)
    simp [Lifecycle.scheduleDeletion, hready]
  · exact fun hnone => absurd (hrow.symm.trans hnone) (by simp)
  · rw [hrow, hcamp]
    exact rowTurn_makeReady rfl rfl rfl
  · exact fun hnone => hnone
  · rw [hcamp]
    exact .refl _ _ _

theorem update_turn {s : Lifecycle} {condition : MissionWorkspace → Bool} {f : MissionWorkspace → MissionWorkspace}
    (hcondition : ∀ w, condition w = true → w.state = .cleanupFailed)
    (hf : ∀ w, (f w).state = .cleanupPending ∧ (f w).generation = w.generation) : Turn s (s.update condition f) := by
  cases hrow : s.workspace with
  | none =>
    rw [Lifecycle.update_skip (by simp [hrow])]
    exact .of_eq rfl rfl rfl rfl
  | some row =>
    by_cases h : condition row = true
    · rw [Lifecycle.update_row hrow h]
      exact .of_resting rfl rfl hrow rfl rfl (hf row).2.ge (by simp [(hf row).1]) fun hready => by simp [hcondition row h] at hready
    · rw [Lifecycle.update_skip (by simpa [hrow] using h)]
      exact .of_eq rfl rfl rfl rfl

theorem retryDeletion_turn (operationId : String) (s : Lifecycle) : Turn s (s.retryDeletion operationId) := by
  rw [Lifecycle.retryDeletion]
  split
  · split
    · apply update_turn
      · intro w hw
        simp only [Lifecycle.failedFor, Bool.and_eq_true, decide_eq_true_iff] at hw
        exact hw.1.2
      · exact fun w => ⟨rfl, rfl⟩
    · exact .of_eq rfl rfl rfl rfl
  · exact .of_eq rfl rfl rfl rfl

theorem Outside.turn (event : Outside) (s : Lifecycle) : Turn s (event.apply s) := by
  cases event with
  | diskChanged d => exact .of_eq rfl rfl rfl rfl
  | acceptDeletion operationId disposition => exact acceptDeletion_turn operationId disposition s
  | retryDeletion operationId => exact retryDeletion_turn operationId s
  | recordCleanupFailure operationId =>
    rw [Outside.apply, Lifecycle.recordCleanupFailure]
    split
    · exact .of_eq rfl rfl rfl rfl
    · exact retryDeletion_turn operationId s
  | finalizeCampDeleteCleanup operationId =>
    rw [Outside.apply, Lifecycle.finalizeCampDeleteCleanup]
    split
    · rename_i operationId' completed hcamp
      split
      · refine .of_deletion (by simp) (fun _ => rfl) rfl ?_ ?_
        · exact fun hnone => by simp [hnone]
        rw [hcamp]
        cases hrow : s.workspace with
        | none => exact .absent
        | some row =>
          by_cases hkept : (row.cleanupCommandId = some operationId && row.cleanupFinished) = true
          · simp only [Option.filter, hkept]
            exact .vanished
          · simp only [Option.filter, hkept]
            exact .refl _ _ _
      · exact .of_eq rfl rfl rfl rfl
    · exact .of_eq rfl rfl rfl rfl
  | takeSnapshot =>
    rw [Outside.apply, Lifecycle.takeSnapshot]
    split
    · rename_i w hrow
      split
      · rename_i hready
        refine ⟨.refl _ _ _, fun h => h, fun h => h, fun h h' => absurd h h', fun h h' => absurd h' h, fun snapshot hmem => ?_⟩
        rcases mem_cons.1 hmem with rfl | hold
        · exact .inr ⟨rfl, w, hrow, hready, rfl⟩
        · exact .inl hold
      · exact .of_eq rfl rfl rfl rfl
    · exact .of_eq rfl rfl rfl rfl

theorem GateCommand.turn (command : GateCommand) (s : Lifecycle) : Turn s (command.apply s) := by
  cases command with
  | cleanupCommand commandId inUse =>
    rw [GateCommand.apply, Lifecycle.cleanupCommand]
    split
    · rename_i w hrow
      split
      · exact .of_eq rfl rfl rfl rfl
      refine .of_resting rfl rfl hrow rfl rfl (Nat.le_add_right _ _) (by simp [Lifecycle.scheduleDeletion]) fun hready => ?_
      simp [Lifecycle.scheduleDeletion, hready]
    · exact .of_eq rfl rfl rfl rfl
  | retry commandId =>
    rw [GateCommand.apply, Lifecycle.retry]
    split
    · apply update_turn
      · intro w hw
        simp only [Bool.and_eq_true, decide_eq_true_iff] at hw
        exact hw.1.2
      · exact fun w => ⟨rfl, rfl⟩
    · exact .of_eq rfl rfl rfl rfl
  | commitDeletion =>
    rw [GateCommand.apply, Lifecycle.commitDeletion]
    split
    · refine .of_deletion (by simp) (fun _ => rfl) rfl ?_ ?_
      · exact fun hnone => by simp [Lifecycle.update, hnone]
      cases hrow : s.workspace with
      | none =>
        simp only [Lifecycle.update, hrow, Option.map_none]
        exact .absent
      | some row =>
        simp only [Lifecycle.update, hrow, Option.map_some]
        split
        · exact .rests (by simp) le_rfl (.inl rfl)
        rename_i hother
        exact .rests (by simp_all) le_rfl (.inl rfl)
    · exact .of_deletion (by simp) (fun _ => rfl) rfl (fun _ => rfl) (rowTurn_none _ _ _ _)
    · exact .of_eq rfl rfl rfl rfl

end Rovai.Mission
