import RovaiCore.MissionCourses
/-!
# The preparation of a Mission worktree recovers

A preparation that has been cut off, any number of times, is begun again.
-/
namespace Rovai.Mission

open Procedure
open List

variable {git : MissionGit} {c : Candidates} {s s₀ : Preparation}

/-! ## What a preparation is between its steps -/

structure Plan (git : MissionGit) (c : Candidates) (w : MissionWorkspace) : Prop where
  preparing : w.state = .preparing
  commit : git.isCommit w.baseSha = true
  inside : w.worktreePath <+: w.workingDirectory
  names : ∀ suffix, c.name ++ "-mission-" ++ c.number ++ suffixText suffix ≠ ".rovai-mission-prepare-" ++ w.preparationToken

/-- The plan as it is saved, before its first step; its token is new to the disk. -/
structure Planned (git : MissionGit) (c : Candidates) (s : Preparation) : Prop where
  accepts : s.accepts = true
  plan : Plan git c s.row
  beside : Beside s.row s.disk
  foreign : Foreign s.row s.disk

structure Standing (git : MissionGit) (c : Candidates) (s₀ s : Preparation) (p : Disk × Stage) : Prop where
  accepts : s.accepts = true
  plan : Plan git c s.row
  commonDir : s.row.gitCommonDir = s₀.row.gitCommonDir
  token : s.row.preparationToken = s₀.row.preparationToken
  root : s.row.repositoryRoot = s₀.row.repositoryRoot
  disk : s.disk = p.2.layout s.row p.1
  at_ : p.2.At s.row p.1
  extends_ : Extends s₀.disk p.1

theorem Planned.standing (h : Planned git c s) : Standing git c s s (s.disk, .clean) where
  accepts := h.accepts
  plan := h.plan
  commonDir := rfl
  token := rfl
  root := rfl
  disk := rfl
  at_ := ⟨h.beside, h.foreign, nofun, nofun⟩
  extends_ := .refl _

def MissionWorkspace.noting (w : MissionWorkspace) (diagnostic : Option String) : MissionWorkspace :=
  { w with diagnostic := diagnostic }

theorem updatePlan_ok {w : MissionWorkspace} {f : MissionWorkspace → MissionWorkspace} {note : Option String}
    (haccepts : s.accepts = true) (hrow : s.row = w.noting note) (hstate : w.state = .preparing) :
    (updatePlan w f).run s = ⟨[{ s with row := f s.row }], .ok ()⟩ := by
  refine act_ok (if_pos ?_)
  rw [hrow]
  exact ⟨rfl, hstate, rfl, rfl, haccepts⟩

theorem getLastD_disks (s : Preparation) (left : List Disk) :
    (left.map fun d => { s with disk := d }).getLastD s = { s with disk := left.getLastD s.disk } := by
  rw [getLastD_map]

theorem standing_passes {p q : Disk × Stage} {left : List Disk} (h : Standing git c s₀ s p) (hpasses : Passes s.row p left q) :
    (∀ t ∈ left.map (fun d => { s with disk := d }), ∃ r, Standing git c s₀ t r) ∧
      Standing git c s₀ { s with disk := left.getLastD s.disk } q := by
  have hstands : ∀ {r : Disk × Stage}, r.2.At s.row r.1 → Extends p.1 r.1 →
      Standing git c s₀ { s with disk := r.2.layout s.row r.1 } r := fun hat hext =>
    ⟨h.accepts, h.plan, h.commonDir, h.token, h.root, rfl, hat, h.extends_.trans hext⟩
  refine ⟨fun t ht => ?_, ?_⟩
  · obtain ⟨d, hd, rfl⟩ := mem_map.1 ht
    obtain ⟨r, rfl, hat, hext⟩ := hpasses.exists_stage hd
    exact ⟨r, hstands hat hext⟩
  · rw [h.disk, hpasses.last]
    exact hstands (hpasses.at h.at_).1 (hpasses.at h.at_).2

/-! ## One round of the loop -/

def Proceeds (c : Candidates) (w : MissionWorkspace) (d : Disk) (stage : Stage) : Prop :=
  Goes w d stage ∨ (Taken w d stage ∧ stage.ownerless = false ∧ w.preparationKind = .create ∧
    ∃ suffix, selectCandidate d c w.repositoryRoot 2 = .ok suffix ∧ Goes (w.withCandidate c suffix) d .clean)

variable {d : Disk}

theorem selectCandidate_available {root : Path} {start suffix : Nat} (h : selectCandidate d c root start = .ok suffix) :
    candidateAvailable d (c.path root suffix) (c.branch suffix) = true := by
  rw [selectCandidate] at h
  split at h
  · next found hfind =>
    cases h
    exact find?_some (p := fun suffix => candidateAvailable d (c.path root suffix) (c.branch suffix)) hfind
  · cases h

theorem not_taken_candidate {w : MissionWorkspace} {suffix : Nat}
    (h : selectCandidate d c w.repositoryRoot 2 = .ok suffix) : ¬ Taken (w.withCandidate c suffix) d .clean := by
  have havailable := selectCandidate_available h
  rw [candidateAvailable, Bool.and_eq_true, Bool.not_eq_true', decide_eq_true_iff] at havailable
  rintro ⟨-, hoccupied | ⟨-, -, -, hmem⟩⟩
  · exact Bool.false_ne_true (havailable.1.symm.trans hoccupied)
  · exact havailable.2 hmem

def MissionWorkspace.renamed (w : MissionWorkspace) (c : Candidates) (suffix : Nat) : MissionWorkspace :=
  { w with
    worktreePath := (w.withCandidate c suffix).worktreePath
    workingDirectory := (w.withCandidate c suffix).workingDirectory
    branch := (w.withCandidate c suffix).branch }

theorem standing_renamed {suffix : Nat} (h : Standing git c s₀ s (d, .clean)) :
    Standing git c s₀ { s with row := s.row.renamed c suffix } (d, .clean) where
  accepts := h.accepts
  plan := ⟨h.plan.preparing, h.plan.commit, prefix_append _ _, h.plan.names⟩
  commonDir := h.commonDir
  token := h.token
  root := h.root
  disk := h.disk
  at_ := {
    beside := ⟨⟨_, rfl, h.plan.names suffix⟩, h.at_.beside.above⟩
    foreign := ⟨h.at_.foreign.staging, h.at_.foreign.marker⟩
    target := nofun
    admin := nofun }
  extends_ := h.extends_

section Rounds

variable {w : MissionWorkspace} {d : Disk} {stage : Stage} {note : Option String}
variable (hgit : git.Documented s₀.row.gitCommonDir)
include hgit

theorem materialize_round (h : Standing git c s₀ s (d, stage)) (hrow : s.row = w.noting note) :
    ∃ left result last, (onDisk (materialize git w)).run s = ⟨left.map (fun d => { s with disk := d }), .ok result⟩ ∧
      Passes s.row (d, stage) left last ∧ Outcome s.row d stage result last := by
  have hsame : materialize git w = materialize git s.row := by
    rw [hrow]
    rfl
  obtain ⟨left, result, last, hcourse, hpasses, houtcome⟩ :=
    materialize_spec (h.commonDir ▸ hgit : git.Documented s.row.gitCommonDir) h.plan.commit h.at_
  refine ⟨left, result, last, ?_, hpasses, houtcome⟩
  rw [hsame]
  exact run_attempt_within (h.disk ▸ hcourse)

theorem nextCandidate_round (h : Standing git c s₀ s (d, stage)) (hrow : s.row = w.noting note) (harrived : stage.arrived = false)
    (hownerless : stage.ownerless = false) :
    ∃ left, (∀ t ∈ left, ∃ r, Standing git c s₀ t r) ∧
      ((∃ suffix, selectCandidate d c w.repositoryRoot 2 = .ok suffix ∧
          Standing git c s₀ { s with row := s.row.renamed c suffix, disk := d } (d, .clean) ∧
          (nextCandidate git c w).run s =
            ⟨left ++ [{ s with row := s.row.renamed c suffix, disk := d }], .ok (w.withCandidate c suffix)⟩) ∨
        ((∀ suffix, selectCandidate d c w.repositoryRoot 2 ≠ .ok suffix) ∧
          ∃ stop, (nextCandidate git c w).run s = ⟨left, .error stop⟩)) := by
  have hsame : abandonCandidate git w = abandonCandidate git s.row := by
    rw [hrow]
    rfl
  obtain ⟨left, hcourse, hpasses⟩ :=
    abandonCandidate_spec (h.commonDir ▸ hgit : git.Documented s.row.gitCommonDir) h.at_ harrived hownerless
  have hround : (onDisk (abandonCandidate git w)).run s = ⟨left.map (fun d => { s with disk := d }), .ok (.ok ())⟩ := by
    rw [hsame]
    exact run_attempt_within (h.disk ▸ hcourse)
  obtain ⟨hleft, hstands⟩ := standing_passes h hpasses
  have hlast : left.getLastD s.disk = d := by
    rw [h.disk]
    exact hpasses.last
  rw [hlast] at hstands
  have hafter : (left.map fun d => { s with disk := d }).getLastD s = { s with disk := d } := by
    rw [getLastD_disks, hlast]
  have hinside : ¬ ¬ w.worktreePath <+: w.workingDirectory := by
    have := h.plan.inside
    rw [hrow] at this
    exact not_not.2 this
  cases hselect : selectCandidate d c w.repositoryRoot 2 with
  | ok suffix =>
    refine ⟨_, hleft, .inl ⟨suffix, rfl, standing_renamed hstands, bind_ok hround ?_⟩⟩
    rw [hafter]
    show (if ¬ w.worktreePath <+: w.workingDirectory then _ else _ : Prepare MissionWorkspace).run { s with disk := d } = _
    rw [if_neg hinside, ask_bind, hselect]
    have hstate : w.state = .preparing := by
      have := h.plan.preparing
      rwa [hrow] at this
    have hupdate := @updatePlan_ok { s with disk := d } w (fun row =>
      { row with
        worktreePath := (w.withCandidate c suffix).worktreePath
        workingDirectory := (w.withCandidate c suffix).workingDirectory
        branch := (w.withCandidate c suffix).branch }) note h.accepts hrow hstate
    have hrenamed : ({ s.row with
        worktreePath := (w.withCandidate c suffix).worktreePath
        workingDirectory := (w.withCandidate c suffix).workingDirectory
        branch := (w.withCandidate c suffix).branch } : MissionWorkspace) = s.row.renamed c suffix := by
      rw [hrow]
      rfl
    rw [hrenamed] at hupdate
    exact bind_ok hupdate rfl
  | error failure =>
    refine ⟨_, hleft, .inr ⟨by simp, .failure failure, ?_⟩⟩
    rw [← append_nil (List.map _ left)]
    refine bind_ok hround ?_
    rw [hafter]
    show (if ¬ w.worktreePath <+: w.workingDirectory then _ else _ : Prepare MissionWorkspace).run { s with disk := d } = _
    rw [if_neg hinside, ask_bind, hselect]
    rfl

omit hgit in
theorem nextCandidate_bare (h : Standing git c s₀ s (d, .bare)) (hrow : s.row = w.noting note) :
    ∃ stop, (nextCandidate git c w).run s = ⟨[], .error stop⟩ := by
  have hsame : abandonCandidate git w = abandonCandidate git s.row := by
    rw [hrow]
    rfl
  obtain ⟨message, hcourse⟩ := @abandonCandidate_bare s.row d git h.at_
  have hround : (onDisk (abandonCandidate git w)).run s = ⟨[], .ok (.error (.failed message))⟩ := by
    rw [hsame]
    exact run_attempt_within (h.disk ▸ hcourse)
  exact ⟨_, bind_ok (l := []) hround rfl⟩

omit hgit in
theorem note_failure {p : Disk × Stage} {failure : Failure} (h : Standing git c s₀ s p) (hrow : s.row = w.noting note) :
    ∃ t, Standing git c s₀ t p ∧ (do
      updatePlan w fun row => { row with diagnostic := some (failureText failure) }
      Procedure.fail (.failure failure) : Prepare MissionWorkspace).run s = ⟨[t], .error (.failure failure)⟩ := by
  have hstate : w.state = .preparing := by
    have := h.plan.preparing
    rwa [hrow] at this
  refine ⟨{ s with row := s.row.noting (some (failureText failure)) }, ?_, ?_⟩
  · exact {
      accepts := h.accepts
      plan := ⟨h.plan.preparing, h.plan.commit, h.plan.inside, h.plan.names⟩
      commonDir := h.commonDir
      token := h.token
      root := h.root
      disk := h.disk
      at_ := ⟨⟨h.at_.beside.target, h.at_.beside.above⟩, ⟨h.at_.foreign.staging, h.at_.foreign.marker⟩, h.at_.target, h.at_.admin⟩
      extends_ := h.extends_ }
  · exact bind_ok (@updatePlan_ok s w (fun row => { row with diagnostic := some (failureText failure) }) note h.accepts hrow hstate)
      (run_fail _ _)

structure LoopEnd (git : MissionGit) (c : Candidates) (s₀ s : Preparation) (w : MissionWorkspace) (d : Disk) (stage : Stage) (fuel : Nat)
    (left : List Preparation) (result : Except Stop MissionWorkspace) : Prop where
  stands : ∀ t ∈ left, ∃ r, Standing git c s₀ t r
  placed : ∀ w', result = .ok w' → ∃ d' admin note', Standing git c s₀ (left.getLastD s) (d', .placed admin) ∧
    (left.getLastD s).row = w'.noting note' ∧ (w'.worktreePath = w.worktreePath ∨ (stage.arrived = false ∧
      ∃ suffix, selectCandidate d c w.repositoryRoot 2 = .ok suffix ∧ w'.worktreePath = c.path w.repositoryRoot suffix))
  proceeds : (∃ w', result = .ok w') → Proceeds c w d stage
  goes : 1 ≤ fuel → Goes w d stage → ∃ w', result = .ok w'
  enough : 2 ≤ fuel → Proceeds c w d stage → ∃ w', result = .ok w'

omit hgit in
theorem LoopEnd.of_error {fuel : Nat} {left : List Preparation} {stop : Stop}
    (hstands : ∀ t ∈ left, ∃ r, Standing git c s₀ t r) (hnot : ¬ Proceeds c w d stage) :
    LoopEnd git c s₀ s w d stage fuel left (.error stop) where
  stands := hstands
  placed := fun _ h => by cases h
  proceeds := fun ⟨_, h⟩ => by cases h
  goes := fun _ hgoes => absurd (.inl hgoes) hnot
  enough := fun _ hproceeds => absurd hproceeds hnot

omit hgit in
theorem not_goes_of_taken (htaken : Taken w d stage) : ¬ Goes w d stage := by
  rintro ⟨hown, harrived | ⟨hfree, -, hadmin | hcan⟩⟩
  · exact Bool.false_ne_true (htaken.1.symm.trans harrived)
  · obtain ⟨-, hoccupied | ⟨-, hnone, -⟩⟩ := htaken
    · exact Bool.false_ne_true (hfree.symm.trans hoccupied)
    rw [hnone] at hadmin
    cases hadmin
  · obtain ⟨-, hoccupied | ⟨-, -, hkind, hmem⟩⟩ := htaken
    · exact Bool.false_ne_true (hfree.symm.trans hoccupied)
    rw [CanAdd, hkind] at hcan
    exact hcan.1 hmem

omit hgit in
theorem goes_noting : Goes (w.noting note) d stage ↔ Goes w d stage := Iff.rfl

omit hgit in
theorem taken_noting : Taken (w.noting note) d stage ↔ Taken w d stage := Iff.rfl

end Rounds

/-- **The loop keeps to the stages**, and it ends with a worktree in its place where the names can be had. -/
theorem prepareLoop_spec (hgit : git.Documented s₀.row.gitCommonDir) : ∀ (fuel : Nat) {w : MissionWorkspace} {s : Preparation} {d : Disk}
    {stage : Stage} {note : Option String}, Standing git c s₀ s (d, stage) → s.row = w.noting note →
    ∃ left result, (prepareLoop git c fuel w).run s = ⟨left, result⟩ ∧ LoopEnd git c s₀ s w d stage fuel left result
  | 0, w, s, d, stage, note, h, hrow => by
    refine ⟨[], .error .refused, rfl, by simp, fun _ h => (by cases h), fun ⟨_, h⟩ => (by cases h), fun hfuel => ?_, fun hfuel => ?_⟩
    · omega
    · omega
  | fuel + 1, w, s, d, stage, note, h, hrow => by
    obtain ⟨left, result, ⟨d', stage'⟩, hround, hpasses, houtcome⟩ := materialize_round hgit h hrow
    obtain ⟨hleft, hstands⟩ := standing_passes h hpasses
    have hafter : (left.map fun d => { s with disk := d }).getLastD s = { s with disk := left.getLastD s.disk } := getLastD_disks s left
    cases houtcome with
    | @placed _ admin hgoes =>
      have hgoes : Goes w d stage := goes_noting.1 (hrow ▸ hgoes)
      refine ⟨_, .ok w, bind_ok hround (run_pure w _), ?_⟩
      rw [append_nil]
      exact {
        stands := hleft
        placed := fun w' heq => by
          cases heq
          refine ⟨d', admin, note, ?_, ?_, .inl rfl⟩
          · rw [hafter]
            exact hstands
          · rw [hafter]
            exact hrow
        proceeds := fun _ => .inl hgoes
        goes := fun _ _ => ⟨w, rfl⟩
        enough := fun _ _ => ⟨w, rfl⟩ }
    | @failed _ message hgoes htaken =>
      have hnot : ¬ Proceeds c w d stage := by
        rw [hrow, goes_noting] at hgoes
        rw [hrow, taken_noting] at htaken
        rintro (h' | ⟨h', -⟩)
        · exact hgoes h'
        · exact htaken h'
      obtain ⟨t, ht, hnoted⟩ := @note_failure git c _ s₀ w note (d', stage') (.failed message) hstands hrow
      refine ⟨left.map (fun d => { s with disk := d }) ++ [t], .error (.failure (.failed message)), bind_ok hround ?_, .of_error (fun u hu => ?_) hnot⟩
      · rw [hafter]
        exact hnoted
      · obtain hu | hu := mem_append.1 hu
        · exact hleft u hu
        · exact mem_singleton.1 hu ▸ ⟨_, ht⟩
    | taken htaken hdisk harrived hownerless =>
      subst hdisk
      have htaken : Taken w d' stage := taken_noting.1 (hrow ▸ htaken)
      have hgoes := not_goes_of_taken htaken
      have hround' : ∀ {rest : List Preparation} {result : Except Stop MissionWorkspace},
          (if Failure.nameOccupied = Failure.nameOccupied ∧ w.preparationKind = .create then do
              let next ← nextCandidate git c w
              prepareLoop git c fuel next
            else do
              updatePlan w fun row => { row with diagnostic := some (failureText .nameOccupied) }
              Procedure.fail (.failure .nameOccupied) : Prepare MissionWorkspace).run { s with disk := left.getLastD s.disk } =
            ⟨rest, result⟩ →
          (prepareLoop git c (fuel + 1) w).run s = ⟨left.map (fun d => { s with disk := d }) ++ rest, result⟩ := by
        intro rest result hrest
        refine bind_ok hround ?_
        rw [hafter]
        exact hrest
      by_cases hcreate : w.preparationKind = .create
      · rw [if_pos ⟨rfl, hcreate⟩] at hround'
        cases hown : stage.ownerless with
        | true =>
          have hbare : stage' = .bare := by
            rw [hown] at hownerless
            cases stage' <;> cases harrived <;> cases hownerless
            rfl
          subst hbare
          obtain ⟨stop, hfails⟩ := @nextCandidate_bare git c _ s₀ w d' note hstands hrow
          have hnot : ¬ Proceeds c w d' stage := by
            rintro (h' | ⟨-, h', -⟩)
            · exact hgoes h'
            · exact Bool.false_ne_true (h'.symm.trans hown)
          refine ⟨left.map (fun d => { s with disk := d }) ++ [], .error stop, hround' (bind_error hfails), ?_⟩
          rw [append_nil]
          exact .of_error hleft hnot
        | false =>
          obtain ⟨rest, hrest, ⟨suffix, hselect, hnext, hcourse⟩ | ⟨hnone, stop, hcourse⟩⟩ :=
            nextCandidate_round hgit hstands hrow harrived (hownerless.trans hown)
          · have hrow' : s.row.renamed c suffix = (w.withCandidate c suffix).noting note := by
              rw [hrow]
              rfl
            obtain ⟨left', result, hloop, hend⟩ := prepareLoop_spec hgit fuel hnext hrow'
            have hlast : (left.map (fun d => { s with disk := d }) ++
                (rest ++ [{ s with row := s.row.renamed c suffix, disk := d' }] ++ left')).getLastD s =
                  left'.getLastD { s with row := s.row.renamed c suffix, disk := d' } := by
              rw [getLastD_append, getLastD_append, getLastD_concat]
            have hproceeds : Goes (w.withCandidate c suffix) d' .clean → Proceeds c w d' stage := fun h' =>
              .inr ⟨htaken, hown, hcreate, suffix, hselect, h'⟩
            have hgoes' : Proceeds c (w.withCandidate c suffix) d' .clean → Goes (w.withCandidate c suffix) d' .clean := by
              rintro (h' | ⟨h', -⟩)
              · exact h'
              · exact absurd h' (not_taken_candidate hselect)
            refine ⟨_, result, hround' (bind_ok hcourse (by rw [getLastD_concat]; exact hloop)), ?_⟩
            exact {
              stands := fun u hu => by
                obtain hu | hu := mem_append.1 hu
                · exact hleft u hu
                obtain hu | hu := mem_append.1 hu
                · obtain hu | hu := mem_append.1 hu
                  · exact hrest u hu
                  · exact mem_singleton.1 hu ▸ ⟨_, hnext⟩
                · exact hend.stands u hu
              placed := fun w' hok => by
                obtain ⟨d'', admin, note', hstands', hrow'', hplace⟩ := hend.placed w' hok
                rw [hlast]
                exact ⟨d'', admin, note', hstands', hrow'', .inr ⟨htaken.1, hplace.elim (fun heq => ⟨suffix, hselect, heq⟩) (·.2)⟩⟩
              proceeds := fun hok => hproceeds (hgoes' (hend.proceeds hok))
              goes := fun _ h' => absurd h' hgoes
              enough := fun hfuel h' => by
                obtain h' | ⟨-, -, -, other, hother, h'⟩ := h'
                · exact absurd h' hgoes
                obtain rfl : other = suffix := Except.ok.inj (hother.symm.trans hselect)
                exact hend.goes (by omega) h' }
          · have hnot : ¬ Proceeds c w d' stage := by
              rintro (h' | ⟨-, -, -, suffix, h', -⟩)
              · exact hgoes h'
              · exact hnone suffix h'
            refine ⟨left.map (fun d => { s with disk := d }) ++ rest, .error stop, hround' (bind_error hcourse),
              .of_error (fun u hu => ?_) hnot⟩
            obtain hu | hu := mem_append.1 hu
            · exact hleft u hu
            · exact hrest u hu
      · rw [if_neg fun h => hcreate h.2] at hround'
        obtain ⟨t, ht, hnoted⟩ := @note_failure git c _ s₀ w note (d', stage') .nameOccupied hstands hrow
        have hnot : ¬ Proceeds c w d' stage := by
          rintro (h' | ⟨-, -, h', -⟩)
          · exact hgoes h'
          · exact hcreate h'
        refine ⟨left.map (fun d => { s with disk := d }) ++ [t], .error (.failure .nameOccupied), hround' hnoted, .of_error (fun u hu => ?_) hnot⟩
        obtain hu | hu := mem_append.1 hu
        · exact hleft u hu
        · exact mem_singleton.1 hu ▸ ⟨_, ht⟩

/-! ## What the disk says of a preparation -/

def Ownerless (s : Preparation) : Prop :=
  s.disk.pathOccupied (stagingRoot s.row) = true ∧ s.disk.pathOccupied (stagingOwner s.row) = false

/-- Something is at the target, or there is no checkout yet and its new branch is already there. -/
def NameTaken (s : Preparation) : Prop :=
  s.disk.pathOccupied s.row.worktreePath = true ∨
    (s.disk.pathOccupied (stagingCheckout s.row) = false ∧ s.row.preparationKind = .create ∧ headRef s.row.branch ∈ s.disk.refs)

/-- Git can carry out the plan: its worktree is at its place; or the place is neither occupied nor registered, and the checkout is
there or can be added; or its name is taken, and the next free candidate's place is not registered and its branch has room. -/
def Workable (c : Candidates) (s : Preparation) : Prop :=
  (∃ admin, verifyTree s.disk s.row.worktreePath s.row true = .ok admin) ∨
  (s.disk.pathOccupied s.row.worktreePath = false ∧ s.disk.registered s.row.worktreePath = false ∧
    (s.disk.pathOccupied (stagingCheckout s.row) = true ∨ CanAdd s.row s.disk)) ∨
  (NameTaken s ∧ s.row.preparationKind = .create ∧ ∃ suffix, selectCandidate s.disk c s.row.repositoryRoot 2 = .ok suffix ∧
    s.disk.registered (c.path s.row.repositoryRoot suffix) = false ∧ s.disk.branchFits (c.branch suffix) = true)

section Shown

variable {d : Disk} {stage : Stage}

theorem ownerless_iff (h : Standing git c s₀ s (d, stage)) : Ownerless s ↔ stage.ownerless = true := by
  rw [Ownerless, h.disk, pathOccupied_root h.at_, Disk.pathOccupied, lookup_owner h.at_]
  cases stage <;> simp [Stage.ownerless]

theorem candidate_not_staging (h : Plan git c s.row) (suffix : Nat) : ¬ stagingRoot s.row <+: c.path s.row.repositoryRoot suffix := by
  rw [stagingRoot, stagingRootFor, Candidates.path, prefix_append_right_inj, cons_prefix_cons]
  exact fun hpre => h.names suffix hpre.1.symm

theorem selectCandidate_shown (h : Standing git c s₀ s (d, stage)) (harrived : stage.arrived = false) :
    selectCandidate s.disk c s.row.repositoryRoot 2 = selectCandidate d c s.row.repositoryRoot 2 := by
  have havailable : (fun suffix => candidateAvailable s.disk (c.path s.row.repositoryRoot suffix) (c.branch suffix)) =
      fun suffix => candidateAvailable d (c.path s.row.repositoryRoot suffix) (c.branch suffix) := by
    funext suffix
    rw [candidateAvailable, candidateAvailable, h.disk, Disk.pathOccupied,
      lookup_other (candidate_not_staging h.plan suffix) (by simp [harrived])]
    rfl
  rw [selectCandidate, selectCandidate, havailable]

theorem canAdd_shown (h : Standing git c s₀ s (d, stage)) (hadmin : stage.admin = none) : CanAdd s.row s.disk ↔ CanAdd s.row d := by
  rw [h.disk]
  cases stage <;> cases hadmin <;> exact Iff.rfl

theorem goes_candidate (h : Standing git c s₀ s (d, stage)) (harrived : stage.arrived = false)
    (hcreate : s.row.preparationKind = .create) {suffix : Nat} (hselect : selectCandidate d c s.row.repositoryRoot 2 = .ok suffix) :
    Goes (s.row.withCandidate c suffix) d .clean ↔
      s.disk.registered (c.path s.row.repositoryRoot suffix) = false ∧ s.disk.branchFits (c.branch suffix) = true := by
  have havailable := selectCandidate_available hselect
  rw [candidateAvailable, Bool.and_eq_true, Bool.not_eq_true', decide_eq_true_iff] at havailable
  have hregistered : s.disk.registered (c.path s.row.repositoryRoot suffix) = d.registered (c.path s.row.repositoryRoot suffix) := by
    rw [h.disk]
    refine registered_other h.at_ harrived fun heq => candidate_not_staging h.plan suffix ?_
    exact heq ▸ staging_prefix_checkout s.row
  have hfits : s.disk.branchFits (c.branch suffix) = d.branchFits (c.branch suffix) := by
    rw [h.disk]
    rfl
  have hkind : (s.row.withCandidate c suffix).preparationKind = .create := hcreate
  rw [Goes, CanAdd, hkind, hregistered, hfits]
  constructor
  · rintro ⟨-, harrived' | ⟨-, hunregistered, hadmin | hcan⟩⟩
    · cases harrived'
    · cases hadmin
    · exact ⟨hunregistered, hcan.2⟩
  · exact fun hgo => ⟨rfl, .inr ⟨havailable.1, hgo.1, .inr ⟨havailable.2, hgo.2⟩⟩⟩

/-- **A preparation with its owner file proceeds where Git can carry out its plan.** -/
theorem proceeds_iff (h : Standing git c s₀ s (d, stage)) (hownerless : stage.ownerless = false) :
    Proceeds c s.row d stage ↔ Workable c s := by
  by_cases harrived : stage.arrived = true
  · obtain ⟨admin, hadmin⟩ : ∃ admin, stage.admin = some admin := by
      cases stage <;> cases harrived <;> exact ⟨_, rfl⟩
    have hverified := verifyTree_target h.at_ hadmin harrived
    exact ⟨fun _ => .inl ⟨admin, h.disk ▸ hverified⟩, fun _ => .inl ⟨hownerless, .inl harrived⟩⟩
  rw [Bool.not_eq_true] at harrived
  have hoccupied : s.disk.pathOccupied s.row.worktreePath = d.pathOccupied s.row.worktreePath :=
    h.disk ▸ pathOccupied_target h.at_ harrived
  have hregistered : s.disk.registered s.row.worktreePath = d.registered s.row.worktreePath :=
    h.disk ▸ registered_other h.at_ harrived (target_ne_checkout h.at_.beside)
  have hcheckout : s.disk.pathOccupied (stagingCheckout s.row) = stage.admin.isSome := by
    rw [h.disk, pathOccupied_checkout h.at_]
    cases stage <;> first | rfl | cases harrived
  have hgoes : Goes s.row d stage ↔ (s.disk.pathOccupied s.row.worktreePath = false ∧
      s.disk.registered s.row.worktreePath = false ∧
      (s.disk.pathOccupied (stagingCheckout s.row) = true ∨ CanAdd s.row s.disk)) := by
    rw [Goes, hoccupied, hregistered, hcheckout]
    simp only [hownerless, harrived, Bool.false_eq_true, false_or, true_and]
    refine and_congr_right fun _ => and_congr_right fun _ => ?_
    cases hadmin : stage.admin with
    | none => rw [canAdd_shown h hadmin]
    | some admin => simp
  have htaken : Taken s.row d stage ↔ NameTaken s := by
    rw [Taken, NameTaken, hoccupied, hcheckout, h.disk]
    simp only [harrived, hownerless, true_and, Option.isSome_eq_false_iff, Option.isNone_iff_eq_none]
    rfl
  rw [Proceeds, Workable, hgoes, htaken]
  constructor
  · rintro (hgo | ⟨htake, -, hcreate, suffix, hselect, hgo⟩)
    · exact .inr (.inl hgo)
    exact .inr (.inr ⟨htake, hcreate, suffix, (selectCandidate_shown h harrived).trans hselect,
      (goes_candidate h harrived hcreate hselect).1 hgo⟩)
  · rintro (⟨admin, hverified⟩ | hgo | ⟨htake, hcreate, suffix, hselect, hgo⟩)
    · obtain ⟨failure, hfails⟩ := verifyTree_in_the_way h.at_ harrived
      rw [h.disk, hfails] at hverified
      cases hverified
    · exact .inl hgo
    · rw [selectCandidate_shown h harrived] at hselect
      exact .inr ⟨htake, hownerless, hcreate, suffix, hselect, (goes_candidate h harrived hcreate hselect).2 hgo⟩

end Shown

/-! ## Recovery -/

/-- The preparation has ended with a worktree of its own at the planned place or the next free candidate's, which carries its marker,
and without a staging directory. -/
structure Recovered (c : Candidates) (s₀ s t : Preparation) : Prop where
  ready : t.row.state = .ready
  token : t.row.preparationToken = s₀.row.preparationToken
  worktree : ∃ admin, verifyTree t.disk t.row.worktreePath t.row true = .ok admin ∧ admin ∉ s₀.disk.registrations
  own : t.row.worktreePath ∉ s₀.disk.entries
  staging : ∀ path ∈ t.disk.entries, ¬ stagingRoot t.row <+: path
  place : t.row.worktreePath = s.row.worktreePath ∨ ∃ suffix, selectCandidate s.disk c s.row.repositoryRoot 2 = .ok suffix ∧
    t.row.worktreePath = c.path s.row.repositoryRoot suffix

structure Untouched (d d' : Disk) : Prop where
  entries : ∀ path entry, d.entries.lookup path = some entry → d'.entries.lookup path = some entry
  registrations : ∀ admin registration, d.registrations.lookup admin = some registration →
    d'.registrations.lookup admin = some registration
  refs : ∀ ref ∈ d.refs, ref ∈ d'.refs

def Recovers (git : MissionGit) (c : Candidates) (fuel : Nat) (s₀ s : Preparation) : Prop :=
  (∃ w, ((prepare git c fuel).run s).result = .ok w) ∧ Recovered c s₀ s ((prepare git c fuel).final s)

theorem Standing.untouched {p : Disk × Stage} (h : Standing git c s₀ s p) : Untouched s₀.disk s.disk where
  entries := fun path entry hentry => by
    obtain ⟨d, stage⟩ := p
    rw [← h.extends_.entries] at hentry
    have hmem := Finmap.mem_of_lookup_eq_some hentry
    rw [h.disk, lookup_other (h.at_.foreign.staging path hmem) fun harrived heq => h.at_.target harrived (heq ▸ hmem), hentry]
  registrations := fun admin registration hregistration => by
    rw [← h.extends_.registrations] at hregistration
    rw [h.disk, lookup_other_admin fun hadmin => (h.at_.admin admin hadmin).1 (Finmap.mem_of_lookup_eq_some hregistration),
      hregistration]
  refs := fun ref hmem => h.disk ▸ h.extends_.refs ref hmem

theorem interrupted_standing (hgit : git.Documented s₀.row.gitCommonDir) (hplanned : Planned git c s₀)
    (h : Interrupted (preparing git c) s₀ s) : ∃ p, Standing git c s₀ s p := by
  refine h.invariant (P := fun s => ∃ p, Standing git c s₀ s p) ?_ ⟨_, hplanned.standing⟩
  rintro fuel s ⟨⟨d, stage⟩, hs⟩ t ht
  obtain ⟨left, result, hcourse, hend⟩ := @prepareLoop_spec git c s₀ hgit fuel s.row s d stage s.row.diagnostic hs rfl
  have hrun : (preparing git c fuel).run s = ⟨left, result⟩ := (ask_bind _ _ s).trans hcourse
  rw [cuts, hrun] at ht
  obtain rfl | hmem := mem_cons.1 ht
  · exact ⟨_, hs⟩
  · exact hend.stands t hmem

theorem recovered_of_placed {t : Preparation} {d' : Disk} {admin : Path} (h : Standing git c s₀ t (d', .placed admin))
    (hplace : t.row.worktreePath = s.row.worktreePath ∨ ∃ suffix, selectCandidate s.disk c s.row.repositoryRoot 2 = .ok suffix ∧
      t.row.worktreePath = c.path s.row.repositoryRoot suffix) :
    Recovered c s₀ s { t with row := { t.row with state := .ready, diagnostic := none } } where
  ready := rfl
  token := h.token
  worktree := by
    have hverified : verifyTree _ t.row.worktreePath t.row true = .ok admin := verifyTree_target h.at_ rfl rfl
    refine ⟨admin, h.disk ▸ hverified, ?_⟩
    rw [← h.extends_.registrations]
    exact (h.at_.admin admin rfl).1
  own := by
    rw [← h.extends_.entries]
    exact h.at_.target rfl
  staging := fun path hmem => by
    rw [h.disk] at hmem
    have htarget := target_not_staging h.at_.beside
    obtain rfl | hold := Finmap.mem_insert.1 hmem
    · exact htarget
    · exact h.at_.foreign.staging path hold
  place := hplace

def samplePlan : MissionWorkspace where
  id := "workspace-1"
  campId := "camp-1"
  executionHostId := "host-1"
  repositoryRoot := ["home", "app"]
  gitCommonDir := ["home", "app", ".git"]
  worktreePath := ["home", "app-mission-001"]
  workingDirectory := ["home", "app-mission-001"]
  branch := "rovai/mission/001"
  baseSha := "b5bb9d8014a0f9b1d61e21e796d78dccdf1352f2"
  preparationToken := "1f0e0c4e-9f0b-4b57-9f35-0d6a53a4f0c1"
  preparationKind := .create
  generation := 1
  state := .preparing
  cleanupCommandId := none
  cleanupExpectedBranchOid := none
  cleanupWorktreeRemoved := false
  cleanupBranchRemoved := false
  diagnostic := none

def sampleDisk : Disk where
  entries := Finmap.insert ["home", "app"] (.checkout ["home", "app", ".git"] ["home", "app", ".git"] false)
    (Finmap.singleton ["home"] .directory)
  refs := Finmap.singleton "refs/heads/main" "b5bb9d8014a0f9b1d61e21e796d78dccdf1352f2"
  registrations := ∅

def sampleCandidates : Candidates := ⟨"app", "001"⟩

def samplePreparation : Preparation := ⟨samplePlan, true, sampleDisk⟩

def sampleGit : MissionGit := documentedGit ["home", "app", ".git"]

theorem samplePreparation_planned : Planned sampleGit sampleCandidates samplePreparation where
  accepts := rfl
  plan := ⟨rfl, rfl, prefix_rfl, fun suffix heq => by
    have hfirst := congrArg (fun text : String => text.toList.head?) heq
    simp [sampleCandidates, String.toList_append] at hfirst⟩
  beside := ⟨⟨"app-mission-001", rfl, by decide⟩, fun path hpath => by
    have hall : ∀ path ∈ ["home"].inits, sampleDisk.isSymlink path = false := by decide
    exact hall path ((mem_inits _ _).2 hpath)⟩
  foreign := ⟨fun path hmem => by
    have hall : ∀ path ∈ sampleDisk.entries.keys, ¬ stagingRoot samplePlan <+: path := by decide
    exact hall path (Finmap.mem_keys.2 hmem), fun admin registration hlookup => by
    cases (Finmap.lookup_empty admin).symm.trans hlookup⟩

def cutOff (steps : Nat) : Preparation :=
  ((preparing sampleGit sampleCandidates 2).cuts samplePreparation).getD steps samplePreparation

theorem cutOff_interrupted {steps : Nat} (h : steps ≤ 7) :
    Interrupted (preparing sampleGit sampleCandidates) samplePreparation (cutOff steps) := by
  refine Relation.ReflTransGen.single ⟨2, ?_⟩
  have hlength : ((preparing sampleGit sampleCandidates 2).cuts samplePreparation).length = 8 := by decide
  rw [cutOff, getD_eq_getElem?_getD, getElem?_eq_getElem (by omega), Option.getD_some]
  exact getElem_mem _

end Rovai.Mission
