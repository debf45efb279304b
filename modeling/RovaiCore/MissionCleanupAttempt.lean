import RovaiCore.MissionCleanupSteps
/-!
# Every step of an attempt

The attempt part by part: the verification, the removal of the worktree and the deletion of the branch, each with what it leaves for the
next.
-/
namespace Rovai.Mission

section Parts

variable {git : CleanupGit} {P : Lifecycle → Prop} {w : MissionWorkspace}

/-! ## Verification -/

def ObservationFact (w : MissionWorkspace) (o : CleanupGitObservation) (d : Disk) : Prop :=
  ∃ commonDir modified, d.entries.lookup w.worktreePath = some (.checkout commonDir o.adminDir modified) ∧
    headOid d o.adminDir = some o.headOid ∧ checkoutReference d o.adminDir = o.checkoutReference

theorem cleanupObservationQuery_ok {managedReference : String} {includes : Bool} {d : Disk} {o : CleanupGitObservation}
    (h : cleanupObservationQuery w managedReference includes d = .ok o) :
    ObservationFact w o d ∧ (includes = false → o.managedBranchOid = none) := by
  rw [cleanupObservationQuery] at h
  cases hentry : d.entries.lookup w.worktreePath with
  | none => simp [hentry] at h
  | some entry =>
    cases entry with
    | checkout commonDir adminDir modified =>
      cases hhead : headOid d adminDir with
      | none => simp [hentry, hhead] at h
      | some head =>
        simp only [hentry, hhead] at h
        cases includes with
        | false =>
          obtain rfl := Except.ok.inj h
          exact ⟨⟨commonDir, modified, hentry, hhead, rfl⟩, fun _ => rfl⟩
        | true =>
          cases hmanaged : d.refs.lookup managedReference with
          | none => simp [hmanaged] at h
          | some oid =>
            simp only [hmanaged, if_true] at h
            obtain rfl := Except.ok.inj h
            exact ⟨⟨commonDir, modified, hentry, hhead, rfl⟩, fun hfalse => by simp at hfalse⟩
    | directory => simp [hentry] at h
    | file _ => simp [hentry] at h
    | symlink _ => simp [hentry] at h

theorem parseCleanupObservation_ok {r : Except String CleanupGitObservation} {o : CleanupGitObservation}
    (h : parseCleanupObservation r = .ok o) : r = .ok o := by
  cases r with
  | error message => simp [parseCleanupObservation] at h
  | ok o' =>
    rw [parseCleanupObservation] at h
    split at h
    · rw [Except.ok.inj h]
    · simp at h

theorem attempt_observeCleanupState (hP : Firm P) (managedReference : String) :
    Attempt git P (observeCleanupState w managedReference) fun o s =>
      (P s ∧ Seen (ObservationFact w o) s) ∧ (w.cleanupBranchRemoved = true → o.managedBranchOid = none) := by
  have hread : Attempt git P (readDisk fun d => parseCleanupObservation (cleanupObservationQuery w managedReference false d))
      fun o s => (P s ∧ Seen (ObservationFact w o) s) ∧ o.managedBranchOid = none := by
    apply Program.triple_weaken (attempt_readDisk hP _) (fun _ h => h) _ fun _ _ h => h
    rintro o s ⟨hs, d, hmem, hd⟩
    have hquery := cleanupObservationQuery_ok (parseCleanupObservation_ok hd)
    exact ⟨⟨hs, d, hmem, hquery.1⟩, hquery.2 rfl⟩
  rw [observeCleanupState]
  by_cases hremoved : w.cleanupBranchRemoved = true
  · rw [if_pos hremoved]
    exact Program.triple_weaken hread (fun _ h => h) (fun _ _ h => ⟨h.1, fun _ => h.2⟩) fun _ _ h => h
  · rw [if_neg hremoved]
    apply Program.triple_bind (attempt_lookAt hP _)
    intro combined
    cases combined with
    | ok o =>
      apply Program.triple_weaken (attempt_settle _) (fun _ h => h) _ fun _ _ h => h
      rintro o' s ⟨⟨hs, d, hmem, hd⟩, hparse⟩
      obtain rfl := Except.ok.inj (parseCleanupObservation_ok hparse)
      exact ⟨⟨hs, d, hmem, (cleanupObservationQuery_ok hd).1⟩, fun h => absurd h hremoved⟩
    | error message =>
      apply Program.triple_pre _ fun s (h : P s ∧ _) => h.1
      apply Program.triple_bind hread
      intro o
      apply Program.triple_bind (attempt_lookAt ((hP.and (firm_Seen _)).and (firm_const _)) _)
      intro branchOid
      by_cases hsome : branchOid.isSome = true
      · simp only [hsome, if_true]
        exact attempt_fail _
      · simp only [hsome]
        exact Program.triple_pure fun s h => ⟨h.1.1, fun h' => absurd h' hremoved⟩

theorem attempt_verifyCleanupFilesystemIdentity (hP : Firm P) (adminDir : Path) :
    Attempt git P (verifyCleanupFilesystemIdentity w adminDir) fun _ s => P s := by
  rw [verifyCleanupFilesystemIdentity]
  apply Program.triple_bind (attempt_check hP _)
  intro _
  apply Program.triple_bind (attempt_check hP _)
  intro _
  apply Program.triple_bind (attempt_check hP _)
  intro _
  apply Program.triple_bind (attempt_check hP _)
  intro _
  exact attempt_check hP _

def TargetFact (w : MissionWorkspace) (t : TargetInspection) : Prop :=
  t.managedReference = headRef w.branch ∧ (w.cleanupBranchRemoved = true → t.managedBranchOid = none)

theorem attempt_inspectTarget (hP : Firm P) : Attempt git P (inspectTarget git w) fun t s =>
    P s ∧ TargetFact w t ∧ (t.detachedUnreachable = false → HeadRetained git w s.seen) := by
  rw [inspectTarget]
  apply Program.triple_bind (attempt_observeCleanupState hP _)
  intro o
  have hfirm : Firm fun s => (P s ∧ Seen (ObservationFact w o) s) ∧ (w.cleanupBranchRemoved = true → o.managedBranchOid = none) :=
    (hP.and (firm_Seen _)).and (firm_const _)
  apply Program.triple_bind (attempt_settle _)
  intro _
  apply Program.triple_pre _ fun s (h : (_ ∧ _) ∧ _) => h.1
  apply Program.triple_bind (attempt_verifyCleanupFilesystemIdentity hfirm o.adminDir)
  intro _
  cases hcheckout : o.checkoutReference with
  | some reference =>
    apply Program.triple_pure
    rintro s ⟨⟨hs, d, hmem, commonDir, modified, hentry, -, hreference⟩, hmanaged⟩
    refine ⟨hs, ⟨rfl, hmanaged⟩, fun _ => ⟨d, hmem, commonDir, o.adminDir, modified, hentry, .inl ?_⟩⟩
    simp [hreference, hcheckout]
  | none =>
    apply Program.triple_bind (attempt_lookAt hfirm _)
    intro retained
    apply Program.triple_pure
    rintro s ⟨⟨⟨hs, d, hmem, commonDir, modified, hentry, hhead, -⟩, hmanaged⟩, d', hmem', hretained⟩
    refine ⟨hs, ⟨rfl, hmanaged⟩, fun hreachable => ⟨d, hmem, commonDir, o.adminDir, modified, hentry, .inr ?_⟩⟩
    refine ⟨o.headOid, hhead, d', hmem', ?_⟩
    rw [hretained]
    simpa using hreachable

theorem attempt_cleanupBranchReference (hP : Firm P) :
    Attempt git P (cleanupBranchReference git w) fun reference s => P s ∧ reference = headRef w.branch := by
  rw [cleanupBranchReference]
  apply Program.triple_bind (attempt_check hP _)
  intro _
  apply Program.triple_bind (attempt_settle _)
  intro _
  exact Program.triple_pure fun s h => ⟨h.1, rfl⟩

theorem attempt_managedBranch (hP : Firm P) {reference : String} : Attempt git P (managedBranch w reference) fun oid s =>
    P s ∧ (w.cleanupBranchRemoved = true → oid = none) := by
  rw [managedBranch]
  by_cases hremoved : w.cleanupBranchRemoved = true
  · rw [if_pos hremoved]
    exact Program.triple_pure fun s h => ⟨h, fun _ => rfl⟩
  · rw [if_neg hremoved]
    exact Program.triple_weaken (attempt_lookAt hP _) (fun _ h => h) (fun _ _ h => ⟨h.1, fun h' => absurd h' hremoved⟩) fun _ _ h => h

theorem attempt_inspectAbsence (hP : Firm P) : Attempt git P (inspectAbsence git w) fun t s => P s ∧ TargetFact w t := by
  rw [inspectAbsence]
  apply Program.triple_bind (attempt_cleanupBranchReference hP)
  intro reference
  have hfirm : Firm fun s => P s ∧ reference = headRef w.branch := hP.and (firm_const _)
  apply Program.triple_bind (attempt_managedBranch hfirm)
  intro oid
  apply Program.triple_bind (attempt_check (hfirm.and (firm_const _)) _)
  intro stale
  exact Program.triple_pure fun s h => ⟨h.1.1, h.1.2, h.2⟩

structure InspectedFact (git : CleanupGit) (w : MissionWorkspace) (targetPresent : Bool) (t : TargetInspection) (s : Lifecycle) :
    Prop where
  target : TargetFact w t
  head : targetPresent = true → t.detachedUnreachable = false → HeadRetained git w s.seen
  absent : targetPresent = false → Seen (fun d => d.pathOccupied w.worktreePath = false) s

theorem firm_inspectedFact {targetPresent : Bool} (t : TargetInspection) : Firm (InspectedFact git w targetPresent t) := by
  have hhead := firm_headRetained git w
  have habsent := firm_Seen fun d => d.pathOccupied w.worktreePath = false
  constructor
  · intro s s' hstep h
    exact ⟨h.1, fun hp ht => hhead.1 s s' hstep (h.2 hp ht), fun hp => habsent.1 s s' hstep (h.3 hp)⟩
  · intro s d h
    exact ⟨h.1, fun hp ht => hhead.2 s d (h.2 hp ht), fun hp => habsent.2 s d (h.3 hp)⟩

theorem attempt_inspectPlace (hP : Firm P) (targetPresent : Bool) :
    Attempt git (fun s => P s ∧ Seen (fun d => d.pathOccupied w.worktreePath = targetPresent) s) (inspectPlace git w targetPresent)
      fun t s => P s ∧ InspectedFact git w targetPresent t s := by
  have hfirm : Firm fun s => P s ∧ Seen (fun d => d.pathOccupied w.worktreePath = targetPresent) s := hP.and (firm_Seen _)
  cases targetPresent with
  | true =>
    apply Program.triple_weaken (attempt_inspectTarget hfirm) (fun _ h => h) _ fun _ _ h => h
    rintro t s ⟨⟨hs, -⟩, hfact, hhead⟩
    exact ⟨hs, hfact, fun _ => hhead, fun h => absurd h (by decide)⟩
  | false =>
    apply Program.triple_weaken (attempt_inspectAbsence hfirm) (fun _ h => h) _ fun _ _ h => h
    rintro t s ⟨⟨hs, habsent⟩, hfact⟩
    exact ⟨hs, hfact, fun h => absurd h (by decide), fun _ => habsent⟩

theorem attempt_inspectStaging (hP : Firm P) : Attempt git P (inspectStaging w) fun _ s => P s := by
  have hlook {α : Type} (f : Disk → α) : Attempt git P (lookAt f) fun _ s => P s := attempt_check hP _
  rw [inspectStaging]
  apply Program.triple_bind (hlook _)
  intro present
  cases present with
  | false => exact Program.triple_pure fun _ h => h
  | true =>
    apply Program.triple_bind (attempt_check hP _)
    intro _
    apply Program.triple_bind (hlook _)
    intro checkoutPresent
    cases checkoutPresent with
    | false => exact Program.triple_pure fun _ h => h
    | true =>
      apply Program.triple_bind (attempt_check hP _)
      intro adminDir
      apply Program.triple_bind (attempt_check hP _)
      intro _
      exact Program.triple_pure fun _ h => h

structure VerifiedFact (git : CleanupGit) (w : MissionWorkspace) (v : VerifiedWorktreeCleanup) (s : Lifecycle) : Prop where
  managedReference : v.managedReference = headRef w.branch
  managedBranchOid : w.cleanupBranchRemoved = true → v.managedBranchOid = none
  head : v.targetPresent = true → HeadRetained git w s.seen
  absent : v.targetPresent = false → Seen (fun d => d.pathOccupied w.worktreePath = false) s

theorem firm_verifiedFact (v : VerifiedWorktreeCleanup) : Firm (VerifiedFact git w v) := by
  have hhead := firm_headRetained git w
  have habsent := firm_Seen fun d => d.pathOccupied w.worktreePath = false
  constructor
  · intro s s' hstep h
    exact ⟨h.1, h.2, fun hv => hhead.1 s s' hstep (h.3 hv), fun hv => habsent.1 s s' hstep (h.4 hv)⟩
  · intro s d h
    exact ⟨h.1, h.2, fun hv => hhead.2 s d (h.3 hv), fun hv => habsent.2 s d (h.4 hv)⟩

theorem attempt_prepareWorktreeCleanup (hP : Firm P) :
    Attempt git P (prepareWorktreeCleanup git w) fun v s => P s ∧ VerifiedFact git w v s := by
  rw [prepareWorktreeCleanup]
  apply Program.triple_bind (attempt_lookAt hP _)
  intro targetPresent
  apply Program.triple_bind (attempt_inspectPlace hP targetPresent)
  intro t
  have hfirm : Firm fun s => P s ∧ InspectedFact git w targetPresent t s := hP.and (firm_inspectedFact t)
  apply Program.triple_bind (attempt_inspectStaging hfirm)
  rintro ⟨staging, stagingCheckoutPresent⟩
  cases hunreachable : t.detachedUnreachable with
  | true => exact attempt_fail _
  | false =>
    apply Program.triple_pure
    rintro s ⟨hs, hfact⟩
    exact ⟨hs, hfact.target.1, hfact.target.2, fun h => hfact.head h hunreachable, hfact.absent⟩

/-! ## Removal -/

/-- What is kept while the worktree is removed: the row whose expected OID has been saved, which has not ended. -/
def Removing (w : MissionWorkspace) (s : Lifecycle) : Prop :=
  Custody w s ∧ w.cleanupWorktreeRemoved = false ∧ Recorded w

theorem firm_removing (w : MissionWorkspace) : Firm (Removing w) :=
  (firm_custody w).and (firm_const _)

variable {s : Lifecycle}

theorem Custody.row (h : Custody w s) (hfinished : w.cleanupFinished = false) :
    ∃ row, s.workspace = some row ∧ Same w row := by
  rcases h.2 with hrow | ⟨hended, -⟩
  · exact hrow
  rw [hfinished] at hended
  exact absurd hended (by decide)

theorem Removing.row (h : Removing w s) : ∃ row, s.workspace = some row ∧ Same w row :=
  h.1.row (by rw [MissionWorkspace.cleanupFinished, h.2.1, Bool.false_and])

theorem Same.recorded {row : MissionWorkspace} (h : Same w row) (hrecorded : Recorded w) : Recorded row := by
  rw [h]; exact hrecorded

theorem Same.headRetained {row : MissionWorkspace} {seen : List Disk} (h : Same w row) (hhead : HeadRetained git w seen) :
    HeadRetained git row seen := by
  rw [h]; exact hhead

def Absent (w : MissionWorkspace) (s : Lifecycle) : Prop :=
  Removing w s ∧ Seen (fun d => d.pathOccupied w.worktreePath = false) s

theorem firm_absent (w : MissionWorkspace) : Firm (Absent w) :=
  (firm_removing w).and (firm_Seen _)

theorem attempt_alterDisk (hP : Firm P) {f : Disk → Except CleanupFailure Disk}
    (hstep : ∀ s d, P s → f s.disk = .ok d → CleaningStep git s { s with disk := d } ∧ P { s with disk := d }) :
    Attempt git P (alterDisk f []) fun _ s => P s := by
  apply Program.triple_atomic hP.1
  · intro s hs
    cases h : f s.disk with
    | error e => exact .unchanged
    | ok d => simpa [h] using (hstep s d hs h).1
  · intro s a hs ha
    cases h : f s.disk with
    | error e => simp [h] at ha
    | ok d => simpa [h] using (hstep s d hs h).2
  · intros
    trivial

variable {path : Path}

theorem erase_tidied
    (hpath : ∀ commonDir adminDir modified, s.disk.entries.lookup path ≠ some (.checkout commonDir adminDir modified)) :
    CleaningStep git s { s with disk := { s.disk with entries := s.disk.entries.erase path } } := by
  apply CleaningStep.tidied (d := { s.disk with entries := s.disk.entries.erase path }) rfl
  intro path' commonDir adminDir modified hlookup
  have hne : path' ≠ path := by
    rintro rfl
    exact hpath _ _ _ hlookup
  exact Finmap.lookup_erase_ne hne

theorem attempt_removeRegistrations (stale : List Path) : Attempt git (Absent w) (removeRegistrations stale) fun _ s => Absent w s := by
  induction stale with
  | nil => exact Program.triple_pure fun _ h => h
  | cons adminDir rest ih =>
    rw [removeRegistrations]
    apply Program.triple_bind (attempt_alterDisk (firm_absent w) _) fun _ => ih
    intro s d hs hd
    rw [removeRegistration] at hd
    split at hd
    · obtain rfl := Except.ok.inj hd
      exact ⟨.tidied rfl fun _ _ _ _ _ => rfl, hs⟩
    · simp at hd

theorem attempt_removeStagingTree (hgit : git.Careful) (v : VerifiedWorktreeCleanup) :
    Attempt git (Absent w) (removeStagingTree git w v) fun _ s => Absent w s := by
  rw [removeStagingTree]
  by_cases hpresent : v.stagingCheckoutPresent = true
  · rw [if_pos hpresent]
    apply attempt_alterDisk (firm_absent w)
    intro s d hs hd
    rw [removeStagingCheckout] at hd
    split at hd
    · rename_i d' hremove
      obtain rfl := Except.ok.inj hd
      obtain ⟨commonDir, adminDir, modified, hentry, -, rfl⟩ := hgit.remove_ok hremove
      obtain ⟨row, hrow, hsame⟩ := hs.1.row
      have hplace : stagingCheckout w = stagingCheckout row := by rw [hsame]; rfl
      rw [hplace] at hentry ⊢
      exact ⟨.removedStaging hrow hentry, hs⟩
    · simp at hd
  · rw [if_neg hpresent]
    exact Program.triple_pure fun _ h => h

theorem removeFile_ok {d d' : Disk} (h : plainly (orFailed (d.removeFile path)) = .ok d') :
    (∀ commonDir adminDir modified, d.entries.lookup path ≠ some (.checkout commonDir adminDir modified)) ∧
      d' = { d with entries := d.entries.erase path } := by
  rw [Disk.removeFile] at h
  split at h
  · rename_i text hlookup
    exact ⟨by simp [hlookup], (Except.ok.inj h).symm⟩
  · rename_i dangling hlookup
    exact ⟨by simp [hlookup], (Except.ok.inj h).symm⟩
  · simp [orFailed, plainly] at h

theorem removeDir_ok {d d' : Disk} (h : plainly (orFailed (d.removeDir path)) = .ok d') :
    (∀ commonDir adminDir modified, d.entries.lookup path ≠ some (.checkout commonDir adminDir modified)) ∧
      d' = { d with entries := d.entries.erase path } := by
  rw [Disk.removeDir] at h
  split at h
  · rename_i hlookup
    split at h
    · exact ⟨by simp [hlookup], (Except.ok.inj h).symm⟩
    · simp [orFailed, plainly] at h
  · simp [orFailed, plainly] at h

theorem attempt_removeStagingVerified (hgit : git.Careful) (v : VerifiedWorktreeCleanup) :
    Attempt git (Absent w) (removeStagingVerified git w v) fun _ s => Absent w s := by
  rw [removeStagingVerified]
  by_cases hstaging : v.stagingRoot.isSome = true
  · rw [if_pos hstaging]
    apply Program.triple_bind (attempt_removeStagingTree hgit v)
    intro _
    apply Program.triple_bind (attempt_alterDisk (firm_absent w) _)
    · intro _
      apply attempt_alterDisk (firm_absent w)
      intro s d hs hd
      obtain ⟨hpath, rfl⟩ := removeDir_ok hd
      exact ⟨erase_tidied hpath, hs⟩
    · intro s d hs hd
      obtain ⟨hpath, rfl⟩ := removeFile_ok hd
      exact ⟨erase_tidied hpath, hs⟩
  · rw [if_neg hstaging]
    exact Program.triple_pure fun _ h => h

theorem attempt_ownedWorktreeIntact (hP : Firm P) (v : VerifiedWorktreeCleanup) :
    Attempt git P (ownedWorktreeIntact w v) fun _ _ => True := by
  rw [ownedWorktreeIntact]
  split
  · apply Program.triple_bind (Program.triple_attempt (attempt_verifyCleanupFilesystemIdentity hP _))
    intro _
    exact Program.triple_pure fun _ _ => trivial
  · exact Program.triple_pure fun _ _ => trivial

theorem attempt_removeTarget (hgit : git.Careful) :
    Attempt git (fun s => Removing w s ∧ HeadRetained git w s.seen) (alterDisk (removeTarget git w) [.removed]) fun _ s =>
      Removing w s := by
  apply Program.triple_atomic ((firm_removing w).and (firm_headRetained git w)).1
  · intro s hs
    cases h : git.worktreeRemove s.disk false w.worktreePath with
    | error diagnostic => simpa [removeTarget, h] using CleaningStep.unchanged
    | ok d =>
      obtain ⟨commonDir, adminDir, modified, hentry, hmodified, rfl⟩ := hgit.remove_ok h
      obtain ⟨row, hrow, hsame⟩ := hs.1.row
      have hclean : modified = false := hmodified.resolve_left (by decide)
      have hplace : w.worktreePath = row.worktreePath := by rw [hsame]
      subst hclean
      simp only [removeTarget, h]
      rw [hplace] at hentry ⊢
      exact .removedTarget hrow (hsame.recorded hs.1.2.2) hentry (hsame.headRetained hs.2)
  · intro s a hs ha
    cases h : removeTarget git w s.disk with
    | error e => exact hs.1
    | ok d => exact hs.1
  · intros
    trivial

theorem attempt_removeTargetVerified (hgit : git.Careful) (v : VerifiedWorktreeCleanup) :
    Attempt git (fun s => Removing w s ∧ HeadRetained git w s.seen) (removeTargetVerified git w v) fun _ s => Absent w s := by
  rw [removeTargetVerified]
  apply Program.triple_bind (Program.triple_attempt (attempt_removeTarget hgit))
  intro removed
  cases removed with
  | ok _ =>
    apply Program.triple_weaken (attempt_readDisk (firm_removing w) _) (fun _ h => h) _ fun _ _ h => h
    rintro _ s ⟨hs, d, hmem, hd⟩
    refine ⟨hs, d, hmem, ?_⟩
    rw [expect] at hd
    split at hd
    · rename_i habsent
      simpa using habsent
    · simp at hd
  | error diagnostic =>
    apply Program.triple_bind (attempt_ownedWorktreeIntact (firm_const True) v)
    intro intact
    split <;> exact attempt_fail _

theorem attempt_removePlace (hgit : git.Careful) {v : VerifiedWorktreeCleanup} :
    Attempt git (fun s => Removing w s ∧ (v.targetPresent = true → HeadRetained git w s.seen) ∧
      (v.targetPresent = false → Seen (fun d => d.pathOccupied w.worktreePath = false) s)) (removePlace git w v) fun _ s => Absent w s := by
  rw [removePlace]
  by_cases hpresent : v.targetPresent = true
  · rw [if_pos hpresent]
    exact Program.triple_pre (attempt_removeTargetVerified hgit v) fun s h => ⟨h.1, h.2.1 hpresent⟩
  · rw [if_neg hpresent]
    exact Program.triple_pre (attempt_removeRegistrations _) fun s h => ⟨h.1, h.2.2 (by simpa using hpresent)⟩

def flagged (w : MissionWorkspace) : MissionWorkspace :=
  { w with cleanupWorktreeRemoved := true }

theorem attempt_flagWorktreeRemoved : Attempt git (Absent w) (flagWorktreeRemoved w) fun _ s => Custody (flagged w) s := by
  have hflag : ∀ s, Absent w s → ∃ row, s.workspace = some row ∧ Same w row ∧
      (s.update (fun row => row.id = w.id) fun row => { row with cleanupWorktreeRemoved := true }) =
        { s with workspace := some { row with cleanupWorktreeRemoved := true } } := by
    intro s hs
    obtain ⟨row, hrow, hsame⟩ := hs.1.row
    have hid : row.id = w.id := by rw [hsame]
    exact ⟨row, hrow, hsame, Lifecycle.update_row hrow (by simp [hid])⟩
  apply Program.triple_atomic (firm_absent w).1
  · intro s hs
    obtain ⟨row, hrow, hsame, hupdate⟩ := hflag s hs
    obtain ⟨d, hmem, hd⟩ := hs.2
    have hplace : w.worktreePath = row.worktreePath := by rw [hsame]
    rw [hplace] at hd
    dsimp only
    rw [hupdate]
    exact .flagged hrow (hsame.recorded hs.1.2.2) ⟨d, hmem, hd⟩
  · intro s a hs _
    obtain ⟨row, hrow, hsame, hupdate⟩ := hflag s hs
    dsimp only
    rw [hupdate]
    refine ⟨hs.1.1.1, .inl ⟨_, rfl, ?_⟩⟩
    rw [hsame]
    rfl
  · intros
    trivial

/-! ## The branch -/

def Deleting (w : MissionWorkspace) (oid : Oid) (s : Lifecycle) : Prop :=
  Custody w s ∧ w.cleanupBranchRemoved = false ∧ w.cleanupExpectedBranchOid = some oid

theorem firm_deleting (w : MissionWorkspace) (oid : Oid) : Firm (Deleting w oid) :=
  (firm_custody w).and (firm_const _)

theorem Deleting.row {oid : Oid} (h : Deleting w oid s) : ∃ row, s.workspace = some row ∧ Same w row :=
  h.1.row (by rw [MissionWorkspace.cleanupFinished, h.2.1, Bool.and_false])

theorem attempt_deleteBranchExpected (hgit : git.Careful) (oid : Oid) :
    Attempt git (Deleting w oid) (deleteBranchExpected git (headRef w.branch) oid) fun _ s => Custody w s ∧ BranchGone w s := by
  have hfirm := firm_deleting w oid
  let Deleted (r : Except String Unit) (s : Lifecycle) : Prop :=
    Deleting w oid s ∧ (r = .ok () → BranchGone w s)
  rw [deleteBranchExpected]
  apply Program.triple_bind (attempt_check hfirm _)
  intro _
  refine Program.triple_bind (show Attempt git (Deleting w oid) _ Deleted from ?_) ?_
  · apply Program.triple_atomic hfirm.1
    · intro s hs
      cases h : git.updateRefDelete s.disk (headRef w.branch) oid with
      | error message => exact .unchanged
      | ok d =>
        obtain ⟨htip, rfl⟩ := hgit.delete_ok h
        obtain ⟨row, hrow, hsame⟩ := hs.row
        have hbranch : w.branch = row.branch := by rw [hsame]
        rw [hbranch] at htip ⊢
        exact .deletedBranch hrow (by rw [hsame]; exact hs.2.2) htip
    · intro s r hs hr
      cases h : git.updateRefDelete s.disk (headRef w.branch) oid with
      | error message =>
        simp only [h, Except.ok.injEq] at hr
        subst hr
        exact ⟨hs, fun hok => by simp at hok⟩
      | ok d =>
        obtain ⟨htip, rfl⟩ := hgit.delete_ok h
        exact ⟨hs, fun _ => ⟨_, List.mem_append_right _ List.mem_cons_self, Finmap.notMem_erase_self⟩⟩
    · intros
      trivial
  intro deleted
  cases deleted with
  | ok _ => exact Program.triple_pure fun s h => ⟨h.1.1, h.2 rfl⟩
  | error message =>
    apply Program.triple_pre _ fun s (h : Deleted (.error message) s) => h.1
    apply Program.triple_atomic hfirm.1
    · intro s hs
      by_cases hmem : headRef w.branch ∈ s.disk.refs
      · rw [if_pos hmem]
        exact .unchanged
      · rw [if_neg hmem]
        obtain ⟨row, hrow, hsame⟩ := hs.row
        have hbranch : w.branch = row.branch := by rw [hsame]
        rw [hbranch] at hmem
        exact .foundNoBranch hrow (hsame.recorded (.inl (by rw [hs.2.2]; rfl))) hmem
    · intro s a hs ha
      by_cases hmem : headRef w.branch ∈ s.disk.refs
      · simp [hmem] at ha
      rw [if_neg hmem]
      exact ⟨hs.1, s.disk, List.mem_append_right _ List.mem_cons_self, hmem⟩
    · intros
      trivial

/-! ## The attempt -/

variable {verified : Option VerifiedWorktreeCleanup}

variable {expected : Option Oid}

theorem expectedOid_ok (h : expectedOid w verified = .ok expected) :
    (∀ oid, w.cleanupExpectedBranchOid = some oid → expected = some oid) ∧
      (w.cleanupExpectedBranchOid = none → expected = verified.bind (·.managedBranchOid)) := by
  rw [expectedOid] at h
  cases hsaved : w.cleanupExpectedBranchOid with
  | some oid =>
    simp only [hsaved] at h
    refine ⟨fun oid' hoid => ?_, fun hnone => by simp at hnone⟩
    rw [← hoid]
    repeat' split at h
    all_goals first
      | exact (Except.ok.inj h).symm
      | simp at h
  | none =>
    simp only [hsaved] at h
    refine ⟨fun oid' hoid => by simp at hoid, fun _ => ?_⟩
    cases hfound : verified.bind (·.managedBranchOid) with
    | some observed =>
      simp only [hfound] at h
      exact (Except.ok.inj h).symm
    | none =>
      simp only [hfound] at h
      split at h
      · simp at h
      · exact (Except.ok.inj h).symm

def Pending (w : MissionWorkspace) (s : Lifecycle) : Prop :=
  Custody w s ∧ w.cleanupFinished = false

theorem firm_pending (w : MissionWorkspace) : Firm (Pending w) :=
  (firm_custody w).and (firm_const _)

def PartFact (git : CleanupGit) (w : MissionWorkspace) (verified : Option VerifiedWorktreeCleanup) (s : Lifecycle) : Prop :=
  match verified with
  | none => w.cleanupWorktreeRemoved = true
  | some v => w.cleanupWorktreeRemoved = false ∧ VerifiedFact git w v s

theorem firm_partFact (verified : Option VerifiedWorktreeCleanup) : Firm (PartFact git w verified) := by
  cases verified with
  | none => exact firm_const _
  | some v => exact (firm_const _).and (firm_verifiedFact v)

theorem attempt_verifyPart (hP : Firm P) :
    Attempt git P (verifyPart git w) fun verified s => P s ∧ PartFact git w verified s := by
  rw [verifyPart]
  by_cases hremoved : w.cleanupWorktreeRemoved = true
  · rw [if_pos hremoved]
    exact Program.triple_pure fun s h => ⟨h, hremoved⟩
  · rw [if_neg hremoved]
    apply Program.triple_bind (attempt_prepareWorktreeCleanup hP)
    intro v
    exact Program.triple_pure fun s h => ⟨h.1, by simpa using hremoved, h.2⟩

theorem attempt_referencePart
    (hP : Firm P) (hfact : ∀ s, P s → PartFact git w verified s) :
    Attempt git P (referencePart git w verified) fun reference s => P s ∧ reference = headRef w.branch := by
  cases verified with
  | none => exact attempt_cleanupBranchReference hP
  | some v => exact Program.triple_pure fun s h => ⟨h, (hfact s h).2.managedReference⟩

def expecting (w : MissionWorkspace) (expected : Option Oid) : MissionWorkspace :=
  { w with cleanupExpectedBranchOid := expected, cleanupBranchRemoved := w.cleanupBranchRemoved || expected.isNone }

theorem recorded_expecting (expected : Option Oid) : Recorded (expecting w expected) := by
  cases expected with
  | none => exact .inr (Bool.or_true _)
  | some oid => exact .inl rfl

theorem expectation_agrees
    (hfact : PartFact git w verified s) (hexpected : expectedOid w verified = .ok expected) :
    (∀ oid, w.cleanupExpectedBranchOid = some oid → expected = some oid) ∧
      (w.cleanupBranchRemoved = true → expected = w.cleanupExpectedBranchOid) := by
  obtain ⟨hsaved, hfound⟩ := expectedOid_ok hexpected
  refine ⟨hsaved, fun hremoved => ?_⟩
  cases h : w.cleanupExpectedBranchOid with
  | some oid => exact hsaved oid h
  | none =>
    rw [hfound h]
    cases verified with
    | none => rfl
    | some v => exact hfact.2.managedBranchOid hremoved

theorem attempt_recordExpectation
    (hexpected : expectedOid w verified = .ok expected) :
    Attempt git (fun s => Pending w s ∧ PartFact git w verified s) (recordExpectation (expecting w expected)) fun _ s =>
      Custody (expecting w expected) s ∧ PartFact git w verified s := by
  have hrecord : ∀ s, Pending w s → ∃ row, s.workspace = some row ∧ Same w row ∧ s.workspace.any (isPending (expecting w expected)) = true ∧
      (s.update (isPending (expecting w expected)) fun row => { row with
        cleanupExpectedBranchOid := (expecting w expected).cleanupExpectedBranchOid
        cleanupBranchRemoved := (expecting w expected).cleanupBranchRemoved }) = { s with workspace := some { row with
          cleanupExpectedBranchOid := expected, cleanupBranchRemoved := row.cleanupBranchRemoved || expected.isNone } } := by
    intro s hs
    obtain ⟨row, hrow, hsame⟩ := hs.1.row hs.2
    have hid : row.id = w.id := by rw [hsame]
    have hremoved : row.cleanupBranchRemoved = w.cleanupBranchRemoved := by rw [hsame]
    have hstate : row.state = .cleanupPending := hsame.state.trans hs.1.1
    have hpending : isPending (expecting w expected) row = true := by simp [isPending, expecting, hid, hstate]
    refine ⟨row, hrow, hsame, by simp [hrow, hpending], ?_⟩
    rw [Lifecycle.update_row hrow hpending, hremoved]
    rfl
  apply Program.triple_atomic ((firm_pending w).and (firm_partFact verified)).1
  · intro s hs
    obtain ⟨row, hrow, hsame, hany, hupdate⟩ := hrecord s hs.1
    obtain ⟨hsaved, hremoved⟩ := expectation_agrees hs.2 hexpected
    rw [if_pos hany]
    dsimp only
    rw [hupdate]
    have hexpectation : row.cleanupExpectedBranchOid = w.cleanupExpectedBranchOid := by rw [hsame]
    have hflag : row.cleanupBranchRemoved = w.cleanupBranchRemoved := by rw [hsame]
    exact .recorded hrow (hsame.state.trans hs.1.1.1) (fun oid hoid => hsaved oid (hexpectation ▸ hoid)) fun h => (hremoved (hflag ▸ h)).trans hexpectation.symm
  · intro s a hs _
    obtain ⟨row, hrow, hsame, hany, hupdate⟩ := hrecord s hs.1
    rw [if_pos hany]
    dsimp only
    rw [hupdate]
    refine ⟨⟨hs.1.1.1, .inl ⟨_, rfl, ?_⟩⟩, ?_⟩
    · rw [hsame]
      rfl
    · cases verified with
      | none => exact hs.2
      | some v => exact ⟨hs.2.1, ⟨hs.2.2.1, hs.2.2.2, hs.2.2.3, hs.2.2.4⟩⟩
  · intros
    trivial

theorem attempt_removeWorktreePart (hgit : git.Careful) :
    Attempt git (fun s => Custody (expecting w expected) s ∧ PartFact git w verified s)
      (removeWorktreePart git (expecting w expected) verified) fun _ s => Custody (flagged (expecting w expected)) s := by
  cases verified with
  | none =>
    apply Program.triple_pure
    rintro s ⟨hs, hremoved⟩
    have hflagged : flagged (expecting w expected) = expecting w expected := by
      rw [flagged, expecting]
      congr 1
      exact hremoved.symm
    rw [hflagged]
    exact hs
  | some v =>
    rw [removeWorktreePart, removeVerifiedWorktree]
    apply Program.triple_bind _ fun _ => attempt_flagWorktreeRemoved
    apply Program.triple_bind _ fun _ => attempt_removeStagingVerified hgit v
    apply Program.triple_pre (attempt_removePlace hgit)
    rintro s ⟨hs, hremoved, hfact⟩
    exact ⟨⟨hs, hremoved, recorded_expecting expected⟩, hfact.head, hfact.absent⟩

def Branchless (w : MissionWorkspace) (s : Lifecycle) : Prop :=
  Custody w s ∧ (w.cleanupBranchRemoved = true ∨ BranchGone w s)

theorem firm_branchless (w : MissionWorkspace) : Firm (Branchless w) := by
  refine (firm_custody w).and ⟨?_, fun s d h => h⟩
  intro s s' hstep h
  exact h.imp_right ((firm_branchGone w).1 s s' hstep)

theorem attempt_removeBranchPart (hgit : git.Careful) : Attempt git (Custody (flagged w)) (removeBranchPart git w (headRef w.branch))
    fun _ s => Branchless (flagged w) s := by
  rw [removeBranchPart]
  by_cases hremoved : w.cleanupBranchRemoved = true
  · rw [if_pos hremoved]
    exact Program.triple_pure fun s h => ⟨h, .inl hremoved⟩
  · rw [if_neg hremoved]
    cases hexpected : w.cleanupExpectedBranchOid with
    | none => exact attempt_fail _
    | some oid =>
      apply Program.triple_weaken (attempt_deleteBranchExpected (w := flagged w) hgit oid)
      · exact fun s h => ⟨h, Bool.eq_false_iff.2 hremoved, hexpected⟩
      · exact fun _ s h => ⟨h.1, .inr h.2⟩
      · exact fun _ _ h => h

theorem attempt_finishCleanup : Attempt git (Branchless (flagged w)) (finishCleanup w) fun _ _ => True := by
  apply Program.triple_atomic (firm_branchless (flagged w)).1
  · intro s hs
    rcases hs.1.2 with ⟨row, hrow, hsame⟩ | ⟨-, hnone⟩
    · have hid : row.id = w.id := by rw [hsame]; rfl
      dsimp only
      rw [Lifecycle.update_row hrow (by simp [hid])]
      have hbranch : row.branch = (flagged w).branch := by rw [hsame]
      apply CleaningStep.finished hrow (hsame.state.trans hs.1.1) (by rw [hsame]; rfl)
      rw [hbranch]
      exact hs.2.imp_left fun h => by rw [hsame]; exact h
    · dsimp only
      rw [Lifecycle.update_skip (by simp [hnone])]
      exact .unchanged
  · intros
    trivial
  · intros
    trivial

theorem attempt_performMissionWorkspaceCleanup (hgit : git.Careful) :
    Attempt git (Pending w) (performMissionWorkspaceCleanup git w) fun _ _ => True := by
  have hhost : Attempt git (Pending w) (Program.atomic fun s : Lifecycle =>
      (expect (w.executionHostId = s.missionExecutionHost) "mission.execution_host_unavailable", s)) fun _ s => Pending w s :=
    Program.triple_atomic (firm_pending w).1 (fun _ _ => .unchanged) (fun _ _ h _ => h) fun _ _ _ _ => trivial
  rw [performMissionWorkspaceCleanup]
  apply Program.triple_bind hhost
  intro _
  apply Program.triple_bind (attempt_settle _)
  intro _
  apply Program.triple_pre _ fun s (h : _ ∧ _) => h.1
  apply Program.triple_bind (attempt_verifyPart (firm_pending w))
  intro verified
  apply Program.triple_bind (attempt_referencePart ((firm_pending w).and (firm_partFact verified)) fun s h => h.2)
  intro reference
  apply Program.triple_bind (attempt_settle _)
  rintro expected s ⟨⟨hs, rfl⟩, hexpected⟩
  have hrest : Attempt git (fun s => Pending w s ∧ PartFact git w verified s) (do
      recordExpectation (expecting w expected)
      removeWorktreePart git (expecting w expected) verified
      removeBranchPart git (expecting w expected) (headRef w.branch)
      finishCleanup (expecting w expected)) fun _ _ => True := by
    apply Program.triple_bind (attempt_recordExpectation hexpected)
    intro _
    apply Program.triple_bind (attempt_removeWorktreePart hgit)
    intro _
    apply Program.triple_bind (attempt_removeBranchPart hgit)
    intro _
    exact attempt_finishCleanup
  exact hrest s hs

theorem dropsRow_gone {camp : Camp} {row : MissionWorkspace} (h : dropsRow camp row = true) :
    ∃ operationId completed, camp = .gone operationId completed := by
  cases camp with
  | active => simp [dropsRow] at h
  | deleting => simp [dropsRow] at h
  | gone operationId completed => exact ⟨operationId, completed, rfl⟩

theorem publishSuccess_step (s : Lifecycle) : CleaningStep git s (publishSuccess w s) := by
  rw [publishSuccess]
  split
  · exact .unchanged
  split
  · rename_i hdrops
    obtain ⟨operationId, completed, hcamp⟩ := dropsRow_gone hdrops.2
    exact .dropped hcamp
  · exact .unchanged

theorem attempt_publishResult (result : Except CleanupFailure Unit) : Attempt git (fun _ => True) (publishResult w result) fun _ _ => True := by
  apply Program.triple_atomic (Program.Stable.const True)
  · intro s _
    cases result with
    | error failure => exact .failed w failure
    | ok _ => exact publishSuccess_step s
  · intros
    trivial
  · intros
    trivial

/-- **An attempt takes its steps**, whatever the others do. -/
theorem attempt_cleanupMissionWorkspaces (hgit : git.Careful) :
    Attempt git (fun _ => True) (cleanupMissionWorkspaces git) fun _ _ => True := by
  have hload : Attempt git (fun _ => True) (Program.atomic fun s : Lifecycle => (.ok (pendingWorkspace s), { s with seen := [] }))
      fun pending s => ∀ w, pending = some w → Pending w s := by
    apply Program.triple_atomic (Program.Stable.const True) (fun _ _ => .began)
    · intro s pending _ hpending w hw
      obtain rfl := Except.ok.inj hpending
      obtain ⟨hrow, hw⟩ := Option.filter_eq_some_iff.1 hw
      simp only [Bool.and_eq_true, decide_eq_true_iff, Bool.not_eq_true'] at hw
      exact ⟨⟨hw.1.1, .inl ⟨w, hrow, .refl w⟩⟩, hw.1.2⟩
    · intros
      trivial
  rw [cleanupMissionWorkspaces]
  apply Program.triple_bind hload
  intro pending
  cases pending with
  | none => exact Program.triple_pure fun _ _ => trivial
  | some w =>
    apply Program.triple_pre _ fun s (h : ∀ w', some w = some w' → Pending w' s) => h w rfl
    apply Program.triple_bind (Program.triple_attempt (attempt_performMissionWorkspaceCleanup hgit))
    intro result
    exact Program.triple_pre (attempt_publishResult result) fun _ _ => trivial

end Parts

end Rovai.Mission
