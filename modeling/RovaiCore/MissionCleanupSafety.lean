import RovaiCore.MissionCleanupRuns
/-!
# Safety of the cleanup

What a step of an attempt does to a reference and to a worktree, and what a run keeps of it.
-/
namespace Rovai.Mission

section Steps

variable {git : CleanupGit} {s s' : Lifecycle}

theorem publishFailure_disk (w : MissionWorkspace) (failure : CleanupFailure) (s : Lifecycle) :
    (publishFailure w failure s).disk = s.disk := by
  rcases publishFailure_cases w failure s with h | ⟨row, -, -, ⟨-, h⟩ | h⟩ <;> rw [h]
  rfl

/-- **The fence**: a reference that an attempt changes is the managed branch, at the OID that was recorded before anything else was
written. -/
theorem CleaningStep.fenced (h : CleaningStep git s s') (hs : Sound s) {reference : String} {tip : Oid}
    (htip : s.disk.refs.lookup reference = some tip) (hchanged : s'.disk.refs.lookup reference ≠ some tip) :
    ∃ w, s.workspace = some w ∧ reference = headRef w.branch ∧ w.cleanupExpectedBranchOid = some tip ∧
      s.journal.head? = some (.recorded (some tip)) := by
  cases h with
  | @deletedBranch row tip' hrow hexpected htip' =>
    by_cases hreference : reference = headRef row.branch
    · rw [hreference, htip', Option.some.injEq] at htip
      subst htip
      refine ⟨row, hrow, hreference, hexpected, ?_⟩
      rw [(hs row hrow).recorded (.inl (by rw [hexpected]; rfl)), hexpected]
    · exact absurd ((Finmap.lookup_erase_ne hreference).trans htip) hchanged
  | tidied hrefs => exact absurd (hrefs ▸ htip) hchanged
  | failed =>
    rw [publishFailure_disk] at hchanged
    exact absurd htip hchanged
  | _ => exact absurd htip hchanged

/-- A worktree that an attempt takes away is the one at its place, unmodified and with a head that was verified, or the staging
checkout. -/
theorem CleaningStep.spared (h : CleaningStep git s s') {path commonDir adminDir : Path} {modified : Bool}
    (hentry : s.disk.entries.lookup path = some (.checkout commonDir adminDir modified))
    (hchanged : s'.disk.entries.lookup path ≠ some (.checkout commonDir adminDir modified)) :
    ∃ w, s.workspace = some w ∧
      (path = stagingCheckout w ∨ (path = w.worktreePath ∧ modified = false ∧ HeadRetained git w s.seen)) := by
  cases h with
  | @removedTarget row _ _ hrow _ hclean hhead =>
    by_cases hpath : path = row.worktreePath
    · rw [hpath, hclean, Option.some.injEq, Entry.checkout.injEq] at hentry
      exact ⟨row, hrow, .inr ⟨hpath, hentry.2.2.symm, hhead⟩⟩
    · exact absurd ((Finmap.lookup_erase_ne hpath).trans hentry) hchanged
  | @removedStaging row _ _ _ hrow _ =>
    by_cases hpath : path = stagingCheckout row
    · exact ⟨row, hrow, .inl hpath⟩
    · exact absurd ((Finmap.lookup_erase_ne hpath).trans hentry) hchanged
  | tidied _ hentries => exact absurd ((hentries _ _ _ _ hentry).trans hentry) hchanged
  | failed =>
    rw [publishFailure_disk] at hchanged
    exact absurd hentry hchanged
  | _ => exact absurd hentry hchanged

end Steps

theorem Safe.cleaningStep {git : CleanupGit} {s : MissionSystem} (hs : Safe git s) {p : Cleanup Unit}
    (hholder : s.holder = some (.cleaning p)) : CleaningStep git s.lifecycle s.advance.lifecycle := by
  cases p with
  | done r =>
    simp only [MissionSystem.advance, hholder]
    exact .unchanged
  | step change next =>
    simp only [MissionSystem.advance, hholder]
    exact ((hs.cleaning _ hholder).next).1

/-! ## Runs of a repository with two commits -/

namespace Sample

def root : Path := ["srv", "repo"]
def commonDir : Path := ["srv", "repo", ".git"]
def adminDir : Path := commonDir ++ ["worktrees", "checkout"]
def place : Path := ["srv", "repo-mission-001"]
def branch : String := "rovai/mission/001"

def base : Oid := "aaaaaaaaaaaaaaaaaaaaaaaaaaaaaaaaaaaaaaaa"

def work : Oid := "bbbbbbbbbbbbbbbbbbbbbbbbbbbbbbbbbbbbbbbb"

def git : CleanupGit where
  toMissionGit := documentedGit commonDir
  checkRefFormat _ := true
  contains tip oid := tip = oid || (tip = work && oid = base)
  updateRefDelete d reference expectedOid :=
    if d.refs.lookup reference = some expectedOid then .ok { d with refs := d.refs.erase reference }
    else .error "error: cannot lock ref"
  readDir d := [adminDir].filter (· ∈ d.registrations)

theorem git_careful : git.Careful where
  remove_ok := fun {d d' force path} h => by
    simp only [git, documentedGit] at h
    cases hentry : d.entries.lookup path with
    | none => simp [hentry] at h
    | some entry =>
      cases entry with
      | checkout common admin modified =>
        simp only [hentry] at h
        split at h
        · simp at h
        rename_i hclean
        refine ⟨common, admin, modified, rfl, ?_, (Except.ok.inj h).symm⟩
        cases force <;> simp_all
      | directory => simp [hentry] at h
      | file _ => simp [hentry] at h
      | symlink _ => simp [hentry] at h
  delete_ok := fun {d d' reference oid} h => by
    simp only [git] at h
    split at h
    · rename_i htip
      exact ⟨htip, (Except.ok.inj h).symm⟩
    · simp at h

def disk : Disk where
  entries := Finmap.singleton root (.checkout commonDir commonDir false)
  refs := Finmap.singleton "refs/heads/main" base
  registrations := ∅

def token : String := "5d0c0a2e"

def withWorktree (head : Head) : Disk where
  entries := disk.entries.insert place (.checkout commonDir adminDir false)
  refs := disk.refs.insert (headRef branch) base
  registrations := disk.registrations.insert adminDir ⟨place ++ [".git"], some token, head⟩

def input : PreparationInput where
  workspaceId := "workspace"
  campId := "camp"
  candidates := ⟨"repo", "001"⟩
  preparationToken := token
  repository := some ⟨root, commonDir, base, []⟩
  materialized := [.ok ()]

def cleaning : List SystemAction :=
  [.prepare input] ++ List.replicate 4 .advance ++ [.outside (.diskChanged (withWorktree (.branch branch)))] ++
    List.replicate 2 .advance ++ [.command (.cleanupCommand "cleanup" false), .cleanup]

def detaching : List SystemAction :=
  cleaning ++ List.replicate 11 .advance ++ [.outside (.diskChanged (withWorktree (.detached work)))]

def withStaging : Disk where
  entries := ((disk.entries.insert (stagingRootFor root token) .directory).insert (stagingRootFor root token ++ ["owner"]) (.file token)).insert
    (stagingRootFor root token ++ ["checkout"]) (.checkout commonDir adminDir true)
  refs := disk.refs.insert (headRef branch) base
  registrations := disk.registrations.insert adminDir ⟨stagingRootFor root token ++ ["checkout", ".git"], none, .branch branch⟩

def staging : List SystemAction :=
  [.prepare input] ++ List.replicate 4 .advance ++ [.outside (.diskChanged withStaging), .restart,
    .outside (.acceptDeletion "deletion" .cleanup), .command .commitDeletion, .cleanup] ++ List.replicate 12 .advance

end Sample

def MissionSystem.isCleaning (s : MissionSystem) : Bool :=
  match s.holder with
  | some (.cleaning _) => true
  | _ => false

theorem holder_of_isCleaning {s : MissionSystem} (h : s.isCleaning = true) : ∃ p, s.holder = some (.cleaning p) := by
  rw [MissionSystem.isCleaning] at h
  split at h
  · rename_i p hholder
    exact ⟨p, hholder⟩
  · exact absurd h (by decide)

/-- The next step of an attempt takes away no worktree that is modified, or whose head is detached at a commit that no reference but the
managed branch contains. -/
def SparesWork (git : CleanupGit) (s : MissionSystem) : Prop :=
  ∀ p path commonDir adminDir modified, s.holder = some (.cleaning p) →
    s.lifecycle.disk.entries.lookup path = some (.checkout commonDir adminDir modified) →
    s.advance.lifecycle.disk.entries.lookup path ≠ some (.checkout commonDir adminDir modified) →
    modified = false ∧ (checkoutReference s.lifecycle.disk adminDir ≠ none ∨
      ∃ head w, headOid s.lifecycle.disk adminDir = some head ∧ s.lifecycle.workspace = some w ∧
        detachedHeadHasRetainedReference git (headRef w.branch) head s.lifecycle.disk = true)

/-- A head that is detached behind the verification goes with its worktree, and so does a file in a staging checkout. -/
theorem cleanup_takes_work : ¬ SparesWork Sample.git ((MissionSystem.start "host" Sample.disk).run Sample.git Sample.detaching) ∧
    ¬ SparesWork Sample.git ((MissionSystem.start "host" Sample.disk).run Sample.git Sample.staging) := by
  constructor
  · intro h
    obtain ⟨p, hholder⟩ := holder_of_isCleaning (s := (MissionSystem.start "host" Sample.disk).run Sample.git Sample.detaching)
      (by decide)
    obtain ⟨-, hhead⟩ := h p Sample.place Sample.commonDir Sample.adminDir false hholder (by decide) (by decide)
    rcases hhead with hbranch | ⟨head, w, hhead, hrow, hretained⟩
    · exact hbranch (by decide)
    have hdetached : headOid ((MissionSystem.start "host" Sample.disk).run Sample.git Sample.detaching).lifecycle.disk Sample.adminDir =
        some Sample.work := by decide
    have hlost : ((MissionSystem.start "host" Sample.disk).run Sample.git Sample.detaching).lifecycle.workspace.all (fun w =>
        !detachedHeadHasRetainedReference Sample.git (headRef w.branch) Sample.work
          ((MissionSystem.start "host" Sample.disk).run Sample.git Sample.detaching).lifecycle.disk) = true := by decide
    rw [hdetached, Option.some.injEq] at hhead
    subst hhead
    rw [hrow, Option.all_some, hretained] at hlost
    exact absurd hlost (by decide)
  · intro h
    obtain ⟨p, hholder⟩ := holder_of_isCleaning (s := (MissionSystem.start "host" Sample.disk).run Sample.git Sample.staging)
      (by decide)
    obtain ⟨hclean, -⟩ := h p (stagingRootFor Sample.root Sample.token ++ ["checkout"]) Sample.commonDir Sample.adminDir true hholder
      (by decide) (by decide)
    exact absurd hclean (by decide)

/-- **Cleanups are safe under retries and crashes.**  In every state of every run: an attempt changes no reference but the managed branch,
and this at the OID that was recorded before anything was removed; it takes away no worktree but the one at its place, when that is
unmodified and its head was verified, and the staging checkout; a finished cleanup has found the worktree absent, and the branch absent
or recorded as absent; and the generations of the ready periods grow, so that a snapshot is current in its own period only. -/
theorem cleanup_is_safe (git : CleanupGit) (hgit : git.Careful) (host : String) (d : Disk) (actions : List SystemAction) :
    let s := (MissionSystem.start host d).run git actions
    (∀ p reference tip, s.holder = some (.cleaning p) → s.lifecycle.disk.refs.lookup reference = some tip →
      s.advance.lifecycle.disk.refs.lookup reference ≠ some tip →
      ∃ w, s.lifecycle.workspace = some w ∧ reference = headRef w.branch ∧ w.cleanupExpectedBranchOid = some tip ∧
        s.lifecycle.journal.head? = some (.recorded (some tip))) ∧
    (∀ p path commonDir adminDir modified, s.holder = some (.cleaning p) →
      s.lifecycle.disk.entries.lookup path = some (.checkout commonDir adminDir modified) →
      s.advance.lifecycle.disk.entries.lookup path ≠ some (.checkout commonDir adminDir modified) →
      ∃ w, s.lifecycle.workspace = some w ∧
        (path = stagingCheckout w ∨ (path = w.worktreePath ∧ modified = false ∧ HeadRetained git w s.lifecycle.seen))) ∧
    (∀ w, s.lifecycle.workspace = some w → w.cleanupFinished = true →
      (∃ seen, .flagged seen ∈ s.lifecycle.journal ∧ ∃ d ∈ seen, d.pathOccupied w.worktreePath = false) ∧
      (s.lifecycle.journal.head? = some (.recorded none) ∨
        ∃ d, .branchGone d ∈ s.lifecycle.journal ∧ headRef w.branch ∉ d.refs)) ∧
    (∀ w, s.lifecycle.workspace = some w → ∀ more w', (s.run git more).lifecycle.workspace = some w' →
      w.generation ≤ w'.generation) ∧
    (s.lifecycle.periods.Pairwise (· > ·) ∧
      ∀ w, s.lifecycle.workspace = some w → w.state = .ready → s.lifecycle.periods.head? = some w.generation) ∧
    (∀ w snapshot, s.lifecycle.workspace = some w → w.state = .ready → snapshot ∈ s.lifecycle.missionDiffSnapshots →
      snapshot.matchesWorkspace w = true → snapshot.periods = s.lifecycle.periods) := by
  have hs : Safe git ((MissionSystem.start host d).run git actions) := (Safe.start host d).run hgit actions
  generalize (MissionSystem.start host d).run git actions = s at hs
  refine ⟨?_, ?_, ?_, ?_, ⟨hs.timed.decreasing, ?_⟩, ?_⟩
  · intro p reference tip hholder htip hchanged
    exact (hs.cleaningStep hholder).fenced hs.sound htip hchanged
  · intro p path commonDir adminDir modified hholder hentry hchanged
    exact (hs.cleaningStep hholder).spared hentry hchanged
  · intro w hrow hfinished
    have hsound := hs.sound w hrow
    rw [MissionWorkspace.cleanupFinished, Bool.and_eq_true] at hfinished
    refine ⟨hsound.worktree hfinished.1, ?_⟩
    refine (hsound.branch hfinished.2).imp_left fun hnone => ?_
    rw [hsound.recorded (.inr hfinished.2), hnone]
  · intro w hrow more w' hrow'
    have hreached : Reached w.generation s.lifecycle := by
      rw [Reached, hrow]
    have h := reached_run hgit hs hreached more
    rw [Reached, hrow'] at h
    exact h
  · intro w hrow hready
    exact (hs.timed.ready w hrow hready).2
  · intro w snapshot hrow hready hmem hmatch
    exact hs.timed.snapshot_current hrow hready hmem hmatch

/-- The cleanup of the sample, to its end. -/
theorem cleanup_is_safe_sample : ∃ w,
    ((MissionSystem.start "host" Sample.disk).run Sample.git (Sample.cleaning ++ List.replicate 20 .advance)).lifecycle.workspace = some w ∧
    w.cleanupFinished = true ∧ w.generation = 2 ∧
    ∃ seen, .flagged seen ∈ ((MissionSystem.start "host" Sample.disk).run Sample.git
        (Sample.cleaning ++ List.replicate 20 .advance)).lifecycle.journal ∧
      ∃ d ∈ seen, d.pathOccupied w.worktreePath = false := by
  have hrow : ((MissionSystem.start "host" Sample.disk).run Sample.git
      (Sample.cleaning ++ List.replicate 20 .advance)).lifecycle.workspace.any (fun w => w.cleanupFinished && w.generation = 2) = true := by
    decide
  have hsafe := (cleanup_is_safe Sample.git Sample.git_careful "host" Sample.disk (Sample.cleaning ++ List.replicate 20 .advance)).2.2.1
  generalize (MissionSystem.start "host" Sample.disk).run Sample.git (Sample.cleaning ++ List.replicate 20 .advance) = s at hrow hsafe ⊢
  obtain ⟨w, hw, hfinished⟩ := (Option.any_eq_true _ _).1 hrow
  rw [Bool.and_eq_true, decide_eq_true_iff] at hfinished
  exact ⟨w, hw, hfinished.1, hfinished.2, (hsafe w hw hfinished.1).1⟩

end Rovai.Mission
