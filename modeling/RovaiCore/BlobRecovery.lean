import RovaiCore.BlobStore
import RovaiCore.Runs
/-!
# What the recovery of the blob store restores

The recovery decides from what is there and never reads content.
-/
namespace Rovai.Blobs

open Tables (Table)
open List
open Procedure (Leaves)

/-! ## Copies -/

variable (env : Environment) (s : BlobStore)

def Intact : Prop :=
  ∀ digest bytes, s.files.lookup (.content digest) = some bytes → env.sha256 bytes = digest

def BlobStore.HasRow (digest : String) : Prop :=
  (s.blobs.find? digest).isSome = true

inductive Restorable (env : Environment) (s : BlobStore) (digest : String) : Path → Prop
  | quarantined (id : Option String) (hvalid : validDigest digest = true) : Restorable env s digest (.tmp (.quarantine digest id))
  | staged (id : String) (journal : Bytes) (intent : CandidateWriteIntent)
      (hjournal : s.files.lookup (.tmp (.candidateIntent id)) = some journal) (hread : readIntent env journal = .ok intent)
      (hdigest : intent.digest = digest) : Restorable env s digest (.tmp (.candidateData id))

def HasCopy (digest : String) : Prop :=
  ∃ path bytes, (path = .content digest ∨ Restorable env s digest path) ∧ s.files.lookup path = some bytes ∧
    env.sha256 bytes = digest

def Staged : Prop :=
  ∀ digest path bytes, s.HasRow digest → s.files.lookup (.content digest) = none → Restorable env s digest path →
    s.files.lookup path = some bytes → env.sha256 bytes = digest

variable {env : Environment} {s s' t : BlobStore}

/-! ## What a step on the files changes -/

namespace Files

variable {files files' : Files} {source target path : Path} {bytes : Bytes}

theorem createNew_ok (h : createNew path files = .ok files') : files.lookup path = none ∧ files' = files.insert path [] := by
  unfold createNew at h
  split at h
  · cases h
  rename_i hnone
  cases h
  exact ⟨by simpa using hnone, rfl⟩

theorem rename_ok (h : rename source target files = .ok files') :
    ∃ bytes, files.lookup source = some bytes ∧ files' = (files.erase source).insert target bytes := by
  unfold rename at h
  split at h
  · cases h
  rename_i bytes hbytes
  cases h
  exact ⟨bytes, hbytes, rfl⟩

theorem removeFile_ok (h : removeFile path files = .ok files') : files' = files.erase path := by
  unfold removeFile at h
  split at h
  · cases h
    rfl
  · cases h

theorem lookup_renamed (p : Path) :
    ((files.erase source).insert target bytes).lookup p =
      if p = target then some bytes else if p = source then none else files.lookup p := by
  by_cases ht : p = target
  · rw [if_pos ht, ht, Finmap.lookup_insert]
  rw [if_neg ht, Finmap.lookup_insert_of_ne _ ht]
  by_cases hs : p = source
  · rw [if_pos hs, hs, Finmap.lookup_erase]
  · rw [if_neg hs, Finmap.lookup_erase_ne hs]

end Files

variable {I P : BlobStore → Prop} {Q : Unit → BlobStore → Prop}

theorem onFiles_leaves {f : Files → Except String Files}
    (h : ∀ s files, P s → f s.files = .ok files → I { s with files := files } ∧ Q () { s with files := files }) :
    Leaves I P (onFiles f) Q := by
  refine .act fun s s' hs hf => ?_
  cases hfiles : f s.files with
  | error e =>
    rw [hfiles] at hf
    cases hf
  | ok files =>
    rw [hfiles] at hf
    cases hf
    exact h s files hs hfiles

/-! ## A candidate write that is cut off -/

inductive Own (id : String) : Path → Prop
  | intentWrite : Own id (.tmp (.candidateIntentWrite id))
  | intent : Own id (.tmp (.candidateIntent id))
  | data : Own id (.tmp (.candidateData id))

variable {path : Path}

theorem Own.ne_content {id digest : String} (h : Own id path) : path ≠ .content digest := by
  cases h <;> exact nofun

structure Written (env : Environment) (s : BlobStore) (w : CandidateWrite) (t : BlobStore) : Prop where
  others : ∀ path, ¬ Own w.intentId path → path ≠ .content (env.sha256 w.bytes) → t.files.lookup path = s.files.lookup path
  content : t.files.lookup (.content (env.sha256 w.bytes)) = s.files.lookup (.content (env.sha256 w.bytes)) ∨
    s.files.lookup (.content (env.sha256 w.bytes)) = none ∧ t.files.lookup (.content (env.sha256 w.bytes)) = some w.bytes

namespace Written

variable {w : CandidateWrite} {path : Path} {bytes : Bytes}

theorem refl : Written env s w s := ⟨fun _ _ _ => rfl, .inl rfl⟩

theorem of_files (h : Written env s w t) {t' : BlobStore} (hfiles : t'.files = t.files) : Written env s w t' := by
  obtain ⟨hothers, hcontent⟩ := h
  rw [← hfiles] at hcontent
  exact ⟨fun path hown hne => (congrArg (Finmap.lookup _) hfiles).trans (hothers path hown hne), hcontent⟩

theorem insert_own (h : Written env s w t) (hown : Own w.intentId path) (bytes : Bytes) :
    Written env s w { t with files := t.files.insert path bytes } where
  others path hnot hne := by
    rw [← h.others path hnot hne]
    exact Finmap.lookup_insert_of_ne _ fun heq => hnot (heq ▸ hown)
  content := by
    rw [show (t.files.insert path bytes).lookup (.content (env.sha256 w.bytes)) = _ from
      Finmap.lookup_insert_of_ne _ hown.ne_content.symm]
    exact h.content

theorem erase_own (h : Written env s w t) (hown : Own w.intentId path) :
    Written env s w { t with files := t.files.erase path } where
  others path hnot hne := by
    rw [← h.others path hnot hne]
    exact Finmap.lookup_erase_ne fun heq => hnot (heq ▸ hown)
  content := by
    rw [show (t.files.erase path).lookup (.content (env.sha256 w.bytes)) = _ from
      Finmap.lookup_erase_ne hown.ne_content.symm]
    exact h.content

theorem place (h : Written env s w t) (hown : Own w.intentId path)
    (hfree : t.files.lookup (.content (env.sha256 w.bytes)) = none) :
    Written env s w { t with files := (t.files.erase path).insert (.content (env.sha256 w.bytes)) w.bytes } where
  others path hnot hne := by
    rw [← (h.erase_own hown).others path hnot hne]
    exact Finmap.lookup_insert_of_ne _ hne
  content := by
    refine .inr ⟨?_, Finmap.lookup_insert _⟩
    rcases h.content with heq | ⟨hnone, -⟩
    · rw [← heq]
      exact hfree
    · exact hnone

end Written

section
variable (env) (s) (w : CandidateWrite)

theorem writeNew_leaves {path : Path} (hown : Own w.intentId path) (bytes : Bytes) (torn : Nat) :
    Leaves (Written env s w) (Written env s w) (writeNew path bytes torn)
      fun _ t => Written env s w t ∧ t.files.lookup path = some bytes := by
  refine .bind (Q := fun _ => Written env s w) (onFiles_leaves fun t files ht hcreate => ?_) fun _ => ?_
  · obtain ⟨-, rfl⟩ := Files.createNew_ok hcreate
    exact ⟨ht.insert_own hown _, ht.insert_own hown _⟩
  refine .bind (Q := fun _ => Written env s w) (onFiles_leaves fun t files ht hwrite => ?_) fun _ => ?_
  · cases hwrite
    exact ⟨ht.insert_own hown _, ht.insert_own hown _⟩
  refine onFiles_leaves fun t files ht hwrite => ?_
  cases hwrite
  exact ⟨ht.insert_own hown _, ht.insert_own hown _, Finmap.lookup_insert _⟩

theorem placeContent_leaves : Leaves (Written env s w)
    (fun t => Written env s w t ∧ t.files.lookup (.tmp (.candidateData w.intentId)) = some w.bytes)
    (placeContent env (env.sha256 w.bytes) w) fun _ => Written env s w := by
  refine .ask_bind fun existing => ?_
  cases existing with
  | some content =>
    dsimp only
    split
    · refine onFiles_leaves fun t files ht hremove => ?_
      rw [Files.removeFile_ok hremove]
      exact ⟨ht.1.1.erase_own .data, ht.1.1.erase_own .data⟩
    · exact .fail
  | none =>
    refine onFiles_leaves fun t files ht hrename => ?_
    obtain ⟨⟨hwritten, hdata⟩, hfree⟩ := ht
    obtain ⟨bytes, hbytes, rfl⟩ := Files.rename_ok hrename
    obtain rfl : w.bytes = bytes := Option.mem_unique hdata hbytes
    exact ⟨hwritten.place .data hfree, hwritten.place .data hfree⟩

/-- **A candidate write**, wherever it is cut off. -/
theorem putBytesCandidate_leaves :
    Leaves (Written env s w) (Written env s w) (putBytesCandidate env w) fun _ => Written env s w := by
  unfold putBytesCandidate
  refine .bind (Q := fun _ => Written env s w) (.observe fun _ _ ht _ => ht) fun _ => ?_
  refine .bind ((writeNew_leaves env s w .intentWrite _ _).mono (fun _ ht => ht) fun _ _ ht => ht.1) fun _ => ?_
  refine .bind (Q := fun _ => Written env s w) (onFiles_leaves fun t files ht hrename => ?_) fun _ => ?_
  · obtain ⟨bytes, -, rfl⟩ := Files.rename_ok hrename
    have hrenamed := (ht.erase_own .intentWrite).insert_own .intent bytes
    exact ⟨hrenamed, hrenamed⟩
  refine .bind (writeNew_leaves env s w .data _ _) fun _ => ?_
  refine .bind (placeContent_leaves env s w) fun _ => ?_
  refine .bind (Q := fun _ => Written env s w) (.act fun t t' ht hcommit => ?_) fun _ => ?_
  · have hfiles : t'.files = t.files := by
      unfold commitCandidate at hcommit
      split at hcommit
      · split at hcommit <;> cases hcommit
        rfl
      · cases hcommit
        rfl
    exact ⟨ht.of_files hfiles, ht.of_files hfiles⟩
  refine .bind (Q := fun _ => Written env s w) (.observe fun _ _ ht _ => ht) fun _ => ?_
  refine .bind (Q := fun _ => Written env s w) (onFiles_leaves fun t files ht hremove => ?_) fun _ => .pure fun _ ht => ht
  rw [Files.removeFile_ok hremove]
  exact ⟨ht.erase_own .intent, ht.erase_own .intent⟩

end

/-! ## A collection that is cut off -/

structure Collected (s : BlobStore) (w : Collection) (t : BlobStore) : Prop where
  others : ∀ path, path ≠ .content w.digest → path ≠ .tmp w.quarantine → t.files.lookup path = s.files.lookup path
  moved : t.files.lookup (.content w.digest) = s.files.lookup (.content w.digest) ∧ t.files.lookup (.tmp w.quarantine) = none ∨
    validDigest w.digest = true ∧ t.files.lookup (.content w.digest) = none ∧
      t.files.lookup (.tmp w.quarantine) = s.files.lookup (.content w.digest)

namespace Collected

variable {w : Collection}

theorem refl (hfresh : s.files.lookup (.tmp w.quarantine) = none) : Collected s w s :=
  ⟨fun _ _ _ => rfl, .inl ⟨rfl, hfresh⟩⟩

theorem of_files (h : Collected s w t) {t' : BlobStore} (hfiles : t'.files = t.files) : Collected s w t' := by
  obtain ⟨hothers, hmoved⟩ := h
  rw [← hfiles] at hmoved
  exact ⟨fun path hcontent hquarantine => (congrArg (Finmap.lookup _) hfiles).trans (hothers path hcontent hquarantine), hmoved⟩

theorem take {files : Files} (h : Collected s w t) (hvalid : validDigest w.digest = true)
    (hrename : Files.rename (.content w.digest) (.tmp w.quarantine) t.files = .ok files) :
    Collected s w { t with files := files } ∧ files.lookup (.content w.digest) = none := by
  obtain ⟨bytes, hbytes, rfl⟩ := Files.rename_ok hrename
  have hgone : ((t.files.erase (.content w.digest)).insert (.tmp w.quarantine) bytes).lookup (.content w.digest) = none := by
    rw [Files.lookup_renamed, if_neg nofun, if_pos rfl]
  refine ⟨⟨fun path hcontent hquarantine => ?_, .inr ⟨hvalid, hgone, ?_⟩⟩, hgone⟩
  · rw [← h.others path hcontent hquarantine]
    show Finmap.lookup _ _ = _
    rw [Files.lookup_renamed, if_neg hquarantine, if_neg hcontent]
  · show Finmap.lookup _ _ = _
    rw [Files.lookup_renamed, if_pos rfl]
    rcases h.moved with ⟨heq, -⟩ | ⟨-, hnone, -⟩
    · rw [← heq, hbytes]
    rw [hnone] at hbytes
    cases hbytes

theorem putBack {files : Files} (h : Collected s w t)
    (hrename : Files.rename (.tmp w.quarantine) (.content w.digest) t.files = .ok files) :
    Collected s w { t with files := files } := by
  obtain ⟨bytes, hbytes, rfl⟩ := Files.rename_ok hrename
  refine ⟨fun path hcontent hquarantine => ?_, .inl ⟨?_, ?_⟩⟩
  · rw [← h.others path hcontent hquarantine]
    show Finmap.lookup _ _ = _
    rw [Files.lookup_renamed, if_neg hcontent, if_neg hquarantine]
  · show Finmap.lookup _ _ = _
    rw [Files.lookup_renamed, if_pos rfl]
    rcases h.moved with ⟨-, hnone⟩ | ⟨-, -, heq⟩
    · rw [hnone] at hbytes
      cases hbytes
    · rw [← heq, hbytes]
  · show Finmap.lookup _ _ = _
    rw [Files.lookup_renamed, if_neg nofun, if_pos rfl]

end Collected

section
variable (s) (w : Collection)

theorem deleteRow_leaves (moved : Bool) : Leaves (Collected s w)
    (fun t => Collected s w t ∧ (moved = true → t.files.lookup (.content w.digest) = none)) (deleteRow w moved)
    fun _ => Collected s w := by
  have hback : moved = true → Leaves (Collected s w)
      (fun t => Collected s w t ∧ (moved = true → t.files.lookup (.content w.digest) = none)) w.putBack
      fun _ => Collected s w := by
    intro hmoved
    refine onFiles_leaves fun t files ht hrename => ?_
    have hput := ht.1.putBack hrename
    exact ⟨hput, hput⟩
  refine .ask_bind fun deleted => ?_
  refine Leaves.mono (P := fun t => Collected s w t ∧ (moved = true → t.files.lookup (.content w.digest) = none)) ?_
    (fun _ ht => ht.1) fun _ _ ht => ht
  split
  · split
    · rename_i hmoved
      exact .bind (.attempt ((hback hmoved).mono (fun _ ht => ht) fun _ _ _ => trivial) fun _ ht => ht.1) fun _ => .fail
    · exact .fail
  · split
    · refine .bind (Q := fun _ => Collected s w) (.act fun t t' ht hdelete => ?_) fun _ => .pure fun _ ht => ht
      cases hdelete
      exact ⟨ht.1.of_files rfl, ht.1.of_files rfl⟩
    · split
      · rename_i hmoved
        exact .bind (hback hmoved) fun _ => .pure fun _ ht => ht
      · exact .pure fun _ ht => ht.1

/-- **A collection**, wherever it is cut off. -/
theorem collectGcCandidate_leaves : Leaves (Collected s w) (Collected s w) (collectGcCandidate w) fun _ => Collected s w := by
  refine .ask_bind fun candidateAt => ?_
  split
  · exact .pure fun _ ht => ht.1
  refine .ask_bind fun referenced => ?_
  split
  · refine .bind (Q := fun _ => Collected s w) (.act fun t t' ht hattach => ?_) fun _ => .pure fun _ ht => ht
    cases hattach
    exact ⟨ht.1.1.of_files rfl, ht.1.1.of_files rfl⟩
  split
  · exact .fail
  rename_i hvalid
  have hvalid : validDigest w.digest = true := by simpa using hvalid
  refine .ask_bind fun moved => ?_
  split
  · refine .bind (onFiles_leaves fun t files ht htake => ?_) fun _ => deleteRow_leaves s w moved
    obtain ⟨hcollected, hgone⟩ := ht.1.1.1.take hvalid htake
    exact ⟨hcollected, hcollected, fun _ => hgone⟩
  · rename_i hmoved
    exact (deleteRow_leaves s w moved).mono (fun _ ht => ⟨ht.1.1.1, fun h => absurd h hmoved⟩) fun _ _ ht => ht

end

/-! ## What is left of the copies -/

variable {digest : String}

theorem Restorable.of_lookup (h : Restorable env s digest path)
    (hjournal : ∀ id, path = .tmp (.candidateData id) →
      t.files.lookup (.tmp (.candidateIntent id)) = s.files.lookup (.tmp (.candidateIntent id))) : Restorable env t digest path := by
  cases h with
  | quarantined id hvalid => exact .quarantined id hvalid
  | staged id journal intent hfound hread hdigest => exact .staged id journal intent ((hjournal id rfl).trans hfound) hread hdigest

theorem Restorable.ne_content {digest other : String} (h : Restorable env s digest path) : path ≠ .content other := by
  cases h <;> exact nofun

namespace Written

variable {w : CandidateWrite}

theorem intact (h : Written env s w t) (hintact : Intact env s) : Intact env t := by
  intro digest bytes hbytes
  by_cases hdigest : digest = env.sha256 w.bytes
  · subst hdigest
    rcases h.content with heq | ⟨-, hplaced⟩
    · exact hintact _ bytes (heq ▸ hbytes)
    rw [hplaced] at hbytes
    cases hbytes
    rfl
  · rw [h.others _ (fun hown => hown.ne_content rfl) (by simpa using hdigest)] at hbytes
    exact hintact digest bytes hbytes

theorem copies (h : Written env s w t) (hfresh : s.files.lookup (.tmp (.candidateIntent w.intentId)) = none) {digest : String}
    (hcopy : HasCopy env s digest) : HasCopy env t digest := by
  obtain ⟨path, bytes, hpath, hbytes, hhash⟩ := hcopy
  have hcontent : path = .content (env.sha256 w.bytes) → t.files.lookup path = some bytes := by
    rintro rfl
    rcases h.content with heq | ⟨hnone, -⟩
    · rw [heq, hbytes]
    rw [hnone] at hbytes
    cases hbytes
  have hkept : ¬ Own w.intentId path → t.files.lookup path = some bytes := by
    intro hown
    by_cases hpath : path = .content (env.sha256 w.bytes)
    · exact hcontent hpath
    · rw [h.others path hown hpath, hbytes]
  rcases hpath with rfl | hrestorable
  · exact ⟨_, bytes, .inl rfl, hkept fun hown => hown.ne_content rfl, hhash⟩
  cases hrestorable with
  | quarantined id hvalid => exact ⟨_, bytes, .inr (.quarantined id hvalid), hkept nofun, hhash⟩
  | staged id journal intent hjournal hread hdigest =>
    have hother : id ≠ w.intentId := by
      rintro rfl
      rw [hfresh] at hjournal
      cases hjournal
    refine ⟨_, bytes, .inr (.staged id journal intent ?_ hread hdigest), hkept fun hown => ?_, hhash⟩
    · refine (h.others (.tmp (.candidateIntent id)) (fun hown => ?_) (nofun)).trans hjournal
      cases hown
      exact hother rfl
    · cases hown
      exact hother rfl

end Written

namespace Collected

variable {w : Collection}

theorem intact (h : Collected s w t) (hintact : Intact env s) : Intact env t := by
  intro digest bytes hbytes
  by_cases hdigest : digest = w.digest
  · subst hdigest
    rcases h.moved with ⟨heq, -⟩ | ⟨-, hnone, -⟩
    · exact hintact _ bytes (heq ▸ hbytes)
    rw [hnone] at hbytes
    cases hbytes
  · rw [h.others (.content digest) (by simpa using hdigest) nofun] at hbytes
    exact hintact digest bytes hbytes

theorem copies (h : Collected s w t) (hfresh : s.files.lookup (.tmp w.quarantine) = none) {digest : String}
    (hcopy : HasCopy env s digest) : HasCopy env t digest := by
  obtain ⟨path, bytes, hpath, hbytes, hhash⟩ := hcopy
  by_cases hcontent : path = .content w.digest
  · subst hcontent
    obtain rfl : w.digest = digest := by
      rcases hpath with heq | hrestorable
      · cases heq
        rfl
      · exact absurd rfl hrestorable.ne_content
    rcases h.moved with ⟨heq, -⟩ | ⟨hvalid, -, heq⟩
    · exact ⟨_, bytes, .inl rfl, heq.trans hbytes, hhash⟩
    · exact ⟨.tmp w.quarantine, bytes, .inr (.quarantined _ hvalid), heq.trans hbytes, hhash⟩
  · have hquarantine : path ≠ .tmp w.quarantine := by
      rintro rfl
      rw [hfresh] at hbytes
      cases hbytes
    refine ⟨path, bytes, hpath.imp_right fun hrestorable => hrestorable.of_lookup fun id _ => ?_,
      (h.others path hcontent hquarantine).trans hbytes, hhash⟩
    exact h.others (.tmp (.candidateIntent id)) nofun nofun

end Collected

/-! ## What a visit does -/

def Discarded : Path → Prop
  | .tmp (.discard _) => True
  | _ => False

structure Discards (name : TmpName) (s t : BlobStore) : Prop where
  others : ∀ path, ¬ Discarded path → path ≠ .tmp name → t.files.lookup path = s.files.lookup path
  shrinks : ∀ path bytes, ¬ Discarded path → t.files.lookup path = some bytes → s.files.lookup path = some bytes

variable {name : TmpName}

theorem Discards.of_same (h : ∀ path, ¬ Discarded path → t.files.lookup path = s.files.lookup path) :
    Discards name s t :=
  ⟨fun path hpath _ => h path hpath, fun path _ hpath hbytes => (h path hpath).symm.trans hbytes⟩

theorem Discards.then_same (h : Discards name s s')
    (hsame : ∀ path, ¬ Discarded path → t.files.lookup path = s'.files.lookup path) : Discards name s t :=
  ⟨fun path hpath hne => (hsame path hpath).trans (h.others path hpath hne),
    fun path bytes hpath hbytes => h.shrinks path bytes hpath ((hsame path hpath).symm.trans hbytes)⟩

structure Moved (env : Environment) (s : BlobStore) (digest : String) (path : Path) (bytes : Bytes) (t : BlobStore) : Prop where
  row : s.HasRow digest
  free : s.files.lookup (.content digest) = none
  restorable : Restorable env s digest path
  source : s.files.lookup path = some bytes
  lookup : ∀ other, t.files.lookup other =
    if other = .content digest then some bytes else if other = path then none else s.files.lookup other

inductive Effect (env : Environment) (s : BlobStore) (v : Visit) (t : BlobStore) : Prop
  | kept (h : ∀ path, ¬ Discarded path → t.files.lookup path = s.files.lookup path)
  | restored (digest : String) (path : Path) (bytes : Bytes) (between : BlobStore)
      (hname : path = .tmp v.name ∨ ∃ id, v.name = .candidateIntent id ∧ path = .tmp (.candidateData id))
      (hmoved : Moved env s digest path bytes between) (h : Discards v.name between t)
  | dropped (hname : (∃ digest id, v.name = .quarantine digest id ∧ ¬ s.HasRow digest) ∨
        ∃ id, v.name = .candidateIntent id ∧ s.files.lookup (.tmp (.candidateData id)) = none)
      (h : Discards v.name s t)

variable {v : Visit}

theorem Effect.then_same (h : Effect env s v s')
    (hsame : ∀ path, ¬ Discarded path → t.files.lookup path = s'.files.lookup path) : Effect env s v t := by
  cases h with
  | kept h => exact .kept fun path hpath => (hsame path hpath).trans (h path hpath)
  | restored digest path bytes between hname hmoved h => exact .restored digest path bytes between hname hmoved (h.then_same hsame)
  | dropped hname h => exact .dropped hname (h.then_same hsame)

theorem blobs_quarantineDiscard (name : TmpName) (id : String) (s : BlobStore) : (quarantineDiscard name id s).2.blobs = s.blobs := by
  unfold quarantineDiscard
  split <;> rfl

theorem names_quarantineDiscard (name : TmpName) (id : String) (s : BlobStore) :
    ∀ discarded ∈ (quarantineDiscard name id s).1, ∃ id, discarded = .discard id := by
  unfold quarantineDiscard
  split
  · exact fun discarded h => ⟨id, mem_singleton.1 h⟩
  · exact fun _ h => (not_mem_nil h).elim

theorem discards_quarantineDiscard (name : TmpName) (id : String) (s : BlobStore) : Discards name s (quarantineDiscard name id s).2 := by
  unfold quarantineDiscard
  split
  · rename_i files hrename
    obtain ⟨bytes, -, rfl⟩ := Files.rename_ok hrename
    have hlookup : ∀ path, ¬ Discarded path → ((s.files.erase (.tmp name)).insert (.tmp (.discard id)) bytes).lookup path =
        if path = .tmp name then none else s.files.lookup path := by
      intro path hpath
      have hne : path ≠ .tmp (.discard id) := by
        rintro rfl
        exact hpath trivial
      rw [Files.lookup_renamed, if_neg hne]
    refine ⟨fun path hpath hne => ?_, fun path bytes hpath hbytes => ?_⟩
    · rw [hlookup path hpath, if_neg hne]
    rw [hlookup path hpath] at hbytes
    split at hbytes
    · cases hbytes
    · exact hbytes
  · exact .of_same fun _ _ => rfl

theorem quarantineDiscard_absent (h : s.files.lookup (.tmp name) = none) (id : String) :
    quarantineDiscard name id s = ([], s) := by
  simp [quarantineDiscard, Files.rename, h]

theorem lookup_removeDiscarded : ∀ (names : List TmpName) (s : BlobStore), (∀ name ∈ names, ∃ id, name = .discard id) →
    (names.foldl removeDiscarded s).blobs = s.blobs ∧
      ∀ path, ¬ Discarded path → (names.foldl removeDiscarded s).files.lookup path = s.files.lookup path
  | [], _, _ => ⟨rfl, fun _ _ => rfl⟩
  | name :: names, s, h => by
    obtain ⟨hblobs, hlookup⟩ := lookup_removeDiscarded names (removeDiscarded s name) fun other hother =>
      h other (mem_cons_of_mem name hother)
    refine ⟨hblobs, fun path hpath => (hlookup path hpath).trans (Finmap.lookup_erase_ne fun heq => ?_)⟩
    obtain ⟨id, rfl⟩ := h name mem_cons_self
    exact hpath (heq ▸ trivial)

theorem hasRow_of_blobs (h : t.blobs = s.blobs) (digest : String) : t.HasRow digest ↔ s.HasRow digest := by
  unfold BlobStore.HasRow
  rw [h]

theorem hasRow_update {f : ManagedBlob → ManagedBlob} (hf : ∀ b, (f b).sha256 = b.sha256)
    (h : t.blobs = s.blobs.update digest f hf) (other : String) : t.HasRow other ↔ s.HasRow other := by
  unfold BlobStore.HasRow
  rw [h, Table.find?_update]
  split
  · rw [Option.isSome_map]
  · rfl

theorem fileExists_eq_false : s.fileExists path = false ↔ s.files.lookup path = none := by
  unfold BlobStore.fileExists
  rw [Option.isSome_eq_false_iff, Option.isNone_iff_eq_none]

theorem moved_of_rename {files : Files} (hrow : s.HasRow digest)
    (hfree : s.files.lookup (.content digest) = none) (hpath : Restorable env s digest path)
    (hrename : Files.rename path (.content digest) s.files = .ok files) :
    ∃ bytes, Moved env s digest path bytes { s with files := files } := by
  obtain ⟨bytes, hbytes, rfl⟩ := Files.rename_ok hrename
  exact ⟨bytes, hrow, hfree, hpath, hbytes, fun other => Files.lookup_renamed other⟩

structure Recovered (env : Environment) (s : BlobStore) (v : Visit) (discarded : List TmpName) (t : BlobStore) : Prop where
  rows : ∀ digest, t.HasRow digest ↔ s.HasRow digest
  effect : Effect env s v t
  names : ∀ name ∈ discarded, ∃ id, name = .discard id

theorem Recovered.unchanged : Recovered env s v [] s :=
  ⟨fun _ => .rfl, .kept fun _ _ => rfl, fun _ h => (not_mem_nil h).elim⟩

theorem recoverQuarantine_recovered {id : Option String} {discardId : String}
    {discarded : List TmpName} (hname : v.name = .quarantine digest id) (hvalid : validDigest digest = true)
    (h : recoverQuarantine v.name digest discardId s = .ok (discarded, t)) : Recovered env s v discarded t := by
  unfold recoverQuarantine at h
  split at h
  · rename_i hrow
    split at h
    · cases h
      exact .unchanged
    · rename_i hexists
      cases hrename : Files.rename (.tmp v.name) (.content digest) s.files with
      | error e =>
        rw [hrename] at h
        cases h
      | ok files =>
        rw [hrename] at h
        cases h
        have hpath : Restorable env s digest (.tmp v.name) := by
          rw [hname]
          exact .quarantined id hvalid
        obtain ⟨bytes, hmoved⟩ := moved_of_rename hrow (fileExists_eq_false.1 (by simpa using hexists)) hpath hrename
        exact ⟨fun _ => .rfl, .restored digest _ bytes _ (.inl rfl) hmoved (.of_same fun _ _ => rfl),
          fun _ h => (not_mem_nil h).elim⟩
  · rename_i hrow
    have hdiscards := discards_quarantineDiscard v.name discardId s
    have hnames := names_quarantineDiscard v.name discardId s
    have hrows := hasRow_of_blobs (blobs_quarantineDiscard v.name discardId s)
    rw [Except.ok.inj h] at hdiscards hnames hrows
    exact ⟨hrows, .dropped (.inl ⟨digest, id, hname, hrow⟩) hdiscards, hnames⟩

variable {intent : CandidateWriteIntent} {id : String}

theorem adoptData_cases {journal : Bytes}
    (hname : v.name = .candidateIntent id) (hjournal : s.files.lookup (.tmp v.name) = some journal)
    (hread : readIntent env journal = .ok intent) (hrow : s.HasRow intent.digest) (h : adoptData id intent.digest s = .ok t) :
    (t = s ∧ (s.files.lookup (.content intent.digest) ≠ none ∨ s.files.lookup (.tmp (.candidateData id)) = none)) ∨
      t.blobs = s.blobs ∧ ∃ bytes, Moved env s intent.digest (.tmp (.candidateData id)) bytes t := by
  unfold adoptData at h
  split at h
  · rename_i hadopts
    simp only [Bool.and_eq_true, Bool.not_eq_true'] at hadopts
    cases hrename : Files.rename (.tmp (.candidateData id)) (.content intent.digest) s.files with
    | error e =>
      rw [hrename] at h
      cases h
    | ok files =>
      rw [hrename] at h
      cases h
      exact .inr ⟨rfl, moved_of_rename hrow (fileExists_eq_false.1 hadopts.1) (.staged id journal intent (hname ▸ hjournal) hread rfl)
        hrename⟩
  · rename_i hkeeps
    cases h
    refine .inl ⟨rfl, ?_⟩
    by_cases hcontent : s.files.lookup (.content intent.digest) = none
    · refine .inr (fileExists_eq_false.1 ?_)
      simpa [fileExists_eq_false.2 hcontent] using hkeeps
    · exact .inl hcontent

theorem close_recovered {discardIds : String × String} (heffect : ∀ t, Discards v.name s' t → Effect env s v t)
    (hrows : ∀ digest, s'.HasRow digest ↔ s.HasRow digest) (hdata : s'.files.lookup (.tmp (.candidateData id)) = none) :
    Recovered env s v ((quarantineDiscard (.candidateData id) discardIds.1 s').1 ++
        (quarantineDiscard v.name discardIds.2 (quarantineDiscard (.candidateData id) discardIds.1 s').2).1)
      (quarantineDiscard v.name discardIds.2 (quarantineDiscard (.candidateData id) discardIds.1 s').2).2 := by
  rw [quarantineDiscard_absent hdata, nil_append]
  exact ⟨fun digest => (hasRow_of_blobs (blobs_quarantineDiscard ..) digest).trans (hrows digest),
    heffect _ (discards_quarantineDiscard ..), names_quarantineDiscard _ _ _⟩

theorem recoverIntent_recovered {journal : Bytes}
    {discarded : List TmpName} (hname : v.name = .candidateIntent id) (hjournal : s.files.lookup (.tmp v.name) = some journal)
    (hread : readIntent env journal = .ok intent) (h : recoverIntent v.name id intent v.now v.discardIds s = .ok (discarded, t)) :
    Recovered env s v discarded t := by
  unfold recoverIntent at h
  split at h
  · cases h
    exact .unchanged
  rename_i b hb
  have hrow : s.HasRow intent.digest := Option.isSome_iff_exists.2 ⟨b, hb⟩
  split at h
  · cases h
    exact .unchanged
  rename_i hboth
  split at h
  · cases h
  rename_i adopted hadopt
  split at h
  · cases h
    rcases adoptData_cases hname hjournal hread hrow hadopt with ⟨rfl, -⟩ | ⟨hblobs, bytes, hmoved⟩
    · exact .unchanged
    exact ⟨hasRow_of_blobs hblobs, .restored _ _ bytes _ (.inr ⟨id, hname, rfl⟩) hmoved (.of_same fun _ _ => rfl),
      fun _ h => (not_mem_nil h).elim⟩
  rename_i hcontent
  dsimp only at h
  generalize hattached : ({ adopted with blobs := adopted.blobs.update intent.digest _ _ } : BlobStore) = attached at h
  have hfiles : attached.files = adopted.files := by rw [← hattached]
  have hrows : ∀ digest, attached.HasRow digest ↔ adopted.HasRow digest := hasRow_update _ (by rw [← hattached])
  have hsame : ∀ t, Discards v.name attached t → Discards v.name adopted t := by
    rintro t ⟨hothers, hshrinks⟩
    rw [hfiles] at hothers hshrinks
    exact ⟨hothers, hshrinks⟩
  rw [← (Prod.mk.inj (Except.ok.inj h)).1, ← (Prod.mk.inj (Except.ok.inj h)).2]
  rcases adoptData_cases hname hjournal hread hrow hadopt with ⟨rfl, hrest⟩ | ⟨hblobs, bytes, hmoved⟩
  · have hdata : adopted.files.lookup (.tmp (.candidateData id)) = none := by
      by_contra hdata
      refine hboth ?_
      rw [Bool.and_eq_true]
      exact ⟨by simpa using hcontent, Option.isSome_iff_ne_none.2 hdata⟩
    exact close_recovered (fun t ht => .dropped (.inr ⟨id, hname, hdata⟩) (hsame t ht)) hrows (hfiles ▸ hdata)
  · refine close_recovered (fun t ht => .restored _ _ bytes adopted (.inr ⟨id, hname, rfl⟩) hmoved (hsame t ht))
      (fun digest => (hrows digest).trans (hasRow_of_blobs hblobs digest)) ?_
    rw [hfiles, hmoved.lookup, if_neg nofun, if_pos rfl]

/-- **What a visit does.** -/
theorem visit_effect (env : Environment) (s : BlobStore) (v : Visit) :
    (∀ digest, (visit env s v).HasRow digest ↔ s.HasRow digest) ∧ Effect env s v (visit env s v) := by
  have hsame : (∀ digest, s.HasRow digest ↔ s.HasRow digest) ∧ Effect env s v s := ⟨fun _ => .rfl, .kept fun _ _ => rfl⟩
  unfold visit
  split
  · exact hsame
  rename_i intent hintent
  split
  · exact hsame
  split
  · exact hsame
  rename_i discarded t hentry
  have hrecovered : Recovered env s v discarded t := by
    unfold recoverGcEntry at hentry
    cases hname : v.name with
    | quarantine digest =>
      rw [hname] at hentry
      by_cases hvalid : validDigest digest = true
      · simp only [quarantineDigest, hvalid, if_true] at hentry
        exact recoverQuarantine_recovered hname hvalid (hname ▸ hentry)
      · simp only [quarantineDigest, hvalid, candidateIntentId] at hentry
        cases hentry
        exact .unchanged
    | candidateIntent id =>
      simp only [visitedIntent, hname, candidateIntentId, Option.isSome_some, if_true] at hintent
      cases hjournal : s.files.lookup (.tmp v.name) with
      | none =>
        rw [hjournal] at hintent
        cases hintent
      | some journal =>
        rw [hjournal] at hintent
        cases hread : readIntent env journal with
        | error e =>
          simp only [hread] at hintent
          cases hintent
        | ok read =>
          simp only [hread] at hintent
          cases hintent
          simp only [hname, quarantineDigest, candidateIntentId] at hentry
          rw [← hname] at hentry
          exact recoverIntent_recovered hname hjournal hread hentry
    | candidateIntentWrite id | candidateData id | discard id | other id =>
      simp only [hname, quarantineDigest, candidateIntentId] at hentry
      cases hentry
      exact .unchanged
  split
  · obtain ⟨hblobs, hlookup⟩ := lookup_removeDiscarded discarded t hrecovered.names
    exact ⟨fun digest => (hasRow_of_blobs hblobs digest).trans (hrecovered.rows digest), hrecovered.effect.then_same hlookup⟩
  · exact ⟨hrecovered.rows, hrecovered.effect⟩

/-! ## What every visit keeps -/

variable {bytes : Bytes}

theorem content_visit (v : Visit) (h : s.files.lookup (.content digest) = some bytes) :
    (visit env s v).files.lookup (.content digest) = some bytes := by
  have hnot : Path.content digest ≠ .tmp v.name := nofun
  cases (visit_effect env s v).2 with
  | kept hkept => exact (hkept _ id).trans h
  | dropped _ hdropped => exact (hdropped.others _ id hnot).trans h
  | restored other path bytes' between _ hmoved hclosed =>
    have hne : Path.content digest ≠ .content other := fun heq => by
      rw [heq, hmoved.free] at h
      cases h
    rw [hclosed.others _ id hnot, hmoved.lookup, if_neg hne, if_neg hmoved.restorable.ne_content.symm, h]

theorem tmp_visit (v : Visit) (hname : ¬ Discarded (.tmp name))
    (h : (visit env s v).files.lookup (.tmp name) = some bytes) : s.files.lookup (.tmp name) = some bytes := by
  cases (visit_effect env s v).2 with
  | kept hkept => exact (hkept _ hname).symm.trans h
  | dropped _ hdropped => exact hdropped.shrinks _ _ hname h
  | restored other path bytes' between _ hmoved hclosed =>
    have hbetween := hclosed.shrinks _ _ hname h
    rw [hmoved.lookup, if_neg nofun] at hbetween
    split at hbetween
    · cases hbetween
    · exact hbetween

theorem restorable_visit (v : Visit) (h : Restorable env (visit env s v) digest path) :
    Restorable env s digest path := by
  cases h with
  | quarantined id hvalid => exact .quarantined id hvalid
  | staged id journal intent hjournal hread hdigest => exact .staged id journal intent (tmp_visit v (fun h => h) hjournal) hread hdigest

theorem staged_visit (h : Staged env s) (v : Visit) : Staged env (visit env s v) := by
  intro digest path bytes hrow hfree hpath hbytes
  have hfree' : s.files.lookup (.content digest) = none := by
    cases hcontent : s.files.lookup (.content digest) with
    | none => rfl
    | some other =>
      rw [content_visit v hcontent] at hfree
      cases hfree
  refine h digest path bytes (((visit_effect env s v).1 digest).1 hrow) hfree' (restorable_visit v hpath) ?_
  cases hpath with
  | quarantined => exact tmp_visit v (fun h => h) hbytes
  | staged id => exact tmp_visit v (fun h => h) hbytes

theorem intact_visit (hintact : Intact env s) (h : Staged env s) (v : Visit) : Intact env (visit env s v) := by
  intro digest bytes hbytes
  have hnot : Path.content digest ≠ .tmp v.name := nofun
  cases (visit_effect env s v).2 with
  | kept hkept => exact hintact digest bytes ((hkept _ id).symm.trans hbytes)
  | dropped _ hdropped => exact hintact digest bytes (hdropped.shrinks _ _ id hbytes)
  | restored other path bytes' between _ hmoved hclosed =>
    rw [hclosed.others _ id hnot, hmoved.lookup] at hbytes
    split at hbytes
    · rename_i heq
      cases heq
      cases hbytes
      exact h _ path _ hmoved.row hmoved.free hmoved.restorable hmoved.source
    · rw [if_neg hmoved.restorable.ne_content.symm] at hbytes
      exact hintact digest bytes hbytes

theorem Restorable.unique {digest other : String} (h : Restorable env s digest path)
    (h' : Restorable env s other path) : digest = other := by
  cases h with
  | quarantined =>
    cases h'
    rfl
  | staged id journal intent hjournal hread hdigest =>
    cases h' with
    | staged _ journal' intent' hjournal' hread' hdigest' =>
      obtain rfl : journal = journal' := Option.mem_unique hjournal hjournal'
      obtain rfl : intent = intent' := Except.ok.inj (hread.symm.trans hread')
      exact hdigest.symm.trans hdigest'

/-- **A visit keeps every copy of content whose row exists.** -/
theorem copies_visit (v : Visit) (hrow : s.HasRow digest) (h : HasCopy env s digest) :
    HasCopy env (visit env s v) digest := by
  obtain ⟨path, bytes, hpath, hbytes, hhash⟩ := h
  rcases hpath with rfl | hpath
  · exact ⟨_, bytes, .inl rfl, content_visit v hbytes, hhash⟩
  cases (visit_effect env s v).2 with
  | kept hkept =>
    have hpath' := hpath.of_lookup (t := visit env s v) fun id _ => hkept (.tmp (.candidateIntent id)) (fun h => h)
    refine ⟨path, bytes, .inr hpath', (hkept path ?_).trans hbytes, hhash⟩
    cases hpath <;> exact fun h => h
  | dropped hname hdropped =>
    have hother : path ≠ .tmp v.name ∧ ∀ id, path = .tmp (.candidateData id) → TmpName.candidateIntent id ≠ v.name := by
      rcases hname with ⟨other, id, hname, habsent⟩ | ⟨id, hname, hdata⟩
      · rw [hname]
        refine ⟨fun heq => ?_, fun _ _ => nofun⟩
        cases hpath with
        | quarantined =>
          cases heq
          exact habsent hrow
        | staged => cases heq
      · rw [hname]
        refine ⟨fun heq => ?_, fun id' heq hid => ?_⟩
        · cases hpath <;> cases heq
        cases hid
        rw [heq, hdata] at hbytes
        cases hbytes
    refine ⟨path, bytes, .inr (hpath.of_lookup fun id hid => ?_), (hdropped.others path ?_ hother.1).trans hbytes, hhash⟩
    · exact hdropped.others _ (fun h => h) fun heq => hother.2 id hid (Path.tmp.inj heq)
    · cases hpath <;> exact fun h => h
  | restored other source moved between hname hmoved hclosed =>
    by_cases hsource : path = source
    · -- The copy itself has moved to its place.
      subst hsource
      obtain rfl := hpath.unique hmoved.restorable
      obtain rfl : bytes = moved := Option.mem_unique hbytes hmoved.source
      refine ⟨_, bytes, .inl rfl, ?_, hhash⟩
      rw [hclosed.others (.content _) (fun h => h) nofun, hmoved.lookup, if_pos rfl]
    · have hother : path ≠ .tmp v.name ∧ ∀ id, path = .tmp (.candidateData id) → TmpName.candidateIntent id ≠ v.name := by
        rcases hname with hname | ⟨id, hname, hid⟩
        · refine ⟨fun heq => hsource (heq.trans hname.symm), fun id _ heq => ?_⟩
          rw [← heq] at hname
          have hrestorable := hmoved.restorable
          rw [hname] at hrestorable
          cases hrestorable
        · rw [hname]
          refine ⟨fun heq => ?_, fun id' heq hid' => ?_⟩
          · cases hpath <;> cases heq
          cases hid'
          exact hsource (heq.trans hid.symm)
      have hkept : ∀ p, ¬ Discarded p → p ≠ .tmp v.name → (∀ digest, p ≠ .content digest) → p ≠ source →
          (visit env s v).files.lookup p = s.files.lookup p := by
        intro p hp hne hcontent hsource
        rw [hclosed.others p hp hne, hmoved.lookup, if_neg (hcontent _), if_neg hsource]
      refine ⟨path, bytes, .inr (hpath.of_lookup fun id hid => ?_),
        (hkept path ?_ hother.1 (fun _ => hpath.ne_content) hsource).trans hbytes, hhash⟩
      · refine hkept _ (fun h => h) (fun heq => hother.2 id hid (Path.tmp.inj heq)) (fun _ h => nomatch h) fun heq => ?_
        have hrestorable := hmoved.restorable
        rw [← heq] at hrestorable
        cases hrestorable
      · cases hpath <;> exact fun h => h

/-- **A quarantined file goes back to its free path.** -/
theorem visit_quarantined (hunlocked : v.locked = false)
    (hdigest : quarantineDigest v.name = some digest) (hrow : s.HasRow digest)
    (hbytes : s.files.lookup (.tmp v.name) = some bytes) (hfree : s.files.lookup (.content digest) = none) :
    (visit env s v).files.lookup (.content digest) = some bytes := by
  have hintent : visitedIntent env v s = .ok none := by
    unfold visitedIntent
    cases hname : v.name <;> rw [hname] at hdigest <;> first | rfl | cases hdigest
  have hentry : recoverGcEntry v.name none v.now v.discardIds s =
      .ok ([], { s with files := (s.files.erase (.tmp v.name)).insert (.content digest) bytes }) := by
    unfold recoverGcEntry
    rw [hdigest]
    dsimp only
    rw [recoverQuarantine, if_pos (show (s.blobs.find? digest).isSome = true from hrow), if_neg (by rw [fileExists_eq_false.2 hfree]; decide), Files.rename, hbytes]
    rfl
  have hvisit : visit env s v = { s with files := (s.files.erase (.tmp v.name)).insert (.content digest) bytes } := by
    rw [visit, hintent]
    dsimp only
    rw [hunlocked, if_neg Bool.false_ne_true, hentry]
    dsimp only
    split <;> rfl
  rw [hvisit]
  exact Finmap.lookup_insert _

theorem visit_candidate {journal bytes : Bytes}
    (hunlocked : v.locked = false) (hkept : v.removable = false) (hname : v.name = .candidateIntent id)
    (hjournal : s.files.lookup (.tmp (.candidateIntent id)) = some journal) (hread : readIntent env journal = .ok intent)
    (hrow : s.HasRow intent.digest) (hbytes : s.files.lookup (.tmp (.candidateData id)) = some bytes)
    (hfree : s.files.lookup (.content intent.digest) = none) :
    (visit env s v).files.lookup (.content intent.digest) = some bytes := by
  have hdata : s.fileExists (.tmp (.candidateData id)) = true := Option.isSome_iff_exists.2 ⟨bytes, hbytes⟩
  have hnone := fileExists_eq_false.2 hfree
  have hadopt : adoptData id intent.digest s =
      .ok { s with files := (s.files.erase (.tmp (.candidateData id))).insert (.content intent.digest) bytes } := by
    rw [adoptData, if_pos (by rw [hnone, hdata]; rfl), Files.rename, hbytes]
    rfl
  have hplaced : ((s.files.erase (.tmp (.candidateData id))).insert (.content intent.digest) bytes).lookup
      (.content intent.digest) = some bytes := Finmap.lookup_insert _
  obtain ⟨b, hb⟩ := Option.isSome_iff_exists.1 hrow
  have hentry : ∃ discarded t, recoverGcEntry v.name (some intent) v.now v.discardIds s = .ok (discarded, t) ∧
      t.files.lookup (.content intent.digest) = some bytes := by
    have hexists : BlobStore.fileExists { s with
        files := (s.files.erase (.tmp (.candidateData id))).insert (.content intent.digest) bytes } (.content intent.digest) = true :=
      Option.isSome_iff_exists.2 ⟨bytes, hplaced⟩
    unfold recoverGcEntry
    rw [hname]
    dsimp only [quarantineDigest, candidateIntentId]
    unfold recoverIntent
    rw [hb]
    dsimp only
    rw [hnone, Bool.false_and, if_neg Bool.false_ne_true, hadopt]
    dsimp only
    rw [hexists, if_neg (by decide)]
    refine ⟨_, _, rfl, ?_⟩
    rw [(discards_quarantineDiscard ..).others (.content intent.digest) (fun h => h) nofun,
      (discards_quarantineDiscard ..).others (.content intent.digest) (fun h => h) nofun]
    exact hplaced
  obtain ⟨discarded, t, hentry, ht⟩ := hentry
  have hintent : visitedIntent env v s = .ok (some intent) := by
    have hfound : s.files.lookup (.tmp v.name) = some journal := hname ▸ hjournal
    rw [visitedIntent, if_pos (by rw [hname]; rfl), hfound]
    dsimp only
    rw [hread]
    rfl
  unfold visit
  rw [hintent]
  dsimp only
  rw [hunlocked, if_neg Bool.false_ne_true, hentry]
  dsimp only
  rw [hkept, if_neg Bool.false_ne_true]
  exact ht

/-! ## Passes after a stop -/

def visits (passes : List Pass) : List Visit :=
  passes.flatMap fun p => p.entries.take p.budget

theorem recover_visits : ∀ (passes : List Pass) (s : BlobStore),
    passes.foldl (recoverGcState env) s = (visits passes).foldl (visit env) s
  | [], _ => rfl
  | p :: passes, s => by
    have hcons : visits (p :: passes) = p.entries.take p.budget ++ visits passes := flatMap_cons
    rw [foldl_cons, recover_visits passes, hcons, foldl_append]
    rfl

variable (done : List Visit)

theorem hasRow_visits (digest : String) : (done.foldl (visit env) s).HasRow digest ↔ s.HasRow digest :=
  Runs.run_invariant (visit env) (P := fun t => t.HasRow digest ↔ s.HasRow digest)
    (fun t v h => ((visit_effect env t v).1 digest).trans h) done s .rfl

theorem content_visits
    (h : s.files.lookup (.content digest) = some bytes) : (done.foldl (visit env) s).files.lookup (.content digest) = some bytes :=
  Runs.run_invariant (visit env) (P := fun t => t.files.lookup (.content digest) = some bytes)
    (fun _ v h => content_visit v h) done s h

theorem copies_visits (hrow : s.HasRow digest) (h : HasCopy env s digest) :
    HasCopy env (done.foldl (visit env) s) digest :=
  (Runs.run_invariant (visit env) (P := fun t => t.HasRow digest ∧ HasCopy env t digest)
    (fun t v h => ⟨((visit_effect env t v).1 digest).2 h.1, copies_visit v h.1 h.2⟩) done s ⟨hrow, h⟩).2

inductive Writer where
  | put (w : CandidateWrite)
  | collect (w : Collection)

def Writer.cuts (env : Environment) (s : BlobStore) : Writer → List BlobStore
  | .put w => (putBytesCandidate env w).cuts s
  | .collect w => (collectGcCandidate w).cuts s

/-- The identity that is drawn is new: no journal and no quarantine bears it. -/
def Writer.Fresh (s : BlobStore) : Writer → Prop
  | .put w => s.files.lookup (.tmp (.candidateIntent w.intentId)) = none
  | .collect w => s.files.lookup (.tmp w.quarantine) = none

theorem cut_keeps {writer : Writer} (hintact : Intact env s) (hfresh : writer.Fresh s) (ht : t ∈ writer.cuts env s) :
    Intact env t ∧ ∀ digest, HasCopy env s digest → HasCopy env t digest := by
  cases writer with
  | put w =>
    have h := (putBytesCandidate_leaves env s w).cuts .refl .refl ht
    exact ⟨h.intact hintact, fun _ => h.copies hfresh⟩
  | collect w =>
    have h := (collectGcCandidate_leaves s w).cuts (.refl hfresh) (.refl hfresh) ht
    exact ⟨h.intact hintact, fun _ => h.copies hfresh⟩

/-- What the passes from the store that a stop leaves behind are for: content paths are absent or hold their content, no
content whose row exists loses its last copy, neither by the stop nor by the passes, and a quarantined file whose row exists
is back when it finds its path free. -/
structure Recovers (env : Environment) (s t : BlobStore) (passes : List Pass) : Prop where
  intact : ∀ done, done <+: visits passes → Intact env (done.foldl (visit env) t)
  copies : ∀ digest, t.HasRow digest → HasCopy env s digest ∨ HasCopy env t digest →
    HasCopy env (passes.foldl (recoverGcState env) t) digest
  quarantined : ∀ done v digest bytes, done ++ [v] <+: visits passes → v.locked = false →
    quarantineDigest v.name = some digest → t.HasRow digest →
    (done.foldl (visit env) t).files.lookup (.tmp v.name) = some bytes →
    (done.foldl (visit env) t).files.lookup (.content digest) = none →
    (passes.foldl (recoverGcState env) t).files.lookup (.content digest) = some bytes

theorem quarantined_visits {passes : List Pass} {done : List Visit}
    (hvisited : done ++ [v] <+: visits passes) (hunlocked : v.locked = false) (hdigest : quarantineDigest v.name = some digest)
    (hrow : t.HasRow digest) (hbytes : (done.foldl (visit env) t).files.lookup (.tmp v.name) = some bytes)
    (hfree : (done.foldl (visit env) t).files.lookup (.content digest) = none) :
    (passes.foldl (recoverGcState env) t).files.lookup (.content digest) = some bytes := by
  obtain ⟨rest, hrest⟩ := hvisited
  have hback : (visit env (done.foldl (visit env) t) v).files.lookup (.content digest) = some bytes :=
    visit_quarantined hunlocked hdigest ((hasRow_visits done digest).2 hrow) hbytes hfree
  rw [recover_visits, ← hrest, append_assoc, foldl_append, singleton_append, foldl_cons]
  exact content_visits rest hback

theorem visit_restorable (hpath : Restorable env s digest path)
    (hrow : s.HasRow digest) (hbytes : s.files.lookup path = some bytes) (hfree : s.files.lookup (.content digest) = none) :
    ∃ v, (visit env s v).files.lookup (.content digest) = some bytes := by
  cases hpath with
  | quarantined id hvalid =>
    refine ⟨⟨.quarantine digest id, false, "", ("", ""), false⟩, visit_quarantined rfl ?_ hrow hbytes hfree⟩
    rw [quarantineDigest, if_pos hvalid]
  | staged id journal intent hjournal hread hdigest =>
    subst hdigest
    exact ⟨⟨.candidateIntent id, false, "", ("", ""), false⟩, visit_candidate rfl rfl rfl hjournal hread hrow hbytes hfree⟩

/-! ## What a stop leaves to be restored -/

/-- Every quarantined file, and the data of every intent, is whole. -/
def Sound (env : Environment) (s : BlobStore) : Prop :=
  ∀ digest path bytes, Restorable env s digest path → s.files.lookup path = some bytes → env.sha256 bytes = digest

theorem Sound.staged (h : Sound env s) : Staged env s :=
  fun digest path bytes _ _ hpath hbytes => h digest path bytes hpath hbytes

/-- **A collection that is cut off** leaves whole what it quarantined. -/
theorem Collected.sound {w : Collection} (h : Collected s w t) (hintact : Intact env s) (hsound : Sound env s) : Sound env t := by
  intro digest path bytes hpath hbytes
  have hkept : path ≠ .tmp w.quarantine → s.files.lookup path = some bytes := by
    intro hquarantine
    rw [← h.others path hpath.ne_content hquarantine, hbytes]
  by_cases hquarantine : path = .tmp w.quarantine
  · subst hquarantine
    obtain rfl : w.digest = digest := by
      cases hpath
      rfl
    rcases h.moved with ⟨-, hnone⟩ | ⟨-, -, heq⟩
    · rw [hnone] at hbytes
      cases hbytes
    · exact hintact _ bytes (heq ▸ hbytes)
  · refine hsound digest path bytes (hpath.of_lookup fun id _ => ?_) (hkept hquarantine)
    exact (h.others (.tmp (.candidateIntent id)) nofun (nofun)).symm

/-- **The recovery after a stop.**  Wherever a write or a collection is cut off, all passes restore exactly the durable facts
if and only if what may be restored to a free path of a row is whole; the passes never read it. -/
theorem blob_recovery (env : Environment) (s : BlobStore) (writer : Writer) (t : BlobStore) (hintact : Intact env s)
    (hfresh : writer.Fresh s) (ht : t ∈ writer.cuts env s) : (∀ passes, Recovers env s t passes) ↔ Staged env t := by
  obtain ⟨hcut, hcopies⟩ := cut_keeps hintact hfresh ht
  constructor
  · intro h digest path bytes hrow hfree hpath hbytes
    obtain ⟨v, hv⟩ := visit_restorable hpath hrow hbytes hfree
    exact (h [⟨[v], 1⟩]).intact [v] prefix_rfl digest bytes hv
  · intro hstaged passes
    refine ⟨fun done _ => ?_, fun digest hrow hcopy => ?_, fun done v digest bytes => quarantined_visits⟩
    · exact (Runs.run_invariant (visit env) (P := fun u => Intact env u ∧ Staged env u)
        (fun u v h => ⟨intact_visit h.1 h.2 v, staged_visit h.2 v⟩) done t ⟨hcut, hstaged⟩).1
    · rw [recover_visits]
      exact copies_visits _ hrow (hcopy.elim (hcopies digest) fun h => h)

/-! ## A write of content that is in quarantine

The collection of `ab` is stopped behind its rename, and a write of `ab` while its data is being written. -/

def abDigest : String := "fb8e20fc2e4c3f248c60c39bd652f3c1347298bb977b8b4d5903b85055620603"

def text (s : String) : Bytes := s.toList.map fun c => c.toNat.toUInt8

def abIntent : CandidateWriteIntent := ⟨1, abDigest, "execution_lifecycle", "2026-01-02T00:00:00+00:00"⟩

def sampleJson (i : CandidateWriteIntent) : Bytes :=
  text ("\x7b\"version\":" ++ toString i.version ++ ",\"digest\":\"" ++ i.digest ++ "\",\"owner\":\"" ++ i.owner ++
    "\",\"createdAt\":\"" ++ i.createdAt ++ "\"\x7d")

def sampleEnvironment : Environment where
  sha256 bytes :=
    if bytes = text "ab" then abDigest
    else if bytes = text "a" then "ca978112ca1bbdcafac231b39a23dc4da786eff8147c4e72b9807785afee48bb"
    else "e3b0c44298fc1c149afbf4c8996fb92427ae41e4649b934ca495991b7852b855"
  intentJson := sampleJson
  parseIntent bytes := if bytes = sampleJson abIntent then some abIntent else none
  isRfc3339 _ := true

def abBlob : ManagedBlob where
  sha256 := abDigest
  byteSize := 2
  mediaType := "text/plain"
  storageRelativePath := blobRelativePath abDigest
  state := "present"
  sensitivity := "normal"
  createdAt := "2026-01-01T00:00:00+00:00"
  verifiedAt := some "2026-01-01T00:00:00+00:00"
  updatedAt := "2026-01-01T00:00:00+00:00"
  gcCandidateAt := some "2026-01-01T00:00:00+00:00"
  gcCandidateOwner := some "execution_lifecycle"

def abStored : BlobStore where
  files := Finmap.insert (.content abDigest) (text "ab") ∅
  blobs := Table.empty.insert abBlob
  references := []

def abCollection : Collection where
  detachedBefore := "2026-01-02T00:00:00+00:00"
  blobId := abBlob.id
  digest := abDigest
  quarantineId := "9b2f0a3c-5f0e-4c56-8a9e-0f3d7d1c2b4a"
  now := "2026-01-02T00:00:00+00:00"
  transactionFails := false

def abQuarantined : BlobStore :=
  (((collectGcCandidate abCollection).run abStored).left).getD 0 abStored

def abWrite : CandidateWrite where
  bytes := text "ab"
  mediaType := "text/plain"
  sensitivity := "normal"
  owner := "execution_lifecycle"
  intentId := "3d1c2b4a-5f0e-4c56-8a9e-9b2f0a3c0f3d"
  now := "2026-01-02T00:00:00+00:00"
  tornIntent := 0
  tornData := 1

def abTorn : BlobStore :=
  (((putBytesCandidate sampleEnvironment abWrite).run abQuarantined).left).getD 5 abQuarantined

def abVisit : Visit :=
  ⟨.candidateIntent abWrite.intentId, false, "2026-01-03T00:00:00+00:00", ("", ""), true⟩

theorem getD_left_mem {α ε : Type} {p : Procedure BlobStore ε α} {n : Nat} (h : n < (p.run s).left.length) :
    (p.run s).left.getD n s ∈ p.cuts s := by
  rw [getD_eq_getElem?_getD, getElem?_eq_getElem h, Option.getD_some]
  exact mem_cons_of_mem s (getElem_mem h)

theorem abQuarantined_mem : abQuarantined ∈ Writer.cuts sampleEnvironment abStored (.collect abCollection) :=
  getD_left_mem (by decide +kernel)

theorem abTorn_mem : abTorn ∈ Writer.cuts sampleEnvironment abQuarantined (.put abWrite) :=
  getD_left_mem (by decide +kernel)

theorem fresh_abStored : Writer.Fresh abStored (.collect abCollection) := by
  show Finmap.lookup _ _ = _
  decide

theorem lookup_abStored (h : abStored.files.lookup path = some bytes) :
    path = .content abDigest ∧ bytes = text "ab" := by
  by_cases hpath : path = .content abDigest
  · subst hpath
    rw [show abStored.files.lookup _ = _ from Finmap.lookup_insert _] at h
    exact ⟨rfl, (Option.some.inj h).symm⟩
  · rw [show abStored.files.lookup path = _ from Finmap.lookup_insert_of_ne _ hpath, Finmap.lookup_empty] at h
    cases h

theorem intact_abStored : Intact sampleEnvironment abStored := by
  intro digest bytes h
  obtain ⟨hpath, rfl⟩ := lookup_abStored h
  cases hpath
  decide +kernel

theorem sound_abStored : Sound sampleEnvironment abStored := by
  intro digest path bytes hpath h
  exact absurd (lookup_abStored h).1 hpath.ne_content

theorem intact_abQuarantined : Intact sampleEnvironment abQuarantined :=
  (cut_keeps intact_abStored fresh_abStored abQuarantined_mem).1

/-- After the collection that is stopped, `ab` is back whatever the passes do. -/
theorem blob_recovery_quarantined : abQuarantined ∈ Writer.cuts sampleEnvironment abStored (.collect abCollection) ∧
    ∀ passes, Recovers sampleEnvironment abStored abQuarantined passes :=
  ⟨abQuarantined_mem, (blob_recovery sampleEnvironment abStored (.collect abCollection) abQuarantined intact_abStored
    fresh_abStored abQuarantined_mem).2
    (((collectGcCandidate_leaves abStored abCollection).cuts (.refl fresh_abStored) (.refl fresh_abStored)
      abQuarantined_mem).sound intact_abStored sound_abStored).staged⟩

/-- **Torn data is restored**: the pass that comes to the intent first moves what was written of the data to the content
path, with the whole file still in quarantine. -/
theorem blob_recovery_torn : Intact sampleEnvironment abQuarantined ∧ Writer.Fresh abQuarantined (.put abWrite) ∧
    abTorn ∈ Writer.cuts sampleEnvironment abQuarantined (.put abWrite) ∧
    ¬ ∀ passes, Recovers sampleEnvironment abQuarantined abTorn passes := by
  refine ⟨intact_abQuarantined, ?_, abTorn_mem, fun h => ?_⟩
  · show Finmap.lookup _ _ = _
    decide
  · have htorn : (visit sampleEnvironment abTorn abVisit).files.lookup (.content abDigest) = some (text "a") := by
      decide +kernel
    have hintact := (h [⟨[abVisit], 1⟩]).intact [abVisit] prefix_rfl
    rw [foldl_cons, foldl_nil] at hintact
    have hhash : sampleEnvironment.sha256 (text "a") ≠ abDigest := by decide
    exact hhash (hintact abDigest (text "a") htorn)

end Rovai.Blobs
