import RovaiCore.FileEditText
/-!
# Reads and saves of text files

What a snapshot says about the file (`snapshot_eq_ok`) and what a save that succeeds did (`execute_saved`).
-/
namespace Rovai.FileEdit

open Tables (Table)

variable {w : Outside} {d : Disk}

/-! ## Snapshots -/

structure Node.Editable (node : Node) : Prop where
  isFile : node.isFile = true
  writable : readonly node.mode = false
  nlink : node.nlink = 1
  openable : node.openable = true
  size : node.bytes.size ≤ maxTextBytes

def snapshotOf (w : Outside) (path : Path) (parent : Nat × Nat) (node : Node) (decoded : Decoded) : Snapshot :=
  ⟨node.bytes, decoded.text, w.version (w.key parent path) node, w.key parent path, decoded.bom, decoded.crlf, node.mode⟩

/-- **What `snapshot` accepts and returns.** -/
theorem snapshot_eq_ok {path : Path} {s : Snapshot} : snapshot w d path = .ok s ↔
    ∃ node decoded parent, d.nodes.find? path = some node ∧ node.Editable ∧ decode node.bytes = .ok decoded ∧
      d.parent path = some parent ∧ s = snapshotOf w path parent node decoded := by
  constructor
  · intro h
    unfold snapshot at h
    split at h
    · cases h
    rename_i node hnode
    split at h
    · cases h
    rename_i hfile
    split at h
    · cases h
    rename_i hmode
    split at h
    · cases h
    rename_i hlink
    split at h
    · cases h
    rename_i hopen
    split at h
    · cases h
    rename_i hsize
    split at h
    · cases h
    rename_i decoded hdecoded
    split at h
    · cases h
    rename_i parent hparent
    cases h
    exact ⟨node, decoded, parent, hnode, ⟨eq_true_of_ne_false hfile, eq_false_of_ne_true hmode,
      Decidable.not_not.1 hlink, eq_true_of_ne_false hopen, Nat.le_of_not_lt hsize⟩, hdecoded, hparent, rfl⟩
  · rintro ⟨node, decoded, parent, hnode, heditable, hdecoded, hparent, rfl⟩
    unfold snapshot
    rw [hnode]
    dsimp only
    rw [if_neg (by simp [heditable.isFile]), if_neg (by simp [heditable.writable]), if_neg (by simp [heditable.nlink]),
      if_neg (by simp [heditable.openable]), if_neg (Nat.not_lt.2 heditable.size), hdecoded]
    dsimp only
    rw [hparent]
    rfl

variable {d' : Disk}

theorem snapshot_congr {path : Path} (hnodes : d'.nodes.find? path = d.nodes.find? path)
    (hparent : d'.parent path = d.parent path) : snapshot w d' path = snapshot w d path := by
  unfold snapshot
  rw [hnodes, hparent]

/-! ## The temporary file -/

variable {io : Io}

theorem admits_iff : d.admits io = true ↔ d.nodes.find? io.temporary = none ∧
    ∀ path node, d.nodes.find? path = some node → ¬ (node.dev = io.dev ∧ node.ino = io.ino) := by
  unfold Disk.admits
  rw [Bool.and_eq_true, Option.isNone_iff_eq_none, Bool.not_eq_true', ← Bool.not_eq_true, Table.any_iff]
  refine and_congr_right fun _ => ⟨fun h path node hnode heq => ?_, ?_⟩
  · exact h ⟨path, node, hnode, decide_eq_true heq⟩
  rintro h ⟨path, node, hnode, heq⟩
  exact h path node hnode (of_decide_eq_true heq)

/-- **A temporary file that is removed leaves the disk as it was.** -/
theorem remove_create {node : Node} (h : d.nodes.find? node.path = none) : (d.create node).remove node.path = d := by
  have hfree : node.path ∉ d.nodes.rows.map Node.path := Table.find?_eq_none_iff.1 h
  have hkept : (d.nodes.insert node).deleteWhere (fun other => other.path = node.path) = d.nodes := by
    have hrows : ((d.nodes.insert node).deleteWhere fun other => other.path = node.path).rows = d.nodes.rows := by
      rw [Table.insert, dif_neg hfree]
      show (d.nodes.rows ++ [node]).filter _ = _
      rw [List.filter_append, List.filter_eq_self.2]
      · simp
      intro other hother
      have hne : other.path ≠ node.path := fun heq => hfree (heq ▸ List.mem_map_of_mem hother)
      simp [hne]
    generalize (d.nodes.insert node).deleteWhere _ = t at hrows ⊢
    obtain ⟨rows, hnodup⟩ := t
    cases hrows
    rfl
  show { d with nodes := (d.nodes.insert node).deleteWhere _ } = d
  rw [hkept]

def Disk.replaced (d : Disk) (io : Io) (mode : Nat) (output : ByteArray) (path : Path) : Disk :=
  (d.create (io.node mode output)).rename io.temporary path

variable {mode : Nat} {output : ByteArray} {path : Path}

theorem find?_create_of_ne (h : d.nodes.find? io.temporary = none) (hne : path ≠ io.temporary) :
    (d.create (io.node mode output)).nodes.find? path = d.nodes.find? path := by
  show (d.nodes.insert _).find? path = _
  rw [Table.find?_insert h]
  exact if_neg hne

theorem rename_create (h : d.nodes.find? io.temporary = none) : d.replaced io mode output path =
    { d with nodes := ((d.create (io.node mode output)).nodes.deleteWhere fun other =>
      other.path = io.temporary ∨ other.path = path).insert { io.node mode output with path := path } } := by
  have hnew : (d.create (io.node mode output)).nodes.find? io.temporary = some (io.node mode output) := Table.find?_insert_self h
  unfold Disk.replaced Disk.rename
  rw [hnew]
  rfl

@[simp] theorem replaced_canonicalize : (d.replaced io mode output path).canonicalize = d.canonicalize := by
  unfold Disk.replaced Disk.rename
  split <;> rfl

@[simp] theorem replaced_parent : (d.replaced io mode output path).parent = d.parent := by
  unfold Disk.replaced Disk.rename
  split <;> rfl

theorem find?_replaced (h : d.nodes.find? io.temporary = none) :
    (d.replaced io mode output path).nodes.find? path = some { io.node mode output with path := path } := by
  rw [rename_create h]
  refine Table.find?_insert_self ?_
  rw [Table.find?_deleteWhere, Option.filter_eq_none_iff]
  intro other hother
  have hpath : other.path = path := Table.key_of_find? hother
  simp [hpath]

theorem target_congr (h : d'.canonicalize = d.canonicalize) (request : Request) : d'.target request = d.target request := by
  unfold Disk.target
  rw [h]

variable {request : Request} {candidate path : Path}

theorem target_ok (h : d.target request = .ok (candidate, path)) :
    request.candidate = .ok candidate ∧ d.canonicalize candidate = some path ∧ d.canonicalize request.path = some path := by
  unfold Disk.target at h
  split at h
  · cases h
  rename_i candidate' hcandidate
  split at h
  · cases h
  rename_i path' hpath
  split at h
  · cases h
  rename_i requested hrequested
  split at h
  · cases h
  rename_i heq
  cases h
  rw [← Decidable.not_not.1 heq] at hrequested
  exact ⟨hcandidate, hpath, hrequested⟩

/-! ## Saves -/

structure Io.GoesWell (io : Io) (d : Disk) : Prop where
  created : io.created = true
  admitted : d.admits io = true
  written : io.written = true
  renamed : io.renamed = true

theorem Io.GoesWell.free (h : io.GoesWell d) : d.nodes.find? io.temporary = none :=
  (admits_iff.1 h.admitted).1

variable {before : Snapshot}

/-- **A replacement leaves the disk as it was, or the file is what was written**; a value is the file afterwards. -/
theorem replaceFile_cases {output : ByteArray} {out : Disk × Reply}
    (hbefore : snapshot w d path = .ok before) (hpath : d.canonicalize candidate = some path)
    (h : replaceFile w d candidate path before.version before output io = out) :
    out.1 = d ∧ (∀ v, out.2 ≠ .value v) ∧ ¬ io.GoesWell d ∨
    io.GoesWell d ∧ out.1 = d.replaced io before.permissions output path ∧
      ((∃ saved, snapshot w out.1 path = .ok saved ∧ saved.bytes = output ∧ out.2 = .value saved.value) ∨
        (∀ saved, snapshot w out.1 path = .ok saved → saved.bytes ≠ output) ∧ out.2 = .failure .saveUnknown) := by
  subst h
  unfold replaceFile
  split
  · rename_i hcreated
    refine .inl ⟨rfl, fun v h => (nomatch h), fun hwell => ?_⟩
    exact hcreated.elim (fun h => Bool.false_ne_true (h.symm.trans hwell.created)) fun h =>
      Bool.false_ne_true (h.symm.trans hwell.admitted)
  rename_i hcreated
  rw [not_or, Bool.not_eq_false, Bool.not_eq_false] at hcreated
  have hfree := (admits_iff.1 hcreated.2).1
  have hrestored : (d.create (io.node before.permissions output)).remove io.temporary = d :=
    @remove_create d (io.node before.permissions output) hfree
  have hne : path ≠ io.temporary := by
    rintro rfl
    obtain ⟨node, -, -, hnode, -⟩ := snapshot_eq_ok.1 hbefore
    rw [hfree] at hnode
    cases hnode
  have hlatest : snapshot w (d.create (io.node before.permissions output)) path = .ok before := by
    rw [← hbefore]
    exact snapshot_congr (find?_create_of_ne hfree hne) rfl
  dsimp only
  rw [hrestored, hlatest]
  split
  · rename_i hwritten
    exact .inl ⟨rfl, fun v h => (nomatch h), fun hwell => Bool.false_ne_true (hwritten.symm.trans hwell.written)⟩
  rename_i hwritten
  rw [if_neg (fun hcanonical => hcanonical hpath)]
  dsimp only
  rw [if_neg (fun hversion => hversion rfl)]
  split
  · rename_i hrenamed
    exact .inl ⟨rfl, fun v h => (nomatch h), fun hwell => Bool.false_ne_true (hrenamed.symm.trans hwell.renamed)⟩
  rename_i hrenamed
  have hwell : io.GoesWell d := ⟨hcreated.1, hcreated.2, eq_true_of_ne_false hwritten, eq_true_of_ne_false hrenamed⟩
  refine .inr ⟨hwell, ?_⟩
  cases hsaved : snapshot w (d.replaced io before.permissions output path) path with
  | error e =>
    have hsaved' : snapshot w ((d.create (io.node before.permissions output)).rename io.temporary path) path = .error e := hsaved
    rw [hsaved']
    refine ⟨rfl, .inr ⟨fun saved hok => ?_, rfl⟩⟩
    have := hsaved.symm.trans hok
    cases this
  | ok saved =>
    have hsaved' : snapshot w ((d.create (io.node before.permissions output)).rename io.temporary path) path = .ok saved := hsaved
    rw [hsaved']
    dsimp only
    split
    · rename_i hbytes
      refine ⟨rfl, .inr ⟨fun saved' hok => ?_, rfl⟩⟩
      have heq := hsaved.symm.trans hok
      cases heq
      exact hbytes
    · rename_i hbytes
      exact ⟨rfl, .inl ⟨saved, hsaved, Decidable.not_not.1 hbytes, rfl⟩⟩

theorem save_cases {out : Disk × Reply}
    (h : save w d candidate path before request io = out) :
    out.1 = d ∧ (∀ v, out.2 ≠ .value v) ∨
    ∃ text, request.expectedVersion = some before.version ∧ request.text = some text ∧ '\x00' ∉ text.toList ∧ '\r' ∉ text.toList ∧
      (encode before.bom before.crlf text).size ≤ maxTextBytes ∧
      replaceFile w d candidate path before.version before (encode before.bom before.crlf text) io = out := by
  subst h
  unfold save
  split
  · exact .inl ⟨rfl, fun v h => (nomatch h)⟩
  rename_i expected hexpected
  split
  · exact .inl ⟨rfl, fun v h => (nomatch h)⟩
  rename_i hversion
  obtain rfl := Decidable.not_not.1 hversion
  split
  · exact .inl ⟨rfl, fun v h => (nomatch h)⟩
  rename_i text htext
  split
  · exact .inl ⟨rfl, fun v h => (nomatch h)⟩
  split
  · exact .inl ⟨rfl, fun v h => (nomatch h)⟩
  rename_i hchars
  rw [not_or] at hchars
  dsimp only
  split
  · exact .inl ⟨rfl, fun v h => (nomatch h)⟩
  rename_i hsize
  exact .inr ⟨text, hexpected, htext, hchars.1, hchars.2, Nat.le_of_not_lt hsize, rfl⟩

theorem save_eq {text : String} {output : ByteArray}
    (hexpected : request.expectedVersion = some before.version) (htext : request.text = some text) (hzero : '\x00' ∉ text.toList)
    (hreturn : '\r' ∉ text.toList) (houtput : encode before.bom before.crlf text = output) (hsize : output.size ≤ maxTextBytes) :
    save w d candidate path before request io = replaceFile w d candidate path before.version before output io := by
  have hle : text.utf8ByteSize ≤ output.size := houtput ▸ utf8ByteSize_le_encode before.bom before.crlf text
  unfold save
  rw [hexpected, htext]
  dsimp only
  rw [if_neg (fun hversion => hversion rfl), if_neg (Nat.not_lt.2 (Nat.le_trans hle hsize)), if_neg (not_or.2 ⟨hzero, hreturn⟩),
    houtput, if_neg (Nat.not_lt.2 hsize)]

structure Saved (w : Outside) (d d' : Disk) (request : Request) (io : Io) (v : FileValue) (candidate path : Path) (text : String)
    (before after : Snapshot) : Prop where
  target : d.target request = .ok (candidate, path)
  read : snapshot w d path = .ok before
  expects : request.expectedVersion = some before.version
  sends : request.text = some text
  noZero : '\x00' ∉ text.toList
  noReturn : '\r' ∉ text.toList
  fits : (encode before.bom before.crlf text).size ≤ maxTextBytes
  wentWell : io.GoesWell d
  disk : d' = d.replaced io before.permissions (encode before.bom before.crlf text) path
  readAgain : snapshot w d' path = .ok after
  written : after.bytes = encode before.bom before.crlf text
  returned : v = after.value

/-- **A save that succeeds, unpacked.** -/
theorem execute_saved {v : FileValue} (h : execute w d request (some io) = (d', .value v)) :
    ∃ candidate path text before after, Saved w d d' request io v candidate path text before after := by
  unfold execute at h
  split at h
  · cases h
  rename_i candidate path htarget
  split at h
  · cases h
  rename_i before hbefore
  dsimp only at h
  obtain ⟨-, hno⟩ | ⟨text, hexpected, htext, hzero, hreturns, hsize, hreplace⟩ := save_cases h
  · exact absurd rfl (hno v)
  obtain ⟨-, hno, -⟩ | ⟨hwell, hdisk, ⟨after, hafter, hbytes, hvalue⟩ | ⟨-, hunknown⟩⟩ :=
    replaceFile_cases hbefore (target_ok htarget).2.1 hreplace
  · exact absurd rfl (hno v)
  · exact ⟨candidate, path, text, before, after, htarget, hbefore, hexpected, htext, hzero, hreturns, hsize, hwell, hdisk,
      hafter, hbytes, Reply.value.inj hvalue⟩
  · cases hunknown

theorem execute_read {v : FileValue} : execute w d request none = (d', .value v) ↔
    d' = d ∧ ∃ candidate path s, d.target request = .ok (candidate, path) ∧ snapshot w d path = .ok s ∧ v = s.value := by
  unfold execute
  constructor
  · intro h
    split at h
    · cases h
    rename_i candidate path htarget
    split at h
    · cases h
    rename_i s hs
    cases h
    exact ⟨rfl, candidate, path, s, htarget, hs, rfl⟩
  · rintro ⟨rfl, candidate, path, s, htarget, hs, rfl⟩
    rw [htarget]
    dsimp only
    rw [hs]

end Rovai.FileEdit
