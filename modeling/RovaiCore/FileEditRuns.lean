import RovaiCore.FileEditSaves
import RovaiCore.Runs
/-!
# Optimistic edits over runs

What was read is written back as it was (`writesBack`), what was saved is read back where no first character is taken for a mark
(`readsBack`), a save with another version changes nothing (`refusesStale`), and a version is saved from once
(`savesOnce`).
-/
namespace Rovai.FileEdit

open Tables (Table)
open List

variable {w : Outside}

/-! ## One save -/

def Disk.bytesAt (d : Disk) (path : Path) : Option ByteArray :=
  (d.nodes.find? path).map Node.bytes

/-- Saving what was read leaves the bytes of the file, and succeeds where the system refuses nothing. -/
def WritesBack (w : Outside) : Prop :=
  ∀ (d : Disk) (request : Request) (candidate path : Path) (s : Snapshot) (io : Io),
    d.target request = .ok (candidate, path) → snapshot w d path = .ok s →
    let saved := execute w d { request with text := some s.text, expectedVersion := some s.version } (some io)
    execute w d request none = (d, .value s.value) ∧ d.bytesAt path = some s.bytes ∧ saved.1.bytesAt path = some s.bytes ∧
      (io.GoesWell d → io.openable = true → ∃ v, saved.2 = .value v)

/-- After a save that succeeded the file can be read, and gives the text, with a mark where it had one, where its mark is its own
or the text does not start with one. -/
def ReadsBack (w : Outside) : Prop :=
  ∀ (d d' : Disk) (request : Request) (io : Io) (v : FileValue), execute w d request (some io) = (d', .value v) →
    ∃ candidate path text before after, d.target request = .ok (candidate, path) ∧ snapshot w d path = .ok before ∧
      request.text = some text ∧ d'.target request = .ok (candidate, path) ∧ snapshot w d' path = .ok after ∧
      execute w d' request none = (d', .value after.value) ∧
      ((after.text = text ∧ after.bom = before.bom) ↔ (before.bom = true ∨ text.toList.head? ≠ some byteOrderMark))

/-- A save from another version than the current one changes nothing and returns the current value. -/
def RefusesStale (w : Outside) : Prop :=
  ∀ (d : Disk) (request : Request) (io : Io) (candidate path : Path) (s : Snapshot) (expected : String),
    d.target request = .ok (candidate, path) → snapshot w d path = .ok s → request.expectedVersion = some expected →
    s.version ≠ expected → execute w d request (some io) = (d, .conflict s.value)

variable {d : Disk}

theorem target_request {request request' : Request} (hcandidate : request'.candidate = request.candidate)
    (hpath : request'.path = request.path) : d.target request' = d.target request := by
  unfold Disk.target
  rw [hcandidate, hpath]

theorem refusesStale (w : Outside) : RefusesStale w := by
  intro d request io candidate path s expected htarget hs hexpected hne
  unfold execute
  rw [htarget]
  dsimp only
  rw [hs]
  dsimp only
  unfold save
  rw [hexpected]
  exact if_pos hne

theorem snapshot_replaced {io : Io} {mode : Nat} {output : ByteArray} {path : Path} {decoded : Decoded}
    {parent : Nat × Nat} (hfree : d.nodes.find? io.temporary = none) (hopen : io.openable = true) (hmode : readonly mode = false)
    (hsize : output.size ≤ maxTextBytes) (hdecoded : decode output = .ok decoded) (hparent : d.parent path = some parent) :
    snapshot w (d.replaced io mode output path) path =
      .ok (snapshotOf w path parent { io.node mode output with path := path } decoded) := by
  refine snapshot_eq_ok.2 ⟨_, decoded, parent, find?_replaced hfree, ⟨rfl, hmode, rfl, hopen, hsize⟩, hdecoded, ?_, rfl⟩
  rw [replaced_parent, hparent]

theorem writesBack (w : Outside) : WritesBack w := by
  intro d request candidate path s io htarget hs
  obtain ⟨node, decoded, parent, hnode, heditable, hdecoded, hparent, rfl⟩ := snapshot_eq_ok.1 hs
  have hbytes : d.bytesAt path = some node.bytes := by
    rw [Disk.bytesAt, hnode]
    rfl
  have hencode : encode decoded.bom decoded.crlf decoded.text = node.bytes := encode_decode hdecoded
  intro saved
  refine ⟨execute_read.2 ⟨rfl, candidate, path, _, htarget, hs, rfl⟩, hbytes, ?_⟩
  let s := snapshotOf w path parent node decoded
  have htarget' : d.target { request with text := some s.text, expectedVersion := some s.version } = .ok (candidate, path) :=
    (target_request rfl rfl).trans htarget
  have hreplace : saved = replaceFile w d candidate path s.version s node.bytes io := by
    obtain ⟨hzero, hreturn⟩ := decode_chars hdecoded
    show execute w d _ _ = _
    unfold execute
    rw [htarget']
    dsimp only
    rw [hs]
    exact save_eq rfl rfl hzero hreturn hencode heditable.size
  obtain ⟨hdisk, -, hnot⟩ | ⟨hwell, hdisk, hreply⟩ := replaceFile_cases hs (target_ok htarget).2.1 hreplace.symm
  · exact ⟨by rw [hdisk, hbytes]; rfl, fun hwell _ => absurd hwell hnot⟩
  refine ⟨?_, fun _ hopen => ?_⟩
  · rw [hdisk, Disk.bytesAt, find?_replaced hwell.free]
    rfl
  · have hafter := @snapshot_replaced w d io node.mode node.bytes path decoded parent hwell.free hopen heditable.writable
      heditable.size hdecoded hparent
    obtain ⟨after, -, -, hvalue⟩ | ⟨hother, -⟩ := hreply
    · exact ⟨after.value, hvalue⟩
    rw [hdisk] at hother
    exact absurd rfl (hother _ hafter)

theorem readsBack (w : Outside) : ReadsBack w := by
  intro d d' request io v h
  obtain ⟨candidate, path, text, before, after, hsaved⟩ := execute_saved h
  have htarget : d'.target request = .ok (candidate, path) := by
    rw [← hsaved.target, hsaved.disk]
    exact target_congr replaced_canonicalize request
  refine ⟨candidate, path, text, before, after, hsaved.target, hsaved.read, hsaved.sends, htarget, hsaved.readAgain,
    execute_read.2 ⟨rfl, candidate, path, after, htarget, hsaved.readAgain, rfl⟩, ?_⟩
  obtain ⟨node, decoded, parent, hnode, -, hdecoded, -, hafter⟩ := snapshot_eq_ok.1 hsaved.readAgain
  have hbytes : node.bytes = encode before.bom before.crlf text := by
    rw [← hsaved.written, hafter]
    rfl
  have htext : after.text = decoded.text := by rw [hafter]; rfl
  have hbom : after.bom = decoded.bom := by rw [hafter]; rfl
  rw [hbytes] at hdecoded
  rw [htext, hbom]
  constructor
  · rintro ⟨-, hmark⟩
    cases hbefore : before.bom with
    | true => exact .inl rfl
    | false =>
      refine .inr fun htaken => ?_
      rw [hbefore] at hdecoded hmark
      rw [decode_taken htaken hdecoded] at hmark
      cases hmark
  · intro hmark
    obtain ⟨crlf, hread⟩ := @decode_encode before.bom before.crlf text hsaved.noZero hsaved.noReturn hmark
    cases hdecoded.symm.trans hread
    exact ⟨rfl, rfl⟩

/-! ## Runs -/

inductive Action where
  | read (request : Request)
  | save (request : Request) (io : Io)
  | replace (disk : Disk)

def step (w : Outside) (d : Disk) : Action → Disk
  | .read request => (execute w d request none).1
  | .save request io => (execute w d request (some io)).1
  | .replace disk => disk

def Reply.isValue : Reply → Bool
  | .value _ => true
  | _ => false

theorem Reply.eq_value {reply : Reply} (h : reply.isValue = true) : ∃ v, reply = .value v := by
  cases reply with
  | value v => exact ⟨v, rfl⟩
  | failure code => cases h
  | conflict current => cases h

def Disk.targets (d : Disk) (request : Request) (path : Path) : Bool :=
  match d.target request with
  | .ok (_, target) => target = path
  | .error _ => false

def succeeds (w : Outside) (path : Path) (version : String) (d : Disk) : Action → Bool
  | .save request io => request.expectedVersion = some version && d.targets request path &&
      (execute w d request (some io)).2.isValue
  | _ => false

def successes (w : Outside) (path : Path) (version : String) : Disk → List Action → Nat
  | _, [] => 0
  | d, a :: as => (if succeeds w path version d a then 1 else 0) + successes w path version (step w d a) as

def Disk.imprintAt (w : Outside) (d : Disk) (path : Path) : Option ByteArray :=
  match snapshot w d path, d.nodes.find? path with
  | .ok s, some node => some (w.imprint s.key node)
  | _, _ => none

def Disk.versionAt (w : Outside) (d : Disk) (path : Path) : Option String :=
  match snapshot w d path with
  | .ok s => some s.version
  | .error _ => none

def NeverReturns (w : Outside) (path : Path) (version : String) (d : Disk) (actions : List Action) : Prop :=
  ∀ as bs cs, as ++ bs ++ cs <+: actions → (as.foldl (step w) d).versionAt w path = some version →
    ((as ++ bs).foldl (step w) d).versionAt w path ≠ some version →
    ((as ++ bs ++ cs).foldl (step w) d).versionAt w path ≠ some version

def NoCollision (w : Outside) (path : Path) (d : Disk) (actions : List Action) : Prop :=
  ∀ as bs x y, as <+: actions → bs <+: actions → (as.foldl (step w) d).imprintAt w path = some x →
    (bs.foldl (step w) d).imprintAt w path = some y → w.sha256 x = w.sha256 y → x = y

def SavesOnce (w : Outside) : Prop :=
  ∀ (d : Disk) (actions : List Action) (path : Path) (version : String), NoCollision w path d actions →
    NeverReturns w path version d actions → successes w path version d actions ≤ 1

variable {path : Path} {version : String}

theorem imprintAt_eq {s : Snapshot} {node : Node} (hs : snapshot w d path = .ok s)
    (hnode : d.nodes.find? path = some node) : d.imprintAt w path = some (w.imprint s.key node) := by
  rw [Disk.imprintAt, hs, hnode]

theorem versionAt_eq {s : Snapshot} (hs : snapshot w d path = .ok s) : d.versionAt w path = some s.version := by
  rw [Disk.versionAt, hs]

/-- **A save that succeeds starts at the version and leaves another imprint.** -/
theorem succeeds_true (hpermissions : ∀ mode, (w.debugPermissions mode).toList.head? = some 'P') {a : Action}
    (h : succeeds w path version d a = true) : d.versionAt w path = some version ∧
      ∃ x y, d.imprintAt w path = some x ∧ (step w d a).imprintAt w path = some y ∧ x ≠ y ∧ version = w.sha256 x ∧
        (step w d a).versionAt w path = some (w.sha256 y) := by
  cases a with
  | read request => cases h
  | replace disk => cases h
  | save request io =>
    unfold succeeds at h
    rw [Bool.and_eq_true, Bool.and_eq_true, decide_eq_true_eq] at h
    obtain ⟨⟨hexpected, htargets⟩, hvalue⟩ := h
    obtain ⟨v, hreply⟩ := Reply.eq_value hvalue
    have hv : execute w d request (some io) = ((execute w d request (some io)).1, .value v) := Prod.ext rfl hreply
    have hstep : step w d (.save request io) = (execute w d request (some io)).1 := rfl
    rw [hstep]
    generalize (execute w d request (some io)).1 = d' at hv
    obtain ⟨candidate, path', text, before, after, hsaved⟩ := execute_saved hv
    obtain rfl : path' = path := by
      unfold Disk.targets at htargets
      rw [hsaved.target] at htargets
      exact of_decide_eq_true htargets
    obtain rfl : before.version = version := Option.mem_unique hsaved.expects hexpected
    obtain ⟨node, decoded, parent, hnode, -, -, hparent, hbefore⟩ := snapshot_eq_ok.1 hsaved.read
    obtain ⟨node', decoded', parent', hnode', -, -, hparent', hafter⟩ := snapshot_eq_ok.1 hsaved.readAgain
    have hfresh := admits_iff.1 hsaved.wentWell.admitted
    have hparents : parent' = parent := by
      rw [hsaved.disk, replaced_parent, hparent] at hparent'
      exact (Option.some.inj hparent').symm
    have hidentity : ¬ (node.dev = node'.dev ∧ node.ino = node'.ino) := by
      have hwritten := hnode'
      rw [hsaved.disk, find?_replaced hfresh.1] at hwritten
      rw [← Option.some.inj hwritten]
      exact hfresh.2 path' node hnode
    have hkeys : after.key = before.key := by
      rw [hbefore, hafter, hparents]
      rfl
    have hne := @imprint_ne w hpermissions before.key node node' hidentity
    refine ⟨versionAt_eq hsaved.read, _, _, imprintAt_eq hsaved.read hnode, imprintAt_eq hsaved.readAgain hnode', ?_, ?_, ?_⟩
    · rw [hkeys]
      exact hne
    · rw [hbefore]
      rfl
    · rw [versionAt_eq hsaved.readAgain, hafter]
      rfl

theorem successes_eq_zero (hpermissions : ∀ mode, (w.debugPermissions mode).toList.head? = some 'P') :
    ∀ (actions : List Action) (d : Disk), (∀ as, as <+: actions → (as.foldl (step w) d).versionAt w path ≠ some version) →
      successes w path version d actions = 0
  | [], _, _ => rfl
  | a :: actions, d, h => by
    have hno : ¬ succeeds w path version d a = true := fun hyes =>
      h [] nil_prefix (succeeds_true hpermissions hyes).1
    rw [successes, if_neg hno, successes_eq_zero hpermissions actions (step w d a) fun as hpre => h (a :: as) (cons_prefix_cons.2 ⟨rfl, hpre⟩)]

theorem savesOnce (hpermissions : ∀ mode, (w.debugPermissions mode).toList.head? = some 'P') : SavesOnce w := by
  intro d actions path version hcollision hreturns
  induction actions generalizing d with
  | nil => exact Nat.zero_le 1
  | cons a actions ih =>
    rw [successes]
    by_cases hyes : succeeds w path version d a = true
    · obtain ⟨hversion, x, y, hx, hy, hne, rfl, hafter⟩ := succeeds_true hpermissions hyes
      have hleft : (step w d a).versionAt w path ≠ some (w.sha256 x) := by
        rw [hafter]
        intro heq
        exact hne (hcollision [] [a] x y nil_prefix (cons_prefix_cons.2 ⟨rfl, nil_prefix⟩) hx hy
          (Option.some.inj heq).symm)
      have hzero := @successes_eq_zero w path (w.sha256 x) hpermissions actions (step w d a) fun as hpre =>
        hreturns [] [a] as (cons_prefix_cons.2 ⟨rfl, hpre⟩) hversion hleft
      rw [if_pos hyes]
      omega
    · rw [if_neg hyes, Nat.zero_add]
      refine ih (step w d a) ?_ ?_
      · intro as bs x y has hbs
        exact hcollision (a :: as) (a :: bs) x y (cons_prefix_cons.2 ⟨rfl, has⟩) (cons_prefix_cons.2 ⟨rfl, hbs⟩)
      · intro as bs cs hpre
        exact hreturns (a :: as) bs cs (cons_prefix_cons.2 ⟨rfl, hpre⟩)

/-! ## All of it -/

/-- **Optimistic edits**: what was read is written back byte by byte; a text that was saved is read back, with the mark as before,
exactly where the file has a mark or the text does not start with one; a save from another version changes nothing and returns the
current value; and a version that the file does not come back to is saved from once. -/
theorem edits_faithful (w : Outside) (hpermissions : ∀ mode, (w.debugPermissions mode).toList.head? = some 'P') :
    WritesBack w ∧ ReadsBack w ∧ RefusesStale w ∧ SavesOnce w :=
  ⟨writesBack w, readsBack w, refusesStale w, savesOnce hpermissions⟩

def plainOutside : Outside where
  sha256 bytes := String.ofList (bytes.data.toList.map fun b => Char.ofNat b.toNat)
  debugPermissions mode := "Permissions(FilePermissions \x7b mode: " ++ toString mode ++ " \x7d)"

theorem edits_faithful_plain : WritesBack plainOutside ∧ ReadsBack plainOutside ∧ RefusesStale plainOutside ∧ SavesOnce plainOutside :=
  edits_faithful plainOutside fun mode => by
    show (("Permissions(FilePermissions \x7b mode: " ++ toString mode ++ " \x7d)").toList).head? = some 'P'
    rw [String.toList_append, String.toList_append]
    rfl

/-! ## A text that starts with a mark -/

def Disk.readAt (w : Outside) (d : Disk) (path : Path) : Option (String × Bool) :=
  match snapshot w d path with
  | .ok s => some (s.text, s.bom)
  | .error _ => none

def notes : Path := "/camp/notes.md"

def notesDisk : Disk where
  nodes := ⟨[⟨notes, 1, 10, true, 0o644, 1, true, "abc".toByteArray⟩], by decide⟩
  canonicalize := some
  parent _ := some (1, 2)

def markedSave : Request where
  candidate := .ok notes
  path := notes
  text := some (String.ofList [byteOrderMark, 'x'])
  expectedVersion := notesDisk.versionAt plainOutside notes

def freshIo : Io := ⟨"/camp/.rovai-save-1", 1, 11, true, true, true, true⟩

/-- A file without a mark takes the first character of the text as its own. -/
theorem markedText_notReadBack : ¬ ∀ (d : Disk) (request : Request) (io : Io) (v : FileValue) (candidate path : Path)
    (text before : String) (bom : Bool), (execute plainOutside d request (some io)).2 = .value v →
      d.target request = .ok (candidate, path) → request.text = some text → d.readAt plainOutside path = some (before, bom) →
      (execute plainOutside d request (some io)).1.readAt plainOutside path = some (text, bom) := by
  intro h
  have hvalue : (execute plainOutside notesDisk markedSave (some freshIo)).2.isValue = true := by decide
  have hread : notesDisk.readAt plainOutside notes = some ("abc", false) := by decide
  have hafter : (execute plainOutside notesDisk markedSave (some freshIo)).1.readAt plainOutside notes = some ("x", true) := by
    decide
  obtain ⟨v, hreply⟩ := Reply.eq_value hvalue
  have hclaimed := h notesDisk markedSave freshIo v notes notes _ "abc" false hreply rfl rfl hread
  rw [hafter] at hclaimed
  exact absurd (congrArg (Option.map Prod.snd) hclaimed) (by decide)

end Rovai.FileEdit
