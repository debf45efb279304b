import RovaiCore.TextWords
import Mathlib.Data.List.Nodup
/-!
# The change list of a Mission (`parse_changes`)

Git prints one stream of NUL-terminated tokens: the raw records, then the counts, then an empty token before a patch.
-/
namespace Rovai.MissionChanges

open Lines (Text)
open List

abbrev Bytes := List UInt8

inductive Failure
  | error (message : String)
  | panic

structure MissionChangedFile where
  (id path : String)
  oldPath : Option String
  kind : String
  (additions deletions : Option Nat)
  binary : Bool
  (oldMode newMode : Text)
  rawPaths : List Bytes

/-- `Sha256::digest` in hexadecimal, and `String::from_utf8_lossy`. -/
structure Library where
  (sha256Hex lossy : Bytes → String)

def utf8 (t : Text) : Bytes := t.flatMap String.utf8EncodeChar

def fromUtf8 (bytes : Bytes) : Option Text := (String.fromUTF8? bytes.toByteArray).map String.toList

/-! ## The parser -/

def rawKind : Text → Except Failure String
  | [] => .error .panic
  | 'A' :: _ => .ok "added"
  | 'D' :: _ => .ok "deleted"
  | 'R' :: _ => .ok "renamed"
  | 'C' :: _ => .ok "copied"
  | 'T' :: _ => .ok "type_changed"
  | 'U' :: _ => .ok "unmerged"
  | _ => .ok "modified"

variable (lib : Library)

def rawFile (oldMode newMode status : Text) (path : Bytes) (oldPath : Option Bytes) (rawPaths : List Bytes) :
    Except Failure MissionChangedFile :=
  (rawKind status).map fun kind => {
    id := lib.sha256Hex path
    path := lib.lossy path
    oldPath := oldPath.map lib.lossy
    kind
    additions := some 0
    deletions := some 0
    binary := false
    oldMode
    newMode
    rawPaths }

/-- The tokens that are left, the files, and the index of each path, the latest first. -/
structure RawChanges where
  tokens : List Bytes
  files : List MissionChangedFile
  indices : List (Bytes × Nat)

def rawFields (head : Bytes) : Except Failure (Text × Text × Text) :=
  match (fromUtf8 head).map (wordsFrom []) with
  | none => .error (.error "invalid utf-8 sequence")
  | some [oldMode, newMode, _, _, status] => .ok (oldMode, newMode, status)
  | some _ => .error (.error "mission.invalid_raw_diff")

def parseRaw (lib : Library) : List Bytes → List MissionChangedFile → List (Bytes × Nat) → Except Failure RawChanges
  | [], files, indices => .ok ⟨[], files, indices⟩
  | token :: rest, files, indices =>
    if token.head? ≠ some 58 then .ok ⟨token :: rest, files, indices⟩
    else match rawFields token.tail with
      | .error failure => .error failure
      | .ok (oldMode, newMode, status) => match rest with
        | [] => .error (.error "mission.invalid_raw_path")
        | first :: rest =>
          if status.head? = some 'R' ∨ status.head? = some 'C' then match rest with
            | [] => .error (.error "mission.invalid_rename")
            | next :: rest =>
              (rawFile lib oldMode newMode status next (some first) [first, next]).bind fun file =>
                parseRaw lib rest (files ++ [file]) ((next, files.length) :: indices)
          else (rawFile lib oldMode newMode status first none [first]).bind fun file =>
            parseRaw lib rest (files ++ [file]) ((first, files.length) :: indices)

def cutAtTab (token : Bytes) : Option (Bytes × Bytes) :=
  if 9 ∈ token then some (token.takeWhile (· != 9), (token.dropWhile (· != 9)).tail) else none

def numstatFields (token : Bytes) : Option (Bytes × Bytes × Bytes) :=
  (cutAtTab token).bind fun (added, rest) => (cutAtTab rest).map fun (deleted, path) => (added, deleted, path)

def parseCount (field : Bytes) : Except Failure (Option Nat) :=
  match fromUtf8 field with
  | none => .error (.error "invalid utf-8 sequence")
  | some t => match parseU64 t with
    | none => .error (.error "invalid digit found in string")
    | some n => .ok (some n)

def countFile (added deleted : Bytes) (file : MissionChangedFile) : Except Failure MissionChangedFile :=
  let binary := added == [45] || deleted == [45]
  if binary then .ok { file with binary, additions := none, deletions := none }
  else (parseCount added).bind fun additions => (parseCount deleted).map fun deletions =>
    { file with binary, additions, deletions }

def countPath (indices : List (Bytes × Nat)) (added deleted path : Bytes) (files : List MissionChangedFile) :
    Except Failure (List MissionChangedFile) :=
  match indices.lookup path with
  | none => .error (.error "mission.diff_changed_during_query")
  | some i => match files[i]? with
    | none => .error .panic
    | some file => (countFile added deleted file).map (files.set i)

def parseNumstat (indices : List (Bytes × Nat)) : List Bytes → List MissionChangedFile → Except Failure (List MissionChangedFile)
  | [], files => .ok files
  | token :: rest, files =>
    if token.isEmpty then .ok files
    else match numstatFields token with
      | none => .error (.error "mission.invalid_numstat")
      | some (added, deleted, path) =>
        if path.isEmpty then match rest with
          | _ :: next :: rest =>
            (countPath indices added deleted next files).bind fun files => parseNumstat indices rest files
          | _ => .error (.error "mission.invalid_numstat_rename")
        else (countPath indices added deleted path files).bind fun files => parseNumstat indices rest files

def parseChanges (bytes : Bytes) : Except Failure (List MissionChangedFile) :=
  (parseRaw lib (bytes.splitOn 0) [] []).bind fun raw => parseNumstat raw.indices raw.tokens raw.files

def doubleNul : Bytes → Option Nat
  | a :: b :: rest => if a = 0 ∧ b = 0 then some 0 else (doubleNul (b :: rest)).map (· + 1)
  | _ => none

def splitRecords (bytes : Bytes) : Option (Bytes × Bytes) :=
  (doubleNul bytes).map fun boundary => (bytes.take (boundary + 1), bytes.drop (boundary + 2))

/-! ## What git prints -/

abbrev Word := { t : Text // t ≠ [] ∧ ∀ c ∈ t, 32 < c.toNat ∧ c.toNat < 127 }
abbrev RawPath := { b : Bytes // b ≠ [] ∧ 0 ∉ b }

inductive Change
  | added
  | deleted
  | modified
  | typeChanged
  | renamed (score : Word) (old : RawPath)
  | copied (score : Word) (old : RawPath)

inductive Counts
  | text (additions deletions : { n : Nat // n < 2 ^ 64 })
  | binary

structure Entry where
  (oldMode newMode oldId newId : Word)
  change : Change
  path : RawPath
  counts : Counts

def Change.status : Change → Text
  | .added => ['A']
  | .deleted => ['D']
  | .modified => ['M']
  | .typeChanged => ['T']
  | .renamed score _ => 'R' :: score.1
  | .copied score _ => 'C' :: score.1

def Change.kind : Change → String
  | .added => "added"
  | .deleted => "deleted"
  | .modified => "modified"
  | .typeChanged => "type_changed"
  | .renamed _ _ => "renamed"
  | .copied _ _ => "copied"

def Change.old : Change → Option Bytes
  | .renamed _ old | .copied _ old => some old.1
  | _ => none

def Counts.additions : Counts → Option Nat
  | .text additions _ => some additions.1
  | .binary => none

def Counts.deletions : Counts → Option Nat
  | .text _ deletions => some deletions.1
  | .binary => none

def printCount : Option Nat → Text
  | some n => Nat.toDigits 10 n
  | none => ['-']

variable (e : Entry)

def Entry.head : Text :=
  e.oldMode.1 ++ ' ' :: (e.newMode.1 ++ ' ' :: (e.oldId.1 ++ ' ' :: (e.newId.1 ++ ' ' :: e.change.status)))

def Entry.rawTokens : List Bytes := (58 :: utf8 e.head) :: (e.change.old.toList ++ [e.path.1])

def Entry.countsToken : Bytes :=
  utf8 (printCount e.counts.additions) ++ 9 :: (utf8 (printCount e.counts.deletions) ++ [9])

def Entry.statTokens : List Bytes :=
  match e.change.old with
  | some old => [e.countsToken, old, e.path.1]
  | none => [e.countsToken ++ e.path.1]

def tokens (entries : List Entry) : List Bytes := entries.flatMap Entry.rawTokens ++ entries.flatMap Entry.statTokens

def encode (entries : List Entry) : Bytes := (tokens entries).flatMap (· ++ [0])

def Entry.listed : MissionChangedFile where
  id := lib.sha256Hex e.path.1
  path := lib.lossy e.path.1
  oldPath := e.change.old.map lib.lossy
  kind := e.change.kind
  additions := some 0
  deletions := some 0
  binary := false
  oldMode := e.oldMode.1
  newMode := e.newMode.1
  rawPaths := e.change.old.toList ++ [e.path.1]

def Entry.file : MissionChangedFile :=
  { e.listed lib with
    additions := e.counts.additions
    deletions := e.counts.deletions
    binary := e.counts.additions.isNone }

structure Lossless (lib : Library) : Prop where
  parsed : ∀ entries : List Entry, (entries.map Entry.path).Nodup →
    parseChanges lib (encode entries) = .ok (entries.map (Entry.file lib))
  split : ∀ (entries : List Entry) (patch : Bytes), entries ≠ [] →
    splitRecords (encode entries ++ 0 :: patch) = some (encode entries, patch)
  total : ∀ bytes : Bytes, parseChanges lib bytes ≠ .error .panic

/-! ## Texts and bytes -/

theorem fromUtf8_utf8 (t : Text) : fromUtf8 (utf8 t) = some t := by
  have hbytes : (utf8 t).toByteArray = (String.ofList t).toByteArray := by
    rw [String.toByteArray_ofList]
    rfl
  rw [fromUtf8, hbytes, String.fromUTF8?, dif_pos (String.ofList t).isValidUTF8]
  exact congrArg some String.toList_ofList

theorem utf8_append (s t : Text) : utf8 (s ++ t) = utf8 s ++ utf8 t := flatMap_append

variable {b : UInt8} {t : Text}

theorem mem_utf8 (ht : ∀ c ∈ t, c.toNat < 128) (h : b ∈ utf8 t) : ∃ c ∈ t, b.toNat = c.toNat := by
  obtain ⟨c, hc, hb⟩ := mem_flatMap.1 h
  have hlt : c.val.toNat < 128 := ht c hc
  rw [String.utf8EncodeChar, if_pos (by omega), mem_singleton] at hb
  refine ⟨c, hc, ?_⟩
  rw [hb, UInt8.toNat_ofNat']
  exact Nat.mod_eq_of_lt (Nat.lt_trans hlt (by decide))

def Printable (t : Text) : Prop := ∀ c ∈ t, 32 ≤ c.toNat ∧ c.toNat < 127

theorem Printable.append {s t : Text} (hs : Printable s) (ht : Printable t) : Printable (s ++ t) :=
  fun c hc => (mem_append.1 hc).elim (hs c) (ht c)

theorem Word.printable (w : Word) : Printable w.1 := fun c hc => ⟨Nat.le_of_lt (w.2.2 c hc).1, (w.2.2 c hc).2⟩

theorem notMem_utf8 (ht : Printable t) (hb : b.toNat < 32) : b ∉ utf8 t := by
  intro h
  obtain ⟨c, hc, hbc⟩ := mem_utf8 (fun c hc => Nat.lt_succ_of_lt (ht c hc).2) h
  have hlow := (ht c hc).1
  omega

theorem Word.notWhitespace (w : Word) : ∀ c ∈ w.1, isWhitespace c = false := by
  intro c hc
  have hplain := w.2.2 c hc
  simp [isWhitespace]
  omega

theorem Change.status_plain (change : Change) : change.status ≠ [] ∧ ∀ c ∈ change.status, 32 < c.toNat ∧ c.toNat < 127 := by
  cases change with
  | renamed score =>
    exact ⟨cons_ne_nil _ _, forall_mem_cons.2 ⟨by decide, score.2.2⟩⟩
  | copied score =>
    exact ⟨cons_ne_nil _ _, forall_mem_cons.2 ⟨by decide, score.2.2⟩⟩
  | _ => exact ⟨cons_ne_nil _ _, by simp [Change.status]⟩

def Change.word (change : Change) : Word := ⟨change.status, change.status_plain⟩

theorem Entry.head_printable (e : Entry) : Printable e.head := by
  have hblank : Printable [' '] := by simp [Printable]
  exact e.oldMode.printable.append (hblank.append (e.newMode.printable.append (hblank.append (e.oldId.printable.append
    (hblank.append (e.newId.printable.append (hblank.append e.change.word.printable)))))))

variable (n : Option Nat)

theorem printCount_chars : ∀ c ∈ printCount n, c.isDigit = true ∨ c = '-' := by
  intro c hc
  cases n with
  | none => exact .inr (mem_singleton.1 hc)
  | some n => exact .inl (isDigit_of_mem c hc)

theorem printCount_printable : Printable (printCount n) := by
  intro c hc
  rcases printCount_chars n c hc with hdigit | rfl
  · have hrange := digit_range hdigit
    omega
  · decide

theorem printCount_ne_nil : printCount n ≠ [] := by
  cases n with
  | none => exact cons_ne_nil _ _
  | some n => exact Nat.toDigits_ne_nil

theorem utf8_ne_nil (h : t ≠ []) : utf8 t ≠ [] := by
  obtain ⟨c, cs, rfl⟩ := exists_cons_of_ne_nil h
  exact fun hnil => String.utf8EncodeChar_ne_nil (append_eq_nil_iff.1 hnil).1

/-! ## Tokens -/

theorem splitOn_terminated : ∀ ts : List Bytes, (∀ t ∈ ts, 0 ∉ t) → (ts.flatMap (· ++ [0])).splitOn 0 = ts ++ [[]]
  | [], _ => rfl
  | t :: ts, h => by
    have hrest := splitOn_terminated ts fun t ht => h t (mem_cons_of_mem _ ht)
    have hfree : ∀ b ∈ t, (b == 0) = false := fun b hb => beq_false_of_ne fun heq => h t mem_cons_self (heq ▸ hb)
    rw [flatMap_cons, append_assoc, singleton_append, splitOn_eq_splitOnP,
      splitOnP_append_cons_of_forall_mem hfree 0 rfl, ← splitOn_eq_splitOnP, hrest]
    rfl

theorem Change.old_path {change : Change} {old : Bytes} (h : change.old = some old) : old ≠ [] ∧ 0 ∉ old := by
  cases change with
  | renamed score p =>
    cases h
    exact p.2
  | copied score p =>
    cases h
    exact p.2
  | _ => cases h

theorem Entry.countsToken_plain (e : Entry) : e.countsToken ≠ [] ∧ 0 ∉ e.countsToken ∧ e.countsToken.head? ≠ some 58 := by
  have hfree := fun n => notMem_utf8 (printCount_printable n) (b := 0) (by decide)
  obtain ⟨b, bs, hb⟩ := exists_cons_of_ne_nil (utf8_ne_nil (printCount_ne_nil e.counts.additions))
  refine ⟨by simp [countsToken], by simp [countsToken, hfree], ?_⟩
  rw [countsToken, hb, cons_append, head?_cons, Ne, Option.some.injEq]
  rintro rfl
  obtain ⟨c, hc, hval⟩ := mem_utf8 (fun c hc => Nat.lt_succ_of_lt (printCount_printable _ c hc).2)
    (hb ▸ mem_cons_self : (58 : UInt8) ∈ utf8 (printCount e.counts.additions))
  have h58 : (58 : UInt8).toNat = 58 := rfl
  rcases printCount_chars _ c hc with hdigit | rfl
  · have hrange := digit_range hdigit
    omega
  · exact absurd hval (by decide)

theorem Entry.rawTokens_plain (e : Entry) : ∀ t ∈ e.rawTokens, t ≠ [] ∧ 0 ∉ t := by
  have hhead : (0 : UInt8) ∉ utf8 e.head := notMem_utf8 e.head_printable (by decide)
  intro t ht
  rcases mem_cons.1 ht with rfl | ht
  · exact ⟨cons_ne_nil _ _, by simpa using hhead⟩
  · rcases mem_append.1 ht with ht | ht
    · exact Change.old_path (Option.mem_toList.1 ht)
    · rw [mem_singleton.1 ht]
      exact e.path.2

theorem Entry.statTokens_plain (e : Entry) : ∀ t ∈ e.statTokens, t ≠ [] ∧ 0 ∉ t := by
  have hcounts := e.countsToken_plain
  intro t ht
  rw [statTokens] at ht
  split at ht
  · rename_i old hold
    simp only [mem_cons, not_mem_nil, or_false] at ht
    rcases ht with rfl | rfl | rfl
    · exact ⟨hcounts.1, hcounts.2.1⟩
    · exact Change.old_path hold
    · exact e.path.2
  · rw [mem_singleton.1 ht]
    exact ⟨by simp [hcounts.1], by simp [hcounts.2.1, e.path.2.2]⟩

theorem tokens_plain (entries : List Entry) : ∀ t ∈ tokens entries, t ≠ [] ∧ 0 ∉ t := by
  intro t ht
  rcases mem_append.1 ht with ht | ht
  · obtain ⟨e, -, ht⟩ := mem_flatMap.1 ht
    exact e.rawTokens_plain t ht
  · obtain ⟨e, -, ht⟩ := mem_flatMap.1 ht
    exact e.statTokens_plain t ht

/-! ## The raw records -/

variable (lib : Library)

theorem rawFields_head (e : Entry) : rawFields (utf8 e.head) = .ok (e.oldMode.1, e.newMode.1, e.change.status) := by
  have hword := fun (w : Word) rest => wordsFrom_word w.1 [] rest w.notWhitespace w.2.1
  have hlast := wordsFrom_last e.change.status [] e.change.word.notWhitespace e.change.status_plain.1
  have hwords : wordsFrom [] e.head = [e.oldMode.1, e.newMode.1, e.oldId.1, e.newId.1, e.change.status] := by
    simp [Entry.head, hword, hlast]
  rw [rawFields, fromUtf8_utf8, Option.map_some, hwords]

theorem parseRaw_entry (e : Entry) (rest : List Bytes) (files : List MissionChangedFile) (indices : List (Bytes × Nat)) :
    parseRaw lib (e.rawTokens ++ rest) files indices =
      parseRaw lib rest (files ++ [e.listed lib]) ((e.path.1, files.length) :: indices) := by
  have hfields : rawFields (58 :: utf8 e.head).tail = _ := rawFields_head e
  rw [Entry.rawTokens, cons_append, parseRaw, if_neg (by simp), hfields]
  cases hchange : e.change <;> simp [Change.old, Change.status, rawFile, rawKind, Except.map, Except.bind, Entry.listed,
    Change.kind, hchange]

def indexed : Nat → List Entry → List (Bytes × Nat) → List (Bytes × Nat)
  | _, [], indices => indices
  | n, e :: entries, indices => indexed (n + 1) entries ((e.path.1, n) :: indices)

theorem parseRaw_entries {rest : List Bytes} (hrest : ∀ t ∈ rest.head?, t.head? ≠ some 58) :
    ∀ (entries : List Entry) (files : List MissionChangedFile) (indices : List (Bytes × Nat)),
    parseRaw lib (entries.flatMap Entry.rawTokens ++ rest) files indices =
      .ok ⟨rest, files ++ entries.map (Entry.listed lib), indexed files.length entries indices⟩
  | [], files, indices => by
    rw [flatMap_nil, nil_append, map_nil, append_nil]
    cases rest with
    | nil => rfl
    | cons t rest => rw [parseRaw, if_pos (hrest t rfl)]; rfl
  | e :: entries, files, indices => by
    rw [flatMap_cons, append_assoc, parseRaw_entry, parseRaw_entries hrest entries, length_append]
    simp [indexed]

theorem lookup_indexed_of_notMem {p : Bytes} : ∀ (entries : List Entry) (n : Nat) (indices : List (Bytes × Nat)),
    (∀ e ∈ entries, e.path.1 ≠ p) → (indexed n entries indices).lookup p = indices.lookup p
  | [], _, _, _ => rfl
  | e :: entries, n, indices, h => by
    rw [indexed, lookup_indexed_of_notMem entries _ _ fun x hx => h x (mem_cons_of_mem _ hx), lookup_cons,
      beq_false_of_ne (h e mem_cons_self).symm]

theorem lookup_indexed (e : Entry) (after : List Entry) (hafter : ∀ x ∈ after, x.path.1 ≠ e.path.1) :
    ∀ (before : List Entry) (n : Nat) (indices : List (Bytes × Nat)),
    (indexed n (before ++ e :: after) indices).lookup e.path.1 = some (n + before.length)
  | [], n, indices => by
    rw [nil_append, indexed, lookup_indexed_of_notMem after _ _ hafter, lookup_cons_self]
    rfl
  | b :: before, n, indices => by
    rw [cons_append, indexed, lookup_indexed e after hafter before, length_cons]
    exact congrArg some (by omega)

/-! ## The counts -/

theorem cutAtTab_append {a : Bytes} (h : 9 ∉ a) (rest : Bytes) : cutAtTab (a ++ 9 :: rest) = some (a, rest) := by
  have hne : ∀ b ∈ a, (b != 9) = true := fun b hb => bne_iff_ne.2 fun heq => h (heq ▸ hb)
  rw [cutAtTab, if_pos (by simp), takeWhile_append_of_pos hne, dropWhile_append_of_pos hne]
  simp

theorem numstatFields_token (e : Entry) (path : Bytes) : numstatFields (e.countsToken ++ path) =
    some (utf8 (printCount e.counts.additions), utf8 (printCount e.counts.deletions), path) := by
  have hfree := fun n => notMem_utf8 (printCount_printable n) (b := 9) (by decide)
  have htoken : e.countsToken ++ path =
      utf8 (printCount e.counts.additions) ++ 9 :: (utf8 (printCount e.counts.deletions) ++ 9 :: path) := by
    simp [Entry.countsToken]
  simp only [htoken, numstatFields, cutAtTab_append (hfree _), Option.bind_some, Option.map_some]

theorem parseCount_print {n : Nat} (h : n < 2 ^ 64) : parseCount (utf8 (printCount (some n))) = .ok (some n) := by
  rw [parseCount, fromUtf8_utf8]
  simp [printCount, parseU64_toDigits h]

theorem dash_ne_print (n : Nat) : (utf8 (printCount (some n)) == [45]) = false := by
  refine beq_false_of_ne fun heq => ?_
  obtain ⟨c, hc, hval⟩ := mem_utf8 (fun c hc => Nat.lt_succ_of_lt (printCount_printable (some n) c hc).2)
    (heq ▸ mem_cons_self : (45 : UInt8) ∈ utf8 (printCount (some n)))
  have hrange := digit_range (isDigit_of_mem c hc)
  have h45 : (45 : UInt8).toNat = 45 := rfl
  omega

theorem countFile_listed (e : Entry) : countFile (utf8 (printCount e.counts.additions)) (utf8 (printCount e.counts.deletions))
    (e.listed lib) = .ok (e.file lib) := by
  cases hcounts : e.counts with
  | binary =>
    have hdash : utf8 (printCount none) = [45] := by decide
    simp [countFile, Entry.file, hcounts, Counts.additions, Counts.deletions, hdash]
  | text additions deletions =>
    simp [countFile, Entry.file, hcounts, Counts.additions, Counts.deletions, dash_ne_print, parseCount_print additions.2,
      parseCount_print deletions.2, Except.bind, Except.map]

theorem parseNumstat_entry (indices : List (Bytes × Nat)) (e : Entry) (rest : List Bytes) (done todo : List MissionChangedFile)
    (hindex : indices.lookup e.path.1 = some done.length) :
    parseNumstat indices (e.statTokens ++ rest) (done ++ e.listed lib :: todo) =
      parseNumstat indices rest (done ++ e.file lib :: todo) := by
  have hpath := countFile_listed lib e
  have hcount : countPath indices (utf8 (printCount e.counts.additions)) (utf8 (printCount e.counts.deletions)) e.path.1
      (done ++ e.listed lib :: todo) = .ok (done ++ e.file lib :: todo) := by
    simp [countPath, hindex, hpath, Except.map]
  have hcounts := e.countsToken_plain.1
  cases hold : e.change.old with
  | some old =>
    have hfields := numstatFields_token e []
    rw [append_nil] at hfields
    rw [Entry.statTokens, hold]
    simp [parseNumstat, hcounts, hfields, hcount, Except.bind]
  | none =>
    rw [Entry.statTokens, hold]
    simp [parseNumstat, hcounts, numstatFields_token e, e.path.2.1, hcount, Except.bind]

theorem parseNumstat_entries (indices : List (Bytes × Nat)) : ∀ (entries : List Entry) (done : List MissionChangedFile),
    (∀ before e after, entries = before ++ e :: after → indices.lookup e.path.1 = some (done.length + before.length)) →
    parseNumstat indices (entries.flatMap Entry.statTokens ++ [[]]) (done ++ entries.map (Entry.listed lib)) =
      .ok (done ++ entries.map (Entry.file lib))
  | [], done, _ => rfl
  | e :: entries, done, h => by
    have ih := parseNumstat_entries indices entries (done ++ [e.file lib]) fun before x after hsplit => by
      rw [h (e :: before) x after (congrArg (e :: ·) hsplit), length_append, length_cons, length_singleton]
      exact congrArg some (by omega)
    rw [flatMap_cons, append_assoc, map_cons, parseNumstat_entry lib indices e _ done _ (h [] e entries rfl)]
    simpa using ih

theorem parseChanges_encode (entries : List Entry) (h : (entries.map Entry.path).Nodup) :
    parseChanges lib (encode entries) = .ok (entries.map (Entry.file lib)) := by
  have hrest : ∀ t ∈ (entries.flatMap Entry.statTokens ++ [[]]).head?, t.head? ≠ some 58 := by
    intro t ht
    cases entries with
    | nil => simp_all
    | cons e entries =>
      have hcounts := e.countsToken_plain
      obtain ⟨b, bs, hb⟩ := exists_cons_of_ne_nil hcounts.1
      cases hold : e.change.old <;> simp [Entry.statTokens, hold] at ht <;> subst ht <;> simpa [hb] using hcounts.2.2
  have hindex : ∀ before e after, entries = before ++ e :: after →
      (indexed 0 entries []).lookup e.path.1 = some ((0 : Nat) + before.length) := by
    rintro before e after rfl
    rw [map_append, map_cons, nodup_append, nodup_cons] at h
    refine lookup_indexed e after (fun x hx heq => h.2.1.1 ?_) before 0 []
    exact Subtype.ext heq ▸ mem_map_of_mem hx
  have hraw := parseRaw_entries lib hrest entries [] []
  rw [parseChanges, encode, splitOn_terminated _ fun t ht => (tokens_plain entries t ht).2, tokens, append_assoc, hraw]
  exact parseNumstat_entries lib _ entries [] hindex

/-! ## The patch behind the records -/

theorem doubleNul_cons (hb : b ≠ 0) : ∀ bs : Bytes, doubleNul (b :: bs) = (doubleNul bs).map (· + 1)
  | [] => rfl
  | c :: bs => by rw [doubleNul, if_neg fun h => hb h.1]

theorem doubleNul_token {t : Bytes} (ht : 0 ∉ t) (rest : Bytes) :
    doubleNul (t ++ rest) = (doubleNul rest).map (· + t.length) := by
  induction t with
  | nil => simp
  | cons b t ih =>
    rw [mem_cons, not_or] at ht
    rw [cons_append, doubleNul_cons (Ne.symm ht.1), ih ht.2, Option.map_map]
    rfl

theorem doubleNul_tokens (patch : Bytes) : ∀ ts : List Bytes, (∀ t ∈ ts, t ≠ [] ∧ 0 ∉ t) → ts ≠ [] →
    (doubleNul (ts.flatMap (· ++ [0]) ++ 0 :: patch)).map (· + 1) = some (ts.flatMap (· ++ [0])).length
  | [t], h, _ => by
    simp [doubleNul_token (h t mem_cons_self).2, doubleNul]
  | t :: u :: ts, h, _ => by
    have ih := doubleNul_tokens patch (u :: ts) (fun t ht => h t (mem_cons_of_mem _ ht)) (cons_ne_nil _ _)
    obtain ⟨b, bs, rfl⟩ := exists_cons_of_ne_nil (h u (by simp)).1
    have hb : b ≠ 0 := fun heq => (h (b :: bs) (by simp)).2 (heq ▸ mem_cons_self)
    obtain ⟨n, hn, hlength⟩ := Option.map_eq_some_iff.1 ih
    rw [flatMap_cons, append_assoc, append_assoc, doubleNul_token (h t mem_cons_self).2,
      singleton_append]
    simp only [flatMap_cons, cons_append] at hn hlength ⊢
    rw [doubleNul, if_neg fun hzero => hb hzero.2, hn]
    simp only [Option.map_some, length_append, length_cons, length_nil] at hlength ⊢
    exact congrArg some (by omega)

theorem splitRecords_encode (entries : List Entry) (patch : Bytes) (h : entries ≠ []) :
    splitRecords (encode entries ++ 0 :: patch) = some (encode entries, patch) := by
  obtain ⟨e, es, rfl⟩ := exists_cons_of_ne_nil h
  have hnul := doubleNul_tokens patch (tokens (e :: es)) (tokens_plain _) (by simp [tokens, Entry.rawTokens])
  obtain ⟨n, hn, hlength⟩ := Option.map_eq_some_iff.1 hnul
  have hdrop : n + 2 = (encode (e :: es)).length + 1 := by rw [encode, ← hlength]
  rw [splitRecords, show doubleNul (encode (e :: es) ++ 0 :: patch) = _ from hn, Option.map_some, hdrop,
    show n + 1 = (encode (e :: es)).length from hlength, take_left, ← drop_drop, drop_left]
  rfl

/-! ## No panic -/

def Safe {α : Type} (P : α → Prop) : Except Failure α → Prop
  | .ok a => P a
  | .error failure => failure ≠ .panic

variable {lib : Library}

theorem Safe.bind {α β : Type} {P : α → Prop} {Q : β → Prop} {r : Except Failure α} {f : α → Except Failure β} (h : Safe P r)
    (hf : ∀ a, P a → Safe Q (f a)) : Safe Q (r.bind f) := by
  cases r with
  | ok a => exact hf a h
  | error failure => exact h

theorem Safe.map {α β : Type} {P : α → Prop} {Q : β → Prop} {r : Except Failure α} {f : α → β} (h : Safe P r)
    (hf : ∀ a, P a → Q (f a)) : Safe Q (r.map f) := by
  cases r with
  | ok a => exact hf a h
  | error failure => exact h

def Indexed (files : List MissionChangedFile) (indices : List (Bytes × Nat)) : Prop := ∀ p ∈ indices, p.2 < files.length

variable {indices : List (Bytes × Nat)}

theorem Indexed.push {files : List MissionChangedFile} (h : Indexed files indices)
    (file : MissionChangedFile) (path : Bytes) : Indexed (files ++ [file]) ((path, files.length) :: indices) := by
  rw [Indexed, length_append, length_singleton]
  exact forall_mem_cons.2 ⟨Nat.lt_succ_self _, fun p hp => Nat.lt_succ_of_lt (h p hp)⟩

theorem rawFields_safe (head : Bytes) : Safe (fun fields => fields.2.2 ≠ []) (rawFields head) := by
  rw [rawFields]
  split
  · exact fun h => Failure.noConfusion h
  · rename_i hfields
    obtain ⟨t, -, hwords⟩ := Option.map_eq_some_iff.1 hfields
    exact ne_nil_of_mem_wordsFrom t [] _ (hwords ▸ by simp)
  · exact fun h => Failure.noConfusion h

theorem rawFile_safe {status : Text} (h : status ≠ []) (oldMode newMode : Text) (path : Bytes) (oldPath : Option Bytes)
    (rawPaths : List Bytes) : Safe (fun _ => True) (rawFile lib oldMode newMode status path oldPath rawPaths) := by
  have hkind : ∃ kind, rawKind status = .ok kind := by
    unfold rawKind
    split
    · exact absurd rfl h
    all_goals exact ⟨_, rfl⟩
  obtain ⟨kind, hkind⟩ := hkind
  rw [rawFile, hkind]
  trivial

theorem parseRaw_safe (tokens : List Bytes) (files : List MissionChangedFile) (indices : List (Bytes × Nat))
    (h : Indexed files indices) : Safe (fun raw => Indexed raw.files raw.indices) (parseRaw lib tokens files indices) := by
  fun_induction parseRaw lib tokens files indices with
  | case1 => exact h
  | case2 => exact h
  | case3 token rest files indices hmark failure hfields =>
    have hsafe := rawFields_safe token.tail
    rw [hfields] at hsafe
    exact hsafe
  | case4 => exact fun h => Failure.noConfusion h
  | case5 => exact fun h => Failure.noConfusion h
  | case6 token files indices hmark oldMode newMode status hfields first hrename next rest ih =>
    have hsafe := rawFields_safe token.tail
    rw [hfields] at hsafe
    exact (rawFile_safe hsafe ..).bind fun file _ => ih file (h.push file next)
  | case7 token files indices hmark oldMode newMode status hfields first rest hplain ih =>
    have hsafe := rawFields_safe token.tail
    rw [hfields] at hsafe
    exact (rawFile_safe hsafe ..).bind fun file _ => ih file (h.push file first)

theorem parseCount_safe (field : Bytes) : Safe (fun _ => True) (parseCount field) := by
  unfold parseCount
  split
  · exact fun h => Failure.noConfusion h
  · split
    · exact fun h => Failure.noConfusion h
    · trivial

theorem countFile_safe (added deleted : Bytes) (file : MissionChangedFile) :
    Safe (fun _ => True) (countFile added deleted file) := by
  unfold countFile
  dsimp only
  split
  · trivial
  · refine (parseCount_safe added).bind fun additions _ => ?_
    exact (parseCount_safe deleted).map fun _ _ => trivial

theorem countPath_safe {files : List MissionChangedFile} (h : Indexed files indices)
    (added deleted path : Bytes) : Safe (fun files => Indexed files indices) (countPath indices added deleted path files) := by
  unfold countPath
  split
  · exact fun h => Failure.noConfusion h
  · rename_i i hi
    obtain ⟨before, after, rfl, -⟩ := lookup_eq_some_iff.1 hi
    have hlt := h (path, i) (by simp)
    rw [getElem?_eq_getElem hlt]
    exact (countFile_safe added deleted _).map fun file _ p hp => by simpa using h p hp

theorem parseNumstat_safe (tokens : List Bytes) (files : List MissionChangedFile)
    (h : Indexed files indices) : Safe (fun _ => True) (parseNumstat indices tokens files) := by
  fun_induction parseNumstat indices tokens files with
  | case1 => trivial
  | case2 => trivial
  | case3 => exact fun h => Failure.noConfusion h
  | case4 token files hne added deleted path hfields hempty old next rest ih =>
    exact (countPath_safe h added deleted next).bind fun files hfiles => ih files hfiles
  | case5 => exact fun h => Failure.noConfusion h
  | case6 token rest files hne added deleted path hfields hpath ih =>
    exact (countPath_safe h added deleted path).bind fun files hfiles => ih files hfiles

theorem parseChanges_safe (lib : Library) (bytes : Bytes) : Safe (fun _ => True) (parseChanges lib bytes) :=
  (parseRaw_safe _ [] [] (forall_mem_nil _)).bind fun raw hraw => parseNumstat_safe raw.tokens raw.files hraw

/-- **The change list decodes git's output without loss**, cuts it off the patch behind it, and never panics. -/
theorem changes_lossless (lib : Library) : Lossless lib where
  parsed := parseChanges_encode lib
  split := splitRecords_encode
  total bytes h := by
    have hsafe := parseChanges_safe lib bytes
    rw [h] at hsafe
    exact hsafe rfl

end Rovai.MissionChanges
