import RovaiCore.Tables
import RovaiCore.Keyset
import RovaiCore.JsonStrings
import RovaiCore.ReportedPath
/-!
# The reference directory (`thread_reference.rs`, `camp_id.rs`)

Threads and missions that a message may refer to, a page of eight at a time.
-/
namespace Rovai.ThreadReference

open Tables (Table)

/-! ## Identities -/

def crockford : List Char := "0123456789abcdefghjkmnpqrstvwxyz".toList

def crockfordValue (c : Char) : Option Nat := crockford.idxOf? c

def uuidReason (n : Nat) : Except String Unit :=
  if n / 2 ^ 76 % 16 ≠ 7 then .error "payload is not UUIDv7"
  else if n / 2 ^ 62 % 4 ≠ 2 then .error "payload does not use the RFC 4122 variant"
  else .ok ()

def decodeSuffix : Nat → Nat → List Char → Except String Nat
  | _, decoded, [] => .ok decoded
  | index, decoded, c :: rest =>
    match crockfordValue c with
    | none => .error "suffix is not canonical lower-case Crockford Base32"
    | some digit =>
      if index = 0 ∧ 7 < digit then .error "suffix overflows 128 bits"
      else decodeSuffix (index + 1) (decoded * 32 + digit) rest

def threadIdPrefix : List Char := "rvcamp_".toList

def parseThreadId (value : String) : Except String Unit :=
  if value.utf8ByteSize ≠ 33 ∨ ¬ threadIdPrefix.isPrefixOf value.toList = true then
    .error "expected rvcamp_ followed by 26 canonical base32 characters"
  else (decodeSuffix 0 0 (value.toList.drop 7)).bind uuidReason

def missionIdPrefix : List Char := "rvm_".toList

def isMissionId (id : String) : Bool :=
  missionIdPrefix.isPrefixOf id.toList && decide (id.toList.length = 36) &&
    match (id.toList.drop 4).mapM Json.hexValue with
    | some digits => (uuidReason (digits.foldl (fun n digit => n * 16 + digit) 0)).isOk
    | none => false

def isTimestamp (text : String) : Bool :=
  decide (text.length ≤ 40) && text.toList.all fun c => c.isDigit || "-+:.TZ ".toList.contains c

/-! ## Tables -/

inductive ReferenceKind where
  | thread
  | mission
  deriving DecidableEq

def ReferenceKind.path : ReferenceKind → String
  | .thread => "thread"
  | .mission => "mission"

structure Camp where
  (id title projectBindingKind projectPath activationState : String)
  (deletionOperationId navigationActivityAt : Option String)
  createdAt : String

structure Mission where
  (id campId title : String)

def Camp.activity (c : Camp) : String := c.navigationActivityAt.getD c.createdAt

structure Directory where
  camps : Table Camp.id
  missions : Table Mission.id
  campIds : ∀ c ∈ camps.rows, parseThreadId c.id = .ok ()
  missionIds : ∀ m ∈ missions.rows, isMissionId m.id = true
  times : ∀ c ∈ camps.rows, isTimestamp c.activity = true

/-! ## Requests and pages -/

structure ReferenceCandidate where
  kind : ReferenceKind
  (id title projectBindingKind projectPath : String)

structure ListParams where
  threadId : String
  kind : ReferenceKind
  query : String
  cursor : Option String

structure ReferencePage where
  items : List ReferenceCandidate
  nextCursor : Option String

structure Cursor where
  threadId : String
  kind : ReferenceKind
  (query activity id : String)

def Cursor.json (c : Cursor) : Json :=
  .arr [.str c.threadId, .str c.kind.path, .str c.query, .str c.activity, .str c.id]

/-- `URL_SAFE_NO_PAD` and `serde_json::from_slice`, of what `serde_json::to_vec` writes. -/
structure Codec where
  encode : String → String
  decode : String → Except String Cursor
  decode_encode : ∀ c : Cursor, decode (encode (Json.encode c.json)) = .ok c
  size_encode : ∀ text, (encode text).utf8ByteSize = (4 * text.utf8ByteSize + 2) / 3

def Codec.write (codec : Codec) (c : Cursor) : String := codec.encode (Json.encode c.json)

def Codec.read (codec : Codec) : Option String → Except String (Option Cursor)
  | none => .ok none
  | some encoded => if 4096 < encoded.utf8ByteSize then .error "Invalid reference cursor" else (codec.decode encoded).map some

/-! ## Search -/

/-- `title.any` consumes the title up to the wanted character. -/
def consumes : List Char → List Char → Bool
  | [], _ => true
  | wanted :: query, title =>
    match title.dropWhile (· != wanted) with
    | [] => false
    | _ :: rest => consumes query rest

section
variable (codec : Codec) (normalize : String → String)

def fuzzyContains (title query : String) : Bool := consumes query.toList (normalize title).toList

def searchQuery (query : String) : String :=
  String.ofList ((normalize query).toList.filter fun c => !isWhitespace c && decide (c.toNat ≠ 0xfeff))

structure Row where
  candidate : ReferenceCandidate
  activity : String

def Row.key (row : Row) : String × String := (row.activity, row.candidate.id)

/-- The order of a page: the later activity first, then the smaller identity. -/
def precedes (a b : String × String) : Prop := b.1 < a.1 ∨ b.1 = a.1 ∧ a.2 < b.2

instance : DecidableRel precedes := fun a b => inferInstanceAs (Decidable (b.1 < a.1 ∨ b.1 = a.1 ∧ a.2 < b.2))

namespace Directory

variable (d : Directory)

def hasMission (campId : String) : Bool := d.missions.any (fun m => decide (m.campId = campId))

def rowOf (kind : ReferenceKind) (id title : String) (c : Camp) : Row :=
  ⟨⟨kind, id, title, c.projectBindingKind, c.projectPath⟩, c.activity⟩

def visible (scope : String) : ReferenceKind → List Row
  | .thread => (d.camps.rows.filter fun c => decide (c.id ≠ scope) && c.deletionOperationId.isNone &&
      decide (c.activationState = "active") && !d.hasMission c.id).map fun c => rowOf .thread c.id c.title c
  | .mission => d.missions.rows.filterMap fun m => (d.camps.find? m.campId).bind fun c =>
      if c.id ≠ scope ∧ c.deletionOperationId.isNone = true then some (rowOf .mission m.id m.title c) else none

def matching (scope : String) (kind : ReferenceKind) (query : String) : List Row :=
  (d.visible scope kind).filter fun row => decide (query = "") || fuzzyContains normalize row.candidate.title query

def validateScope (current : String) : Except String Unit :=
  match parseThreadId current with
  | .error reason => .error ("invalid Thread ID: " ++ reason)
  | .ok () =>
    if (d.camps.find? current).any (fun c => c.deletionOperationId.isNone) then .ok () else .error "Thread is unavailable"

end Directory

def Cursor.key (c : Cursor) : String × String := (c.activity, c.id)

def selectRows (d : Directory) (scope : String) (kind : ReferenceKind) (query : String) (cursor : Option Cursor) : List Row :=
  (((d.matching normalize scope kind query).filter fun row => cursor.all fun c => decide (precedes c.key row.key)).insertionSort
    fun a b => ¬precedes b.key a.key).take 9

def list (d : Directory) (params : ListParams) : Except String ReferencePage := do
  d.validateScope params.threadId
  let query := searchQuery normalize params.query
  if 128 < query.length then .error "Search query is too long" else
  let cursor ← codec.read params.cursor
  if cursor.any (fun c => !(decide (c.threadId = params.threadId) && decide (c.kind = params.kind) && decide (c.query = query))) then
    .error "Reference cursor does not match search" else
  let rows := selectRows normalize d params.threadId params.kind query cursor
  let page := rows.take 8
  .ok { items := page.map Row.candidate
        nextCursor := if 8 < rows.length then
            page.getLast?.map fun last => codec.write ⟨params.threadId, params.kind, query, last.activity, last.candidate.id⟩
          else none }

def follow (scope : String) (kind : ReferenceKind) (query : String) : Option String → List Directory →
    Except String (List ReferencePage)
  | _, [] => .ok []
  | cursor, d :: later => do
    let page ← list codec normalize d ⟨scope, kind, query, cursor⟩
    match page.nextCursor with
    | some next => (follow scope kind query (some next) later).map (page :: ·)
    | none => .ok [page]

end

def Ended (pages : List ReferencePage) : Prop := ∃ earlier last, pages = earlier ++ [last] ∧ last.nextCursor = none

end Rovai.ThreadReference
