import RovaiCore.Tables
import RovaiCore.ReportedPath
import RovaiCore.Fallible
/-!
# The memory store (`memory.rs`, the memory tables of `db.rs`)

Memories, their revisions and the search index, with the constraints of their tables (`Valid`), and the four writes: a memory is
created, revised, retired or forgotten.
-/
namespace Rovai.Memory

open Lines (Text)
open Tables (Table)

/-! ## Rows -/

inductive MemoryScopeKind where
  | hearth
  | companion
  | relationship
  deriving DecidableEq

inductive MemoryKind where
  | preference
  | agreement
  | lesson
  deriving DecidableEq

inductive RelationshipDirection where
  | mutual
  | directed
  deriving DecidableEq

inductive Lifecycle where
  | active
  | retired
  | forgotten
  deriving DecidableEq

structure MemoryScope where
  kind : MemoryScopeKind
  (companionAgentId relationshipAgentLowId relationshipAgentHighId : Option String)
  relationshipDirection : Option RelationshipDirection
  directedActorAgentId : Option String

structure MemoryRow where
  id : String
  scope : Option MemoryScope
  kind : Option MemoryKind
  lifecycleStatus : Lifecycle
  currentRevisionId : Option String
  version : Int
  createdAt : String

structure RevisionRow where
  (id memoryId : String)
  body : Option String
  bodyUtf8Bytes : Option Nat
  retrievalKeys : List String

structure FtsRow where
  (memoryId revisionId retrievalKeys body : String)

/-! ## Constraints -/

def MemoryScope.checked (scope : MemoryScope) (kind : Option MemoryKind) : Bool :=
  match scope.kind with
  | .hearth =>
    scope.companionAgentId.isNone && scope.relationshipAgentLowId.isNone && scope.relationshipAgentHighId.isNone &&
      scope.relationshipDirection.isNone && scope.directedActorAgentId.isNone
  | .companion =>
    scope.companionAgentId.isSome && scope.relationshipAgentLowId.isNone && scope.relationshipAgentHighId.isNone &&
      scope.relationshipDirection.isNone && scope.directedActorAgentId.isNone
  | .relationship =>
    scope.companionAgentId.isNone && (kind = some .agreement || kind = some .lesson) &&
      match scope.relationshipAgentLowId, scope.relationshipAgentHighId with
      | some low, some high => decide (low < high) &&
        match scope.relationshipDirection with
        | some .mutual => scope.directedActorAgentId.isNone
        | some .directed => scope.directedActorAgentId = some low || scope.directedActorAgentId = some high
        | none => false
      | _, _ => false

variable (m : MemoryRow)

def MemoryRow.checked : Bool :=
  match m.lifecycleStatus with
  | .forgotten => m.scope.isNone && m.kind.isNone && m.currentRevisionId.isNone
  | .active | .retired => m.kind.isSome && m.currentRevisionId.isSome && m.scope.any (·.checked m.kind)

structure Tables where
  memories : Table MemoryRow.id
  revisions : Table RevisionRow.id
  memoryFts : List FtsRow
  searchReady : Bool

structure Tables.Valid (t : Tables) : Prop where
  checked : ∀ id m, t.memories.find? id = some m → m.checked = true
  current : ∀ id m revision, t.memories.find? id = some m → m.currentRevisionId = some revision →
    (t.revisions.find? revision).isSome = true

/-! ## Errors -/

inductive MemoryError where
  | tool (code message : String)
  | context (text : String)

/-! ## Bodies and keys -/

def foldNewlines : Text → Text
  | '\r' :: '\n' :: rest => '\n' :: foldNewlines rest
  | '\r' :: rest => '\n' :: foldNewlines rest
  | c :: rest => c :: foldNewlines rest
  | [] => []

def bodyMaxBytes : Nat := 2048

def canonicalizeMemoryBody (input : String) : Except MemoryError String :=
  let normalized := trim (foldNewlines input.toList)
  if normalized.isEmpty then .error (.tool "memory.invalid_input" "Memory body must not be empty")
  else if normalized.any (fun c => decide (c.toNat ≤ 0x1f) && c != '\t' && c != '\n') then
    .error (.tool "memory.invalid_input" "Memory body contains a forbidden control character")
  else if bodyMaxBytes < (String.ofList normalized).utf8ByteSize then
    .error (.tool "memory.invalid_input" "Memory body exceeds 2048 UTF-8 bytes")
  else .ok (String.ofList normalized)

def splitWhitespace (t : Text) : List Text := (t.splitOnP isWhitespace).filter (fun piece => !piece.isEmpty)

def isControl (c : Char) : Bool := decide (c.toNat ≤ 0x1f) || (decide (0x7f ≤ c.toNat) && decide (c.toNat ≤ 0x9f))

def reservedKeys : List String :=
  ["memory", "remember", "important", "general", "note", "thing", "stuff", "记忆", "重要", "通用", "其他"]

def normalizeKey (raw : String) : String :=
  String.ofList ((([' '] : Text).intercalate (splitWhitespace raw.toList)).map Char.toLower)

def checkKey (key : String) : Except MemoryError Unit :=
  if ¬(2 ≤ key.utf8ByteSize ∧ key.utf8ByteSize ≤ 24) then
    .error (.tool "memory.invalid_input" "each Retrieval Key must contain 2 to 24 UTF-8 bytes")
  else if key.toList.any (fun c => isControl c || c == '|') then
    .error (.tool "memory.invalid_input" "Retrieval Keys cannot contain controls, newlines, or |")
  else if reservedKeys.contains key then .error (.tool "memory.invalid_input" "Retrieval Key is too generic")
  else .ok ()

def collectKeys : List String → List String → Except MemoryError (List String)
  | normalized, [] => .ok normalized
  | normalized, raw :: rest =>
    match checkKey (normalizeKey raw) with
    | .error e => .error e
    | .ok () => collectKeys (if normalized.contains (normalizeKey raw) then normalized else normalized ++ [normalizeKey raw]) rest

def normalizeRetrievalKeys (input : List String) : Except MemoryError (List String) :=
  if input.isEmpty || decide (3 < input.length) then
    .error (.tool "memory.invalid_input" "Retrieval Keys require one to three values")
  else
    match collectKeys [] input with
    | .error e => .error e
    | .ok normalized =>
      if normalized.isEmpty || decide (3 < normalized.length) then
        .error (.tool "memory.invalid_input" "Retrieval Keys require one to three unique values")
      else if 48 < (normalized.map String.utf8ByteSize).sum then
        .error (.tool "memory.invalid_input" "Retrieval Keys exceed 48 total UTF-8 bytes")
      else .ok normalized

/-! ## Writes -/

variable (t : Tables) (memoryId : String)

def Tables.ftsRowOf : Option FtsRow :=
  (t.memories.find? memoryId).bind fun m =>
    if m.lifecycleStatus = .active then
      m.currentRevisionId.bind fun revisionId => (t.revisions.find? revisionId).bind fun revision =>
        revision.body.map fun body => ⟨memoryId, revisionId, " ".intercalate revision.retrievalKeys, body⟩
    else none

def Tables.refreshMemoryFts : Tables :=
  { t with memoryFts := t.memoryFts.filter (fun row => row.memoryId != memoryId) ++ (t.ftsRowOf memoryId).toList }

def Tables.insertRevision (id memoryId body : String) (retrievalKeys : List String) : Tables :=
  { t with revisions := t.revisions.insert ⟨id, memoryId, some body, some body.utf8ByteSize, retrievalKeys⟩ }

structure Candidate where
  scope : MemoryScope
  kind : MemoryKind
  body : String
  retrievalKeys : List String

def Tables.insertMemory (memoryId revisionId : String) (candidate : Candidate) (now : String) : Tables :=
  let inserted := t.insertRevision revisionId memoryId candidate.body candidate.retrievalKeys
  { inserted with
    memories := inserted.memories.insert
      ⟨memoryId, some candidate.scope, some candidate.kind, .active, some revisionId, 1, now⟩ }.refreshMemoryFts memoryId

structure CreateMemoryCommand where
  scope : MemoryScope
  kind : MemoryKind
  body : String
  retrievalKeys : List String
  (memoryId revisionId now : String)
  admitted : Bool

def candidateFromCreate (command : CreateMemoryCommand) : Except MemoryError Candidate :=
  match canonicalizeMemoryBody command.body with
  | .error e => .error e
  | .ok body =>
    match normalizeRetrievalKeys command.retrievalKeys with
    | .error e => .error e
    | .ok keys =>
      if command.scope.checked (some command.kind) then .ok ⟨command.scope, command.kind, body, keys⟩
      else .error (.tool "memory.invalid_input" "Memory scope is invalid")

def Tables.create (command : CreateMemoryCommand) : Tables :=
  match candidateFromCreate command with
  | .error _ => t
  | .ok candidate =>
    if command.admitted && (t.memories.find? command.memoryId).isNone && (t.revisions.find? command.revisionId).isNone then
      t.insertMemory command.memoryId command.revisionId candidate command.now
    else t

structure ReviseMemoryCommand where
  memoryId : String
  expectedVersion : Int
  (baseRevisionId body : String)
  retrievalKeys : List String
  revisionId : String
  admitted : Bool

def revisionMatches (revisionId body : String) (retrievalKeys : List String) : Bool :=
  (t.revisions.find? revisionId).any fun revision => revision.body = some body && revision.retrievalKeys = retrievalKeys

def MemoryRow.reviseTo (revisionId : String) (m : MemoryRow) : MemoryRow :=
  { m with currentRevisionId := some revisionId, version := m.version + 1 }

def Tables.revise (command : ReviseMemoryCommand) : Tables :=
  match canonicalizeMemoryBody command.body, normalizeRetrievalKeys command.retrievalKeys, t.memories.find? command.memoryId with
  | .ok body, .ok keys, some m =>
    if m.lifecycleStatus ≠ .forgotten ∧ m.version = command.expectedVersion ∧ m.currentRevisionId = some command.baseRevisionId ∧
        revisionMatches t command.baseRevisionId body keys = false ∧ command.admitted = true ∧
        (t.revisions.find? command.revisionId).isNone = true then
      let inserted := t.insertRevision command.revisionId command.memoryId body keys
      { inserted with
        memories := inserted.memories.update command.memoryId (MemoryRow.reviseTo command.revisionId) }.refreshMemoryFts
          command.memoryId
    else t
  | _, _, _ => t

def MemoryRow.retire : MemoryRow := { m with lifecycleStatus := .retired, version := m.version + 1 }

def Tables.retire (expectedVersion : Int) : Tables :=
  match t.memories.find? memoryId with
  | none => t
  | some m =>
    if m.version = expectedVersion ∧ m.lifecycleStatus = .active then
      { t with memories := t.memories.update memoryId MemoryRow.retire }.refreshMemoryFts memoryId
    else t

def RevisionRow.clear (revision : RevisionRow) : RevisionRow :=
  { revision with body := none, bodyUtf8Bytes := none, retrievalKeys := [] }

def MemoryRow.forget : MemoryRow :=
  { m with scope := none, kind := none, lifecycleStatus := .forgotten, currentRevisionId := none, version := m.version + 1 }

def Tables.forget (expectedVersion : Int) : Tables :=
  match t.memories.find? memoryId with
  | none => t
  | some m =>
    if m.version = expectedVersion ∧ m.lifecycleStatus ≠ .forgotten then
      { t with
        memories := t.memories.update memoryId MemoryRow.forget
        revisions := t.revisions.updateWhere (fun revision => revision.memoryId == memoryId) RevisionRow.clear
        memoryFts := t.memoryFts.filter (fun row => row.memoryId != memoryId) }
    else t

end Rovai.Memory
