import RovaiCore.MemoryStore
import RovaiCore.Attempts
import RovaiCore.JsonText
import Mathlib.Data.List.Sort
/-!
# Memory retrieval (`memory_retrieval.rs`)

A run of an agent searches the memories, reads some by their identities or views all of one scope. Every memory that a call
returns leaves a row of access evidence.
-/
namespace Rovai.Memory

open Lines (Text)

/-! ## Rows -/

structure CampMember where
  (campId agentId : String)
  (active leaveRequested : Bool)

structure AgentProfile where
  id : String
  present : Bool

inductive MemoryCacheState where
  | current
  | revisionChanged
  | inactive
  | deleted
  | accessChanged
  | unavailable
  deriving DecidableEq

inductive EvidenceKind where
  | search
  | read
  | view

structure EvidenceRow where
  (id nativeBindingId : String)
  nativeBindingGeneration : Int
  (agentId campId : String)
  evidenceKind : EvidenceKind
  queryDigest : Option String
  memoryId : String
  observedRevisionId : Option String
  authorizationBasisDigest : String
  outcome : MemoryCacheState
  createdAt : String

structure Database where
  tables : Tables
  members : List CampMember
  profiles : List AgentProfile
  evidence : List EvidenceRow
  /-- How many identities and times were drawn for rows of evidence. -/
  drawn : Nat

structure ReadIdentity where
  (agentId campId nativeBindingId : String)
  nativeBindingGeneration : Int
  generation_pos : 1 ≤ nativeBindingGeneration

/-- FTS5: which rows of the index match a query, how well, and what is shown of them. -/
structure SearchEngine where
  error : List FtsRow → String → Option MemoryError
  accepts : List FtsRow → String → FtsRow → Bool
  bm25 : List FtsRow → String → FtsRow → Int
  snippet : List FtsRow → String → FtsRow → String

structure Outside where
  sha256 : String → String
  (newId now : Nat → String)
  fts : SearchEngine

/-! ## Reading records -/

structure StoredMemoryView where
  id : String
  scope : Option MemoryScopeKind
  kind : Option MemoryKind
  companionAgentId : Option String
  relationshipAgentIds : List String
  direction : Option RelationshipDirection
  directedActorAgentId : Option String
  lifecycle : Lifecycle
  (currentRevisionId currentBody : Option String)
  currentBodyUtf8Bytes : Option Nat
  currentRetrievalKeys : List String
  deriving DecidableEq

variable (d : Database)

def Database.currentRevision (m : MemoryRow) : Option RevisionRow :=
  m.currentRevisionId.bind d.tables.revisions.find?

def Database.memoryViewFromRecord (m : MemoryRow) : StoredMemoryView where
  id := m.id
  scope := m.scope.map MemoryScope.kind
  kind := m.kind
  companionAgentId := m.scope.bind MemoryScope.companionAgentId
  relationshipAgentIds := (m.scope.map fun scope =>
    [scope.relationshipAgentLowId, scope.relationshipAgentHighId].filterMap id).getD []
  direction := m.scope.bind MemoryScope.relationshipDirection
  directedActorAgentId := m.scope.bind MemoryScope.directedActorAgentId
  lifecycle := m.lifecycleStatus
  currentRevisionId := m.currentRevisionId
  currentBody := (d.currentRevision m).bind RevisionRow.body
  currentBodyUtf8Bytes := (d.currentRevision m).bind RevisionRow.bodyUtf8Bytes
  currentRetrievalKeys := ((d.currentRevision m).map RevisionRow.retrievalKeys).getD []

def Database.get (memoryId : String) : Option StoredMemoryView :=
  (d.tables.memories.find? memoryId).map d.memoryViewFromRecord

def isCanonicalBody (body : String) : Bool := match canonicalizeMemoryBody body with
  | .ok canonical => canonical == body
  | .error _ => false

variable (memory : StoredMemoryView)

def validatedActiveBodyBytes : Except MemoryError Nat :=
  match memory.currentBody with
  | none => .error (.context "active Memory has no current body")
  | some body => match memory.currentBodyUtf8Bytes with
    | none => .error (.context "active Memory has no current body byte count")
    | some bytes =>
      if bytes ≠ body.utf8ByteSize ∨ ¬(1 ≤ bytes ∧ bytes ≤ bodyMaxBytes) ∨ isCanonicalBody body = false then
        .error (.context "active Memory current body invariant is invalid")
      else .ok bytes

def sortedDistinct (names : List String) : List String := (names.insertionSort (· ≤ ·)).dedup

def capacityOrder (records : List StoredMemoryView) : List StoredMemoryView :=
  let companions := sortedDistinct (records.filterMap fun r => if r.scope = some .companion then r.companionAgentId else none)
  let lows := sortedDistinct (records.filterMap fun r => if r.scope = some .relationship then r.relationshipAgentIds.head? else none)
  let highs := sortedDistinct (records.filterMap fun r => if r.scope = some .relationship then r.relationshipAgentIds[1]? else none)
  records.filter (fun r => r.scope = some .hearth) ++
    companions.flatMap (fun agent => records.filter fun r => r.scope = some .companion ∧ r.companionAgentId = some agent) ++
    lows.flatMap fun low => highs.flatMap fun high =>
      records.filter fun r => r.scope = some .relationship ∧ r.relationshipAgentIds = [low, high]

def Database.list : Except MemoryError (List StoredMemoryView) :=
  let rows := d.tables.memories.rows.insertionSort fun a b => b.createdAt < a.createdAt ∨ (a.createdAt = b.createdAt ∧ a.id ≤ b.id)
  let active := (d.tables.memories.rows.insertionSort fun a b => a.id ≤ b.id).filter fun m =>
    m.lifecycleStatus = .active ∧ (d.currentRevision m).isSome
  match Attempts.collect validatedActiveBodyBytes (capacityOrder (active.map d.memoryViewFromRecord)) with
  | .error e => .error e
  | .ok _ => .ok (rows.map d.memoryViewFromRecord)

/-! ## Accessibility -/

def Database.presentMembers (campId agentId : String) : Nat :=
  (d.members.flatMap fun member => (d.profiles.filter fun profile => profile.id = member.agentId).filter fun profile =>
    member.campId = campId ∧ member.agentId = agentId ∧ member.active = true ∧ member.leaveRequested = false ∧
      profile.present = true).length

def Database.isPresentCurrentCampMember (campId agentId : String) : Bool :=
  d.presentMembers campId agentId = 1

def Database.memoryAccessible (run : ReadIdentity) (memory : StoredMemoryView) : Except MemoryError Bool :=
  match memory.scope with
  | some .hearth => .ok true
  | some .companion => .ok (memory.companionAgentId = some run.agentId)
  | some .relationship =>
    if memory.relationshipAgentIds.any (· == run.agentId) = false then .ok false
    else match memory.relationshipAgentIds.find? (· != run.agentId) with
      | none => .error (.context "Relationship Memory has no counterparty")
      | some counterparty =>
        .ok (d.presentMembers run.campId counterparty = 1 &&
          (memory.direction = some .mutual ||
            (memory.direction = some .directed && memory.directedActorAgentId = some run.agentId)))
  | none => .ok false

def Database.accessible (d : Database) (run : ReadIdentity) (memory : StoredMemoryView) : Bool :=
  match d.memoryAccessible run memory with
  | .ok accessible => accessible
  | .error _ => false

def Database.accessibleActiveMemoryIds (run : ReadIdentity) : Except MemoryError (List String) :=
  match d.list with
  | .error e => .error e
  | .ok memories => .ok ((memories.filter fun memory => memory.lifecycle = .active && d.accessible run memory).map
      StoredMemoryView.id)

structure AuthorizedScopeIdentity where
  scope : MemoryScopeKind
  counterpartyAgentId : Option String
  direction : Option RelationshipDirection

def authorizedScopeIdentity (agentId : String) : Except MemoryError AuthorizedScopeIdentity :=
  match memory.scope with
  | none => .error (.context "active Memory has no Scope")
  | some .hearth => .ok ⟨.hearth, none, none⟩
  | some .companion => .ok ⟨.companion, none, none⟩
  | some .relationship => match memory.relationshipAgentIds.find? (· != agentId) with
    | none => .error (.context "authorized Relationship Memory has no counterparty")
    | some counterparty => .ok ⟨.relationship, some counterparty, memory.direction⟩

structure MemoryTarget where
  (memoryId revisionId : String)
  scope : MemoryScopeKind
  counterpartyAgentId : Option String
  direction : Option RelationshipDirection
  deriving DecidableEq

def authorizedTarget (agentId : String) : Except MemoryError MemoryTarget :=
  match authorizedScopeIdentity memory agentId with
  | .error e => .error e
  | .ok scope => match memory.currentRevisionId with
    | none => .error (.context "active Memory has no current Revision")
    | some revisionId => .ok ⟨memory.id, revisionId, scope.scope, scope.counterpartyAgentId, scope.direction⟩

/-! ## Evidence -/

variable (identity : ReadIdentity)

def EvidenceRow.isAuthorized (memoryId : String) (row : EvidenceRow) : Bool :=
  row.nativeBindingId = identity.nativeBindingId ∧ row.nativeBindingGeneration = identity.nativeBindingGeneration ∧
    row.memoryId = memoryId ∧ row.observedRevisionId.isSome ∧ (row.outcome = .current ∨ row.outcome = .revisionChanged)

def Database.previousAuthorizedRevision (memoryId : String) : Option String :=
  ((d.evidence.filter (EvidenceRow.isAuthorized identity memoryId)).insertionSort
    fun a b => b.createdAt < a.createdAt ∨ (a.createdAt = b.createdAt ∧ b.id ≤ a.id)).head?.bind EvidenceRow.observedRevisionId

def authorizationBasis : String :=
  identity.agentId ++ "\n" ++ identity.campId ++ "\n" ++ identity.nativeBindingId ++ "\n" ++
    toString identity.nativeBindingGeneration

structure Observation where
  evidenceKind : EvidenceKind
  queryDigest : Option String
  memoryId : String
  revisionId : Option String
  outcome : MemoryCacheState

variable (w : Outside)

def Observation.row (identity : ReadIdentity) (drawn : Nat) (o : Observation) : EvidenceRow where
  id := w.newId drawn
  nativeBindingId := identity.nativeBindingId
  nativeBindingGeneration := identity.nativeBindingGeneration
  agentId := identity.agentId
  campId := identity.campId
  evidenceKind := o.evidenceKind
  queryDigest := o.queryDigest
  memoryId := o.memoryId
  observedRevisionId := o.revisionId
  authorizationBasisDigest := w.sha256 (authorizationBasis identity)
  outcome := o.outcome
  createdAt := w.now drawn

def Database.recordEvidence (identity : ReadIdentity) (o : Observation) (d : Database) :
    Database × Except MemoryError Unit :=
  if d.evidence.any (fun row => row.id = w.newId d.drawn) then
    ({ d with drawn := d.drawn + 1 }, .error (.context "UNIQUE constraint failed: memory_access_evidence.id"))
  else ({ d with drawn := d.drawn + 1, evidence := d.evidence ++ [o.row w identity d.drawn] }, .ok ())

/-! ## Search -/

def searchQueryMaxBytes : Nat := 512
def searchMaxResults : Int := 6
def snippetMaxBytes : Nat := 256
def allSnippetsMaxBytes : Nat := 2048

structure MemorySearchInput where
  query : String
  limit : Option Int

structure MemorySearchResult where
  (memoryId revisionId : String)
  kind : MemoryKind
  scope : MemoryScopeKind
  counterpartyAgentId : Option String
  direction : Option RelationshipDirection
  retrievalKeys : List String
  snippet : String

def takeUtf8 : Nat → List Char → List Char
  | _, [] => []
  | n, c :: rest => if c.utf8Size ≤ n then c :: takeUtf8 (n - c.utf8Size) rest else []

def truncateUtf8 (value : String) (maxBytes : Nat) : String := String.ofList (takeUtf8 maxBytes value.toList)

def trimmed (s : String) : String := String.ofList (trim s.toList)

def ftsQuery (query : String) : String :=
  "\x22" ++ String.ofList (query.toList.flatMap fun c => if c = '\x22' then ['\x22', '\x22'] else [c]) ++ "\x22"

def Database.markSearchUnavailable : Database :=
  { d with tables := { d.tables with searchReady := false } }

def Database.searchRows (d : Database) (query : String) (accessible : List String) (limit : Nat) : List FtsRow :=
  let index := d.tables.memoryFts
  ((index.filter fun row => w.fts.accepts index query row && accessible.contains row.memoryId).insertionSort fun a b =>
    w.fts.bm25 index query a < w.fts.bm25 index query b ∨
      (w.fts.bm25 index query a = w.fts.bm25 index query b ∧ a.memoryId ≤ b.memoryId)).take limit

def integrityError : MemoryError := .tool "memory.search_unavailable" "Memory search index integrity check failed"

structure SearchProgress where
  snippetBudget : Nat
  results : List MemorySearchResult

def searchResult (memory : StoredMemoryView) (row : FtsRow) (snippet : String) :
    Except MemoryError MemorySearchResult :=
  match memory.kind with
  | none => .error (.context "active Memory has no Kind")
  | some kind => match authorizedScopeIdentity memory identity.agentId with
    | .error e => .error e
    | .ok scope => .ok ⟨row.memoryId, row.revisionId, kind, scope.scope, scope.counterpartyAgentId, scope.direction,
        memory.currentRetrievalKeys, snippet⟩

def Database.searchStep (identity : ReadIdentity) (queryDigest : String) (rawSnippet : FtsRow → String)
    (d : Database) (progress : SearchProgress) (row : FtsRow) : Database × Except MemoryError SearchProgress :=
  match d.get row.memoryId with
  | none => (d.markSearchUnavailable, .error integrityError)
  | some memory =>
    if memory.currentRevisionId ≠ some row.revisionId ∨ memory.lifecycle ≠ .active then
      (d.markSearchUnavailable, .error integrityError)
    else
      let snippet := truncateUtf8 (rawSnippet row) (min progress.snippetBudget snippetMaxBytes)
      match searchResult identity memory row snippet with
      | .error e => (d, .error e)
      | .ok result =>
        Attempts.andThen (d.recordEvidence w identity ⟨.search, some queryDigest, row.memoryId, some row.revisionId, .current⟩)
          fun d' _ => (d', .ok ⟨progress.snippetBudget - snippet.utf8ByteSize, progress.results ++ [result]⟩)

def Database.search (w : Outside) (d : Database) (authenticated : Except MemoryError ReadIdentity) (input : MemorySearchInput) :
    Database × Except MemoryError (List MemorySearchResult) :=
  match authenticated with
  | .error e => (d, .error e)
  | .ok identity =>
    let query := trimmed input.query
    let limit := input.limit.getD searchMaxResults
    if query.isEmpty ∨ searchQueryMaxBytes < query.utf8ByteSize then
      (d, .error (.tool "memory.invalid_input" "query must contain 1 to 512 UTF-8 bytes"))
    else if ¬(1 ≤ limit ∧ limit ≤ searchMaxResults) then
      (d, .error (.tool "memory.invalid_input" "limit must be between 1 and 6"))
    else if d.tables.searchReady = false then
      (d, .error (.tool "memory.search_unavailable" "Memory search index is unavailable and requires rebuild"))
    else match d.accessibleActiveMemoryIds identity with
      | .error e => (d, .error e)
      | .ok accessible =>
        if accessible.isEmpty then (d, .ok [])
        else match w.fts.error d.tables.memoryFts (ftsQuery query) with
          | some e => (d, .error e)
          | none =>
            Attempts.andThen (Attempts.loop (Database.searchStep w identity (w.sha256 query) (w.fts.snippet d.tables.memoryFts (ftsQuery query)))
              d ⟨allSnippetsMaxBytes, []⟩ (d.searchRows w (ftsQuery query) accessible limit.toNat))
              fun d' progress => (d', .ok progress.results)

/-! ## Read -/

def readMaxIds : Nat := 4
def readBodyMaxBytes : Nat := 8192

structure MemoryReadResult where
  memoryId : String
  cacheState : MemoryCacheState
  target : Option MemoryTarget
  kind : Option MemoryKind
  agentCanRevise : Option Bool
  retrievalKeys : List String
  body : Option String
  deriving DecidableEq

def unavailableResult (memoryId : String) (state : MemoryCacheState) : MemoryReadResult :=
  ⟨memoryId, state, none, none, none, [], none⟩

def Lifecycle.lostState : Lifecycle → MemoryCacheState
  | .retired => .inactive
  | .forgotten => .deleted
  | .active => .accessChanged

structure ReadProgress where
  bodyBytes : Nat
  results : List MemoryReadResult

def authorizedResult (evidenceRevision : Option String) (memory : StoredMemoryView)
    (memoryId : String) (bodyBytes : Nat) : Except MemoryError (MemoryReadResult × Nat) :=
  match memory.currentRevisionId with
  | none => .error (.context "active Memory has no current Revision")
  | some revisionId => match memory.currentBody with
    | none => .error (.context "active Memory has no current body")
    | some body =>
      if readBodyMaxBytes < bodyBytes + body.utf8ByteSize then
        .error (.tool "memory.response_too_large" "memory.read response exceeds 8 KiB")
      else
        let state : MemoryCacheState :=
          if evidenceRevision.any (· != revisionId) then .revisionChanged else .current
        match authorizedTarget memory identity.agentId with
        | .error e => .error e
        | .ok target => .ok (⟨memoryId, state, some target, memory.kind, some (decide (target.direction ≠ some .mutual)),
            memory.currentRetrievalKeys, some body⟩, bodyBytes + body.utf8ByteSize)

def Database.readResult (memoryId : String) (bodyBytes : Nat) :
    Except MemoryError (MemoryReadResult × Nat) :=
  let evidenceRevision := d.previousAuthorizedRevision identity memoryId
  match d.get memoryId with
  | none => .ok (unavailableResult memoryId .unavailable, bodyBytes)
  | some memory =>
    let lost := if evidenceRevision.isSome then memory.lifecycle.lostState else .unavailable
    if memory.lifecycle ≠ .active then .ok (unavailableResult memoryId lost, bodyBytes)
    else match d.memoryAccessible identity memory with
      | .error e => .error e
      | .ok false => .ok (unavailableResult memoryId lost, bodyBytes)
      | .ok true => authorizedResult identity evidenceRevision memory memoryId bodyBytes

def MemoryReadResult.redacted (result : MemoryReadResult) : MemoryReadResult :=
  if result.body.isNone then { result with retrievalKeys := [], kind := none, target := none, agentCanRevise := none } else result

def Database.readStep (identity : ReadIdentity) (d : Database) (progress : ReadProgress) (memoryId : String) :
    Database × Except MemoryError ReadProgress :=
  match d.readResult identity memoryId progress.bodyBytes with
  | .error e => (d, .error e)
  | .ok (result, bodyBytes) =>
    Attempts.andThen (d.recordEvidence w identity
      ⟨.read, none, memoryId, result.target.map MemoryTarget.revisionId, result.cacheState⟩)
      fun d' _ => (d', .ok ⟨bodyBytes, progress.results ++ [result.redacted]⟩)

def Database.read (d : Database) (authenticated : Except MemoryError ReadIdentity) (memoryIds : List String) :
    Database × Except MemoryError (List MemoryReadResult) :=
  match authenticated with
  | .error e => (d, .error e)
  | .ok identity =>
    if memoryIds.isEmpty ∨ readMaxIds < memoryIds.length then
      (d, .error (.tool "memory.invalid_input" "memory.read requires one to four Memory IDs"))
    else if memoryIds.dedup.length ≠ memoryIds.length ∨ memoryIds.any (fun id => (trimmed id).isEmpty) then
      (d, .error (.tool "memory.invalid_input" "Memory IDs must be unique and non-empty"))
    else Attempts.andThen (Attempts.loop (Database.readStep w identity) d ⟨0, []⟩ memoryIds) fun d' progress => (d', .ok progress.results)

/-! ## View -/

structure MemoryViewInput where
  scope : MemoryScopeKind
  counterpartyAgentId : Option String

structure MemoryViewItem where
  target : MemoryTarget
  kind : MemoryKind
  retrievalKeys : List String
  body : String
  agentCanRevise : Bool

structure MemoryViewOutput where
  scope : MemoryScopeKind
  counterpartyAgentId : Option String
  complete : Bool
  (itemCount totalBodyBytes : Nat)
  items : List MemoryViewItem

def viewUnavailable : MemoryError := .tool "memory.view_unavailable" "Memory View is unavailable"

variable (input : MemoryViewInput)

def validateViewInput : Except MemoryError Unit :=
  match input.scope with
  | .hearth | .companion =>
    if input.counterpartyAgentId.isSome then
      .error (.tool "memory.invalid_input" "Hearth and Companion View do not accept counterpartyAgentId")
    else .ok ()
  | .relationship =>
    if input.counterpartyAgentId.all (fun value => (trimmed value).isEmpty) then
      .error (.tool "memory.invalid_input" "Relationship View requires counterpartyAgentId")
    else .ok ()

def orderedPair (a b : String) : String × String := if a < b then (a, b) else (b, a)

variable (scope : MemoryScopeKind)

def viewSelects (agentId : String) (counterparty : String) (m : MemoryRow) : Bool :=
  m.lifecycleStatus = .active && m.scope.any fun columns => columns.kind = scope && match scope with
    | .hearth => true
    | .companion => columns.companionAgentId = some agentId
    | .relationship =>
      columns.relationshipAgentLowId = some (orderedPair agentId counterparty).1 &&
        columns.relationshipAgentHighId = some (orderedPair agentId counterparty).2 &&
        (columns.relationshipDirection = some .mutual ||
          (columns.relationshipDirection = some .directed && columns.directedActorAgentId = some agentId))

def kindRank (kind : Option MemoryKind) : Nat :=
  match scope, kind with
  | _, some .agreement => 0
  | .relationship, some .lesson => 1
  | .relationship, _ => 2
  | _, some .preference => 1
  | _, some .lesson => 2
  | _, none => 3

def directionRank (direction : Option RelationshipDirection) : Nat :=
  match scope, direction with
  | .relationship, some .directed => 0
  | .relationship, some .mutual => 1
  | .relationship, none => 2
  | _, _ => 0

def viewRank (m : MemoryRow) : Nat :=
  4 * directionRank scope (m.scope.bind MemoryScope.relationshipDirection) + kindRank scope m.kind

structure ViewRow where
  (memoryId revisionId : String)
  kind : MemoryKind
  direction : Option RelationshipDirection
  body : String
  bodyBytes : Nat
  retrievalKeys : List String

def nullColumn (index : Nat) (name : String) : MemoryError :=
  .context ("Invalid column type Null at index: " ++ toString index ++ ", name: " ++ name)

def viewRow (record : MemoryRow × RevisionRow) : Except MemoryError ViewRow :=
  match record.1.kind, record.2.body, record.2.bodyUtf8Bytes with
  | none, _, _ => .error (nullColumn 2 "kind")
  | _, none, _ => .error (nullColumn 4 "body")
  | _, _, none => .error (nullColumn 5 "body_utf8_bytes")
  | some kind, some body, some bytes => .ok ⟨record.1.id, record.2.id, kind, record.1.scope.bind MemoryScope.relationshipDirection,
      body, bytes, record.2.retrievalKeys⟩

def areCanonicalKeys (keys : List String) : Bool := match normalizeRetrievalKeys keys with
  | .ok canonical => canonical == keys
  | .error _ => false

def viewItem (counterparty : Option String) (row : ViewRow) : Except MemoryError MemoryViewItem :=
  if row.bodyBytes ≠ row.body.utf8ByteSize ∨ ¬(1 ≤ row.bodyBytes ∧ row.bodyBytes ≤ bodyMaxBytes) ∨
      isCanonicalBody row.body = false then .error viewUnavailable
  else if decide (scope = .relationship) ≠ row.direction.isSome ∨ (scope = .relationship ∧ row.kind = .preference) then
    .error viewUnavailable
  else if areCanonicalKeys row.retrievalKeys = false then .error viewUnavailable
  else .ok ⟨⟨row.memoryId, row.revisionId, scope, counterparty, row.direction⟩, row.kind, row.retrievalKeys, row.body,
    decide (row.direction ≠ some .mutual)⟩

def Database.viewRecords (agentId counterparty : String) :
    List (MemoryRow × RevisionRow) :=
  ((d.tables.memories.rows.filter (viewSelects scope agentId counterparty)).insertionSort fun a b =>
    viewRank scope a < viewRank scope b ∨ (viewRank scope a = viewRank scope b ∧ a.id ≤ b.id)).filterMap fun m =>
      (d.currentRevision m).map fun revision => (m, revision)

def Database.loadViewItems (agentId : String) (counterparty : Option String) :
    Except MemoryError (List MemoryViewItem) :=
  match Attempts.collect viewRow (d.viewRecords scope agentId (counterparty.getD "")) with
  | .error e => .error e
  | .ok rows => Attempts.collect (viewItem scope counterparty) rows

def viewMaxItems : MemoryScopeKind → Nat
  | .hearth | .companion => 32
  | .relationship => 12

def viewMaxBodyBytes : MemoryScopeKind → Nat
  | .hearth | .companion => 16384
  | .relationship => 12288

def viewOutputMaxBytes : Nat := 65536

def MemoryScopeKind.asStr : MemoryScopeKind → String
  | .hearth => "hearth"
  | .companion => "companion"
  | .relationship => "relationship"

def MemoryKind.asStr : MemoryKind → String
  | .preference => "preference"
  | .agreement => "agreement"
  | .lesson => "lesson"

def RelationshipDirection.asStr : RelationshipDirection → String
  | .mutual => "mutual"
  | .directed => "directed"

def optionalField (name : String) (value : Option String) : List (String × Json) :=
  value.toList.map fun v => (name, .str v)

def MemoryTarget.toJson (target : MemoryTarget) : Json :=
  .obj ([("memoryId", .str target.memoryId), ("revisionId", .str target.revisionId), ("scope", .str target.scope.asStr)] ++
    optionalField "counterpartyAgentId" target.counterpartyAgentId ++
    optionalField "direction" (target.direction.map RelationshipDirection.asStr))

def MemoryViewItem.toJson (item : MemoryViewItem) : Json :=
  .obj [("target", item.target.toJson), ("kind", .str item.kind.asStr), ("retrievalKeys", .arr (item.retrievalKeys.map .str)),
    ("body", .str item.body), ("agentCanRevise", .bool item.agentCanRevise)]

def MemoryViewOutput.toJson (output : MemoryViewOutput) : Json :=
  .obj ([("scope", .str output.scope.asStr)] ++ optionalField "counterpartyAgentId" output.counterpartyAgentId ++
    [("complete", .bool output.complete), ("itemCount", .num output.itemCount), ("totalBodyBytes", .num output.totalBodyBytes),
      ("items", .arr (output.items.map MemoryViewItem.toJson))])

def Database.viewCounterparty :
    Except MemoryError (Option String) :=
  match input.scope with
  | .hearth | .companion => .ok none
  | .relationship => match input.counterpartyAgentId with
    | none => .error (.context "validated Relationship View has no counterparty")
    | some counterparty =>
      if counterparty = identity.agentId ∨ d.isPresentCurrentCampMember identity.campId counterparty = false then
        .error viewUnavailable
      else .ok (some counterparty)

def Database.viewOutput : Except MemoryError MemoryViewOutput :=
  match d.viewCounterparty identity input with
  | .error e => .error e
  | .ok counterparty => match d.loadViewItems input.scope identity.agentId counterparty with
    | .error e => .error e
    | .ok items =>
      let totalBodyBytes := (items.map fun item => item.body.utf8ByteSize).sum
      if viewMaxItems input.scope < items.length ∨ viewMaxBodyBytes input.scope < totalBodyBytes then .error viewUnavailable
      else
        let output : MemoryViewOutput := ⟨input.scope, counterparty, true, items.length, totalBodyBytes, items⟩
        if viewOutputMaxBytes < Json.bytes output.toJson then .error viewUnavailable else .ok output

def Database.viewStep (identity : ReadIdentity) (d : Database) (_ : Unit) (item : MemoryViewItem) :
    Database × Except MemoryError Unit :=
  d.recordEvidence w identity ⟨.view, none, item.target.memoryId, some item.target.revisionId, .current⟩

def transaction {α : Type} (d : Database) (result : Database × Except MemoryError α) : Database × Except MemoryError α :=
  match result with
  | (d', .error e) => ({ d with drawn := d'.drawn }, .error e)
  | committed => committed

def Database.view (d : Database) (authenticated : Except MemoryError ReadIdentity) (input : MemoryViewInput) :
    Database × Except MemoryError MemoryViewOutput :=
  match validateViewInput input with
  | .error e => (d, .error e)
  | .ok () => transaction d (match authenticated with
    | .error e => (d, .error e)
    | .ok identity => match d.viewOutput identity input with
      | .error e => (d, .error e)
      | .ok output => Attempts.andThen (Attempts.loop (Database.viewStep w identity) d () output.items) fun d' _ => (d', .ok output))

/-! ## A plain outside -/

def plainOutside : Outside where
  sha256 := id
  newId n := String.ofList (List.replicate n 'e')
  now n := String.ofList (List.replicate n 't')
  fts := ⟨fun _ _ => none, fun _ _ _ => true, fun _ _ _ => 0, fun _ _ row => row.body⟩

def adaRun : ReadIdentity := ⟨"ada", "camp", "binding", 1, by decide⟩

end Rovai.Memory
