import RovaiCore.Fallible
import RovaiCore.Tables
import RovaiCore.Interruption
import Mathlib.Data.Finmap
/-!
# The managed blob store (`managed_blob.rs`)

Content lies at a path formed from its digest. The directory `tmp` beside it holds the journals and the data of candidate writes,
and the content that a collection took away.
-/
namespace Rovai.Blobs

open Tables (Table)
open Fallible (orError)
open Procedure

/-! ## Files -/

abbrev Bytes := List UInt8

inductive TmpName where
  | quarantine (digest : String) (id : Option String)
  | candidateIntent (id : String)
  | candidateIntentWrite (id : String)
  | candidateData (id : String)
  | discard (id : String)
  | other (name : String)
  deriving DecidableEq

inductive Path where
  | content (digest : String)
  | tmp (name : TmpName)
  deriving DecidableEq

abbrev Files := Finmap fun _ : Path => Bytes

namespace Files

def notFound : String := "No such file or directory (os error 2)"

def createNew (path : Path) (files : Files) : Except String Files :=
  if (files.lookup path).isSome then .error "File exists (os error 17)" else .ok (files.insert path [])

def write (path : Path) (bytes : Bytes) (files : Files) : Except String Files :=
  .ok (files.insert path bytes)

def rename (source target : Path) (files : Files) : Except String Files :=
  match files.lookup source with
  | none => .error notFound
  | some bytes => .ok ((files.erase source).insert target bytes)

def removeFile (path : Path) (files : Files) : Except String Files :=
  if (files.lookup path).isSome then .ok (files.erase path) else .error notFound

end Files

/-! ## Rows -/

structure ManagedBlob where
  sha256 : String
  byteSize : Nat
  (mediaType storageRelativePath state sensitivity createdAt : String)
  verifiedAt : Option String
  updatedAt : String
  (gcCandidateAt gcCandidateOwner : Option String)

def ManagedBlob.id (b : ManagedBlob) : String :=
  "blob-sha256-" ++ b.sha256

/-- `references` are the blobs that rows of other tables name in a foreign key, or in `action_execution.result_blob_id`. -/
structure BlobStore where
  files : Files
  blobs : Table ManagedBlob.sha256
  references : List String

structure CandidateWriteIntent where
  version : Nat
  (digest owner createdAt : String)

structure Environment where
  sha256 : Bytes → String
  intentJson : CandidateWriteIntent → Bytes
  parseIntent : Bytes → Option CandidateWriteIntent
  isRfc3339 : String → Bool

def maxBlobBytes : Nat := 64 * 1024 * 1024

variable (digest : String)

def blobRelativePath : String :=
  "sha256/" ++ String.ofList (digest.toList.take 2) ++ "/" ++ digest

def isHexDigit (c : Char) : Bool :=
  c.isDigit || ('a' ≤ c && c ≤ 'f') || ('A' ≤ c && c ≤ 'F')

def validDigest (value : String) : Bool :=
  value.toList.length == 64 && value.toList.all isHexDigit

def gcOwner (owner : String) : Bool :=
  owner == "execution_lifecycle" || owner == "file_change_projection" || owner == "camp_deletion"

def validMediaType (value : String) : Bool :=
  !value.isEmpty && decide (value.utf8ByteSize ≤ 127) && !value.toList.any (fun c => c.toNat < 32 || (127 ≤ c.toNat && c.toNat < 160)) &&
    value.toList.contains '/'

def attachGcCandidate (now : String) (b : ManagedBlob) : ManagedBlob :=
  { b with gcCandidateAt := none, gcCandidateOwner := none, updatedAt := now }

namespace BlobStore

variable (s : BlobStore)

def fileExists (path : Path) : Bool :=
  (s.files.lookup path).isSome

def isReferenced (blobId : String) : Bool :=
  s.references.contains blobId

end BlobStore

abbrev Work := Procedure BlobStore String

def onFiles (f : Files → Except String Files) : Work Unit :=
  act fun s => (f s.files).map fun files => { s with files := files }

/-! ## A candidate write -/

/-- `tornIntent` and `tornData` say how much of a file is there when its write was not synced. -/
structure CandidateWrite where
  bytes : Bytes
  (mediaType sensitivity owner intentId now : String)
  (tornIntent tornData : Nat)

variable (w : CandidateWrite)

def validateCandidate : Except String Unit :=
  if !gcOwner w.owner then .error "Managed Blob GC owner is invalid"
  else if !validMediaType w.mediaType then .error "Blob media type is invalid"
  else if !(w.sensitivity == "normal" || w.sensitivity == "sensitive") then
    .error "Blob sensitivity must be normal or sensitive"
  else if maxBlobBytes < w.bytes.length then .error "Managed Blob exceeds 67108864 bytes"
  else .ok ()

def writeNew (path : Path) (bytes : Bytes) (torn : Nat) : Work Unit := do
  onFiles (Files.createNew path)
  onFiles (Files.write path (bytes.take torn))
  onFiles (Files.write path bytes)

variable (env : Environment)

def placeContent (digest : String) (w : CandidateWrite) : Work Unit := do
  let existing ← ask fun s => s.files.lookup (.content digest)
  match existing with
  | some content =>
    if env.sha256 content = digest ∧ content.length = w.bytes.length then
      onFiles (Files.removeFile (.tmp (.candidateData w.intentId)))
    else Procedure.fail "Managed Blob digest collision or corrupted existing content"
  | none => onFiles (Files.rename (.tmp (.candidateData w.intentId)) (.content digest))

def newBlob : ManagedBlob :=
  { sha256 := digest, byteSize := w.bytes.length, mediaType := w.mediaType, storageRelativePath := blobRelativePath digest
    state := "present", sensitivity := w.sensitivity, createdAt := w.now, verifiedAt := some w.now, updatedAt := w.now
    gcCandidateAt := some w.now, gcCandidateOwner := some w.owner }

def markCandidate (b : ManagedBlob) : ManagedBlob :=
  { b with
    state := "present", verifiedAt := some w.now, updatedAt := w.now, gcCandidateAt := some w.now
    gcCandidateOwner := some w.owner }

variable (s : BlobStore)

def commitCandidate : Except String BlobStore :=
  match s.blobs.find? digest with
  | some b =>
    if b.byteSize ≠ w.bytes.length || b.storageRelativePath ≠ blobRelativePath digest then
      .error "Managed Blob metadata conflicts with content address"
    else .ok { s with blobs := s.blobs.update digest (markCandidate w) }
  | none => .ok { s with blobs := s.blobs.insert (newBlob digest w) }

def putBytesCandidate (w : CandidateWrite) : Work ManagedBlob := do
  observe fun _ => validateCandidate w
  let digest := env.sha256 w.bytes
  writeNew (.tmp (.candidateIntentWrite w.intentId)) (env.intentJson ⟨1, digest, w.owner, w.now⟩) w.tornIntent
  onFiles (Files.rename (.tmp (.candidateIntentWrite w.intentId)) (.tmp (.candidateIntent w.intentId)))
  writeNew (.tmp (.candidateData w.intentId)) w.bytes w.tornData
  placeContent env digest w
  act (commitCandidate digest w)
  let metadata ← observe fun s => orError (s.blobs.find? digest) "Managed Blob candidate metadata was not persisted"
  onFiles (Files.removeFile (.tmp (.candidateIntent w.intentId)))
  return metadata

/-! ## A collection -/

/-- `transactionFails`: the row cannot be deleted, or its deletion not committed. -/
structure Collection where
  (detachedBefore blobId digest quarantineId now : String)
  transactionFails : Bool

def Collection.quarantine (w : Collection) : TmpName :=
  .quarantine w.digest (some w.quarantineId)

def Collection.deletes (w : Collection) (b : ManagedBlob) : Bool :=
  b.id == w.blobId && b.gcCandidateAt.any (fun value => decide (value < w.detachedBefore))

def Collection.putBack (w : Collection) : Work Unit :=
  onFiles (Files.rename (.tmp w.quarantine) (.content w.digest))

def Collection.candidateAt (w : Collection) (s : BlobStore) : Option String :=
  ((s.blobs.find? w.digest).filter (fun b => b.id == w.blobId && b.gcCandidateOwner.any gcOwner)).bind (·.gcCandidateAt)

def deleteRow (w : Collection) (moved : Bool) : Work (Option (String × Option TmpName)) := do
  let deleted ← ask fun s => s.blobs.rows.countP w.deletes
  if w.transactionFails then
    if moved then
      let _ ← (attempt w.putBack : Work (Except String Unit))
    Procedure.fail "database is locked"
  else if deleted = 1 then
    act fun s => .ok { s with blobs := s.blobs.deleteWhere w.deletes }
    return some (w.blobId, if moved then some w.quarantine else none)
  else
    if moved then
      w.putBack
    return none

def collectGcCandidate (w : Collection) : Work (Option (String × Option TmpName)) := do
  let candidateAt ← ask w.candidateAt
  if candidateAt.all (fun value => !decide (value < w.detachedBefore)) then
    return none
  else
    let referenced ← ask fun s => s.isReferenced w.blobId
    if referenced then
      act fun s => .ok { s with blobs := s.blobs.updateWhere (fun b => b.id == w.blobId) (attachGcCandidate w.now) }
      return none
    else if !validDigest w.digest then
      Procedure.fail "Managed Blob digest is invalid"
    else
      let moved ← ask fun s => s.fileExists (.content w.digest)
      if moved then
        onFiles (Files.rename (.content w.digest) (.tmp w.quarantine))
      deleteRow w moved

/-! ## Recovery -/

def quarantineDigest : TmpName → Option String
  | .quarantine digest _ => if validDigest digest then some digest else none
  | _ => none

def candidateIntentId : TmpName → Option String
  | .candidateIntent id => some id
  | _ => none

def readIntent (bytes : Bytes) : Except String CandidateWriteIntent :=
  if 16 * 1024 < bytes.length then .error "oversized Blob intent"
  else
    match env.parseIntent bytes with
    | none => .error "invalid JSON"
    | some intent =>
      if intent.version ≠ 1 || !validDigest intent.digest then .error "invalid Blob intent"
      else if !gcOwner intent.owner then .error "Managed Blob GC owner is invalid"
      else if !env.isRfc3339 intent.createdAt then .error "input contains invalid characters"
      else .ok intent

variable (name : TmpName)

def quarantineDiscard (id : String) (s : BlobStore) : List TmpName × BlobStore :=
  match Files.rename (.tmp name) (.tmp (.discard id)) s.files with
  | .ok files => ([.discard id], { s with files := files })
  | .error _ => ([], s)

def recoverQuarantine (digest discardId : String) (s : BlobStore) : Except String (List TmpName × BlobStore) :=
  if (s.blobs.find? digest).isSome then
    if s.fileExists (.content digest) then .ok ([], s)
    else (Files.rename (.tmp name) (.content digest) s.files).map fun files => ([], { s with files := files })
  else .ok (quarantineDiscard name discardId s)

def candidateAgain (intent : CandidateWriteIntent) (b : ManagedBlob) : ManagedBlob :=
  { b with
    gcCandidateAt := some (b.gcCandidateAt.getD intent.createdAt)
    gcCandidateOwner := some (b.gcCandidateOwner.getD intent.owner), updatedAt := intent.createdAt }

def adoptData (intentId digest : String) (s : BlobStore) : Except String BlobStore :=
  if !s.fileExists (.content digest) && s.fileExists (.tmp (.candidateData intentId)) then
    (Files.rename (.tmp (.candidateData intentId)) (.content digest) s.files).map fun files => { s with files := files }
  else .ok s

def recoverIntent (intentId : String) (intent : CandidateWriteIntent) (now : String)
    (discardIds : String × String) (s : BlobStore) : Except String (List TmpName × BlobStore) :=
  match s.blobs.find? intent.digest with
  | none => .ok ([], s)
  | some b =>
    if s.fileExists (.content intent.digest) && s.fileExists (.tmp (.candidateData intentId)) then .ok ([], s)
    else
      match adoptData intentId intent.digest s with
      | .error message => .error message
      | .ok adopted =>
        if !adopted.fileExists (.content intent.digest) then .ok ([], adopted)
        else
          let attached := { adopted with
            blobs := adopted.blobs.update intent.digest
              (fun b' => if s.isReferenced b.id then attachGcCandidate now b' else candidateAgain intent b')
              (by intro b'; split <;> rfl) }
          let data := quarantineDiscard (.candidateData intentId) discardIds.1 attached
          let journal := quarantineDiscard name discardIds.2 data.2
          .ok (data.1 ++ journal.1, journal.2)

def recoverGcEntry (intent : Option CandidateWriteIntent) (now : String) (discardIds : String × String)
    (s : BlobStore) : Except String (List TmpName × BlobStore) :=
  match quarantineDigest name with
  | some digest => recoverQuarantine name digest discardIds.1 s
  | none =>
    match candidateIntentId name, intent with
    | some intentId, some intent => recoverIntent name intentId intent now discardIds s
    | _, _ => .ok ([], s)

/-- An entry of `tmp` as a pass comes to it.  `locked`: another holds the database; `removable`: a discarded file can be
removed. -/
structure Visit where
  name : TmpName
  locked : Bool
  now : String
  discardIds : String × String
  removable : Bool

def visitedIntent (v : Visit) (s : BlobStore) : Except String (Option CandidateWriteIntent) :=
  if (candidateIntentId v.name).isSome then
    match s.files.lookup (.tmp v.name) with
    | none => .error Files.notFound
    | some bytes => (readIntent env bytes).map some
  else .ok none

def removeDiscarded : BlobStore :=
  { s with files := s.files.erase (.tmp name) }

def visit (v : Visit) : BlobStore :=
  match visitedIntent env v s with
  | .error _ => s
  | .ok intent =>
    if v.locked then s
    else
      match recoverGcEntry v.name intent v.now v.discardIds s with
      | .error _ => s
      | .ok (discarded, s') => if v.removable then discarded.foldl removeDiscarded s' else s'

structure Pass where
  entries : List Visit
  budget : Nat

def recoverGcState (p : Pass) : BlobStore :=
  (p.entries.take p.budget).foldl (visit env) s

end Rovai.Blobs
