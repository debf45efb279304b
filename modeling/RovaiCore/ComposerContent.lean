import RovaiCore.Attempts
import RovaiCore.Coalesce
import RovaiCore.JsonReader
import RovaiCore.ThreadReference
/-!
# Composer documents and message content (`camp_content.rs`)

A draft is a document of texts and atoms, a message is a list of segments.
-/
namespace Rovai.ComposerContent

open ThreadReference (ReferenceKind)

/-! ## The two schemas -/

def composerDocumentVersion : Nat := 2

inductive ComposerAtom where
  | member (agentId : String) (labelFallback : Option String)
  | allMembers
  | threadReference (threadId : String) (labelFallback : Option String)
  | missionReference (missionId : String) (labelFallback : Option String)
  | skill (skillId nameAtSend : String)

inductive ComposerSegment where
  | text (text : String)
  | atom (atom : ComposerAtom)

structure ComposerDocument where
  version : Nat
  segments : List ComposerSegment

structure ExternalQuoteAttachmentSummary where
  name : String
  mediaType : Option String

inductive StructuredThreadMessageSegment where
  | text (text : String)
  | memberMention (agentId : String)
  | allMembersMention
  | currentUserMention (userId : String)
  | skillMention (skillId nameAtSend : String)
  | threadReference (threadId titleAtSend : String)
  | missionReference (missionId titleAtSend : String)
  | externalQuote (senderDisplayName body : String) (attachmentSummaries : List ExternalQuoteAttachmentSummary)
      (contentDigest : String)

abbrev StructuredThreadMessageContent := List StructuredThreadMessageSegment

def maxContentSegments : Nat := 4096
def maxContentTextBytes : Nat := 1048576

def currentUserId : String := "local_user"

def currentUserDisplayName : String := "你"

/-! ## Checks -/

def isControl (c : Char) : Bool := decide (c.toNat ≤ 0x1f) || (decide (0x7f ≤ c.toNat) && decide (c.toNat ≤ 0x9f))

def isTrimmed (value : String) : Bool := trim value.toList = value.toList

def ensure (ok : Bool) (message : String) : Except String Unit :=
  if ok then .ok () else .error message

def validateComposerIdentity (value label : String) : Except String Unit :=
  ensure (value ≠ "" && isTrimmed value && value.utf8ByteSize ≤ 256 && !value.toList.any isControl)
    (label ++ " requires a canonical identity")

variable (kind : ReferenceKind)

def validateId (id : String) : Except String Unit :=
  match kind with
  | .thread => ThreadReference.parseThreadId id
  | .mission => ensure (ThreadReference.isMissionId id) "Invalid Mission reference ID"

def validateLabel (label : String) : Except String Unit :=
  ensure (label ≠ "" && isTrimmed label && label.length ≤ 500) "Invalid reference label"

def validateSkillCharacters (size : Nat) : Nat → Bool → List Char → Except String Unit
  | _, _, [] => .ok ()
  | index, previousHyphen, c :: rest =>
    if c.isLower ∨ c.isDigit then validateSkillCharacters size (index + 1) false rest
    else if c = '-' ∧ 0 < index ∧ previousHyphen = false ∧ index + c.utf8Size < size then
      validateSkillCharacters size (index + 1) true rest
    else .error "Skill name must use lowercase ASCII letters, digits, and single hyphens"

def validateSkillName (name : String) : Except String Unit :=
  if name = "" ∨ 64 < name.utf8ByteSize then .error "Skill name must contain between 1 and 64 characters"
  else validateSkillCharacters name.utf8ByteSize 0 false name.toList

def validateSkillReferenceName (skillId name : String) : Except String Unit :=
  if "native:".toList.isPrefixOf skillId.toList then ensure (trim name.toList ≠ []) "Native Skill name is empty"
  else validateSkillName name

def counting (checks : List (Except String Unit)) (bytes : Nat) : Except String Nat :=
  match Attempts.collect id checks with
  | .error e => .error e
  | .ok _ => .ok bytes

def checkAll {σ : Type} (check : σ → Except String Nat) (tooMany tooLong : String) (segments : List σ) : Except String Unit :=
  if maxContentSegments < segments.length then .error tooMany
  else match Attempts.collect check segments with
    | .error e => .error e
    | .ok bytes => if maxContentTextBytes < bytes.sum then .error tooLong else .ok ()

def memberLabelOk (label : String) : Bool :=
  isTrimmed label && label ≠ "" && label.length ≤ 120 && !label.toList.any isControl

def checkReferenceAtom (id : String) (labelFallback : Option String) : Except String Nat :=
  match labelFallback with
  | none => counting [validateId kind id] 0
  | some label => counting [validateId kind id, validateLabel label] label.utf8ByteSize

def ComposerSegment.check : ComposerSegment → Except String Nat
  | .text t => .ok t.utf8ByteSize
  | .atom (.member agentId labelFallback) =>
    match labelFallback with
    | none => counting [validateComposerIdentity agentId "Member Atom"] 0
    | some label => counting [validateComposerIdentity agentId "Member Atom",
        ensure (memberLabelOk label) "Member Atom fallback label is invalid"] label.utf8ByteSize
  | .atom (.threadReference threadId labelFallback) => checkReferenceAtom .thread threadId labelFallback
  | .atom (.missionReference missionId labelFallback) => checkReferenceAtom .mission missionId labelFallback
  | .atom .allMembers => .ok 0
  | .atom (.skill skillId nameAtSend) =>
    counting [validateComposerIdentity skillId "Skill Atom", validateSkillReferenceName skillId nameAtSend] 0

variable (document : ComposerDocument)

def validateComposerDocument : Except String Unit :=
  if document.version ≠ composerDocumentVersion then .error "Composer Document requires version 2"
  else checkAll ComposerSegment.check "Composer Document has too many segments" "Composer Document text exceeds 1 MiB"
    document.segments

section Content

variable (digest : Json → String)

def checkReference (id titleAtSend : String) : Except String Nat :=
  counting [validateId kind id, validateLabel titleAtSend] titleAtSend.utf8ByteSize

def mentionIdOk (id : String) : Bool := id ≠ "" && isTrimmed id && id.utf8ByteSize ≤ 256

def attachmentNameOk (name : String) : Bool :=
  isTrimmed name && name ≠ "" && name.length ≤ 256 && !name.toList.any isControl

def mediaTypeOk (mediaType : Option String) : Bool :=
  match mediaType with
  | none => true
  | some value => isTrimmed value && value ≠ "" && value.utf8ByteSize ≤ 128 && !value.toList.any isControl

def ExternalQuoteAttachmentSummary.json (attachment : ExternalQuoteAttachmentSummary) : Json :=
  .obj [("name", .str attachment.name), ("mediaType", Json.ofOptStr attachment.mediaType)]

def quoteDigest (senderDisplayName body : String) (attachments : List ExternalQuoteAttachmentSummary) : String :=
  "sha256:" ++ digest (.obj [("senderDisplayName", .str senderDisplayName), ("body", .str body),
    ("attachmentSummaries", .arr (attachments.map ExternalQuoteAttachmentSummary.json))])

def isContentDigest (contentDigest : String) : Bool :=
  "sha256:".toList.isPrefixOf contentDigest.toList && decide ((contentDigest.toList.drop 7).length = 64) &&
    (contentDigest.toList.drop 7).all fun c => c.isDigit || (decide ('a' ≤ c) && decide (c ≤ 'f'))

def quoteBytes (senderDisplayName body : String) (attachments : List ExternalQuoteAttachmentSummary) : Nat :=
  senderDisplayName.utf8ByteSize + body.utf8ByteSize +
    (attachments.map fun a => a.name.utf8ByteSize + (a.mediaType.map String.utf8ByteSize).getD 0).sum

def StructuredThreadMessageSegment.check : StructuredThreadMessageSegment → Except String Nat
  | .text t => .ok t.utf8ByteSize
  | .memberMention agentId => counting [ensure (mentionIdOk agentId) "Member Mention requires a canonical Agent ID"] 0
  | .threadReference threadId titleAtSend => checkReference .thread threadId titleAtSend
  | .missionReference missionId titleAtSend => checkReference .mission missionId titleAtSend
  | .allMembersMention => .ok 0
  | .currentUserMention userId =>
    counting [ensure (userId = currentUserId) "Current User Mention requires the canonical local user ID"] 0
  | .skillMention skillId nameAtSend =>
    counting [ensure (mentionIdOk skillId) "Skill Mention requires a canonical Skill ID",
      validateSkillReferenceName skillId nameAtSend] 0
  | .externalQuote senderDisplayName body attachments contentDigest =>
    counting ([ensure (memberLabelOk senderDisplayName) "External Quote requires a bounded sender display name",
        ensure (body.length ≤ 8000) "External Quote body exceeds 8,000 Unicode scalar values",
        ensure (attachments.length ≤ 20) "External Quote has too many attachment summaries"] ++
      (attachments.flatMap fun a => [ensure (attachmentNameOk a.name) "External Quote attachment name is invalid",
        ensure (mediaTypeOk a.mediaType) "External Quote attachment media type is invalid"]) ++
      [ensure (isContentDigest contentDigest && contentDigest = quoteDigest digest senderDisplayName body attachments)
        "External Quote requires its canonical SHA-256 digest"])
      (quoteBytes senderDisplayName body attachments)

variable (content : StructuredThreadMessageContent)

def validateContent : Except String Unit :=
  checkAll (StructuredThreadMessageSegment.check digest) "Structured Thread Message Content has too many segments"
    "Structured Thread Message Content text exceeds 1 MiB" content

def mentionsCurrentUser : Bool :=
  content.any fun segment => match segment with
    | .currentUserMention userId => userId = currentUserId
    | _ => false

def StructuredThreadMessageSegment.isQuote : StructuredThreadMessageSegment → Bool
  | .externalQuote .. => true
  | _ => false

/-- What a user's composer may submit: neither a mention of the current user nor a quote from outside, which Core alone makes. -/
def validateUserAuthoredContent : Except String Unit :=
  match validateContent digest content with
  | .error e => .error e
  | .ok _ =>
    if mentionsCurrentUser content then .error "Current User Mention can only be generated by Core"
    else if content.any StructuredThreadMessageSegment.isQuote then
      .error "External Quote can only be generated by trusted channel ingress"
    else .ok ()

end Content

/-! ## Normalizing -/

def ComposerSegment.asText : ComposerSegment → Option String
  | .text t => some t
  | .atom _ => none

def StructuredThreadMessageSegment.asText : StructuredThreadMessageSegment → Option String
  | .text t => some t
  | _ => none

def composerTexts : Coalesce.Texts ComposerSegment where
  text := ComposerSegment.asText
  ofText := .text
  text_ofText _ := rfl
  eq_ofText {s t} h := by
    cases s with
    | text t => exact congrArg _ (Option.some.inj h)
    | atom atom => cases h

def contentTexts : Coalesce.Texts StructuredThreadMessageSegment where
  text := StructuredThreadMessageSegment.asText
  ofText := .text
  text_ofText _ := rfl
  eq_ofText {s t} h := by
    cases s with
    | text t => exact congrArg _ (Option.some.inj h)
    | _ => cases h

def normalizeComposerDocument : ComposerDocument :=
  { document with segments := composerTexts.normalize document.segments }

def normalizeContent (content : StructuredThreadMessageContent) : StructuredThreadMessageContent :=
  contentTexts.normalize content

/-! ## From one to the other -/

/-- The labels of a draft are provisional: a reference without one takes its identity for a title. -/
def ComposerSegment.toContent : ComposerSegment → StructuredThreadMessageSegment
  | .text t => .text t
  | .atom (.member agentId _) => .memberMention agentId
  | .atom (.threadReference threadId labelFallback) => .threadReference threadId (labelFallback.getD threadId)
  | .atom (.missionReference missionId labelFallback) => .missionReference missionId (labelFallback.getD missionId)
  | .atom .allMembers => .allMembersMention
  | .atom (.skill skillId nameAtSend) => .skillMention skillId nameAtSend

def composerDocumentToContent : Except String StructuredThreadMessageContent :=
  match validateComposerDocument document with
  | .error e => .error e
  | .ok _ => .ok (normalizeContent (document.segments.map ComposerSegment.toContent))

def StructuredThreadMessageSegment.toComposer : StructuredThreadMessageSegment → Except String ComposerSegment
  | .text t => .ok (.text t)
  | .memberMention agentId => .ok (.atom (.member agentId none))
  | .allMembersMention => .ok (.atom .allMembers)
  | .skillMention skillId nameAtSend => .ok (.atom (.skill skillId nameAtSend))
  | .threadReference threadId titleAtSend => .ok (.atom (.threadReference threadId (some titleAtSend)))
  | .missionReference missionId titleAtSend => .ok (.atom (.missionReference missionId (some titleAtSend)))
  | .currentUserMention _ | .externalQuote .. => .error "Composer Document cannot contain Core-owned message segments"

def composerDocumentFromContent (digest : Json → String) (content : StructuredThreadMessageContent) : Except String ComposerDocument :=
  match validateUserAuthoredContent digest content with
  | .error e => .error e
  | .ok _ => match Attempts.collect StructuredThreadMessageSegment.toComposer (normalizeContent content) with
    | .error e => .error e
    | .ok segments =>
      let document : ComposerDocument := ⟨composerDocumentVersion, segments⟩
      match validateComposerDocument document with
      | .error e => .error e
      | .ok _ => .ok document

end Rovai.ComposerContent
