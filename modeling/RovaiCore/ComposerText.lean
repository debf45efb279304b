import RovaiCore.ComposerContent
/-!
# Composer documents as JSON and as plain text (`camp_content.rs`)

The JSON of a document by its `serde` attributes, and what a text in that form, or in the older form of a list of message
segments, is read as.
-/
namespace Rovai.ComposerContent

open ThreadReference (ReferenceKind)

/-! ## Writing -/

def labelMember (labelFallback : Option String) : List (String × Json) :=
  match labelFallback with
  | none => []
  | some label => [("labelFallback", .str label)]

def ComposerAtom.json : ComposerAtom → Json
  | .member agentId labelFallback => .obj ([("type", .str "member"), ("agentId", .str agentId)] ++ labelMember labelFallback)
  | .allMembers => .obj [("type", .str "all_members")]
  | .threadReference threadId labelFallback =>
    .obj ([("type", .str "thread_reference"), ("threadId", .str threadId)] ++ labelMember labelFallback)
  | .missionReference missionId labelFallback =>
    .obj ([("type", .str "mission_reference"), ("missionId", .str missionId)] ++ labelMember labelFallback)
  | .skill skillId nameAtSend => .obj [("type", .str "skill"), ("skillId", .str skillId), ("nameAtSend", .str nameAtSend)]

def ComposerSegment.json : ComposerSegment → Json
  | .text t => .obj [("kind", .str "text"), ("text", .str t)]
  | .atom a => .obj [("kind", .str "atom"), ("atom", a.json)]

variable (document : ComposerDocument)

def ComposerDocument.json : Json :=
  .obj [("version", .num document.version), ("segments", .arr (document.segments.map ComposerSegment.json))]

def serializeComposerDocument : Except String String :=
  let document := normalizeComposerDocument document
  match validateComposerDocument document with
  | .error e => .error e
  | .ok _ => .ok (Json.encode document.json)

/-! ## Reading -/

def fieldsOf (names : List String) : Json → Option (List (Option Json))
  | .obj members => if members.all fun m => names.contains m.1 then some (names.map fun name => Json.lookupField name members) else none
  | .arr items => if items.length = names.length then some (items.map some) else none
  | _ => none

/-- `tag = "…"`: the name of the variant, and the other members or items. -/
def tagged (tag : String) : Json → Option (String × Json)
  | .obj members => ((Json.lookupField tag members).bind Json.asStr).map fun name =>
      (name, .obj (members.filter fun m => m.1 ≠ tag))
  | .arr (name :: items) => name.asStr.map fun name => (name, .arr items)
  | _ => none

def readStr (field : Option Json) : Option String := field.bind Json.asStr

def readOptStr : Option Json → Option (Option String)
  | none | some .null => some none
  | some j => j.asStr.map some

def isUnit : Json → Bool
  | .obj _ | .arr [] => true
  | _ => false

def readPair {α : Type} (make : String → String → α) (first second : String) (content : Json) : Option α :=
  (fieldsOf [first, second] content).bind fun fields => match fields with
    | [a, b] => (readStr a).bind fun a => (readStr b).map fun b => make a b
    | _ => none

def readLabelled (make : String → Option String → ComposerAtom) (idField : String) (content : Json) : Option ComposerAtom :=
  (fieldsOf [idField, "labelFallback"] content).bind fun fields => match fields with
    | [id, label] => (readStr id).bind fun id => (readOptStr label).map fun label => make id label
    | _ => none

def readSingle {α : Type} (make : String → α) (field : String) (content : Json) : Option α :=
  (fieldsOf [field] content).bind fun fields => match fields with
    | [a] => (readStr a).map make
    | _ => none

variable (j : Json)

def ComposerAtom.read : Option ComposerAtom :=
  (tagged "type" j).bind fun variant => match variant.1 with
    | "member" => readLabelled .member "agentId" variant.2
    | "all_members" => if isUnit variant.2 then some .allMembers else none
    | "thread_reference" => readLabelled .threadReference "threadId" variant.2
    | "mission_reference" => readLabelled .missionReference "missionId" variant.2
    | "skill" => readPair .skill "skillId" "nameAtSend" variant.2
    | _ => none

def ComposerSegment.read : Option ComposerSegment :=
  (tagged "kind" j).bind fun variant => match variant.1 with
    | "text" => readSingle .text "text" variant.2
    | "atom" => (fieldsOf ["atom"] variant.2).bind fun fields => match fields with
      | [some a] => (ComposerAtom.read a).map .atom
      | _ => none
    | _ => none

def readVersion : Option Json → Option Nat
  | some (.num n) => if 0 ≤ n ∧ n < 2 ^ 32 then some n.toNat else none
  | _ => none

def readList {α : Type} (item : Json → Option α) : Option Json → Option (List α)
  | some (.arr items) => items.mapM item
  | _ => none

def ComposerDocument.read : Option ComposerDocument :=
  (fieldsOf ["version", "segments"] j).bind fun fields => match fields with
    | [version, segments] => (readVersion version).bind fun version =>
        (readList ComposerSegment.read segments).map fun segments => ⟨version, segments⟩
    | _ => none

def ExternalQuoteAttachmentSummary.read : Option ExternalQuoteAttachmentSummary :=
  (fieldsOf ["name", "mediaType"] j).bind fun fields => match fields with
    | [name, mediaType] => (readStr name).bind fun name => (readOptStr mediaType).map fun mediaType => ⟨name, mediaType⟩
    | _ => none

def StructuredThreadMessageSegment.read : Option StructuredThreadMessageSegment :=
  (tagged "kind" j).bind fun variant => match variant.1 with
    | "text" => readSingle .text "text" variant.2
    | "member_mention" => readSingle .memberMention "agentId" variant.2
    | "all_members_mention" => if isUnit variant.2 then some .allMembersMention else none
    | "current_user_mention" => readSingle .currentUserMention "userId" variant.2
    | "skill_mention" => readPair .skillMention "skillId" "nameAtSend" variant.2
    | "thread_reference" => readPair .threadReference "threadId" "titleAtSend" variant.2
    | "mission_reference" => readPair .missionReference "missionId" "titleAtSend" variant.2
    | "external_quote" =>
      (fieldsOf ["senderDisplayName", "body", "attachmentSummaries", "contentDigest"] variant.2).bind fun fields => match fields with
        | [sender, body, attachments, contentDigest] => (readStr sender).bind fun sender => (readStr body).bind fun body =>
            (readList ExternalQuoteAttachmentSummary.read attachments).bind fun attachments =>
              (readStr contentDigest).map fun contentDigest => .externalQuote sender body attachments contentDigest
        | _ => none
    | _ => none

def documentOf (digest : Json → String) (j : Json) : Except String ComposerDocument :=
  match j with
  | .arr items => match items.mapM StructuredThreadMessageSegment.read with
    | none => .error "Legacy Composer content is invalid"
    | some legacy => composerDocumentFromContent digest legacy
  | _ => match ComposerDocument.read j with
    | none => .error "Composer Document is invalid"
    | some document => .ok document

def parseComposerDocumentJson (digest : Json → String) (value : String) : Except String ComposerDocument :=
  match Json.read value with
  | none => .error "Composer Document is invalid"
  | some j => match documentOf digest j with
    | .error e => .error e
    | .ok document =>
      let document := normalizeComposerDocument document
      match validateComposerDocument document with
      | .error e => .error e
      | .ok _ => .ok document

/-! ## Plain text -/

def isAsciiPunctuation (c : Char) : Bool :=
  (0x21 ≤ c.toNat && c.toNat ≤ 0x2f) || (0x3a ≤ c.toNat && c.toNat ≤ 0x40) || (0x5b ≤ c.toNat && c.toNat ≤ 0x60) ||
    (0x7b ≤ c.toNat && c.toNat ≤ 0x7e)

def renderLink (kind : ReferenceKind) (id title : String) : String :=
  let escaped := title.toList.flatMap fun c =>
    let c := if isWhitespace c || isControl c then ' ' else c
    if isAsciiPunctuation c then ['\\', c] else [c]
  "[" ++ String.ofList escaped ++ "](rovai://" ++ kind.path ++ "/" ++ id ++ ")"

variable (memberName : String → Option String)

def ComposerSegment.plainText : ComposerSegment → String
  | .text t => t
  | .atom (.member agentId labelFallback) =>
    let label := ((memberName agentId).or labelFallback).getD "不可用队员"
    (if label.toList.head? = some '@' then "" else "@") ++ label
  | .atom (.threadReference threadId labelFallback) => renderLink .thread threadId (labelFallback.getD threadId)
  | .atom (.missionReference missionId labelFallback) => renderLink .mission missionId (labelFallback.getD missionId)
  | .atom .allMembers => "@所有队员"
  | .atom (.skill _ nameAtSend) => "/" ++ nameAtSend

def renderComposerPlainText : Except String String :=
  match validateComposerDocument document with
  | .error e => .error e
  | .ok _ => .ok (document.segments.foldl (fun rendered segment => rendered ++ segment.plainText memberName) "")

def lines : List Char → List (List Char)
  | [] => []
  | '\r' :: '\n' :: rest => [] :: lines rest
  | '\n' :: rest => [] :: lines rest
  | c :: rest => match lines rest with
    | [] => [[c]]
    | line :: later => (c :: line) :: later

def quoteText (senderDisplayName body : String) (attachments : List ExternalQuoteAttachmentSummary) : String :=
  let quoted := (lines body.toList).map fun line => "> " ++ String.ofList line
  "引用 " ++ senderDisplayName ++ "：\n" ++ String.intercalate "\n" quoted ++ (if body = "" then "> （无文本）" else "") ++
    String.join (attachments.map fun a => "\n> [附件] " ++ a.name ++ match a.mediaType with
      | none => ""
      | some mediaType => " (" ++ mediaType ++ ")")

def segmentProjectsNonempty : StructuredThreadMessageSegment → Bool
  | .text t => t ≠ ""
  | _ => true

def StructuredThreadMessageSegment.plainText (currentUser : String) (spaced : Bool) :
    StructuredThreadMessageSegment → Except String String
  | .text t => .ok t
  | .memberMention agentId => match memberName agentId with
    | none => .error "Member Mention identity does not exist"
    | some name => .ok ("@" ++ name)
  | .threadReference threadId titleAtSend => .ok (renderLink .thread threadId titleAtSend)
  | .missionReference missionId titleAtSend => .ok (renderLink .mission missionId titleAtSend)
  | .allMembersMention => .ok "@所有队员"
  | .currentUserMention userId =>
    if userId ≠ currentUserId then .error "Current User Mention identity does not exist"
    else .ok ("@" ++ currentUser ++ if spaced then " " else "")
  | .skillMention _ nameAtSend => .ok ("/" ++ nameAtSend)
  | .externalQuote senderDisplayName body attachments _ => .ok (quoteText senderDisplayName body attachments)

def renderFrom (memberName : String → Option String) (currentUser : String) :
    Nat → String → StructuredThreadMessageContent → Except String String
  | _, rendered, [] => .ok rendered
  | index, rendered, segment :: rest =>
    match segment.plainText memberName currentUser (index = 0 && rest.any segmentProjectsNonempty) with
    | .error e => .error e
    | .ok shown => renderFrom memberName currentUser (index + 1) (rendered ++ shown) rest

def renderPlainTextWithCurrentUser (content : StructuredThreadMessageContent) (memberName : String → Option String)
    (currentUser : String) : Except String String :=
  if trim currentUser.toList = [] then .error "Current User display name must not be empty"
  else renderFrom memberName currentUser 0 "" content

def renderPlainText (content : StructuredThreadMessageContent) (memberName : String → Option String) : Except String String :=
  renderPlainTextWithCurrentUser content memberName currentUserDisplayName

end Rovai.ComposerContent
