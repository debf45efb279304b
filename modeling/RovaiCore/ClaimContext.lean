import RovaiCore.SkillSelection
import RovaiCore.JsonText
/-!
# The context of a claimed batch (`context/claim.rs`, `context.rs`)

What a batch Run is given to read, as the claim builds it: the tasks of the agent, the facts of the Run, the additional Skills and
the messages of the batch.
-/
namespace Rovai.BatchClaims

/-! ## Messages -/

structure MessageAttachment where
  (name mediaType path : String)

structure MessageMention where
  id : String
  name : Option String

/-- `senderName` is none for a user, and none inside when the name is unknown. -/
structure MessageSender where
  (senderType senderId : String)
  senderName : Option (Option String)

structure SharedMessage where
  messageId : String
  sequence : Int
  (senderType senderId body : String)
  modelSender : Option MessageSender
  replyToMessageId : Option String
  quotes : List String
  attachments : List MessageAttachment
  mentions : Option (List MessageMention)
  mentionsCurrentUser : Bool
  skillNames : List String
  skillMentions : List (String × String)

def optionalField (key : String) (value : Option Json) : List (String × Json) :=
  match value with
  | some v => [(key, v)]
  | none => []

def MessageSender.fields (sender : MessageSender) : List (String × Json) :=
  [("senderType", .str sender.senderType), ("senderId", .str sender.senderId)] ++
    optionalField "senderName" (sender.senderName.map Json.ofOptStr)

def modelQuote (text : String) : Json := Json.mkObj [("kind", .str "message_excerpt"), ("text", .str text)]

def modelAttachment (attachment : MessageAttachment) : Json :=
  Json.mkObj [("name", .str attachment.name), ("mediaType", .str attachment.mediaType), ("path", .str attachment.path)]

def modelMention (mention : MessageMention) : Json :=
  Json.mkObj ([("id", Json.str mention.id)] ++ optionalField "name" (mention.name.map .str))

def nonempty {α : Type} (items : List α) : Option (List α) := if items.isEmpty then none else some items

variable (message : SharedMessage)

def laterFields : List (String × Json) :=
  (message.modelSender.map MessageSender.fields).getD [] ++
  optionalField "anchorMessageId" (message.replyToMessageId.map .str) ++
  optionalField "quotes" ((nonempty message.quotes).map fun quotes => .arr (quotes.map modelQuote)) ++
  optionalField "attachments" ((nonempty message.attachments).map fun attachments => .arr (attachments.map modelAttachment)) ++
  match message.mentions with
  | some mentions => [("mentions", .arr (mentions.map modelMention))]
  | none => if message.mentionsCurrentUser then [("mentionsCurrentUser", .bool true)] else []

def messageFields : List (String × Json) :=
  [("messageId", .str message.messageId), ("sequence", .num message.sequence), ("senderType", .str message.senderType),
    ("senderId", .str message.senderId), ("body", .str message.body)] ++ laterFields message

def modelBatchMessage : Json := Json.mkObj (messageFields message)

def modelSkill (name path : String) : Json := Json.mkObj [("name", .str name), ("path", .str path)]

variable (links : List CurrentInputSkillLink)

def messageSkills (message : SharedMessage) (index : Nat) : List Json :=
  if links.any (fun link => link.skillId.isSome) then
    message.skillMentions.filterMap fun mention =>
      (links.find? (fun link => link.skillId == some mention.1)).map fun link => modelSkill mention.2 link.path
  else
    (links.filter fun link =>
      match link.messageIndex with
      | none => message.skillNames.any (· == link.name)
      | some position => position == index).map fun link => modelSkill link.name link.path

def modelBatchInputMessage (message : SharedMessage) (index : Nat) : Json :=
  match messageSkills links message index with
  | [] => modelBatchMessage message
  | skill :: skills => (modelBatchMessage message).setField "skills" (.arr (skill :: skills))

def inputMessages (links : List CurrentInputSkillLink) : Nat → List SharedMessage → List Json
  | _, [] => []
  | index, message :: rest => modelBatchInputMessage links message index :: inputMessages links (index + 1) rest

def runInputProjection (messages : List SharedMessage) : Json :=
  Json.mkObj [("messages", .arr (inputMessages links 0 messages))]

/-! ## What a claim reads -/

structure CampMessage where
  (id campId : String)
  sequence : Int
  (authorType authorId : String)
  (tombstoned withdrawn : Bool)
  structuredContentJson : Option String

structure ManagedSkills where
  root : String
  rootText : Option String

structure SelfActiveTask where
  (taskId title status : String)

structure PreparedAdditionalSkills where
  text : String
  omitted : List String

/-- `runFacts` are the members of the rendered facts and `factReferences` name them.  Of the contents that the bootstrap is
made of, the claim keeps the room they take. -/
structure ClaimedBatchContext where
  collaborationState : Json
  tasksEnabled : Bool
  tasks : List SelfActiveTask
  omittedTasks : Nat
  runFacts : List (String × Json)
  factReferences : List String
  workspace : Option Json
  additionalSkills : PreparedAdditionalSkills
  hadNativeSession : Bool
  runInput : Json
  bootstrapReserve : Nat

/-- The database and the files, while one claim is made: `prepared` is the context without an input, and `project` reads the
rest of a message. -/
structure ClaimReads where
  catalog : SkillCatalog
  parseContent : String → Except String (List Segment)
  messages : List CampMessage
  project : CampMessage → Except String SharedMessage
  conversationPresent : Bool
  managed : Except String ManagedSkills
  syncError : Option String
  configuredToolboxNames : String → List String
  prepared : Except String ClaimedBatchContext

variable (reads : ClaimReads)

def skillMentionsOf : List String → List String → List Segment → List String × List (String × String)
  | _, _, [] => ([], [])
  | names, ids, .skillMention skillId nameAtSend :: rest =>
    let (restNames, restMentions) := skillMentionsOf (nameAtSend :: names) (skillId :: ids) rest
    (if names.contains nameAtSend then restNames else nameAtSend :: restNames,
      if ids.contains skillId then restMentions else (skillId, nameAtSend) :: restMentions)
  | names, ids, .other :: rest => skillMentionsOf names ids rest

def ClaimReads.batchMessageSkillMentions (row : CampMessage) : Except String (List String × List (String × String)) :=
  match row.structuredContentJson with
  | none => .ok ([], [])
  | some json => do
    let content ← reads.parseContent json
    .ok (skillMentionsOf [] [] content)

def ClaimReads.inputMessage (campId : String) (throughSequence : Int) (messageId : String) : Except String SharedMessage :=
  match reads.messages.find? (fun row => row.id == messageId && row.campId == campId && decide (row.sequence ≤ throughSequence) &&
      !row.tombstoned && !row.withdrawn) with
  | none => .error "Delivery claim message is outside its frozen Thread boundary"
  | some row => do
    let (skillNames, skillMentions) ← reads.batchMessageSkillMentions row
    let message ← reads.project row
    .ok { message with skillNames, skillMentions }

def ClaimReads.inputMessagesOf (reads : ClaimReads) (campId : String) (throughSequence : Int) : List String → Except String (List SharedMessage)
  | [] => .ok []
  | messageId :: rest => do
    let message ← reads.inputMessage campId throughSequence messageId
    let messages ← reads.inputMessagesOf campId throughSequence rest
    .ok (message :: messages)

def ClaimReads.hasAdditionalPublicMessages (campId agentId : String) (previousPublicBoundary campPublicTail : Int)
    (selectedMessageIds : List String) : Bool :=
  reads.messages.any fun row =>
    row.campId == campId && decide (previousPublicBoundary < row.sequence) && decide (row.sequence ≤ campPublicTail) &&
      !row.tombstoned && !(row.authorType == "agent" && row.authorId == agentId) && !selectedMessageIds.contains row.id

/-! ## Additional Skills -/

def publishedSkills : List String :=
  ["analyze-agent-codebase", "campfire", "cli-operations", "grill-duo", "grill-duo-with-docs", "member-studio",
    "memory-stewardship", "review-duo", "worktree"]

def insertName (name : String) : List String → List String
  | [] => [name]
  | other :: rest =>
    if name = other then other :: rest
    else if name < other then name :: other :: rest
    else other :: insertName name rest

def nameSet (names : List String) : List String := names.foldl (fun set name => insertName name set) []

variable (managed : ManagedSkills)

def ClaimReads.readManaged (name : String) : Except String String :=
  if publishedSkills.contains name then reads.catalog.readFrontmatter (managedSkillFile managed.root name) name
  else .error "unknown Rovai managed Skill"

def indexEntry (name description : String) : Json := .obj [("name", .str name), ("desc", .str description)]

def ClaimReads.indexEntries (names : List String) : List Json :=
  (nameSet names).filterMap fun name =>
    match reads.readManaged managed name with
    | .ok description => some (indexEntry name description)
    | .error _ => none

def ClaimReads.omittedSkills (names : List String) : List String :=
  (nameSet names).filterMap fun name =>
    match reads.readManaged managed name with
    | .ok _ => none
    | .error error => some (name ++ ": " ++ error)

def indexJson (root : String) (entries : List Json) : Json := .obj [("root", .str root), ("skills", .arr entries)]

def sectionText (index : Json) : String :=
  "[ROVAI_ADDITIONAL_SKILLS]\nCurrent for this run; replaces any earlier Rovai Additional Skills.\n" ++ index.encode ++
    "\n[/ROVAI_ADDITIONAL_SKILLS]"

def selectedToolboxNames (skills : SkillSelectionSnapshot) : List String :=
  (skills.entries.filter fun entry => entry.source == some .rovai && toolboxSkills.contains entry.nameAtSend).map
    SkillSelectionEntry.nameAtSend

def ClaimReads.prepareAdditionalSkills (agentId : String) (skills : SkillSelectionSnapshot) :
    Except String PreparedAdditionalSkills := do
  let managed ← reads.managed
  let names := reads.configuredToolboxNames agentId ++ selectedToolboxNames skills
  let root ← Fallible.orError managed.rootText "managed Skills root is not UTF-8"
  .ok { text := sectionText (indexJson root (reads.indexEntries managed names))
        omitted := reads.omittedSkills managed names ++ reads.syncError.toList }

/-! ## The payload -/

def hintScope (previous : Int) : String :=
  if 0 < previous then "after sequence " ++ toString previous else "in this Thread"

def publicHistoryHint (previous : Int) (additional : Bool) : String :=
  if additional then
    "There are additional visible messages " ++ hintScope previous ++ " beyond RUN_INPUT and messages written by you."
  else "All visible messages " ++ hintScope previous ++ " are in RUN_INPUT or were written by you."

def jsonSection (name text : String) : String :=
  "[" ++ name ++ "]\n" ++ text ++ "\n[/" ++ name ++ "]\n\n"

def taskItem (task : SelfActiveTask) : Json :=
  Json.mkObj [("taskId", .str task.taskId), ("title", .str task.title), ("status", .str task.status)]

def selfActiveTaskProjection (tasks : List SelfActiveTask) (omittedCount : Nat) : Option Json :=
  if tasks.isEmpty && decide (0 < omittedCount) then none
  else some (Json.mkObj ([("tasks", Json.arr (tasks.map taskItem))] ++
    optionalField "omittedCount" (if 0 < omittedCount then some (.num omittedCount) else none)))

def lostSession : Json :=
  Json.mkObj [("state", .str "lost"), ("requiredAction", .str "recheck_private_session_assumptions")]

namespace ClaimedBatchContext

variable (context : ClaimedBatchContext)

def runFactsForSession : List (String × Json) × List String :=
  if context.hadNativeSession then
    (Json.upsertField "sessionContinuity" (fun _ => lostSession) context.runFacts,
      context.factReferences ++ ["session_continuity"])
  else (context.runFacts, context.factReferences)

def tasksSection : String :=
  if context.tasksEnabled then
    match selfActiveTaskProjection context.tasks context.omittedTasks with
    | some tasks => jsonSection "SELF_ACTIVE_TASKS" tasks.encode
    | none => ""
  else ""

def factsSection : String :=
  if context.runFactsForSession.2.isEmpty then ""
  else jsonSection "RUN_FACTS" (Json.obj context.runFactsForSession.1).encode

def workspaceSection : String :=
  match context.workspace with
  | some workspace => jsonSection "WORKSPACE" workspace.encode
  | none => ""

def payload : String :=
  jsonSection "COLLABORATION_STATE" context.collaborationState.encode ++ context.tasksSection ++ context.factsSection ++
    context.workspaceSection ++ (context.additionalSkills.text ++ "\n\n") ++ jsonSection "RUN_INPUT" context.runInput.encode

def maxLen : Nat := 2 ^ 64 - 1

def payloadLen : Nat := min (context.payload.utf8ByteSize + context.bootstrapReserve) maxLen

def popTask : ClaimedBatchContext :=
  { context with tasks := context.tasks.dropLast, omittedTasks := context.omittedTasks + 1 }

def popTasks (maxPayloadBytes : Nat) : Nat → ClaimedBatchContext → ClaimedBatchContext
  | 0, context => context
  | n + 1, context =>
    if maxPayloadBytes < context.payloadLen then popTasks maxPayloadBytes n context.popTask else context

def setInput (runInput : Json) (additionalSkills : PreparedAdditionalSkills) (hint : String) : ClaimedBatchContext :=
  { context with
    runInput, additionalSkills
    runFacts := Json.upsertField "historyHint" (fun _ => .str hint) context.runFacts
    factReferences := context.factReferences ++ ["history_hint"] }

end ClaimedBatchContext

def ClaimReads.withInput (base : ClaimedBatchContext) (agentId : String) (maxPayloadBytes : Nat) (runInput : Json)
    (skills : SkillSelectionSnapshot) (previousBoundary : Int) (additionalMessages : Bool) :
    Except String ClaimedBatchContext := do
  if reads.conversationPresent then
    let additionalSkills ← reads.prepareAdditionalSkills agentId skills
    let context := base.setInput runInput additionalSkills (publicHistoryHint previousBoundary additionalMessages)
    .ok (context.popTasks maxPayloadBytes context.tasks.length)
  else .error "Delivery target conversation disappeared during Context preflight"

end Rovai.BatchClaims
