import RovaiCore.ClaimContext
/-!
# How a claimed context grows (`context/claim.rs`)

A batch that takes one message more is never shorter: the message takes more room than the history hint can give back, the
Skills of the messages before stay linked, and the additional Skills only gain entries.
-/
namespace Rovai.BatchClaims

open Json (bytes itemBytes fieldBytes escapedBytes lookupField)
open List

/-! ## Sections -/

theorem utf8ByteSize_jsonSection (name text : String) :
    (jsonSection name text).utf8ByteSize = 2 * name.utf8ByteSize + text.utf8ByteSize + 9 := by
  unfold jsonSection
  rw [String.utf8ByteSize_append, String.utf8ByteSize_append, String.utf8ByteSize_append, String.utf8ByteSize_append,
    String.utf8ByteSize_append, String.utf8ByteSize_append]
  have hopen : "[".utf8ByteSize = 1 := by decide
  have hline : "]\n".utf8ByteSize = 2 := by decide
  have hclose : "\n[/".utf8ByteSize = 3 := by decide
  have hend : "]\n\n".utf8ByteSize = 3 := by decide
  omega

/-! ## The hint -/

def hintRoom : Nat := 22

theorem bytes_publicHistoryHint_le (previous : Int) (additional additional' : Bool) :
    bytes (.str (publicHistoryHint previous additional)) ≤ bytes (.str (publicHistoryHint previous additional')) + hintRoom := by
  have htrue : escapedBytes (publicHistoryHint previous true) = escapedBytes (hintScope previous) + 84 := by
    unfold publicHistoryHint
    rw [if_pos rfl, Json.escapedBytes_append, Json.escapedBytes_append]
    have hbefore : escapedBytes "There are additional visible messages " = 38 := by decide +kernel
    have hafter : escapedBytes " beyond RUN_INPUT and messages written by you." = 46 := by decide +kernel
    omega
  have hfalse : escapedBytes (publicHistoryHint previous false) = escapedBytes (hintScope previous) + 62 := by
    unfold publicHistoryHint
    rw [if_neg (by decide), Json.escapedBytes_append, Json.escapedBytes_append]
    have hbefore : escapedBytes "All visible messages " = 21 := by decide
    have hafter : escapedBytes " are in RUN_INPUT or were written by you." = 41 := by decide
    omega
  rw [Json.bytes_str, Json.bytes_str]
  unfold hintRoom
  cases additional <;> cases additional' <;> omega

/-! ## A message -/

variable {key : String}

theorem lookupField_foldl_of_notMem :
    ∀ (fields acc : List (String × Json)), key ∉ fields.map Prod.fst →
      lookupField key (fields.foldl (fun acc f => Json.upsertField f.1 (fun _ => f.2) acc) acc) = lookupField key acc
  | [], _, _ => rfl
  | f :: fields, acc, h => by
    rw [map_cons, mem_cons, not_or] at h
    rw [foldl_cons, lookupField_foldl_of_notMem fields _ h.2, Json.lookup_upsertField, if_neg h.1]

theorem key_optionalField {key k : String} {value : Option Json} (h : key ∈ (optionalField k value).map Prod.fst) : key = k := by
  cases value with
  | none => cases h
  | some v => exact mem_singleton.1 h

theorem key_senderFields {sender : Option MessageSender}
    (h : key ∈ ((sender.map MessageSender.fields).getD []).map Prod.fst) : key ∈ ["senderType", "senderId", "senderName"] := by
  cases sender with
  | none => cases h
  | some sender =>
    rw [Option.map_some, Option.getD_some, MessageSender.fields, map_append, mem_append] at h
    obtain h | h := h
    · exact mem_append_left ["senderName"] h
    rw [key_optionalField h]
    decide

theorem key_laterFields {message : SharedMessage} (h : key ∈ (laterFields message).map Prod.fst) :
    key ∈ ["senderType", "senderId", "senderName", "anchorMessageId", "quotes", "attachments", "mentions",
      "mentionsCurrentUser"] := by
  unfold laterFields at h
  simp only [map_append, mem_append] at h
  rcases h with (((h | h) | h) | h) | h
  · exact mem_append_left ["anchorMessageId", "quotes", "attachments", "mentions", "mentionsCurrentUser"] (key_senderFields h)
  · rw [key_optionalField h]
    decide
  · rw [key_optionalField h]
    decide
  · rw [key_optionalField h]
    decide
  · split at h
    · obtain rfl := mem_singleton.1 h
      simp
    · split at h
      · rw [mem_singleton.1 h]
        decide
      · cases h

structure MessageObject (message : SharedMessage) (fields : List (String × Json)) : Prop where
  eq : modelBatchMessage message = .obj fields
  skills : lookupField "skills" fields = none
  messageId : lookupField "messageId" fields = some (.str message.messageId)
  body : lookupField "body" fields = some (.str message.body)

theorem messageObject (message : SharedMessage) : ∃ fields, MessageObject message fields := by
  have hlookup : ∀ key, key ∉ (laterFields message).map Prod.fst → lookupField key
      ((messageFields message).foldl (fun acc f => Json.upsertField f.1 (fun _ => f.2) acc) []) =
      if key = "body" then some (.str message.body) else if key = "senderId" then some (.str message.senderId)
      else if key = "senderType" then some (.str message.senderType)
      else if key = "sequence" then some (.num message.sequence)
      else if key = "messageId" then some (.str message.messageId) else none := by
    intro key hkey
    rw [messageFields, foldl_append, lookupField_foldl_of_notMem _ _ hkey]
    simp only [foldl_cons, foldl_nil, Json.lookup_upsertField]
    rfl
  refine ⟨_, rfl, ?_, ?_, ?_⟩
  · exact hlookup "skills" (fun h => absurd (key_laterFields h) (by decide))
  · exact hlookup "messageId" (fun h => absurd (key_laterFields h) (by decide))
  · exact hlookup "body" (fun h => absurd (key_laterFields h) (by decide))

/-- **A message takes more room than the hint.** -/
theorem hintRoom_le_message (links : List CurrentInputSkillLink) (message : SharedMessage) (index : Nat) :
    hintRoom + 1 ≤ itemBytes (modelBatchInputMessage links message index) := by
  obtain ⟨fields, h⟩ := messageObject message
  have hroom : ∀ fields : List (String × Json), lookupField "messageId" fields = some (.str message.messageId) →
      lookupField "body" fields = some (.str message.body) → hintRoom + 1 ≤ itemBytes (.obj fields) := by
    intro fields hid hbody
    have hboth := Json.fieldBytes_add_le_sum (by decide) hid hbody
    have hid : fieldBytes ("messageId", .str message.messageId) = escapedBytes message.messageId + 15 := by
      rw [Json.fieldBytes_mk, Json.bytes_str, show escapedBytes "messageId" = 9 by decide]
      omega
    have hbody : fieldBytes ("body", .str message.body) = escapedBytes message.body + 10 := by
      rw [Json.fieldBytes_mk, Json.bytes_str, show escapedBytes "body" = 4 by decide]
      omega
    unfold itemBytes hintRoom
    rw [Json.bytes_obj]
    omega
  unfold modelBatchInputMessage
  rw [h.eq]
  split
  · exact hroom fields h.messageId h.body
  exact hroom _ (by rw [Json.lookup_upsertField, if_neg (by decide), h.messageId])
    (by rw [Json.lookup_upsertField, if_neg (by decide), h.body])

/-! ## The Skills of a message -/

structure LinksGrow (links links' : List CurrentInputSkillLink) : Prop where
  before : links <+: links'
  ofSchema : ∃ version, ∀ link ∈ links', link.skillId.isSome = version

variable {links links' : List CurrentInputSkillLink}

theorem messageSkills_sublist (h : LinksGrow links links')
    (message : SharedMessage) (index : Nat) :
    (messageSkills links message index).Sublist (messageSkills links' message index) := by
  obtain ⟨version, hversion⟩ := h.ofSchema
  have hany : ∀ {some : List CurrentInputSkillLink}, some <+: links' → some ≠ [] →
      some.any (fun link => link.skillId.isSome) = version := by
    intro links₀ hstarts hne
    cases links₀ with
    | nil => exact absurd rfl hne
    | cons link rest =>
      have hall : ∀ l ∈ link :: rest, l.skillId.isSome = version := fun l hl => hversion l (hstarts.subset hl)
      cases version with
      | true => simp [hall link]
      | false => simpa using hall
  by_cases hempty : links = []
  · subst hempty
    exact nil_sublist _
  · have hempty' : links' ≠ [] := fun h' => hempty (prefix_nil.1 (h' ▸ h.before))
    unfold messageSkills
    rw [hany h.before hempty, hany prefix_rfl hempty']
    cases version with
    | true =>
      -- A mention that is linked keeps its link: the first link of its Skill stands in the prefix.
      rw [if_pos rfl, if_pos rfl]
      induction message.skillMentions with
      | nil => exact List.Sublist.slnil
      | cons mention rest ih =>
        rw [filterMap_cons, filterMap_cons]
        cases hfind : links.find? (fun link => link.skillId == some mention.1) with
        | none =>
          rw [Option.map_none]
          dsimp only
          split
          · exact ih
          · exact ih.cons _
        | some link =>
          obtain ⟨more, rfl⟩ := h.before
          rw [find?_append, hfind]
          exact ih.cons_cons _
    | false =>
      rw [if_neg (by decide), if_neg (by decide)]
      exact (h.before.sublist.filter _).map _

theorem bytes_modelBatchInputMessage_le (h : LinksGrow links links')
    (message : SharedMessage) (index : Nat) :
    bytes (modelBatchInputMessage links message index) ≤ bytes (modelBatchInputMessage links' message index) := by
  have hskills := messageSkills_sublist h message index
  obtain ⟨fields, hobject⟩ := messageObject message
  have hset : ∀ skills, bytes (Json.setField (.obj fields) "skills" (.arr skills)) =
      2 + (fieldBytes ("skills", .arr skills) + (fields.map fieldBytes).sum - 1) := by
    intro skills
    unfold Json.setField
    rw [Json.bytes_obj, Json.sum_fieldBytes_upsertField _ hobject.skills]
  unfold modelBatchInputMessage
  rw [hobject.eq]
  generalize messageSkills links message index = skills at hskills ⊢
  generalize messageSkills links' message index = skills' at hskills ⊢
  cases skills with
  | nil =>
    cases skills' with
    | nil => exact Nat.le_refl _
    | cons skill rest =>
      dsimp only
      rw [hset, Json.bytes_obj]
      omega
  | cons skill rest =>
    cases skills' with
    | nil => cases hskills
    | cons skill' rest' =>
      dsimp only
      have hle := Json.bytes_arr_le hskills
      rw [hset, hset, Json.fieldBytes_mk, Json.fieldBytes_mk]
      omega

/-! ## The input of a Run -/

theorem sum_inputMessages_le (h : LinksGrow links links')
    (later : List SharedMessage) : ∀ (messages : List SharedMessage) (index : Nat),
      ((inputMessages links index messages).map itemBytes).sum + later.length * (hintRoom + 1) ≤
        ((inputMessages links' index (messages ++ later)).map itemBytes).sum
  | [], index => by
    rw [nil_append]
    induction later generalizing index with
    | nil => exact Nat.le_refl _
    | cons message rest ih =>
      have hrest := ih (index + 1)
      have hmessage := hintRoom_le_message links' message index
      rw [inputMessages, map_nil, sum_nil, length_cons, inputMessages, map_cons, sum_cons]
      rw [inputMessages, map_nil, sum_nil] at hrest
      rw [Nat.add_mul]
      omega
  | message :: messages, index => by
    have hrest := sum_inputMessages_le h later messages (index + 1)
    have hmessage := bytes_modelBatchInputMessage_le h message index
    rw [cons_append, inputMessages, inputMessages, map_cons, sum_cons, map_cons, sum_cons]
    unfold itemBytes at *
    omega

theorem bytes_runInputProjection (links : List CurrentInputSkillLink) (messages : List SharedMessage) :
    bytes (runInputProjection links messages) = bytes (.arr (inputMessages links 0 messages)) + 13 := by
  have hobject : runInputProjection links messages = .obj [("messages", .arr (inputMessages links 0 messages))] := rfl
  have hkey : escapedBytes "messages" = 8 := by decide
  rw [hobject, Json.bytes_obj, map_singleton, sum_singleton, Json.fieldBytes_mk]
  omega

/-- **A batch with more messages is longer** by more than the hint. -/
theorem bytes_runInputProjection_le (h : LinksGrow links links')
    {messages later : List SharedMessage} (hmessages : messages ≠ []) (hlater : later ≠ []) :
    bytes (runInputProjection links messages) + hintRoom ≤ bytes (runInputProjection links' (messages ++ later)) := by
  have hsum := sum_inputMessages_le h later messages 0
  have hlength : 0 < later.length := length_pos_of_ne_nil hlater
  have hmul : hintRoom + 1 ≤ later.length * (hintRoom + 1) := Nat.le_mul_of_pos_left _ hlength
  have hpos : 0 < ((inputMessages links 0 messages).map itemBytes).sum := by
    cases messages with
    | nil => exact absurd rfl hmessages
    | cons message rest =>
      have := hintRoom_le_message links message 0
      rw [inputMessages, map_cons, sum_cons]
      omega
  rw [bytes_runInputProjection, bytes_runInputProjection, Json.bytes_arr, Json.bytes_arr]
  omega

/-! ## The additional Skills -/

theorem insertName_sublist (name : String) : ∀ set : List String, set.Sublist (insertName name set)
  | [] => nil_sublist _
  | other :: rest => by
    unfold insertName
    split
    · exact List.Sublist.refl _
    split
    · exact sublist_cons_self name (other :: rest)
    · exact (insertName_sublist name rest).cons_cons other

theorem nameSet_sublist (names more : List String) : (nameSet names).Sublist (nameSet (names ++ more)) := by
  unfold nameSet
  rw [foldl_append]
  generalize names.foldl (fun set name => insertName name set) [] = set
  induction more generalizing set with
  | nil => exact List.Sublist.refl set
  | cons name more ih => exact (insertName_sublist name set).trans (ih (insertName name set))

theorem Extends.toolboxNames {skills skills' : SkillSelectionSnapshot} (h : Extends skills skills') :
    selectedToolboxNames skills <+: selectedToolboxNames skills' :=
  (h.entries.filter _).map _

theorem utf8ByteSize_sectionText_le {index index' : Json} (h : bytes index ≤ bytes index') :
    (sectionText index).utf8ByteSize ≤ (sectionText index').utf8ByteSize := by
  unfold bytes at h
  unfold sectionText
  rw [String.utf8ByteSize_append, String.utf8ByteSize_append, String.utf8ByteSize_append, String.utf8ByteSize_append]
  omega

variable {reads : ClaimReads}

/-- **A longer selection has no shorter section**: every Skill that is read stays in the index. -/
theorem prepareAdditionalSkills_le {agentId : String} {skills skills' : SkillSelectionSnapshot}
    {prepared prepared' : PreparedAdditionalSkills} (hskills : Extends skills skills')
    (h : reads.prepareAdditionalSkills agentId skills = .ok prepared)
    (h' : reads.prepareAdditionalSkills agentId skills' = .ok prepared') :
    prepared.text.utf8ByteSize ≤ prepared'.text.utf8ByteSize := by
  obtain ⟨managed, hmanaged, h⟩ := Fallible.bind_eq_ok.1 h
  obtain ⟨managed', hmanaged', h'⟩ := Fallible.bind_eq_ok.1 h'
  rw [hmanaged] at hmanaged'
  cases hmanaged'
  obtain ⟨root, hroot, h⟩ := Fallible.bind_eq_ok.1 h
  obtain ⟨root', hroot', h'⟩ := Fallible.bind_eq_ok.1 h'
  rw [hroot] at hroot'
  cases hroot'
  cases h
  cases h'
  obtain ⟨more, hmore⟩ := hskills.toolboxNames
  have hentries : (reads.indexEntries managed (reads.configuredToolboxNames agentId ++ selectedToolboxNames skills)).Sublist
      (reads.indexEntries managed (reads.configuredToolboxNames agentId ++ selectedToolboxNames skills')) := by
    rw [← hmore, ← append_assoc]
    exact (nameSet_sublist _ more).filterMap _
  have harray := Json.bytes_arr_le hentries
  apply utf8ByteSize_sectionText_le
  unfold indexJson
  rw [Json.bytes_obj, Json.bytes_obj]
  simp only [map_cons, map_nil, sum_cons, sum_nil, Json.fieldBytes_mk]
  omega

/-! ## The whole payload -/

namespace ClaimedBatchContext

variable {context context' : ClaimedBatchContext} {maxPayloadBytes : Nat}

structure Below (context context' : ClaimedBatchContext) : Prop where
  tasks : context'.tasks = context.tasks
  omittedTasks : context'.omittedTasks = context.omittedTasks
  payloadLen : ∀ tasks omittedTasks,
    { context with tasks, omittedTasks }.payloadLen ≤ { context' with tasks, omittedTasks }.payloadLen

theorem Below.le (h : Below context context') : context.payloadLen ≤ context'.payloadLen := by
  have hle := h.payloadLen context.tasks context.omittedTasks
  rw [← h.tasks, ← h.omittedTasks] at hle
  have hsame : { context with tasks := context'.tasks, omittedTasks := context'.omittedTasks } = context := by
    rw [h.tasks, h.omittedTasks]
  rwa [hsame] at hle

theorem Below.popTask (h : Below context context') : Below context.popTask context'.popTask where
  tasks := congrArg List.dropLast h.tasks
  omittedTasks := congrArg (· + 1) h.omittedTasks
  payloadLen tasks omittedTasks := h.payloadLen tasks omittedTasks

/-- **What fits after tasks are left out fits for the shorter context**, which leaves out no more of them. -/
theorem Below.fits {n : Nat} (h : Below context context') (hfits : (context'.popTasks maxPayloadBytes n).payloadLen ≤ maxPayloadBytes) :
    (context.popTasks maxPayloadBytes n).payloadLen ≤ maxPayloadBytes := by
  induction n generalizing context context' with
  | zero => exact h.le.trans hfits
  | succ n ih =>
    rw [popTasks] at hfits ⊢
    by_cases hlong : maxPayloadBytes < context.payloadLen
    · have hlong' : maxPayloadBytes < context'.payloadLen := lt_of_lt_of_le hlong h.le
      rw [if_pos hlong'] at hfits
      rw [if_pos hlong]
      exact ih h.popTask hfits
    · rw [if_neg hlong]
      exact Nat.le_of_not_lt hlong

theorem utf8ByteSize_payload (context : ClaimedBatchContext) :
    context.payload.utf8ByteSize = (jsonSection "COLLABORATION_STATE" context.collaborationState.encode).utf8ByteSize +
      context.tasksSection.utf8ByteSize + context.factsSection.utf8ByteSize + context.workspaceSection.utf8ByteSize +
      context.additionalSkills.text.utf8ByteSize + bytes context.runInput + 29 := by
  unfold payload bytes
  rw [String.utf8ByteSize_append, String.utf8ByteSize_append, String.utf8ByteSize_append, String.utf8ByteSize_append,
    String.utf8ByteSize_append, String.utf8ByteSize_append, utf8ByteSize_jsonSection "RUN_INPUT"]
  have hname : "RUN_INPUT".utf8ByteSize = 9 := by decide
  have hlines : "\n\n".utf8ByteSize = 2 := by decide
  omega

variable (base : ClaimedBatchContext) {runInput runInput' : Json} {skills skills' : PreparedAdditionalSkills}
  {hint hint' : String} {d : Nat}

theorem factsSection_setInput_le (h : bytes (.str hint) ≤ bytes (.str hint') + d) :
    (base.setInput runInput skills hint).factsSection.utf8ByteSize ≤
      (base.setInput runInput' skills' hint').factsSection.utf8ByteSize + d := by
  have hdiffers := Json.differsAt_upsertField "historyHint" (.str hint) (.str hint') base.runFacts
  have hlost := hdiffers.upsertField (show "sessionContinuity" ≠ "historyHint" by decide) (fun _ => lostSession)
  have hsection : ∀ fields fields' : List (String × Json), bytes (.obj fields) ≤ bytes (.obj fields') + d →
      (jsonSection "RUN_FACTS" (Json.obj fields).encode).utf8ByteSize ≤
        (jsonSection "RUN_FACTS" (Json.obj fields').encode).utf8ByteSize + d := by
    intro fields fields' hle
    rw [utf8ByteSize_jsonSection, utf8ByteSize_jsonSection]
    unfold bytes at hle
    omega
  unfold factsSection runFactsForSession setInput
  dsimp only
  split
  · rw [if_neg (by simp), if_neg (by simp)]
    exact hsection _ _ (hlost.bytes_le h)
  · rw [if_neg (by simp), if_neg (by simp)]
    exact hsection _ _ (hdiffers.bytes_le h)

theorem payload_setInput_le (hhint : bytes (.str hint) ≤ bytes (.str hint') + d)
    (hskills : skills.text.utf8ByteSize ≤ skills'.text.utf8ByteSize) (hinput : bytes runInput + d ≤ bytes runInput') :
    (base.setInput runInput skills hint).payload.utf8ByteSize ≤ (base.setInput runInput' skills' hint').payload.utf8ByteSize := by
  have hfacts : (base.setInput runInput skills hint).factsSection.utf8ByteSize ≤
      (base.setInput runInput' skills' hint').factsSection.utf8ByteSize + d := factsSection_setInput_le base hhint
  rw [utf8ByteSize_payload, utf8ByteSize_payload]
  generalize (base.setInput runInput skills hint).factsSection.utf8ByteSize = facts at hfacts ⊢
  generalize (base.setInput runInput' skills' hint').factsSection.utf8ByteSize = facts' at hfacts ⊢
  show (jsonSection "COLLABORATION_STATE" base.collaborationState.encode).utf8ByteSize + base.tasksSection.utf8ByteSize + facts +
      base.workspaceSection.utf8ByteSize + skills.text.utf8ByteSize + bytes runInput + 29 ≤
    (jsonSection "COLLABORATION_STATE" base.collaborationState.encode).utf8ByteSize + base.tasksSection.utf8ByteSize + facts' +
      base.workspaceSection.utf8ByteSize + skills'.text.utf8ByteSize + bytes runInput' + 29
  omega

/-- **The input makes up for the hint.** -/
theorem below_setInput (hhint : bytes (.str hint) ≤ bytes (.str hint') + d)
    (hskills : skills.text.utf8ByteSize ≤ skills'.text.utf8ByteSize) (hinput : bytes runInput + d ≤ bytes runInput') :
    Below (base.setInput runInput skills hint) (base.setInput runInput' skills' hint') where
  tasks := rfl
  omittedTasks := rfl
  payloadLen tasks omittedTasks := min_le_min_right maxLen (Nat.add_le_add_right
    (payload_setInput_le { base with tasks, omittedTasks } hhint hskills hinput) base.bootstrapReserve)

end ClaimedBatchContext

end Rovai.BatchClaims
