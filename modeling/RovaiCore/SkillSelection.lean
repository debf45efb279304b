import RovaiCore.ReportedPath
import RovaiCore.Fallible
/-!
# The Skills a batch selects (`current_input_skill.rs`)

The Skills that the content of a batch mentions are frozen in the order of their first mention, and those whose file is found
become links.
-/
namespace Rovai.BatchClaims

inductive Segment where
  | skillMention (skillId nameAtSend : String)
  | other

inductive SkillSource where
  | rovai | native | legacy
  deriving DecidableEq

inductive OmissionReason where
  | missingAtSend | inactiveAtSend | disabledAtSend | nameMismatchAtSend | runtimeGroupUnassignedAtSend

structure SkillSelectionEntry where
  (skillId nameAtSend : String)
  (firstSegmentIndex firstMessageIndex : Nat)
  source : Option SkillSource
  sourcePath : Option String
  eligibleAtSend : Bool
  omissionReason : Option OmissionReason

structure SkillSelectionSnapshot where
  schemaVersion : Nat
  entries : List SkillSelectionEntry

structure CurrentInputSkillLink where
  (name path : String)
  skillId : Option String
  messageIndex : Option Nat

/-! ## What a claim reads of Skills -/

structure SkillRow where
  (name lifecycleStatus : String)
  enabled : Bool

structure SkillState extends SkillRow where
  matchingGroupKeys : List String

structure NativeSkillReference where
  (name entryPath canonicalPath : String)

structure DeliveryGroup where
  (key relativePath : String)

/-- The database and the files, while one claim is made.  `nativeSkillReference` is none in a schema that has no such table;
`nativeIdentity` is the identity of a canonical path, a hash. -/
structure SkillCatalog where
  nativeSkillReference : Option (String → Option NativeSkillReference)
  skill : String → Option SkillRow
  assigned : String → String → Bool
  deliveryGroups : List DeliveryGroup
  canonicalRoot : String
  managedRoot : Option String
  nativeIdentity : String → String
  (isAbsolute isSkillFile pathExists isFile : String → Bool)
  canonicalize : String → Option String
  readFrontmatter : String → String → Except String String
  readNativeSkill : String → String → Option String
  simplified : String → String

def toolboxSkills : List String :=
  ["campfire", "grill-duo", "grill-duo-with-docs", "member-studio", "review-duo"]

variable (catalog : SkillCatalog) (skillId : String)

def SkillCatalog.loadSkillState : Option SkillState :=
  (catalog.skill skillId).map fun row =>
    { row with matchingGroupKeys := (catalog.deliveryGroups.map DeliveryGroup.key).filter (catalog.assigned skillId) }

/-! ## Freezing the selection -/

/-- The first mention of each Skill becomes an entry; `before` are the message positions of the segments before, the nearest
first. -/
def freezeEntries (entry : List Nat → Nat → String → String → SkillSelectionEntry) :
    List Nat → List String → List (Segment × Nat) → List SkillSelectionEntry
  | _, _, [] => []
  | before, seen, (.skillMention skillId nameAtSend, message) :: rest =>
    if seen.contains skillId then freezeEntries entry (message :: before) seen rest
    else entry before message skillId nameAtSend :: freezeEntries entry (message :: before) (skillId :: seen) rest
  | before, seen, (.other, message) :: rest => freezeEntries entry (message :: before) seen rest

def omissionAtSend (nameAtSend : String) : Option SkillState → Option OmissionReason
  | none => some .missingAtSend
  | some state =>
    if state.lifecycleStatus ≠ "active" then some .inactiveAtSend
    else if !state.enabled then some .disabledAtSend
    else if state.name ≠ nameAtSend then some .nameMismatchAtSend
    else if state.matchingGroupKeys.isEmpty then some .runtimeGroupUnassignedAtSend
    else none

def entryV1 (before : List Nat) (_message : Nat) (skillId nameAtSend : String) : SkillSelectionEntry where
  skillId := skillId
  nameAtSend := nameAtSend
  firstSegmentIndex := before.length
  firstMessageIndex := 0
  source := none
  sourcePath := none
  eligibleAtSend := (omissionAtSend nameAtSend (catalog.loadSkillState skillId)).isNone
  omissionReason := omissionAtSend nameAtSend (catalog.loadSkillState skillId)

def managedSkillFile (root name : String) : String := root ++ "/" ++ name ++ "/SKILL.md"

def rovaiName : Option String :=
  if "rovai:".isPrefixOf skillId then some (String.ofList (skillId.toList.drop 6)) else none

def isNative : Bool := "native:".isPrefixOf skillId

def sourceOf (references : String → Option NativeSkillReference) (skillId nameAtSend : String) :
    SkillSource × Option String :=
  match rovaiName skillId with
  | some name =>
    (.rovai, if name == nameAtSend && toolboxSkills.contains name then catalog.managedRoot.map (managedSkillFile · name)
      else none)
  | none =>
    if isNative skillId then
      (.native, (references skillId).bind fun registered =>
        if registered.name == nameAtSend && catalog.nativeIdentity registered.canonicalPath == skillId
        then some registered.entryPath else none)
    else (.legacy, none)

def entryV2 (references : String → Option NativeSkillReference) (before : List Nat) (message : Nat)
    (skillId nameAtSend : String) : SkillSelectionEntry where
  skillId := skillId
  nameAtSend := nameAtSend
  firstSegmentIndex := (before.takeWhile (· == message)).length
  firstMessageIndex := message
  source := some (sourceOf catalog references skillId nameAtSend).1
  sourcePath := (sourceOf catalog references skillId nameAtSend).2
  eligibleAtSend := true
  omissionReason := none

/-! ## Checking the selection -/

def isLowerOrDigit (c : Char) : Bool := ('a' ≤ c && c ≤ 'z') || ('0' ≤ c && c ≤ '9')

def skillNameTail : List Char → Bool
  | [] => true
  | c :: rest =>
    if isLowerOrDigit c then skillNameTail rest
    else c == '-' && rest.head?.any isLowerOrDigit && skillNameTail rest

def validateSkillName (name : String) : Except String Unit :=
  if name.isEmpty || 64 < name.utf8ByteSize then .error "Skill name must contain between 1 and 64 characters"
  else if name.toList.head?.any isLowerOrDigit && skillNameTail name.toList then .ok ()
  else .error "Skill name must use lowercase ASCII letters, digits, and single hyphens"

def isBlankName (name : String) : Bool := name.toList.all isWhitespace

def validateSkillReferenceName (skillId name : String) : Except String Unit :=
  if isNative skillId then if isBlankName name then .error "Native Skill name is empty" else .ok ()
  else validateSkillName name

def hasOuterBlank (text : String) : Bool :=
  text.toList.head?.any isWhitespace || text.toList.getLast?.any isWhitespace

def positionLt (a b : Nat × Nat) : Bool := a.1 < b.1 || (a.1 == b.1 && a.2 < b.2)

def entryInconsistent (schemaVersion : Nat) (e : SkillSelectionEntry) : Bool :=
  (schemaVersion == 1 && e.eligibleAtSend == e.omissionReason.isSome) ||
    (schemaVersion == 2 && (e.source.isNone || !e.eligibleAtSend || e.omissionReason.isSome ||
      e.sourcePath.any (fun path => !catalog.isAbsolute path)))

def validateEntries (schemaVersion : Nat) : List String → Option (Nat × Nat) → List SkillSelectionEntry → Except String Unit
  | _, _, [] => .ok ()
  | seen, previous, e :: rest => do
    if e.skillId.isEmpty || hasOuterBlank e.skillId || 256 < e.skillId.utf8ByteSize then
      .error "AgentRun Skill selection has an invalid Skill ID"
    else
      if schemaVersion == 2 && e.source == some .native then validateSkillReferenceName e.skillId e.nameAtSend
      else validateSkillName e.nameAtSend
      let position := (e.firstMessageIndex, e.firstSegmentIndex)
      if seen.contains e.skillId || previous.any (fun p => !positionLt p position) || entryInconsistent catalog schemaVersion e
      then .error "AgentRun Skill selection entries are inconsistent"
      else validateEntries schemaVersion (e.skillId :: seen) (some position) rest

def validateSelectionSnapshot (snapshot : SkillSelectionSnapshot) : Except String Unit :=
  if snapshot.schemaVersion ≠ 1 ∧ snapshot.schemaVersion ≠ 2 then
    .error "unsupported AgentRun Skill selection snapshot version"
  else validateEntries catalog snapshot.schemaVersion [] none snapshot.entries

def selectionOf (content : List (Segment × Nat)) : SkillSelectionSnapshot :=
  match catalog.nativeSkillReference with
  | some references => ⟨2, freezeEntries (entryV2 catalog references) [] [] content⟩
  | none => ⟨1, freezeEntries (entryV1 catalog) [] [] content⟩

def freezeSkillSelection (content : List Segment) (messageIndices : List Nat) : Except String SkillSelectionSnapshot :=
  if content.length ≠ messageIndices.length then .error "Skill selection message positions are incomplete"
  else do
    let snapshot := selectionOf catalog (content.zip messageIndices)
    validateSelectionSnapshot catalog snapshot
    .ok snapshot

/-! ## Links -/

variable (selected : SkillSelectionEntry)

def resolveRovai (path : String) : Bool :=
  match rovaiName selected.skillId with
  | none => false
  | some name =>
    name == selected.nameAtSend && toolboxSkills.contains name &&
      catalog.managedRoot.map (managedSkillFile · name) == some path &&
      (match catalog.readFrontmatter path name with | .ok _ => true | .error _ => false)

def resolveNative (path : String) : Bool :=
  (catalog.canonicalize path).any fun canonical =>
    catalog.nativeIdentity canonical == selected.skillId &&
      catalog.readNativeSkill path canonical == some selected.nameAtSend

def resolveV2Source : Option String :=
  match selected.source, selected.sourcePath with
  | some .rovai, some path =>
    if catalog.isAbsolute path && catalog.isSkillFile path && catalog.pathExists path && catalog.isFile path &&
      resolveRovai catalog selected path then some path else none
  | some .native, some path =>
    if catalog.isAbsolute path && catalog.isSkillFile path && catalog.pathExists path && catalog.isFile path &&
      resolveNative catalog selected path then some path else none
  | _, _ => none

def linkV2 : Option CurrentInputSkillLink :=
  (resolveV2Source catalog selected).map fun path =>
    ⟨selected.nameAtSend, catalog.simplified path, some selected.skillId, some selected.firstMessageIndex⟩

def linkV1 : Option CurrentInputSkillLink :=
  if !selected.eligibleAtSend then none
  else
    match catalog.loadSkillState selected.skillId with
    | none => none
    | some state =>
      if state.lifecycleStatus ≠ "active" || !state.enabled || state.name ≠ selected.nameAtSend then none
      else
        (catalog.deliveryGroups.find? (fun group => state.matchingGroupKeys.contains group.key)).map fun group =>
          ⟨selected.nameAtSend,
            catalog.canonicalRoot ++ "/" ++ group.relativePath ++ "/" ++ selected.nameAtSend ++ "/SKILL.md", none, none⟩

variable (selection : SkillSelectionSnapshot)

def linksOf : List CurrentInputSkillLink :=
  selection.entries.filterMap (if selection.schemaVersion = 2 then linkV2 catalog else linkV1 catalog)

def projectedSkillLinksForClaim : Except String (List CurrentInputSkillLink) := do
  validateSelectionSnapshot catalog selection
  .ok (linksOf catalog selection)

/-! ## Content that comes later -/

theorem freezeEntries_prefix (entry : List Nat → Nat → String → String → SkillSelectionEntry) (later : List (Segment × Nat)) :
    ∀ (content : List (Segment × Nat)) (before : List Nat) (seen : List String),
      freezeEntries entry before seen content <+: freezeEntries entry before seen (content ++ later)
  | [], before, seen => List.nil_prefix
  | (.skillMention skillId nameAtSend, message) :: rest, before, seen => by
    have ih := freezeEntries_prefix entry later rest (message :: before)
    rw [List.cons_append, freezeEntries, freezeEntries]
    by_cases hseen : seen.contains skillId = true
    · rw [if_pos hseen, if_pos hseen]
      exact ih seen
    · rw [if_neg hseen, if_neg hseen]
      exact (List.prefix_cons_inj _).2 (ih (skillId :: seen))
  | (.other, message) :: rest, before, seen => by
    rw [List.cons_append, freezeEntries, freezeEntries]
    exact freezeEntries_prefix entry later rest (message :: before) seen

structure Extends (selection later : SkillSelectionSnapshot) : Prop where
  schemaVersion : later.schemaVersion = selection.schemaVersion
  entries : selection.entries <+: later.entries

theorem extends_selectionOf {content later : List (Segment × Nat)} (h : content <+: later) :
    Extends (selectionOf catalog content) (selectionOf catalog later) := by
  obtain ⟨rest, rfl⟩ := h
  unfold selectionOf
  cases catalog.nativeSkillReference with
  | some references => exact ⟨rfl, freezeEntries_prefix _ rest content [] []⟩
  | none => exact ⟨rfl, freezeEntries_prefix _ rest content [] []⟩

/-- **Links that are there stay**, in their order, before the new ones. -/
theorem Extends.links {selection later : SkillSelectionSnapshot} (h : Extends selection later) :
    linksOf catalog selection <+: linksOf catalog later := by
  unfold linksOf
  rw [h.schemaVersion]
  exact h.entries.filterMap _

theorem skillId_linksOf :
    (∀ link ∈ linksOf catalog selection, link.skillId.isSome = decide (selection.schemaVersion = 2)) := by
  intro link hlink
  obtain ⟨e, -, he⟩ := List.mem_filterMap.1 hlink
  by_cases hversion : selection.schemaVersion = 2
  · rw [if_pos hversion] at he
    obtain ⟨path, -, rfl⟩ := Option.map_eq_some_iff.1 he
    simp [hversion]
  · rw [if_neg hversion] at he
    unfold linkV1 at he
    split at he
    · cases he
    split at he
    · cases he
    split at he
    · cases he
    obtain ⟨group, -, rfl⟩ := Option.map_eq_some_iff.1 he
    simp [hversion]

end Rovai.BatchClaims
