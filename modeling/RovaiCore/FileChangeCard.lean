import Mathlib.Data.List.Sort
import Mathlib.Data.List.Dedup
import RovaiCore.DiffText
import RovaiCore.FileFacts
/-!
# The file-change card of a run (`agent_run_file_change.rs`)

The evidence of a run, in order, is read into the changes it observed; the changes of one path make one file.
-/
namespace Rovai

open Lines (Text)

/-! ## Reading the evidence -/

structure SequencedEvidence where
  id : String
  sequence : Nat
  payload : Json

inductive ObservedSemantics where
  | fullBeforeAfter (before after : Option Text)
  | unifiedDiffSnapshot (diff : Text)
  | exactMutation (oldText newText : Text)
  | reportedMutation (diff : Text) (additions deletions : Nat)
  | operationOnly
  deriving DecidableEq

structure ObservedChange where
  sequence : Nat
  path : Text
  changeKind : String
  semantics : ObservedSemantics
  deriving DecidableEq

def writePathOf (root : ExecutionRoot) (operation : Json) : Option Text :=
  if operation.strField "status" ≠ some "available" then none
  else
    let writes : Bool := match operation.strField "operationKind" with
      | some kind => kind = "write"
      | none => (operation.strField "changeKind").any (fun kind => ["add", "update", "delete"].contains kind)
    if writes then (textField "path" operation).bind root.display else none

def normalizedFileOperationPath (root : ExecutionRoot) (payload : Json) : Option Text :=
  (payload.get? "runtimeFileOperation").bind (writePathOf root)

def changeKindOfStates : Option Text → Option Text → String
  | none, some _ => "add"
  | some _, none => "delete"
  | _, _ => "update"

def normalizedChangeKind (entry : Json) (before after : Option Text) : String :=
  ((entry.strField "changeKind").filter (fun kind => ["add", "update", "delete"].contains kind)).getD
    (changeKindOfStates before after)

def observedSemantics (diff entry : Json) : Option (String × ObservedSemantics) :=
  match (entry.strField "semantics").or (diff.strField "semanticKind") with
  | some "reported_mutation" =>
    (reportedMutationDiff entry).map (fun (diff, additions, deletions) => ("update", .reportedMutation diff additions deletions))
  | some "full_before_after" | some "complete_before_after" => do
    let before ← optionalText ((entry.get? "before").or (entry.get? "oldText"))
    let after ← optionalText ((entry.get? "after").or (entry.get? "newText"))
    if before = after then none else some (normalizedChangeKind entry before after, .fullBeforeAfter before after)
  | some "unified_diff_snapshot" | some "codex_file_change_snapshot" => do
    let diff ← textField "diff" entry
    if diff.isEmpty then none else some ((entry.strField "changeKind").getD "update", .unifiedDiffSnapshot diff)
  | some "exact_mutation" => do
    let oldText ← ((entry.get? "oldText").or (entry.get? "oldFragment")).bind asText
    let newText ← ((entry.get? "newText").or (entry.get? "newFragment")).bind asText
    if oldText = newText then none else some ("update", .exactMutation oldText newText)
  | _ => none

def observedOfEntry (root : ExecutionRoot) (single : Option Text) (diff : Json) (sequence : Nat) (entry : Json) :
    Option ObservedChange :=
  (textField "path" entry).bind (fun rawPath =>
    (single.or (root.display rawPath)).bind (fun path =>
      (observedSemantics diff entry).map (fun (changeKind, semantics) => { sequence, path, changeKind, semantics })))

def changesOfDiff (root : ExecutionRoot) (single : Option Text) (sequence : Nat) (diff : Json) : List ObservedChange :=
  if diff.strField "status" ≠ some "available" then []
  else match (diff.get? "entries").bind Json.asArr with
    | none => []
    | some entries =>
      entries.filterMap (observedOfEntry root (if entries.length = 1 then single else none) diff sequence)

def diffChanges (root : ExecutionRoot) (sequence : Nat) (payload : Json) : List ObservedChange :=
  match payload.get? "runtimeDiff" with
  | none => []
  | some diff => changesOfDiff root (normalizedFileOperationPath root payload) sequence diff

def appendDiffChanges (root : ExecutionRoot) (changes : List ObservedChange) (sequence : Nat) (payload : Json) :
    List ObservedChange := changes ++ diffChanges root sequence payload

def reportsNoChanges (payload : Json) : Bool :=
  payload.strAt ["runtimeDiff", "status"] = some "unavailable"
  && payload.strAt ["runtimeDiff", "safeReasonCode"] = some "runtime_diff_no_changes"

def appendOperationOnlyChange (root : ExecutionRoot) (changes : List ObservedChange) (sequence : Nat) (payload : Json) :
    List ObservedChange :=
  if reportsNoChanges payload then changes
  else match payload.get? "runtimeFileOperation", normalizedFileOperationPath root payload with
    | some operation, some path =>
      if (changes.reverse.takeWhile (fun c => c.sequence = sequence)).any (fun c => c.path = path) then changes
      else changes ++ [{
        sequence := sequence
        path := path
        changeKind := (operation.strField "changeKind").getD "update"
        semantics := .operationOnly }]
    | _, _ => changes

structure Gathered where
  changes : List ObservedChange
  latestRunSnapshot : Option (Nat × Text)
  sourceEvidenceIds : List String
  sendInputPaths : List Text

def sendInputPath (root : ExecutionRoot) (payload : Json) : Option Text :=
  (successfulSendInputFilePath payload).bind (fun path => root.display path.toList)

def runSnapshot (payload : Json) : Option Text :=
  ((payload.pointer ["runtimeRunDiff", "diff"]).bind asText).filter
    (fun _ => payload.strAt ["runtimeRunDiff", "status"] = some "available")

def Gathered.item (root : ExecutionRoot) (acc : Gathered) (item : SequencedEvidence) : Gathered :=
  let changes := appendDiffChanges root acc.changes item.sequence item.payload
  let changes := appendOperationOnlyChange root changes item.sequence item.payload
  { changes := changes
    latestRunSnapshot := ((runSnapshot item.payload).map (fun diff => (item.sequence, diff))).or acc.latestRunSnapshot
    sourceEvidenceIds := acc.sourceEvidenceIds
      ++ (if (sendInputPath root item.payload).isSome then [item.id] else [])
      ++ (if (runSnapshot item.payload).isSome then [item.id] else [])
      ++ (if changes.length ≠ acc.changes.length then [item.id] else [])
    sendInputPaths := acc.sendInputPaths ++ (sendInputPath root item.payload).toList }

def gather (root : ExecutionRoot) (evidence : List SequencedEvidence) : Gathered :=
  evidence.foldl (Gathered.item root) ⟨[], none, [], []⟩

/-! ## Files -/

inductive BlockSemantics where
  | fullNetDiff
  | fullBeforeAfter
  | unifiedDiffSnapshot
  | exactMutation
  | reportedMutation
  | operationOnly
  deriving DecidableEq

inductive PresentationKind where
  | fullNetDiff
  | exactMutations
  | reportedMutations
  | operationHistory
  | operationOnly
  deriving DecidableEq

structure FileChangeBlock where
  sequence : Nat
  semantics : BlockSemantics
  changeKind : String
  (additions deletions : Option Nat)
  diff : Option Text
  deriving DecidableEq

structure ChangedFileDetail where
  evidenceFileId : String
  path : Text
  changeKind : String
  presentationKind : PresentationKind
  operationCount : Nat
  (additions deletions : Option Nat)
  blocks : List FileChangeBlock
  deriving DecidableEq

def combinedChangeKind (operations : List ObservedChange) : String :=
  match (operations.map ObservedChange.changeKind).dedup with
  | [kind] => kind
  | _ => "update"

def knownPair : Option Nat × Option Nat → Option (Nat × Nat)
  | (some additions, some deletions) => some (additions, deletions)
  | _ => none

def sumKnownCounts (counts : List (Option Nat × Option Nat)) : Option Nat × Option Nat :=
  let known := counts.filterMap knownPair
  if known.isEmpty then (none, none)
  else (some (known.map Prod.fst).sum, some (known.map Prod.snd).sum)

def countedBlock (sequence : Nat) (semantics : BlockSemantics) (changeKind : String) (diff : Option Text) : FileChangeBlock where
  sequence := sequence
  semantics := semantics
  changeKind := changeKind
  additions := diff.map (fun diff => (unifiedDiffCounts diff).1)
  deletions := diff.map (fun diff => (unifiedDiffCounts diff).2)
  diff := diff

def operationBlock (operation : ObservedChange) : FileChangeBlock :=
  match operation.semantics with
  | .reportedMutation diff additions deletions => {
      sequence := operation.sequence
      semantics := .reportedMutation
      changeKind := operation.changeKind
      additions := some additions
      deletions := some deletions
      diff := some diff }
  | .exactMutation oldText newText => {
      sequence := operation.sequence
      semantics := .exactMutation
      changeKind := operation.changeKind
      additions := some (fragmentLineCount newText)
      deletions := some (fragmentLineCount oldText)
      diff := some (exactMutationFragment oldText newText) }
  | .fullBeforeAfter before after =>
    countedBlock operation.sequence .fullBeforeAfter operation.changeKind (unifiedDiffFromCompleteStates operation.path before after)
  | .unifiedDiffSnapshot diff => countedBlock operation.sequence .unifiedDiffSnapshot operation.changeKind (some diff)
  | .operationOnly => countedBlock operation.sequence .operationOnly operation.changeKind none

def historyDetail (path : Text) (presentationKind : PresentationKind) (operations : List ObservedChange) : ChangedFileDetail :=
  let blocks := operations.map operationBlock
  let counts := sumKnownCounts (blocks.map (fun b => (b.additions, b.deletions)))
  { evidenceFileId := ""
    path := path
    changeKind := combinedChangeKind operations
    presentationKind := presentationKind
    operationCount := operations.length
    additions := counts.1
    deletions := counts.2
    blocks := blocks }

def netDiffDetail (sequence : Nat) (path : Text) (changeKind : String) (operationCount : Nat) (diff : Text) :
    ChangedFileDetail where
  evidenceFileId := ""
  path := path
  changeKind := changeKind
  presentationKind := .fullNetDiff
  operationCount := operationCount
  additions := some (unifiedDiffCounts diff).1
  deletions := some (unifiedDiffCounts diff).2
  blocks := [countedBlock sequence .fullNetDiff changeKind (some diff)]

variable (c : ObservedChange)

def isFullBeforeAfter : Bool := match c.semantics with
  | .fullBeforeAfter _ _ => true
  | _ => false

def isExactMutation : Bool := match c.semantics with
  | .exactMutation _ _ => true
  | _ => false

def isReportedMutation : Bool := match c.semantics with
  | .reportedMutation _ _ _ => true
  | _ => false

def isOperationOnly : Bool := match c.semantics with
  | .operationOnly => true
  | _ => false

def continuousState : Option Text → List ObservedChange → Option (Option Text)
  | current, [] => some current
  | current, c :: cs => match c.semantics with
    | .fullBeforeAfter before after => if before = current then continuousState after cs else none
    | _ => none

variable (path : Text) (operations : List ObservedChange)

def continuousFullStateDetail : Option ChangedFileDetail :=
  match operations with
  | [] => none
  | first :: rest => match first.semantics with
    | .fullBeforeAfter baseline firstAfter => match continuousState firstAfter rest with
      | none => some (historyDetail path .operationHistory operations)
      | some current =>
        if baseline = current then none
        else (unifiedDiffFromCompleteStates path baseline current).map
          (netDiffDetail first.sequence path (changeKindOfStates baseline current) operations.length)
    | _ => none

def fileDetailFromDiffOperations : Option ChangedFileDetail :=
  if operations.all isFullBeforeAfter then continuousFullStateDetail path operations
  else match operations with
    | [⟨sequence, _, changeKind, .unifiedDiffSnapshot diff⟩] => some (netDiffDetail sequence path changeKind 1 diff)
    | _ => some (historyDetail path
        (if operations.all isExactMutation then .exactMutations
          else if operations.all isReportedMutation then .reportedMutations
          else .operationHistory) operations)

def operationOnlyDetail (operationCount : Nat) (operations : List ObservedChange) : ChangedFileDetail where
  evidenceFileId := ""
  path := path
  changeKind := combinedChangeKind operations
  presentationKind := .operationOnly
  operationCount := operationCount
  additions := none
  deletions := none
  blocks := operations.map operationBlock

def fileDetailFromOperations : Option ChangedFileDetail :=
  let operationOnly := operations.filter isOperationOnly
  let diffOperations := operations.filter (fun c => !isOperationOnly c)
  if diffOperations.isEmpty then some (operationOnlyDetail path operations.length operations)
  else match fileDetailFromDiffOperations path diffOperations with
    | none =>
      if operationOnly.isEmpty then none else some (operationOnlyDetail path operations.length operationOnly)
    | some detail =>
      if operationOnly.isEmpty then some { detail with operationCount := operations.length }
      else some { detail with
        evidenceFileId := ""
        path := path
        changeKind := combinedChangeKind operations
        presentationKind := .operationHistory
        operationCount := operations.length
        blocks := operations.map operationBlock }

variable (changes : List ObservedChange)

def sortedPaths : List Text :=
  (changes.map ObservedChange.path).dedup.insertionSort (fun a b => ¬ b < a)

def changesAt (path : Text) : List ObservedChange :=
  (changes.filter (fun c => c.path = path)).insertionSort (fun a b => a.sequence ≤ b.sequence)

def fileDetailsFromOperations : List ChangedFileDetail :=
  (sortedPaths changes).filterMap (fun path => fileDetailFromOperations path (changesAt changes path))

/-! ## The snapshot -/

def observedCount (path : Text) : Option Nat :=
  let count := changes.countP (fun c => c.path = path)
  if count = 0 then none else some count

variable (root : ExecutionRoot) (sequence : Nat)

def fileOfSection (changes : List ObservedChange) (part : Text) :
    Option ChangedFileDetail :=
  (unifiedDiffSectionIdentity part).bind (fun (rawPath, changeKind) =>
    (root.display rawPath).map (fun path =>
      netDiffDetail sequence path changeKind ((observedCount changes path).getD 1) part))

def fileDetailsFromAuthoritativeSnapshot (diff : Text)
    (changes : List ObservedChange) : Option (List ChangedFileDetail) :=
  let sections := splitUnifiedDiffSections diff
  if sections.isEmpty then none else sections.mapM (fileOfSection root sequence changes)

def fileDetailsWithAuthoritativeSnapshot (diff : Text)
    (changes : List ObservedChange) : List ChangedFileDetail :=
  let outsideOperations := changes.filter (fun c => isAbsolute c.path)
  if (trim diff).isEmpty then fileDetailsFromOperations outsideOperations
  else match fileDetailsFromAuthoritativeSnapshot root sequence diff changes with
    | none => fileDetailsFromOperations changes
    | some snapshotFiles =>
      let snapshotPaths := snapshotFiles.map ChangedFileDetail.path
      snapshotFiles ++ fileDetailsFromOperations (outsideOperations.filter (fun c => !snapshotPaths.contains c.path))

/-! ## The card -/

structure ChangedFileSummary where
  evidenceFileId : String
  path : Text
  changeKind : String
  presentationKind : PresentationKind
  operationCount : Nat
  (additions deletions : Option Nat)

def ChangedFileDetail.summary (file : ChangedFileDetail) : ChangedFileSummary where
  evidenceFileId := file.evidenceFileId
  path := file.path
  changeKind := file.changeKind
  presentationKind := file.presentationKind
  operationCount := file.operationCount
  additions := file.additions
  deletions := file.deletions

structure FileChangesCard where
  agentRunId : String
  (executionEpoch sourceChangeSequence revision : Nat)
  isStale : Bool
  files : List ChangedFileSummary
  (fileCount operationCount : Nat)
  (additions deletions : Option Nat)
  completedAt : String

structure AggregatedProjection where
  card : FileChangesCard
  files : List ChangedFileDetail
  sourceEvidenceIds : List String

def assignIds (existing : Text → Option String) (fresh : Nat → String) : Nat → List ChangedFileDetail → List ChangedFileDetail
  | _, [] => []
  | n, file :: files => match existing file.path with
    | some id => { file with evidenceFileId := id } :: assignIds existing fresh n files
    | none => { file with evidenceFileId := fresh n } :: assignIds existing fresh (n + 1) files

def gatheredFiles (g : Gathered) : List ChangedFileDetail :=
  match g.latestRunSnapshot with
  | some (sequence, diff) => fileDetailsWithAuthoritativeSnapshot root sequence diff g.changes
  | none => fileDetailsFromOperations g.changes

def listedFiles (g : Gathered) : List ChangedFileDetail :=
  (gatheredFiles root g).filter (fun file => !g.sendInputPaths.contains file.path)

def cardOf (agentRunId : String) (executionEpoch : Nat) (completedAt : String) (files : List ChangedFileDetail) :
    FileChangesCard :=
  let counts := if files.all (fun file => file.additions.isSome && file.deletions.isSome) then
      sumKnownCounts (files.map (fun file => (file.additions, file.deletions)))
    else (none, none)
  { agentRunId := agentRunId
    executionEpoch := executionEpoch
    sourceChangeSequence := 0
    revision := 1
    isStale := false
    files := files.map ChangedFileDetail.summary
    fileCount := files.length
    operationCount := (files.map ChangedFileDetail.operationCount).sum
    additions := counts.1
    deletions := counts.2
    completedAt := completedAt }

def aggregateEvidenceWithExistingIds (agentRunId : String) (executionEpoch : Nat) (completedAt : String) (root : ExecutionRoot)
    (evidence : List SequencedEvidence) (existing : Text → Option String) (fresh : Nat → String) :
    Option AggregatedProjection :=
  let g := gather root evidence
  let files := listedFiles root g
  if files.isEmpty then none
  else
    let files := assignIds existing fresh 0 files
    some {
      card := cardOf agentRunId executionEpoch completedAt files
      files := files
      sourceEvidenceIds := g.sourceEvidenceIds.dedup.insertionSort (· ≤ ·) }

end Rovai
