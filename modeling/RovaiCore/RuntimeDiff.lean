import RovaiCore.DiffText
import RovaiCore.Fallible
/-!
# Admitting a runtime's diff, and reading it back (`runtime_diff.rs`)

A runtime reports its diffs in one of several dialects.
-/
namespace Rovai

open Lines (Text LF splitInclusive textLines)
open Patch (hunkMark)
open Fallible (orError)

/-! ## Sources -/

inductive AdapterKind where
  | codexCli
  | pi
  | opencodeCli
  | copilotCli
  | claudeCodeCli
  | clineCli
  | commandCodeCli
  | kiroCli
  | qoderCli
  | codebuddyCli
  | qwenCode
  | traeCnCli
  | cursorAgent
  | kimiCodeCli
  | minimaxCodeCli
  | hermesCli
  | grokBuild
  | deepseekHarness
  | zcodeApp
  | antigravityApp
  deriving DecidableEq

def adapterNames : List (String × AdapterKind) :=
  [("codex-cli", .codexCli), ("pi", .pi), ("opencode-cli", .opencodeCli), ("copilot-cli", .copilotCli),
    ("claude-code-cli", .claudeCodeCli), ("cline-cli", .clineCli), ("command-code-cli", .commandCodeCli),
    ("kiro-cli", .kiroCli), ("qoder-cli", .qoderCli), ("codebuddy-cli", .codebuddyCli), ("qwen-code", .qwenCode),
    ("trae-cn-cli", .traeCnCli), ("cursor-agent", .cursorAgent), ("kimi-code-cli", .kimiCodeCli),
    ("minimax-code-cli", .minimaxCodeCli), ("hermes-cli", .hermesCli), ("grok-build", .grokBuild),
    ("deepseek-harness", .deepseekHarness), ("zcode-app", .zcodeApp), ("antigravity-app", .antigravityApp)]

def AdapterKind.parse (name : String) : Option AdapterKind := (adapterNames.find? (fun a => a.1 = name)).map Prod.snd

def AdapterKind.usesAcp : AdapterKind → Bool
  | .codexCli | .pi | .claudeCodeCli | .antigravityApp => false
  | _ => true

def zcodeProtocol : String := "zcode-app-server-v1"

def admittedSource (adapter : AdapterKind) (protocolFamily sourceEventKind semanticKind : String) : Bool :=
  let acpCompleted := protocolFamily = "acp-v1" && sourceEventKind = "session/update.tool_call_update.completed"
  match adapter with
  | .codexCli => protocolFamily = "codex-app-server" && sourceEventKind = "item/completed.fileChange.completed"
    && semanticKind = "codex_file_change_snapshot"
  | .zcodeApp => protocolFamily = zcodeProtocol && sourceEventKind = "tool.updated.result" && semanticKind = "zcode_edit_patch"
  | .hermesCli => false
  | .minimaxCodeCli => acpCompleted && semanticKind = "minimax_file_patch"
  | .claudeCodeCli => protocolFamily = "claude-stream-json"
    && sourceEventKind = "assistant.tool_use.Edit+user.tool_result.completed" && semanticKind = "exact_mutation"
  | .pi => protocolFamily = "pi-jsonl-rpc-v1" && sourceEventKind = "tool_execution_end.completed"
    && semanticKind = "pi_edit_patch"
  | .commandCodeCli =>
    if semanticKind = "reported_mutation" then
      protocolFamily = "acp-v1" && sourceEventKind = "session/update.tool_call_update.completed.edit_file"
    else acpCompleted && semanticKind = "complete_before_after"
  | .clineCli =>
    if semanticKind = "reported_mutation" then
      protocolFamily = "acp-v1" && (sourceEventKind = "session/update.tool_call_update.completed.apply_patch"
        || sourceEventKind = "session/update.tool_call_update.completed.editor")
    else acpCompleted && semanticKind = "complete_before_after"
  | adapter => adapter.usesAcp && acpCompleted && semanticKind = "complete_before_after"

/-! ## Entries -/

structure NormalizedDiffEntry where
  path : Text
  changeKind : String
  (additions deletions : Nat)
  diff : Text
  deriving DecidableEq

structure AdmittedCommandDiff where
  semanticKind : String
  entries : List NormalizedDiffEntry
  evidenceEntries : List Json

def jsonText (t : Text) : Json := .str (String.ofList t)

def fullEvidence (path : Text) (changeKind : String) (before after : Option Text) : Json :=
  .obj [("after", Json.ofOption (after.map jsonText)), ("before", Json.ofOption (before.map jsonText)),
    ("changeKind", .str changeKind), ("path", jsonText path), ("semantics", .str "full_before_after")]

def unifiedEvidence (path : Text) (changeKind : String) (diff : Text) : Json :=
  .obj [("changeKind", .str changeKind), ("diff", jsonText diff), ("path", jsonText path),
    ("semantics", .str "unified_diff_snapshot")]

def exactEvidence (path oldText newText : Text) : Json :=
  .obj [("newText", jsonText newText), ("oldText", jsonText oldText), ("path", jsonText path),
    ("semantics", .str "exact_mutation")]

def storedFragment (f : Fragment) : Json := .obj [("newText", jsonText f.newText), ("oldText", jsonText f.oldText)]

def reportedEvidence (e : ReportedMutationEntry) : Json :=
  .obj [("fragments", .arr (e.fragments.map storedFragment)), ("path", jsonText e.path), ("semantics", .str e.semantics)]

def diffEntry (path : Text) (changeKind : String) (diff : Text) : NormalizedDiffEntry where
  path := path
  changeKind := changeKind
  additions := (unifiedDiffCounts diff).1
  deletions := (unifiedDiffCounts diff).2
  diff := diff

def exactEntry (path oldText newText : Text) : NormalizedDiffEntry where
  path := path
  changeKind := "update"
  additions := fragmentLineCount newText
  deletions := fragmentLineCount oldText
  diff := exactMutationFragment oldText newText

/-! ## Admission -/

structure AdmissionContext where
  root : ExecutionRoot
  adapter : AdapterKind
  semanticKind : String
  single : Bool
  (fileOperationPath managedOutputRoot : Option Text)

variable (c : AdmissionContext)

def AdmissionContext.managed (path : Text) : Bool :=
  c.managedOutputRoot.any (fun root => reportedPathIsWithinRoot c.root.urlFilePath c.root.path path root)

def reconcileKiroRootedDiffPath (reported : Text) (fileOperationPath : Option Text) : Option Text :=
  let components := pathComponents reported
  if !isAbsolute reported || components.any (fun c => isGitDir c || c = parentDir) then none
  else
    let rooted := (joinComponents components).map (fun c => if c = '\\' then '/' else c)
    fileOperationPath.filter (fun path => !isAbsolute path && rooted = path)

variable (raw : Json) (semanticKind : String)

def candidateChangeKind : Except String String :=
  match (raw.strField "changeKind").or (raw.strAt ["kind", "type"]) with
  | some kind => if ["add", "delete", "update"].contains kind then .ok kind else .error "runtime_diff_change_kind_invalid"
  | none =>
    if semanticKind ≠ "complete_before_after" then .error "runtime_diff_change_kind_invalid"
    else .ok (if (raw.getD "oldText").isNull then "add" else "update")

def splitOnce : Text → Option (Text × Text)
  | [] => none
  | c :: cs => if c = LF then some ([], cs) else (splitOnce cs).map (fun (line, rest) => (c :: line, rest))

def normalizePiEditPatch (patch reportedPath normalizedPath : Text) : Except String Text :=
  if reportedPath.any (fun c => c = '\r' || c = '\n' || c = '\x00') then .error "runtime_diff_path_invalid"
  else do
    let (oldHeader, rest) ← orError (splitOnce patch) "runtime_diff_content_invalid"
    let (newHeader, body) ← orError (splitOnce rest) "runtime_diff_content_invalid"
    if oldHeader ≠ oldFileMark ++ reportedPath ∨ newHeader ≠ newFileMark ++ reportedPath
        ∨ (textLines body).any hunkMark.isPrefixOf = false then .error "runtime_diff_content_invalid"
    else
      let normalized := oldFileMark ++ unifiedDiffDisplayPath normalizedPath 'a' ++ [LF]
        ++ newFileMark ++ unifiedDiffDisplayPath normalizedPath 'b' ++ [LF] ++ body
      if unifiedDiffCounts normalized = (0, 0) then .error "runtime_diff_no_changes" else .ok normalized

def indexMark : Text := "Index: ".toList
def indexSeparator : Text := List.replicate 67 '='

def stripIndexPreamble (patch : Text) : Except String (Option Text × Text) :=
  if indexMark.isPrefixOf patch then do
    let (path, rest) ← orError (splitOnce (patch.drop indexMark.length)) "runtime_diff_content_invalid"
    let (separator, body) ← orError (splitOnce rest) "runtime_diff_content_invalid"
    if separator ≠ indexSeparator then .error "runtime_diff_content_invalid" else .ok (some path, body)
  else .ok (none, patch)

def normalizeMinimaxFilePatch (patch normalizedPath : Text) (root : ExecutionRoot) : Except String Text := do
  let (indexPath, patch) ← stripIndexPreamble patch
  let header ← orError (((textLines patch).head?.filter oldFileMark.isPrefixOf).map (fun l => l.drop oldFileMark.length))
    "runtime_diff_content_invalid"
  if indexPath.any (fun path => path ≠ header) ∨ root.display header ≠ some normalizedPath then
    .error "runtime_diff_content_invalid"
  else normalizePiEditPatch patch header normalizedPath

def patchSemantics : List String :=
  ["codex_file_change_snapshot", "pi_edit_patch", "zcode_edit_patch", "minimax_file_patch"]

def patchContent (content rawPath path : Text) (changeKind : String) : Except String Text :=
  if c.semanticKind = "codex_file_change_snapshot" then .ok content
  else if changeKind ≠ "update" then .error "runtime_diff_change_kind_invalid"
  else if c.semanticKind = "minimax_file_patch" then normalizeMinimaxFilePatch content path c.root
  else normalizePiEditPatch content rawPath path

def patchEvidence (content sourcePath path : Text) (changeKind : String) : Except String (Text × Json) :=
  if changeKind = "add" then
    .ok (unifiedDiffFromBeforeAfter path none content, fullEvidence path changeKind none (some content))
  else if changeKind = "delete" then
    .ok (unifiedDiffForDelete sourcePath content, fullEvidence sourcePath changeKind (some content) none)
  else if changeKind = "update" then
    if content.isEmpty then .error "runtime_diff_content_invalid" else .ok (content, unifiedEvidence path changeKind content)
  else .error "runtime_diff_change_kind_invalid"

def completeOldText : Except String (Option Text) := match raw.get? "oldText" with
  | some (.str text) => .ok (some text.toList)
  | some .null | none => .ok none
  | some _ => .error "runtime_diff_content_invalid"

def completeEvidence (path : Text) (changeKind : String) : Except String (Text × Json) := do
  let oldText ← completeOldText raw
  let newText ← orError (textField "newText" raw) "runtime_diff_content_invalid"
  if oldText = some newText then .error "runtime_diff_no_changes"
  else if oldText.any (fun t => maxSingleDiffBytes < byteLength t) || maxSingleDiffBytes < byteLength newText then
    .error "runtime_diff_item_limit"
  else .ok (unifiedDiffFromBeforeAfter path oldText newText, fullEvidence path changeKind oldText (some newText))

def entryEvidence (rawPath sourcePath path : Text) (changeKind : String) :
    Except String (Text × Json) :=
  if patchSemantics.contains c.semanticKind then do
    let content ← orError (textField "diff" raw) "runtime_diff_content_invalid"
    if maxSingleDiffBytes < byteLength content then .error "runtime_diff_item_limit"
    else do
      let content ← patchContent c content rawPath path changeKind
      patchEvidence content sourcePath path changeKind
  else if c.semanticKind = "complete_before_after" then completeEvidence raw path changeKind
  else .error "runtime_diff_semantics_invalid"

def movePathOf : Option Text :=
  ((raw.pointer ["kind", "movePath"]).or (raw.pointer ["kind", "move_path"])).bind asText

def targetPath (sourcePath : Text) (changeKind : String) : Except String Text :=
  if c.adapter = .codexCli ∧ changeKind = "update" then match movePathOf raw with
    | some path => orError (c.root.display path) "runtime_diff_path_invalid"
    | none => .ok sourcePath
  else .ok sourcePath

def admitEntry : Except String (Option (NormalizedDiffEntry × Json)) := do
  let rawPath ← orError (textField "path" raw) "runtime_diff_path_invalid"
  if c.managed rawPath || (movePathOf raw).any c.managed then .ok none
  else do
    let rooted := if c.adapter = .kiroCli && c.single then reconcileKiroRootedDiffPath rawPath c.fileOperationPath else none
    let sourcePath ← orError (rooted.or (c.root.display rawPath)) "runtime_diff_path_invalid"
    let changeKind ← candidateChangeKind raw c.semanticKind
    let path ← targetPath c raw sourcePath changeKind
    let (diff, evidence) ← entryEvidence c raw rawPath sourcePath path changeKind
    .ok (some (diffEntry path changeKind diff, evidence))

structure Admission where
  totalBytes : Nat
  entries : List NormalizedDiffEntry
  evidence : List Json
  excluded : Bool

def Admission.start : Admission := { totalBytes := 0, entries := [], evidence := [], excluded := false }

variable (a : Admission)

def Admission.push (bytes : Nat) (entry : NormalizedDiffEntry) (evidence : Json) : Except String Admission :=
  if maxDiffBytes < a.totalBytes + bytes then .error "runtime_diff_size_limit"
  else .ok { a with totalBytes := a.totalBytes + bytes, entries := a.entries ++ [entry], evidence := a.evidence ++ [evidence] }

def Admission.patchEntry (raw : Json) : Except String Admission := do
  match ← admitEntry c raw with
  | none => .ok { a with excluded := true }
  | some (entry, evidence) =>
    if maxSingleDiffBytes < byteLength entry.diff then .error "runtime_diff_item_limit"
    else a.push (byteLength entry.diff) entry evidence

def Admission.exactEntry (raw : Json) : Except String Admission :=
  if raw.strField "semantics" ≠ some "exact_mutation" then .error "runtime_diff_semantics_invalid"
  else if [raw.get? "replace_all", raw.get? "replaceAll"].any (fun v => !(v.isNone || v = some (.bool false))) then
    .error "runtime_diff_replace_all_unsupported"
  else do
    let rawPath ← orError (textField "path" raw) "runtime_diff_path_invalid"
    if c.managed rawPath then .ok { a with excluded := true }
    else do
      let path ← orError (c.root.display rawPath) "runtime_diff_path_invalid"
      let oldText ← orError (textField "oldText" raw) "runtime_diff_content_invalid"
      let newText ← orError (textField "newText" raw) "runtime_diff_content_invalid"
      if oldText = newText then .error "runtime_diff_no_changes"
      else if maxSingleDiffBytes < byteLength oldText + byteLength newText then .error "runtime_diff_item_limit"
      else do
        let a ← a.push (byteLength oldText + byteLength newText) (Rovai.exactEntry path oldText newText)
          (exactEvidence path oldText newText)
        if maxSingleDiffBytes < byteLength (exactMutationFragment oldText newText) then .error "runtime_diff_item_limit"
        else .ok a

def Admission.reportedEntry (raw : Json) : Except String Admission := do
  let entry ← orError (decodeReportedMutation raw) "runtime_diff_content_invalid"
  if entry.semantics ≠ "reported_mutation" then .error "runtime_diff_semantics_invalid"
  else if c.managed entry.path then .ok a
  else do
    let path ← orError (c.root.display entry.path) "runtime_diff_path_invalid"
    if a.entries.any (fun e => e.path = path) then .error "runtime_diff_path_invalid"
    else do
      let (diff, additions, deletions) ← orError (reportedFragmentDiff entry.fragments) "runtime_diff_content_invalid"
      let sourceBytes := (entry.fragments.map (fun f => byteLength f.oldText + byteLength f.newText)).sum
      a.push (max (byteLength diff) sourceBytes) { path, changeKind := "update", additions, deletions, diff }
        (reportedEvidence { entry with path := path })

def Admission.finish : Except String AdmittedCommandDiff :=
  if a.entries.isEmpty && a.excluded then .error "runtime_diff_managed_output_root"
  else .ok { semanticKind, entries := a.entries, evidenceEntries := a.evidence }

def admitExactMutations (raws : List Json) : Except String AdmittedCommandDiff := do
  (← raws.foldlM (Admission.exactEntry c) Admission.start).finish "exact_mutation"

def admitReportedMutations (raws : List Json) : Except String AdmittedCommandDiff := do
  let a ← raws.foldlM (Admission.reportedEntry c) Admission.start
  if a.entries.isEmpty then .error "runtime_diff_managed_output_root" else a.finish "reported_mutation"

def admitCandidate (candidate : Json) (root : ExecutionRoot) (frozenAdapterKind : Option String)
    (fileOperationPath managedOutputRoot : Option Text) : Except String AdmittedCommandDiff := do
  let adapterKind ← orError (candidate.strField "adapterKind") "runtime_diff_source_invalid"
  if frozenAdapterKind ≠ some adapterKind then .error "runtime_diff_adapter_mismatch"
  else do
    let protocolFamily ← orError (candidate.strField "protocolFamily") "runtime_diff_source_invalid"
    let sourceEventKind ← orError (candidate.strField "sourceEventKind") "runtime_diff_source_invalid"
    let semanticKind ← orError (candidate.strField "semanticKind") "runtime_diff_semantics_invalid"
    let adapter ← orError (AdapterKind.parse adapterKind) "runtime_diff_adapter_invalid"
    if admittedSource adapter protocolFamily sourceEventKind semanticKind = false then
      .error "runtime_diff_source_not_allowlisted"
    else do
      let raws ← orError ((candidate.get? "entries").bind Json.asArr) "runtime_diff_entries_invalid"
      if raws.isEmpty || maxDiffFiles < raws.length then .error "runtime_diff_file_limit"
      else
        let c : AdmissionContext := {
          root := root
          adapter := adapter
          semanticKind := semanticKind
          single := raws.length = 1
          fileOperationPath := fileOperationPath
          managedOutputRoot := managedOutputRoot }
        if semanticKind = "exact_mutation" then admitExactMutations c raws
        else if semanticKind = "reported_mutation" then admitReportedMutations c raws
        else do
          let a ← raws.foldlM (Admission.patchEntry c) Admission.start
          a.finish (if patchSemantics.contains semanticKind then "unified_diff_snapshot" else semanticKind)

/-! ## Reading back -/

def commandDiffEntryFromEvidence (entry : Json) : Option NormalizedDiffEntry :=
  match entry.strField "semantics" with
  | some "reported_mutation" => do
    let (diff, additions, deletions) ← reportedMutationDiff entry
    let path ← textField "path" entry
    return { path, changeKind := "update", additions, deletions, diff }
  | some "exact_mutation" => do
    let path ← textField "path" entry
    let oldText ← textField "oldText" entry
    let newText ← textField "newText" entry
    if oldText ≠ newText then some (exactEntry path oldText newText) else none
  | some "full_before_after" => do
    let path ← textField "path" entry
    let changeKind ← entry.strField "changeKind"
    let before ← optionalText (entry.get? "before")
    let after ← optionalText (entry.get? "after")
    let patch ← unifiedDiffFromCompleteStates path before after
    return diffEntry path changeKind patch
  | some "unified_diff_snapshot" => do
    let path ← textField "path" entry
    let changeKind ← entry.strField "changeKind"
    let diff ← textField "diff" entry
    return diffEntry path changeKind diff
  | _ => none

structure CommandDiffProjection where
  source : String
  revision : Nat
  sourceEvidenceIds : List String
  status : String
  semanticKind : Option String
  entries : Option (List NormalizedDiffEntry)
  safeReasonCode : Option String

def commandDiffSchemaVersion : Int := 1

def projectionFromAdmitted (entries : List NormalizedDiffEntry) (evidenceId : String) :
    CommandDiffProjection where
  source := "runtime_reported"
  revision := 1
  sourceEvidenceIds := [evidenceId]
  status := "available"
  semanticKind := some semanticKind
  entries := some entries
  safeReasonCode := none

def unavailableProjection (reason evidenceId : String) : CommandDiffProjection where
  source := "runtime_reported"
  revision := 1
  sourceEvidenceIds := [evidenceId]
  status := "unavailable"
  semanticKind := none
  entries := none
  safeReasonCode := some reason

def projectionFromEvidence (payload : Json) (evidenceId : String) : Option CommandDiffProjection :=
  (payload.get? "runtimeDiff").bind (fun diff =>
    if diff.get? "schemaVersion" ≠ some (.num commandDiffSchemaVersion) then none
    else match diff.strField "status" with
      | some "available" => do
        let semanticKind ← diff.strField "semanticKind"
        let rawEntries ← (diff.get? "entries").bind Json.asArr
        let entries ← rawEntries.mapM commandDiffEntryFromEvidence
        return projectionFromAdmitted semanticKind entries evidenceId
      | some "unavailable" =>
        some (unavailableProjection ((diff.strField "safeReasonCode").getD "runtime_diff_unavailable") evidenceId)
      | _ => none)

def storedDiff (admitted : AdmittedCommandDiff) (sourceMetadata : Json) : Json :=
  .obj [("entries", .arr admitted.evidenceEntries), ("schemaVersion", .num commandDiffSchemaVersion),
    ("semanticKind", .str admitted.semanticKind), ("source", .str "runtime_reported"), ("sourceMetadata", sourceMetadata),
    ("status", .str "available")]

end Rovai
