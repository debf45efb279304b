import RovaiCore.JsonValue
import RovaiCore.ReportedPath
/-!
# Fragments and sections of a diff (`runtime_diff.rs`)

A mutation is shown as its removed and its added lines; a stored reported mutation is a list of them.
-/
namespace Rovai

open Lines (Text LF splitInclusive textLines stripLineEnding)

def asText (j : Json) : Option Text := j.asStr.map String.toList

def textField (k : String) (j : Json) : Option Text := (j.get? k).bind asText

def optionalText : Option Json → Option (Option Text)
  | none => some none
  | some .null => some none
  | some (.str text) => some (some text.toList)
  | some _ => none

/-! ## Fragments -/

def fragmentLineCount (value : Text) : Nat := if value.isEmpty then 0 else (splitInclusive value).length

def fragmentContent (piece : Text) : Text :=
  let content := if piece.getLast? = some LF then piece.dropLast else piece
  if content.getLast? = some '\r' then content.dropLast else content

def appendExactFragmentLines (output : Text) (mark : Char) (text : Text) : Text :=
  (splitInclusive text).foldl (fun output piece => output ++ mark :: fragmentContent piece ++ [LF]) output

def exactMutationFragment (oldText newText : Text) : Text :=
  appendExactFragmentLines (appendExactFragmentLines [] '-' oldText) '+' newText

/-- `ReportedMutationFragment`, `ExactMutationEvidenceEntry`'s texts: one replaced text. -/
structure Fragment where
  (oldText newText : Text)

def maxDiffFiles : Nat := 256
def maxDiffBytes : Nat := 8 * 1024 * 1024
def maxSingleDiffBytes : Nat := 2 * 1024 * 1024
def maxFragments : Nat := 1024

def byteLength (t : Text) : Nat := (t.map Char.utf8Size).sum

structure FragmentDiff where
  diff : Text
  (sourceBytes additions deletions : Nat)

def FragmentDiff.push (acc : FragmentDiff) (f : Fragment) : Option FragmentDiff :=
  let sourceBytes := acc.sourceBytes + byteLength f.oldText + byteLength f.newText
  let block := exactMutationFragment f.oldText f.newText
  if f.oldText = f.newText ∨ maxSingleDiffBytes < sourceBytes then none
  else if maxSingleDiffBytes < byteLength acc.diff + byteLength block then none
  else some {
    diff := acc.diff ++ block
    sourceBytes := sourceBytes
    additions := acc.additions + fragmentLineCount f.newText
    deletions := acc.deletions + fragmentLineCount f.oldText }

def reportedFragmentDiff (fragments : List Fragment) : Option (Text × Nat × Nat) :=
  if fragments.isEmpty || maxFragments < fragments.length then none
  else (fragments.foldlM FragmentDiff.push ⟨[], 0, 0, 0⟩).map (fun d => (d.diff, d.additions, d.deletions))

/-! ## Stored entries -/

def structField (n i : Nat) (name : String) : Json → Option Json
  | .obj fields => (Json.obj fields).get? name
  | .arr items => if items.length = n then items[i]? else none
  | _ => none

def decodeFragment (j : Json) : Option Fragment := do
  let oldText ← (structField 2 0 "oldText" j).bind asText
  let newText ← (structField 2 1 "newText" j).bind asText
  return { oldText, newText }

structure ReportedMutationEntry where
  semantics : String
  path : Text
  fragments : List Fragment

def decodeReportedMutation (j : Json) : Option ReportedMutationEntry := do
  let semantics ← (structField 3 0 "semantics" j).bind Json.asStr
  let path ← (structField 3 1 "path" j).bind asText
  let items ← (structField 3 2 "fragments" j).bind Json.asArr
  let fragments ← items.mapM decodeFragment
  return { semantics, path, fragments }

def reportedMutationDiff (entry : Json) : Option (Text × Nat × Nat) :=
  (decodeReportedMutation entry).bind (fun entry =>
    if entry.semantics = "reported_mutation" then reportedFragmentDiff entry.fragments else none)

/-! ## Sections of a snapshot -/

def sectionMark : Text := "diff --git ".toList
def sourceMark : Text := "diff --git a/".toList
def targetMark : Text := [' ', 'b', '/']
def newFileModeMark : Text := "new file mode ".toList
def deletedFileModeMark : Text := "deleted file mode ".toList

def sectionsOfLines : List Text → List Text
  | [] => []
  | line :: rest =>
    if sectionMark.isPrefixOf line then
      (line :: rest.takeWhile (fun l => !sectionMark.isPrefixOf l)).flatten :: sectionsOfLines rest
    else sectionsOfLines rest

def splitUnifiedDiffSections (diff : Text) : List Text := sectionsOfLines (splitInclusive diff)

def splitLast (p : Text) : Text → Option (Text × Text)
  | [] => none
  | c :: cs => match splitLast p cs with
    | some (before, after) => some (c :: before, after)
    | none => if p.isPrefixOf (c :: cs) then some ([], (c :: cs).drop p.length) else none

def unifiedDiffSectionPaths (part : Text) : Option (Text × Text) :=
  (textLines part).head?.bind (fun header =>
    (splitLast targetMark header).bind (fun (before, after) =>
      if sourceMark.isPrefixOf header then some (trim (before.drop sourceMark.length), trim after) else none))

def unifiedDiffSectionIdentity (part : Text) : Option (Text × String) :=
  (unifiedDiffSectionPaths part).map (fun (_, path) =>
    (path, if (textLines part).any newFileModeMark.isPrefixOf then "add"
      else if (textLines part).any deletedFileModeMark.isPrefixOf then "delete" else "update"))

end Rovai
