import RovaiCore.UnifiedDiff
/-!
# Reported paths (`runtime_diff.rs`)

A path that a runtime reports is resolved against the execution root and shown relative to it.
-/
namespace Rovai

open Lines (Text)

def isWhitespace (c : Char) : Bool :=
  (9 ≤ c.toNat && c.toNat ≤ 13) || (0x2000 ≤ c.toNat && c.toNat ≤ 0x200A)
    || [0x20, 0x85, 0xA0, 0x1680, 0x2028, 0x2029, 0x202F, 0x205F, 0x3000].contains c.toNat

def trimStart (t : Text) : Text := t.dropWhile isWhitespace

def trim (t : Text) : Text := (trimStart (trimStart t).reverse).reverse

def containsText (p : Text) : Text → Bool
  | [] => p.isEmpty
  | c :: cs => p.isPrefixOf (c :: cs) || containsText p cs

def currentDir : Text := ['.']
def parentDir : Text := ['.', '.']
def gitDir : Text := ['.', 'g', 'i', 't']
def fileScheme : Text := ['f', 'i', 'l', 'e', ':']
def schemeMark : Text := [':', '/', '/']

def pathComponents (path : Text) : List Text := (path.splitOn '/').filter (fun c => !c.isEmpty && c != currentDir)

/-- One component of `normalize_absolute_path`: a parent goes up, and not above the root. -/
def pushComponent (clean : Option (List Text)) (component : Text) : Option (List Text) :=
  clean.bind (fun clean =>
    if component = parentDir then (if clean.isEmpty then none else some clean.dropLast) else some (clean ++ [component]))

def normalizeAbsolutePath (path : Text) : Option (List Text) :=
  if isAbsolute path then (pathComponents path).foldl pushComponent (some []) else none

variable (urlFilePath : Text → Option Text)

def resolveReportedAbsolutePath (displayRoot : List Text) (reported : Text) :
    Option (List Text) :=
  if (trim reported).isEmpty || reported.contains '\x00' then none
  else
    let reportedPath := if fileScheme.isPrefixOf reported then urlFilePath reported
      else if containsText schemeMark reported then none
      else some reported
    reportedPath.bind (fun path =>
      if isAbsolute path then normalizeAbsolutePath path
      else (pathComponents path).foldl pushComponent (some displayRoot))

def joinComponents (components : List Text) : Text := (['/'] : Text).intercalate components

def isGitDir (component : Text) : Bool := component.map Char.toLower == gitDir

def displayPathFromResolved (displayRoot resolved : List Text) : Option Text :=
  let inside := displayRoot.isPrefixOf resolved
  let shown := if inside then resolved.drop displayRoot.length else resolved
  if inside && shown.isEmpty then none
  else if shown.any isGitDir then none
  else some (((if inside then [] else ['/']) ++ joinComponents shown).map (fun c => if c = '\\' then '/' else c))

def normalizeReportedPathForDisplay (displayRoot reported : Text) : Option Text :=
  (normalizeAbsolutePath displayRoot).bind (fun root =>
    (resolveReportedAbsolutePath urlFilePath root reported).bind (displayPathFromResolved root))

def reportedPathIsWithinRoot (displayRoot reported root : Text) : Bool :=
  match normalizeAbsolutePath displayRoot with
  | none => false
  | some display => match resolveReportedAbsolutePath urlFilePath display reported, normalizeAbsolutePath root with
    | some resolved, some root => root.isPrefixOf resolved
    | _, _ => false

structure ExecutionRoot where
  path : Text
  urlFilePath : Text → Option Text

def ExecutionRoot.display (root : ExecutionRoot) (reported : Text) : Option Text :=
  normalizeReportedPathForDisplay root.urlFilePath root.path reported

example : normalizeReportedPathForDisplay (fun _ => none) "/repo".toList "./src/../README.md".toList =
    some "README.md".toList := by decide

end Rovai
