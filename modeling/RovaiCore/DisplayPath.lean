import RovaiCore.ReportedPath
/-!
# Display paths over any operating system's strings (`runtime_diff.rs`)

A Unix path is a string of units that need not be characters: `to_string_lossy` shows an ill-formed part as one replacement
character.
-/
namespace Rovai.DisplayPath

open Lines (Text)

/-- An alphabet of path units: every character is one, and every unit is shown as a character. -/
structure OsString (α : Type) where
  ofChar : Char → α
  lossy : α → Char
  lossy_ofChar : ∀ c, lossy (ofChar c) = c

inductive OsUnit where
  | char (c : Char)
  | illFormed (bytes : List UInt8)
  deriving DecidableEq

def unixString : OsString OsUnit where
  ofChar := .char
  lossy
    | .char c => c
    | .illFormed _ => Char.ofNat 0xfffd
  lossy_ofChar _ := rfl

def plainString : OsString Char := ⟨id, id, fun _ => rfl⟩

variable {α : Type} [DecidableEq α] (os : OsString α)

/-! ## Paths -/

def ofText (t : Text) : List α := t.map os.ofChar

def slash : α := os.ofChar '/'

variable (path : List α)

def isAbsolutePath : Bool := path.head? = some (slash os)

def components : List (List α) :=
  (path.splitOn (slash os)).filter (fun c => !c.isEmpty && c != ofText os currentDir)

def push (clean : Option (List (List α))) (component : List α) : Option (List (List α)) :=
  clean.bind (fun clean =>
    if component = ofText os parentDir then (if clean.isEmpty then none else some clean.dropLast) else some (clean ++ [component]))

def normalizeAbsolute : Option (List (List α)) :=
  if isAbsolutePath os path then (components os path).foldl (push os) (some []) else none

structure UrlReader where
  read : Text → Option (List α)
  absolute : ∀ t path, read t = some path → isAbsolutePath os path = true
  shorter : ∀ t path, read t = some path → path.length < t.length

variable {os} (url : UrlReader os)

def reportedPath (reported : Text) : Option (List α) :=
  if (trim reported).isEmpty || reported.contains '\x00' then none
  else if fileScheme.isPrefixOf reported then url.read reported
  else if containsText schemeMark reported then none
  else some (ofText os reported)

variable (os) in
def resolvePath (displayRoot : List (List α)) (path : List α) : Option (List (List α)) :=
  if isAbsolutePath os path then normalizeAbsolute os path else (components os path).foldl (push os) (some displayRoot)

def resolve (displayRoot : List (List α)) (reported : Text) : Option (List (List α)) :=
  (reportedPath url reported).bind (resolvePath os displayRoot)

variable (os) in
def isGitComponent (component : List α) : Bool := isGitDir (component.map os.lossy)

def shown (displayRoot resolved : List (List α)) : List (List α) :=
  if displayRoot.isPrefixOf resolved then resolved.drop displayRoot.length else resolved

variable (os) in
def shownPath (displayRoot resolved : List (List α)) : List α :=
  (if displayRoot.isPrefixOf resolved then [] else [slash os]) ++ [slash os].intercalate (shown displayRoot resolved)

def forwardSlash (c : Char) : Char := if c = '\\' then '/' else c

variable (os) in
def displayOf (displayRoot resolved : List (List α)) : Option Text :=
  if displayRoot.isPrefixOf resolved && (shown displayRoot resolved).isEmpty then none
  else if (shown displayRoot resolved).any (isGitComponent os) then none
  else some ((shownPath os displayRoot resolved).map (fun u => forwardSlash (os.lossy u)))

def display (displayRoot : List α) (reported : Text) : Option Text :=
  (normalizeAbsolute os displayRoot).bind fun root => (resolve url root reported).bind (displayOf os root)

theorem display_plain (url : UrlReader plainString) (displayRoot reported : Text) :
    display url displayRoot reported = normalizeReportedPathForDisplay url.read displayRoot reported := by
  have hid : ∀ t : Text, ofText plainString t = t := fun t => List.map_id t
  have hlossy : ∀ t : Text, t.map plainString.lossy = t := fun t => List.map_id t
  have hpush : push plainString = pushComponent := by
    funext clean component
    unfold push pushComponent
    rw [hid]
  have hcomponents : components plainString = pathComponents := by
    funext path
    unfold components pathComponents
    rw [hid]
    rfl
  have hnormalize : normalizeAbsolute plainString = normalizeAbsolutePath := by
    funext path
    unfold normalizeAbsolute normalizeAbsolutePath
    rw [hpush, hcomponents]
    rfl
  unfold display normalizeReportedPathForDisplay
  rw [hnormalize]
  congr 1
  funext root
  have hresolve : resolve url root reported = resolveReportedAbsolutePath url.read root reported := by
    unfold resolve reportedPath resolveReportedAbsolutePath resolvePath
    rw [hid, hpush, hcomponents, hnormalize]
    split
    · rfl
    · rfl
  have hdisplay : displayOf plainString root = displayPathFromResolved root := by
    funext resolved
    unfold displayOf displayPathFromResolved shownPath shown
    have hgit : isGitComponent plainString = isGitDir := by
      funext component
      unfold isGitComponent
      rw [hlossy]
    rw [hgit]
    rfl
  rw [hresolve, hdisplay]

end Rovai.DisplayPath
