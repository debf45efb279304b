import RovaiCore.Fallible
import Mathlib.Data.Finmap
/-!
# The files of an authority database (`database_admission.rs`)

The data directory and the backup directory of one switch hold regular files.
-/
namespace Rovai.Authority

inductive Platform where
  | unix | windows | other
  deriving DecidableEq

inductive AuthorityNamespace where
  | rovai | lumen

inductive AuthorityArtifactKind where
  | main | wal | rollbackJournal | shm
  deriving DecidableEq

inductive Directory where
  | data
  | backup (operationId : String)
  deriving DecidableEq

structure Path where
  directory : Directory
  name : String
  deriving DecidableEq

/-- A regular file: the object that it is, whatever its name, and its content with the times of it. -/
structure File where
  object : Nat
  content : List UInt8
  (mtime mtimeNsec ctime ctimeNsec : Int)

/-! ## Identity tokens -/

structure AuthorityArtifactIdentityToken where
  (objectKey byteLength : Nat)
  stateKey : List Char
  deriving DecidableEq

def decimal (n : Int) : List Char := (toString n).toList

variable (platform : Platform)

/-- `format!("{}:{}:{}:{}", …)`; Windows keeps the last write and the size, other systems the modification since the epoch. -/
def artifactStateKey (file : File) : List Char :=
  match platform with
  | .unix => [':'].intercalate [decimal file.mtime, decimal file.mtimeNsec, decimal file.ctime, decimal file.ctimeNsec]
  | .windows => [':'].intercalate [decimal file.mtime, decimal file.content.length]
  | .other =>
    if 0 ≤ file.mtime then [':'].intercalate [decimal file.mtime, decimal file.mtimeNsec]
    else "modified-time-unavailable".toList

def identityToken (file : File) : AuthorityArtifactIdentityToken :=
  ⟨file.object, file.content.length, artifactStateKey platform file⟩

def AuthorityArtifactIdentityToken.matchesLegacyRename (self before : AuthorityArtifactIdentityToken) : Bool :=
  if self = before then true
  else
    match platform with
    | .unix =>
      let afterTimes := self.stateKey.splitOn ':'
      let beforeTimes := before.stateKey.splitOn ':'
      decide (self.objectKey = before.objectKey) && decide (self.byteLength = before.byteLength) &&
        decide (afterTimes.length = 4) && decide (beforeTimes.length = 4) &&
        decide (afterTimes.take 2 = beforeTimes.take 2)
    | _ => false

structure SameFile (f g : File) : Prop where
  object : g.object = f.object
  content : g.content = f.content
  mtime : g.mtime = f.mtime
  mtimeNsec : g.mtimeNsec = f.mtimeNsec

theorem SameFile.refl (f : File) : SameFile f f :=
  ⟨rfl, rfl, rfl, rfl⟩

theorem SameFile.trans {f g h : File} (hfg : SameFile f g) (hgh : SameFile g h) : SameFile f h :=
  ⟨hgh.object.trans hfg.object, hgh.content.trans hfg.content, hgh.mtime.trans hfg.mtime, hgh.mtimeNsec.trans hfg.mtimeNsec⟩

theorem colon_notMem_decimal (n : Int) : ':' ∉ decimal n := by
  have hnat : ∀ m : Nat, ':' ∉ (Nat.repr m).toList := by
    intro m hm
    rw [Nat.toList_repr] at hm
    have hdigit := Nat.isDigit_of_mem_toDigits (by decide) (by decide) hm
    exact absurd hdigit (by decide)
  cases n with
  | ofNat m => exact hnat m
  | negSucc m =>
    have hneg : decimal (Int.negSucc m) = '-' :: (Nat.repr (m + 1)).toList := by
      show ("-" ++ Nat.repr (m + 1)).toList = _
      rw [String.toList_append]
      rfl
    rw [hneg, List.mem_cons, not_or]
    exact ⟨by decide, hnat _⟩

theorem splitOn_unix (f : File) : (artifactStateKey .unix f).splitOn ':' =
    [decimal f.mtime, decimal f.mtimeNsec, decimal f.ctime, decimal f.ctimeNsec] := by
  refine List.splitOn_intercalate ':' ?_ (by simp)
  intro l hl
  simp only [List.mem_cons, List.not_mem_nil, or_false] at hl
  obtain rfl | rfl | rfl | rfl := hl <;> exact colon_notMem_decimal _

/-- **A file that was only renamed matches its old token.** -/
theorem SameFile.matchesLegacyRename {f g : File} (h : SameFile f g) (platform : Platform) :
    (identityToken platform g).matchesLegacyRename platform (identityToken platform f) = true := by
  unfold AuthorityArtifactIdentityToken.matchesLegacyRename
  split
  · rfl
  rename_i hne
  cases platform with
  | unix => simp [identityToken, splitOn_unix, h.object, h.content, h.mtime, h.mtimeNsec]
  | windows => exact absurd (by simp [identityToken, artifactStateKey, h.object, h.content, h.mtime]) hne
  | other =>
    exact absurd (by simp only [identityToken, artifactStateKey, h.object, h.content, h.mtime, h.mtimeNsec]) hne

theorem identityToken_ne {f g : File} (h : g.object ≠ f.object) (platform : Platform) :
    identityToken platform g ≠ identityToken platform f := by
  intro heq
  exact h (congrArg AuthorityArtifactIdentityToken.objectKey heq)

end Rovai.Authority
