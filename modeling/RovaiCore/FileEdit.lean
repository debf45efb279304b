import RovaiCore.Newlines
import RovaiCore.Tables
import Mathlib
/-!
# Edits of text files (`file_edit.rs`)

A file is read with a version, and a save names the version that it was made from.
-/
namespace Rovai.FileEdit

open Tables (Table)
open Newlines (replaceCrlf hasCrlf foldCrlf expandLf)

abbrev Path := String

/-! ## The disk -/

/-- What stands under a path.  `openable`: the file can be opened for reading and writing. -/
structure Node where
  path : Path
  (dev ino : Nat)
  isFile : Bool
  (mode nlink : Nat)
  openable : Bool
  bytes : ByteArray

/-- `parent` has the device and the number of the directory that holds a path. -/
structure Disk where
  nodes : Table Node.path
  canonicalize : Path → Option Path
  parent : Path → Option (Nat × Nat)

/-- The hexadecimal SHA-256 digest, and how permissions are shown by `{:?}`. -/
structure Outside where
  sha256 : ByteArray → String
  debugPermissions : Nat → String

def Disk.remove (d : Disk) (path : Path) : Disk :=
  { d with nodes := d.nodes.deleteWhere fun node => node.path = path }

def Disk.create (d : Disk) (node : Node) : Disk :=
  { d with nodes := d.nodes.insert node }

def Disk.rename (d : Disk) (source target : Path) : Disk :=
  match d.nodes.find? source with
  | none => d
  | some node => { d with nodes := ((d.nodes.deleteWhere fun other => other.path = source ∨ other.path = target).insert
      { node with path := target }) }

/-! ## Replies -/

inductive FailureCode where
  | editConflict
  | fileNotFound
  | fileTooLarge
  | saveUnknown
  | editUnavailable
  | sourceNotAuthorized
  | writeFailed

def FailureCode.asStr : FailureCode → String
  | .editConflict => "edit_conflict"
  | .fileNotFound => "file_not_found"
  | .fileTooLarge => "file_too_large"
  | .saveUnknown => "save_unknown"
  | .editUnavailable => "edit_unavailable"
  | .sourceNotAuthorized => "source_not_authorized"
  | .writeFailed => "write_failed"

def FailureCode.message : FailureCode → String
  | .editConflict => "文件已在外部更新"
  | .fileNotFound => "文件已不存在，修改已保留"
  | .fileTooLarge => "文件超过 2 MiB，无法保存"
  | .saveUnknown => "保存结果未知，修改已保留"
  | .editUnavailable => "此文件只支持阅读"
  | .sourceNotAuthorized => "文件位置已失效，修改已保留"
  | .writeFailed => "保存失败，修改已保留"

structure FileValue where
  (key text version : String)

/-- `failure` is `{"ok": false, "error": …}`; a conflict also has the current value. -/
inductive Reply where
  | value (value : FileValue)
  | failure (code : FailureCode)
  | conflict (current : FileValue)

/-! ## Reading -/

def maxTextBytes : Nat := 2 * 1024 * 1024

def byteOrderMark : Char := Char.ofNat 0xfeff

structure Decoded where
  text : String
  (bom crlf : Bool)

def stripMark : List Char → Bool × List Char
  | c :: rest => if c = byteOrderMark then (true, rest) else (false, c :: rest)
  | [] => (false, [])

/-- The text of a file's bytes.  Files with mixed line ends or with a `\r` alone stay read-only. -/
def decode (bytes : ByteArray) : Except FailureCode Decoded :=
  match String.fromUTF8? bytes with
  | none => .error .editUnavailable
  | some whole =>
    if '\x00' ∈ whole.toList then .error .editUnavailable
    else
      let (bom, raw) := stripMark whole.toList
      if '\r' ∈ foldCrlf raw ∨ hasCrlf raw = true ∧ '\n' ∈ replaceCrlf [] raw then .error .editUnavailable
      else .ok ⟨String.ofList (foldCrlf raw), bom, hasCrlf raw⟩

structure Snapshot where
  bytes : ByteArray
  (text version key : String)
  (bom crlf : Bool)
  permissions : Nat

def identity (dev ino : Nat) : String := toString dev ++ ":" ++ toString ino

variable (w : Outside)

def Outside.key (parent : Nat × Nat) (path : Path) : String :=
  w.sha256 (identity parent.1 parent.2 ++ "\x00" ++ path).toByteArray

def Outside.imprint (key : String) (node : Node) : ByteArray :=
  key.toByteArray ++ (identity node.dev node.ino).toByteArray ++ (w.debugPermissions node.mode).toByteArray ++ node.bytes

def Outside.version (key : String) (node : Node) : String :=
  w.sha256 (w.imprint key node)

def readonly (mode : Nat) : Bool := mode &&& 0o222 = 0

variable (d : Disk)

def snapshot (path : Path) : Except FailureCode Snapshot :=
  match d.nodes.find? path with
  | none => .error .fileNotFound
  | some node =>
    if node.isFile = false then .error .editUnavailable
    else if readonly node.mode = true then .error .editUnavailable
    else if node.nlink ≠ 1 then .error .editUnavailable
    else if node.openable = false then .error .editUnavailable
    else if maxTextBytes < node.bytes.size then .error .fileTooLarge
    else match decode node.bytes with
      | .error e => .error e
      | .ok decoded => match d.parent path with
        | none => .error .sourceNotAuthorized
        | some parent => .ok ⟨node.bytes, decoded.text, w.version (w.key parent path) node, w.key parent path, decoded.bom,
            decoded.crlf, node.mode⟩

def Snapshot.value (s : Snapshot) : FileValue := ⟨s.key, s.text, s.version⟩

/-! ## Writing -/

def bomBytes : ByteArray := ⟨#[0xef, 0xbb, 0xbf]⟩

def encode (bom crlf : Bool) (text : String) : ByteArray :=
  (if bom then bomBytes else ByteArray.empty) ++
    (if crlf then String.ofList (expandLf text.toList) else text).toByteArray

/-- `candidate` is the path that the resolved source names, or why there is none. -/
structure Request where
  candidate : Except FailureCode Path
  path : Path
  (text expectedVersion : Option String)

structure Io where
  temporary : Path
  (dev ino : Nat)
  (openable created written renamed : Bool)

def Io.node (io : Io) (mode : Nat) (output : ByteArray) : Node :=
  ⟨io.temporary, io.dev, io.ino, true, mode, 1, io.openable, output⟩

def Disk.admits (io : Io) : Bool :=
  (d.nodes.find? io.temporary).isNone && !d.nodes.any fun node => node.dev = io.dev ∧ node.ino = io.ino

def replaceFile (candidate path : Path) (expected : String) (before : Snapshot) (output : ByteArray)
    (io : Io) : Disk × Reply :=
  if io.created = false ∨ d.admits io = false then (d, .failure .writeFailed)
  else
    let prepared := d.create (io.node before.permissions output)
    if io.written = false then (prepared.remove io.temporary, .failure .writeFailed)
    else if prepared.canonicalize candidate ≠ some path then (prepared.remove io.temporary, .failure .fileNotFound)
    else match snapshot w prepared path with
      | .error e => (prepared.remove io.temporary, .failure e)
      | .ok latest =>
        if latest.version ≠ expected then (prepared.remove io.temporary, .conflict latest.value)
        else if io.renamed = false then (prepared.remove io.temporary, .failure .writeFailed)
        else
          let replaced := prepared.rename io.temporary path
          match snapshot w replaced path with
          | .error _ => (replaced, .failure .saveUnknown)
          | .ok saved => if saved.bytes ≠ output then (replaced, .failure .saveUnknown) else (replaced, .value saved.value)

def save (candidate path : Path) (before : Snapshot) (request : Request) (io : Io) : Disk × Reply :=
  match request.expectedVersion with
  | none => (d, .failure .editConflict)
  | some expected =>
    if before.version ≠ expected then (d, .conflict before.value)
    else match request.text with
      | none => (d, .failure .writeFailed)
      | some text =>
        if maxTextBytes < text.utf8ByteSize then (d, .failure .fileTooLarge)
        else if '\x00' ∈ text.toList ∨ '\r' ∈ text.toList then (d, .failure .editUnavailable)
        else
          let output := encode before.bom before.crlf text
          if maxTextBytes < output.size then (d, .failure .fileTooLarge)
          else replaceFile w d candidate path expected before output io

def Disk.target (request : Request) : Except FailureCode (Path × Path) :=
  match request.candidate with
  | .error e => .error e
  | .ok candidate => match d.canonicalize candidate with
    | none => .error .fileNotFound
    | some path => match d.canonicalize request.path with
      | none => .error .fileNotFound
      | some requested => if path ≠ requested then .error .sourceNotAuthorized else .ok (candidate, path)

/-- `operation` and `execute`: a read, or a save with what the system answers. -/
def execute (request : Request) (saving : Option Io) : Disk × Reply :=
  match d.target request with
  | .error e => (d, .failure e)
  | .ok (candidate, path) => match snapshot w d path with
    | .error e => (d, .failure e)
    | .ok before => match saving with
      | none => (d, .value before.value)
      | some io => save w d candidate path before request io

end Rovai.FileEdit
