import Mathlib
/-!
# The directory and the repository of a Mission

A path by its components, what lies at a path, and what Git keeps of a repository and its worktrees.
-/
namespace Rovai.Mission

abbrev Path := List String
abbrev Oid := String

inductive Head where
  | branch (name : String)
  | detached (oid : Oid)
  deriving DecidableEq

/-- What a path holds.  A checkout is a directory that Git knows by its `.git` entry; of a worktree, that is the administrative
directory, and of the repository's own checkout the common directory itself. -/
inductive Entry where
  | directory
  | file (text : String)
  | symlink (dangling : Bool)
  | checkout (commonDir adminDir : Path) (modified : Bool)
  deriving DecidableEq

/-- An administrative directory: the `.git` entry that it is for, the marker of its owner, and what is checked out. -/
structure Registration where
  gitdir : Path
  owner : Option String
  head : Head

structure Disk where
  entries : Finmap fun _ : Path => Entry
  refs : Finmap fun _ : String => Oid
  registrations : Finmap fun _ : Path => Registration

namespace Disk

variable (d : Disk)

/-! ## Files -/

variable (path : Path)

def pathOccupied : Bool :=
  (d.entries.lookup path).isSome

def pathExists : Bool :=
  match d.entries.lookup path with
  | none => false
  | some (.symlink dangling) => !dangling
  | some _ => true

def isSymlink : Bool :=
  match d.entries.lookup path with
  | some (.symlink _) => true
  | _ => false

def canonical : Bool :=
  d.pathOccupied path && path.inits.all fun above => !d.isSymlink above

def readToString : Except String String :=
  match d.entries.lookup path with
  | some (.file text) => .ok text
  | _ => .error "No such file or directory (os error 2)"

def createDir : Except String Disk :=
  if d.pathOccupied path then .error "File exists (os error 17)"
  else .ok { d with entries := d.entries.insert path .directory }

def write (text : String) : Except String Disk :=
  match d.entries.lookup path with
  | none | some (.file _) => .ok { d with entries := d.entries.insert path (.file text) }
  | some _ => .error "Is a directory (os error 21)"

def removeFile : Except String Disk :=
  match d.entries.lookup path with
  | some (.file _) | some (.symlink _) => .ok { d with entries := d.entries.erase path }
  | _ => .error "No such file or directory (os error 2)"

def isEmpty : Bool :=
  decide (∀ below ∈ d.entries.keys, ¬ (path <+: below ∧ below ≠ path))

def removeDir : Except String Disk :=
  match d.entries.lookup path with
  | some .directory =>
    if d.isEmpty path then .ok { d with entries := d.entries.erase path } else .error "Directory not empty (os error 39)"
  | _ => .error "No such file or directory (os error 2)"

/-! ## References -/

def checkedOut (branch : String) : Bool :=
  decide (∃ admin ∈ d.registrations.keys, (d.registrations.lookup admin).any fun registration => registration.head = .branch branch)

def registered : Bool :=
  decide (∃ admin ∈ d.registrations.keys,
    (d.registrations.lookup admin).any fun registration => registration.gitdir = path ++ [".git"])

theorem exists_registration {registrations : Finmap fun _ : Path => Registration} {p : Registration → Bool} :
    (∃ admin ∈ registrations.keys, (registrations.lookup admin).any p) ↔
      ∃ admin registration, registrations.lookup admin = some registration ∧ p registration = true := by
  simp only [Option.any_eq_true]
  constructor
  · rintro ⟨admin, -, registration, hlookup, hp⟩
    exact ⟨admin, registration, hlookup, hp⟩
  · rintro ⟨admin, registration, hlookup, hp⟩
    exact ⟨admin, Finmap.mem_keys.2 (Finmap.mem_of_lookup_eq_some hlookup), registration, hlookup, hp⟩

variable {d}

theorem registered_iff {path : Path} : d.registered path = true ↔
    ∃ admin registration, d.registrations.lookup admin = some registration ∧ registration.gitdir = path ++ [".git"] := by
  rw [registered, decide_eq_true_iff, exists_registration]
  simp

end Disk

def headRef (branch : String) : String :=
  "refs/heads/" ++ branch

variable (d : Disk)

def Disk.branchFits (branch : String) : Bool :=
  decide (∀ ref ∈ d.refs.keys, ¬ (ref.toList ++ ['/']) <+: (headRef branch).toList ∧
    ¬ ((headRef branch).toList ++ ['/']) <+: ref.toList)

/-! ## The commands of Git -/

/-- What is used of Git.  A command happens completely, or it fails with a message and nothing has happened. -/
structure MissionGit where
  isCommit (oid : Oid) : Bool
  worktreeAdd (d : Disk) (newBranch : Option String) (checkout : Path) (commitish : String) : Except String Disk
  worktreeMove (d : Disk) (checkout target : Path) : Except String Disk
  worktreeRemove (d : Disk) (force : Bool) (path : Path) : Except String Disk

def mentions (message text : String) : Bool :=
  decide (text.toList <:+: message.toList)

def Disk.addWorktree (commonDir admin : Path) (branch : String) (oid : Oid) (checkout : Path) : Disk where
  entries := d.entries.insert checkout (.checkout commonDir admin false)
  refs := d.refs.insert (headRef branch) oid
  registrations := d.registrations.insert admin ⟨checkout ++ [".git"], none, .branch branch⟩

def Disk.moveWorktree (admin checkout target : Path) (entry : Entry) (registration : Registration) : Disk :=
  { d with
    entries := (d.entries.erase checkout).insert target entry
    registrations := d.registrations.insert admin { registration with gitdir := target ++ [".git"] } }

def Disk.removeWorktree (admin path : Path) : Disk :=
  { d with entries := d.entries.erase path, registrations := d.registrations.erase admin }

structure MissionGit.Documented (git : MissionGit) (commonDir : Path) : Prop where
  /-- A new branch is created with the worktree where there is none of its name and room for it. -/
  add_create {d : Disk} {branch baseSha : String} {checkout : Path} : git.isCommit baseSha = true →
    d.pathOccupied checkout = false → d.registered checkout = false → headRef branch ∉ d.refs → d.branchFits branch = true →
    ∃ admin, admin ∉ d.registrations ∧ commonDir ++ ["worktrees"] <+: admin ∧
      git.worktreeAdd d (some branch) checkout baseSha = .ok (d.addWorktree commonDir admin branch baseSha checkout)
  add_taken {d : Disk} {branch baseSha : String} {checkout : Path} : git.isCommit baseSha = true → headRef branch ∈ d.refs →
    ∃ message, git.worktreeAdd d (some branch) checkout baseSha = .error message ∧ mentions message "already exists" = true ∧
      mentions message "branch named" = true
  /-- A branch without room is refused, and not because of its name. -/
  add_unfit {d : Disk} {branch baseSha : String} {checkout : Path} : git.isCommit baseSha = true → headRef branch ∉ d.refs →
    d.branchFits branch = false →
    ∃ message, git.worktreeAdd d (some branch) checkout baseSha = .error message ∧ mentions message "already exists" = false
  /-- A branch that no worktree has checked out is checked out. -/
  add_restore {d : Disk} {branch : String} {oid : Oid} {checkout : Path} : d.pathOccupied checkout = false →
    d.registered checkout = false → d.refs.lookup (headRef branch) = some oid → d.checkedOut branch = false →
    ∃ admin, admin ∉ d.registrations ∧ commonDir ++ ["worktrees"] <+: admin ∧
      git.worktreeAdd d none checkout branch = .ok (d.addWorktree commonDir admin branch oid checkout)
  add_refused {d : Disk} {branch : String} {checkout : Path} : headRef branch ∉ d.refs ∨ d.checkedOut branch = true →
    ∃ message, git.worktreeAdd d none checkout branch = .error message
  /-- A worktree is moved to a place that is free and not registered. -/
  move_ok {d : Disk} {checkout target admin : Path} {modified : Bool} {registration : Registration} :
    d.entries.lookup checkout = some (.checkout commonDir admin modified) → d.registrations.lookup admin = some registration →
    registration.gitdir = checkout ++ [".git"] → d.pathOccupied target = false → d.registered target = false →
    git.worktreeMove d checkout target = .ok (d.moveWorktree admin checkout target (.checkout commonDir admin modified) registration)
  move_refused {d : Disk} {checkout target : Path} : d.registered target = true →
    ∃ message, git.worktreeMove d checkout target = .error message
  remove_force {d : Disk} {path admin : Path} {modified : Bool} {registration : Registration} :
    d.entries.lookup path = some (.checkout commonDir admin modified) → d.registrations.lookup admin = some registration →
    registration.gitdir = path ++ [".git"] → git.worktreeRemove d true path = .ok (d.removeWorktree admin path)

/-! ## Commands that do as documented -/

def nameLength (path : Path) : Nat :=
  (path.getLast?.getD "").length

variable (registrations : Finmap fun _ : Path => Registration) (commonDir : Path)

/-- A directory for a worktree that is not registered: `checkout`, with digits where that is taken. -/
def freshAdmin : Path :=
  if commonDir ++ ["worktrees", "checkout"] ∈ registrations then
    commonDir ++ ["worktrees", "checkout" ++ String.ofList (List.replicate (registrations.keys.sup nameLength) '1')]
  else commonDir ++ ["worktrees", "checkout"]

theorem freshAdmin_not_mem :
    freshAdmin registrations commonDir ∉ registrations := by
  rw [freshAdmin]
  split
  · intro hmem
    have hle := Finset.le_sup (f := nameLength) (Finmap.mem_keys.2 hmem)
    have hlast : commonDir ++ ["worktrees", "checkout" ++ String.ofList (List.replicate (registrations.keys.sup nameLength) '1')] =
        (commonDir ++ ["worktrees"]) ++
          ["checkout" ++ String.ofList (List.replicate (registrations.keys.sup nameLength) '1')] := by simp
    have hdigits : (String.ofList (List.replicate (registrations.keys.sup nameLength) '1')).length =
        registrations.keys.sup nameLength := by
      rw [String.length_ofList, List.length_replicate]
    have hlength : "checkout".length = 8 := rfl
    rw [hlast, nameLength, List.getLast?_concat, Option.getD_some, String.length_append, hdigits, hlength] at hle
    omega
  · assumption

theorem freshAdmin_under :
    commonDir ++ ["worktrees"] <+: freshAdmin registrations commonDir := by
  rw [freshAdmin]
  split <;> simp

def documentedGit : MissionGit where
  isCommit _ := true
  worktreeAdd d newBranch checkout commitish :=
    let added (branch : String) (oid : Oid) :=
      if d.pathOccupied checkout || d.registered checkout then .error ("fatal: '" ++ commitish ++ "' is already registered")
      else .ok (d.addWorktree commonDir (freshAdmin d.registrations commonDir) branch oid checkout)
    match newBranch with
    | some branch =>
      if headRef branch ∈ d.refs then .error ("fatal: a branch named '" ++ branch ++ "' already exists")
      else if d.branchFits branch then added branch commitish
      else .error "fatal: cannot lock ref"
    | none => match d.refs.lookup (headRef commitish) with
      | none => .error ("fatal: invalid reference: " ++ commitish)
      | some oid => if d.checkedOut commitish then .error ("fatal: '" ++ commitish ++ "' is already checked out") else added commitish oid
  worktreeMove d checkout target :=
    if d.registered target then .error "fatal: the target is a missing but already registered worktree"
    else if d.pathOccupied target then .error "fatal: target already exists"
    else match d.entries.lookup checkout with
      | some (.checkout commonDir admin modified) => match d.registrations.lookup admin with
        | some registration => .ok (d.moveWorktree admin checkout target (.checkout commonDir admin modified) registration)
        | none => .error "fatal: not a working tree"
      | _ => .error "fatal: not a working tree"
  worktreeRemove d force path :=
    match d.entries.lookup path with
    | some (.checkout _ admin modified) =>
      if modified && !force then .error "fatal: the worktree contains modified or untracked files, use --force to delete it"
      else .ok (d.removeWorktree admin path)
    | _ => .error "fatal: not a working tree"

theorem mentions_append (before text after : String) : mentions (before ++ text ++ after) text = true := by
  rw [mentions, decide_eq_true_iff, String.toList_append, String.toList_append]
  exact ⟨before.toList, after.toList, rfl⟩

/-- **The documentation can be met.** -/
theorem documentedGit_documented : (documentedGit commonDir).Documented commonDir where
  add_create := fun {d branch baseSha checkout} _ hfree hunregistered hnew hfits => by
    refine ⟨_, freshAdmin_not_mem d.registrations commonDir, freshAdmin_under d.registrations commonDir, ?_⟩
    simp [documentedGit, hfree, hunregistered, hnew, hfits]
  add_taken := fun {d branch baseSha checkout} _ hmem => by
    refine ⟨"fatal: a branch named '" ++ branch ++ "' already exists", by simp [documentedGit, hmem], ?_, ?_⟩
    · have hsplit : "fatal: a branch named '" ++ branch ++ "' already exists" =
          ("fatal: a branch named '" ++ branch ++ "' ") ++ "already exists" ++ "" := by
        simp [String.append_assoc]
      rw [hsplit]
      exact mentions_append _ _ _
    · have hsplit : "fatal: a branch named '" ++ branch ++ "' already exists" =
          "fatal: a " ++ "branch named" ++ (" '" ++ branch ++ "' already exists") := by
        simp [← String.append_assoc]
      rw [hsplit]
      exact mentions_append _ _ _
  add_unfit := fun {d branch baseSha checkout} _ hnew hfits =>
    ⟨"fatal: cannot lock ref", by simp [documentedGit, hnew, hfits], by decide⟩
  add_restore := fun {d branch oid checkout} hfree hunregistered hlookup hout => by
    refine ⟨_, freshAdmin_not_mem d.registrations commonDir, freshAdmin_under d.registrations commonDir, ?_⟩
    simp [documentedGit, hfree, hunregistered, hlookup, hout]
  add_refused := fun {d branch checkout} h => by
    cases hlookup : d.refs.lookup (headRef branch) with
    | none => exact ⟨_, by simp only [documentedGit, hlookup]; rfl⟩
    | some oid =>
      have hout : d.checkedOut branch = true := h.resolve_left fun hnot => hnot (Finmap.mem_of_lookup_eq_some hlookup)
      exact ⟨_, by simp only [documentedGit, hlookup, hout, if_true]; rfl⟩
  move_ok := fun {d checkout target admin modified registration} hentry hregistration _ hfree hunregistered => by
    simp [documentedGit, hentry, hregistration, hfree, hunregistered]
  move_refused := fun {d checkout target} hregistered => ⟨_, by simp only [documentedGit, hregistered, if_true]; rfl⟩
  remove_force := fun {d path admin modified registration} hentry _ _ => by
    simp [documentedGit, hentry]

end Rovai.Mission
