import RovaiCore.MemoryCache
/-!
# Runs of the memory system

Memories are written, members come and go, and runs of any binding search, read and view. `System.returned` is what the calls that
ended well returned, in their order.
-/
namespace Rovai.Memory

open List

structure System where
  database : Database
  returned : List Returned

inductive Command where
  | create (command : CreateMemoryCommand)
  | revise (command : ReviseMemoryCommand)
  | retire (memoryId : String) (expectedVersion : Int)
  | forget (memoryId : String) (expectedVersion : Int)
  | setMembers (members : List CampMember) (profiles : List AgentProfile)
  | search (authenticated : Except MemoryError ReadIdentity) (input : MemorySearchInput)
  | read (authenticated : Except MemoryError ReadIdentity) (memoryIds : List String)
  | view (authenticated : Except MemoryError ReadIdentity) (input : MemoryViewInput)

def empty : System where
  database := ⟨⟨Tables.Table.empty, Tables.Table.empty, [], true⟩, [], [], [], 0⟩
  returned := []

def System.write (s : System) (write : Tables → Tables) : System :=
  { s with database := { s.database with tables := write s.database.tables } }

def returnedTo (authenticated : Except MemoryError ReadIdentity) (entries : List (String × String)) : List Returned :=
  match authenticated with
  | .error _ => []
  | .ok run => entries.map fun entry => ⟨run.nativeBindingId, run.nativeBindingGeneration, entry.1, entry.2⟩

def System.after {α : Type} (s : System) (authenticated : Except MemoryError ReadIdentity) (entries : α → List (String × String))
    (outcome : Database × Except MemoryError α) : System :=
  match outcome with
  | (d, .error _) => { s with database := d }
  | (d, .ok a) => ⟨d, s.returned ++ returnedTo authenticated (entries a)⟩

def searchEntries (results : List MemorySearchResult) : List (String × String) :=
  results.map fun result => (result.memoryId, result.revisionId)

def readEntries (results : List MemoryReadResult) : List (String × String) :=
  results.filterMap fun result => result.target.map fun target => (result.memoryId, target.revisionId)

def viewEntries (output : MemoryViewOutput) : List (String × String) :=
  output.items.map fun item => (item.target.memoryId, item.target.revisionId)

variable (w : Outside)

def step (s : System) : Command → System
  | .create command => s.write fun t => t.create command
  | .revise command => s.write fun t => t.revise command
  | .retire memoryId expectedVersion => s.write fun t => t.retire memoryId expectedVersion
  | .forget memoryId expectedVersion => s.write fun t => t.forget memoryId expectedVersion
  | .setMembers members profiles => { s with database := { s.database with members := members, profiles := profiles } }
  | .search authenticated input => s.after authenticated searchEntries (s.database.search w authenticated input)
  | .read authenticated memoryIds => s.after authenticated readEntries (s.database.read w authenticated memoryIds)
  | .view authenticated input => s.after authenticated viewEntries (s.database.view w authenticated input)

structure Consistent (s : System) : Prop where
  sound : s.database.Sound w
  log : s.database.returned = s.returned

/-- A call that failed and left everything as it was, or that ended well and left evidence of what it returned. -/
def Settled {α : Type} (d : Database) (authenticated : Except MemoryError ReadIdentity) (entries : α → List (String × String))
    (outcome : Database × Except MemoryError α) : Prop :=
  (∃ e, outcome = (d, .error e)) ∨ ∃ run observations a, authenticated = .ok run ∧
    outcome = (d.recorded w run observations, .ok a) ∧
    observations.filterMap (Observation.returned run) = returnedTo authenticated (entries a)

/-! ## Calls settle -/

variable {w} {α : Type}

theorem returned_map {run : ReadIdentity} {items : List α} {observe : α → Observation} {entry : α → String × String}
    (h : ∀ item, (observe item).returned run = some ⟨run.nativeBindingId, run.nativeBindingGeneration, (entry item).1, (entry item).2⟩) :
    (items.map observe).filterMap (Observation.returned run) = returnedTo (.ok run) (items.map entry) := by
  unfold returnedTo
  dsimp only
  rw [filterMap_map, map_map, ← filterMap_eq_map]
  exact filterMap_congr fun item _ => h item

theorem returned_readObservations {run : ReadIdentity} {results : List MemoryReadResult}
    (h : ∀ result ∈ results, result.target.isSome = true → result.cacheState = .current ∨ result.cacheState = .revisionChanged) :
    (results.map readObservation).filterMap (Observation.returned run) = returnedTo (.ok run) (readEntries results) := by
  unfold returnedTo readEntries
  dsimp only
  rw [filterMap_map, map_filterMap]
  refine filterMap_congr fun result hresult => ?_
  have hgiven := h result hresult
  unfold Function.comp Observation.returned readObservation
  cases htarget : result.target with
  | none => split <;> rfl
  | some target =>
    rw [if_pos (hgiven (by rw [htarget]; rfl))]
    rfl

section Settling

variable (hid : Function.Injective w.newId) (hnow : StrictMono w.now) {d : Database} (h : d.Sound w)
include hid hnow h

variable (authenticated : Except MemoryError ReadIdentity)

theorem search_settled (input : MemorySearchInput) :
    Settled w d authenticated searchEntries (d.search w authenticated input) := by
  cases authenticated with
  | error e => exact .inl ⟨e, rfl⟩
  | ok run =>
    obtain ⟨e, houtcome⟩ | ⟨queryDigest, results, houtcome⟩ := @search_outcome w run d hid hnow h input
    · exact .inl ⟨e, houtcome⟩
    · exact .inr ⟨run, _, results, rfl, houtcome, returned_map fun result => rfl⟩

theorem read_settled (memoryIds : List String) :
    Settled w d authenticated readEntries (d.read w authenticated memoryIds) := by
  cases authenticated with
  | error e => exact .inl ⟨e, rfl⟩
  | ok run =>
    obtain ⟨e, houtcome⟩ | ⟨results, houtcome, -, htells⟩ := @read_outcome w run d hid hnow h memoryIds
    · exact .inl ⟨e, houtcome⟩
    · exact .inr ⟨run, _, results, rfl, houtcome, returned_readObservations fun result hresult => (htells result hresult).given⟩

theorem view_settled (input : MemoryViewInput) :
    Settled w d authenticated viewEntries (d.view w authenticated input) := by
  cases authenticated with
  | error e =>
    left
    unfold Database.view
    split
    · exact ⟨_, rfl⟩
    · exact ⟨e, rfl⟩
  | ok run =>
    obtain ⟨e, houtcome⟩ | ⟨output, houtcome⟩ := @view_outcome w run d hid hnow h input
    · exact .inl ⟨e, houtcome⟩
    · exact .inr ⟨run, _, output, rfl, houtcome, returned_map fun item => rfl⟩

end Settling

theorem unchanged_of_settled {d d' : Database} {authenticated : Except MemoryError ReadIdentity}
    {entries : α → List (String × String)} {outcome : Database × Except MemoryError α} {e : MemoryError}
    (h : Settled w d authenticated entries outcome) (herror : outcome = (d', .error e)) : d' = d := by
  obtain ⟨e', houtcome⟩ | ⟨run, observations, a, -, houtcome, -⟩ := h
  · exact (Prod.mk.inj (herror.symm.trans houtcome)).1
  · exact absurd (herror.symm.trans houtcome) Attempts.error_ne_ok

/-! ## Every step keeps the invariant -/

theorem consistent_empty : Consistent w empty where
  sound := by
    refine ⟨⟨fun memoryId m hm => (nomatch hm), fun row hrow => absurd hrow not_mem_nil⟩,
      fun row hrow => absurd hrow not_mem_nil, List.Pairwise.nil⟩
  log := rfl

theorem consistent_write {s : System} (h : Consistent w s) {write : Tables → Tables} (hwrite : ∀ t : Tables, t.Kept → (write t).Kept) :
    Consistent w (s.write write) where
  sound := ⟨hwrite _ h.sound.kept, h.sound.drawn.drawn, h.sound.drawn.ordered⟩
  log := h.log

theorem consistent_after (hnow : StrictMono w.now) {s : System} (h : Consistent w s)
    {authenticated : Except MemoryError ReadIdentity} {entries : α → List (String × String)} {outcome : Database × Except MemoryError α}
    (hsettled : Settled w s.database authenticated entries outcome) : Consistent w (s.after authenticated entries outcome) := by
  obtain ⟨e, rfl⟩ | ⟨run, observations, a, rfl, rfl, hentries⟩ := hsettled
  · exact h
  refine ⟨⟨?_, drawn_recorded hnow h.sound.drawn observations⟩, ?_⟩
  · exact (same_recorded s.database observations).tables.symm ▸ h.sound.kept
  unfold System.after
  dsimp only
  rw [returned_recorded, h.log, hentries]

theorem consistent_step (hid : Function.Injective w.newId) (hnow : StrictMono w.now) (s : System) (command : Command)
    (h : Consistent w s) : Consistent w (step w s command) := by
  cases command with
  | create command => exact consistent_write h fun t ht => kept_create ht command
  | revise command => exact consistent_write h fun t ht => kept_revise ht command
  | retire memoryId expectedVersion => exact consistent_write h fun t ht => kept_retire ht memoryId expectedVersion
  | forget memoryId expectedVersion => exact consistent_write h fun t ht => kept_forget ht memoryId expectedVersion
  | setMembers => exact ⟨⟨h.sound.kept, h.sound.drawn.drawn, h.sound.drawn.ordered⟩, h.log⟩
  | search authenticated input => exact consistent_after hnow h (search_settled hid hnow h.sound authenticated input)
  | read authenticated memoryIds => exact consistent_after hnow h (read_settled hid hnow h.sound authenticated memoryIds)
  | view authenticated input => exact consistent_after hnow h (view_settled hid hnow h.sound authenticated input)

theorem consistent_run (hid : Function.Injective w.newId) (hnow : StrictMono w.now) (commands : List Command) :
    Consistent w (commands.foldl (step w) empty) :=
  Runs.run_invariant (step w) (consistent_step hid hnow) commands empty consistent_empty

/-! ## What the cache states say -/

def lessonRun : List Command := [
  .create ⟨⟨.hearth, none, none, none, none, none⟩, .lesson, "ask early", ["asking"], "m", "r1", "t0", true⟩,
  .read (.ok adaRun) ["m"],
  .revise ⟨"m", 1, "r1", "ask twice", ["asking"], "r2", true⟩]

def askTwice : MemoryReadResult :=
  ⟨"m", .revisionChanged, some ⟨"m", "r2", .hearth, none, none⟩, some .lesson, some true, ["asking"], some "ask twice"⟩

end Rovai.Memory
