import RovaiCore.MemoryKeeping
import RovaiCore.MemoryEvidence
import RovaiCore.Runs
import Mathlib.Data.List.Dedup
/-!
# What the cache states of a read say

Runs search, read and view while memories are written and members come and go.
-/
namespace Rovai.Memory

open List

/-! ## Calls over tables that are kept -/

section Calls

variable {w : Outside} {run : ReadIdentity} {d : Database}

variable {memoryId : String}

theorem active_of_get (hkept : d.tables.Kept) {memory : StoredMemoryView} (hget : d.get memoryId = some memory)
    (hactive : memory.lifecycle = .active) : ∃ m scope kind revisionId body, memory = d.memoryViewFromRecord m ∧ m.id = memoryId ∧
      m.scope = some scope ∧ scope.checked m.kind = true ∧ memory.kind = some kind ∧ memory.currentRevisionId = some revisionId ∧
      memory.currentBody = some body ∧ body.utf8ByteSize ≤ bodyMaxBytes := by
  obtain ⟨m, hfind, rfl⟩ := Option.map_eq_some_iff.1 hget
  have hholds := hkept.holds memoryId m hfind
  obtain ⟨scope, kind, revisionId, hscope, hkind, hrevisionId, hchecked⟩ := active_scope hholds.checked hactive
  obtain ⟨revision, hrevision, -, body, hbody, hsize⟩ := hholds.current revisionId hrevisionId
  refine ⟨m, scope, kind, revisionId, body, rfl, Tables.Table.key_of_find? hfind, hscope, hchecked, hkind, hrevisionId, ?_, hsize⟩
  have hcurrent : d.currentRevision m = some revision := by
    unfold Database.currentRevision
    rw [hrevisionId]
    exact hrevision
  have hbodies : (d.memoryViewFromRecord m).currentBody = (d.currentRevision m).bind RevisionRow.body := rfl
  rw [hbodies, hcurrent]
  exact hbody

theorem exists_other {low high : String} (hne : low ≠ high) (agentId : String) :
    ∃ other, [low, high].find? (· != agentId) = some other := by
  by_cases hlow : low = agentId
  · exact ⟨high, (find?_other hne).2 high (.inl ⟨hlow.symm, rfl⟩)⟩
  · exact ⟨low, find?_cons_of_pos (by simpa using hlow)⟩

theorem memoryAccessible_total {m : MemoryRow} {scope : MemoryScope} (hscope : m.scope = some scope)
    (hchecked : scope.checked m.kind = true) : ∃ accessible, d.memoryAccessible run (d.memoryViewFromRecord m) = .ok accessible := by
  unfold Database.memoryAccessible
  rw [(scope_record hscope).1]
  cases hkind : scope.kind with
  | hearth | companion => exact ⟨_, rfl⟩
  | relationship =>
    obtain ⟨low, high, hlow, hhigh, hlt⟩ := relationship_columns hchecked hkind
    obtain ⟨other, hother⟩ := exists_other hlt.ne run.agentId
    dsimp only
    rw [relationshipAgentIds_record hscope hlow hhigh, hother]
    split
    · exact ⟨_, rfl⟩
    · exact ⟨_, rfl⟩

theorem authorizedScopeIdentity_total {m : MemoryRow} {scope : MemoryScope} (hscope : m.scope = some scope)
    (hchecked : scope.checked m.kind = true) (agentId : String) :
    ∃ authorized, authorizedScopeIdentity (d.memoryViewFromRecord m) agentId = .ok authorized := by
  unfold authorizedScopeIdentity
  rw [(scope_record hscope).1]
  cases hkind : scope.kind with
  | hearth | companion => exact ⟨_, rfl⟩
  | relationship =>
    obtain ⟨low, high, hlow, hhigh, hlt⟩ := relationship_columns hchecked hkind
    obtain ⟨other, hother⟩ := exists_other hlt.ne agentId
    dsimp only
    rw [relationshipAgentIds_record hscope hlow hhigh, hother]
    exact ⟨_, rfl⟩

/-! ## Reading one memory -/

/-- **What the state of a result says**, next to the last revision that the binding was given. -/
structure MemoryReadResult.Tells (d : Database) (run : ReadIdentity) (previous : Option String) (result : MemoryReadResult) : Prop where
  accessible : ∀ memory, d.get result.memoryId = some memory → memory.lifecycle = .active →
    d.memoryAccessible run memory = .ok true → ∃ current, memory.currentRevisionId = some current ∧
      result.cacheState = if previous.any (· != current) then .revisionChanged else .current
  lost : previous = none → ¬ d.Discloses run result.memoryId → result.cacheState = .unavailable
  given : result.target.isSome = true → result.cacheState = .current ∨ result.cacheState = .revisionChanged

variable {result : MemoryReadResult}

theorem MemoryReadResult.Tells.states {previous : Option String} (h : result.Tells d run previous)
    (memory : StoredMemoryView) (hget : d.get result.memoryId = some memory) (hactive : memory.lifecycle = .active)
    (haccessible : d.memoryAccessible run memory = .ok true) :
    (result.cacheState = .revisionChanged ↔ ∃ given, previous = some given ∧ memory.currentRevisionId ≠ some given) ∧
      (result.cacheState ≠ .revisionChanged → result.cacheState = .current) := by
  obtain ⟨current, hcurrent, hstate⟩ := h.accessible memory hget hactive haccessible
  rw [hstate, hcurrent]
  by_cases hchanged : previous.any (· != current) = true
  · rw [if_pos hchanged]
    obtain ⟨given, hgiven, hne⟩ := (Option.any_eq_true _ _).1 hchanged
    refine ⟨iff_of_true rfl ⟨given, hgiven, fun heq => ?_⟩, fun hnot => absurd rfl hnot⟩
    obtain rfl := Option.some.inj heq
    exact bne_iff_ne.1 hne rfl
  · rw [if_neg hchanged]
    refine ⟨iff_of_false nofun ?_, fun _ => rfl⟩
    rintro ⟨given, rfl, hne⟩
    refine hchanged (bne_iff_ne.2 fun heq => hne ?_)
    rw [heq]

theorem readResult_total (hkept : d.tables.Kept) (memoryId : String) {bodyBytes : Nat}
    (hroom : bodyBytes + bodyMaxBytes ≤ readBodyMaxBytes) : ∃ result bytes,
      d.readResult run memoryId bodyBytes = .ok (result, bytes) ∧ bytes ≤ bodyBytes + bodyMaxBytes := by
  unfold Database.readResult
  dsimp only
  cases hget : d.get memoryId with
  | none => exact ⟨_, _, rfl, Nat.le_add_right _ _⟩
  | some memory =>
    dsimp only
    by_cases hactive : memory.lifecycle = .active
    · obtain ⟨m, scope, kind, revisionId, body, rfl, -, hscope, hchecked, -, hrevision, hbody, hsize⟩ :=
        active_of_get hkept hget hactive
      obtain ⟨accessible, haccessible⟩ := @memoryAccessible_total run d m scope hscope hchecked
      obtain ⟨authorized, hauthorized⟩ := authorizedScopeIdentity_total (d := d) hscope hchecked run.agentId
      rw [if_neg (not_not.2 hactive), haccessible]
      cases accessible with
      | false => exact ⟨_, _, rfl, Nat.le_add_right _ _⟩
      | true =>
        unfold authorizedResult authorizedTarget
        rw [hrevision, hbody]
        dsimp only
        rw [if_neg (by omega), hauthorized]
        exact ⟨_, _, rfl, Nat.add_le_add_left hsize _⟩
    · rw [if_pos hactive]
      exact ⟨_, _, rfl, Nat.le_add_right _ _⟩

theorem redacted_eq {bodyBytes bytes : Nat}
    (h : d.readResult run memoryId bodyBytes = .ok (result, bytes)) : result.redacted = result := by
  obtain ⟨state, rfl, -⟩ | ⟨memory, -, -, -, hresult⟩ := readResult_ok h
  · rfl
  obtain ⟨_, _, _, -, -, -, -, rfl⟩ := authorizedResult_ok hresult
  rfl

theorem tells_readResult {bodyBytes bytes : Nat}
    (h : d.readResult run memoryId bodyBytes = .ok (result, bytes)) :
    result.memoryId = memoryId ∧ result.Tells d run (d.previousAuthorizedRevision run memoryId) := by
  obtain ⟨state, rfl, -, hnot, hstate⟩ | ⟨memory, hget, hactive, haccessible, hresult⟩ := readResult_ok h
  · exact ⟨rfl, fun memory hget hactive haccessible => absurd ⟨memory, hget, hactive, haccessible⟩ hnot,
      fun hprevious _ => hstate hprevious, nofun⟩
  · obtain ⟨revisionId, body, target, hrevision, -, -, -, rfl⟩ := authorizedResult_ok hresult
    refine ⟨rfl, fun memory' hget' _ _ => ?_, fun _ hnot => absurd ⟨memory, hget, hactive, haccessible⟩ hnot, fun _ => ?_⟩
    · obtain rfl : memory = memory' := Option.mem_unique hget hget'
      exact ⟨revisionId, hrevision, rfl⟩
    · dsimp only
      split
      · exact .inr rfl
      · exact .inl rfl

/-! ## The three calls -/

def readObservation (result : MemoryReadResult) : Observation :=
  ⟨.read, none, result.memoryId, result.target.map MemoryTarget.revisionId, result.cacheState⟩

def searchObservation (queryDigest : String) (result : MemorySearchResult) : Observation :=
  ⟨.search, some queryDigest, result.memoryId, some result.revisionId, .current⟩

def viewObservation (item : MemoryViewItem) : Observation :=
  ⟨.view, none, item.target.memoryId, some item.target.revisionId, .current⟩

structure Database.Sound (w : Outside) (d : Database) : Prop where
  kept : d.tables.Kept
  drawn : d.Drawn w

theorem readStep_eq (hid : Function.Injective w.newId) (hdrawn : d.Drawn w) {progress : ReadProgress}
    {bytes : Nat} (h : d.readResult run memoryId progress.bodyBytes = .ok (result, bytes)) :
    d.readStep w run progress memoryId =
      (d.append w run (readObservation result), .ok ⟨bytes, progress.results ++ [result]⟩) := by
  have hrecord := @recordEvidence_eq w run d hid hdrawn (readObservation result)
  unfold readObservation at hrecord
  rw [(tells_readResult h).1] at hrecord
  unfold Database.readStep
  rw [h]
  dsimp only
  rw [hrecord, redacted_eq h]
  unfold readObservation
  rw [(tells_readResult h).1]
  rfl

theorem previous_recorded (hnow : StrictMono w.now) (hdrawn : d.Drawn w) {observations : List Observation}
    (hne : ∀ o ∈ observations, o.memoryId ≠ memoryId) :
    (d.recorded w run observations).previousAuthorizedRevision run memoryId = d.previousAuthorizedRevision run memoryId := by
  rw [previous_eq (drawn_recorded hnow hdrawn observations), previous_eq hdrawn, returned_recorded]
  refine lastReturned_append_of_ne fun entry hentry => ?_
  obtain ⟨o, ho, hreturned⟩ := mem_filterMap.1 hentry
  unfold Observation.returned at hreturned
  split at hreturned
  · obtain ⟨revisionId, -, rfl⟩ := Option.map_eq_some_iff.1 hreturned
    exact hne o ho
  · cases hreturned

structure ReadDone (w : Outside) (run : ReadIdentity) (d : Database) (done : List String) (s : Database) (progress : ReadProgress) :
    Prop where
  state : s = d.recorded w run (progress.results.map readObservation)
  ids : progress.results.map MemoryReadResult.memoryId = done
  bytes : progress.bodyBytes ≤ bodyMaxBytes * done.length
  tells : ∀ result ∈ progress.results, result.Tells d run (d.previousAuthorizedRevision run result.memoryId)

variable (hid : Function.Injective w.newId) (hnow : StrictMono w.now) (h : d.Sound w)
include hid hnow h

theorem readStep_total {done : List String} {s : Database} {progress : ReadProgress}
    (hdone : ReadDone w run d done s progress) (hfresh : memoryId ∉ done) (hroom : done.length < readMaxIds) :
    ∃ s' progress', s.readStep w run progress memoryId = (s', .ok progress') ∧ ReadDone w run d (done ++ [memoryId]) s' progress' := by
  obtain ⟨hstate, hids, hbytes, htells⟩ := hdone
  have hsame : d.Same s := hstate ▸ same_recorded d _
  have hdrawn : s.Drawn w := hstate ▸ drawn_recorded hnow h.drawn _
  have hkept : s.tables.Kept := hsame.tables.symm ▸ h.kept
  have hprevious : s.previousAuthorizedRevision run memoryId = d.previousAuthorizedRevision run memoryId := by
    rw [hstate]
    refine previous_recorded hnow h.drawn fun o ho => ?_
    obtain ⟨result, hresult, rfl⟩ := mem_map.1 ho
    rintro rfl
    exact hfresh (hids ▸ mem_map_of_mem hresult)
  have hspace : progress.bodyBytes + bodyMaxBytes ≤ readBodyMaxBytes := by
    unfold bodyMaxBytes readBodyMaxBytes at *
    unfold readMaxIds at hroom
    omega
  obtain ⟨result, bytes, hresult, hsize⟩ := @readResult_total run s hkept memoryId _ hspace
  obtain ⟨hmemoryId, haccessible, hlost, hgiven⟩ := tells_readResult hresult
  refine ⟨_, _, readStep_eq hid hdrawn hresult, ?_, ?_, ?_, ?_⟩
  · rw [map_append, map_singleton, recorded_snoc, hstate]
  · rw [map_append, hids, map_singleton, hmemoryId]
  · dsimp only
    rw [length_append, length_singleton, Nat.mul_succ]
    exact hsize.trans (Nat.add_le_add_right hbytes _)
  · intro result' hmem
    obtain hmem | hmem := mem_append.1 hmem
    · exact htells result' hmem
    obtain rfl := mem_singleton.1 hmem
    rw [hmemoryId, ← hprevious]
    refine ⟨fun memory hget hactive hok => ?_, fun hnone hnot => ?_, hgiven⟩
    · exact haccessible memory ((hsame.get _).trans hget) hactive ((hsame.memoryAccessible run memory).trans hok)
    · exact hlost hnone fun hdisclosed => hnot ((hsame.discloses run _).1 hdisclosed)

/-- **A read fails as a whole or not at all.** -/
theorem read_outcome (memoryIds : List String) : (∃ e, d.read w (.ok run) memoryIds = (d, .error e)) ∨
    ∃ results : List MemoryReadResult,
      d.read w (.ok run) memoryIds = (d.recorded w run (results.map readObservation), .ok results) ∧
      results.map MemoryReadResult.memoryId = memoryIds ∧
      ∀ result ∈ results, result.Tells d run (d.previousAuthorizedRevision run result.memoryId) := by
  unfold Database.read
  dsimp only
  split
  · exact .inl ⟨_, rfl⟩
  rename_i hcount
  split
  · exact .inl ⟨_, rfl⟩
  rename_i hunique
  have hlength : memoryIds.length ≤ readMaxIds := Nat.le_of_not_lt fun hlt => hcount (.inr hlt)
  have hnodup : memoryIds.Nodup := by
    have heq : memoryIds.dedup.length = memoryIds.length := Decidable.not_not.1 fun hne => hunique (.inl hne)
    exact dedup_eq_self.1 ((dedup_sublist memoryIds).eq_of_length heq)
  obtain ⟨s', progress, hloop, hdone⟩ := @Attempts.loop_total _ _ _ _ (Database.readStep w run) (ReadDone w run d) memoryIds []
    d ⟨0, []⟩ (fun before memoryId after s progress hitems hbefore => by
      rw [nil_append] at hitems
      rw [hitems] at hnodup hlength
      rw [length_append, length_cons] at hlength
      have hnew := (nodup_append.1 hnodup).2.2
      exact readStep_total hid hnow h hbefore (fun hmem => hnew memoryId hmem memoryId mem_cons_self rfl) (by omega))
    ⟨rfl, rfl, Nat.zero_le _, fun result hmem => absurd hmem not_mem_nil⟩
  refine .inr ⟨progress.results, ?_, hdone.ids, hdone.tells⟩
  rw [hloop, ← hdone.state]
  rfl

theorem searchStep_total {queryDigest : String} {rawSnippet : FtsRow → String} {s : Database} {progress : SearchProgress} {row : FtsRow}
    (hstate : s = d.recorded w run (progress.results.map (searchObservation queryDigest))) (hrow : row ∈ d.tables.memoryFts) :
    ∃ s' progress', s.searchStep w run queryDigest rawSnippet progress row = (s', .ok progress') ∧
      s' = d.recorded w run (progress'.results.map (searchObservation queryDigest)) := by
  have hsame : d.Same s := hstate ▸ same_recorded d _
  have hdrawn : s.Drawn w := hstate ▸ drawn_recorded hnow h.drawn _
  obtain ⟨m, hfind, hactive, hrevision⟩ := h.kept.indexed row hrow
  have hget : s.get row.memoryId = some (d.memoryViewFromRecord m) := (hsame.get _).trans (congrArg (Option.map _) hfind)
  have hget' : d.get row.memoryId = some (d.memoryViewFromRecord m) := congrArg (Option.map _) hfind
  obtain ⟨m', scope, kind, revisionId, body, heq, -, hscope, hchecked, hkind, -, -, -⟩ := active_of_get h.kept hget' hactive
  obtain ⟨authorized, hauthorized⟩ := authorizedScopeIdentity_total (d := d) hscope hchecked run.agentId
  rw [← heq] at hauthorized
  have hcurrent : (d.memoryViewFromRecord m).currentRevisionId = some row.revisionId := hrevision
  unfold Database.searchStep
  rw [hget]
  dsimp only
  rw [if_neg (by rw [hcurrent]; exact fun hor => hor.elim (fun hne => hne rfl) (fun hne => hne hactive))]
  unfold searchResult
  rw [hkind, hauthorized]
  dsimp only
  rw [recordEvidence_eq hid hdrawn]
  refine ⟨_, _, rfl, ?_⟩
  dsimp only
  rw [map_append, map_singleton, recorded_snoc, ← hstate]
  rfl

/-- **A search fails as a whole or not at all.** -/
theorem search_outcome (input : MemorySearchInput) : (∃ e, d.search w (.ok run) input = (d, .error e)) ∨
    ∃ queryDigest, ∃ results : List MemorySearchResult,
      d.search w (.ok run) input = (d.recorded w run (results.map (searchObservation queryDigest)), .ok results) := by
  unfold Database.search
  dsimp only
  split
  · exact .inl ⟨_, rfl⟩
  split
  · exact .inl ⟨_, rfl⟩
  split
  · exact .inl ⟨_, rfl⟩
  split
  · exact .inl ⟨_, rfl⟩
  rename_i accessible _
  split
  · exact .inr ⟨"", [], rfl⟩
  split
  · exact .inl ⟨_, rfl⟩
  refine .inr ⟨w.sha256 (trimmed input.query), ?_⟩
  generalize hrows : d.searchRows w (ftsQuery (trimmed input.query)) accessible (input.limit.getD searchMaxResults).toNat = rows
  have hindexed : ∀ row ∈ rows, row ∈ d.tables.memoryFts := fun row hrow => (mem_searchRows (hrows ▸ hrow)).1
  obtain ⟨s', progress, hloop, hdone⟩ := @Attempts.loop_total _ _ _ _
    (Database.searchStep w run (w.sha256 (trimmed input.query))
      (w.fts.snippet d.tables.memoryFts (ftsQuery (trimmed input.query))))
    (fun _ s progress => s = d.recorded w run (progress.results.map (searchObservation (w.sha256 (trimmed input.query)))))
    rows [] d ⟨allSnippetsMaxBytes, []⟩ (fun before row after s progress hitems hbefore => by
      refine searchStep_total hid hnow h hbefore (hindexed row ?_)
      rw [nil_append] at hitems
      rw [hitems]
      exact mem_append_right _ mem_cons_self) rfl
  refine ⟨progress.results, ?_⟩
  rw [hloop, ← hdone]
  rfl

/-- **A view fails as a whole or not at all.** -/
theorem view_outcome (input : MemoryViewInput) : (∃ e, d.view w (.ok run) input = (d, .error e)) ∨
    ∃ output : MemoryViewOutput,
      d.view w (.ok run) input = (d.recorded w run (output.items.map viewObservation), .ok output) := by
  unfold Database.view
  split
  · exact .inl ⟨_, rfl⟩
  dsimp only
  split
  · exact .inl ⟨_, rfl⟩
  rename_i output _
  refine .inr ⟨output, ?_⟩
  obtain ⟨s', ⟨⟩, hloop, hdone⟩ := @Attempts.loop_total _ _ _ _ (Database.viewStep w run)
    (fun done s _ => s = d.recorded w run (done.map viewObservation))
    output.items [] d () (fun before item after s _ _ hbefore => by
      refine ⟨s.append w run (viewObservation item), (), ?_, ?_⟩
      · exact recordEvidence_eq hid (hbefore ▸ drawn_recorded hnow h.drawn _) (viewObservation item)
      · rw [map_append, map_singleton, recorded_snoc, ← hbefore]) rfl
  rw [hloop, hdone]
  rfl

end Calls

end Rovai.Memory
