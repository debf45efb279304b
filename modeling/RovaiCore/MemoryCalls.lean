import RovaiCore.MemoryVisibility
/-!
# What the calls of retrieval go through

A call that ends well, read backwards: which memories it met, what it wrote and what it returned. Retrieval writes evidence only.
-/
namespace Rovai.Memory

/-! ## What retrieval leaves as it is -/

structure Database.Same (d d' : Database) : Prop where
  tables : d'.tables = d.tables
  members : d'.members = d.members
  profiles : d'.profiles = d.profiles

namespace Database.Same

theorem refl (d : Database) : d.Same d := ⟨rfl, rfl, rfl⟩

theorem trans {d d' d'' : Database} (h : d.Same d') (h' : d'.Same d'') : d.Same d'' :=
  ⟨h'.tables.trans h.tables, h'.members.trans h.members, h'.profiles.trans h.profiles⟩

variable {d d' : Database}

theorem memoryViewFromRecord (h : d.Same d') : d'.memoryViewFromRecord = d.memoryViewFromRecord := by
  funext m
  unfold Database.memoryViewFromRecord Database.currentRevision
  rw [h.tables]

theorem get (h : d.Same d') (memoryId : String) : d'.get memoryId = d.get memoryId := by
  unfold Database.get
  rw [h.tables, h.memoryViewFromRecord]

theorem memoryAccessible (h : d.Same d') (run : ReadIdentity) (memory : StoredMemoryView) :
    d'.memoryAccessible run memory = d.memoryAccessible run memory := by
  unfold Database.memoryAccessible Database.presentMembers
  rw [h.members, h.profiles]

theorem discloses (h : d.Same d') (run : ReadIdentity) (memoryId : String) :
    d'.Discloses run memoryId ↔ d.Discloses run memoryId := by
  unfold Database.Discloses
  rw [h.get]
  simp [h.memoryAccessible]

end Database.Same

variable {run : ReadIdentity} {d d' : Database} {w : Outside}

theorem recordEvidence_ok {o : Observation}
    (h : d.recordEvidence w run o = (d', .ok ())) :
    d' = { d with drawn := d.drawn + 1, evidence := d.evidence ++ [o.row w run d.drawn] } := by
  unfold Database.recordEvidence at h
  split at h
  · exact absurd h Attempts.error_ne_ok
  · exact (congrArg Prod.fst h).symm

theorem same_recordEvidence {o : Observation}
    (h : d.recordEvidence w run o = (d', .ok ())) : d.Same d' := by
  rw [recordEvidence_ok h]
  exact ⟨rfl, rfl, rfl⟩

/-! ## Read -/

variable {memoryId : String}

theorem authorizedResult_ok {previous : Option String} {memory : StoredMemoryView}
    {bodyBytes bytes : Nat} {result : MemoryReadResult} (h : authorizedResult run previous memory memoryId bodyBytes = .ok (result, bytes)) :
    ∃ revisionId body target, memory.currentRevisionId = some revisionId ∧ memory.currentBody = some body ∧
      authorizedTarget memory run.agentId = .ok target ∧ bytes = bodyBytes + body.utf8ByteSize ∧
      result = ⟨memoryId, if previous.any (· != revisionId) then .revisionChanged else .current, some target, memory.kind,
        some (decide (target.direction ≠ some .mutual)), memory.currentRetrievalKeys, some body⟩ := by
  unfold authorizedResult at h
  split at h
  · cases h
  rename_i revisionId hrevision
  split at h
  · cases h
  rename_i body hbody
  obtain ⟨-, h⟩ := Fallible.guard_eq_ok.1 h
  dsimp only at h
  split at h
  · cases h
  rename_i target htarget
  obtain ⟨rfl, rfl⟩ := Prod.mk.inj (Except.ok.inj h)
  exact ⟨revisionId, body, target, hrevision, hbody, htarget, rfl, rfl⟩

theorem readResult_ok {d : Database} {bodyBytes bytes : Nat} {result : MemoryReadResult}
    (h : d.readResult run memoryId bodyBytes = .ok (result, bytes)) :
    (∃ state, result = unavailableResult memoryId state ∧ bytes = bodyBytes ∧ ¬ d.Discloses run memoryId ∧
      (d.previousAuthorizedRevision run memoryId = none → state = .unavailable)) ∨
    (∃ memory, d.get memoryId = some memory ∧ memory.lifecycle = .active ∧ d.memoryAccessible run memory = .ok true ∧
      authorizedResult run (d.previousAuthorizedRevision run memoryId) memory memoryId bodyBytes = .ok (result, bytes)) := by
  unfold Database.readResult at h
  dsimp only at h
  split at h
  · rename_i hget
    obtain ⟨rfl, rfl⟩ := Prod.mk.inj (Except.ok.inj h)
    refine .inl ⟨_, rfl, rfl, ?_, fun _ => rfl⟩
    rintro ⟨memory, hget', -⟩
    rw [hget] at hget'
    cases hget'
  rename_i memory hget
  have hlost (lifecycle : Lifecycle) : d.previousAuthorizedRevision run memoryId = none →
      (if (d.previousAuthorizedRevision run memoryId).isSome then lifecycle.lostState else .unavailable) = .unavailable := by
    intro hnone
    rw [hnone]
    rfl
  split at h
  · rename_i hinactive
    obtain ⟨rfl, rfl⟩ := Prod.mk.inj (Except.ok.inj h)
    refine .inl ⟨_, rfl, rfl, ?_, hlost memory.lifecycle⟩
    rintro ⟨memory', hget', hactive, -⟩
    rw [hget] at hget'
    cases hget'
    exact hinactive hactive
  rename_i hactive
  split at h
  · cases h
  · rename_i hrefused
    obtain ⟨rfl, rfl⟩ := Prod.mk.inj (Except.ok.inj h)
    refine .inl ⟨_, rfl, rfl, ?_, hlost memory.lifecycle⟩
    rintro ⟨memory', hget', -, haccessible⟩
    rw [hget] at hget'
    cases hget'
    rw [hrefused] at haccessible
    cases haccessible
  · rename_i haccessible
    exact .inr ⟨memory, hget, Decidable.not_not.1 hactive, haccessible, h⟩

theorem readStep_ok {progress progress' : ReadProgress}
    (h : d.readStep w run progress memoryId = (d', .ok progress')) : ∃ result,
      d.readResult run memoryId progress.bodyBytes = .ok (result, progress'.bodyBytes) ∧
      progress'.results = progress.results ++ [result.redacted] ∧
      d.recordEvidence w run ⟨.read, none, memoryId, result.target.map MemoryTarget.revisionId, result.cacheState⟩ = (d', .ok ()) := by
  unfold Database.readStep at h
  split at h
  · exact absurd h Attempts.error_ne_ok
  rename_i result bodyBytes hresult
  obtain ⟨d₁, ⟨⟩, hrecord, hrest⟩ := Attempts.andThen_ok h
  obtain ⟨rfl, hprogress⟩ := Prod.mk.inj hrest
  obtain rfl := Except.ok.inj hprogress
  exact ⟨result, hresult, rfl, hrecord⟩

theorem read_ok {memoryIds : List String} {results : List MemoryReadResult}
    (h : d.read w (.ok run) memoryIds = (d', .ok results)) :
    ∃ bytes, Attempts.loop (Database.readStep w run) d ⟨0, []⟩ memoryIds = (d', .ok ⟨bytes, results⟩) := by
  unfold Database.read at h
  dsimp only at h
  split at h
  · exact absurd h Attempts.error_ne_ok
  split at h
  · exact absurd h Attempts.error_ne_ok
  obtain ⟨d₁, ⟨bytes, results'⟩, hloop, hrest⟩ := Attempts.andThen_ok h
  obtain ⟨rfl, hresults⟩ := Prod.mk.inj hrest
  obtain rfl : results' = results := Except.ok.inj hresults
  exact ⟨bytes, hloop⟩

/-! ## Search -/

variable {row : FtsRow}

theorem searchResult_memoryId {memory : StoredMemoryView} {snippet : String}
    {result : MemorySearchResult} (h : searchResult run memory row snippet = .ok result) :
    result.memoryId = row.memoryId ∧ result.revisionId = row.revisionId := by
  unfold searchResult at h
  split at h
  · cases h
  split at h
  · cases h
  obtain rfl := Except.ok.inj h
  exact ⟨rfl, rfl⟩

theorem searchStep_ok {queryDigest : String} {rawSnippet : FtsRow → String}
    {progress progress' : SearchProgress} (h : d.searchStep w run queryDigest rawSnippet progress row = (d', .ok progress')) :
    ∃ result : MemorySearchResult, result.memoryId = row.memoryId ∧ result.revisionId = row.revisionId ∧
      progress'.results = progress.results ++ [result] ∧
      d.recordEvidence w run ⟨.search, some queryDigest, row.memoryId, some row.revisionId, .current⟩ = (d', .ok ()) := by
  unfold Database.searchStep at h
  split at h
  · exact absurd h Attempts.error_ne_ok
  split at h
  · exact absurd h Attempts.error_ne_ok
  dsimp only at h
  split at h
  · exact absurd h Attempts.error_ne_ok
  rename_i result hresult
  obtain ⟨d₁, ⟨⟩, hrecord, hrest⟩ := Attempts.andThen_ok h
  obtain ⟨rfl, hprogress⟩ := Prod.mk.inj hrest
  obtain rfl := Except.ok.inj hprogress
  obtain ⟨hid, hrevision⟩ := searchResult_memoryId hresult
  exact ⟨result, hid, hrevision, rfl, hrecord⟩

theorem search_ok {input : MemorySearchInput}
    {results : List MemorySearchResult} (h : d.search w (.ok run) input = (d', .ok results)) :
    (d' = d ∧ results = []) ∨ ∃ accessible query limit rawSnippet queryDigest budget,
      d.accessibleActiveMemoryIds run = .ok accessible ∧
      Attempts.loop (Database.searchStep w run queryDigest rawSnippet) d ⟨allSnippetsMaxBytes, []⟩ (d.searchRows w query accessible limit) =
        (d', .ok ⟨budget, results⟩) := by
  unfold Database.search at h
  dsimp only at h
  split at h
  · exact absurd h Attempts.error_ne_ok
  split at h
  · exact absurd h Attempts.error_ne_ok
  split at h
  · exact absurd h Attempts.error_ne_ok
  split at h
  · exact absurd h Attempts.error_ne_ok
  rename_i accessible haccessible
  split at h
  · obtain ⟨rfl, hresults⟩ := Prod.mk.inj h
    exact .inl ⟨rfl, (Except.ok.inj hresults).symm⟩
  split at h
  · exact absurd h Attempts.error_ne_ok
  obtain ⟨d₁, ⟨budget, results'⟩, hloop, hrest⟩ := Attempts.andThen_ok h
  obtain ⟨rfl, hresults⟩ := Prod.mk.inj hrest
  obtain rfl : results' = results := Except.ok.inj hresults
  exact .inr ⟨accessible, _, _, _, _, budget, haccessible, hloop⟩

theorem mem_searchRows {d : Database} {query : String} {accessible : List String} {limit : Nat}
    (h : row ∈ d.searchRows w query accessible limit) : row ∈ d.tables.memoryFts ∧ row.memoryId ∈ accessible := by
  have hrow := List.mem_of_mem_take h
  rw [List.mem_insertionSort, List.mem_filter, Bool.and_eq_true, List.contains_iff_mem] at hrow
  exact ⟨hrow.1, hrow.2.2⟩

/-! ## View -/

theorem view_ok {input : MemoryViewInput} {output : MemoryViewOutput}
    (h : d.view w (.ok run) input = (d', .ok output)) : validateViewInput input = .ok () ∧ d.viewOutput run input = .ok output ∧
      Attempts.loop (Database.viewStep w run) d () output.items = (d', .ok ()) := by
  unfold Database.view at h
  split at h
  · exact absurd h Attempts.error_ne_ok
  rename_i hvalidated
  refine ⟨hvalidated, ?_⟩
  dsimp only at h
  split at h
  · exact absurd h Attempts.error_ne_ok
  rename_i output' houtput
  unfold transaction at h
  split at h
  · exact absurd h Attempts.error_ne_ok
  obtain ⟨d₁, ⟨⟩, hloop, hrest⟩ := Attempts.andThen_ok h
  obtain ⟨rfl, hresult⟩ := Prod.mk.inj hrest
  obtain rfl : output' = output := Except.ok.inj hresult
  exact ⟨houtput, hloop⟩

theorem viewCounterparty_input {d : Database} {input : MemoryViewInput} {counterparty : Option String}
    (hvalidated : validateViewInput input = .ok ()) (h : d.viewCounterparty run input = .ok counterparty) :
    counterparty = input.counterpartyAgentId := by
  unfold validateViewInput at hvalidated
  unfold Database.viewCounterparty at h
  cases hscope : input.scope with
  | hearth | companion =>
    rw [hscope] at hvalidated h
    obtain ⟨hnone, -⟩ := Fallible.guard_eq_ok.1 hvalidated
    obtain rfl := Except.ok.inj h
    exact (Option.not_isSome_iff_eq_none.1 hnone).symm
  | relationship =>
    rw [hscope] at h
    dsimp only at h
    split at h
    · cases h
    rename_i other hother
    obtain ⟨-, h⟩ := Fallible.guard_eq_ok.1 h
    exact (Except.ok.inj h).symm.trans hother.symm

end Rovai.Memory
