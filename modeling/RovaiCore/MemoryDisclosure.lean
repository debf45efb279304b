import RovaiCore.MemoryCalls
/-!
# One visibility on every path

A view, a read and a search show a run the same memories: those that are `Visible` to it.
-/
namespace Rovai.Memory

open List

/-! ## What a read discloses -/

def MemoryReadResult.Discloses (d : Database) (run : ReadIdentity) (result : MemoryReadResult) : Prop :=
  (result.body.isSome = true ↔ d.Discloses run result.memoryId) ∧
    ∀ body, result.body = some body → ∃ memory, d.get result.memoryId = some memory ∧ memory.currentBody = some body

theorem redacted_body (result : MemoryReadResult) : result.redacted.body = result.body := by
  unfold MemoryReadResult.redacted
  split <;> rfl

theorem redacted_memoryId (result : MemoryReadResult) : result.redacted.memoryId = result.memoryId := by
  unfold MemoryReadResult.redacted
  split <;> rfl

variable {run : ReadIdentity} {memoryId : String}

theorem discloses_readResult {d : Database} {bodyBytes bytes : Nat} {result : MemoryReadResult}
    (h : d.readResult run memoryId bodyBytes = .ok (result, bytes)) :
    result.memoryId = memoryId ∧ result.Discloses d run := by
  obtain ⟨state, rfl, -, hnot, -⟩ | ⟨memory, hget, hactive, haccessible, hresult⟩ := readResult_ok h
  · exact ⟨rfl, iff_of_false (by simp [unavailableResult]) hnot, fun body hbody => (nomatch hbody)⟩
  obtain ⟨revisionId, body, target, -, hbody, -, -, rfl⟩ := authorizedResult_ok hresult
  refine ⟨rfl, iff_of_true rfl ⟨memory, hget, hactive, haccessible⟩, fun body' hbody' => ?_⟩
  obtain rfl : body = body' := Option.some.inj hbody'
  exact ⟨memory, hget, hbody⟩

variable {d d' : Database} {w : Outside}

/-- **What a read discloses.** -/
theorem discloses_read {memoryIds : List String}
    {results : List MemoryReadResult} (h : d.read w (.ok run) memoryIds = (d', .ok results)) :
    results.map MemoryReadResult.memoryId = memoryIds ∧ ∀ result ∈ results, result.Discloses d run := by
  obtain ⟨bytes, hloop⟩ := read_ok h
  have hall := Attempts.loop_ok
    (R := fun (done : List String) (s : Database) (progress : ReadProgress) => d.Same s ∧ progress.results.map MemoryReadResult.memoryId = done ∧
      ∀ result ∈ progress.results, result.Discloses d run) ?_ memoryIds [] d ⟨0, []⟩ d' ⟨bytes, results⟩
    ⟨Database.Same.refl d, rfl, fun result hmem => absurd hmem not_mem_nil⟩ hloop
  · exact ⟨hall.2.1, hall.2.2⟩
  rintro done memoryId s progress s' progress' ⟨hsame, hids, hprevious⟩ hstep
  obtain ⟨result, hresult, hresults, hrecord⟩ := readStep_ok hstep
  obtain ⟨hid, hdisclosed, hbody⟩ := discloses_readResult hresult
  refine ⟨hsame.trans (same_recordEvidence hrecord), ?_, ?_⟩
  · rw [hresults, map_append, hids, map_singleton, redacted_memoryId, hid]
  intro result' hmem
  rw [hresults, mem_append, mem_singleton] at hmem
  obtain hmem | rfl := hmem
  · exact hprevious result' hmem
  unfold MemoryReadResult.Discloses
  rw [redacted_body, redacted_memoryId, ← hsame.discloses, ← hsame.get]
  exact ⟨hdisclosed, hbody⟩

/-! ## What a search returns -/

theorem discloses_of_accessible {d : Database} {accessible : List String}
    (h : d.accessibleActiveMemoryIds run = .ok accessible) (hmem : memoryId ∈ accessible) :
    d.Discloses run memoryId := by
  unfold Database.accessibleActiveMemoryIds at h
  split at h
  · cases h
  rename_i memories hlist
  obtain rfl := Except.ok.inj h
  obtain ⟨memory, hmemory, rfl⟩ := mem_map.1 hmem
  obtain ⟨hmemory, hguard⟩ := mem_filter.1 hmemory
  rw [Bool.and_eq_true, decide_eq_true_eq] at hguard
  obtain ⟨hactive, haccessible⟩ := hguard
  unfold Database.list at hlist
  dsimp only at hlist
  split at hlist
  · cases hlist
  obtain rfl := Except.ok.inj hlist
  obtain ⟨m, hm, rfl⟩ := mem_map.1 hmemory
  rw [mem_insertionSort] at hm
  refine ⟨_, ?_, hactive, ?_⟩
  · unfold Database.get
    exact congrArg (Option.map d.memoryViewFromRecord) (Tables.Table.find?_of_mem hm)
  · unfold Database.accessible at haccessible
    split at haccessible
    · rename_i b hb
      rw [hb, haccessible]
    · cases haccessible

/-- **What a search returns.** -/
theorem discloses_search {input : MemorySearchInput}
    {results : List MemorySearchResult} (h : d.search w (.ok run) input = (d', .ok results)) :
    ∀ result ∈ results, d.Discloses run result.memoryId := by
  obtain ⟨-, rfl⟩ | ⟨accessible, query, limit, rawSnippet, queryDigest, budget, haccessible, hloop⟩ := search_ok h
  · exact fun result hmem => (nomatch hmem)
  have hids := Attempts.loop_ok (R := fun (done : List FtsRow) (_ : Database) (progress : SearchProgress) =>
    progress.results.map MemorySearchResult.memoryId = done.map FtsRow.memoryId) ?_
    (d.searchRows w query accessible limit) [] d ⟨allSnippetsMaxBytes, []⟩ d' ⟨budget, results⟩ rfl hloop
  · intro result hmem
    have hrow : result.memoryId ∈ (d.searchRows w query accessible limit).map FtsRow.memoryId := by
      rw [nil_append] at hids
      rw [← hids]
      exact mem_map_of_mem hmem
    obtain ⟨row, hrow, hid⟩ := mem_map.1 hrow
    rw [← hid]
    exact discloses_of_accessible haccessible (mem_searchRows hrow).2
  · intro done row s progress s' progress' hdone hstep
    obtain ⟨result, hid, -, hresults, -⟩ := searchStep_ok hstep
    rw [hresults, map_append, map_append, hdone, map_singleton, map_singleton, hid]

/-! ## All paths -/

theorem mem_view (hvalid : d.tables.Valid) {input : MemoryViewInput}
    {output : MemoryViewOutput} (h : d.view w (.ok run) input = (d', .ok output)) (memoryId : String) :
    memoryId ∈ output.items.map (fun item => item.target.memoryId) ↔
      ∃ memory, d.get memoryId = some memory ∧ memory.lifecycle = .active ∧ memory.scope = some input.scope ∧
        (∀ counterparty, input.counterpartyAgentId = some counterparty →
          memory.relationshipAgentIds.Perm [run.agentId, counterparty]) ∧
        d.memoryAccessible run memory = .ok true := by
  obtain ⟨hvalidated, houtput, -⟩ := view_ok h
  obtain ⟨counterparty, hcounterparty, hitems⟩ := viewOutput_ok houtput
  obtain rfl := viewCounterparty_input hvalidated hcounterparty
  rw [mem_viewOutput hvalid hcounterparty hitems]
  constructor
  · rintro ⟨m, scope, hfind, hactive, hscope, ⟨hkind, hpair⟩, hvisible⟩
    obtain ⟨scope', _, _, hscope', -, -, hchecked⟩ := active_scope (hvalid.checked memoryId m hfind) hactive
    obtain rfl : scope = scope' := Option.mem_unique hscope hscope'
    refine ⟨d.memoryViewFromRecord m, congrArg (Option.map _) hfind, hactive, ?_, ?_, (memoryAccessible_iff hscope hchecked).2 hvisible⟩
    · rw [(scope_record hscope).1, hkind]
    intro other hother
    obtain ⟨low, high, hlow, hhigh, hother⟩ := hpair other hother
    rw [relationshipAgentIds_record hscope hlow hhigh]
    exact perm_of_isPair hother
  · rintro ⟨memory, hget, hactive, hkind, hpair, haccessible⟩
    obtain ⟨m, hfind, rfl⟩ := Option.map_eq_some_iff.1 hget
    obtain ⟨scope, _, _, hscope, -, -, hchecked⟩ := active_scope (hvalid.checked memoryId m hfind) hactive
    refine ⟨m, scope, hfind, hactive, hscope, ⟨?_, ?_⟩, (memoryAccessible_iff hscope hchecked).1 haccessible⟩
    · exact Option.some.inj ((scope_record hscope).1.symm.trans hkind)
    · exact fun other hother => columns_of_perm hscope (hpair other hother)

/-- **A relationship is open to its agents only**: the other agent is a present member of the camp, and a directed one is its actor's. -/
theorem relationship_of_discloses {d : Database} (hvalid : d.tables.Valid)
    {memory : StoredMemoryView} (hget : d.get memoryId = some memory) (h : d.Discloses run memoryId)
    (hscope : memory.scope = some .relationship) :
    (memory.direction = some .directed → memory.directedActorAgentId = some run.agentId) ∧
      ∃ counterparty, memory.relationshipAgentIds.Perm [run.agentId, counterparty] ∧ counterparty ≠ run.agentId ∧
        d.IsPresentMember run.campId counterparty := by
  obtain ⟨m, scope, hfind, hactive, hcolumns, hvisible⟩ := (discloses_iff hvalid).1 h
  obtain rfl : d.memoryViewFromRecord m = memory := Option.mem_unique (congrArg (Option.map _) hfind) hget
  obtain ⟨hkind, -, hdirection, hactor⟩ := scope_record (d := d) hcolumns
  have hrelationship : scope.kind = .relationship := Option.mem_unique hkind hscope
  obtain ⟨scope', _, _, hscope', -, -, hchecked⟩ := active_scope (hvalid.checked memoryId m hfind) hactive
  obtain rfl : scope = scope' := Option.mem_unique hcolumns hscope'
  obtain ⟨low₁, high₁, hlow₁, hhigh₁, hlt⟩ := relationship_columns hchecked hrelationship
  unfold MemoryScope.Visible at hvisible
  rw [hrelationship] at hvisible
  obtain ⟨low, high, counterparty, hlow, hhigh, hpair, hpresent, hopen⟩ := hvisible
  obtain rfl : low₁ = low := Option.mem_unique hlow₁ hlow
  obtain rfl : high₁ = high := Option.mem_unique hhigh₁ hhigh
  rw [hdirection, hactor, relationshipAgentIds_record hcolumns hlow hhigh]
  refine ⟨fun hdirected => ?_, counterparty, perm_of_isPair hpair, ?_, isPresentMember_of_count hpresent⟩
  · obtain hmutual | ⟨-, hown⟩ := hopen
    · rw [hmutual] at hdirected
      cases hdirected
    · exact hown
  · obtain ⟨rfl, rfl⟩ | ⟨rfl, rfl⟩ := hpair
    · exact hlt.ne'
    · exact hlt.ne

/-- **One visibility on every path**: a view lists exactly the active memories of its scope and pair that the run may see, a read shows a
body exactly of those that it may see, a search returns no others; and a relationship is seen by its actor or its agents only, while
the other agent is there. -/
theorem same_visibility (w : Outside) (d : Database) (hvalid : d.tables.Valid) (run : ReadIdentity) :
    (∀ input d' output, d.view w (.ok run) input = (d', .ok output) →
      (output.items.map fun item => item.target.memoryId).Nodup ∧
      ∀ memoryId, memoryId ∈ output.items.map (fun item => item.target.memoryId) ↔
        ∃ memory, d.get memoryId = some memory ∧ memory.lifecycle = .active ∧ memory.scope = some input.scope ∧
          (∀ counterparty, input.counterpartyAgentId = some counterparty →
            memory.relationshipAgentIds.Perm [run.agentId, counterparty]) ∧
          d.memoryAccessible run memory = .ok true) ∧
    (∀ memoryIds d' results, d.read w (.ok run) memoryIds = (d', .ok results) →
      results.map MemoryReadResult.memoryId = memoryIds ∧
      ∀ result ∈ results, (result.body.isSome = true ↔ d.Discloses run result.memoryId) ∧
        ∀ body, result.body = some body → ∃ memory, d.get result.memoryId = some memory ∧ memory.currentBody = some body) ∧
    (∀ input d' results, d.search w (.ok run) input = (d', .ok results) →
      ∀ result ∈ results, d.Discloses run result.memoryId) ∧
    (∀ memoryId memory, d.get memoryId = some memory → d.Discloses run memoryId → memory.scope = some .relationship →
      (memory.direction = some .directed → memory.directedActorAgentId = some run.agentId) ∧
        ∃ counterparty, memory.relationshipAgentIds.Perm [run.agentId, counterparty] ∧ counterparty ≠ run.agentId ∧
          d.IsPresentMember run.campId counterparty) := by
  refine ⟨fun input d' output h => ⟨?_, mem_view hvalid h⟩, fun memoryIds d' results h => discloses_read h,
    fun input d' results h => discloses_search h, fun memoryId memory hget h => relationship_of_discloses hvalid hget h⟩
  obtain ⟨-, houtput, -⟩ := view_ok h
  obtain ⟨counterparty, -, hitems⟩ := viewOutput_ok houtput
  rw [ids_loadViewItems hitems]
  exact nodup_viewRecords d _ _ _

/-! ## An instance -/

def pairCamp : Database where
  tables := {
    memories := Tables.Table.empty.insert ⟨"m", some ⟨.relationship, none, some "ada", some "bo", some .directed, some "ada"⟩,
      some .lesson, .active, some "r", 1, "t0"⟩
    revisions := Tables.Table.empty.insert ⟨"r", "m", some "ask early", some 9, ["asking"]⟩
    memoryFts := [⟨"m", "r", "asking", "ask early"⟩]
    searchReady := true }
  members := [⟨"camp", "ada", true, false⟩, ⟨"camp", "bo", true, false⟩]
  profiles := [⟨"ada", true⟩, ⟨"bo", true⟩]
  evidence := []
  drawn := 0

theorem valid_pairCamp : pairCamp.tables.Valid where
  checked id m h := by
    have hm : m ∈ pairCamp.tables.memories.rows := Tables.Table.mem_of_find? h
    obtain rfl := mem_singleton.1 hm
    decide
  current id m revision h hcurrent := by
    have hm : m ∈ pairCamp.tables.memories.rows := Tables.Table.mem_of_find? h
    obtain rfl := mem_singleton.1 hm
    obtain rfl := Option.some.inj hcurrent
    decide

def askEarly : MemoryReadResult :=
  ⟨"m", .current, some ⟨"m", "r", .relationship, some "bo", some .directed⟩, some .lesson, some true, ["asking"], some "ask early"⟩

/-- Ada may see the lesson, as a read shows her its body. -/
theorem same_visibility_pairCamp : pairCamp.Discloses adaRun "m" := by
  have hread : (pairCamp.read plainOutside (.ok adaRun) ["m"]).2.toOption = some [askEarly] := by decide
  have hall := (same_visibility plainOutside pairCamp valid_pairCamp adaRun).2.1 ["m"]
  generalize pairCamp.read plainOutside (.ok adaRun) ["m"] = outcome at hread hall
  obtain ⟨d', _ | results⟩ := outcome
  · cases hread
  obtain rfl : results = [askEarly] := Option.some.inj hread
  have hbody := ((hall d' [askEarly] rfl).2 askEarly mem_cons_self).1
  exact hbody.1 rfl

end Rovai.Memory
