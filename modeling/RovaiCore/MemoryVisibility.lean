import RovaiCore.MemoryRetrieval
/-!
# Who sees which memory

The rule of visibility is written twice: as a predicate over a projected record (`memoryAccessible`) and as the `WHERE` of a view
(`viewSelects`).
-/
namespace Rovai.Memory

open List

/-! ## The rule -/

variable (d : Database)

def Database.IsPresentMember (campId agentId : String) : Prop :=
  ∃ member ∈ d.members, ∃ profile ∈ d.profiles, profile.id = agentId ∧ member.agentId = agentId ∧ member.campId = campId ∧
    member.active = true ∧ member.leaveRequested = false ∧ profile.present = true

def IsPair (low high a b : String) : Prop := (a = low ∧ b = high) ∨ (a = high ∧ b = low)

variable (run : ReadIdentity)

def MemoryScope.OpenTo (scope : MemoryScope) (counterparty : String) : Prop :=
  d.isPresentCurrentCampMember run.campId counterparty = true ∧
    (scope.relationshipDirection = some .mutual ∨
      (scope.relationshipDirection = some .directed ∧ scope.directedActorAgentId = some run.agentId))

/-- **Visibility**: a memory of the hearth is for all, a companion's for the companion, a relationship's for its two agents. -/
def MemoryScope.Visible (scope : MemoryScope) : Prop :=
  match scope.kind with
  | .hearth => True
  | .companion => scope.companionAgentId = some run.agentId
  | .relationship => ∃ low high counterparty, scope.relationshipAgentLowId = some low ∧ scope.relationshipAgentHighId = some high ∧
      IsPair low high run.agentId counterparty ∧ scope.OpenTo d run counterparty

def Database.Discloses (memoryId : String) : Prop :=
  ∃ memory, d.get memoryId = some memory ∧ memory.lifecycle = .active ∧ d.memoryAccessible run memory = .ok true

/-! ## Members -/

variable {d : Database}

theorem isPresentMember_of_count {campId agentId : String}
    (h : d.isPresentCurrentCampMember campId agentId = true) : d.IsPresentMember campId agentId := by
  have hone : d.presentMembers campId agentId = 1 := of_decide_eq_true h
  unfold Database.presentMembers at hone
  obtain ⟨profile, hprofile⟩ := exists_mem_of_length_pos (Nat.lt_of_lt_of_eq Nat.zero_lt_one hone.symm)
  obtain ⟨member, hmember, hmem⟩ := mem_flatMap.1 hprofile
  rw [mem_filter, mem_filter, decide_eq_true_eq, decide_eq_true_eq] at hmem
  obtain ⟨⟨hmem, hid⟩, hcamp, hagent, hactive, hleave, hpresent⟩ := hmem
  exact ⟨member, hmember, profile, hmem, hid.trans hagent, hagent, hcamp, hactive, hleave, hpresent⟩

/-! ## Pairs -/

variable {low high a b : String}

theorem isPair_orderedPair (hlt : low < high) : orderedPair a b = (low, high) ↔ IsPair low high a b := by
  unfold orderedPair IsPair
  split
  · rename_i hab
    rw [Prod.mk.injEq]
    refine ⟨.inl, ?_⟩
    rintro (h | ⟨rfl, rfl⟩)
    · exact h
    · exact absurd hab (not_lt_of_gt hlt)
  · rename_i hab
    rw [Prod.mk.injEq]
    constructor
    · rintro ⟨rfl, rfl⟩
      exact .inr ⟨rfl, rfl⟩
    · rintro (⟨rfl, rfl⟩ | ⟨rfl, rfl⟩)
      · exact absurd hlt hab
      · exact ⟨rfl, rfl⟩

theorem perm_of_isPair (h : IsPair low high a b) : [low, high].Perm [a, b] := by
  obtain ⟨rfl, rfl⟩ | ⟨rfl, rfl⟩ := h
  · exact List.Perm.refl _
  · exact List.Perm.swap _ _ _

theorem isPair_of_perm (h : [low, high].Perm [a, b]) : IsPair low high a b := by
  by_cases ha : a = low
  · subst ha
    have hrest : [high].Perm [b] := (perm_cons a).1 h
    exact .inl ⟨rfl, (singleton_perm_singleton.1 hrest).symm⟩
  · have hmem : a ∈ [low, high] := h.mem_iff.2 mem_cons_self
    obtain rfl : a = high := by simpa [ha] using hmem
    have hrest : [low].Perm [b] := (perm_cons a).1 ((List.Perm.swap a low []).symm.trans h |>.trans (List.Perm.refl _))
    exact .inr ⟨rfl, (singleton_perm_singleton.1 hrest).symm⟩

/-! ## Checked rows -/

variable {scope : MemoryScope}

theorem relationship_columns {kind : Option MemoryKind} (h : scope.checked kind = true)
    (hkind : scope.kind = .relationship) :
    ∃ low high, scope.relationshipAgentLowId = some low ∧ scope.relationshipAgentHighId = some high ∧ low < high := by
  unfold MemoryScope.checked at h
  rw [hkind] at h
  dsimp only at h
  rw [Bool.and_eq_true] at h
  obtain ⟨-, h⟩ := h
  split at h
  · rename_i low high hlow hhigh
    rw [Bool.and_eq_true, decide_eq_true_eq] at h
    exact ⟨low, high, hlow, hhigh, h.1⟩
  · cases h

variable {m : MemoryRow}

theorem active_scope (h : m.checked = true) (hactive : m.lifecycleStatus = .active) :
    ∃ scope kind revisionId, m.scope = some scope ∧ m.kind = some kind ∧ m.currentRevisionId = some revisionId ∧
      scope.checked m.kind = true := by
  unfold MemoryRow.checked at h
  rw [hactive] at h
  dsimp only at h
  rw [Bool.and_eq_true, Bool.and_eq_true, Option.any_eq_true] at h
  obtain ⟨⟨hkind, hrevision⟩, scope, hscope, hchecked⟩ := h
  obtain ⟨kind, hkind⟩ := Option.isSome_iff_exists.1 hkind
  obtain ⟨revisionId, hrevision⟩ := Option.isSome_iff_exists.1 hrevision
  exact ⟨scope, kind, revisionId, hscope, hkind, hrevision, hchecked⟩

/-! ## The predicate over the record -/

theorem find?_other {low high agentId : String} (hne : low ≠ high) :
    ([low, high].any (· == agentId) = true ↔ ∃ other, IsPair low high agentId other) ∧
      ∀ other, IsPair low high agentId other → [low, high].find? (· != agentId) = some other := by
  refine ⟨?_, ?_⟩
  · rw [any_eq_true]
    constructor
    · rintro ⟨x, hx, hid⟩
      obtain rfl := eq_of_beq hid
      rcases mem_pair.1 hx with rfl | rfl
      · exact ⟨high, .inl ⟨rfl, rfl⟩⟩
      · exact ⟨low, .inr ⟨rfl, rfl⟩⟩
    · rintro ⟨other, ⟨rfl, rfl⟩ | ⟨rfl, rfl⟩⟩
      · exact ⟨agentId, mem_cons_self, beq_self_eq_true agentId⟩
      · exact ⟨agentId, mem_cons_of_mem _ mem_cons_self, beq_self_eq_true agentId⟩
  · rintro other (⟨rfl, rfl⟩ | ⟨rfl, rfl⟩)
    · rw [find?_cons_of_neg (by simp), find?_cons_of_pos (by simpa using hne.symm)]
    · rw [find?_cons_of_pos (by simpa using hne)]

theorem relationshipAgentIds_record {low high : String}
    (hscope : m.scope = some scope) (hlow : scope.relationshipAgentLowId = some low) (hhigh : scope.relationshipAgentHighId = some high) :
    (d.memoryViewFromRecord m).relationshipAgentIds = [low, high] := by
  have hids : (d.memoryViewFromRecord m).relationshipAgentIds = (m.scope.map fun scope =>
    [scope.relationshipAgentLowId, scope.relationshipAgentHighId].filterMap id).getD [] := rfl
  rw [hids, hscope, Option.map_some, Option.getD_some, hlow, hhigh]
  rfl

theorem columns_of_perm {a b : String} (hscope : m.scope = some scope)
    (h : (d.memoryViewFromRecord m).relationshipAgentIds.Perm [a, b]) :
    ∃ low high, scope.relationshipAgentLowId = some low ∧ scope.relationshipAgentHighId = some high ∧ IsPair low high a b := by
  have hids : (d.memoryViewFromRecord m).relationshipAgentIds =
      [scope.relationshipAgentLowId, scope.relationshipAgentHighId].filterMap id := by
    unfold Database.memoryViewFromRecord
    rw [hscope]
    rfl
  rw [hids] at h
  have hlength : ([scope.relationshipAgentLowId, scope.relationshipAgentHighId].filterMap id).length = 2 := h.length_eq
  cases hlow : scope.relationshipAgentLowId with
  | none =>
    rw [hlow] at hlength
    cases hhigh : scope.relationshipAgentHighId with
    | none => rw [hhigh] at hlength; cases hlength
    | some high => rw [hhigh] at hlength; cases hlength
  | some low =>
    rw [hlow] at hlength h
    cases hhigh : scope.relationshipAgentHighId with
    | none => rw [hhigh] at hlength; cases hlength
    | some high =>
      rw [hhigh] at h
      exact ⟨low, high, rfl, rfl, isPair_of_perm h⟩

theorem scope_record (hscope : m.scope = some scope) :
    (d.memoryViewFromRecord m).scope = some scope.kind ∧
      (d.memoryViewFromRecord m).companionAgentId = scope.companionAgentId ∧
      (d.memoryViewFromRecord m).direction = scope.relationshipDirection ∧
      (d.memoryViewFromRecord m).directedActorAgentId = scope.directedActorAgentId := by
  unfold Database.memoryViewFromRecord
  rw [hscope]
  exact ⟨rfl, rfl, rfl, rfl⟩

variable {run : ReadIdentity}

/-- **The predicate says `Visible`.** -/
theorem memoryAccessible_iff
    (hscope : m.scope = some scope) (hchecked : scope.checked m.kind = true) :
    d.memoryAccessible run (d.memoryViewFromRecord m) = .ok true ↔ scope.Visible d run := by
  obtain ⟨hkind, hcompanion, hdirection, hactor⟩ := scope_record (d := d) hscope
  unfold Database.memoryAccessible MemoryScope.Visible
  rw [hkind]
  cases hk : scope.kind with
  | hearth => exact iff_of_true rfl trivial
  | companion =>
    dsimp only
    rw [hcompanion, Except.ok.injEq, decide_eq_true_eq]
  | relationship =>
    obtain ⟨low, high, hlow, hhigh, hlt⟩ := relationship_columns hchecked hk
    obtain ⟨hany, hfind⟩ := @find?_other low high run.agentId hlt.ne
    dsimp only
    rw [relationshipAgentIds_record hscope hlow hhigh, hdirection, hactor]
    by_cases hmember : ∃ other, IsPair low high run.agentId other
    · rw [if_neg (by rw [hany.2 hmember]; exact Bool.true_eq_false_eq_False)]
      obtain ⟨other, hother⟩ := hmember
      rw [hfind other hother]
      dsimp only
      rw [Except.ok.injEq, Bool.and_eq_true, Bool.or_eq_true, Bool.and_eq_true, decide_eq_true_eq, decide_eq_true_eq,
        decide_eq_true_eq, decide_eq_true_eq]
      constructor
      · rintro ⟨hpresent, hopen⟩
        exact ⟨low, high, other, hlow, hhigh, hother, decide_eq_true hpresent, hopen⟩
      · rintro ⟨low', high', other', hlow', hhigh', hother', hpresent, hopen⟩
        obtain rfl : low = low' := Option.mem_unique hlow hlow'
        obtain rfl : high = high' := Option.mem_unique hhigh hhigh'
        obtain rfl : other = other' := Option.mem_unique (hfind other hother) (hfind other' hother')
        exact ⟨of_decide_eq_true hpresent, hopen⟩
    · have hnone : [low, high].any (· == run.agentId) = false := by
        rw [← Bool.not_eq_true]
        exact fun h => hmember (hany.1 h)
      rw [if_pos hnone]
      constructor
      · intro h
        cases h
      · rintro ⟨low', high', other', hlow', hhigh', hother', -⟩
        obtain rfl : low = low' := Option.mem_unique hlow hlow'
        obtain rfl : high = high' := Option.mem_unique hhigh hhigh'
        exact absurd ⟨other', hother'⟩ hmember

theorem discloses_iff (hvalid : d.tables.Valid) {memoryId : String} :
    d.Discloses run memoryId ↔ ∃ m scope, d.tables.memories.find? memoryId = some m ∧ m.lifecycleStatus = .active ∧
      m.scope = some scope ∧ scope.Visible d run := by
  unfold Database.Discloses Database.get
  constructor
  · rintro ⟨memory, hget, hactive, haccessible⟩
    obtain ⟨m, hm, rfl⟩ := Option.map_eq_some_iff.1 hget
    obtain ⟨scope, _, _, hscope, -, -, hchecked⟩ := active_scope (hvalid.checked memoryId m hm) hactive
    exact ⟨m, scope, hm, hactive, hscope, (memoryAccessible_iff hscope hchecked).1 haccessible⟩
  · rintro ⟨m, scope, hm, hactive, hscope, hvisible⟩
    obtain ⟨scope', _, _, hscope', -, -, hchecked⟩ := active_scope (hvalid.checked memoryId m hm) hactive
    obtain rfl : scope = scope' := Option.mem_unique hscope hscope'
    exact ⟨_, by rw [hm]; rfl, hactive, (memoryAccessible_iff hscope hchecked).2 hvisible⟩

/-! ## The `WHERE` of a view -/

def MemoryScope.In (scope : MemoryScope) (kind : MemoryScopeKind) (agentId : String) (counterparty : Option String) : Prop :=
  scope.kind = kind ∧ ∀ other, counterparty = some other →
    ∃ low high, scope.relationshipAgentLowId = some low ∧ scope.relationshipAgentHighId = some high ∧ IsPair low high agentId other

variable {counterparty : Option String} {input : MemoryViewInput}

/-- **The `WHERE` says `Visible`**, among the memories of its scope and pair. -/
theorem viewSelects_iff
    (hinput : d.viewCounterparty run input = .ok counterparty)
    (hactive : m.lifecycleStatus = .active) (hscope : m.scope = some scope) (hchecked : scope.checked m.kind = true) :
    viewSelects input.scope run.agentId (counterparty.getD "") m = true ↔
      scope.In input.scope run.agentId counterparty ∧ scope.Visible d run := by
  unfold viewSelects
  rw [hactive, hscope, Option.any_some, Bool.and_eq_true, Bool.and_eq_true, decide_eq_true_eq, decide_eq_true_eq]
  unfold Database.viewCounterparty at hinput
  unfold MemoryScope.In MemoryScope.Visible
  cases hk : input.scope with
  | hearth =>
    rw [hk] at hinput
    obtain rfl : none = counterparty := Except.ok.inj hinput
    constructor
    · rintro ⟨-, hkind, -⟩
      rw [hkind]
      exact ⟨⟨rfl, fun other h => (nomatch h)⟩, trivial⟩
    · rintro ⟨⟨hkind, -⟩, -⟩
      exact ⟨rfl, hkind, rfl⟩
  | companion =>
    rw [hk] at hinput
    obtain rfl : none = counterparty := Except.ok.inj hinput
    constructor
    · rintro ⟨-, hkind, hcompanion⟩
      rw [hkind]
      exact ⟨⟨rfl, fun other h => (nomatch h)⟩, of_decide_eq_true hcompanion⟩
    · rintro ⟨⟨hkind, -⟩, hvisible⟩
      rw [hkind] at hvisible
      exact ⟨rfl, hkind, decide_eq_true hvisible⟩
  | relationship =>
    rw [hk] at hinput
    dsimp only at hinput
    split at hinput
    · cases hinput
    rename_i other hother
    obtain ⟨hthere, hother'⟩ := Fallible.guard_eq_ok.1 hinput
    obtain rfl : some other = counterparty := Except.ok.inj hother'
    have hpresent : d.isPresentCurrentCampMember run.campId other = true := by
      rw [← Bool.not_eq_false]
      exact fun h => hthere (.inr h)
    constructor
    · rintro ⟨-, hkind, hcolumns⟩
      obtain ⟨low, high, hlow, hhigh, hlt⟩ := relationship_columns hchecked hkind
      rw [hkind]
      simp only [Bool.and_eq_true, Bool.or_eq_true, decide_eq_true_eq, Option.getD_some, hlow, hhigh, Option.some.injEq] at hcolumns
      obtain ⟨⟨hfirst, hsecond⟩, hopen⟩ := hcolumns
      have hpair : IsPair low high run.agentId other := (isPair_orderedPair hlt).1 (Prod.ext hfirst.symm hsecond.symm)
      refine ⟨⟨rfl, fun other' h => ?_⟩, low, high, other, hlow, hhigh, hpair, hpresent, hopen⟩
      obtain rfl : other = other' := Option.some.inj h
      exact ⟨low, high, hlow, hhigh, hpair⟩
    · rintro ⟨⟨hkind, hin⟩, hvisible⟩
      rw [hkind] at hvisible
      obtain ⟨low, high, hlow, hhigh, hpair⟩ := hin other rfl
      obtain ⟨low', high', other', hlow', hhigh', hpair', -, hopen⟩ := hvisible
      obtain ⟨low₁, high₁, hlow₁, hhigh₁, hlt⟩ := relationship_columns hchecked hkind
      obtain rfl : low₁ = low := Option.mem_unique hlow₁ hlow
      obtain rfl : high₁ = high := Option.mem_unique hhigh₁ hhigh
      have hordered := (isPair_orderedPair hlt).2 hpair
      refine ⟨rfl, hkind, ?_⟩
      simp only [Bool.and_eq_true, Bool.or_eq_true, decide_eq_true_eq, Option.getD_some, hordered]
      exact ⟨⟨hlow, hhigh⟩, hopen⟩

/-! ## What a view lists -/

theorem viewRow_id {record : MemoryRow × RevisionRow} {row : ViewRow} (h : viewRow record = .ok row) :
    row.memoryId = record.1.id := by
  unfold viewRow at h
  split at h
  · cases h
  · cases h
  · cases h
  cases h
  rfl

theorem viewItem_id {scope : MemoryScopeKind} {row : ViewRow} {item : MemoryViewItem}
    (h : viewItem scope counterparty row = .ok item) : item.target.memoryId = row.memoryId := by
  obtain ⟨-, h⟩ := Fallible.guard_eq_ok.1 h
  obtain ⟨-, h⟩ := Fallible.guard_eq_ok.1 h
  obtain ⟨-, h⟩ := Fallible.guard_eq_ok.1 h
  cases h
  rfl

theorem ids_loadViewItems {scope : MemoryScopeKind} {agentId : String}
    {items : List MemoryViewItem} (h : d.loadViewItems scope agentId counterparty = .ok items) :
    items.map (fun item => item.target.memoryId) =
      (d.viewRecords scope agentId (counterparty.getD "")).map fun record => record.1.id := by
  unfold Database.loadViewItems at h
  split at h
  · cases h
  rename_i rows hrows
  rw [Attempts.map_of_collect (fun row item hitem => viewItem_id hitem) h,
    Attempts.map_of_collect (fun record row hrow => viewRow_id hrow) hrows]

theorem mem_viewRecords {scope : MemoryScopeKind} {agentId counterparty : String}
    {revision : RevisionRow} : (m, revision) ∈ d.viewRecords scope agentId counterparty ↔
      m ∈ d.tables.memories.rows ∧ viewSelects scope agentId counterparty m = true ∧ d.currentRevision m = some revision := by
  unfold Database.viewRecords
  rw [mem_filterMap]
  constructor
  · rintro ⟨m', hm', hrevision⟩
    obtain ⟨revision', hcurrent, heq⟩ := Option.map_eq_some_iff.1 hrevision
    obtain ⟨rfl, rfl⟩ := Prod.mk.inj heq
    rw [mem_insertionSort, mem_filter] at hm'
    exact ⟨hm'.1, hm'.2, hcurrent⟩
  · rintro ⟨hm, hselects, hcurrent⟩
    refine ⟨m, ?_, by rw [hcurrent]; rfl⟩
    rw [mem_insertionSort, mem_filter]
    exact ⟨hm, hselects⟩

theorem sublist_joined (d : Database) (rows : List MemoryRow) :
    ((rows.filterMap fun m => (d.currentRevision m).map fun revision => (m, revision)).map fun record => record.1.id).Sublist
      (rows.map MemoryRow.id) := by
  induction rows with
  | nil => exact List.Sublist.refl _
  | cons m rest ih =>
    cases hcurrent : d.currentRevision m with
    | none =>
      rw [filterMap_cons_none (by rw [hcurrent]; rfl)]
      exact ih.cons _
    | some revision =>
      rw [filterMap_cons_some (by rw [hcurrent]; rfl), map_cons, map_cons]
      exact ih.cons_cons _

theorem nodup_viewRecords (d : Database) (scope : MemoryScopeKind) (agentId counterparty : String) :
    ((d.viewRecords scope agentId counterparty).map fun record => record.1.id).Nodup := by
  refine List.Nodup.sublist (sublist_joined d _) ?_
  exact ((perm_insertionSort _ _).map _).nodup_iff.2 (d.tables.memories.nodup.sublist (filter_sublist.map _))

theorem viewOutput_ok {output : MemoryViewOutput}
    (h : d.viewOutput run input = .ok output) : ∃ counterparty, d.viewCounterparty run input = .ok counterparty ∧
      d.loadViewItems input.scope run.agentId counterparty = .ok output.items := by
  unfold Database.viewOutput at h
  split at h
  · cases h
  rename_i counterparty hcounterparty
  split at h
  · cases h
  rename_i items hitems
  obtain ⟨-, h⟩ := Fallible.guard_eq_ok.1 h
  obtain ⟨-, h⟩ := Fallible.guard_eq_ok.1 h
  cases h
  exact ⟨counterparty, hcounterparty, hitems⟩

/-- **What a view lists**: the memories of its scope and pair that the run may see. -/
theorem mem_viewOutput (hvalid : d.tables.Valid)
    {output : MemoryViewOutput} (hinput : d.viewCounterparty run input = .ok counterparty)
    (hitems : d.loadViewItems input.scope run.agentId counterparty = .ok output.items) (memoryId : String) :
    memoryId ∈ output.items.map (fun item => item.target.memoryId) ↔
      ∃ m scope, d.tables.memories.find? memoryId = some m ∧ m.lifecycleStatus = .active ∧ m.scope = some scope ∧
        scope.In input.scope run.agentId counterparty ∧ scope.Visible d run := by
  rw [ids_loadViewItems hitems, mem_map]
  constructor
  · rintro ⟨⟨m, revision⟩, hrecord, rfl⟩
    obtain ⟨hm, hselects, -⟩ := mem_viewRecords.1 hrecord
    have hfind : d.tables.memories.find? m.id = some m := Tables.Table.find?_of_mem hm
    have hactive : m.lifecycleStatus = .active := of_decide_eq_true (Bool.and_eq_true_iff.1 hselects).1
    obtain ⟨scope, _, _, hscope, -, -, hchecked⟩ := active_scope (hvalid.checked m.id m hfind) hactive
    exact ⟨m, scope, hfind, hactive, hscope, (viewSelects_iff hinput hactive hscope hchecked).1 hselects⟩
  · rintro ⟨m, scope, hfind, hactive, hscope, hsees⟩
    have hchecked := hvalid.checked memoryId m hfind
    obtain ⟨scope', _, revisionId, hscope', -, hrevisionId, hchecked⟩ := active_scope hchecked hactive
    obtain rfl : scope = scope' := Option.mem_unique hscope hscope'
    obtain ⟨revision, hrevision⟩ := Option.isSome_iff_exists.1 (hvalid.current memoryId m revisionId hfind hrevisionId)
    have hcurrent : d.currentRevision m = some revision := by
      unfold Database.currentRevision
      rw [hrevisionId]
      exact hrevision
    refine ⟨(m, revision), mem_viewRecords.2 ⟨Tables.Table.mem_of_find? hfind, ?_, hcurrent⟩, Tables.Table.key_of_find? hfind⟩
    exact (viewSelects_iff hinput hactive hscope hchecked).2 hsees

end Rovai.Memory
