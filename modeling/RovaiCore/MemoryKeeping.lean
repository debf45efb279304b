import RovaiCore.MemoryVisibility
/-!
# What the writes of the memory store keep

Every write works on one memory and refreshes its rows of the index.
-/
namespace Rovai.Memory

structure Tables.Holds (t : Tables) (memoryId : String) (m : MemoryRow) : Prop where
  checked : m.checked = true
  current : ∀ revisionId, m.currentRevisionId = some revisionId → ∃ revision, t.revisions.find? revisionId = some revision ∧
    revision.memoryId = memoryId ∧ ∃ body, revision.body = some body ∧ body.utf8ByteSize ≤ bodyMaxBytes

structure Tables.Kept (t : Tables) : Prop where
  holds : ∀ memoryId m, t.memories.find? memoryId = some m → t.Holds memoryId m
  indexed : ∀ row ∈ t.memoryFts, ∃ m, t.memories.find? row.memoryId = some m ∧ m.lifecycleStatus = .active ∧
    m.currentRevisionId = some row.revisionId

/-! ## One memory changes -/

variable {t : Tables}

theorem ftsRowOf_eq_some {memoryId : String} {row : FtsRow} (h : t.ftsRowOf memoryId = some row) :
    row.memoryId = memoryId ∧ ∃ m, t.memories.find? memoryId = some m ∧ m.lifecycleStatus = .active ∧
      m.currentRevisionId = some row.revisionId := by
  unfold Tables.ftsRowOf at h
  obtain ⟨m, hm, h⟩ := Option.bind_eq_some_iff.1 h
  split at h
  · rename_i hactive
    obtain ⟨revisionId, hrevisionId, h⟩ := Option.bind_eq_some_iff.1 h
    obtain ⟨revision, -, h⟩ := Option.bind_eq_some_iff.1 h
    obtain ⟨body, -, rfl⟩ := Option.map_eq_some_iff.1 h
    exact ⟨rfl, m, hm, hactive, hrevisionId⟩
  · cases h

/-- **A write on one memory**: the others keep their rows and their revisions, and the index follows. -/
theorem kept_refresh {t t' : Tables} {memoryId : String} (h : t.Kept) (hfts : t'.memoryFts = t.memoryFts)
    (hothers : ∀ id, id ≠ memoryId → t'.memories.find? id = t.memories.find? id)
    (hrevisions : ∀ id revision, t.revisions.find? id = some revision → revision.memoryId ≠ memoryId →
      t'.revisions.find? id = some revision)
    (hself : ∀ m, t'.memories.find? memoryId = some m → t'.Holds memoryId m) : (t'.refreshMemoryFts memoryId).Kept where
  holds id m hm := by
    by_cases hid : id = memoryId
    · subst hid
      exact ⟨(hself m hm).checked, (hself m hm).current⟩
    · have hold := h.holds id m ((hothers id hid).symm.trans hm)
      refine ⟨hold.checked, fun revisionId hrevisionId => ?_⟩
      obtain ⟨revision, hfind, howner, hbody⟩ := hold.current revisionId hrevisionId
      exact ⟨revision, hrevisions revisionId revision hfind (howner ▸ hid), howner, hbody⟩
  indexed row hrow := by
    have hcases : row ∈ t'.memoryFts.filter (fun row => row.memoryId != memoryId) ++ (t'.ftsRowOf memoryId).toList := hrow
    rw [List.mem_append, List.mem_filter, hfts, Option.mem_toList] at hcases
    obtain ⟨hrow, hne⟩ | hrow := hcases
    · obtain ⟨m, hm, hactive, hcurrent⟩ := h.indexed row hrow
      have hid : row.memoryId ≠ memoryId := by simpa using hne
      exact ⟨m, (hothers row.memoryId hid).trans hm, hactive, hcurrent⟩
    · obtain ⟨hid, m, hm, hactive, hcurrent⟩ := ftsRowOf_eq_some hrow
      exact ⟨m, hid ▸ hm, hactive, hcurrent⟩

/-! ## The four writes -/

theorem canonical_size {input body : String} (h : canonicalizeMemoryBody input = .ok body) : body.utf8ByteSize ≤ bodyMaxBytes := by
  obtain ⟨-, h⟩ := Fallible.guard_eq_ok.1 h
  obtain ⟨-, h⟩ := Fallible.guard_eq_ok.1 h
  obtain ⟨hsize, h⟩ := Fallible.guard_eq_ok.1 h
  obtain rfl := Except.ok.inj h
  exact Nat.le_of_not_lt hsize

theorem candidateFromCreate_ok {command : CreateMemoryCommand} {candidate : Candidate}
    (h : candidateFromCreate command = .ok candidate) :
    candidate.scope.checked (some candidate.kind) = true ∧ candidate.body.utf8ByteSize ≤ bodyMaxBytes := by
  unfold candidateFromCreate at h
  split at h
  · cases h
  rename_i body hbody
  split at h
  · cases h
  split at h
  · rename_i hchecked
    obtain rfl := Except.ok.inj h
    exact ⟨hchecked, canonical_size hbody⟩
  · cases h

theorem kept_create (h : t.Kept) (command : CreateMemoryCommand) : (t.create command).Kept := by
  unfold Tables.create
  split
  · exact h
  rename_i candidate hcandidate
  split
  · rename_i hguard
    rw [Bool.and_eq_true, Bool.and_eq_true, Option.isNone_iff_eq_none, Option.isNone_iff_eq_none] at hguard
    obtain ⟨⟨-, hmemory⟩, hrevision⟩ := hguard
    obtain ⟨hchecked, hsize⟩ := candidateFromCreate_ok hcandidate
    unfold Tables.insertMemory
    refine kept_refresh h rfl ?_ ?_ ?_
    · intro id hid
      exact (Tables.Table.find?_insert hmemory id).trans (if_neg hid)
    · exact fun id revision hfind _ => Tables.Table.find?_insert_of_found hfind _
    · intro m hm
      obtain rfl : _ = m := Option.mem_unique (Tables.Table.find?_insert_self hmemory) hm
      refine ⟨?_, fun revisionId hcurrent => ?_⟩
      · unfold MemoryRow.checked
        exact hchecked
      · obtain rfl := Option.some.inj hcurrent
        exact ⟨_, Tables.Table.find?_insert_self hrevision, rfl, candidate.body, rfl, hsize⟩
  · exact h

theorem checked_reviseTo {m : MemoryRow} (h : m.checked = true) (hlifecycle : m.lifecycleStatus ≠ .forgotten) (revisionId : String) :
    (m.reviseTo revisionId).checked = true := by
  unfold MemoryRow.checked at h ⊢
  unfold MemoryRow.reviseTo
  cases hl : m.lifecycleStatus with
  | forgotten => exact absurd hl hlifecycle
  | active | retired =>
    rw [hl] at h
    dsimp only at h ⊢
    rw [Bool.and_eq_true, Bool.and_eq_true] at h ⊢
    exact ⟨⟨h.1.1, rfl⟩, h.2⟩

theorem checked_retire {m : MemoryRow} (h : m.checked = true) (hlifecycle : m.lifecycleStatus = .active) : m.retire.checked = true := by
  unfold MemoryRow.checked at h ⊢
  rw [hlifecycle] at h
  exact h

theorem kept_revise (h : t.Kept) (command : ReviseMemoryCommand) : (t.revise command).Kept := by
  unfold Tables.revise
  split
  · rename_i body keys m hbody hkeys hfind
    split
    · rename_i hguard
      obtain ⟨hlifecycle, -, -, -, -, hrevision⟩ := hguard
      rw [Option.isNone_iff_eq_none] at hrevision
      refine kept_refresh h rfl ?_ ?_ ?_
      · exact fun id hid => Tables.Table.find?_update_of_ne t.memories hid (MemoryRow.reviseTo command.revisionId) (fun _ => rfl)
      · exact fun id revision hfound _ => Tables.Table.find?_insert_of_found hfound _
      intro m' hm'
      obtain rfl : m.reviseTo command.revisionId = m' :=
        Option.mem_unique (Tables.Table.find?_update_self hfind (MemoryRow.reviseTo command.revisionId) (fun _ => rfl)) hm'
      refine ⟨checked_reviseTo (h.holds _ m hfind).checked hlifecycle _, fun revisionId hcurrent => ?_⟩
      obtain rfl := Option.some.inj hcurrent
      exact ⟨_, Tables.Table.find?_insert_self hrevision, rfl, body, rfl, canonical_size hbody⟩
    · exact h
  · exact h

theorem kept_retire (h : t.Kept) (memoryId : String) (expectedVersion : Int) :
    (t.retire memoryId expectedVersion).Kept := by
  unfold Tables.retire
  split
  · exact h
  rename_i m hfind
  split
  · rename_i hguard
    refine kept_refresh h rfl ?_ ?_ ?_
    · exact fun id hid => Tables.Table.find?_update_of_ne t.memories hid MemoryRow.retire (fun _ => rfl)
    · exact fun id revision hfound _ => hfound
    intro m' hm'
    obtain rfl : m.retire = m' := Option.mem_unique (Tables.Table.find?_update_self hfind MemoryRow.retire (fun _ => rfl)) hm'
    exact ⟨checked_retire (h.holds memoryId m hfind).checked hguard.2, (h.holds memoryId m hfind).current⟩
  · exact h

theorem kept_forget (h : t.Kept) (memoryId : String) (expectedVersion : Int) :
    (t.forget memoryId expectedVersion).Kept := by
  unfold Tables.forget
  split
  · exact h
  rename_i m hfind
  split
  · -- the index has no row for a memory that is not active, so to clear its rows is to refresh them
    let t' : Tables := { t with
      memories := t.memories.update memoryId MemoryRow.forget
      revisions := t.revisions.updateWhere (fun revision => revision.memoryId == memoryId) RevisionRow.clear }
    have hforgotten : t'.memories.find? memoryId = some m.forget := Tables.Table.find?_update_self hfind MemoryRow.forget (fun _ => rfl)
    have hrow : t'.ftsRowOf memoryId = none := by
      unfold Tables.ftsRowOf
      rw [hforgotten]
      rfl
    have hrefresh : (t'.refreshMemoryFts memoryId).Kept := by
      refine kept_refresh h rfl ?_ ?_ ?_
      · exact fun id hid => Tables.Table.find?_update_of_ne t.memories hid MemoryRow.forget (fun _ => rfl)
      · intro id revision hfound howner
        refine (Tables.Table.find?_updateWhere t.revisions _ RevisionRow.clear (fun _ => rfl) id).trans ?_
        rw [hfound, Option.map_some, if_neg (by simpa using howner)]
      · intro m' hm'
        obtain rfl : m.forget = m' := Option.mem_unique hforgotten hm'
        exact ⟨rfl, fun revisionId hcurrent => (nomatch hcurrent)⟩
    unfold Tables.refreshMemoryFts at hrefresh
    rw [hrow, Option.toList_none, List.append_nil] at hrefresh
    exact hrefresh
  · exact h

end Rovai.Memory
