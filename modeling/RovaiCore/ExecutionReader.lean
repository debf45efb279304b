import RovaiCore.ExecutionWindow
/-!
# A reader that polls for changes

A client keeps a cursor and asks `readChanges` for what lies beyond it, always from the cursor the last answer gave, with any page
limit, while writers go on.
-/
namespace Rovai

open List

section

variable (sqlText : Json → Option String) (store : ContentStore)

structure Reader where
  log : RunLog
  cursor : Nat
  calls : List ExecutionWindowChanges

inductive ReaderAction where
  | write (w : Write)
  | poll (refreshEvidenceIds : List EvidenceId) (limit : Int)

def Reader.start (cursor : Nat) : Reader := { log := RunLog.empty, cursor := cursor, calls := [] }

def Reader.step (s : Reader) : ReaderAction → Reader
  | .write w => { s with log := s.log.write store w }
  | .poll refreshEvidenceIds limit =>
    match readChanges sqlText s.log s.cursor refreshEvidenceIds limit with
    | some call => { s with cursor := call.nextAfterChangeSequence, calls := s.calls ++ [call] }
    | none => s

def Chained : Nat → List ExecutionWindowChanges → Nat → Prop
  | c, [], cursor => c = cursor
  | c, call :: calls, cursor =>
    call.requestedAfterChangeSequence = c ∧ Chained call.nextAfterChangeSequence calls cursor

def WellPaged (log : RunLog) (call : ExecutionWindowChanges) : Prop :=
  call.requestedAfterChangeSequence ≤ call.nextAfterChangeSequence ∧
    call.nextAfterChangeSequence ≤ call.throughChangeSequence ∧ call.throughChangeSequence ≤ log.changeCounter ∧
    (call.hasMore = true → call.requestedAfterChangeSequence < call.nextAfterChangeSequence)

def Seen (calls : List ExecutionWindowChanges) (it : WindowItem) : Prop :=
  ∃ call ∈ calls, call.requestedAfterChangeSequence < it.changeSequence ∧
    it.changeSequence ≤ call.nextAfterChangeSequence ∧ ∃ parts, (it, parts) ∈ call.evidence

/-! ## One page -/

variable {sqlText store} {log : RunLog}

instance (after forward : Option Nat) : Std.Total (selectOrder after forward) where
  total a b := by
    unfold selectOrder
    split <;> omega

instance (after forward : Option Nat) : IsTrans WindowItem (selectOrder after forward) where
  trans a b c := by
    unfold selectOrder
    split <;> omega

theorem nodup_windowItems : (windowItems sqlText log).Nodup := by
  refine (nodup_dedup _).map_on (fun a _ b _ h => ?_)
  exact congrArg WindowItem.itemKey h

def changedItems (sqlText : Json → Option String) (log : RunLog) (after : Nat) : List WindowItem :=
  ((windowItems sqlText log).filter (fun it => after < it.changeSequence)).insertionSort (selectOrder (some after) none)

theorem selectItems_changes (after limit : Nat) :
    selectItems sqlText log none (some after) none none limit = (changedItems sqlText log after).take limit := by
  simp [selectItems, changedItems]

variable {it : WindowItem}

theorem mem_changedItems {after : Nat} :
    it ∈ changedItems sqlText log after ↔ it ∈ windowItems sqlText log ∧ after < it.changeSequence := by
  simp [changedItems]

theorem pairwise_changedItems (inv : LogInv log) (after : Nat) :
    (changedItems sqlText log after).Pairwise (fun a b => a.changeSequence < b.changeSequence) := by
  refine Paging.pairwise_lt_insertionSort (fun a b h => ?_) (nodup_windowItems.filter _) (fun a ha b hb h => ?_)
  · rcases h with h | h
    · exact Nat.le_of_lt h
    · exact Nat.le_of_eq h.1
  · obtain ⟨ha, hpos⟩ := mem_filter.1 ha
    exact windowItem_inj inv ha (mem_filter.1 hb).1 (Nat.zero_lt_of_lt (of_decide_eq_true hpos)) h

theorem clampLimit_pos (limit : Int) : 0 < clampLimit limit := by
  unfold clampLimit
  omega

theorem loadSummaries_ne_nil (hit : it ∈ windowItems sqlText log) :
    (loadSummaries log it.evidenceIds).isEmpty = false := by
  obtain ⟨e, he, rfl⟩ := mem_itemsOf.1 hit
  obtain ⟨r, hr, hvisible, her⟩ := mem_entries.1 he
  have hmem : r ∈ loadSummaries log (itemOf (entries sqlText log) e.itemKey).evidenceIds := by
    rw [loadSummaries, mem_insertionSort, mem_filter]
    refine ⟨hr, ?_⟩
    have htype : r.eventType ≠ "command.output.delta" := by
      intro h
      simp [visible, windowEventTypes, h] at hvisible
    simp only [Bool.and_eq_true, contains_iff_mem, bne_iff_ne, ne_eq]
    refine ⟨?_, htype⟩
    rw [← (mem_rowEntries her).1]
    exact mem_map_of_mem (mem_filter.2 ⟨he, decide_eq_true rfl⟩)
  cases h : loadSummaries log (itemOf (entries sqlText log) e.itemKey).evidenceIds with
  | nil => rw [h] at hmem; cases hmem
  | cons _ _ => rfl

variable {call : ExecutionWindowChanges}

/-- **One call**: it returns every item up to its next cursor and its cursors are in order. -/
theorem readChanges_spec (inv : LogInv log) {after : Nat} {refresh : List EvidenceId} {limit : Int}
    (h : readChanges sqlText log after refresh limit = some call) :
    call.requestedAfterChangeSequence = after ∧ WellPaged log call ∧
      ∀ it ∈ windowItems sqlText log, after < it.changeSequence → it.changeSequence ≤ call.nextAfterChangeSequence →
        ∃ parts, (it, parts) ∈ call.evidence := by
  unfold readChanges at h
  split at h
  · cases h
  rename_i hguard
  rw [not_or, Nat.not_lt] at hguard
  rw [Option.some.injEq] at h
  subst h
  rw [selectItems_changes]
  have hpos := clampLimit_pos limit
  have hthrough : ∀ it ∈ changedItems sqlText log after, it.changeSequence ≤ log.changeCounter :=
    fun it hit => windowItem_le inv (mem_changedItems.1 hit).1
  have hafter : ∀ it ∈ changedItems sqlText log after, after < it.changeSequence := fun it hit => (mem_changedItems.1 hit).2
  have hle := Paging.le_next WindowItem.changeSequence hpos hafter (Nat.le_of_not_lt hguard.2)
  refine ⟨rfl, ⟨hle.1, Paging.next_le_through hpos hthrough, Nat.le_refl _, hle.2⟩, fun it hit hlt hnext => ?_⟩
  refine ⟨loadSummaries log it.evidenceIds, ?_⟩
  have hpage := Paging.mem_items_of_le_next hpos (pairwise_changedItems inv after) (mem_changedItems.2 ⟨hit, hlt⟩) hnext
  exact mem_filter.2 ⟨mem_map_of_mem hpage, by simp [loadSummaries_ne_nil hit]⟩

/-! ## Every run -/

structure ReaderInv (sqlText : Json → Option String) (c : Nat) (s : Reader) : Prop where
  log : LogInv s.log
  chained : Chained c s.calls s.cursor
  paged : ∀ call ∈ s.calls, WellPaged s.log call
  bounded : s.cursor = c ∨ s.cursor ≤ s.log.changeCounter
  seen : ∀ it ∈ windowItems sqlText s.log, c < it.changeSequence → it.changeSequence ≤ s.cursor → Seen s.calls it

theorem chained_append : ∀ {calls : List ExecutionWindowChanges} {c cursor : Nat} {call : ExecutionWindowChanges},
    Chained c calls cursor → call.requestedAfterChangeSequence = cursor →
      Chained c (calls ++ [call]) call.nextAfterChangeSequence
  | [], _, _, _, h, hc => ⟨hc.trans h.symm, rfl⟩
  | _ :: _, _, _, _, h, hc => ⟨h.1, chained_append h.2 hc⟩

theorem WellPaged.mono {log log' : RunLog} (h : WellPaged log call)
    (hle : log.changeCounter ≤ log'.changeCounter) : WellPaged log' call :=
  ⟨h.1, h.2.1, Nat.le_trans h.2.2.1 hle, h.2.2.2⟩

theorem Seen.append {calls : List ExecutionWindowChanges} (h : Seen calls it)
    (call : ExecutionWindowChanges) : Seen (calls ++ [call]) it := by
  obtain ⟨x, hx, h⟩ := h
  exact ⟨x, mem_append_left _ hx, h⟩

theorem readerInv_start (c : Nat) : ReaderInv sqlText c (Reader.start c) := by
  refine ⟨logInv_empty, rfl, fun call hcall => ?_, .inl rfl, fun it _ hlt hle => ?_⟩
  · cases hcall
  · exact absurd hle (Nat.not_le_of_lt hlt)

variable {s : Reader}

theorem readerInv_write {c : Nat} (inv : ReaderInv sqlText c s) (store : ContentStore) (w : Write) :
    ReaderInv sqlText c { s with log := s.log.write store w } := by
  obtain ⟨hcounter, hitems⟩ := windowItem_write sqlText store inv.log w
  refine ⟨logInv_write store inv.log w, inv.chained, fun call hcall => (inv.paged call hcall).mono hcounter, ?_, ?_⟩
  · rcases inv.bounded with h | h
    · exact .inl h
    · exact .inr (Nat.le_trans h hcounter)
  · intro it hit hlt hle
    rcases hitems it hit with h | h
    · exact inv.seen it h hlt hle
    · rcases inv.bounded with hb | hb <;> simp only at hle <;> omega

theorem readerInv_poll {c : Nat} (inv : ReaderInv sqlText c s) {refresh : List EvidenceId} {limit : Int}
    (h : readChanges sqlText s.log s.cursor refresh limit = some call) :
    ReaderInv sqlText c { s with cursor := call.nextAfterChangeSequence, calls := s.calls ++ [call] } := by
  obtain ⟨hreq, hpaged, hall⟩ := readChanges_spec inv.log h
  refine ⟨inv.log, chained_append inv.chained hreq, fun x hx => ?_, .inr (Nat.le_trans hpaged.2.1 hpaged.2.2.1), ?_⟩
  · rcases mem_append.1 hx with hx | hx
    · exact inv.paged x hx
    rw [mem_singleton.1 hx]
    exact hpaged
  · intro it hit hlt hle
    by_cases hold : it.changeSequence ≤ s.cursor
    · exact (inv.seen it hit hlt hold).append call
    rw [Nat.not_le] at hold
    exact ⟨call, by simp, hreq ▸ hold, hle, hall it hit hold hle⟩

theorem readerInv_step {c : Nat} (inv : ReaderInv sqlText c s) (a : ReaderAction) :
    ReaderInv sqlText c (s.step sqlText store a) := by
  cases a with
  | write w => exact readerInv_write inv store w
  | poll refresh limit =>
    simp only [Reader.step]
    cases h : readChanges sqlText s.log s.cursor refresh limit with
    | some call => exact readerInv_poll inv h
    | none => exact inv

theorem readerInv_run (sqlText : Json → Option String) (store : ContentStore) (c : Nat) (actions : List ReaderAction) :
    ReaderInv sqlText c (actions.foldl (Reader.step sqlText store) (Reader.start c)) :=
  Runs.run_invariant (P := ReaderInv sqlText c) _ (fun _ a inv => readerInv_step inv a) actions _ (readerInv_start c)

theorem cursor_le_of_calls {c : Nat} : ∀ {calls : List ExecutionWindowChanges} {cursor : Nat} {log : RunLog},
    Chained c calls cursor → (∀ call ∈ calls, WellPaged log call) → calls ≠ [] → cursor ≤ log.changeCounter
  | [], _, _, _, _, hne => absurd rfl hne
  | [call], cursor, log, h, hpaged, _ => by
    have hp := hpaged call (mem_singleton_self call)
    have hc : call.nextAfterChangeSequence = cursor := h.2
    rw [← hc]
    exact Nat.le_trans hp.2.1 hp.2.2.1
  | _ :: x :: calls, _, _, h, hpaged, _ =>
    cursor_le_of_calls h.2 (fun call hcall => hpaged call (mem_cons_of_mem _ hcall)) (cons_ne_nil x calls)

end

/-- **A polling reader misses no change.**  After any interleaving of writes and calls, from any start cursor and with any
limits, every item whose change lies between the start and the cursor was returned, as it now stands, by the call that
passed its change; each call starts where the last ended and its cursors never go back nor past the run's mark. -/
theorem readChanges_misses_nothing (sqlText : Json → Option String) (store : ContentStore) (c : Nat)
    (actions : List ReaderAction) :
    let s := actions.foldl (Reader.step sqlText store) (Reader.start c)
    (∀ it ∈ windowItems sqlText s.log, c < it.changeSequence → it.changeSequence ≤ s.cursor → Seen s.calls it) ∧
      Chained c s.calls s.cursor ∧ (∀ call ∈ s.calls, WellPaged s.log call) ∧
      (s.calls ≠ [] → s.cursor ≤ s.log.changeCounter) := by
  have inv := readerInv_run sqlText store c actions
  exact ⟨inv.seen, inv.chained, inv.paged, cursor_le_of_calls inv.chained inv.paged⟩

/-! ## Catching up -/

section

variable {sqlText : Json → Option String} {store : ContentStore} {log : RunLog}

theorem exists_poll {after : Nat} (hafter : after ≤ log.changeCounter) (limit : Int) :
    ∃ call, readChanges sqlText log after [] limit = some call ∧
      (call.hasMore = false → call.nextAfterChangeSequence = log.changeCounter) := by
  unfold readChanges
  rw [if_neg (by simpa using hafter)]
  exact ⟨_, rfl, fun hmore => if_neg (by simpa [Paging.page] using hmore)⟩

def Reader.pollAll (sqlText : Json → Option String) (store : ContentStore) (limits : List Int) (s : Reader) : Reader :=
  (limits.map (.poll [])).foldl (Reader.step sqlText store) s

theorem pollAll_advances {c : Nat} : ∀ (limits : List Int) {s : Reader}, ReaderInv sqlText c s → s.cursor ≤ s.log.changeCounter →
    let t := s.pollAll sqlText store limits
    ReaderInv sqlText c t ∧ t.log = s.log ∧ t.cursor ≤ s.log.changeCounter ∧
      min (s.cursor + limits.length) s.log.changeCounter ≤ t.cursor
  | [], _, inv, hle => ⟨inv, rfl, hle, Nat.min_le_left _ _⟩
  | limit :: rest, s, inv, hle => by
    obtain ⟨call, hcall, hlast⟩ := @exists_poll sqlText s.log s.cursor hle limit
    obtain ⟨hrequested, ⟨hnext, hthrough, hcounter, hmore⟩, -⟩ := readChanges_spec inv.log hcall
    obtain ⟨hinv, hlog, hbound, hcursor⟩ := pollAll_advances rest (readerInv_poll inv hcall) (Nat.le_trans hthrough hcounter)
    intro t
    have hstep : t = { s with cursor := call.nextAfterChangeSequence, calls := s.calls ++ [call] }.pollAll sqlText store rest := by
      simp only [t, Reader.pollAll, map_cons, foldl_cons, Reader.step, hcall]
    rw [hstep]
    refine ⟨hinv, hlog, hbound, Nat.le_trans ?_ hcursor⟩
    rw [length_cons]
    cases hhas : call.hasMore with
    | true =>
      have := hmore hhas
      dsimp only
      omega
    | false =>
      have := hlast hhas
      dsimp only
      omega

end

end Rovai
