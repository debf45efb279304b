import Mathlib.Data.List.Dedup
import RovaiCore.EvidenceWriter
import RovaiCore.ListRules
import RovaiCore.Paging
/-!
# The execution window (`execution_window.rs`)

The window lists a run's logical items.
-/
namespace Rovai

open List

/-! ## Selection -/

inductive ItemKey where
  | operation (epoch : Nat) (operationId : String)
  | compaction (epoch : Nat) (compactionId : String)
  | diagnostic (epoch : Nat) (diagnosticId : String)
  | plan (epoch : Nat)
  | text (epoch : Nat) (itemId : String)
  | row (id : EvidenceId)
  deriving DecidableEq

def unifiedActivity (r : EvidenceRow) : Option ActivityRow :=
  r.operation.bind (fun o =>
    if o.storageVersion = 3 ∨ o.storageVersion = 4 then
      o.activityClassifier.map (fun version => {
        executionEpoch := r.executionEpoch
        operationId := o.operationId
        classifierVersion := version
        sourceEvidenceIds := [r.id]
        firstEvidenceSequence := r.sequence })
    else none)

def executionActivity (log : RunLog) : List ActivityRow := log.activities ++ log.rows.filterMap unifiedActivity

def rankedActivities (log : RunLog) : List ActivityRow :=
  (executionActivity log).filter
    (fun a => bestActivity (executionActivity log) a.executionEpoch a.operationId = some a)

structure Owner where
  id : EvidenceId
  operationId : String
  (executionEpoch firstEvidenceSequence : Nat)

def activityOwners (a : ActivityRow) : List Owner :=
  a.sourceEvidenceIds.map (fun id => ⟨id, a.operationId, a.executionEpoch, a.firstEvidenceSequence⟩)

def owners (log : RunLog) : List Owner := (rankedActivities log).flatMap activityOwners

structure Entry where
  id : EvidenceId
  changeSequence : Option Nat
  itemKey : ItemKey
  firstSequence : Nat

def windowEventTypes : List String :=
  ["agent.text.block", "agent.text.delta", "runtime.plan", "runtime.plan.delta", "agent_run.input", "runtime.diagnostic",
    "runtime.fast.observed", "runtime.compaction.display", "activity.started", "activity.completed", "runtime.action"]

def visible (r : EvidenceRow) : Bool := windowEventTypes.contains r.eventType && r.kind != "reasoning_summary"

section

-- SQLite's text of a JSON value, none of null
variable (sqlText : Json → Option String)

def previewText (field : String) (r : EvidenceRow) : String := ((r.preview.get? field).bind sqlText).getD r.id

def rowKey (r : EvidenceRow) : ItemKey :=
  if r.eventType = "runtime.compaction.display" then .compaction r.executionEpoch (previewText sqlText "compactionId" r)
  else if r.eventType = "runtime.diagnostic" then .diagnostic r.executionEpoch (previewText sqlText "diagnosticId" r)
  else if r.eventType = "runtime.plan" ∨ r.eventType = "runtime.plan.delta" then .plan r.executionEpoch
  else if r.eventType = "agent.text.delta" then .text r.executionEpoch (previewText sqlText "itemId" r)
  else .row r.id

def ownedEntry (r : EvidenceRow) (o : Owner) : Entry :=
  ⟨r.id, r.changeSequence, .operation o.executionEpoch o.operationId, o.firstEvidenceSequence⟩

def rowEntries (owners : List Owner) (r : EvidenceRow) : List Entry :=
  match owners.filter (fun o => o.id = r.id) with
  | [] => [⟨r.id, r.changeSequence, rowKey sqlText r, r.sequence⟩]
  | own => own.map (ownedEntry r)

variable (log : RunLog)

def entries : List Entry := (log.rows.filter visible).flatMap (rowEntries sqlText (owners log))

structure WindowItem where
  itemKey : ItemKey
  firstSequence : Nat
  evidenceIds : List EvidenceId
  changeSequence : Nat

def itemOf (es : List Entry) (key : ItemKey) : WindowItem :=
  let group := es.filter (fun e => e.itemKey = key)
  { itemKey := key
    firstSequence := ((group.map (·.firstSequence)).min?).getD 0
    evidenceIds := group.map (·.id)
    changeSequence := ((group.filterMap (·.changeSequence)).max?).getD 0 }

def itemsOf (es : List Entry) : List WindowItem := (es.map (·.itemKey)).dedup.map (itemOf es)

def windowItems : List WindowItem := itemsOf (entries sqlText log)

def selectOrder (after forward : Option Nat) (a b : WindowItem) : Prop :=
  match forward, after with
  | some _, _ => a.firstSequence ≤ b.firstSequence
  | none, some _ => a.changeSequence < b.changeSequence ∨
      a.changeSequence = b.changeSequence ∧ b.firstSequence ≤ a.firstSequence
  | none, none => b.firstSequence ≤ a.firstSequence

instance (after forward : Option Nat) : DecidableRel (selectOrder after forward) := fun a b => by
  unfold selectOrder
  split <;> infer_instance

def selectItems (before after : Option Nat) (watched : Option (List EvidenceId)) (forward : Option Nat)
    (limit : Nat) : List WindowItem :=
  (((windowItems sqlText log).filter (fun it =>
      before.all (fun s => it.firstSequence < s) && after.all (fun s => s < it.changeSequence)
      && forward.all (fun s => s < it.firstSequence)
      && watched.all (fun ids => it.evidenceIds.any ids.contains))).insertionSort (selectOrder after forward)).take limit

def loadSummaries (ids : List EvidenceId) : List EvidenceRow :=
  (log.rows.filter (fun r => ids.contains r.id && r.eventType != "command.output.delta")).insertionSort
    (fun a b => a.sequence ≤ b.sequence)

def projectItems (selected : List WindowItem) : List (WindowItem × List EvidenceRow) :=
  (selected.map (fun it => (it, loadSummaries log it.evidenceIds))).filter (fun x => !x.2.isEmpty)

/-! ## Reading changes -/

structure ExecutionWindowChanges where
  (requestedAfterChangeSequence nextAfterChangeSequence throughSequence throughChangeSequence : Nat)
  hasMore : Bool
  (evidence refreshedEvidence : List (WindowItem × List EvidenceRow))

def clampLimit (limit : Int) : Nat := (max 1 (min limit 96)).toNat

def readChanges (after : Nat) (refreshEvidenceIds : List EvidenceId) (limit : Int) :
    Option ExecutionWindowChanges :=
  if 256 < refreshEvidenceIds.length ∨ log.changeCounter < after then none
  else
    let selected := selectItems sqlText log none (some after) none none (clampLimit limit + 1)
    let page := Paging.page WindowItem.changeSequence selected (clampLimit limit) log.changeCounter
    some {
      requestedAfterChangeSequence := after
      nextAfterChangeSequence := page.next
      throughSequence := maxSequence log.rows
      throughChangeSequence := log.changeCounter
      hasMore := page.hasMore
      evidence := projectItems log page.items
      refreshedEvidence := if refreshEvidenceIds = [] then []
        else projectItems log (selectItems sqlText log none none (some refreshEvidenceIds) none 256) }

end

/-! ## Who owns a row -/

section

variable {log log' : RunLog} {r r' : EvidenceRow} {sqlText : Json → Option String}

def ownActivity (r : EvidenceRow) (o : Operation) : ActivityRow where
  executionEpoch := r.executionEpoch
  operationId := o.operationId
  classifierVersion := .current
  sourceEvidenceIds := [r.id]
  firstEvidenceSequence := r.sequence

variable {a : ActivityRow}

theorem unifiedActivity_eq_some (inv : LogInv log) (hr : r ∈ log.rows) :
    unifiedActivity r = some a ↔ ∃ o, r.operation = some o ∧ a = ownActivity r o := by
  cases ho : r.operation with
  | none => simp [unifiedActivity, ho]
  | some o => simp [unifiedActivity, ho, inv.formats r hr o ho, ownActivity, eq_comm]

theorem mem_executionActivity (inv : LogInv log) :
    a ∈ executionActivity log ↔
      a ∈ log.activities ∨ ∃ r ∈ log.rows, ∃ o, r.operation = some o ∧ a = ownActivity r o := by
  rw [executionActivity, mem_append, mem_filterMap]
  exact or_congr_right (exists_congr (fun r => and_congr_right (fun hr => unifiedActivity_eq_some inv hr)))

theorem executionActivity_operations (inv : LogInv log) : (executionActivity log).Pairwise
    (fun a b => ¬ (a.executionEpoch = b.executionEpoch ∧ a.operationId = b.operationId)) := by
  rw [executionActivity, pairwise_append]
  refine ⟨inv.operations, ?_, fun a ha b hb hab => ?_⟩
  · refine pairwise_filterMap.2 (inv.lifecycles.imp_of_mem fun hx hy hxy a ha b hb hab => ?_)
    obtain ⟨ox, hox, rfl⟩ := (unifiedActivity_eq_some inv hx).1 ha
    obtain ⟨oy, hoy, rfl⟩ := (unifiedActivity_eq_some inv hy).1 hb
    exact hxy ox oy hox hoy hab
  · obtain ⟨x, hx, hb⟩ := mem_filterMap.1 hb
    obtain ⟨o, ho, rfl⟩ := (unifiedActivity_eq_some inv hx).1 hb
    have := inv.apart a ha x hx
    rw [← Bool.not_eq_true, isLifecycleRow_iff] at this
    exact this ⟨hab.1.symm, o, ho, hab.2.symm⟩

theorem rankedActivities_eq (inv : LogInv log) : rankedActivities log = executionActivity log := by
  refine filter_eq_self.2 (fun a ha => ?_)
  rw [decide_eq_true_eq]
  exact (bestActivity_eq_some_of (executionActivity_operations inv)).2 ⟨ha, rfl, rfl⟩

variable {id : EvidenceId}

theorem activity_of_source (inv : LogInv log) {a b : ActivityRow} (ha : a ∈ executionActivity log)
    (hb : b ∈ executionActivity log) (hia : id ∈ a.sourceEvidenceIds) (hib : id ∈ b.sourceEvidenceIds) :
    a = b := by
  have hmixed : ∀ {a : ActivityRow}, a ∈ log.activities → id ∈ a.sourceEvidenceIds → ∀ r ∈ log.rows, ∀ o,
      r.operation = some o → id ∉ (ownActivity r o).sourceEvidenceIds := by
    intro a ha hia r hr o ho hid
    obtain ⟨x, hx, hxid, hplain⟩ := inv.sources a ha id hia
    rw [inv.eq_of_id hx hr (hxid.trans (mem_singleton.1 hid)), ho] at hplain
    cases hplain
  rcases (mem_executionActivity inv).1 ha with ha | ⟨x, hx, ox, hox, rfl⟩
  · rcases (mem_executionActivity inv).1 hb with hb | ⟨y, hy, oy, hoy, rfl⟩
    · by_contra hne
      rcases pairwise_ne inv.owners ha hb hne with h | h
      · exact h id hia hib
      · exact h id hib hia
    · exact absurd hib (hmixed ha hia y hy oy hoy)
  · rcases (mem_executionActivity inv).1 hb with hb | ⟨y, hy, oy, hoy, rfl⟩
    · exact absurd hia (hmixed hb hib x hx ox hox)
    have hid : x.id = y.id := (mem_singleton.1 hia).symm.trans (mem_singleton.1 hib)
    obtain rfl := inv.eq_of_id hx hy hid
    rw [hox, Option.some.injEq] at hoy
    rw [hoy]

theorem mem_owners (inv : LogInv log) {o : Owner} : o ∈ owners log ↔ ∃ a ∈ executionActivity log,
    o.id ∈ a.sourceEvidenceIds ∧ o = ⟨o.id, a.operationId, a.executionEpoch, a.firstEvidenceSequence⟩ := by
  rw [owners, rankedActivities_eq inv, mem_flatMap]
  refine exists_congr (fun a => and_congr_right (fun _ => ?_))
  rw [activityOwners, mem_map]
  constructor
  · rintro ⟨id, hid, rfl⟩
    exact ⟨hid, rfl⟩
  · rintro ⟨hid, ho⟩
    exact ⟨o.id, hid, ho.symm⟩

/-! ## Entries -/

variable {e : Entry}

theorem mem_rowEntries {os : List Owner} (h : e ∈ rowEntries sqlText os r) :
    e.id = r.id ∧ e.changeSequence = r.changeSequence ∧
      ((e.itemKey = rowKey sqlText r ∧ os.filter (fun o => o.id = r.id) = []) ∨
        ∃ o ∈ os, o.id = r.id ∧ e = ownedEntry r o) := by
  unfold rowEntries at h
  split at h
  · rename_i hnone
    rw [mem_singleton.1 h]
    exact ⟨rfl, rfl, .inl ⟨rfl, hnone⟩⟩
  · obtain ⟨o, ho, rfl⟩ := mem_map.1 h
    obtain ⟨hmem, hid⟩ := mem_filter.1 ho
    exact ⟨rfl, rfl, .inr ⟨o, hmem, of_decide_eq_true hid, rfl⟩⟩

theorem mem_entries : e ∈ entries sqlText log ↔
    ∃ r ∈ log.rows, visible r = true ∧ e ∈ rowEntries sqlText (owners log) r := by
  simp [entries, mem_flatMap, and_assoc]

theorem rowEntries_key (inv : LogInv log) {e e' : Entry} (h : e ∈ rowEntries sqlText (owners log) r)
    (h' : e' ∈ rowEntries sqlText (owners log) r) : e.itemKey = e'.itemKey := by
  obtain ⟨-, -, ⟨hk, hnone⟩ | ⟨o, ho, hid, rfl⟩⟩ := mem_rowEntries h
  · obtain ⟨-, -, ⟨hk', -⟩ | ⟨o', ho', hid', rfl⟩⟩ := mem_rowEntries h'
    · rw [hk, hk']
    have : o' ∈ (owners log).filter (fun o => o.id = r.id) := mem_filter.2 ⟨ho', decide_eq_true hid'⟩
    rw [hnone] at this
    cases this
  · obtain ⟨-, -, ⟨-, hnone⟩ | ⟨o', ho', hid', rfl⟩⟩ := mem_rowEntries h'
    · have : o ∈ (owners log).filter (fun o => o.id = r.id) := mem_filter.2 ⟨ho, decide_eq_true hid⟩
      rw [hnone] at this
      cases this
    · obtain ⟨a, ha, hia, hoa⟩ := (mem_owners inv).1 ho
      obtain ⟨b, hb, hib, hob⟩ := (mem_owners inv).1 ho'
      rw [hid] at hia
      rw [hid'] at hib
      rw [hoa, hob, activity_of_source inv ha hb hia hib]
      rfl

variable {o : Operation}

theorem operationKey_of_lifecycle (inv : LogInv log) (hr : r ∈ log.rows) (ho : r.operation = some o)
    (h : e ∈ rowEntries sqlText (owners log) r) : e.itemKey = .operation r.executionEpoch o.operationId := by
  have hown : (⟨r.id, o.operationId, r.executionEpoch, r.sequence⟩ : Owner) ∈ owners log :=
    (mem_owners inv).2 ⟨ownActivity r o, (mem_executionActivity inv).2 (.inr ⟨r, hr, o, ho, rfl⟩), by simp [ownActivity], rfl⟩
  have hentry : ownedEntry r ⟨r.id, o.operationId, r.executionEpoch, r.sequence⟩ ∈ rowEntries sqlText (owners log) r := by
    unfold rowEntries
    have hmem : (⟨r.id, o.operationId, r.executionEpoch, r.sequence⟩ : Owner) ∈ (owners log).filter (fun o => o.id = r.id) :=
      mem_filter.2 ⟨hown, decide_eq_true rfl⟩
    split
    · rename_i hnone
      rw [hnone] at hmem
      cases hmem
    · exact mem_map_of_mem hmem
  exact rowEntries_key inv h hentry

theorem id_of_operationKey (inv : LogInv log) (hr : r ∈ log.rows) (ho : r.operation = some o)
    (h : e ∈ entries sqlText log) (hk : e.itemKey = .operation r.executionEpoch o.operationId) : e.id = r.id := by
  obtain ⟨x, hx, -, he⟩ := mem_entries.1 h
  obtain ⟨hid, -, ⟨hkx, -⟩ | ⟨w, hw, hwid, rfl⟩⟩ := mem_rowEntries he
  · rw [hk] at hkx
    unfold rowKey at hkx
    repeat (first | cases hkx | split at hkx)
  · obtain ⟨a, ha, hia, hwa⟩ := (mem_owners inv).1 hw
    rw [hwa, ownedEntry, ItemKey.operation.injEq] at hk
    rcases (mem_executionActivity inv).1 ha with ha | ⟨y, hy, oy, hoy, rfl⟩
    · have := inv.apart a ha r hr
      rw [← Bool.not_eq_true, isLifecycleRow_iff] at this
      exact absurd ⟨hk.1.symm, o, ho, hk.2.symm⟩ this
    · obtain rfl := inv.eq_of_lifecycle hy hr hoy ho hk
      rw [hid, ← hwid]
      exact mem_singleton.1 hia

/-! ## Items -/

variable {it : WindowItem} {es : List Entry}

theorem mem_itemsOf : it ∈ itemsOf es ↔ ∃ e ∈ es, it = itemOf es e.itemKey := by
  simp only [itemsOf, mem_map, mem_dedup]
  constructor
  · rintro ⟨k, ⟨e, he, rfl⟩, rfl⟩
    exact ⟨e, he, rfl⟩
  · rintro ⟨e, he, rfl⟩
    exact ⟨e.itemKey, ⟨e, he, rfl⟩, rfl⟩

theorem le_changeSequence (he : e ∈ es) {c : Nat} (hc : e.changeSequence = some c) :
    c ≤ (itemOf es e.itemKey).changeSequence :=
  le_max?_getD_of_mem (mem_filterMap.2 ⟨e, mem_filter.2 ⟨he, decide_eq_true rfl⟩, hc⟩)

theorem exists_changeSequence {k : ItemKey} (h : 0 < (itemOf es k).changeSequence) :
    ∃ e ∈ es, e.itemKey = k ∧ e.changeSequence = some (itemOf es k).changeSequence := by
  have hmax : (itemOf es k).changeSequence ∈ ((es.filter (fun e => e.itemKey = k)).filterMap (·.changeSequence)) := by
    simp only [itemOf] at h ⊢
    cases hm : ((es.filter (fun e => e.itemKey = k)).filterMap (·.changeSequence)).max? with
    | none => simp [hm] at h
    | some m => exact max?_mem hm
  obtain ⟨e, he, hc⟩ := mem_filterMap.1 hmax
  obtain ⟨hmem, hk⟩ := mem_filter.1 he
  exact ⟨e, hmem, of_decide_eq_true hk, hc⟩

/-- **Rewriting one row's entries**: an item that lost or gained nothing is the item it was, any other one carries the
new change sequence. -/
theorem itemsOf_of_agree {es es' : List Entry} {counter : Nat}
    (hsame : es'.filter (fun e => e.id ≠ id) = es.filter (fun e => e.id ≠ id))
    (hnew : ∀ e ∈ es', e.id = id → ∃ c, e.changeSequence = some c ∧ counter < c)
    (hgone : ∀ e ∈ es, e.id = id → ∀ e' ∈ es', e'.itemKey = e.itemKey → ∃ e'' ∈ es', e''.itemKey = e.itemKey ∧ e''.id = id)
    (hit : it ∈ itemsOf es') : it ∈ itemsOf es ∨ counter < it.changeSequence := by
  obtain ⟨e, he, rfl⟩ := mem_itemsOf.1 hit
  by_cases htouched : ∃ e' ∈ es', e'.itemKey = e.itemKey ∧ e'.id = id
  · obtain ⟨e', he', hk, hid⟩ := htouched
    obtain ⟨c, hc, hlt⟩ := hnew e' he' hid
    have := le_changeSequence he' hc
    rw [hk] at this
    exact .inr (Nat.lt_of_lt_of_le hlt this)
  · have hkeep : ∀ l : List Entry, (∀ x ∈ l, x.itemKey = e.itemKey → x.id ≠ id) →
        l.filter (fun x => x.itemKey = e.itemKey) = (l.filter (fun x => x.id ≠ id)).filter (fun x => x.itemKey = e.itemKey) := by
      intro l hl
      rw [filter_filter]
      refine filter_congr (fun x hx => ?_)
      by_cases hxk : x.itemKey = e.itemKey
      · simp [hxk, hl x hx hxk]
      · simp [hxk]
    have hnot' : ∀ x ∈ es', x.itemKey = e.itemKey → x.id ≠ id := fun x hx hk hid => htouched ⟨x, hx, hk, hid⟩
    have hnot : ∀ x ∈ es, x.itemKey = e.itemKey → x.id ≠ id := by
      intro x hx hk hid
      obtain ⟨e'', he'', hk'', hid''⟩ := hgone x hx hid e he hk.symm
      exact htouched ⟨e'', he'', hk''.trans hk, hid''⟩
    have hgroup : es'.filter (fun x => x.itemKey = e.itemKey) = es.filter (fun x => x.itemKey = e.itemKey) := by
      rw [hkeep es' hnot', hkeep es hnot, hsame]
    have hmem : e ∈ es.filter (fun x => x.itemKey = e.itemKey) := by
      rw [← hgroup]
      exact mem_filter.2 ⟨he, decide_eq_true rfl⟩
    refine .inl (mem_itemsOf.2 ⟨e, (mem_filter.1 hmem).1, ?_⟩)
    simp [itemOf, hgroup]

theorem windowItem_le (inv : LogInv log) (hit : it ∈ windowItems sqlText log) :
    it.changeSequence ≤ log.changeCounter := by
  obtain ⟨e, -, rfl⟩ := mem_itemsOf.1 hit
  rcases Nat.eq_zero_or_pos (itemOf (entries sqlText log) e.itemKey).changeSequence with h | h
  · omega
  obtain ⟨x, hx, -, hc⟩ := exists_changeSequence h
  obtain ⟨r, hr, -, hxr⟩ := mem_entries.1 hx
  obtain ⟨c, hrc, hle⟩ := inv.changes r hr
  rw [(mem_rowEntries hxr).2.1, hrc, Option.some.injEq] at hc
  omega

/-- **Different items have different change sequences**, past zero. -/
theorem windowItem_inj (inv : LogInv log) {a b : WindowItem} (ha : a ∈ windowItems sqlText log)
    (hb : b ∈ windowItems sqlText log) (hpos : 0 < a.changeSequence) (h : a.changeSequence = b.changeSequence) : a = b := by
  obtain ⟨ea, -, rfl⟩ := mem_itemsOf.1 ha
  obtain ⟨eb, -, rfl⟩ := mem_itemsOf.1 hb
  obtain ⟨x, hx, hkx, hcx⟩ := exists_changeSequence hpos
  obtain ⟨y, hy, hky, hcy⟩ := exists_changeSequence (h ▸ hpos)
  obtain ⟨r, hr, -, hxr⟩ := mem_entries.1 hx
  obtain ⟨s, hs, -, hys⟩ := mem_entries.1 hy
  have hrs : r = s := by
    have hc : r.changeSequence = s.changeSequence := by
      rw [← (mem_rowEntries hxr).2.1, ← (mem_rowEntries hys).2.1, hcx, hcy, h]
    by_contra hne
    rcases pairwise_ne inv.distinct hr hs hne with hd | hd
    · exact hd hc
    · exact hd hc.symm
  rw [← hkx, ← hky, rowEntries_key inv (hrs ▸ hxr) hys]

/-! ## What a row write does to the entries -/

def ownersOf (id : EvidenceId) (a : ActivityRow) : List Owner := (activityOwners a).filter (fun o => o.id = id)

theorem ownersOf_eq_nil (h : id ∉ a.sourceEvidenceIds) : ownersOf id a = [] := by
  refine filter_eq_nil_iff.2 (fun o ho hid => ?_)
  obtain ⟨x, hx, rfl⟩ := mem_map.1 ho
  exact h (of_decide_eq_true hid ▸ hx)

theorem ownersOf_join {id x : EvidenceId} (h : x ≠ id) (a : ActivityRow) : ownersOf x (a.join id) = ownersOf x a := by
  simp only [ownersOf, activityOwners, ActivityRow.join]
  split
  · rfl
  · simp [Ne.symm h]

theorem ownersOf_joined {activities : List ActivityRow} (h : Joined log r activities) {x : EvidenceId} (hx : x ≠ r.id) :
    activities.flatMap (ownersOf x) = log.activities.flatMap (ownersOf x) := by
  rcases h with rfl | ⟨op, -, rfl⟩
  · rfl
  unfold upsertCanonicalActivity
  split
  · rw [flatMap_map]
    refine flatMap_congr (fun a _ => ?_)
    split
    · exact ownersOf_join hx a
    · rfl
  · rw [flatMap_append, flatMap_singleton, ownersOf_eq_nil, append_nil]
    simpa [newActivity] using hx

theorem unified_sources (h : unifiedActivity r = some a) : a.sourceEvidenceIds = [r.id] := by
  obtain ⟨o, -, h⟩ := Option.bind_eq_some_iff.1 h
  split at h
  · obtain ⟨_, -, rfl⟩ := Option.map_eq_some_iff.1 h
    rfl
  · cases h

theorem owners_filter (inv : LogInv log) {x id : EvidenceId} (hx : x ≠ id) :
    (owners log).filter (fun o => o.id = x) =
      log.activities.flatMap (ownersOf x) ++ ((log.rows.filter (fun r => r.id ≠ id)).filterMap unifiedActivity).flatMap (ownersOf x) := by
  have hrows : ∀ l : List EvidenceRow, (l.filterMap unifiedActivity).flatMap (ownersOf x) =
      l.flatMap (fun r => (unifiedActivity r).toList.flatMap (ownersOf x)) := by
    intro l
    induction l with
    | nil => rfl
    | cons r l ih =>
      cases h : unifiedActivity r with
      | none => rw [filterMap_cons_none h, flatMap_cons, h, ih]; rfl
      | some a => rw [filterMap_cons_some h, flatMap_cons, flatMap_cons, h, ih]; simp
  rw [owners, rankedActivities_eq inv, filter_flatMap, executionActivity, flatMap_append]
  refine congrArg₂ _ rfl ?_
  rw [hrows, Lists.flatMap_filter_of_nil, ← hrows]
  · rfl
  intro r _ hid
  have hid : r.id = id := by simpa using hid
  cases h : unifiedActivity r with
  | none => rfl
  | some a =>
    rw [Option.toList_some, flatMap_singleton]
    refine ownersOf_eq_nil ?_
    rw [unified_sources h, hid]
    simpa using hx

theorem rowEntries_congr {os os' : List Owner}
    (h : os.filter (fun o => o.id = r.id) = os'.filter (fun o => o.id = r.id)) :
    rowEntries sqlText os r = rowEntries sqlText os' r := by
  unfold rowEntries
  rw [h]

theorem entries_filter_congr (inv : LogInv log) (inv' : LogInv log')
    (hrows : log'.rows.filter (fun r => r.id ≠ id) = log.rows.filter (fun r => r.id ≠ id))
    (hacts : ∀ x, x ≠ id → log'.activities.flatMap (ownersOf x) = log.activities.flatMap (ownersOf x)) :
    (entries sqlText log').filter (fun e => e.id ≠ id) = (entries sqlText log).filter (fun e => e.id ≠ id) := by
  have hform : ∀ l : RunLog, (entries sqlText l).filter (fun e => e.id ≠ id) =
      ((l.rows.filter (fun r => r.id ≠ id)).filter visible).flatMap (rowEntries sqlText (owners l)) := by
    intro l
    rw [entries, filter_flatMap, filter_comm, ← Lists.flatMap_filter_of_nil (p := fun r => r.id ≠ id)]
    · refine flatMap_congr (fun r hr => filter_eq_self.2 (fun e he => ?_))
      rw [(mem_rowEntries he).1]
      exact (mem_filter.1 hr).2
    · intro r _ hid
      refine filter_eq_nil_iff.2 (fun e he => ?_)
      rw [(mem_rowEntries he).1, hid]
      exact Bool.false_ne_true
  rw [hform, hform, hrows]
  refine flatMap_congr (fun r hr => rowEntries_congr ?_)
  have hid : r.id ≠ id := by simpa using (mem_filter.1 (mem_filter.1 hr).1).2
  rw [owners_filter inv' hid, owners_filter inv hid, hrows, hacts r.id hid]

theorem filter_append_row (log : RunLog) (r : EvidenceRow) :
    (log.rows ++ [r]).filter (fun x => x.id ≠ r.id) = log.rows.filter (fun x => x.id ≠ r.id) := by
  rw [filter_append, filter_singleton]
  simp

theorem filter_updateRow (hid : r'.id = r.id) :
    (updateRow log r.id (fun _ => r')).filter (fun x => x.id ≠ r.id) = log.rows.filter (fun x => x.id ≠ r.id) := by
  unfold updateRow
  induction log.rows with
  | nil => rfl
  | cons x rows ih =>
    by_cases hx : x.id = r.id
    · simpa [hx, hid] using ih
    · simpa [hx] using ih

theorem windowItem_append (inv : LogInv log) {activities : List ActivityRow} {watermark : Nat → Nat}
    (inv' : LogInv ⟨allocateChangeSequence log, log.rows ++ [r], activities, watermark⟩)
    (hfresh : idTaken log r.id = false) (hc : r.changeSequence = some (allocateChangeSequence log))
    (hacts : ∀ x, x ≠ r.id → activities.flatMap (ownersOf x) = log.activities.flatMap (ownersOf x))
    (hit : it ∈ windowItems sqlText ⟨allocateChangeSequence log, log.rows ++ [r], activities, watermark⟩) :
    it ∈ windowItems sqlText log ∨ log.changeCounter < it.changeSequence := by
  refine itemsOf_of_agree (entries_filter_congr inv inv' (filter_append_row log r) hacts) (fun e he hid => ?_)
    (fun e he hid => ?_) hit
  · obtain ⟨x, hx, -, hxe⟩ := mem_entries.1 he
    obtain ⟨hxid, hxc, -⟩ := mem_rowEntries hxe
    have hxr : x = r := inv'.eq_of_id hx (mem_append_right _ (mem_singleton_self r)) (hxid.symm.trans hid)
    exact ⟨_, hxc.trans (hxr ▸ hc), lt_allocateChangeSequence log⟩
  · obtain ⟨x, hx, -, hxe⟩ := mem_entries.1 he
    exact absurd ((mem_rowEntries hxe).1.symm.trans hid) (idTaken_eq_false.1 hfresh x hx)

theorem rowKey_samePlace (hid : r'.id = r.id) (hepoch : r'.executionEpoch = r.executionEpoch)
    (h : SamePlace r r') : rowKey sqlText r' = rowKey sqlText r := by
  obtain ⟨-, htype, -, hblock | hpreview⟩ := h
  · simp [rowKey, htype, hblock, hid]
  · simp [rowKey, previewText, htype, hpreview, hid, hepoch]

theorem unifiedActivity_samePlace (hid : r'.id = r.id) (hepoch : r'.executionEpoch = r.executionEpoch)
    (hsequence : r'.sequence = r.sequence) (h : SamePlace r r') : unifiedActivity r' = unifiedActivity r := by
  simp [unifiedActivity, h.1, hid, hepoch, hsequence]

theorem exists_entry_samePlace {os os' : List Owner} (hid : r'.id = r.id) (hepoch : r'.executionEpoch = r.executionEpoch)
    (h : SamePlace r r') (hos : os'.filter (fun o => o.id = r.id) = os.filter (fun o => o.id = r.id))
    (he : e ∈ rowEntries sqlText os r) : ∃ e' ∈ rowEntries sqlText os' r', e'.itemKey = e.itemKey := by
  unfold rowEntries at he ⊢
  rw [hid, hos]
  split at he
  · rw [mem_singleton.1 he]
    exact ⟨_, mem_singleton_self _, rowKey_samePlace hid hepoch h⟩
  · obtain ⟨o, ho, rfl⟩ := mem_map.1 he
    exact ⟨ownedEntry r' o, mem_map_of_mem ho, rfl⟩

theorem windowItem_rewrite (inv : LogInv log) {watermark : Nat → Nat} (hr : r ∈ log.rows) (hid : r'.id = r.id)
    (hepoch : r'.executionEpoch = r.executionEpoch) (hsequence : r'.sequence = r.sequence)
    (hc : r'.changeSequence = some (allocateChangeSequence log)) (hplace : SamePlace r r' ∨ SameOperation r r')
    (inv' : LogInv ⟨allocateChangeSequence log, updateRow log r.id (fun _ => r'), log.activities, watermark⟩)
    (hit : it ∈ windowItems sqlText ⟨allocateChangeSequence log, updateRow log r.id (fun _ => r'), log.activities, watermark⟩) :
    it ∈ windowItems sqlText log ∨ log.changeCounter < it.changeSequence := by
  have hr' : r' ∈ updateRow log r.id (fun _ => r') := (inv.mem_rewrite hr).2 (.inl rfl)
  refine itemsOf_of_agree (entries_filter_congr inv inv' (filter_updateRow hid) (fun _ _ => rfl)) (fun e he heid => ?_)
    (fun e he heid e' he' hk => ?_) hit
  · obtain ⟨x, hx, -, hxe⟩ := mem_entries.1 he
    obtain ⟨hxid, hxc, -⟩ := mem_rowEntries hxe
    have hxr : x = r' := inv'.eq_of_id hx hr' (hxid.symm.trans (heid.trans hid.symm))
    exact ⟨_, hxc.trans (hxr ▸ hc), lt_allocateChangeSequence log⟩
  · obtain ⟨x, hx, hxv, hxe⟩ := mem_entries.1 he
    obtain rfl : x = r := inv.eq_of_id hx hr ((mem_rowEntries hxe).1.symm.trans heid)
    rcases hplace with hplace | ⟨-, o, o', ho, ho', hoid, -, -⟩
    · have hunified := unifiedActivity_samePlace hid hepoch hsequence hplace
      have hown : (executionActivity ⟨allocateChangeSequence log, updateRow log x.id (fun _ => r'), log.activities, watermark⟩)
          = executionActivity log := by
        rw [executionActivity, executionActivity, updateRow, filterMap_map]
        refine congrArg _ (filterMap_congr (fun y hy => ?_))
        by_cases hyid : y.id = x.id
        · rw [Function.comp_apply, if_pos hyid, hunified, inv.eq_of_id hy hr hyid]
        · rw [Function.comp_apply, if_neg hyid]
      have hos : owners ⟨allocateChangeSequence log, updateRow log x.id (fun _ => r'), log.activities, watermark⟩
          = owners log := by
        rw [owners, owners, rankedActivities_eq inv, rankedActivities_eq inv', hown]
      obtain ⟨e'', he'', hk''⟩ := exists_entry_samePlace hid hepoch hplace (congrArg _ hos) hxe
      have hvisible : visible r' = true := by
        rw [visible, hplace.2.1, hplace.2.2.1]
        exact hxv
      exact ⟨e'', mem_entries.2 ⟨r', hr', hvisible, he''⟩, hk'', ((mem_rowEntries he'').1.trans hid)⟩
    · refine ⟨e', he', hk, ?_⟩
      rw [operationKey_of_lifecycle inv hr ho hxe, ← hoid, ← hepoch] at hk
      exact (id_of_operationKey inv' hr' ho' he' hk).trans hid

theorem windowItems_digest (inv : LogInv log) (hr : r ∈ log.rows) (ho : r.operation = some o)
    (d : Option String) :
    windowItems sqlText { log with
      rows := updateRow log r.id (fun _ => { r with operation := some { o with resultDigest := d } }) }
      = windowItems sqlText log := by
  have hrow : ∀ {β : Type} (f : EvidenceRow → β), f { r with operation := some { o with resultDigest := d } } = f r →
      ∀ y ∈ log.rows, f (if y.id = r.id then { r with operation := some { o with resultDigest := d } } else y) = f y := by
    intro β f hf y hy
    by_cases hyid : y.id = r.id
    · rw [if_pos hyid, hf, inv.eq_of_id hy hr hyid]
    · rw [if_neg hyid]
  have hown : owners { log with
      rows := updateRow log r.id (fun _ => { r with operation := some { o with resultDigest := d } }) } = owners log := by
    have hacts : executionActivity { log with
        rows := updateRow log r.id (fun _ => { r with operation := some { o with resultDigest := d } }) }
        = executionActivity log := by
      rw [executionActivity, executionActivity, updateRow, filterMap_map]
      refine congrArg _ (filterMap_congr (fun y hy => hrow unifiedActivity ?_ y hy))
      simp [unifiedActivity, ho]
    simp [owners, rankedActivities, hacts]
  refine congrArg itemsOf ?_
  rw [entries, entries, hown, updateRow, filter_map, flatMap_map]
  have hvisible : log.rows.filter (visible ∘ fun y =>
      if y.id = r.id then { r with operation := some { o with resultDigest := d } } else y) = log.rows.filter visible :=
    filter_congr (fun y hy => hrow visible rfl y hy)
  rw [hvisible]
  exact flatMap_congr (fun y hy => hrow (rowEntries sqlText (owners log)) rfl y (mem_filter.1 hy).1)

/-- **Each item after a row write stood before it, or its change sequence is above every earlier one.** -/
theorem windowItem_rowWrite {text : Bool} (inv : LogInv log) (h : RowWrite text log log')
    (hit : it ∈ windowItems sqlText log') : it ∈ windowItems sqlText log ∨ log.changeCounter < it.changeSequence := by
  have inv' := inv.rowWrite h
  cases h with
  | insert r activities watermark fresh changed plain joined =>
    exact windowItem_append inv inv' fresh changed (fun x hx => ownersOf_joined joined hx) hit
  | insertOperation r o watermark fresh changed =>
    exact windowItem_append inv inv' fresh changed (fun _ _ => rfl) hit
  | rewrite r r' watermark mem sameId sameEpoch sameSequence changed place =>
    exact windowItem_rewrite inv mem sameId sameEpoch sameSequence changed (place.imp_left And.left) inv' hit
  | digest r o d mem own =>
    rw [windowItems_digest inv mem own d] at hit
    exact .inl hit

theorem changeCounter_rowWrite {text : Bool} (h : RowWrite text log log') : log.changeCounter ≤ log'.changeCounter := by
  cases h with
  | digest => exact Nat.le_refl _
  | _ => exact Nat.le_of_lt (lt_allocateChangeSequence log)

theorem windowItem_write (sqlText : Json → Option String) (store : ContentStore) (inv : LogInv log) (w : Write) :
    log.changeCounter ≤ (log.write store w).changeCounter ∧
      ∀ it ∈ windowItems sqlText (log.write store w), it ∈ windowItems sqlText log ∨ log.changeCounter < it.changeSequence := by
  refine (write_induction (P := fun l => log.changeCounter ≤ l.changeCounter ∧
    ∀ it ∈ windowItems sqlText l, it ∈ windowItems sqlText log ∨ log.changeCounter < it.changeSequence)
    w (fun l l' linv hstep hl => ?_) store inv ⟨Nat.le_refl _, fun it hit => .inl hit⟩).2
  refine ⟨Nat.le_trans hl.1 (changeCounter_rowWrite hstep), fun it hit => ?_⟩
  rcases windowItem_rowWrite linv hstep hit with h | h
  · exact hl.2 it h
  · exact .inr (Nat.lt_of_le_of_lt hl.1 h)

end

end Rovai
