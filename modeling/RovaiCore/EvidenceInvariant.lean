import Mathlib.Data.List.Nodup
import RovaiCore.OperationLifecycle
/-!
# What a row write can do to the log

`RowWrite` says once what the write of one row can do: append a row without an operation, append an operation's row, rewrite one
row under a fresh change sequence, or touch one row's result digest.
-/
namespace Rovai

open List

/-! ## What one row write does -/

def Joined (log : RunLog) (r : EvidenceRow) (activities : List ActivityRow) : Prop :=
  activities = log.activities ∨
    ∃ op, unifiedOperationExists log r.executionEpoch op = false ∧
      activities = upsertCanonicalActivity log.activities r.executionEpoch op r.id r.sequence

def SamePlace (r r' : EvidenceRow) : Prop :=
  r'.operation = r.operation ∧ r'.eventType = r.eventType ∧ r'.kind = r.kind ∧
    (r.eventType = "agent.text.block" ∨ r'.preview = r.preview)

def SameOperation (r r' : EvidenceRow) : Prop :=
  evidenceEventTypes.contains r'.eventType = true ∧
    ∃ o o', r.operation = some o ∧ r'.operation = some o' ∧ o'.operationId = o.operationId ∧
      o'.storageVersion = o.storageVersion ∧ o'.activityClassifier = o.activityClassifier.or (some .current)

inductive RowWrite (text : Bool) (log : RunLog) : RunLog → Prop
  | insert (r : EvidenceRow) (activities : List ActivityRow) (watermark : Nat → Nat) (fresh : idTaken log r.id = false)
      (changed : r.changeSequence = some (allocateChangeSequence log)) (plain : r.operation = none)
      (joined : Joined log r activities) (block : r.eventType = "agent.text.block" → text = true) :
      RowWrite text log ⟨allocateChangeSequence log, log.rows ++ [r], activities, watermark⟩
  | insertOperation (r : EvidenceRow) (o : Operation) (watermark : Nat → Nat) (fresh : idTaken log r.id = false)
      (changed : r.changeSequence = some (allocateChangeSequence log)) (own : r.operation = some o)
      (format : o.storageVersion = 4 ∧ o.activityClassifier = some .current)
      (recorded : evidenceEventTypes.contains r.eventType = true)
      (new : lifecycleRow log r.executionEpoch o.operationId = none)
      (started : legacyStarted log r.executionEpoch o.operationId = false) :
      RowWrite text log ⟨allocateChangeSequence log, log.rows ++ [r], log.activities, watermark⟩
  | rewrite (r r' : EvidenceRow) (watermark : Nat → Nat) (mem : r ∈ log.rows) (sameId : r'.id = r.id)
      (sameEpoch : r'.executionEpoch = r.executionEpoch) (sameSequence : r'.sequence = r.sequence)
      (changed : r'.changeSequence = some (allocateChangeSequence log))
      (place : SamePlace r r' ∧ (r.eventType = "agent.text.block" → text = true) ∨ SameOperation r r') :
      RowWrite text log ⟨allocateChangeSequence log, updateRow log r.id (fun _ => r'), log.activities, watermark⟩
  | digest (r : EvidenceRow) (o : Operation) (d : Option String) (mem : r ∈ log.rows) (own : r.operation = some o) :
      RowWrite text log { log with
        rows := updateRow log r.id (fun _ => { r with operation := some { o with resultDigest := d } }) }

/-! ## The invariant -/

structure LogInv (log : RunLog) : Prop where
  ids : log.rows.Pairwise (fun a b => a.id ≠ b.id)
  changes : ∀ r ∈ log.rows, ∃ c, r.changeSequence = some c ∧ c ≤ log.changeCounter
  distinct : log.rows.Pairwise (fun a b => a.changeSequence ≠ b.changeSequence)
  formats : ∀ r ∈ log.rows, ∀ o, r.operation = some o → o.storageVersion = 4 ∧ o.activityClassifier = some .current
  recorded : ∀ r ∈ log.rows, ∀ o, r.operation = some o → evidenceEventTypes.contains r.eventType = true
  lifecycles : log.rows.Pairwise (fun a b => ∀ oa ob, a.operation = some oa → b.operation = some ob →
    ¬ (a.executionEpoch = b.executionEpoch ∧ oa.operationId = ob.operationId))
  classifiers : ∀ a ∈ log.activities, a.classifierVersion = .current
  operations : log.activities.Pairwise (fun a b => ¬ (a.executionEpoch = b.executionEpoch ∧ a.operationId = b.operationId))
  sourced : ∀ a ∈ log.activities, a.sourceEvidenceIds ≠ []
  sources : ∀ a ∈ log.activities, ∀ id ∈ a.sourceEvidenceIds, ∃ r ∈ log.rows, r.id = id ∧ r.operation = none
  owners : log.activities.Pairwise (fun a b => ∀ id ∈ a.sourceEvidenceIds, id ∉ b.sourceEvidenceIds)
  apart : ∀ a ∈ log.activities, ∀ r ∈ log.rows, isLifecycleRow a.executionEpoch a.operationId r = false

theorem logInv_empty : LogInv RunLog.empty := by
  constructor <;> simp [RunLog.empty]

theorem idTaken_eq_false {log : RunLog} {id : EvidenceId} : idTaken log id = false ↔ ∀ r ∈ log.rows, r.id ≠ id := by
  simp [idTaken]

theorem isLifecycleRow_iff {epoch : Nat} {op : String} {r : EvidenceRow} :
    isLifecycleRow epoch op r = true ↔ r.executionEpoch = epoch ∧ ∃ o, r.operation = some o ∧ o.operationId = op := by
  cases h : r.operation <;> simp [isLifecycleRow, h]

theorem isLifecycleRow_plain {epoch : Nat} {op : String} {r : EvidenceRow} (h : r.operation = none) :
    isLifecycleRow epoch op r = false := by
  simp [isLifecycleRow, h]

theorem pairwise_ne {α : Type} {R : α → α → Prop} {l : List α} (h : l.Pairwise R) {a b : α} (ha : a ∈ l) (hb : b ∈ l)
    (hne : a ≠ b) : R a b ∨ R b a := by
  induction h with
  | nil => cases ha
  | cons hx _ ih =>
    rcases mem_cons.1 ha with rfl | ha'
    · rcases mem_cons.1 hb with rfl | hb'
      · exact absurd rfl hne
      · exact .inl (hx b hb')
    · rcases mem_cons.1 hb with rfl | hb'
      · exact .inr (hx a ha')
      · exact ih ha' hb'

theorem ActivityRow.mem_join {a : ActivityRow} {id x : EvidenceId} :
    x ∈ (a.join id).sourceEvidenceIds ↔ x ∈ a.sourceEvidenceIds ∨ x = id := by
  simp only [ActivityRow.join]
  split
  · rename_i h
    rw [contains_iff_mem] at h
    exact ⟨.inl, fun hx => hx.elim (fun hx => hx) (fun hx => hx ▸ h)⟩
  · simp

theorem ActivityRow.join_sourced {a : ActivityRow} {id : EvidenceId} (h : a.sourceEvidenceIds ≠ []) :
    (a.join id).sourceEvidenceIds ≠ [] := by
  simp only [ActivityRow.join]
  split <;> simp [h]

theorem bestActivity_eq_some_of : ∀ {activities : List ActivityRow},
    activities.Pairwise (fun a b => ¬ (a.executionEpoch = b.executionEpoch ∧ a.operationId = b.operationId)) →
    ∀ {epoch : Nat} {op : String} {a : ActivityRow}, bestActivity activities epoch op = some a ↔
      a ∈ activities ∧ a.executionEpoch = epoch ∧ a.operationId = op
  | [], _, _, _, _ => by simp [bestActivity]
  | b :: activities, h, epoch, op, a => by
    obtain ⟨hb, hrest⟩ := pairwise_cons.1 h
    by_cases hbo : b.executionEpoch = epoch ∧ b.operationId = op
    · have hnil : activities.filter (fun a => a.executionEpoch = epoch && a.operationId = op) = [] := by
        rw [filter_eq_nil_iff]
        intro x hx hxo
        simp only [Bool.and_eq_true, decide_eq_true_eq] at hxo
        exact hb x hx ⟨by rw [hbo.1, hxo.1], by rw [hbo.2, hxo.2]⟩
      have hbest : bestActivity (b :: activities) epoch op = some b := by
        rw [bestActivity, filter_cons_of_pos (by simp [hbo]), hnil]
        rfl
      rw [hbest, Option.some.injEq]
      constructor
      · rintro rfl
        exact ⟨mem_cons_self .., hbo⟩
      · rintro ⟨ha, hao⟩
        rcases mem_cons.1 ha with h | h
        · exact h.symm
        · exact absurd ⟨by rw [hbo.1, hao.1], by rw [hbo.2, hao.2]⟩ (hb a h)
    · have hbest : bestActivity (b :: activities) epoch op = bestActivity activities epoch op := by
        rw [bestActivity, bestActivity, filter_cons_of_neg (by simpa using hbo)]
      rw [hbest, bestActivity_eq_some_of hrest, mem_cons]
      constructor
      · rintro ⟨ha, hao⟩
        exact ⟨.inr ha, hao⟩
      · rintro ⟨rfl | ha, hao⟩
        · exact absurd hao hbo
        · exact ⟨ha, hao⟩

namespace LogInv

variable {log : RunLog} {r r' : EvidenceRow}

theorem eq_of_id (inv : LogInv log) {a b : EvidenceRow} (ha : a ∈ log.rows) (hb : b ∈ log.rows) (h : a.id = b.id) :
    a = b :=
  inj_on_of_nodup_map (f := fun x : EvidenceRow => x.id) (pairwise_map.2 inv.ids) ha hb h

theorem eq_of_lifecycle (inv : LogInv log) {a b : EvidenceRow} (ha : a ∈ log.rows) (hb : b ∈ log.rows) {oa ob : Operation}
    (hoa : a.operation = some oa) (hob : b.operation = some ob)
    (h : a.executionEpoch = b.executionEpoch ∧ oa.operationId = ob.operationId) : a = b := by
  by_contra hne
  rcases pairwise_ne inv.lifecycles ha hb hne with hab | hba
  · exact hab oa ob hoa hob h
  · exact hba ob oa hob hoa ⟨h.1.symm, h.2.symm⟩

variable {x : EvidenceRow}

theorem lt_allocate (inv : LogInv log) (hx : x ∈ log.rows) {c : Nat} (h : x.changeSequence = some c) :
    c < allocateChangeSequence log := by
  obtain ⟨d, hd, hle⟩ := inv.changes x hx
  rw [hd, Option.some.injEq] at h
  have := lt_allocateChangeSequence log
  omega

theorem not_allocated (inv : LogInv log) (hx : x ∈ log.rows) :
    x.changeSequence ≠ some (allocateChangeSequence log) := fun h => by
  have := inv.lt_allocate hx h
  omega

variable {a : ActivityRow}

theorem source_ne (inv : LogInv log) (hfresh : idTaken log r.id = false) (ha : a ∈ log.activities) :
    r.id ∉ a.sourceEvidenceIds := fun h => by
  obtain ⟨x, hx, hid, -⟩ := inv.sources a ha _ h
  exact idTaken_eq_false.1 hfresh x hx hid

/-! ## Appending a row -/

theorem ids_append (inv : LogInv log) (hfresh : idTaken log r.id = false) :
    (log.rows ++ [r]).Pairwise (fun a b => a.id ≠ b.id) := by
  rw [pairwise_append]
  refine ⟨inv.ids, pairwise_singleton _ _, fun a ha b hb => ?_⟩
  rw [mem_singleton.1 hb]
  exact idTaken_eq_false.1 hfresh a ha

theorem changes_append (inv : LogInv log) (hc : r.changeSequence = some (allocateChangeSequence log)) :
    ∀ x ∈ log.rows ++ [r], ∃ c, x.changeSequence = some c ∧ c ≤ allocateChangeSequence log := by
  intro x hx
  rcases mem_append.1 hx with h | h
  · obtain ⟨c, hc, -⟩ := inv.changes x h
    exact ⟨c, hc, Nat.le_of_lt (inv.lt_allocate h hc)⟩
  · rw [mem_singleton.1 h]
    exact ⟨_, hc, Nat.le_refl _⟩

theorem distinct_append (inv : LogInv log) (hc : r.changeSequence = some (allocateChangeSequence log)) :
    (log.rows ++ [r]).Pairwise (fun a b => a.changeSequence ≠ b.changeSequence) := by
  rw [pairwise_append]
  refine ⟨inv.distinct, pairwise_singleton _ _, fun a ha b hb => ?_⟩
  rw [mem_singleton.1 hb, hc]
  exact inv.not_allocated ha

theorem sources_append (inv : LogInv log) :
    ∀ a ∈ log.activities, ∀ id ∈ a.sourceEvidenceIds, ∃ x ∈ log.rows ++ [r], x.id = id ∧ x.operation = none := by
  intro a ha id hid
  obtain ⟨x, hx, h⟩ := inv.sources a ha id hid
  exact ⟨x, mem_append_left _ hx, h⟩

/-! ## Rewriting a row -/

theorem mem_updateRow {f : EvidenceRow → EvidenceRow} {id : EvidenceId} :
    x ∈ updateRow log id f ↔ ∃ y ∈ log.rows, (if y.id = id then f y else y) = x := by
  simp [updateRow]

theorem mem_rewrite (inv : LogInv log) (hr : r ∈ log.rows) :
    x ∈ updateRow log r.id (fun _ => r') ↔ x = r' ∨ (x ∈ log.rows ∧ x ≠ r) := by
  rw [mem_updateRow]
  constructor
  · rintro ⟨y, hy, rfl⟩
    split
    · exact .inl rfl
    rename_i hid
    exact .inr ⟨hy, fun h => hid (h ▸ rfl)⟩
  · rintro (rfl | ⟨hx, hne⟩)
    · exact ⟨r, hr, if_pos rfl⟩
    · exact ⟨x, hx, if_neg (fun h => hne (inv.eq_of_id hx hr h))⟩

theorem pairwise_rewrite {R : EvidenceRow → EvidenceRow → Prop} (inv : LogInv log)
    (h : log.rows.Pairwise R) (hleft : ∀ x ∈ log.rows, x ≠ r → R r' x) (hright : ∀ x ∈ log.rows, x ≠ r → R x r') :
    (updateRow log r.id (fun _ => r')).Pairwise R := by
  refine pairwise_map.2 ((h.and inv.ids).imp_of_mem fun {a b} ha hb hab => ?_)
  by_cases h1 : a.id = r.id
  · have h2 : b.id ≠ r.id := fun h2 => hab.2 (h1.trans h2.symm)
    rw [if_pos h1, if_neg h2]
    exact hleft b hb (fun h => h2 (h ▸ rfl))
  · rw [if_neg h1]
    by_cases h2 : b.id = r.id
    · rw [if_pos h2]
      exact hright a ha (fun h => h1 (h ▸ rfl))
    · rw [if_neg h2]
      exact hab.1

theorem updateRow_eq (inv : LogInv log) (hr : r ∈ log.rows) (f : EvidenceRow → EvidenceRow) :
    updateRow log r.id f = updateRow log r.id (fun _ => f r) := by
  unfold updateRow
  refine map_congr_left (fun y hy => ?_)
  by_cases h : y.id = r.id
  · rw [if_pos h, if_pos h, inv.eq_of_id hy hr h]
  · rw [if_neg h, if_neg h]

/-! ## Activities -/

variable {epoch : Nat} {op : String}

theorem bestActivity_eq_some (inv : LogInv log) :
    bestActivity log.activities epoch op = some a ↔
      a ∈ log.activities ∧ a.executionEpoch = epoch ∧ a.operationId = op :=
  bestActivity_eq_some_of inv.operations

theorem mem_upsert (inv : LogInv log) {id : EvidenceId} {n : Nat}
    (h : a ∈ upsertCanonicalActivity log.activities epoch op id n) :
    a ∈ log.activities ∨ (∃ b ∈ log.activities, a = b.join id) ∨
      (a = newActivity epoch op id n ∧ ∀ b ∈ log.activities, ¬ (b.executionEpoch = epoch ∧ b.operationId = op)) := by
  unfold upsertCanonicalActivity at h
  cases hb : bestActivity log.activities epoch op with
  | some best =>
    rw [hb] at h
    obtain ⟨b, hbm, rfl⟩ := mem_map.1 h
    by_cases hbb : b = best
    · rw [if_pos hbb]
      exact .inr (.inl ⟨b, hbm, rfl⟩)
    · rw [if_neg hbb]
      exact .inl hbm
  | none =>
    rw [hb] at h
    rcases mem_append.1 h with h | h
    · exact .inl h
    refine .inr (.inr ⟨mem_singleton.1 h, fun b hbm hbo => ?_⟩)
    rw [(inv.bestActivity_eq_some).2 ⟨hbm, hbo⟩] at hb
    cases hb

theorem classifiers_upsert (inv : LogInv log) (epoch : Nat) (op : String) (id : EvidenceId) (n : Nat) :
    ∀ a ∈ upsertCanonicalActivity log.activities epoch op id n, a.classifierVersion = .current := by
  intro a ha
  rcases inv.mem_upsert ha with h | ⟨b, hb, rfl⟩ | ⟨rfl, -⟩
  · exact inv.classifiers a h
  · exact inv.classifiers b hb
  · rfl

theorem sourced_upsert (inv : LogInv log) (epoch : Nat) (op : String) (id : EvidenceId) (n : Nat) :
    ∀ a ∈ upsertCanonicalActivity log.activities epoch op id n, a.sourceEvidenceIds ≠ [] := by
  intro a ha
  rcases inv.mem_upsert ha with h | ⟨b, hb, rfl⟩ | ⟨rfl, -⟩
  · exact inv.sourced a h
  · exact ActivityRow.join_sourced (inv.sourced b hb)
  · simp [newActivity]

theorem sources_upsert (inv : LogInv log) (epoch : Nat) (op : String) (n : Nat) (hplain : r.operation = none) :
    ∀ a ∈ upsertCanonicalActivity log.activities epoch op r.id n, ∀ id ∈ a.sourceEvidenceIds,
      ∃ x ∈ log.rows ++ [r], x.id = id ∧ x.operation = none := by
  intro a ha id hid
  rcases inv.mem_upsert ha with h | ⟨b, hb, rfl⟩ | ⟨rfl, -⟩
  · exact inv.sources_append a h id hid
  · rcases ActivityRow.mem_join.1 hid with h | rfl
    · exact inv.sources_append b hb id h
    · exact ⟨r, by simp, rfl, hplain⟩
  · rw [mem_singleton.1 hid]
    exact ⟨r, by simp, rfl, hplain⟩

theorem operations_upsert (inv : LogInv log) (epoch : Nat) (op : String) (id : EvidenceId) (n : Nat) :
    (upsertCanonicalActivity log.activities epoch op id n).Pairwise
      (fun a b => ¬ (a.executionEpoch = b.executionEpoch ∧ a.operationId = b.operationId)) := by
  unfold upsertCanonicalActivity
  split
  · refine pairwise_map.2 (inv.operations.imp fun {a b} hab => ?_)
    split <;> split <;> exact hab
  · rename_i hb
    rw [pairwise_append]
    refine ⟨inv.operations, pairwise_singleton _ _, fun a ha b hbm hab => ?_⟩
    rw [mem_singleton.1 hbm] at hab
    have hbest : bestActivity log.activities epoch op = some a := inv.bestActivity_eq_some.2 ⟨ha, hab⟩
    rw [hb] at hbest
    cases hbest

theorem owners_upsert (inv : LogInv log) (epoch : Nat) (op : String) (n : Nat) (hfresh : idTaken log r.id = false) :
    (upsertCanonicalActivity log.activities epoch op r.id n).Pairwise
      (fun a b => ∀ id ∈ a.sourceEvidenceIds, id ∉ b.sourceEvidenceIds) := by
  unfold upsertCanonicalActivity
  split
  · rename_i best _
    refine pairwise_map.2 ((inv.operations.and inv.owners).imp_of_mem fun {a b} ha hb hab => ?_)
    by_cases h1 : a = best
    · have h2 : b ≠ best := fun h2 => hab.1 (by rw [h1, h2]; exact ⟨rfl, rfl⟩)
      rw [if_pos h1, if_neg h2]
      intro id hid
      rcases ActivityRow.mem_join.1 hid with h | rfl
      · exact hab.2 id h
      · exact inv.source_ne hfresh hb
    · rw [if_neg h1]
      split
      · intro id hid hid'
        rcases ActivityRow.mem_join.1 hid' with h | rfl
        · exact hab.2 id hid h
        · exact inv.source_ne hfresh ha hid
      · exact hab.2
  · rw [pairwise_append]
    refine ⟨inv.owners, pairwise_singleton _ _, fun a ha b hb id hid hid' => ?_⟩
    rw [mem_singleton.1 hb] at hid'
    rw [mem_singleton.1 hid'] at hid
    exact inv.source_ne hfresh ha hid

theorem not_lifecycle_of_not_unified (inv : LogInv log)
    (h : unifiedOperationExists log epoch op = false) (hx : x ∈ log.rows) :
    isLifecycleRow epoch op x = false := by
  rw [unifiedOperationExists, any_eq_false] at h
  by_contra hl
  rw [Bool.not_eq_false] at hl
  obtain ⟨-, o, ho, -⟩ := isLifecycleRow_iff.1 hl
  refine h x hx ?_
  rw [hl, ho]
  simp [(inv.formats x hx o ho).1]

theorem apart_upsert (inv : LogInv log) (n : Nat)
    (h : unifiedOperationExists log epoch op = false) (hplain : r.operation = none) :
    ∀ a ∈ upsertCanonicalActivity log.activities epoch op r.id n, ∀ x ∈ log.rows ++ [r],
      isLifecycleRow a.executionEpoch a.operationId x = false := by
  intro a ha x hx
  rcases mem_append.1 hx with hx | hx
  · rcases inv.mem_upsert ha with h' | ⟨b, hb, rfl⟩ | ⟨rfl, -⟩
    · exact inv.apart a h' x hx
    · exact inv.apart b hb x hx
    · exact inv.not_lifecycle_of_not_unified h hx
  · rw [mem_singleton.1 hx]
    exact isLifecycleRow_plain hplain

/-! ## Preservation -/

theorem insert (inv : LogInv log) {activities : List ActivityRow} (watermark : Nat → Nat)
    (hfresh : idTaken log r.id = false) (hc : r.changeSequence = some (allocateChangeSequence log))
    (hplain : r.operation = none) (hjoined : Joined log r activities) :
    LogInv ⟨allocateChangeSequence log, log.rows ++ [r], activities, watermark⟩ := by
  have hformats : ∀ x ∈ log.rows ++ [r], ∀ o, x.operation = some o →
      o.storageVersion = 4 ∧ o.activityClassifier = some .current := by
    intro x hx o ho
    rcases mem_append.1 hx with h | h
    · exact inv.formats x h o ho
    rw [mem_singleton.1 h, hplain] at ho
    cases ho
  have hlifecycles : (log.rows ++ [r]).Pairwise (fun a b => ∀ oa ob, a.operation = some oa → b.operation = some ob →
      ¬ (a.executionEpoch = b.executionEpoch ∧ oa.operationId = ob.operationId)) := by
    rw [pairwise_append]
    refine ⟨inv.lifecycles, pairwise_singleton _ _, fun a _ b hb oa ob _ hob => ?_⟩
    rw [mem_singleton.1 hb, hplain] at hob
    cases hob
  have hrecorded : ∀ x ∈ log.rows ++ [r], ∀ o, x.operation = some o → evidenceEventTypes.contains x.eventType = true := by
    intro x hx o ho
    rcases mem_append.1 hx with h | h
    · exact inv.recorded x h o ho
    rw [mem_singleton.1 h, hplain] at ho
    cases ho
  rcases hjoined with rfl | ⟨op, hop, rfl⟩
  · refine ⟨inv.ids_append hfresh, inv.changes_append hc, inv.distinct_append hc, hformats, hrecorded, hlifecycles, inv.classifiers,
      inv.operations, inv.sourced, inv.sources_append, inv.owners, fun a ha x hx => ?_⟩
    rcases mem_append.1 hx with h | h
    · exact inv.apart a ha x h
    rw [mem_singleton.1 h]
    exact isLifecycleRow_plain hplain
  · exact ⟨inv.ids_append hfresh, inv.changes_append hc, inv.distinct_append hc, hformats, hrecorded, hlifecycles,
      inv.classifiers_upsert _ _ _ _, inv.operations_upsert _ _ _ _, inv.sourced_upsert _ _ _ _,
      inv.sources_upsert _ _ _ hplain, inv.owners_upsert _ _ _ hfresh, inv.apart_upsert _ hop hplain⟩

theorem no_activity (inv : LogInv log) (h : legacyStarted log epoch op = false) :
    ∀ a ∈ log.activities, ¬ (a.executionEpoch = epoch ∧ a.operationId = op) := by
  intro a ha hao
  rw [legacyStarted, any_eq_false] at h
  obtain ⟨id, hid⟩ := exists_mem_of_ne_nil _ (inv.sourced a ha)
  obtain ⟨x, hx, hxid, hplain⟩ := inv.sources a ha id hid
  refine h a ha ?_
  simp only [hao, decide_true, Bool.and_true, Bool.true_and, any_eq_true, Bool.and_eq_true, decide_eq_true_eq]
  exact ⟨id, hid, x, hx, hxid, by simp [hplain]⟩

theorem insertOperation (inv : LogInv log) {o : Operation} (watermark : Nat → Nat) (hfresh : idTaken log r.id = false)
    (hc : r.changeSequence = some (allocateChangeSequence log)) (ho : r.operation = some o)
    (hformat : o.storageVersion = 4 ∧ o.activityClassifier = some .current)
    (hrecorded : evidenceEventTypes.contains r.eventType = true)
    (hnew : lifecycleRow log r.executionEpoch o.operationId = none)
    (hstarted : legacyStarted log r.executionEpoch o.operationId = false) :
    LogInv ⟨allocateChangeSequence log, log.rows ++ [r], log.activities, watermark⟩ := by
  refine ⟨inv.ids_append hfresh, inv.changes_append hc, inv.distinct_append hc, fun x hx o' ho' => ?_,
    fun x hx o' ho' => ?_, ?_, inv.classifiers, inv.operations, inv.sourced, inv.sources_append, inv.owners,
    fun a ha x hx => ?_⟩
  · rcases mem_append.1 hx with h | h
    · exact inv.formats x h o' ho'
    rw [mem_singleton.1 h, ho, Option.some.injEq] at ho'
    exact ho' ▸ hformat
  · rcases mem_append.1 hx with h | h
    · exact inv.recorded x h o' ho'
    · exact mem_singleton.1 h ▸ hrecorded
  · rw [pairwise_append]
    refine ⟨inv.lifecycles, pairwise_singleton _ _, fun a ha b hb oa ob hoa hob hab => ?_⟩
    rw [mem_singleton.1 hb] at hob hab
    rw [ho, Option.some.injEq] at hob
    refine find?_eq_none.1 hnew a ha (isLifecycleRow_iff.2 ⟨hab.1, oa, hoa, ?_⟩)
    rw [hab.2, hob]
  · rcases mem_append.1 hx with h | h
    · exact inv.apart a ha x h
    rw [mem_singleton.1 h, ← Bool.not_eq_true, isLifecycleRow_iff]
    rintro ⟨he, o', ho', hop⟩
    rw [ho, Option.some.injEq] at ho'
    exact inv.no_activity hstarted a ha ⟨he.symm, by rw [ho', hop]⟩

theorem operation_rewrite (inv : LogInv log) (hr : r ∈ log.rows) (hplace : SamePlace r r' ∨ SameOperation r r') {o' : Operation}
    (ho' : r'.operation = some o') :
    ∃ o, r.operation = some o ∧ o'.operationId = o.operationId ∧ o'.storageVersion = 4 ∧
      o'.activityClassifier = some .current := by
  rcases hplace with ⟨hop, -⟩ | ⟨-, o, o'', ho, ho'', hid, hv, hc⟩
  · rw [hop] at ho'
    exact ⟨o', ho', rfl, inv.formats r hr o' ho'⟩
  · rw [ho', Option.some.injEq] at ho''
    obtain ⟨hf1, hf2⟩ := inv.formats r hr o ho
    exact ⟨o, ho, by rw [ho'', hid], by rw [ho'', hv, hf1], by rw [ho'', hc, hf2]; rfl⟩

theorem plain_rewrite (hplace : SamePlace r r' ∨ SameOperation r r') (h : r.operation = none) : r'.operation = none := by
  rcases hplace with ⟨hop, -⟩ | ⟨-, o, -, ho, -⟩
  · rw [hop, h]
  rw [h] at ho
  cases ho

theorem recorded_rewrite (inv : LogInv log) (hr : r ∈ log.rows) (hplace : SamePlace r r' ∨ SameOperation r r') {o' : Operation}
    (ho' : r'.operation = some o') : evidenceEventTypes.contains r'.eventType = true := by
  rcases hplace with ⟨hop, htype, -⟩ | ⟨h, -⟩
  · rw [htype]
    exact inv.recorded r hr o' (hop ▸ ho')
  · exact h

theorem rewrite_rows (inv : LogInv log) {counter : Nat} (watermark : Nat → Nat) (hr : r ∈ log.rows) (hid : r'.id = r.id)
    (hepoch : r'.executionEpoch = r.executionEpoch)
    (hc : ∃ c, r'.changeSequence = some c ∧ c ≤ counter ∧ ∀ x ∈ log.rows, x ≠ r → x.changeSequence ≠ some c)
    (hcounter : log.changeCounter ≤ counter)
    (hop : ∀ o', r'.operation = some o' → ∃ o, r.operation = some o ∧ o'.operationId = o.operationId ∧
      o'.storageVersion = 4 ∧ o'.activityClassifier = some .current)
    (hrecorded : ∀ o', r'.operation = some o' → evidenceEventTypes.contains r'.eventType = true)
    (hplain : r.operation = none → r'.operation = none) :
    LogInv ⟨counter, updateRow log r.id (fun _ => r'), log.activities, watermark⟩ := by
  obtain ⟨c, hc, hle, hother⟩ := hc
  refine ⟨?_, ?_, ?_, ?_, ?_, ?_, inv.classifiers, inv.operations, inv.sourced, ?_, inv.owners, ?_⟩
  · refine inv.pairwise_rewrite inv.ids (fun x hx hne h => ?_) (fun x hx hne h => ?_)
    · exact hne (inv.eq_of_id hx hr (by rw [← h, hid]))
    · exact hne (inv.eq_of_id hx hr (by rw [h, hid]))
  · intro x hx
    rcases (inv.mem_rewrite hr).1 hx with rfl | ⟨hx, -⟩
    · exact ⟨c, hc, hle⟩
    obtain ⟨d, hd, hd'⟩ := inv.changes x hx
    exact ⟨d, hd, Nat.le_trans hd' hcounter⟩
  · refine inv.pairwise_rewrite inv.distinct (fun x hx hne => ?_) (fun x hx hne => ?_)
    · rw [hc]
      exact (hother x hx hne).symm
    · rw [hc]
      exact hother x hx hne
  · intro x hx o ho
    rcases (inv.mem_rewrite hr).1 hx with rfl | ⟨hx, -⟩
    · obtain ⟨-, -, -, h⟩ := hop o ho
      exact h
    · exact inv.formats x hx o ho
  · intro x hx o ho
    rcases (inv.mem_rewrite hr).1 hx with rfl | ⟨hx, -⟩
    · exact hrecorded o ho
    · exact inv.recorded x hx o ho
  · refine inv.pairwise_rewrite inv.lifecycles (fun x hx hne oa ob hoa hob hab => ?_) (fun x hx hne oa ob hoa hob hab => ?_)
    · obtain ⟨o, ho, he, -⟩ := hop oa hoa
      exact hne (inv.eq_of_lifecycle hx hr hob ho ⟨by rw [← hab.1, hepoch], by rw [← hab.2, he]⟩)
    · obtain ⟨o, ho, he, -⟩ := hop ob hob
      exact hne (inv.eq_of_lifecycle hx hr hoa ho ⟨by rw [hab.1, hepoch], by rw [hab.2, he]⟩)
  · intro a ha id hid'
    obtain ⟨x, hx, hxid, hxp⟩ := inv.sources a ha id hid'
    by_cases h : x = r
    · refine ⟨r', (inv.mem_rewrite hr).2 (.inl rfl), by rw [hid, ← h, hxid], hplain (h ▸ hxp)⟩
    · exact ⟨x, (inv.mem_rewrite hr).2 (.inr ⟨hx, h⟩), hxid, hxp⟩
  · intro a ha x hx
    rcases (inv.mem_rewrite hr).1 hx with rfl | ⟨hx, -⟩
    · rw [← Bool.not_eq_true, isLifecycleRow_iff]
      rintro ⟨he, o', ho', hid'⟩
      obtain ⟨o, ho, hoid, -⟩ := hop o' ho'
      have := inv.apart a ha r hr
      rw [← Bool.not_eq_true, isLifecycleRow_iff] at this
      exact this ⟨by rw [← hepoch, he], o, ho, by rw [← hoid, hid']⟩
    · exact inv.apart a ha x hx

theorem rowWrite {text : Bool} {log' : RunLog} (inv : LogInv log) (h : RowWrite text log log') : LogInv log' := by
  cases h with
  | insert r activities watermark fresh changed plain joined => exact inv.insert watermark fresh changed plain joined
  | insertOperation r o watermark fresh changed own format recorded new started =>
    exact inv.insertOperation watermark fresh changed own format recorded new started
  | rewrite r r' watermark mem sameId sameEpoch sameSequence changed place =>
    have place := place.imp_left And.left
    exact inv.rewrite_rows watermark mem sameId sameEpoch
      ⟨_, changed, Nat.le_refl _, fun x hx _ => inv.not_allocated hx⟩ (Nat.le_of_lt (lt_allocateChangeSequence log))
      (fun o' ho' => inv.operation_rewrite mem place ho') (fun o' ho' => inv.recorded_rewrite mem place ho')
      (plain_rewrite place)
  | digest r o d mem own =>
    obtain ⟨c, hc, hle⟩ := inv.changes r mem
    refine inv.rewrite_rows log.watermark mem rfl rfl ⟨c, hc, hle, fun x hx hne h => ?_⟩ (Nat.le_refl _) ?_ ?_ ?_
    · rcases pairwise_ne inv.distinct hx mem hne with hd | hd
      · exact hd (h.trans hc.symm)
      · exact hd (hc.trans h.symm)
    · intro o' ho'
      rw [Option.some.injEq] at ho'
      exact ⟨o, own, by rw [← ho'], by rw [← ho']; exact inv.formats r mem o own⟩
    · exact fun _ _ => inv.recorded r mem o own
    · intro h
      rw [own] at h
      cases h

end LogInv

end Rovai
