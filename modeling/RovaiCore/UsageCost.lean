import RovaiCore.UsageLedger
import RovaiCore.DecimalMoney
import Mathlib.Data.Finset.Sort
import Mathlib.Data.Prod.Lex
/-!
# The cost of a run (`update_best_run_cost`, `load_run_cost`)

A run keeps one cost: the sum of the reports of the best quality it has seen.
-/
namespace Rovai.Usage

open List

/-! ## Quality -/

def costQualityRank (value : String) : Nat :=
  if value = "runtime_reported" then 4
  else if value = "runtime_estimate" then 3
  else if value = "price_estimated" ∨ value = "price_catalog" then 2
  else if value = "tokenizer_price_estimated" then 1
  else 0

structure RunCost where
  (amount currency kind source : String)

def updateBestRunCost (current : Option RunCost) (incoming : RuntimeUsageCost) : Except String (Option RunCost) :=
  let updated (amount : String) : Option RunCost :=
    some { amount := amount, currency := incoming.currency, kind := incoming.grain, source := incoming.quality }
  match current with
  | none => .ok (updated incoming.amount)
  | some cost =>
    if costQualityRank incoming.quality > costQualityRank cost.source then .ok (updated incoming.amount)
    else if cost.currency = incoming.currency ∧ cost.kind = incoming.grain ∧ cost.source = incoming.quality then do
      .ok (updated (← addDecimal cost.amount incoming.amount))
    else .ok current

/-! ## Recording -/

structure CostDatabase where
  usage : UsageDatabase
  costs : String → Option RunCost
  costBaselines : String × Nat × CheckpointKey → Option (String × String)

def costDelta (record : BufferedUsageRecord) (baseline : Option (String × String)) : Except String (Option RuntimeUsageCost) :=
  match record.usage.counterMode with
  | .delta => .ok record.usage.cost
  | .cumulative | .gauge =>
    match record.usage.cost, baseline with
    | some current, some (amount, currency) =>
      if currency = current.currency then do
        .ok (((← subtractDecimalNonnegative current.amount amount).filter fun amount => !decimalIsZero amount).map
          fun amount => { current with amount := amount })
      else .ok none
    | _, _ => .ok none

namespace CostDatabase

def counts (db : CostDatabase) (run : RuntimeUsageRun) (record : BufferedUsageRecord) : Bool :=
  (db.usage.summaries.find? run.key.agentRunId).isSome &&
    !(record.usage.scope = "session" && record.usage.counterMode = .gauge && !record.normalized.anyObserved &&
      record.usage.cost.isNone) &&
    !(db.usage.checkpoints.find? (run.key.agentRunId, run.key.executionEpoch, checkpointKey run record)).any
      (fun checkpoint => checkpoint.lastEventDigest = eventDigest record)

def countCost (db : CostDatabase) (run : RuntimeUsageRun) (record : BufferedUsageRecord) (usage : UsageDatabase) :
    Except String CostDatabase := do
  let key := (run.key.agentRunId, run.key.executionEpoch, checkpointKey run record)
  let delta ← costDelta record (db.costBaselines key)
  let cost ← match delta with
    | some incoming => updateBestRunCost (db.costs run.key.agentRunId) incoming
    | none => .ok (db.costs run.key.agentRunId)
  .ok
    { usage := usage
      costs := fun id => if id = run.key.agentRunId then cost else db.costs id
      costBaselines := fun k =>
        if k = key then record.usage.cost.map fun cost => (cost.amount, cost.currency) else db.costBaselines k }

section Record

variable (parseTime : String → Option Int) (now : String) (project : CostDatabase → RuntimeUsageRun → CostDatabase)

variable (db : CostDatabase)

def persist (run : RuntimeUsageRun) (record : BufferedUsageRecord) : Option CostDatabase :=
  (persistUsageRecord parseTime now db.usage run record).bind fun usage =>
    if db.counts run record then (db.countCost run record usage).toOption else some { db with usage := usage }

def projectCodexRunCost (run : RuntimeUsageRun) : CostDatabase :=
  if run.runtimeKind = .codexCli then project db run else db

def recordBatch (batch : RuntimeUsageFlushBatch) : Option CostDatabase :=
  (batch.records.foldlM (fun db record => persist parseTime now db batch.run record) db).map
    fun db => db.projectCodexRunCost project batch.run

def recordBatches (batches : List RuntimeUsageFlushBatch) : Option CostDatabase :=
  batches.foldlM (recordBatch parseTime now project) db

end Record
end CostDatabase

/-! ## Reading -/

def decimalSum (values : List String) : Except String (Option String) :=
  values.foldlM (fun accumulator value => do .ok (some (← addDecimal (accumulator.getD "0") value))) none

abbrev MoneyKey := Lex (String × Lex (String × String))

def RunCost.key (cost : RunCost) : MoneyKey := toLex (cost.currency, toLex (cost.kind, cost.source))

structure Money where
  key : MoneyKey
  amount : Option String

def loadRunCost (costKind : Option String) (rows : List (Option RunCost)) : Except String (List Money) :=
  let costs := (rows.filterMap id).filter fun cost => costKind.all (· = cost.kind)
  ((costs.map RunCost.key).toFinset.sort).mapM fun key => do
    .ok ⟨key, ← decimalSum ((costs.filter (·.key = key)).map (·.amount))⟩

/-! ## Sums -/

section Sums

theorem decimalSum_spec {values : List String} (h : ∀ v ∈ values, validateDecimal v = .ok ()) :
    ∃ s, decimalSum values = .ok s ∧ (s = none ↔ values = []) ∧
      ∀ t, s = some t → Normal t ∧ decimalValue t = (values.map decimalValue).sum := by
  have hzero : validateDecimal "0" = .ok () := rfl
  have hstart : decimalValue "0" = 0 := (decimalIsZero_iff hzero).1 rfl
  have key : ∀ (values : List String) (acc : Option String), (∀ v ∈ values, validateDecimal v = .ok ()) →
      validateDecimal (acc.getD "0") = .ok () →
      ∃ s, values.foldlM (fun accumulator value => do .ok (some (← addDecimal (accumulator.getD "0") value))) acc =
          (.ok s : Except String (Option String)) ∧ (values = [] → s = acc) ∧
        (values ≠ [] → ∃ t, s = some t ∧ Normal t ∧ decimalValue t = decimalValue (acc.getD "0") + (values.map decimalValue).sum) := by
    intro values
    induction values with
    | nil => exact fun acc _ _ => ⟨acc, rfl, fun _ => rfl, fun h => absurd rfl h⟩
    | cons v vs ih =>
      intro acc hvs hacc
      obtain ⟨t, ht, hnormal, hvalue⟩ := addDecimal_spec hacc (hvs v mem_cons_self)
      obtain ⟨s, hs, hnil, hcons⟩ := ih (some t) (fun w hw => hvs w (mem_cons_of_mem v hw)) hnormal.accepted
      refine ⟨s, by rw [foldlM_cons, ht]; exact hs, fun h => (cons_ne_nil v vs h).elim, fun _ => ?_⟩
      rw [map_cons, sum_cons, ← add_assoc, ← hvalue]
      cases vs with
      | nil => exact ⟨t, hnil rfl, hnormal, by simp⟩
      | cons w ws => exact hcons (cons_ne_nil w ws)
  obtain ⟨s, hs, hnil, hcons⟩ := key values none h hzero
  refine ⟨s, hs, ⟨fun hnone => ?_, hnil⟩, ?_⟩
  · by_contra hne
    obtain ⟨t, ht, -⟩ := hcons hne
    exact nomatch hnone.symm.trans ht
  · rintro t rfl
    have hne : values ≠ [] := fun h => nomatch hnil h
    obtain ⟨t', ⟨⟩, hnormal, hvalue⟩ := hcons hne
    exact ⟨hnormal, by rw [hvalue]; show decimalValue "0" + _ = _; rw [hstart, zero_add]⟩

theorem decimalSum_perm {values values' : List String} (hp : values.Perm values') (h : ∀ v ∈ values, validateDecimal v = .ok ()) :
    decimalSum values = decimalSum values' := by
  obtain ⟨s, hs, hnone, hsome⟩ := decimalSum_spec h
  obtain ⟨s', hs', hnone', hsome'⟩ := decimalSum_spec fun v hv => h v (hp.mem_iff.2 hv)
  rw [hs, hs']
  cases s with
  | none =>
    rw [hnone.1 rfl] at hp
    rw [hnone'.2 (nil_perm.1 hp)]
  | some t =>
    cases s' with
    | none =>
      rw [hnone'.1 rfl] at hp
      exact nomatch hnone.2 (perm_nil.1 hp)
    | some t' =>
      obtain ⟨hnormal, hvalue⟩ := hsome t rfl
      obtain ⟨hnormal', hvalue'⟩ := hsome' t' rfl
      rw [hnormal.inj hnormal' (by rw [hvalue, hvalue', (hp.map decimalValue).sum_eq])]

end Sums
/-! ## The best reports of a run -/

section Best

variable {best : RuntimeUsageCost} {sum : Option Rat} {cost : Option RunCost}

inductive BestCost (best : RuntimeUsageCost) : Option Rat → Option RunCost → Prop where
  | none : BestCost best none none
  | lower {cost : RunCost} (hvalid : validateDecimal cost.amount = .ok ())
      (hrank : costQualityRank cost.source < costQualityRank best.quality) : BestCost best none (some cost)
  | best {amount : String} (hvalid : validateDecimal amount = .ok ()) :
      BestCost best (some (decimalValue amount)) (some ⟨amount, best.currency, best.grain, best.quality⟩)

/-- A report that the best ones may be mixed with: of a lower rank, or like them. -/
def Beside (best incoming : RuntimeUsageCost) : Prop :=
  validateDecimal incoming.amount = .ok () ∧ (costQualityRank incoming.quality < costQualityRank best.quality ∨
    incoming.currency = best.currency ∧ incoming.grain = best.grain ∧ incoming.quality = best.quality)

def bestSum (best : RuntimeUsageCost) (sum : Option Rat) (incoming : RuntimeUsageCost) : Option Rat :=
  if costQualityRank incoming.quality < costQualityRank best.quality then sum else some (sum.getD 0 + decimalValue incoming.amount)

theorem BestCost.update {incoming : RuntimeUsageCost} (h : BestCost best sum cost) (hin : Beside best incoming) :
    ∃ cost', updateBestRunCost cost incoming = .ok cost' ∧ BestCost best (bestSum best sum incoming) cost' := by
  obtain ⟨hvalid, hrank⟩ := hin
  unfold bestSum
  rcases hrank with hlow | ⟨hcurrency, hgrain, hquality⟩
  · rw [if_pos hlow]
    cases h with
    | none => exact ⟨_, rfl, .lower hvalid hlow⟩
    | @lower cost hcost hcrank =>
      unfold updateBestRunCost
      dsimp only
      split
      · exact ⟨_, rfl, .lower hvalid hlow⟩
      split
      · obtain ⟨t, ht, hnormal, -⟩ := addDecimal_spec hcost hvalid
        rw [ht]
        exact ⟨_, rfl, .lower hnormal.accepted hlow⟩
      · exact ⟨_, rfl, .lower hcost hcrank⟩
    | @best amount hamount =>
      unfold updateBestRunCost
      dsimp only
      rw [if_neg (Nat.lt_asymm hlow), if_neg]
      · exact ⟨_, rfl, .best hamount⟩
      rintro ⟨-, -, heq⟩
      rw [heq] at hlow
      exact absurd hlow (Nat.lt_irrefl _)
  · rw [hquality, if_neg (Nat.lt_irrefl _)]
    cases h with
    | none =>
      refine ⟨_, rfl, ?_⟩
      rw [hcurrency, hgrain, hquality, Option.getD_none, zero_add]
      exact .best hvalid
    | @lower cost hcost hcrank =>
      unfold updateBestRunCost
      dsimp only
      rw [if_pos (by rw [hquality]; exact hcrank), hcurrency, hgrain, hquality, Option.getD_none, zero_add]
      exact ⟨_, rfl, .best hvalid⟩
    | @best amount hamount =>
      obtain ⟨t, ht, hnormal, hvalue⟩ := addDecimal_spec hamount hvalid
      unfold updateBestRunCost
      dsimp only
      rw [hcurrency, hgrain, hquality, if_neg (Nat.lt_irrefl _), if_pos ⟨rfl, rfl, rfl⟩, ht, Option.getD_some, ← hvalue]
      exact ⟨_, rfl, .best hnormal.accepted⟩

theorem foldl_bestSum (best : RuntimeUsageCost) : ∀ (costs : List RuntimeUsageCost) (sum : Option Rat),
    costs.foldl (bestSum best) sum =
      if costs.all (fun c => costQualityRank c.quality < costQualityRank best.quality) then sum
      else some (sum.getD 0 + ((costs.filter fun c => ¬ costQualityRank c.quality < costQualityRank best.quality).map
        fun c => decimalValue c.amount).sum)
  | [], _ => rfl
  | c :: costs, sum => by
    rw [foldl_cons, foldl_bestSum best costs]
    by_cases hc : costQualityRank c.quality < costQualityRank best.quality
    · simp [bestSum, hc]
    · simp only [bestSum, hc, if_false, all_cons, decide_false, Bool.false_and, Bool.false_eq_true, not_false_eq_true,
        decide_true, filter_cons, if_true, map_cons, sum_cons, Option.getD_some]
      split
      · rename_i hall
        rw [filter_eq_nil_iff.2, map_nil, sum_nil, add_zero]
        intro d hd
        simpa using all_eq_true.1 hall d hd
      · rw [add_assoc]

end Best

/-! ## Records -/

section Records

variable {parseTime : String → Option Int} {now : String} {project : CostDatabase → RuntimeUsageRun → CostDatabase}
  {db db' : CostDatabase} {best : RuntimeUsageCost}

/-- **What a new call of an enrolled run does to its cost**: the report is offered to the run, and the call is remembered. -/
theorem persist_call {o : Observation} (hdelta : o.isDelta = true) (hrun : (db.usage.summaries.find? o.agentRunId).isSome)
    (hfresh : db.usage.checkpoints.find? (checkpointOf o.call) = none)
    (h : CostDatabase.persist parseTime now db o.run o.record = some db') :
    (match o.record.usage.cost with
      | some cost => updateBestRunCost (db.costs o.agentRunId) cost
      | none => .ok (db.costs o.agentRunId)) = .ok (db'.costs o.agentRunId) ∧
      (db'.usage.summaries.find? o.agentRunId).isSome ∧
      ∀ key, key ≠ checkpointOf o.call → db'.usage.checkpoints.find? key = db.usage.checkpoints.find? key := by
  have hmode : o.record.usage.counterMode = .delta := of_decide_eq_true hdelta
  have hkey : (o.run.key.agentRunId, o.run.key.executionEpoch, checkpointKey o.run o.record) = checkpointOf o.call := by
    rw [checkpointKey, if_pos hmode]
    rfl
  unfold CostDatabase.persist at h
  obtain ⟨usage, husage, h⟩ := Option.bind_eq_some_iff.1 h
  have hcounts : db.counts o.run o.record = true := by
    unfold CostDatabase.counts
    rw [hkey, hfresh, hmode, show (db.usage.summaries.find? o.run.key.agentRunId).isSome = true from hrun]
    simp
  rw [if_pos hcounts] at h
  have hcount : db.countCost o.run o.record usage = .ok db' := by
    cases hc : db.countCost o.run o.record usage with
    | error e => rw [hc] at h; cases h
    | ok x => rw [hc] at h; rw [Option.some.inj h]
  have hdeltaCost : ∀ baseline, costDelta o.record baseline = .ok o.record.usage.cost := fun _ => by
    simp [costDelta, hmode]
  obtain ⟨hsome, -⟩ | ⟨-, occurredAt, row, hid, -, hcheckpoints, -, hsummaries⟩ :=
    persistUsageRecord_cases hmode hrun (fun row hrow => by rw [hfresh] at hrow; cases hrow) husage
  · rw [show db.usage.checkpoints.find? _ = none from hfresh] at hsome
    cases hsome
  · have hkept : (usage.summaries.find? o.agentRunId).isSome := by
      rw [find?_persisted hsummaries, show o.agentRunId = o.run.key.agentRunId from rfl, if_pos rfl, Option.isSome_map]
      exact hrun
    have hother : ∀ key, key ≠ checkpointOf o.call → usage.checkpoints.find? key = db.usage.checkpoints.find? key := by
      intro key hne
      rw [hcheckpoints, find?_upsertCheckpoint _ _ (by rw [hid]; exact hfresh), if_neg (by rw [hid]; exact hne)]
    unfold CostDatabase.countCost at hcount
    simp only [hdeltaCost] at hcount
    cases hcost : o.record.usage.cost with
    | none =>
      rw [hcost] at hcount
      cases hcount
      exact ⟨by simp [Observation.agentRunId], hkept, hother⟩
    | some cost =>
      rw [hcost] at hcount
      cases hupdate : updateBestRunCost (db.costs o.run.key.agentRunId) cost with
      | error e => simp [hupdate, bind, Except.bind] at hcount
      | ok updated =>
        simp only [bind, Except.bind, hupdate] at hcount
        cases hcount
        exact ⟨by simp [Observation.agentRunId, hupdate], hkept, hother⟩

structure CostReports (r : String) (best : RuntimeUsageCost) (observations : List Observation) : Prop where
  ofRun : ∀ o ∈ observations, o.agentRunId = r
  isDelta : ∀ o ∈ observations, o.isDelta = true
  distinct : (observations.map fun o => o.record.sourceIdentities).Nodup
  beside : ∀ o ∈ observations, ∀ cost, o.record.usage.cost = some cost → Beside best cost

def costsOf (observations : List Observation) : List RuntimeUsageCost :=
  observations.filterMap fun o => o.record.usage.cost

theorem costsOf_cons (o : Observation) (observations : List Observation) :
    costsOf (o :: observations) = (match o.record.usage.cost with
      | some cost => cost :: costsOf observations
      | none => costsOf observations) := by
  unfold costsOf
  rw [filterMap_cons]
  cases o.record.usage.cost <;> rfl

theorem bestCost_persist {r : String} : ∀ {observations : List Observation} {db db' : CostDatabase} {sum : Option Rat},
    CostReports r best observations → (db.usage.summaries.find? r).isSome →
    (∀ o ∈ observations, db.usage.checkpoints.find? (checkpointOf o.call) = none) → BestCost best sum (db.costs r) →
    observations.foldlM (fun db o => CostDatabase.persist parseTime now db o.run o.record) db = some db' →
    BestCost best ((costsOf observations).foldl (bestSum best) sum) (db'.costs r)
  | [], _, _, _, _, _, _, hbest, h => by
    cases h
    exact hbest
  | o :: observations, db, db', sum, hreports, hrun, hfresh, hbest, h => by
    obtain ⟨mid, hmid, hrest⟩ := Option.bind_eq_some_iff.1 ((foldlM_cons ..).symm.trans h)
    have hid := hreports.ofRun o mem_cons_self
    subst hid
    obtain ⟨hcost, hrun', hother⟩ :=
      persist_call (hreports.isDelta o mem_cons_self) hrun (hfresh o mem_cons_self) hmid
    have hdistinct := nodup_cons.1 ((map_cons ..) ▸ hreports.distinct)
    have hreports' : CostReports o.agentRunId best observations :=
      ⟨fun p hp => hreports.ofRun p (mem_cons_of_mem _ hp), fun p hp => hreports.isDelta p (mem_cons_of_mem _ hp),
        hdistinct.2, fun p hp => hreports.beside p (mem_cons_of_mem _ hp)⟩
    have hfresh' : ∀ p ∈ observations, mid.usage.checkpoints.find? (checkpointOf p.call) = none := by
      intro p hp
      rw [hother _ fun heq => ?_]
      · exact hfresh p (mem_cons_of_mem _ hp)
      have hcall := congrArg (fun call => call.2.2) (checkpointOf_inj heq)
      exact hdistinct.1 (mem_map.2 ⟨p, hp, hcall⟩)
    cases hreport : o.record.usage.cost with
    | none =>
      rw [hreport] at hcost
      rw [costsOf_cons, hreport]
      exact bestCost_persist hreports' hrun' hfresh' (Except.ok.inj hcost ▸ hbest) hrest
    | some report =>
      rw [hreport] at hcost
      obtain ⟨cost', hupdate, hbest'⟩ := hbest.update (hreports.beside o mem_cons_self report hreport)
      rw [costsOf_cons, hreport, foldl_cons]
      exact bestCost_persist hreports' hrun' hfresh' (Except.ok.inj (hupdate.symm.trans hcost) ▸ hbest') hrest

theorem recordBatches_eq {batches : List RuntimeUsageFlushBatch} {db : CostDatabase}
    (h : ∀ batch ∈ batches, batch.run.runtimeKind ≠ .codexCli) :
    CostDatabase.recordBatches parseTime now project db batches =
      (batches.flatMap RuntimeUsageFlushBatch.observations).foldlM
        (fun db o => CostDatabase.persist parseTime now db o.run o.record) db := by
  refine foldlM_observations (f := CostDatabase.persist parseTime now) fun batch hbatch db => ?_
  have hproject : (fun db => CostDatabase.projectCodexRunCost project db batch.run) = id := by
    funext db
    exact if_neg (h batch hbatch)
  rw [CostDatabase.recordBatch, hproject, Option.map_id]
  rfl

end Records

/-! ## Reading -/

section Reading

theorem mapM_forall₂ {α β ε : Type} {f : α → Except ε β} {P : α → β → Prop} : ∀ {l : List α},
    (∀ a ∈ l, ∃ b, f a = .ok b ∧ P a b) → ∃ bs, l.mapM f = .ok bs ∧ List.Forall₂ P l bs
  | [], _ => ⟨[], rfl, .nil⟩
  | a :: l, h => by
    obtain ⟨b, hb, hP⟩ := h a mem_cons_self
    obtain ⟨bs, hbs, hPs⟩ := mapM_forall₂ fun x hx => h x (mem_cons_of_mem a hx)
    exact ⟨b :: bs, by rw [mapM_cons, hb, hbs]; rfl, .cons hP hPs⟩

def costsInScope (costKind : Option String) (rows : List (Option RunCost)) : List RunCost :=
  (rows.filterMap id).filter fun cost => costKind.all (· = cost.kind)

def amountsOf (costs : List RunCost) (key : MoneyKey) : List String := (costs.filter (·.key = key)).map (·.amount)

theorem validate_amountsOf {costKind : Option String} {rows : List (Option RunCost)}
    (hvalid : ∀ cost, some cost ∈ rows → validateDecimal cost.amount = .ok ()) (key : MoneyKey) :
    ∀ v ∈ amountsOf (costsInScope costKind rows) key, validateDecimal v = .ok () := by
  intro v hv
  obtain ⟨c, hc, rfl⟩ := mem_map.1 hv
  obtain ⟨o, ho, heq⟩ := mem_filterMap.1 (mem_filter.1 (mem_filter.1 hc).1).1
  exact hvalid c (by rw [← show o = some c from heq]; exact ho)

theorem loadRunCost_spec {costKind : Option String} {rows : List (Option RunCost)}
    (hvalid : ∀ cost, some cost ∈ rows → validateDecimal cost.amount = .ok ()) :
    ∃ result, loadRunCost costKind rows = .ok result ∧
      List.Forall₂ (fun key money => money.key = key ∧ ∃ t, money.amount = some t ∧
        decimalValue t = ((amountsOf (costsInScope costKind rows) key).map decimalValue).sum)
        ((costsInScope costKind rows).map RunCost.key).toFinset.sort result := by
  refine mapM_forall₂ fun key hkey => ?_
  obtain ⟨cost, hcost, hof⟩ := mem_map.1 (mem_toFinset.1 ((Finset.mem_sort _).1 hkey))
  obtain ⟨s, hs, hnone, hsome⟩ := decimalSum_spec (validate_amountsOf hvalid key)
  cases s with
  | none =>
    have hmem : cost.amount ∈ amountsOf (costsInScope costKind rows) key :=
      mem_map.2 ⟨cost, mem_filter.2 ⟨hcost, by simpa using hof⟩, rfl⟩
    rw [hnone.1 rfl] at hmem
    exact (not_mem_nil hmem).elim
  | some t =>
    refine ⟨⟨key, some t⟩, ?_, rfl, t, rfl, (hsome t rfl).2⟩
    show (decimalSum (amountsOf (costsInScope costKind rows) key) >>= _) = _
    rw [hs]
    rfl

theorem loadRunCost_perm {costKind : Option String} {rows rows' : List (Option RunCost)} (hp : rows.Perm rows')
    (hvalid : ∀ cost, some cost ∈ rows → validateDecimal cost.amount = .ok ()) :
    loadRunCost costKind rows = loadRunCost costKind rows' := by
  have hcosts : (costsInScope costKind rows).Perm (costsInScope costKind rows') := (hp.filterMap id).filter _
  have hkeys : ((costsInScope costKind rows).map RunCost.key).toFinset = ((costsInScope costKind rows').map RunCost.key).toFinset :=
    toFinset_eq_of_perm _ _ (hcosts.map _)
  have hsums : ∀ key, decimalSum (amountsOf (costsInScope costKind rows) key) =
      decimalSum (amountsOf (costsInScope costKind rows') key) := fun key =>
    decimalSum_perm ((hcosts.filter _).map _) (validate_amountsOf hvalid key)
  have hload : ∀ rows, loadRunCost costKind rows = (((costsInScope costKind rows).map RunCost.key).toFinset.sort).mapM
      fun key => (decimalSum (amountsOf (costsInScope costKind rows) key)).map (Money.mk key) := by
    intro rows
    unfold loadRunCost
    refine congrArg (List.mapM · _) (funext fun key => ?_)
    show (decimalSum (amountsOf (costsInScope costKind rows) key) >>= fun sum => Except.ok (Money.mk key sum)) = _
    cases decimalSum (amountsOf (costsInScope costKind rows) key) <;> rfl
  rw [hload, hload, hkeys]
  simp [hsums]

end Reading

end Rovai.Usage
