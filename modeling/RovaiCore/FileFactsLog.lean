import RovaiCore.EvidenceWriter
import RovaiCore.FileChangeFacts
import RovaiCore.Paging
/-!
# The file facts of a log (`load_full_evidence`)

The projector reads the rows of one epoch in the order of their latest changes.
-/
namespace Rovai

open List

/-! ## Reading the rows of an epoch -/

abbrev LiveTexts := EvidenceId → Option Json

variable (r : EvidenceRow)

def EvidenceRow.storedPayload : Json :=
  match r.operation with
  | some o => o.combined
  | none => r.payload

variable (live : LiveTexts)

def EvidenceRow.fullPayload (r : EvidenceRow) : Json := (live r.id).getD r.storedPayload

def EvidenceRow.factSequence : Nat := r.changeSequence.getD r.sequence

def factOrder (a b : EvidenceRow) : Prop :=
  a.factSequence < b.factSequence ∨ (a.factSequence = b.factSequence ∧ a.id ≤ b.id)

instance : DecidableRel factOrder := fun _ _ => inferInstanceAs (Decidable (_ ∨ _ ∧ _))

instance : Std.Total factOrder where
  total a b := by
    rcases Nat.lt_trichotomy a.factSequence b.factSequence with h | h | h
    · exact .inl (.inl h)
    · rcases le_total a.id b.id with hid | hid
      · exact .inl (.inr ⟨h, hid⟩)
      · exact .inr (.inr ⟨h.symm, hid⟩)
    · exact .inr (.inl h)

instance : IsTrans EvidenceRow factOrder where
  trans a b c hab hbc := by
    rcases hab with hab | ⟨hab, hid⟩
    · rcases hbc with hbc | ⟨hbc, -⟩
      · exact .inl (Nat.lt_trans hab hbc)
      · exact .inl (hbc ▸ hab)
    · rcases hbc with hbc | ⟨hbc, hid'⟩
      · exact .inl (hab ▸ hbc)
      · exact .inr ⟨hab.trans hbc, le_trans hid hid'⟩

variable (log : RunLog) (epoch : Nat)

def orderedRows : List EvidenceRow :=
  (log.rows.filter (fun r => r.executionEpoch = epoch)).insertionSort factOrder

def loadFullEvidence : List SequencedEvidence :=
  (orderedRows log epoch).map (fun r => { id := r.id, sequence := r.factSequence, payload := r.fullPayload live })

/-! ## Rows with facts -/

def EvidenceRow.hasFacts : Bool := hasFileFacts r.storedPayload

def factRows : List EvidenceRow := (orderedRows log epoch).filter EvidenceRow.hasFacts

def fileFacts : List Json := (factRows log epoch).map (fun r => fileFactProjection r.storedPayload)

section

variable {log log' : RunLog} {epoch : Nat} {r r' : EvidenceRow}

theorem mem_orderedRows {x : EvidenceRow} : x ∈ orderedRows log epoch ↔ x ∈ log.rows ∧ x.executionEpoch = epoch := by
  rw [orderedRows, mem_insertionSort, mem_filter, decide_eq_true_eq]

theorem mem_factRows {x : EvidenceRow} :
    x ∈ factRows log epoch ↔ (x ∈ log.rows ∧ x.executionEpoch = epoch) ∧ x.hasFacts = true := by
  rw [factRows, mem_filter, mem_orderedRows]

theorem LogInv.factSequence_eq (inv : LogInv log) (hr : r ∈ log.rows) : r.changeSequence = some r.factSequence := by
  obtain ⟨c, hc, -⟩ := inv.changes r hr
  rw [EvidenceRow.factSequence, hc, Option.getD_some]

theorem LogInv.factSequence_lt (inv : LogInv log) (hr : r ∈ log.rows) : r.factSequence < allocateChangeSequence log :=
  inv.lt_allocate hr (inv.factSequence_eq hr)

theorem LogInv.eq_of_factSequence (inv : LogInv log) {a b : EvidenceRow} (ha : a ∈ log.rows) (hb : b ∈ log.rows)
    (h : a.factSequence = b.factSequence) : a = b := by
  by_contra hne
  have hsame : a.changeSequence = b.changeSequence := by rw [inv.factSequence_eq ha, inv.factSequence_eq hb, h]
  rcases pairwise_ne inv.distinct ha hb hne with hd | hd
  · exact hd hsame
  · exact hd hsame.symm

theorem LogInv.nodup (inv : LogInv log) : log.rows.Nodup := inv.ids.imp (fun hab h => hab (congrArg EvidenceRow.id h))

theorem orderedRows_sorted (inv : LogInv log) (epoch : Nat) :
    (orderedRows log epoch).Pairwise (fun a b => a.factSequence < b.factSequence) := by
  refine Paging.pairwise_lt_insertionSort (fun a b h => ?_) (inv.nodup.filter _) (fun a ha b hb h => ?_)
  · rcases h with h | ⟨h, -⟩
    · exact Nat.le_of_lt h
    · exact Nat.le_of_eq h
  · exact inv.eq_of_factSequence (mem_filter.1 ha).1 (mem_filter.1 hb).1 h

theorem factRows_sorted (inv : LogInv log) (epoch : Nat) :
    (factRows log epoch).Pairwise (fun a b => a.factSequence < b.factSequence) :=
  (orderedRows_sorted inv epoch).filter _

theorem ordered_loadFullEvidence (inv : LogInv log) (live : LiveTexts) (epoch : Nat) :
    Ordered (loadFullEvidence live log epoch) :=
  pairwise_map.2 (orderedRows_sorted inv epoch)

/-! ## Texts carry no facts -/

def EvidenceRow.isText (r : EvidenceRow) : Bool := ["agent.text.block", "agent_run.input"].contains r.eventType

def TextsOf (log : RunLog) : Prop :=
  ∀ r ∈ log.rows, ∀ p, live r.id = some p → r.isText = true ∧ hasFileFacts p = false

structure FactInv (log : RunLog) : Prop where
  inv : LogInv log
  bounded : ∀ e, log.watermark e ≤ log.changeCounter
  texts : ∀ r ∈ log.rows, r.isText = true → r.hasFacts = false

theorem factInv_empty : FactInv RunLog.empty := ⟨logInv_empty, fun _ => Nat.le_refl _, fun _ h => nomatch h⟩

theorem evidenceFacts_loadFullEvidence (inv : FactInv log) {live : LiveTexts} (hlive : TextsOf live log) (epoch : Nat) :
    evidenceFacts (loadFullEvidence live log epoch) = fileFacts log epoch := by
  have hread : ∀ x ∈ orderedRows log epoch, hasFileFacts (x.fullPayload live) = x.hasFacts ∧
      (x.hasFacts = true → x.fullPayload live = x.storedPayload) := by
    intro x hx
    have hmem := (mem_orderedRows.1 hx).1
    cases hp : live x.id with
    | none => simp [EvidenceRow.fullPayload, EvidenceRow.hasFacts, hp]
    | some p =>
      obtain ⟨htext, hnone⟩ := hlive x hmem p hp
      have hstored := inv.texts x hmem htext
      simp [EvidenceRow.fullPayload, hp, hnone, hstored]
  have hmap : (loadFullEvidence live log epoch).map SequencedEvidence.payload =
      (orderedRows log epoch).map (EvidenceRow.fullPayload live) := by
    rw [loadFullEvidence, map_map]
    rfl
  have hfilter : (orderedRows log epoch).filter (hasFileFacts ∘ EvidenceRow.fullPayload live) = factRows log epoch :=
    filter_congr (fun x hx => (hread x hx).1)
  rw [evidenceFacts, hmap, filter_map, map_map, hfilter, fileFacts]
  refine map_congr_left (fun x hx => ?_)
  obtain ⟨hx, hfacts⟩ := mem_filter.1 hx
  rw [Function.comp_apply, (hread x hx).2 hfacts]

/-- **What a projection shows is a function of the facts of its epoch.** -/
theorem view_loadFullEvidence {agentRunId completedAt : String} {root : ExecutionRoot} {live live' : LiveTexts}
    {existing existing' : Lines.Text → Option String} {fresh fresh' : Nat → String} (inv : FactInv log) (inv' : FactInv log')
    (hlive : TextsOf live log) (hlive' : TextsOf live' log') (h : fileFacts log epoch = fileFacts log' epoch) :
    (aggregateEvidenceWithExistingIds agentRunId epoch completedAt root (loadFullEvidence live log epoch) existing
        fresh).map AggregatedProjection.view =
      (aggregateEvidenceWithExistingIds agentRunId epoch completedAt root (loadFullEvidence live' log' epoch) existing'
        fresh').map AggregatedProjection.view := by
  refine view_of_facts (ordered_loadFullEvidence inv.inv live epoch) (ordered_loadFullEvidence inv'.inv live' epoch) ?_
  rw [evidenceFacts_loadFullEvidence inv hlive, evidenceFacts_loadFullEvidence inv' hlive', h]

/-! ## Replacing a row -/

theorem hasFileFacts_of_projection {p q : Json} (h : fileFactProjection p = fileFactProjection q) :
    hasFileFacts p = hasFileFacts q := by
  have htrust : ∀ p : Json, ((fileFactProjection p).get? "trustState").isSome = hasFileFacts p := by
    intro p
    unfold fileFactProjection
    cases hasFileFacts p <;> simp [Json.get?, Json.lookupField, fileFactMembers]
  rw [← htrust p, ← htrust q, h]

theorem factRows_eq_of_sorted (inv : LogInv log) {l : List EvidenceRow}
    (hsorted : l.Pairwise (fun a b => a.factSequence < b.factSequence)) (hmem : ∀ x, x ∈ factRows log epoch ↔ x ∈ l) :
    factRows log epoch = l :=
  haveI : Std.Antisymm (fun a b : EvidenceRow => a.factSequence < b.factSequence) :=
    ⟨fun _ _ h h' => absurd h (Nat.lt_asymm h')⟩
  haveI : Std.Irrefl (fun a b : EvidenceRow => a.factSequence < b.factSequence) := ⟨fun a => Nat.lt_irrefl a.factSequence⟩
  (factRows_sorted inv epoch).eq_of_mem_iff hsorted hmem

def KeepsPlace (log : RunLog) (r r' : EvidenceRow) : Prop :=
  ∀ x ∈ log.rows, x.executionEpoch = r.executionEpoch → x.hasFacts = true → x ≠ r →
    (x.factSequence < r.factSequence → x.factSequence < r'.factSequence) ∧
      (r.factSequence < x.factSequence → r'.factSequence < x.factSequence)

def Stands (log : RunLog) (r r' : EvidenceRow) : Prop :=
  fileFactProjection r'.storedPayload = fileFactProjection r.storedPayload ∧ (r.hasFacts = true → KeepsPlace log r r')

theorem Stands.hasFacts (h : Stands log r r') : r'.hasFacts = r.hasFacts := hasFileFacts_of_projection h.1

theorem factRows_rewrite (inv : LogInv log) (inv' : LogInv log') (hr : r ∈ log.rows)
    (hrows : log'.rows = updateRow log r.id (fun _ => r')) (hepoch : r'.executionEpoch = r.executionEpoch)
    (hstands : Stands log r r') :
    factRows log' epoch = (factRows log epoch).map (fun x => if x = r then r' else x) := by
  refine factRows_eq_of_sorted inv' ?_ (fun x => ?_)
  · refine pairwise_map.2 ((factRows_sorted inv epoch).imp_of_mem fun {a b} ha hb hab => ?_)
    obtain ⟨⟨harow, haep⟩, hafacts⟩ := mem_factRows.1 ha
    obtain ⟨⟨hbrow, hbep⟩, hbfacts⟩ := mem_factRows.1 hb
    by_cases har : a = r
    · subst har
      have hba : b ≠ a := fun h => Nat.lt_irrefl _ (h ▸ hab)
      rw [if_pos rfl, if_neg hba]
      exact (hstands.2 hafacts b hbrow (hbep.trans haep.symm) hbfacts hba).2 hab
    · by_cases hbr : b = r
      · subst hbr
        rw [if_neg har, if_pos rfl]
        exact (hstands.2 hbfacts a harow (haep.trans hbep.symm) hafacts har).1 hab
      · rw [if_neg har, if_neg hbr]
        exact hab
  · rw [mem_factRows, hrows, inv.mem_rewrite hr, mem_map]
    constructor
    · rintro ⟨⟨rfl | ⟨hx, hne⟩, hep⟩, hfacts⟩
      · exact ⟨r, mem_factRows.2 ⟨⟨hr, hepoch ▸ hep⟩, hstands.hasFacts ▸ hfacts⟩, if_pos rfl⟩
      · exact ⟨x, mem_factRows.2 ⟨⟨hx, hep⟩, hfacts⟩, if_neg hne⟩
    · rintro ⟨y, hy, rfl⟩
      obtain ⟨⟨hy, hep⟩, hfacts⟩ := mem_factRows.1 hy
      by_cases hyr : y = r
      · subst hyr
        rw [if_pos rfl]
        exact ⟨⟨.inl rfl, hepoch.trans hep⟩, hstands.hasFacts.trans hfacts⟩
      · rw [if_neg hyr]
        exact ⟨⟨.inr ⟨hy, hyr⟩, hep⟩, hfacts⟩

theorem fileFacts_rewrite (inv : LogInv log) (inv' : LogInv log') (hr : r ∈ log.rows)
    (hrows : log'.rows = updateRow log r.id (fun _ => r')) (hepoch : r'.executionEpoch = r.executionEpoch)
    (hstands : Stands log r r') : fileFacts log' epoch = fileFacts log epoch := by
  rw [fileFacts, factRows_rewrite inv inv' hr hrows hepoch hstands, map_map, fileFacts]
  refine map_congr_left (fun x _ => ?_)
  rw [Function.comp_apply]
  by_cases hx : x = r
  · rw [if_pos hx, hx]
    exact hstands.1
  · rw [if_neg hx]

theorem fileFacts_congr (inv : LogInv log) (inv' : LogInv log')
    (h : ∀ x, x.executionEpoch = epoch → x.hasFacts = true → (x ∈ log'.rows ↔ x ∈ log.rows)) :
    fileFacts log' epoch = fileFacts log epoch := by
  rw [fileFacts, factRows_eq_of_sorted inv' (factRows_sorted inv epoch), fileFacts]
  intro x
  rw [mem_factRows, mem_factRows]
  constructor
  · rintro ⟨⟨hx, he⟩, hf⟩
    exact ⟨⟨(h x he hf).1 hx, he⟩, hf⟩
  · rintro ⟨⟨hx, he⟩, hf⟩
    exact ⟨⟨(h x he hf).2 hx, he⟩, hf⟩

/-! ## What a write does to the facts -/

inductive FactWrite (log log' : RunLog) : Prop
  | append (r : EvidenceRow) (rows : log'.rows = log.rows ++ [r]) (text : r.isText = true → r.hasFacts = false)
      (mark : (log'.watermark = log.watermark ∧ log.changeCounter ≤ log'.changeCounter ∧ r.hasFacts = false) ∨
        (log'.watermark = advanceFileFactsWatermark log.watermark r.executionEpoch (allocateChangeSequence log) ∧
          log'.changeCounter = allocateChangeSequence log))
  | rewrite (r r' : EvidenceRow) (mem : r ∈ log.rows) (rows : log'.rows = updateRow log r.id (fun _ => r'))
      (sameEpoch : r'.executionEpoch = r.executionEpoch) (text : r'.isText = true → r'.hasFacts = false)
      (mark : (log'.watermark = log.watermark ∧ log.changeCounter ≤ log'.changeCounter ∧ Stands log r r') ∨
        (log'.watermark = advanceFileFactsWatermark log.watermark r.executionEpoch (allocateChangeSequence log) ∧
          log'.changeCounter = allocateChangeSequence log))

def Kept (epoch : Nat) (log log' : RunLog) : Prop :=
  log.watermark epoch ≤ log'.watermark epoch ∧
    (log'.watermark epoch = log.watermark epoch → fileFacts log' epoch = fileFacts log epoch)

theorem Kept.refl (epoch : Nat) (log : RunLog) : Kept epoch log log := ⟨Nat.le_refl _, fun _ => rfl⟩

theorem Kept.trans {log'' : RunLog} (h : Kept epoch log log') (h' : Kept epoch log' log'') : Kept epoch log log'' := by
  obtain ⟨hle, hfacts⟩ := h
  obtain ⟨hle', hfacts'⟩ := h'
  refine ⟨Nat.le_trans hle hle', fun heq => ?_⟩
  rw [hfacts' (by omega), hfacts (by omega)]

theorem advance_watermark (inv : FactInv log) (e : Nat) :
    advanceFileFactsWatermark log.watermark e (allocateChangeSequence log) epoch =
      if epoch = e then allocateChangeSequence log else log.watermark epoch := by
  unfold advanceFileFactsWatermark
  have := inv.bounded epoch
  have := lt_allocateChangeSequence log
  split
  · omega
  · rfl

theorem bounded_factWrite (inv : FactInv log) (h : FactWrite log log') (e : Nat) : log'.watermark e ≤ log'.changeCounter := by
  have hstays : log'.watermark = log.watermark → log.changeCounter ≤ log'.changeCounter → log'.watermark e ≤ log'.changeCounter :=
    fun hmark hle => hmark ▸ Nat.le_trans (inv.bounded e) hle
  have hmoves : ∀ e₀, log'.watermark = advanceFileFactsWatermark log.watermark e₀ (allocateChangeSequence log) →
      log'.changeCounter = allocateChangeSequence log → log'.watermark e ≤ log'.changeCounter := by
    intro e₀ hmark hcounter
    have := inv.bounded e
    have := lt_allocateChangeSequence log
    rw [hmark, hcounter, advance_watermark inv]
    split <;> omega
  cases h with
  | append r rows text mark =>
    rcases mark with ⟨hmark, hle, -⟩ | ⟨hmark, hcounter⟩
    · exact hstays hmark hle
    · exact hmoves _ hmark hcounter
  | rewrite r r' mem rows sameEpoch text mark =>
    rcases mark with ⟨hmark, hle, -⟩ | ⟨hmark, hcounter⟩
    · exact hstays hmark hle
    · exact hmoves _ hmark hcounter

theorem texts_factWrite (inv : FactInv log) (h : FactWrite log log') : ∀ x ∈ log'.rows, x.isText = true → x.hasFacts = false := by
  intro x hx htext
  cases h with
  | append r rows text =>
    rw [rows] at hx
    rcases mem_append.1 hx with hx | hx
    · exact inv.texts x hx htext
    rw [mem_singleton.1 hx] at htext ⊢
    exact text htext
  | rewrite r r' mem rows sameEpoch text =>
    rw [rows, inv.inv.mem_rewrite mem] at hx
    rcases hx with rfl | ⟨hx, -⟩
    · exact text htext
    · exact inv.texts x hx htext

theorem kept_of_advance (inv : FactInv log) (inv' : LogInv log') {e : Nat}
    (hmark : log'.watermark = advanceFileFactsWatermark log.watermark e (allocateChangeSequence log))
    (hothers : ∀ x : EvidenceRow, x.executionEpoch ≠ e → (x ∈ log'.rows ↔ x ∈ log.rows)) : Kept epoch log log' := by
  have hvalue : log'.watermark epoch = if epoch = e then allocateChangeSequence log else log.watermark epoch := by
    rw [hmark, advance_watermark inv]
  have := inv.bounded epoch
  have := lt_allocateChangeSequence log
  by_cases he : epoch = e
  · rw [if_pos he] at hvalue
    exact ⟨by omega, fun h => by omega⟩
  · rw [if_neg he] at hvalue
    exact ⟨Nat.le_of_eq hvalue.symm, fun _ => fileFacts_congr inv.inv inv' (fun x hx _ => hothers x (hx ▸ he))⟩

/-- **The write of one row moves the watermark or leaves the facts.** -/
theorem kept_factWrite (inv : FactInv log) (inv' : LogInv log') (h : FactWrite log log') : Kept epoch log log' := by
  cases h with
  | append r rows text mark =>
    have hmem : ∀ x, x ≠ r → (x ∈ log'.rows ↔ x ∈ log.rows) := by
      intro x hx
      rw [rows, mem_append, mem_singleton]
      exact or_iff_left hx
    rcases mark with ⟨hmark, -, hnone⟩ | ⟨hmark, -⟩
    · refine ⟨Nat.le_of_eq (congrFun hmark epoch).symm, fun _ => fileFacts_congr inv.inv inv' (fun x _ hx => hmem x ?_)⟩
      rintro rfl
      rw [hnone] at hx
      cases hx
    · refine kept_of_advance inv inv' hmark (fun x hx => hmem x ?_)
      rintro rfl
      exact hx rfl
  | rewrite r r' mem rows sameEpoch text mark =>
    rcases mark with ⟨hmark, -, hstands⟩ | ⟨hmark, -⟩
    · exact ⟨Nat.le_of_eq (congrFun hmark epoch).symm,
        fun _ => fileFacts_rewrite inv.inv inv' mem rows sameEpoch hstands⟩
    · refine kept_of_advance inv inv' hmark (fun x hx => ?_)
      rw [rows, inv.inv.mem_rewrite mem]
      constructor
      · rintro (rfl | ⟨hx', -⟩)
        · exact absurd sameEpoch hx
        · exact hx'
      · intro hx'
        refine .inr ⟨hx', ?_⟩
        rintro rfl
        exact hx rfl

theorem factInv_factWrite (inv : FactInv log) (inv' : LogInv log') (h : FactWrite log log') : FactInv log' :=
  ⟨inv', bounded_factWrite inv h, texts_factWrite inv h⟩

end

/-! ## Writes in order -/

/-- The update says nothing new about files, and it moves a row with facts behind another one. -/
def reorders (store : ContentStore) (log : RunLog) (r : EvidenceRow) (o : Operation) (e : RuntimeEvent) : Bool :=
  r.hasFacts && !semanticallyUnchanged r o e (nextLifecycle (some (r, o)) e) && !sourceKeyClash log r e.sourceEventKey
  && fileFactProjection o.combined =
    fileFactProjection (writtenOperation store (some (r, o)) o.operationId (nextLifecycle (some (r, o)) e)).combined
  && log.rows.any (fun x => x.executionEpoch = r.executionEpoch && x.hasFacts && r.factSequence < x.factSequence)

/-- No row with facts passes another one unseen, and texts carry no facts. -/
def inOrder (store : ContentStore) (log : RunLog) : Write → Bool
  | .event epoch id _ e =>
    match lifecycleRow log epoch (operationOf id e) with
    | some r => match r.operation with
      | some o => !(evidenceEventTypes.contains e.eventType && isActivity e && reorders store log r o e)
      | none => true
    | none => true
  | .textStart _ _ _ _ payload => !hasFileFacts payload
  | .textFinish _ _ payload _ _ => !hasFileFacts payload
  | .inputRecord _ _ _ payload => !hasFileFacts payload
  | .batch _ _ => true
  | .inputChanged _ => true

section

variable {store : ContentStore} {log log' : RunLog} {epoch : Nat} {id : EvidenceId} {now : Timestamp} {e : RuntimeEvent}
  {r : EvidenceRow} {o : Operation}

/-! ## The result digest is no fact -/

theorem get?_withResultDigest (v : Json) (d : Option String) {k : String} (hne : k ≠ "resultDigest") :
    (withResultDigest v d).get? k = v.get? k := by
  cases d with
  | none => rfl
  | some d => exact Json.get?_setField_of_ne v (.str d) hne

theorem fileFactProjection_congr {p q : Json} (h : ∀ k, k ≠ "resultDigest" → p.get? k = q.get? k) :
    fileFactProjection p = fileFactProjection q := by
  have hd : ∀ k, k ≠ "resultDigest" → p.getD k = q.getD k := fun k hk => congrArg (fun v => v.getD .null) (h k hk)
  have hs : ∀ k, k ≠ "resultDigest" → p.strField k = q.strField k := fun k hk => congrArg (fun v => v.bind Json.asStr) (h k hk)
  have hp : ∀ k l, k ≠ "resultDigest" → p.pointer [k, l] = q.pointer [k, l] := fun k l hk => by
    rw [pointer_two_eq, pointer_two_eq, hd k hk]
  have hsend : successfulSendInputFilePath p = successfulSendInputFilePath q := by
    unfold successfulSendInputFilePath
    rw [hs "sourceAuthority" (by decide), hs "kind" (by decide), hs "status" (by decide), hp "coreEnvelope" "ok" (by decide),
      hs "canonicalTool" (by decide), hs "sendInputFilePath" (by decide)]
  have hmembers : fileFactMembers p = fileFactMembers q := by
    unfold fileFactMembers
    rw [h "changes" (by decide), hp "item" "changes" (by decide), hd "patch" (by decide), hd "runtimeDiff" (by decide),
      hd "runtimeFileOperation" (by decide), hd "runtimeRunDiff" (by decide), hsend]
  have htrust : trustState p = trustState q := by
    unfold trustState Json.strAt
    rw [hp "_rovaiContent" "complete" (by decide), hp "_rovaiContent" "state" (by decide),
      hp "_rovaiLifecycle" "terminalConflict" (by decide)]
  unfold fileFactProjection hasFileFacts
  rw [hmembers, htrust]

theorem projection_withResultDigest (v : Json) (d d' : Option String) :
    fileFactProjection (withResultDigest v d) = fileFactProjection (withResultDigest v d') :=
  fileFactProjection_congr (fun _ hk => by rw [get?_withResultDigest v d hk, get?_withResultDigest v d' hk])

/-! ## Writes of one row -/

theorem isText_of_recorded (h : evidenceEventTypes.contains r.eventType = true) : r.isText = false := by
  rw [contains_iff_mem] at h
  simp only [evidenceEventTypes, mem_cons, not_mem_nil, or_false] at h
  rcases h with h | h | h | h | h | h | h | h | h | h | h | h | h <;> rw [EvidenceRow.isText, h] <;> decide

theorem isText_of_batchable (h : batchable e = true) : (plainRow log epoch id now e).isText = false := by
  rw [batchable, Bool.and_eq_true, contains_iff_mem] at h
  simp only [mem_cons, not_mem_nil, or_false] at h
  rcases h.2 with h | h <;> simp [EvidenceRow.isText, plainRow, h]

theorem operation_of_text (inv : LogInv log) (hr : r ∈ log.rows) (h : r.isText = true) : r.operation = none := by
  cases ho : r.operation with
  | none => rfl
  | some o =>
    rw [isText_of_recorded (inv.recorded r hr o ho)] at h
    cases h

theorem hasFacts_of_plain (h : r.operation = none) : r.hasFacts = hasFileFacts r.payload := by
  rw [EvidenceRow.hasFacts, EvidenceRow.storedPayload, h]

theorem stands_of_no_facts {r' : EvidenceRow} (h : r.hasFacts = false) (h' : r'.hasFacts = false) : Stands log r r' := by
  refine ⟨(projection_of_no_facts h').trans (projection_of_no_facts h).symm, fun hf => ?_⟩
  rw [h] at hf
  cases hf

theorem insertPlain_factWrite (htype : (plainRow log epoch id now e).isText = false)
    (h : insertPlain log epoch id now e = some log') : FactWrite log log' := by
  unfold insertPlain at h
  split at h
  · cases h
  split at h
  · cases h
  rw [Option.some.injEq] at h
  subst h
  refine .append (plainRow log epoch id now e) rfl (fun htext => ?_) ?_
  · rw [htype] at htext
    cases htext
  · rw [hasFacts_of_plain rfl]
    by_cases hfacts : payloadAffectsFileFacts e.payload = true
    · exact .inr ⟨if_pos hfacts, rfl⟩
    · exact .inl ⟨if_neg hfacts, Nat.le_of_lt (lt_allocateChangeSequence log), Bool.not_eq_true _ ▸ hfacts⟩

theorem insertOperation_factWrite (store : ContentStore) (operationId : String)
    (hrecorded : evidenceEventTypes.contains e.eventType = true) :
    insertOperation store log epoch id now operationId e = log ∨
      FactWrite log (insertOperation store log epoch id now operationId e) := by
  unfold insertOperation
  simp only
  split
  · exact .inl rfl
  have hnew : ∀ p, watermarkAfter log epoch .null (fileFactProjection p) =
      advanceFileFactsWatermark log.watermark epoch (allocateChangeSequence log) := by
    intro p
    refine if_neg (fun h => ?_)
    unfold fileFactProjection at h
    cases h
  refine .inr (.append _ rfl (fun htext => ?_)
    (.inr ⟨hnew (writtenOperation store none operationId (nextLifecycle none e)).combined, rfl⟩))
  have htype : (nextLifecycle none e).eventType = e.eventType := by
    rcases nextLifecycle_eventType none e with h | ⟨x, hx, -⟩
    · exact h
    · cases hx
  rw [isText_of_recorded (by rw [insertedRow, htype]; exact hrecorded)] at htext
  cases htext

theorem updateOperation_factWrite (inv : FactInv log) (store : ContentStore) (hr : r ∈ log.rows) (ho : r.operation = some o)
    (hrecorded : evidenceEventTypes.contains e.eventType = true) (horder : reorders store log r o e = false) :
    updateOperation store log r o e = log ∨ FactWrite log (updateOperation store log r o e) := by
  have hstored : r.storedPayload = o.combined := by rw [EvidenceRow.storedPayload, ho]
  unfold updateOperation
  simp only
  split
  · rw [inv.inv.updateRow_eq hr]
    refine .inr (.rewrite r _ hr rfl rfl (fun htext => ?_) (.inl ⟨rfl, Nat.le_refl _, ?_, fun _ x _ _ _ _ => ⟨id, id⟩⟩))
    · have hnone := isText_of_recorded (inv.inv.recorded r hr o ho)
      rw [EvidenceRow.isText] at hnone htext
      rw [hnone] at htext
      cases htext
    · rw [hstored]
      exact projection_withResultDigest _ _ _
  · rename_i hchanged
    split
    · exact .inl rfl
    rename_i hclash
    have htype : evidenceEventTypes.contains (updatedRow store log r o e (nextLifecycle (some (r, o)) e)).eventType = true := by
      rw [updatedRow]
      rcases nextLifecycle_eventType (some (r, o)) e with h | ⟨x, hx, h⟩
      · rw [h]
        exact hrecorded
      · rw [Option.some.injEq] at hx
        subst hx
        rw [h]
        exact inv.inv.recorded r hr o ho
    refine .inr (.rewrite r (updatedRow store log r o e (nextLifecycle (some (r, o)) e)) hr rfl rfl (fun htext => ?_) ?_)
    · rw [isText_of_recorded htype] at htext
      cases htext
    · by_cases hfacts : fileFactProjection o.combined =
          fileFactProjection (writtenOperation store (some (r, o)) o.operationId (nextLifecycle (some (r, o)) e)).combined
      · refine .inl ⟨if_pos hfacts, Nat.le_of_lt (lt_allocateChangeSequence log), hstored ▸ hfacts.symm, fun hf x hx he hxf _ => ?_⟩
        refine ⟨fun _ => inv.inv.factSequence_lt hx, fun hlater => ?_⟩
        -- a later row with facts would have been passed
        have hpassed : log.rows.any (fun x => x.executionEpoch = r.executionEpoch && x.hasFacts &&
            r.factSequence < x.factSequence) = true :=
          any_eq_true.2 ⟨x, hx, by simp [he, hxf, hlater]⟩
        rw [reorders, hf, hpassed] at horder
        simp [hchanged, hclash, hfacts] at horder
      · exact .inr ⟨if_neg hfacts, rfl⟩

theorem insertTextBlock_factWrite {key : Option String} {payload : Json} (hnone : hasFileFacts payload = false)
    (h : insertTextBlock log epoch id now key payload = some log') : FactWrite log log' := by
  unfold insertTextBlock at h
  split at h
  · cases h
  rw [Option.some.injEq] at h
  subst h
  exact .append (textBlockRow log epoch id now key payload) rfl (fun _ => hnone)
    (.inl ⟨rfl, Nat.le_of_lt (lt_allocateChangeSequence log), hnone⟩)

theorem updateTextBlock_factWrite (inv : FactInv log) {phase : String} {payload preview : Json} {revision : Nat}
    (hnone : hasFileFacts payload = false) (h : updateTextBlock log id phase payload preview revision = some log') :
    FactWrite log log' := by
  unfold updateTextBlock at h
  split at h
  · rename_i hrow
    obtain ⟨r, hr, hid, htype⟩ : ∃ r ∈ log.rows, r.id = id ∧ r.eventType = "agent.text.block" := by simpa using hrow
    have htext : r.isText = true := by rw [EvidenceRow.isText, htype]; decide
    rw [Option.some.injEq] at h
    subst h hid
    have hplain : ∀ r' : EvidenceRow, r'.operation = r.operation → r'.payload = payload → r'.hasFacts = false := by
      intro r' hop hpayload
      rw [hasFacts_of_plain (hop.trans (operation_of_text inv.inv hr htext)), hpayload]
      exact hnone
    refine .rewrite r _ hr (inv.inv.updateRow_eq hr _) rfl (fun _ => hplain _ rfl rfl)
      (.inl ⟨rfl, Nat.le_of_lt (lt_allocateChangeSequence log), ?_⟩)
    exact stands_of_no_facts (inv.texts r hr htext) (hplain _ rfl rfl)
  · cases h

theorem recordInput_factWrite {key : EvidenceId} {payload : Json} (hnone : hasFileFacts payload = false) :
    recordInput log epoch key now payload = log ∨ FactWrite log (recordInput log epoch key now payload) := by
  unfold recordInput
  split
  · exact .inl rfl
  exact .inr (.append (inputMarkerRow log epoch key now payload) rfl (fun _ => hnone)
    (.inl ⟨rfl, Nat.le_of_lt (lt_allocateChangeSequence log), hnone⟩))

theorem inputChanged_factWrite (inv : FactInv log) (key : EvidenceId) :
    inputChanged log key = log ∨ FactWrite log (inputChanged log key) := by
  unfold inputChanged
  split
  · rename_i hrow
    obtain ⟨r, hr, hid, htype⟩ : ∃ r ∈ log.rows, r.id = key ∧ r.eventType = "agent_run.input" := by simpa using hrow
    have htext : r.isText = true := by rw [EvidenceRow.isText, htype]; decide
    subst hid
    have hnone := inv.texts r hr htext
    refine .inr (.rewrite r _ hr (inv.inv.updateRow_eq hr _) rfl (fun _ => hnone)
      (.inl ⟨rfl, Nat.le_of_lt (lt_allocateChangeSequence log), ?_⟩))
    exact stands_of_no_facts hnone hnone
  · exact .inl rfl

/-! ## Every write in order keeps the facts or moves the watermark -/

theorem recordRuntimeEvent_factWrite (inv : FactInv log) (horder : inOrder store log (.event epoch id now e) = true) :
    recordRuntimeEvent store log epoch id now e = log ∨ FactWrite log (recordRuntimeEvent store log epoch id now e) := by
  cases recordRuntimeEvent_eventWrite store log epoch id now e with
  | nothing after => exact .inl after
  | plain recorded after => exact .inr (insertPlain_factWrite (isText_of_recorded recorded) after)
  | update r o recorded activity key row own after =>
    rw [after]
    simp only [inOrder, row, own, recorded, activity, Bool.and_true, Bool.true_and, Bool.not_eq_true'] at horder
    exact updateOperation_factWrite inv store (lifecycleRow_some row).1 own recorded horder
  | insert recorded activity key row started after =>
    rw [after]
    exact insertOperation_factWrite store _ recorded

/-- **A write in order moves the watermark of an epoch or leaves its facts.** -/
theorem kept_write (inv : FactInv log) (w : Write) (horder : inOrder store log w = true) :
    FactInv (log.write store w) ∧ ∀ epoch, Kept epoch log (log.write store w) := by
  have hone : ∀ l, LogInv l → (l = log ∨ FactWrite log l) → FactInv l ∧ ∀ epoch, Kept epoch log l := by
    rintro l hl (rfl | h)
    · exact ⟨inv, fun epoch => Kept.refl epoch _⟩
    · exact ⟨factInv_factWrite inv hl h, fun _ => kept_factWrite inv hl h⟩
  have hlog := logInv_write store inv.inv w
  cases w with
  | event => exact hone _ hlog (recordRuntimeEvent_factWrite inv horder)
  | batch epoch events =>
    refine recordBatch_induction (P := fun l => FactInv l ∧ ∀ epoch, Kept epoch log l) ?_ ⟨inv, fun epoch => Kept.refl epoch _⟩
      events
    intro l l' id now e hbatch hins hl
    have hinv' := hl.1.inv.rowWrite (insertPlain_rowWrite (not_block_of_batchable hbatch) hins)
    have hwrite := insertPlain_factWrite (isText_of_batchable hbatch) hins
    exact ⟨factInv_factWrite hl.1 hinv' hwrite, fun epoch => (hl.2 epoch).trans (kept_factWrite hl.1 hinv' hwrite)⟩
  | textStart epoch id now key payload =>
    rw [RunLog.write] at hlog ⊢
    rw [inOrder, Bool.not_eq_true'] at horder
    cases hl : insertTextBlock log epoch id now key payload with
    | none => exact hone _ inv.inv (.inl rfl)
    | some l => exact hone l (by rw [hl] at hlog; exact hlog) (.inr (insertTextBlock_factWrite horder hl))
  | textFinish id phase payload preview revision =>
    rw [RunLog.write] at hlog ⊢
    rw [inOrder, Bool.not_eq_true'] at horder
    cases hl : updateTextBlock log id phase payload preview revision with
    | none => exact hone _ inv.inv (.inl rfl)
    | some l => exact hone l (by rw [hl] at hlog; exact hlog) (.inr (updateTextBlock_factWrite inv horder hl))
  | inputRecord =>
    rw [inOrder, Bool.not_eq_true'] at horder
    exact hone _ hlog (recordInput_factWrite horder)
  | inputChanged key => exact hone _ hlog (inputChanged_factWrite inv key)

end

end Rovai
