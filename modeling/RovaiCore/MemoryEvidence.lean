import RovaiCore.MemoryCalls
import RovaiCore.ListRules
import Mathlib.Data.List.Induction
/-!
# Access evidence and what it says

Where the identities and the times of the rows are drawn from a source that does not repeat and a clock that goes forward, a row is
always recorded, and the last revision that a binding was given is the last one in the table (`previous_eq`).
-/
namespace Rovai.Memory

open List

/-! ## Recording -/

variable (w : Outside) (run : ReadIdentity)

def Database.append (d : Database) (o : Observation) : Database :=
  { d with drawn := d.drawn + 1, evidence := d.evidence ++ [o.row w run d.drawn] }

def Database.recorded (d : Database) (observations : List Observation) : Database :=
  observations.foldl (Database.append w run) d

structure Database.Drawn (d : Database) : Prop where
  drawn : ∀ row ∈ d.evidence, ∃ i < d.drawn, row.id = w.newId i ∧ row.createdAt = w.now i
  ordered : d.evidence.Pairwise fun a b => a.createdAt < b.createdAt

variable {w run}

theorem recorded_snoc (d : Database) (observations : List Observation) (o : Observation) :
    d.recorded w run (observations ++ [o]) = (d.recorded w run observations).append w run o := by
  unfold Database.recorded
  rw [foldl_append]
  rfl

variable {d : Database}

theorem drawn_append (hnow : StrictMono w.now) (h : d.Drawn w) (o : Observation) : (d.append w run o).Drawn w where
  drawn row hrow := by
    obtain hrow | hrow := mem_append.1 hrow
    · obtain ⟨i, hi, hrow⟩ := h.drawn row hrow
      exact ⟨i, Nat.lt_succ_of_lt hi, hrow⟩
    · obtain rfl := mem_singleton.1 hrow
      exact ⟨d.drawn, Nat.lt_succ_self d.drawn, rfl, rfl⟩
  ordered := by
    refine pairwise_append.2 ⟨h.ordered, pairwise_singleton _ _, fun a ha b hb => ?_⟩
    obtain ⟨i, hi, -, htime⟩ := h.drawn a ha
    obtain rfl := mem_singleton.1 hb
    rw [htime]
    exact hnow hi

theorem drawn_recorded (hnow : StrictMono w.now) (h : d.Drawn w) (observations : List Observation) :
    (d.recorded w run observations).Drawn w := by
  induction observations using List.reverseRecOn with
  | nil => exact h
  | append_singleton observations o ih =>
    rw [recorded_snoc]
    exact drawn_append hnow ih o

theorem same_recorded (d : Database) (observations : List Observation) : d.Same (d.recorded w run observations) := by
  induction observations using List.reverseRecOn with
  | nil => exact Database.Same.refl d
  | append_singleton observations o ih =>
    rw [recorded_snoc]
    exact ih.trans ⟨rfl, rfl, rfl⟩

/-- **A row is always recorded**: its identity is not taken. -/
theorem recordEvidence_eq (hid : Function.Injective w.newId) (h : d.Drawn w) (o : Observation) :
    d.recordEvidence w run o = (d.append w run o, .ok ()) := by
  unfold Database.recordEvidence
  rw [if_neg]
  · rfl
  rw [any_eq_true]
  rintro ⟨row, hrow, htaken⟩
  obtain ⟨i, hi, hrowId, -⟩ := h.drawn row hrow
  have hsame : w.newId i = w.newId d.drawn := hrowId.symm.trans (of_decide_eq_true htaken)
  exact absurd (hid hsame) (Nat.ne_of_lt hi)

/-! ## What was given -/

structure Returned where
  nativeBindingId : String
  nativeBindingGeneration : Int
  (memoryId revisionId : String)

def Returned.isFor (run : ReadIdentity) (memoryId : String) (entry : Returned) : Bool :=
  entry.nativeBindingId = run.nativeBindingId ∧ entry.nativeBindingGeneration = run.nativeBindingGeneration ∧
    entry.memoryId = memoryId

def lastReturned (log : List Returned) (run : ReadIdentity) (memoryId : String) : Option String :=
  (log.filter (Returned.isFor run memoryId)).getLast?.map Returned.revisionId

def EvidenceRow.returned (row : EvidenceRow) : Option Returned :=
  if row.outcome = .current ∨ row.outcome = .revisionChanged then
    row.observedRevisionId.map fun revisionId => ⟨row.nativeBindingId, row.nativeBindingGeneration, row.memoryId, revisionId⟩
  else none

def Observation.returned (run : ReadIdentity) (o : Observation) : Option Returned :=
  if o.outcome = .current ∨ o.outcome = .revisionChanged then
    o.revisionId.map fun revisionId => ⟨run.nativeBindingId, run.nativeBindingGeneration, o.memoryId, revisionId⟩
  else none

def Database.returned (d : Database) : List Returned := d.evidence.filterMap EvidenceRow.returned

theorem returned_recorded (d : Database) (observations : List Observation) :
    (d.recorded w run observations).returned = d.returned ++ observations.filterMap (Observation.returned run) := by
  induction observations using List.reverseRecOn with
  | nil => exact (append_nil _).symm
  | append_singleton observations o ih =>
    unfold Database.returned at ih ⊢
    rw [recorded_snoc]
    unfold Database.append
    rw [filterMap_append, ih, filterMap_append, append_assoc]
    rfl

/-! ## The last row is the last that was given -/

variable {memoryId : String}

theorem returned_of_isAuthorized {row : EvidenceRow} (h : row.isAuthorized run memoryId = true) :
    ∃ entry, row.returned = some entry ∧ entry.isFor run memoryId = true ∧ row.observedRevisionId = some entry.revisionId := by
  obtain ⟨hbinding, hgeneration, hmemory, hobserved, houtcome⟩ := of_decide_eq_true h
  obtain ⟨revisionId, hrevision⟩ := Option.isSome_iff_exists.1 hobserved
  refine ⟨⟨row.nativeBindingId, row.nativeBindingGeneration, row.memoryId, revisionId⟩, ?_, ?_, hrevision⟩
  · unfold EvidenceRow.returned
    rw [if_pos houtcome, hrevision]
    rfl
  · exact decide_eq_true ⟨hbinding, hgeneration, hmemory⟩

theorem isAuthorized_of_returned {row : EvidenceRow} {entry : Returned} (h : row.returned = some entry)
    (hfor : entry.isFor run memoryId = true) : row.isAuthorized run memoryId = true := by
  unfold EvidenceRow.returned at h
  split at h
  · rename_i houtcome
    obtain ⟨revisionId, hrevision, rfl⟩ := Option.map_eq_some_iff.1 h
    obtain ⟨hbinding, hgeneration, hmemory⟩ := of_decide_eq_true hfor
    exact decide_eq_true ⟨hbinding, hgeneration, hmemory, by rw [hrevision]; rfl, houtcome⟩
  · cases h

theorem getLast?_authorized (memoryId : String) (rows : List EvidenceRow) :
    (rows.filter (EvidenceRow.isAuthorized run memoryId)).getLast?.bind EvidenceRow.observedRevisionId =
      lastReturned (rows.filterMap EvidenceRow.returned) run memoryId := by
  unfold lastReturned
  induction rows using List.reverseRecOn with
  | nil => rfl
  | append_singleton rows row ih =>
    rw [filter_append, filterMap_append, filter_append]
    cases hauthorized : row.isAuthorized run memoryId with
    | true =>
      obtain ⟨entry, hentry, hfor, hobserved⟩ := returned_of_isAuthorized hauthorized
      rw [filter_cons_of_pos hauthorized, filter_nil, getLast?_concat, Option.bind_some, hobserved,
        filterMap_cons_some hentry, filterMap_nil, filter_cons_of_pos hfor, filter_nil, getLast?_concat]
      rfl
    | false =>
      have hrest : (List.filterMap EvidenceRow.returned [row]).filter (Returned.isFor run memoryId) = [] := by
        rw [filter_eq_nil_iff]
        intro entry hentry hfor
        obtain ⟨row', hrow', hreturned⟩ := mem_filterMap.1 hentry
        obtain rfl := mem_singleton.1 hrow'
        rw [isAuthorized_of_returned hreturned hfor] at hauthorized
        cases hauthorized
      rw [filter_cons_of_neg (by rw [hauthorized]; decide), filter_nil, append_nil, ih, hrest, append_nil]

/-- **What the table says was given last.** -/
theorem previous_eq (h : d.Drawn w) (memoryId : String) :
    d.previousAuthorizedRevision run memoryId = lastReturned d.returned run memoryId := by
  unfold Database.previousAuthorizedRevision Database.returned
  rw [Lists.insertionSort_eq_reverse, head?_reverse]
  · exact getLast?_authorized memoryId d.evidence
  refine (h.ordered.sublist filter_sublist).imp fun {a b} hlt hle => ?_
  obtain hgt | ⟨heq, -⟩ := hle
  · exact absurd hgt (not_lt_of_gt hlt)
  · exact absurd heq hlt.ne

theorem lastReturned_append_of_ne {log more : List Returned} (h : ∀ entry ∈ more, entry.memoryId ≠ memoryId) :
    lastReturned (log ++ more) run memoryId = lastReturned log run memoryId := by
  have hmore : more.filter (Returned.isFor run memoryId) = [] := by
    rw [filter_eq_nil_iff]
    intro entry hentry hfor
    exact h entry hentry (of_decide_eq_true hfor).2.2
  unfold lastReturned
  rw [filter_append, hmore, append_nil]

/-! ## The plain outside -/

theorem newId_injective : Function.Injective plainOutside.newId := by
  intro i j h
  have hlists : List.replicate i 'e' = List.replicate j 'e' := String.ofList_injective h
  simpa using congrArg List.length hlists

theorem now_strictMono : StrictMono plainOutside.now := by
  refine strictMono_nat_of_lt_succ fun n => ?_
  unfold plainOutside
  rw [String.lt_iff_toList_lt, String.toList_ofList, String.toList_ofList]
  induction n with
  | zero => decide
  | succ n ih => exact List.Lex.cons ih

end Rovai.Memory
