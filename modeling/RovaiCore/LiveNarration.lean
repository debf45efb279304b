import RovaiCore.Runs
import Mathlib.Order.Lattice
/-!
# Live narration (`execution-presentation/index.ts`)

The desktop builds the narration of a text block from polled snapshots and live deltas: a snapshot replaces what is held, and a
delta appends what its UTF-16 offset says is unseen.
-/
namespace Rovai.Presentation

open List

abbrev JsString := List UInt16

inductive LiveEvent where
  | textBlock (id : String) (blockId : Option String) (text : Option JsString) (status : Option String) (outputTruncated : Bool)
      (textLength : Option Int)
  | textDelta (itemId : Option String) (delta : Option JsString) (textOffset : Option Int)
  | boundary

structure LiveRuntimeEvent where
  agentRunId : String
  event : LiveEvent

/-- The part of `buildLiveExecutionProgress` that its narration items are read from. -/
structure Narrations where
  narrationByItem : String → Option JsString
  (settledNarration completeNarration : String → Bool)
  anonymousNarrationSegment : Nat
  activeAnonymousNarrationItemId : Option String
  itemOrder : List String

namespace Narrations

def initial : Narrations := ⟨fun _ => none, fun _ => false, fun _ => false, 0, none, []⟩

variable (s : Narrations) (itemId : String)

def rememberItem : Narrations :=
  if itemId ∈ s.itemOrder then s else { s with itemOrder := s.itemOrder ++ [itemId] }

def anonymousNarrationItemId : Narrations × String :=
  match s.activeAnonymousNarrationItemId with
  | some itemId => (s, itemId)
  | none =>
    let itemId := s!"anonymous-{s.anonymousNarrationSegment + 1}"
    ({ s with anonymousNarrationSegment := s.anonymousNarrationSegment + 1, activeAnonymousNarrationItemId := some itemId }, itemId)

def narration : JsString := (s.narrationByItem itemId).getD []

/-- What of a delta follows the text that is held; `slice` counts no negative start. -/
def unseen (previous delta : JsString) : Option Int → JsString
  | none => delta
  | some offset => delta.drop (previous.length - offset).toNat

def textBlock (text : JsString) (status : Option String) (outputTruncated : Bool)
    (textLength : Option Int) : Narrations :=
  let s := s.rememberItem itemId
  { s with
    narrationByItem := Function.update s.narrationByItem itemId (some text)
    settledNarration :=
      if status ≠ some "streaming" then Function.update s.settledNarration itemId true else s.settledNarration
    completeNarration := Function.update s.completeNarration itemId
      (decide (status = some "completed") && !outputTruncated && decide (textLength.getD text.length ≤ text.length)) }

def textDelta (delta : JsString) (textOffset : Option Int) : Narrations :=
  if s.settledNarration itemId then s
  else
    let s := s.rememberItem itemId
    let previous := s.narration itemId
    { s with narrationByItem := Function.update s.narrationByItem itemId (some (previous ++ unseen previous delta textOffset)) }

def step (agentRunId : String) (s : Narrations) (e : LiveRuntimeEvent) : Narrations :=
  if e.agentRunId ≠ agentRunId then s
  else
    match e.event with
    | .textBlock id blockId text status outputTruncated textLength =>
      s.textBlock (blockId.getD id) (text.getD []) status outputTruncated textLength
    | .textDelta (some itemId) delta textOffset =>
      { s with activeAnonymousNarrationItemId := none }.textDelta itemId (delta.getD []) textOffset
    | .textDelta none delta textOffset =>
      (s.anonymousNarrationItemId.1).textDelta s.anonymousNarrationItemId.2 (delta.getD []) textOffset
    | .boundary => { s with activeAnonymousNarrationItemId := none }

def buildLiveExecutionProgress (events : List LiveRuntimeEvent) (agentRunId : String) : Narrations :=
  events.foldl (step agentRunId) initial

@[simp] theorem rememberItem_narration (itemId other : String) :
    (s.rememberItem itemId).narration other = s.narration other := by
  unfold rememberItem
  split <;> rfl

@[simp] theorem rememberItem_settled (itemId : String) :
    (s.rememberItem itemId).settledNarration = s.settledNarration := by
  unfold rememberItem
  split <;> rfl

@[simp] theorem textBlock_narration (itemId : String) (text : JsString) (status : Option String) (truncated : Bool)
    (length : Option Int) : (s.textBlock itemId text status truncated length).narration itemId = text := by
  simp [textBlock, narration]

theorem textBlock_settled (itemId : String) (text : JsString) (status : Option String) (truncated : Bool)
    (length : Option Int) : (s.textBlock itemId text status truncated length).settledNarration itemId =
      (decide (status ≠ some "streaming") || s.settledNarration itemId) := by
  by_cases hstatus : status = some "streaming" <;> simp [textBlock, hstatus]

theorem textDelta_narration (itemId : String) (delta : JsString) (offset : Option Int) :
    (s.textDelta itemId delta offset).narration itemId =
      if s.settledNarration itemId then s.narration itemId
      else s.narration itemId ++ unseen (s.narration itemId) delta offset := by
  unfold textDelta
  split
  · rfl
  · simp only [rememberItem_narration]
    simp [narration]

@[simp] theorem textDelta_settled (itemId : String) (delta : JsString) (offset : Option Int) :
    (s.textDelta itemId delta offset).settledNarration = s.settledNarration := by
  unfold textDelta
  split
  · rfl
  · exact rememberItem_settled s itemId

end Narrations

open Narrations

/-! ## The events of a block -/

def LiveEvent.received : LiveEvent → Nat
  | .textBlock _ _ text _ _ _ => (text.getD []).length
  | .textDelta _ delta offset => (offset.getD 0).toNat + (delta.getD []).length
  | .boundary => 0

def longestReceived (events : List LiveRuntimeEvent) : Nat := events.foldl (fun n e => max n e.event.received) 0

inductive OfBlock (run b : String) (T : JsString) (longest : Nat) : LiveRuntimeEvent → Prop
  | streaming (id text truncated length) : text <+: T →
      OfBlock run b T longest ⟨run, .textBlock id (some b) (some text) (some "streaming") truncated length⟩
  | settled (id status truncated length) : status ≠ some "streaming" →
      OfBlock run b T longest ⟨run, .textBlock id (some b) (some T) status truncated length⟩
  | delta (offset n : Nat) : offset ≤ longest → offset + n ≤ T.length →
      OfBlock run b T longest ⟨run, .textDelta (some b) (some ((T.drop offset).take n)) (some offset)⟩

def AllReceived (ok : Nat → LiveRuntimeEvent → Prop) (events : List LiveRuntimeEvent) : Prop :=
  Runs.AllSteps (fun n e => max n e.event.received) ok 0 events

def LiveEvent.Settles : LiveEvent → Prop
  | .textBlock _ _ _ status _ _ => status ≠ some "streaming"
  | _ => False

/-- What is held after the events: a prefix of the final text, no shorter than what was received, and the whole text from the
settled snapshot on. -/
structure Follows (run b : String) (T : JsString) (events : List LiveRuntimeEvent) : Prop where
  prefixed : (buildLiveExecutionProgress events run).narration b <+: T
  longest : longestReceived events ≤ ((buildLiveExecutionProgress events run).narration b).length
  settled : (∃ e ∈ events, e.event.Settles) → (buildLiveExecutionProgress events run).narration b = T

def LiveEvent.Keeps (longest : Nat) : LiveEvent → Prop
  | .textBlock _ _ text status _ _ => status = some "streaming" → longest ≤ (text.getD []).length
  | _ => True

/-! ## The run of a block -/

/-- A run of the loop, with the longest prefix received and whether the block has settled. -/
structure Reception where
  held : Narrations
  longest : Nat
  settled : Prop

namespace Reception

def initial : Reception := ⟨.initial, 0, False⟩

def step (run : String) (r : Reception) (e : LiveRuntimeEvent) : Reception :=
  ⟨r.held.step run e, max r.longest e.event.received, r.settled ∨ e.event.Settles⟩

theorem foldl_eq (run : String) : ∀ (events : List LiveRuntimeEvent) (r : Reception), events.foldl (step run) r =
    ⟨events.foldl (Narrations.step run) r.held, events.foldl (fun n e => max n e.event.received) r.longest,
      r.settled ∨ ∃ e ∈ events, e.event.Settles⟩
  | [], r => by simp
  | e :: events, r => by
    rw [foldl_cons, foldl_eq run events]
    simp [step, or_assoc]

theorem foldl_initial (run : String) (events : List LiveRuntimeEvent) : events.foldl (step run) initial =
    ⟨buildLiveExecutionProgress events run, longestReceived events, ∃ e ∈ events, e.event.Settles⟩ := by
  rw [foldl_eq]
  simp [initial, buildLiveExecutionProgress, longestReceived]

/-- A block that has settled is one that the loop knows as settled, and its whole text was received. -/
structure Inv (b : String) (T : JsString) (r : Reception) : Prop where
  known : r.held.settledNarration b = true ↔ r.settled
  whole : r.settled → T.length ≤ r.longest

structure Good (b : String) (T : JsString) (r : Reception) : Prop where
  prefixed : r.held.narration b <+: T
  longest : r.longest ≤ (r.held.narration b).length
  settled : r.settled → r.held.narration b = T

variable {run b : String} {T : JsString} {r : Reception} {e : LiveRuntimeEvent}

theorem Good.of_whole (hheld : r.held.narration b = T) (hlongest : r.longest ≤ T.length) : Good b T r where
  prefixed := by simp [hheld]
  longest := by simpa [hheld] using hlongest
  settled := fun _ => hheld

theorem inv_step (h : OfBlock run b T r.longest e) (inv : Inv b T r) : Inv b T (r.step run e) := by
  cases h with
  | streaming =>
    constructor
    · simp [step, Narrations.step, textBlock_settled, LiveEvent.Settles, inv.known]
    · rintro (hsettled | hsettles)
      · exact Nat.le_trans (inv.whole hsettled) (Nat.le_max_left _ _)
      · exact absurd rfl hsettles
  | settled id status truncated length hstatus =>
    constructor
    · simp [step, Narrations.step, textBlock_settled, LiveEvent.Settles, hstatus]
    · intro _
      exact Nat.le_max_right _ _
  | delta =>
    constructor
    · simp [step, Narrations.step, LiveEvent.Settles, inv.known]
    · rintro (hsettled | hsettles)
      · exact Nat.le_trans (inv.whole hsettled) (Nat.le_max_left _ _)
      · exact hsettles.elim

theorem unseen_continues {previous : JsString} {offset n : Nat} (hprevious : previous <+: T) (hoffset : offset ≤ previous.length) :
    previous ++ unseen previous ((T.drop offset).take n) (some offset) =
      T.take (max previous.length (offset + n)) := by
  have hskip : ((previous.length : Int) - (offset : Int)).toNat = previous.length - offset := by omega
  have hstart : offset + (previous.length - offset) = previous.length := by omega
  have hend : max previous.length (offset + n) = previous.length + (n - (previous.length - offset)) := by omega
  calc previous ++ unseen previous ((T.drop offset).take n) (some offset)
      = previous ++ (T.drop previous.length).take (n - (previous.length - offset)) := by
        rw [unseen, hskip, drop_take, drop_drop, hstart]
    _ = T.take previous.length ++ (T.drop previous.length).take (n - (previous.length - offset)) := by
        rw [← prefix_iff_eq_take.1 hprevious]
    _ = T.take (max previous.length (offset + n)) := by
        rw [hend, take_add]

theorem good_step (h : OfBlock run b T r.longest e) (inv : Inv b T r) (good : Good b T r) :
    Good b T (r.step run e) ↔ e.event.Keeps r.longest := by
  cases h with
  | streaming id text truncated length htext =>
    have hheld : (r.step run ⟨run, .textBlock id (some b) (some text) (some "streaming") truncated length⟩).held.narration b
        = text := by
      simp [step, Narrations.step]
    constructor
    · intro good' _
      have hlongest := good'.longest
      rw [hheld] at hlongest
      exact Nat.le_trans (Nat.le_max_left _ _) hlongest
    · intro hkeeps
      have hlength : r.longest ≤ text.length := hkeeps rfl
      refine ⟨by rwa [hheld], ?_, ?_⟩
      · rw [hheld]
        exact Nat.max_le.2 ⟨hlength, Nat.le_refl _⟩
      · rintro (hsettled | hsettles)
        · rw [hheld]
          exact htext.eq_of_length_le (Nat.le_trans (inv.whole hsettled) hlength)
        · exact absurd rfl hsettles
  | settled id status truncated length hstatus =>
    have hheld : (r.step run ⟨run, .textBlock id (some b) (some T) status truncated length⟩).held.narration b = T := by
      simp [step, Narrations.step]
    refine iff_of_true (.of_whole hheld ?_) (fun hstreaming => absurd hstreaming hstatus)
    exact Nat.max_le.2 ⟨Nat.le_trans good.longest good.prefixed.length_le, Nat.le_refl _⟩
  | delta offset n hoffset hn =>
    have hlength : ((T.drop offset).take n).length = n := by
      rw [length_take, length_drop]
      omega
    refine iff_of_true ?_ trivial
    have hheld : (r.step run ⟨run, .textDelta (some b) (some ((T.drop offset).take n)) (some offset)⟩).held.narration b =
        if r.held.settledNarration b then r.held.narration b
        else r.held.narration b ++ unseen (r.held.narration b) ((T.drop offset).take n) (some offset) := by
      simp only [step, Narrations.step, ne_eq, not_true_eq_false, if_false, textDelta_narration]
      rfl
    have hreceived : (r.step run ⟨run, .textDelta (some b) (some ((T.drop offset).take n)) (some offset)⟩).longest =
        max r.longest (offset + n) := by
      simp [step, LiveEvent.received, hlength]
    by_cases hsettled : r.settled
    · have hwhole := good.settled hsettled
      rw [if_pos (inv.known.2 hsettled), hwhole] at hheld
      refine .of_whole hheld ?_
      rw [hreceived]
      exact Nat.max_le.2 ⟨hwhole ▸ good.longest, hn⟩
    · rw [if_neg fun h => hsettled (inv.known.1 h),
        unseen_continues good.prefixed (Nat.le_trans hoffset good.longest)] at hheld
      refine ⟨by rw [hheld]; exact take_prefix _ T, ?_, ?_⟩
      · rw [hheld, hreceived, length_take]
        have hheldLength := good.prefixed.length_le
        have hlongest := good.longest
        omega
      · rintro (hsettled' | hsettles)
        · exact absurd hsettled' hsettled
        · exact hsettles.elim

end Reception

/-- **The narration follows the text offsets exactly when no streaming snapshot is shorter than what was received before it.** -/
theorem narration_follows_offsets (run b : String) (T : JsString) (events : List LiveRuntimeEvent)
    (h : AllReceived (OfBlock run b T) events) :
    (∀ before, before <+: events → Follows run b T before) ↔ AllReceived (fun longest e => e.event.Keeps longest) events := by
  have hof : Runs.AllSteps (Reception.step run) (fun r e => OfBlock run b T r.longest e) .initial events :=
    (Runs.allSteps_iff _).2 fun before e hprefix => by
      rw [Reception.foldl_initial]
      exact (Runs.allSteps_iff _).1 h before e hprefix
  have hinv : Reception.Inv b T .initial := ⟨by simp [Reception.initial, Narrations.initial], False.elim⟩
  have hgood : Reception.Good b T .initial := ⟨List.nil_prefix, Nat.le_refl _, False.elim⟩
  have hall := Runs.always_iff_allSteps (Reception.step run) (fun _ _ => Reception.inv_step)
    (fun _ _ => Reception.good_step) hof hinv hgood
  rw [Runs.allSteps_iff] at hall
  simp only [Reception.foldl_initial] at hall
  rw [AllReceived, Runs.allSteps_iff]
  refine Iff.trans (forall_congr' fun before => imp_congr_right fun _ => ?_) hall
  exact ⟨fun hfollows => ⟨hfollows.prefixed, hfollows.longest, hfollows.settled⟩,
    fun hgood => ⟨hgood.prefixed, hgood.longest, hgood.settled⟩⟩

/-- Deltas that overlap a snapshot, and one that follows the completed snapshot. -/
theorem narration_follows_offsets_overlapping : Follows "run" "block" [97, 98, 99, 100]
    [⟨"run", .textDelta (some "block") (some [97, 98]) (some 0)⟩,
      ⟨"run", .textBlock "e" (some "block") (some [97, 98, 99]) (some "streaming") false none⟩,
      ⟨"run", .textDelta (some "block") (some [98, 99, 100]) (some 1)⟩,
      ⟨"run", .textBlock "e" (some "block") (some [97, 98, 99, 100]) (some "completed") false none⟩,
      ⟨"run", .textDelta (some "block") (some [100]) (some 3)⟩] := by
  refine (narration_follows_offsets "run" "block" [97, 98, 99, 100] _ ?_).2 ?_ _ prefix_rfl
  · exact ⟨.delta 0 2 (by decide) (by decide), .streaming _ _ _ _ (by decide), .delta 1 3 (by decide) (by decide),
      .settled _ _ _ _ (by decide), .delta 3 1 (by decide) (by decide), trivial⟩
  · exact ⟨trivial, fun _ => by decide, trivial, nofun, trivial, trivial⟩

/-- A snapshot that was read before the deltas takes their text back, and the next delta is put after the gap. -/
theorem shorter_snapshot_loses_text : ¬∀ (run b : String) (T : JsString) (events : List LiveRuntimeEvent),
    AllReceived (OfBlock run b T) events → ∀ before, before <+: events → Follows run b T before := by
  intro hclaim
  have hfollows := hclaim "run" "block" [97, 98, 99, 100]
    [⟨"run", .textDelta (some "block") (some [97, 98, 99]) (some 0)⟩,
      ⟨"run", .textBlock "e" (some "block") (some [97]) (some "streaming") false none⟩,
      ⟨"run", .textDelta (some "block") (some [100]) (some 3)⟩]
    ⟨.delta 0 3 (by decide) (by decide), .streaming _ _ _ _ (by decide), .delta 3 1 (by decide) (by decide), trivial⟩ _
    prefix_rfl
  have hheld := hfollows.prefixed
  revert hheld
  decide

end Rovai.Presentation
