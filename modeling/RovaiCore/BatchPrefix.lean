import RovaiCore.ClaimPayload
import Mathlib.Order.Bounds.Defs
/-!
# The prefix of a claim (`delivery_queue.rs`)

`select_batch_prefix` takes waiting messages one by one until the context does not fit.
-/
namespace Rovai.BatchClaims

open List

structure WaitingDelivery where
  (id messageId : String)
  (structuredContentJson continuationSourceRunId : Option String)

structure BatchPrefixSelection where
  context : Option ClaimedBatchContext
  count : Nat
  failureCode : Option String
  skillSelection : SkillSelectionSnapshot
  hasAdditionalPublicMessages : Bool

structure BatchRequest where
  (campId agentId : String)
  (previousPublicBoundary campPublicTail : Int)
  maxPayloadBytes : Nat

structure PrefixContext where
  skillSelection : SkillSelectionSnapshot
  hasAdditionalPublicMessages : Bool
  context : ClaimedBatchContext

abbrev BatchContent := List Segment × List Nat

namespace ClaimReads

variable (reads : ClaimReads) (request : BatchRequest)

def appendContent (content : BatchContent) (position : Nat) (delivery : WaitingDelivery) : Except String BatchContent :=
  match delivery.structuredContentJson with
  | none => .ok content
  | some json => do
    let segments ← reads.parseContent json
    .ok (content.1 ++ segments, content.2 ++ List.replicate segments.length position)

def buildContext (base : ClaimedBatchContext) (content : BatchContent) (messageIds : List String) :
    Except String PrefixContext := do
  let skillSelection ← freezeSkillSelection reads.catalog content.1 content.2
  let skillLinks ← projectedSkillLinksForClaim reads.catalog skillSelection
  let messages ← reads.inputMessagesOf request.campId request.campPublicTail messageIds
  let hasAdditionalPublicMessages := reads.hasAdditionalPublicMessages request.campId request.agentId
    request.previousPublicBoundary request.campPublicTail messageIds
  let context ← reads.withInput base request.agentId request.maxPayloadBytes (runInputProjection skillLinks messages)
    skillSelection request.previousPublicBoundary hasAdditionalPublicMessages
  .ok { skillSelection, hasAdditionalPublicMessages, context }

def selected (count : Nat) (found : PrefixContext) : BatchPrefixSelection where
  context := some found.context
  count := count
  failureCode := none
  skillSelection := found.skillSelection
  hasAdditionalPublicMessages := found.hasAdditionalPublicMessages

def payloadTooLarge (count : Nat) (found : PrefixContext) : BatchPrefixSelection where
  context := none
  count := count
  failureCode := some "context_payload_too_large"
  skillSelection := found.skillSelection
  hasAdditionalPublicMessages := found.hasAdditionalPublicMessages

/-- The loop: `count` messages are taken, `previous` is what was built of them, and `rest` are those that still wait. -/
def selectFrom (reads : ClaimReads) (request : BatchRequest) (base : ClaimedBatchContext) (atomicInput : Bool)
    (waiting : List WaitingDelivery) :
    Nat → BatchContent → Option PrefixContext → List WaitingDelivery → Except String BatchPrefixSelection
  | _, _, previous, [] => (Fallible.orError previous "Delivery claim selected an empty input batch").map (selected waiting.length)
  | count, content, previous, delivery :: rest => do
    let content ← reads.appendContent content count delivery
    if atomicInput && decide (count + 1 < waiting.length) then
      selectFrom reads request base atomicInput waiting (count + 1) content previous rest
    else
      let found ← reads.buildContext request base content ((waiting.take (count + 1)).map WaitingDelivery.messageId)
      if request.maxPayloadBytes < found.context.payloadLen then
        .ok (match previous with
          | some before => selected count before
          | none => payloadTooLarge (if atomicInput then waiting.length else 1) found)
      else selectFrom reads request base atomicInput waiting (count + 1) content (some found) rest

def selectBatchPrefix (first : WaitingDelivery) (rest : List WaitingDelivery) : Except String BatchPrefixSelection := do
  let base ← reads.prepared
  selectFrom reads request base first.continuationSourceRunId.isSome (first :: rest) 0 ([], []) none (first :: rest)

/-! ## The context of a prefix -/

def contentFrom (reads : ClaimReads) : Nat → BatchContent → List WaitingDelivery → Except String BatchContent
  | _, content, [] => .ok content
  | position, content, delivery :: rest => do
    let content ← reads.appendContent content position delivery
    contentFrom reads (position + 1) content rest

def contextOf (base : ClaimedBatchContext) (messages : List WaitingDelivery) : Except String PrefixContext := do
  let content ← contentFrom reads 0 ([], []) messages
  reads.buildContext request base content (messages.map WaitingDelivery.messageId)

def Fits (waiting : List WaitingDelivery) (k : Nat) : Prop :=
  ∃ base found, reads.prepared = .ok base ∧ reads.contextOf request base (waiting.take k) = .ok found ∧
    found.context.payloadLen ≤ request.maxPayloadBytes

/-! ## Fewer messages -/

variable {reads request} {base : ClaimedBatchContext}

theorem contentFrom_append (later : List WaitingDelivery) : ∀ (messages : List WaitingDelivery) (position : Nat)
    (content : BatchContent), reads.contentFrom position content (messages ++ later) =
      reads.contentFrom position content messages >>= fun content => reads.contentFrom (position + messages.length) content later
  | [], _, _ => rfl
  | delivery :: messages, position, content => by
    rw [cons_append, contentFrom, contentFrom, bind_assoc]
    refine congrArg _ (funext fun content => ?_)
    rw [contentFrom_append later messages (position + 1) content, length_cons, Nat.add_assoc, Nat.add_comm 1]

structure ContentGrows (content content' : BatchContent) : Prop where
  segments : content.1 <+: content'.1
  positions : content.2 <+: content'.2

variable {content content' : BatchContent} {delivery : WaitingDelivery}

theorem contentGrows_of_append {position : Nat}
    (h : reads.appendContent content position delivery = .ok content') : ContentGrows content content' := by
  unfold appendContent at h
  split at h
  · cases h
    exact ⟨prefix_rfl, prefix_rfl⟩
  · obtain ⟨segments, -, h⟩ := Fallible.bind_eq_ok.1 h
    cases h
    exact ⟨prefix_append _ _, prefix_append _ _⟩

theorem contentGrows_of_contentFrom : ∀ {messages : List WaitingDelivery} {position : Nat} {content content' : BatchContent},
    reads.contentFrom position content messages = .ok content' → ContentGrows content content'
  | [], _, _, _, h => by
    cases h
    exact ⟨prefix_rfl, prefix_rfl⟩
  | delivery :: messages, position, content, content', h => by
    obtain ⟨content₁, happend, hrest⟩ := Fallible.bind_eq_ok.1 h
    have hone := contentGrows_of_append happend
    have hmore := contentGrows_of_contentFrom hrest
    exact ⟨hone.segments.trans hmore.segments, hone.positions.trans hmore.positions⟩

theorem freeze_ok {catalog : SkillCatalog} {content : List Segment} {positions : List Nat} {selection : SkillSelectionSnapshot}
    (h : freezeSkillSelection catalog content positions = .ok selection) :
    content.length = positions.length ∧ selection = selectionOf catalog (content.zip positions) := by
  unfold freezeSkillSelection at h
  split at h
  · cases h
  rename_i hlength
  obtain ⟨-, -, h⟩ := Fallible.bind_eq_ok.1 h
  cases h
  exact ⟨not_not.1 hlength, rfl⟩

theorem extends_of_grows {catalog : SkillCatalog} {selection selection' : SkillSelectionSnapshot}
    (hgrows : ContentGrows content content') (h : freezeSkillSelection catalog content.1 content.2 = .ok selection)
    (h' : freezeSkillSelection catalog content'.1 content'.2 = .ok selection') : Extends selection selection' := by
  obtain ⟨hlength, rfl⟩ := freeze_ok h
  obtain ⟨-, rfl⟩ := freeze_ok h'
  obtain ⟨more, hsegments⟩ := hgrows.segments
  obtain ⟨morePositions, hpositions⟩ := hgrows.positions
  apply extends_selectionOf
  rw [← hsegments, ← hpositions, zip_append hlength]
  exact prefix_append _ _

theorem inputMessagesOf_append {campId : String} {tail : Int} (later : List String) : ∀ (messageIds : List String),
    reads.inputMessagesOf campId tail (messageIds ++ later) = do
      let messages ← reads.inputMessagesOf campId tail messageIds
      let more ← reads.inputMessagesOf campId tail later
      .ok (messages ++ more)
  | [] => by
    rw [nil_append]
    cases reads.inputMessagesOf campId tail later <;> rfl
  | messageId :: messageIds => by
    rw [cons_append, inputMessagesOf, inputMessagesOf, inputMessagesOf_append later messageIds]
    cases reads.inputMessage campId tail messageId with
    | error error => rfl
    | ok message =>
      cases reads.inputMessagesOf campId tail messageIds with
      | error error => rfl
      | ok messages => cases reads.inputMessagesOf campId tail later <;> rfl

theorem length_inputMessagesOf {campId : String} {tail : Int} : ∀ {messageIds : List String} {messages : List SharedMessage},
    reads.inputMessagesOf campId tail messageIds = .ok messages → messages.length = messageIds.length
  | [], _, h => by
    cases h
    rfl
  | messageId :: messageIds, messages, h => by
    obtain ⟨message, -, h⟩ := Fallible.bind_eq_ok.1 h
    obtain ⟨rest, hrest, h⟩ := Fallible.bind_eq_ok.1 h
    cases h
    exact congrArg (· + 1) (length_inputMessagesOf hrest)

structure Built (reads : ClaimReads) (request : BatchRequest) (base : ClaimedBatchContext) (content : BatchContent)
    (messageIds : List String) (found : PrefixContext) : Prop where
  skillSelection : freezeSkillSelection reads.catalog content.1 content.2 = .ok found.skillSelection
  context : ∃ messages additionalSkills additional,
    reads.inputMessagesOf request.campId request.campPublicTail messageIds = .ok messages ∧
    reads.prepareAdditionalSkills request.agentId found.skillSelection = .ok additionalSkills ∧
    found.context = (base.setInput (runInputProjection (linksOf reads.catalog found.skillSelection) messages) additionalSkills
      (publicHistoryHint request.previousPublicBoundary additional)).popTasks request.maxPayloadBytes base.tasks.length

theorem built_of_buildContext {content : BatchContent} {messageIds : List String} {found : PrefixContext}
    (h : reads.buildContext request base content messageIds = .ok found) : Built reads request base content messageIds found := by
  obtain ⟨selection, hselection, h⟩ := Fallible.bind_eq_ok.1 h
  obtain ⟨links, hlinks, h⟩ := Fallible.bind_eq_ok.1 h
  obtain ⟨messages, hmessages, h⟩ := Fallible.bind_eq_ok.1 h
  obtain ⟨context, hcontext, h⟩ := Fallible.bind_eq_ok.1 h
  cases h
  obtain ⟨-, -, hlinks⟩ := Fallible.bind_eq_ok.1 hlinks
  cases hlinks
  unfold withInput at hcontext
  split at hcontext
  · obtain ⟨additionalSkills, hskills, hcontext⟩ := Fallible.bind_eq_ok.1 hcontext
    cases hcontext
    exact ⟨hselection, messages, additionalSkills, _, hmessages, hskills, rfl⟩
  · cases hcontext

/-- **A context that fits with more messages fits with fewer.** -/
theorem fits_of_longer {messages later : List WaitingDelivery} {found found' : PrefixContext} (hmessages : messages ≠ [])
    (hlater : later ≠ []) (h : reads.contextOf request base messages = .ok found)
    (h' : reads.contextOf request base (messages ++ later) = .ok found')
    (hfits : found'.context.payloadLen ≤ request.maxPayloadBytes) : found.context.payloadLen ≤ request.maxPayloadBytes := by
  obtain ⟨content, hcontent, hbuild⟩ := Fallible.bind_eq_ok.1 h
  obtain ⟨content', hcontent', hbuild'⟩ := Fallible.bind_eq_ok.1 h'
  rw [contentFrom_append, hcontent] at hcontent'
  have hgrows : ContentGrows content content' := contentGrows_of_contentFrom hcontent'
  have hbuilt := built_of_buildContext hbuild
  have hbuilt' := built_of_buildContext hbuild'
  have hextends := extends_of_grows hgrows hbuilt.skillSelection hbuilt'.skillSelection
  obtain ⟨input, skills, additional, hinput, hskills, hcontext⟩ := hbuilt.context
  obtain ⟨input', skills', additional', hinput', hskills', hcontext'⟩ := hbuilt'.context
  rw [map_append, inputMessagesOf_append] at hinput'
  obtain ⟨input₁, hinput₁, hinput'⟩ := Fallible.bind_eq_ok.1 hinput'
  obtain ⟨more, hmore, hinput'⟩ := Fallible.bind_eq_ok.1 hinput'
  cases hinput'
  rw [hinput] at hinput₁
  cases hinput₁
  have hlinks : LinksGrow (linksOf reads.catalog found.skillSelection) (linksOf reads.catalog found'.skillSelection) :=
    ⟨hextends.links reads.catalog, _, skillId_linksOf reads.catalog found'.skillSelection⟩
  have hne : input ≠ [] := by
    apply ne_nil_of_length_pos
    rw [length_inputMessagesOf hinput, length_map]
    exact length_pos_of_ne_nil hmessages
  have hmoreNe : more ≠ [] := by
    apply ne_nil_of_length_pos
    rw [length_inputMessagesOf hmore, length_map]
    exact length_pos_of_ne_nil hlater
  have hbelow := ClaimedBatchContext.below_setInput base
    (bytes_publicHistoryHint_le request.previousPublicBoundary additional additional')
    (prepareAdditionalSkills_le hextends hskills hskills') (bytes_runInputProjection_le hlinks hne hmoreNe)
  rw [hcontext'] at hfits
  rw [hcontext]
  exact hbelow.fits hfits

/-! ## Where the loop stops -/

def FitsOn (reads : ClaimReads) (request : BatchRequest) (base : ClaimedBatchContext) (messages : List WaitingDelivery)
    (found : PrefixContext) : Prop :=
  reads.contextOf request base messages = .ok found ∧ found.context.payloadLen ≤ request.maxPayloadBytes

def Exceeds (reads : ClaimReads) (request : BatchRequest) (base : ClaimedBatchContext) (messages : List WaitingDelivery)
    (found : PrefixContext) : Prop :=
  reads.contextOf request base messages = .ok found ∧ request.maxPayloadBytes < found.context.payloadLen

inductive OrdinaryEnd (reads : ClaimReads) (request : BatchRequest) (base : ClaimedBatchContext) (waiting : List WaitingDelivery) :
    Except String BatchPrefixSelection → Prop
  | all {found} (hfits : FitsOn reads request base waiting found) :
      OrdinaryEnd reads request base waiting (.ok (selected waiting.length found))
  | stopped {k found large} (hpos : 0 < k) (hlt : k < waiting.length) (hfits : FitsOn reads request base (waiting.take k) found)
      (hover : Exceeds reads request base (waiting.take (k + 1)) large) :
      OrdinaryEnd reads request base waiting (.ok (selected k found))
  | tooLarge {large} (hover : Exceeds reads request base (waiting.take 1) large) :
      OrdinaryEnd reads request base waiting (.ok (payloadTooLarge 1 large))
  | unreadable {k error} (hlt : k < waiting.length)
      (herror : reads.contextOf request base (waiting.take (k + 1)) = .error error)
      (hbefore : ∀ j, 0 < j → j ≤ k → ∃ found, FitsOn reads request base (waiting.take j) found) :
      OrdinaryEnd reads request base waiting (.error error)

def PreviousFits (reads : ClaimReads) (request : BatchRequest) (base : ClaimedBatchContext) (waiting : List WaitingDelivery)
    (count : Nat) (previous : Option PrefixContext) : Prop :=
  match previous with
  | none => count = 0
  | some found => 0 < count ∧ FitsOn reads request base (waiting.take count) found

variable {waiting : List WaitingDelivery}

theorem contentFrom_take_succ {count : Nat} {content : BatchContent}
    {rest : List WaitingDelivery}
    (hcontent : reads.contentFrom 0 ([], []) (waiting.take count) = .ok content)
    (hrest : waiting.drop count = delivery :: rest) :
    reads.contentFrom 0 ([], []) (waiting.take (count + 1)) = reads.appendContent content count delivery := by
  have hlt : count < waiting.length := by
    apply Nat.lt_of_not_le
    intro hle
    rw [drop_eq_nil_of_le hle] at hrest
    cases hrest
  have htake : waiting.take (count + 1) = waiting.take count ++ [delivery] := by
    rw [← take_append_drop count waiting, hrest]
    rw [take_append, take_append]
    simp [Nat.min_eq_left hlt.le]
  have hlength : (waiting.take count).length = count := length_take_of_le hlt.le
  rw [htake, contentFrom_append, hcontent, hlength]
  show (reads.appendContent content (0 + count) delivery >>= fun content => Except.ok content) = _
  rw [Nat.zero_add]
  cases reads.appendContent content count delivery <;> rfl

theorem selectFrom_cons {waiting rest : List WaitingDelivery} {atomicInput : Bool} {count : Nat}
    {previous : Option PrefixContext}
    (happend : reads.appendContent content count delivery = .ok content') :
    selectFrom reads request base atomicInput waiting count content previous (delivery :: rest) =
      if atomicInput && decide (count + 1 < waiting.length) then
        selectFrom reads request base atomicInput waiting (count + 1) content' previous rest
      else
        reads.buildContext request base content' ((waiting.take (count + 1)).map WaitingDelivery.messageId) >>= fun found =>
          if request.maxPayloadBytes < found.context.payloadLen then
            .ok (match previous with
              | some before => selected count before
              | none => payloadTooLarge (if atomicInput then waiting.length else 1) found)
          else selectFrom reads request base atomicInput waiting (count + 1) content' (some found) rest := by
  rw [selectFrom, happend]
  rfl

theorem contextOf_eq_build {messages : List WaitingDelivery} {content : BatchContent}
    (hcontent : reads.contentFrom 0 ([], []) messages = .ok content) :
    reads.contextOf request base messages = reads.buildContext request base content (messages.map WaitingDelivery.messageId) := by
  unfold contextOf
  rw [hcontent]
  rfl

theorem contextOf_eq_error {messages : List WaitingDelivery} {error : String}
    (hcontent : reads.contentFrom 0 ([], []) messages = .error error) :
    reads.contextOf request base messages = .error error := by
  unfold contextOf
  rw [hcontent]
  rfl

/-- **The loop, for an ordinary prefix**: it goes on as long as the messages so far fit. -/
theorem selectFrom_ordinary : ∀ {rest : List WaitingDelivery} {count : Nat}
    {content : BatchContent} {previous : Option PrefixContext}, waiting ≠ [] → waiting.drop count = rest → count ≤ waiting.length →
    reads.contentFrom 0 ([], []) (waiting.take count) = .ok content →
    PreviousFits reads request base waiting count previous →
    (∀ j, 0 < j → j ≤ count → ∃ found, FitsOn reads request base (waiting.take j) found) →
    OrdinaryEnd reads request base waiting (selectFrom reads request base false waiting count content previous rest)
  | [], count, content, previous, hne, hrest, hle, hcontent, hprevious, hbefore => by
    have hcount : count = waiting.length := by
      have := congrArg List.length hrest
      rw [length_drop, length_nil] at this
      omega
    have hpos := length_pos_of_ne_nil hne
    cases previous with
    | none =>
      have : count = 0 := hprevious
      omega
    | some found =>
      obtain ⟨-, hfits⟩ := hprevious
      rw [hcount, take_length] at hfits
      exact .all hfits
  | delivery :: rest, count, content, previous, hne, hrest, hle, hcontent, hprevious, hbefore => by
    have hlt : count < waiting.length := by
      have := congrArg List.length hrest
      rw [length_drop, length_cons] at this
      omega
    have hnext := contentFrom_take_succ hcontent hrest
    cases happend : reads.appendContent content count delivery with
    | error error =>
      rw [happend] at hnext
      rw [selectFrom, happend]
      exact .unreadable hlt (contextOf_eq_error hnext) hbefore
    | ok content' =>
      rw [happend] at hnext
      rw [selectFrom_cons happend, if_neg (by simp)]
      have hcontext : reads.contextOf request base (waiting.take (count + 1)) = _ := contextOf_eq_build hnext
      cases hbuild : reads.buildContext request base content' ((waiting.take (count + 1)).map WaitingDelivery.messageId) with
      | error error => exact .unreadable hlt (hcontext.trans hbuild) hbefore
      | ok found =>
        have hfound : reads.contextOf request base (waiting.take (count + 1)) = .ok found := hcontext.trans hbuild
        dsimp only [bind, Except.bind]
        by_cases hover : request.maxPayloadBytes < found.context.payloadLen
        · rw [if_pos hover]
          cases previous with
          | none =>
            have hzero : count = 0 := hprevious
            subst hzero
            exact .tooLarge ⟨hfound, hover⟩
          | some before => exact .stopped hprevious.1 hlt hprevious.2 ⟨hfound, hover⟩
        · rw [if_neg hover]
          have hfits : FitsOn reads request base (waiting.take (count + 1)) found := ⟨hfound, Nat.le_of_not_lt hover⟩
          refine selectFrom_ordinary hne ?_ hlt hnext ⟨Nat.succ_pos count, hfits⟩ fun j hpos hj => ?_
          · rw [← drop_drop, hrest]
            rfl
          · obtain hj | rfl := Nat.lt_or_eq_of_le hj
            · exact hbefore j hpos (Nat.le_of_lt_succ hj)
            · exact ⟨found, hfits⟩

inductive ContinuationEnd (reads : ClaimReads) (request : BatchRequest) (base : ClaimedBatchContext)
    (waiting : List WaitingDelivery) : Except String BatchPrefixSelection → Prop
  | all {found} (hfits : FitsOn reads request base waiting found) :
      ContinuationEnd reads request base waiting (.ok (selected waiting.length found))
  | tooLarge {large} (hover : Exceeds reads request base waiting large) :
      ContinuationEnd reads request base waiting (.ok (payloadTooLarge waiting.length large))
  | unreadable {error} (herror : reads.contextOf request base waiting = .error error) :
      ContinuationEnd reads request base waiting (.error error)

/-- **The loop, for a continuation**: nothing is built before the last input. -/
theorem selectFrom_continuation : ∀ {delivery : WaitingDelivery} {rest : List WaitingDelivery}
    {count : Nat} {content : BatchContent}, waiting.drop count = delivery :: rest →
    reads.contentFrom 0 ([], []) (waiting.take count) = .ok content →
    ContinuationEnd reads request base waiting (selectFrom reads request base true waiting count content none (delivery :: rest)) := by
  intro delivery rest
  induction rest generalizing delivery with
  | nil =>
    intro count content hrest hcontent
    have hlength : count + 1 = waiting.length := by
      have := congrArg List.length hrest
      rw [length_drop, length_singleton] at this
      omega
    have hnext := contentFrom_take_succ hcontent hrest
    rw [hlength, take_length] at hnext
    cases happend : reads.appendContent content count delivery with
    | error error =>
      rw [happend] at hnext
      rw [selectFrom, happend]
      exact .unreadable (contextOf_eq_error hnext)
    | ok content' =>
      rw [happend] at hnext
      have hcontext : reads.contextOf request base waiting = _ := contextOf_eq_build hnext
      rw [selectFrom_cons happend, hlength, take_length, if_neg (by simp)]
      cases hbuild : reads.buildContext request base content' (waiting.map WaitingDelivery.messageId) with
      | error error => exact .unreadable (hcontext.trans hbuild)
      | ok found =>
        have hfound : reads.contextOf request base waiting = .ok found := hcontext.trans hbuild
        dsimp only [bind, Except.bind]
        by_cases hover : request.maxPayloadBytes < found.context.payloadLen
        · rw [if_pos hover]
          exact .tooLarge ⟨hfound, hover⟩
        · rw [if_neg hover]
          exact .all ⟨hfound, Nat.le_of_not_lt hover⟩
  | cons next rest ih =>
    intro count content hrest hcontent
    have hlt : count + 1 < waiting.length := by
      have := congrArg List.length hrest
      rw [length_drop, length_cons, length_cons] at this
      omega
    have hnext := contentFrom_take_succ hcontent hrest
    cases happend : reads.appendContent content count delivery with
    | error error =>
      rw [happend] at hnext
      rw [selectFrom, happend]
      refine .unreadable (contextOf_eq_error ?_)
      rw [← take_append_drop (count + 1) waiting, contentFrom_append, hnext]
      rfl
    | ok content' =>
      rw [happend] at hnext
      rw [selectFrom_cons happend, if_pos (by simp [hlt])]
      refine ih ?_ hnext
      rw [← drop_drop, hrest]
      rfl

/-! ## The greatest prefix -/

theorem fits_take {k k' : Nat} {found found' : PrefixContext} (hpos : 0 < k) (hle : k ≤ k')
    (hle' : k' ≤ waiting.length) (h : reads.contextOf request base (waiting.take k) = .ok found)
    (h' : FitsOn reads request base (waiting.take k') found') : found.context.payloadLen ≤ request.maxPayloadBytes := by
  obtain rfl | hlt := Nat.eq_or_lt_of_le hle
  · obtain ⟨hfound, hfits⟩ := h'
    rw [h] at hfound
    cases hfound
    exact hfits
  · have hsplit : waiting.take k' = waiting.take k ++ (waiting.drop k).take (k' - k) := by
      rw [← take_add, Nat.add_sub_cancel' hle]
    obtain ⟨hfound, hfits⟩ := h'
    rw [hsplit] at hfound
    refine fits_of_longer ?_ ?_ h hfound hfits
    · apply ne_nil_of_length_pos
      rw [length_take]
      omega
    · apply ne_nil_of_length_pos
      rw [length_take, length_drop]
      omega

/-- **A prefix that exceeds the cap is exceeded by every longer one.** -/
theorem not_fits_of_exceeds {k k' : Nat} {large : PrefixContext}
    (hprepared : reads.prepared = .ok base) (hpos : 0 < k) (hle : k ≤ k') (hle' : k' ≤ waiting.length)
    (hover : Exceeds reads request base (waiting.take k) large) : ¬ reads.Fits request waiting k' := by
  rintro ⟨base', found', hprepared', hfound', hfits'⟩
  rw [hprepared] at hprepared'
  cases hprepared'
  exact absurd (fits_take hpos hle hle' hover.1 ⟨hfound', hfits'⟩) (Nat.not_le_of_lt hover.2)

/-- **The claim takes the longest prefix that fits.**  An ordinary selection without a failure takes the greatest number of
messages whose complete context is at most the cap, and the failure says that no number of them has one; a continuation takes
all of its inputs or fails for all.  An error is that of a context that cannot be built, after messages that all fit. -/
theorem maximal_claim_prefix (reads : ClaimReads) (request : BatchRequest) (first : WaitingDelivery)
    (rest : List WaitingDelivery) :
    match reads.selectBatchPrefix request first rest with
    | .ok selection =>
      (first.continuationSourceRunId = none →
        ((∃ k, 1 ≤ k ∧ k ≤ (first :: rest).length ∧ reads.Fits request (first :: rest) k) →
          selection.failureCode = none ∧
          IsGreatest {k | 1 ≤ k ∧ k ≤ (first :: rest).length ∧ reads.Fits request (first :: rest) k} selection.count) ∧
        (selection.failureCode = none ∨ selection.failureCode = some "context_payload_too_large") ∧
        (selection.failureCode = some "context_payload_too_large" →
          ∀ k, 1 ≤ k → k ≤ (first :: rest).length → ¬ reads.Fits request (first :: rest) k)) ∧
      (first.continuationSourceRunId ≠ none → selection.count = (first :: rest).length ∧
        (selection.failureCode = none ∧ reads.Fits request (first :: rest) (first :: rest).length ∨
          selection.failureCode = some "context_payload_too_large" ∧
            ¬ reads.Fits request (first :: rest) (first :: rest).length))
    | .error error => reads.prepared = .error error ∨ ∃ base, reads.prepared = .ok base ∧
      ∃ k, 1 ≤ k ∧ k ≤ (first :: rest).length ∧ reads.contextOf request base ((first :: rest).take k) = .error error ∧
        (first.continuationSourceRunId = none → ∀ j, 1 ≤ j → j < k → reads.Fits request (first :: rest) j) := by
  unfold selectBatchPrefix
  generalize hwaiting : first :: rest = waiting
  have hne : waiting ≠ [] := by
    rw [← hwaiting]
    exact cons_ne_nil first rest
  have hpos := length_pos_of_ne_nil hne
  cases hprepared : reads.prepared with
  | error error => exact .inl rfl
  | ok base =>
    have hfits : ∀ {k found}, FitsOn reads request base (waiting.take k) found → reads.Fits request waiting k :=
      fun h => ⟨base, _, hprepared, h⟩
    cases hcontinuation : first.continuationSourceRunId with
    | none =>
      have hend : OrdinaryEnd reads request base waiting (selectFrom reads request base false waiting 0 ([], []) none waiting) :=
        selectFrom_ordinary hne rfl (Nat.zero_le _) rfl (show PreviousFits reads request base waiting 0 none from rfl)
          (fun j hpos hj => absurd hpos (Nat.not_lt.2 hj))
      dsimp only [bind, Except.bind, Option.isSome]
      generalize selectFrom reads request base false waiting 0 ([], []) none waiting = result at hend
      cases hend with
      | all h =>
        have hall : reads.Fits request waiting waiting.length := ⟨base, _, hprepared, by rw [take_length]; exact h⟩
        exact ⟨fun _ => ⟨fun _ => ⟨rfl, ⟨hpos, Nat.le_refl _, hall⟩, fun k hk => hk.2.1⟩, .inl rfl, nofun⟩,
          fun h => absurd rfl h⟩
      | @stopped k found large hk hlt h hover =>
        refine ⟨fun _ => ⟨fun _ => ⟨rfl, ⟨hk, hlt.le, hfits h⟩, fun k' hk' => ?_⟩, .inl rfl, nofun⟩,
          fun h => absurd rfl h⟩
        apply Nat.le_of_not_lt
        intro hlonger
        exact not_fits_of_exceeds hprepared (Nat.succ_pos k) hlonger hk'.2.1 hover hk'.2.2
      | tooLarge hover =>
        have hnone : ∀ k, 1 ≤ k → k ≤ waiting.length → ¬ reads.Fits request waiting k := fun k hk hle =>
          not_fits_of_exceeds hprepared Nat.one_pos hk hle hover
        exact ⟨fun _ => ⟨fun ⟨k, hk, hle, h⟩ => absurd h (hnone k hk hle), .inr rfl, fun _ => hnone⟩, fun h => absurd rfl h⟩
      | @unreadable k error hlt herror hbefore =>
        refine .inr ⟨base, rfl, k + 1, Nat.succ_pos k, hlt, herror, fun _ j hj hlt => ?_⟩
        obtain ⟨found, h⟩ := hbefore j hj (Nat.le_of_lt_succ hlt)
        exact hfits h
    | some runId =>
      have hend : ContinuationEnd reads request base waiting (selectFrom reads request base true waiting 0 ([], []) none waiting) := by
        have hloop : ∀ {delivery rest}, waiting = delivery :: rest → ContinuationEnd reads request base waiting
            (selectFrom reads request base true waiting 0 ([], []) none (delivery :: rest)) :=
          fun h => selectFrom_continuation h rfl
        have hend := hloop hwaiting.symm
        rwa [hwaiting] at hend
      dsimp only [bind, Except.bind, Option.isSome]
      generalize selectFrom reads request base true waiting 0 ([], []) none waiting = result at hend
      cases hend with
      | all h =>
        have hall : reads.Fits request waiting waiting.length := ⟨base, _, hprepared, by rw [take_length]; exact h⟩
        exact ⟨nofun, fun _ => ⟨rfl, .inl ⟨rfl, hall⟩⟩⟩
      | @tooLarge large hover =>
        have hlast : Exceeds reads request base (waiting.take waiting.length) large := by
          rw [take_length]
          exact hover
        have hnone := not_fits_of_exceeds hprepared hpos (Nat.le_refl _) (Nat.le_refl _) hlast
        exact ⟨nofun, fun _ => ⟨rfl, .inr ⟨rfl, hnone⟩⟩⟩
      | unreadable herror =>
        refine .inr ⟨base, rfl, waiting.length, hpos, Nat.le_refl _, ?_, nofun⟩
        rw [take_length]
        exact herror

end ClaimReads

end Rovai.BatchClaims
