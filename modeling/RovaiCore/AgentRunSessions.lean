import RovaiCore.AgentRunInputs
import RovaiCore.ListRules
/-!
# The sessions of the conversations

What a transaction leaves of a conversation: its session is read further by an acknowledgement, replaced or dropped, and a
generation has one binding.
-/
namespace Rovai.AgentRuns

open Tables (Table)
open Store

/-! ## What a move leaves of a conversation -/

def SameBinding (c c' : Conversation) : Prop :=
  c'.nativeBindingGeneration = c.nativeBindingGeneration ∧ c'.nativeBindingId = c.nativeBindingId

instance (c c' : Conversation) : Decidable (SameBinding c c') :=
  inferInstanceAs (Decidable (_ ∧ _))

structure ConversationKept (c c' : Conversation) : Prop where
  kind : c'.kind = c.kind
  ended : c.ended = true → c'.ended = true
  generation : c.nativeBindingGeneration ≤ c'.nativeBindingGeneration
  binding : c'.nativeBindingGeneration = c.nativeBindingGeneration →
    c'.nativeBindingId = c.nativeBindingId ∨ c'.nativeBindingId = none
  boundary : c'.lastAcceptedPublicBoundarySequence = c.lastAcceptedPublicBoundarySequence ∨
    c.kind = .singleChat ∧ ¬(SameBinding c c' ∧ c.nativeBindingId.isSome = true) ∧ c'.lastAcceptedPublicBoundarySequence = 0
  kept : SameBinding c c' → c.nativeBindingId.isSome = true → c'.nativeCharterDigest = c.nativeCharterDigest ∧
    c'.nativeCollaborationStateDigest = c.nativeCollaborationStateDigest
  forgotten : ¬SameBinding c c' → c'.nativeCharterDigest = none ∧ c'.nativeCollaborationStateDigest = none
  digests : c'.nativeCharterDigest = c.nativeCharterDigest ∧
      c'.nativeCollaborationStateDigest = c.nativeCollaborationStateDigest ∨
    c'.nativeCharterDigest = none ∧ c'.nativeCollaborationStateDigest = none
  workspaceFact : c'.nativeWorkspaceFactDigest = c.nativeWorkspaceFactDigest
  mission : c'.missionDetailsDeliveredVersion = c.missionDetailsDeliveredVersion

structure NewConversation (c : Conversation) : Prop where
  charter : c.nativeCharterDigest = none
  collaboration : c.nativeCollaborationStateDigest = none
  workspaceFact : c.nativeWorkspaceFactDigest = none

theorem ConversationKept.refl (c : Conversation) : ConversationKept c c where
  kind := rfl
  ended := id
  generation := Nat.le_refl _
  binding _ := .inl rfl
  boundary := .inl rfl
  kept _ _ := ⟨rfl, rfl⟩
  forgotten h := absurd ⟨rfl, rfl⟩ h
  digests := .inl ⟨rfl, rfl⟩
  workspaceFact := rfl
  mission := rfl

variable {c c' : Conversation}

theorem Touches.kept (h : Touches c c') : ConversationKept c c' where
  kind := h.kind
  ended := h.ended
  generation := h.nativeBindingGeneration.ge
  binding _ := .inl h.nativeBindingId
  boundary := .inl h.boundary
  kept _ _ := ⟨h.charter, h.collaboration⟩
  forgotten hne := absurd ⟨h.nativeBindingGeneration, h.nativeBindingId⟩ hne
  digests := .inl ⟨h.charter, h.collaboration⟩
  workspaceFact := h.workspaceFact
  mission := h.mission

theorem Rebinds.kept (h : Rebinds c c') : ConversationKept c c' := by
  have hchanged : ¬(SameBinding c c' ∧ c.nativeBindingId.isSome = true) := by
    rintro ⟨⟨hgeneration, hid⟩, hsome⟩
    obtain hlt | ⟨-, hnone⟩ := h.binding
    · omega
    rw [← hid, hnone] at hsome
    cases hsome
  exact {
    kind := h.kind
    ended := fun he => h.ended.trans he
    generation := by
      obtain hlt | ⟨heq, -⟩ := h.binding <;> omega
    binding := fun heq => by
      obtain hlt | ⟨-, hnone⟩ := h.binding
      · omega
      · exact .inr hnone
    boundary := h.boundary.imp_right fun ⟨hkind, hzero⟩ => ⟨hkind, hchanged, hzero⟩
    kept := fun hsame hsome => absurd ⟨hsame, hsome⟩ hchanged
    forgotten := fun _ => ⟨h.charter, h.collaboration⟩
    digests := .inr ⟨h.charter, h.collaboration⟩
    workspaceFact := h.workspaceFact
    mission := h.mission }

theorem ConversationKept.sameBinding_of_trans {a b c : Conversation} (h : ConversationKept a b) (h' : ConversationKept b c)
    (hsame : SameBinding a c) (hsome : a.nativeBindingId.isSome = true) : SameBinding a b ∧ SameBinding b c := by
  obtain ⟨hgeneration, hid⟩ := hsame
  have hle := h.generation
  have hle' := h'.generation
  have hab : b.nativeBindingGeneration = a.nativeBindingGeneration := by omega
  have hbc : c.nativeBindingGeneration = b.nativeBindingGeneration := by omega
  obtain hid' | hnone := h'.binding hbc
  · exact ⟨⟨hab, hid' ▸ hid⟩, hbc, hid'⟩
  rw [← hid, hnone] at hsome
  cases hsome

theorem ConversationKept.trans {a b c : Conversation} (h : ConversationKept a b) (h' : ConversationKept b c) :
    ConversationKept a c where
  kind := h'.kind.trans h.kind
  ended he := h'.ended (h.ended he)
  generation := h.generation.trans h'.generation
  binding heq := by
    have hle := h.generation
    have hle' := h'.generation
    obtain hid' | hnone := h'.binding (by omega)
    · obtain hid | hnone := h.binding (by omega)
      · exact .inl (hid'.trans hid)
      · exact .inr (hid'.trans hnone)
    · exact .inr hnone
  boundary := by
    obtain heq' | ⟨hkind', hchanged', hzero'⟩ := h'.boundary
    · obtain heq | ⟨hkind, hchanged, hzero⟩ := h.boundary
      · exact .inl (heq'.trans heq)
      refine .inr ⟨hkind, fun ⟨hsame, hsome⟩ => ?_, heq'.trans hzero⟩
      exact hchanged ⟨(h.sameBinding_of_trans h' hsame hsome).1, hsome⟩
    · refine .inr ⟨h.kind ▸ hkind', fun ⟨hsame, hsome⟩ => ?_, hzero'⟩
      obtain ⟨hab, hbc⟩ := h.sameBinding_of_trans h' hsame hsome
      exact hchanged' ⟨hbc, hab.2 ▸ hsome⟩
  kept hsame hsome := by
    obtain ⟨hab, hbc⟩ := h.sameBinding_of_trans h' hsame hsome
    obtain ⟨hcharter, hcollaboration⟩ := h.kept hab hsome
    obtain ⟨hcharter', hcollaboration'⟩ := h'.kept hbc (hab.2 ▸ hsome)
    exact ⟨hcharter'.trans hcharter, hcollaboration'.trans hcollaboration⟩
  forgotten hchanged := by
    by_cases hbc : SameBinding b c
    · have hab : ¬SameBinding a b := fun hab => hchanged ⟨hbc.1.trans hab.1, hbc.2.trans hab.2⟩
      obtain ⟨hcharter, hcollaboration⟩ := h.forgotten hab
      obtain ⟨hcharter', hcollaboration'⟩ | hnone := h'.digests
      · exact ⟨hcharter'.trans hcharter, hcollaboration'.trans hcollaboration⟩
      · exact hnone
    · exact h'.forgotten hbc
  digests := by
    obtain ⟨hcharter', hcollaboration'⟩ | hnone := h'.digests
    · obtain ⟨hcharter, hcollaboration⟩ | ⟨hcharter, hcollaboration⟩ := h.digests
      · exact .inl ⟨hcharter'.trans hcharter, hcollaboration'.trans hcollaboration⟩
      · exact .inr ⟨hcharter'.trans hcharter, hcollaboration'.trans hcollaboration⟩
    · exact .inr hnone
  workspaceFact := h'.workspaceFact.trans h.workspaceFact
  mission := h'.mission.trans h.mission

theorem NewConversation.kept {a b : Conversation} (h : NewConversation a) (hk : ConversationKept a b) : NewConversation b := by
  have hforgot : b.nativeCharterDigest = none ∧ b.nativeCollaborationStateDigest = none := by
    obtain ⟨hcharter, hcollaboration⟩ | hnone := hk.digests
    · exact ⟨hcharter.trans h.charter, hcollaboration.trans h.collaboration⟩
    · exact hnone
  exact ⟨hforgot.1, hforgot.2, hk.workspaceFact.trans h.workspaceFact⟩

abbrev ConversationsKept (s s' : Store) : Prop :=
  Table.Grows ConversationKept NewConversation s.conversations s'.conversations

theorem ConversationsKept.refl (s : Store) : ConversationsKept s s :=
  Table.Grows.refl ConversationKept.refl s.conversations

variable {s s' : Store}

theorem ConversationsKept.of_eq (h : s'.conversations = s.conversations) : ConversationsKept s s' := by
  unfold ConversationsKept
  rw [h]
  exact .refl ConversationKept.refl s.conversations

theorem Move.conversationsKept (h : Move s s') : ConversationsKept s s' := by
  cases h with
  | touchConversations p f hf h =>
    exact .updateWhere ConversationKept.refl s.conversations p f hf fun k c hc hp => (h c).kept
  | rebind conversationId f hf h =>
    exact .update ConversationKept.refl s.conversations conversationId f hf fun c hc => (h c).kept
  | openConversation => exact .insert ConversationKept.refl s.conversations _ ⟨rfl, rfl, rfl⟩
  | endRun run f hf closed hrun hclosed =>
    refine .of_eq ?_
    rw [settleBatchDeliveries_eq]
    obtain rfl | rfl := hclosed <;> rfl
  | settleAgain => exact .of_eq (by rw [settleBatchDeliveries_eq])
  | changeTurn turn => exact .of_eq (by rw [changeTurn_eq])
  | _ => exact .of_eq rfl

theorem Moves.conversationsKept (h : Moves s s') : ConversationsKept s s' :=
  h.lift ConversationsKept.refl (fun h h' => h.trans ConversationKept.trans NewConversation.kept h') Move.conversationsKept

/-! ## ThreadTurns -/

theorem Move.turns (h : Move s s') : s'.turns = s.turns ∨
    (∃ campTurnId, s'.turns = s.turns.update campTurnId (fun turn => { turn with executionBudgetExhausted := true })) ∨
    ∃ turn, s' = s.changeTurn turn := by
  cases h with
  | exhaustTurn campTurnId => exact .inr (.inl ⟨campTurnId, rfl⟩)
  | changeTurn turn => exact .inr (.inr ⟨turn, rfl⟩)
  | endRun run f hf closed hrun hclosed =>
    refine .inl ?_
    rw [settleBatchDeliveries_eq]
    obtain rfl | rfl := hclosed <;> rfl
  | settleAgain => exact .inl (by rw [settleBatchDeliveries_eq])
  | _ => exact .inl rfl

structure Referred (s : Store) : Prop where
  conversation : ∀ {k r}, s.runs.find? k = some r → ∃ c, s.conversations.find? r.conversationId = some c
  turn : ∀ {k r turnId}, s.runs.find? k = some r → r.campTurnId = some turnId → ∃ turn, s.turns.find? turnId = some turn

variable {k : String}

theorem Move.turnAccepts (hmove : Move s s') (href : Referred s) {r : AgentRun}
    (hr : s.runs.find? k = some r) (hactive : active r.status = true) (h : s'.turnAccepts r = true) :
    s.turnAccepts r = true := by
  unfold Store.turnAccepts at h ⊢
  rw [Bool.or_eq_true] at h ⊢
  refine h.imp_right fun h => ?_
  obtain ⟨turn', hturn', haccepts⟩ := (Option.any_eq_true _ _).1 h
  unfold turnOf at hturn' ⊢
  obtain ⟨turnId, hid, hfind'⟩ := Option.bind_eq_some_iff.1 hturn'
  obtain ⟨turn, hfind⟩ := href.turn hr hid
  rw [hid, Option.bind_some, hfind, Option.any_some]
  obtain hsame | ⟨campTurnId, hupdate⟩ | ⟨changed, rfl⟩ := hmove.turns
  · rw [hsame, hfind] at hfind'
    cases hfind'
    exact haccepts
  · rw [hupdate, Table.find?_update] at hfind'
    split at hfind'
    · rw [hfind] at hfind'
      cases hfind'
      simp [CampTurn.accepts] at haccepts
    · rw [hfind] at hfind'
      cases hfind'
      exact haccepts
  · unfold Store.changeTurn at hfind'
    split at hfind'
    · rename_i hnone
      rw [Table.find?_insert hnone] at hfind'
      split at hfind'
      · rename_i heq
        rw [heq, hnone] at hfind
        cases hfind
      · rw [hfind] at hfind'
        cases hfind'
        exact haccepts
    · rename_i old hold
      split at hfind'
      · rw [hfind] at hfind'
        cases hfind'
        exact haccepts
      · rename_i hguard
        rw [Table.find?_update] at hfind'
        split at hfind'
        · rename_i heq
          rw [heq, hold] at hfind
          cases hfind
          -- A Run of the ThreadTurn executes, so it was rewritten while it was open.
          have hany : s.runs.any (fun run => run.campTurnId == some changed.id && active run.status) = true :=
            Table.any_iff.2 ⟨k, r, hr, by simp [hid, heq, hactive]⟩
          simpa [hany] using hguard
        · rw [hfind] at hfind'
          cases hfind'
          exact haccepts


theorem Move.turn_kept (hmove : Move s s') {turn : CampTurn} (h : s.turns.find? k = some turn) :
    ∃ turn', s'.turns.find? k = some turn' := by
  obtain hsame | ⟨campTurnId, hupdate⟩ | ⟨changed, rfl⟩ := hmove.turns
  · exact ⟨turn, by rw [hsame, h]⟩
  · rw [hupdate, Table.find?_update, h]
    split <;> exact ⟨_, rfl⟩
  · unfold Store.changeTurn
    split
    · rename_i hnone
      rw [Table.find?_insert hnone]
      split
      · exact ⟨_, rfl⟩
      · exact ⟨turn, h⟩
    · split
      · exact ⟨turn, h⟩
      rw [Table.find?_update, h]
      split <;> exact ⟨_, rfl⟩

theorem Move.referred (hmove : Move s s') (h : Referred s) : Referred s' := by
  have hbefore : ∀ {k r'}, s'.runs.find? k = some r' → (∃ c, s.conversations.find? r'.conversationId = some c) ∧
      ∀ turnId, r'.campTurnId = some turnId → ∃ turn, s.turns.find? turnId = some turn := by
    intro k r' hr'
    obtain hsame | ⟨run, -, hconversation, hturn, hruns, -, -⟩ := hmove.runs
    · obtain ⟨r, hr, hkept⟩ | ⟨-, hf⟩ := hsame.origin hr'
      · rw [hkept.conversationId, hkept.campTurnId]
        exact ⟨h.conversation hr, fun turnId hid => h.turn hr hid⟩
      · exact hf.elim
    · rw [hruns] at hr'
      obtain hr | ⟨rfl, -, -⟩ := Table.insert_cases hr'
      · exact ⟨h.conversation hr, fun turnId hid => h.turn hr hid⟩
      · exact ⟨Option.isSome_iff_exists.1 hconversation, fun turnId hid => Option.isSome_iff_exists.1 (hturn turnId hid)⟩
  constructor
  · intro k r' hr'
    obtain ⟨c, hc⟩ := (hbefore hr').1
    obtain ⟨c', hc', -⟩ := hmove.conversationsKept.kept hc
    exact ⟨c', hc'⟩
  · intro k r' turnId hr' hid
    obtain ⟨turn, hturn⟩ := (hbefore hr').2 turnId hid
    exact hmove.turn_kept hturn

/-! ## Inputs that execute -/

def Store.executes (s : Store) (i : RuntimeInputDelivery) : Prop :=
  ∃ r c, s.runs.find? i.agentRunId = some r ∧ s.conversations.find? r.conversationId = some c ∧
    r.executionEpoch = i.executionEpoch ∧ active r.status = true ∧ r.cancelRequested = false ∧ s.turnAccepts r = true ∧
    c.nativeBindingId = some i.nativeBindingId ∧ c.nativeBindingGeneration = i.nativeBindingGeneration ∧
    (c.kind = .singleChat → c.ended = false)


structure SessionKept (c c' : Conversation) : Prop where
  kind : c'.kind = c.kind
  ended : c.ended = true → c'.ended = true
  generation : c.nativeBindingGeneration ≤ c'.nativeBindingGeneration
  binding : c'.nativeBindingGeneration = c.nativeBindingGeneration →
    c'.nativeBindingId = c.nativeBindingId ∨ c'.nativeBindingId = none

theorem ConversationKept.session (h : ConversationKept c c') : SessionKept c c' :=
  ⟨h.kind, h.ended, h.generation, h.binding⟩

theorem SessionKept.of_bound (h : SessionKept c c') {generation : Nat} {bindingId : String}
    (hle : generation ≤ c.nativeBindingGeneration) (hgeneration : c'.nativeBindingGeneration = generation)
    (hid : c'.nativeBindingId = some bindingId) :
    c.nativeBindingGeneration = generation ∧ c.nativeBindingId = some bindingId := by
  have hmono := h.generation
  have heq : c'.nativeBindingGeneration = c.nativeBindingGeneration := by omega
  obtain hsame | hnone := h.binding heq
  · exact ⟨by omega, hsame ▸ hid⟩
  rw [hnone] at hid
  cases hid

/-- What a transaction that is no acknowledgement, and an acknowledgement too, leaves of the Runs and the conversations. -/
structure ExecutionKept (s s' : Store) : Prop where
  run : ∀ {k r}, s.runs.find? k = some r → ∃ r', s'.runs.find? k = some r' ∧
    (RunKept r r' ∨ r'.conversationId = r.conversationId ∧ r.executionEpoch < r'.executionEpoch)
  conversation : ∀ {k c}, s.conversations.find? k = some c → ∃ c', s'.conversations.find? k = some c' ∧ SessionKept c c'
  turn : ∀ {k r}, s.runs.find? k = some r → active r.status = true → s'.turnAccepts r = true → s.turnAccepts r = true

theorem Move.executionKept (hmove : Move s s') (href : Referred s) : ExecutionKept s s' where
  run hr :=
    let ⟨r', hr', hkept⟩ := hmove.runsKept.kept hr
    ⟨r', hr', .inl hkept⟩
  conversation hc :=
    let ⟨c', hc', hkept⟩ := hmove.conversationsKept.kept hc
    ⟨c', hc', hkept.session⟩
  turn hr hactive h := hmove.turnAccepts href hr hactive h

theorem turnAccepts_congr {s : Store} {r r' : AgentRun} (hturn : r'.campTurnId = r.campTurnId)
    (hkind : r'.invocationKind = r.invocationKind) : s.turnAccepts r' = s.turnAccepts r := by
  unfold turnAccepts turnOf
  rw [hturn, hkind]

/-- The inputs are of bindings their conversations had, in the order of their sequence. -/
structure SessionsMatch (s : Store) : Prop where
  binding : ∀ {k i}, s.inputs.find? k = some i → ∃ r c, s.runs.find? i.agentRunId = some r ∧
    s.conversations.find? r.conversationId = some c ∧ i.executionEpoch ≤ r.executionEpoch ∧
    i.nativeBindingGeneration ≤ c.nativeBindingGeneration ∧
    (i.nativeBindingGeneration = c.nativeBindingGeneration → ∀ bindingId, c.nativeBindingId = some bindingId →
      bindingId = i.nativeBindingId)
  sequence : ∀ {k k' i i'}, s.inputs.find? k = some i → s.inputs.find? k' = some i' → i.agentRunId = i'.agentRunId →
    i.executionEpoch = i'.executionEpoch → i.inputSequence < i'.inputSequence →
    i.nativeBindingGeneration ≤ i'.nativeBindingGeneration

/-- **An input that does not execute never executes again.** -/
theorem ExecutionKept.executes_before (h : ExecutionKept s s') (hmatch : SessionsMatch s)
    {i : RuntimeInputDelivery} (hi : s.inputs.find? k = some i) (hexecutes : s'.executes i) : s.executes i := by
  obtain ⟨r, c, hr, hc, hepoch, hgeneration, -⟩ := hmatch.binding hi
  obtain ⟨r', c', hr', hc', hepoch', hactive', hcancel', hturn', hid', hgeneration', hchat'⟩ := hexecutes
  obtain ⟨r₁, hr₁, hrun⟩ := h.run hr
  rw [hr'] at hr₁
  cases hr₁
  obtain hkept | ⟨-, hlt⟩ := hrun
  · obtain ⟨c₁, hc₁, hsession⟩ := h.conversation hc
    rw [hkept.conversationId, hc₁] at hc'
    cases hc'
    have hactive := hkept.active_before hactive'
    rw [turnAccepts_congr hkept.campTurnId hkept.invocationKind] at hturn'
    obtain ⟨hg, hid⟩ := hsession.of_bound hgeneration hgeneration' hid'
    refine ⟨r, c, hr, hc, hkept.executionEpoch.symm.trans hepoch', hactive, ?_, h.turn hr hactive hturn', hid, hg, ?_⟩
    · cases hcancel : r.cancelRequested with
      | false => rfl
      | true => rw [hkept.cancelRequested hcancel] at hcancel'; cases hcancel'
    · intro hkind
      have hopen := hchat' (hsession.kind.trans hkind)
      cases hended : c.ended with
      | false => rfl
      | true => rw [hsession.ended hended] at hopen; cases hopen
  · omega

theorem SessionsMatch.of_kept (h : SessionsMatch s) (hexecution : ExecutionKept s s')
    (hinputs : Table.Grows SameInput (fun _ => False) s.inputs s'.inputs) : SessionsMatch s' := by
  have hold : ∀ {k i'}, s'.inputs.find? k = some i' → ∃ i, s.inputs.find? k = some i ∧ SameInput i i' := by
    intro k i' hi'
    obtain hold | ⟨-, hf⟩ := hinputs.origin hi'
    · exact hold
    · exact hf.elim
  constructor
  · intro k i' hi'
    obtain ⟨i, hi, hsame⟩ := hold hi'
    obtain ⟨r, c, hr, hc, hepoch, hgeneration, hbinding⟩ := h.binding hi
    obtain ⟨r', hr', hrun⟩ := hexecution.run hr
    obtain ⟨c', hc', hsession⟩ := hexecution.conversation hc
    have hrun : r'.conversationId = r.conversationId ∧ r.executionEpoch ≤ r'.executionEpoch := by
      obtain hkept | ⟨hconversation, hlt⟩ := hrun
      · exact ⟨hkept.conversationId, hkept.executionEpoch.ge⟩
      · exact ⟨hconversation, hlt.le⟩
    rw [hsame.agentRunId, hsame.executionEpoch, hsame.nativeBindingGeneration, hsame.nativeBindingId]
    refine ⟨r', c', hr', by rw [hrun.1]; exact hc', hepoch.trans hrun.2, hgeneration.trans hsession.generation, ?_⟩
    intro heq bindingId hid
    obtain ⟨hg, hid'⟩ := hsession.of_bound hgeneration heq.symm hid
    exact hbinding hg.symm bindingId hid'
  · intro k k' i' j' hi' hj' hrun hepoch hlt
    obtain ⟨i, hi, hsame⟩ := hold hi'
    obtain ⟨j, hj, hsame'⟩ := hold hj'
    rw [hsame.agentRunId, hsame'.agentRunId] at hrun
    rw [hsame.executionEpoch, hsame'.executionEpoch] at hepoch
    rw [hsame.inputSequence, hsame'.inputSequence] at hlt
    rw [hsame.nativeBindingGeneration, hsame'.nativeBindingGeneration]
    exact h.sequence hi hj hrun hepoch hlt


/-! ## Transactions -/

theorem SessionKept.refl (c : Conversation) : SessionKept c c := (ConversationKept.refl c).session

structure RunFollows (r r' : AgentRun) : Prop where
  conversationId : r'.conversationId = r.conversationId
  campTurnId : r'.campTurnId = r.campTurnId
  kept : RunKept r r' ∨ r.executionEpoch < r'.executionEpoch

theorem RunKept.follows {r r' : AgentRun} (h : RunKept r r') : RunFollows r r' :=
  ⟨h.conversationId, h.campTurnId, .inl h⟩

theorem ExecutionKept.of_tables (hruns : Table.Grows RunFollows (fun _ => False) s.runs s'.runs)
    (hconversations : Table.Grows SessionKept (fun _ => False) s.conversations s'.conversations)
    (hturns : s'.turns = s.turns) : ExecutionKept s s' where
  run hr :=
    let ⟨r', hr', hfollows⟩ := hruns.kept hr
    ⟨r', hr', hfollows.kept.imp_right fun hlt => ⟨hfollows.conversationId, hlt⟩⟩
  conversation hc := hconversations.kept hc
  turn _ _ h := by
    unfold turnAccepts turnOf at h ⊢
    rw [hturns] at h
    exact h

theorem Referred.of_tables (h : Referred s)
    (hruns : Table.Grows RunFollows (fun _ => False) s.runs s'.runs)
    (hconversations : Table.Grows SessionKept (fun _ => False) s.conversations s'.conversations)
    (hturns : s'.turns = s.turns) : Referred s' := by
  have hold : ∀ {k r'}, s'.runs.find? k = some r' → ∃ r, s.runs.find? k = some r ∧ RunFollows r r' := by
    intro k r' hr'
    obtain hold | ⟨-, hf⟩ := hruns.origin hr'
    · exact hold
    · exact hf.elim
  constructor
  · intro k r' hr'
    obtain ⟨r, hr, hfollows⟩ := hold hr'
    obtain ⟨c, hc⟩ := h.conversation hr
    obtain ⟨c', hc', -⟩ := hconversations.kept hc
    exact ⟨c', by rw [hfollows.conversationId]; exact hc'⟩
  · intro k r' turnId hr' hid
    obtain ⟨r, hr, hfollows⟩ := hold hr'
    rw [hturns]
    exact h.turn hr (hfollows.campTurnId ▸ hid)

structure SessionInv (s : Store) : Prop where
  registered : Registered s
  referred : Referred s
  sessions : SessionsMatch s

theorem executes_congr {s : Store} {i i' : RuntimeInputDelivery} (h : SameInput i i') : s.executes i' ↔ s.executes i := by
  unfold executes
  rw [h.agentRunId, h.executionEpoch, h.nativeBindingId, h.nativeBindingGeneration]

theorem Move.sessionInv (hmove : Move s s') (h : SessionInv s) : SessionInv s' where
  registered := hmove.registered h.registered
  referred := hmove.referred h.referred
  sessions := h.sessions.of_kept (hmove.executionKept h.referred) (hmove.inputsKept.mono InputKept.same id)

def ExecutedBefore (s s' : Store) : Prop :=
  ∀ k i, s.inputs.find? k = some i → s'.executes i → s.executes i

theorem ExecutedBefore.trans {s t u : Store} (h : ExecutedBefore s t)
    (hinputs : ∀ k i, s.inputs.find? k = some i → ∃ i', t.inputs.find? k = some i' ∧ SameInput i i')
    (h' : ExecutedBefore t u) : ExecutedBefore s u := by
  intro k i hi hexecutes
  obtain ⟨i', hi', hsame⟩ := hinputs k i hi
  refine h k i hi ?_
  rw [← executes_congr hsame] at hexecutes ⊢
  exact h' k i' hi' hexecutes

theorem Moves.executedBefore (hmoves : Moves s s') (h : SessionInv s) :
    SessionInv s' ∧ ExecutedBefore s s' := by
  induction hmoves with
  | refl => exact ⟨h, fun k i hi hexecutes => hexecutes⟩
  | @tail t u hfirst hlast ih =>
    obtain ⟨ht, hbefore⟩ := ih
    refine ⟨hlast.sessionInv ht, hbefore.trans (fun k i hi => ?_) ?_⟩
    · obtain ⟨i', hi', hkept⟩ := (Moves.inputsKept hfirst).kept hi
      exact ⟨i', hi', hkept.same⟩
    · intro k i hi hexecutes
      exact (hlast.executionKept ht.referred).executes_before ht.sessions hi hexecutes

theorem SessionInv.of_tables (h : SessionInv s) (hregistered : Registered s')
    (hruns : Table.Grows RunFollows (fun _ => False) s.runs s'.runs)
    (hconversations : Table.Grows SessionKept (fun _ => False) s.conversations s'.conversations)
    (hturns : s'.turns = s.turns) (hinputs : Table.Grows SameInput (fun _ => False) s.inputs s'.inputs) :
    SessionInv s' ∧ ExecutedBefore s s' := by
  have hexecution := ExecutionKept.of_tables hruns hconversations hturns
  exact ⟨⟨hregistered, h.referred.of_tables hruns hconversations hturns, h.sessions.of_kept hexecution hinputs⟩,
    fun k i hi => hexecution.executes_before h.sessions hi⟩

theorem lt_nextInputSequence {s : Store} {i : RuntimeInputDelivery} (hi : s.inputs.find? k = some i) :
    i.inputSequence < s.nextInputSequence i.agentRunId i.executionEpoch := by
  unfold nextInputSequence
  refine Lists.le_foldl_max (.inl (List.mem_map.2 ⟨i, List.mem_filter.2 ⟨Table.mem_of_find? hi, ?_⟩, rfl⟩))
  simp

theorem SessionsMatch.insert {s : Store} (h : SessionsMatch s) {run : AgentRun} {m : ContextManifest} {c : Conversation}
    {bindingId : String} {options : PrepareOptions} (hrun : s.runs.find? run.id = some run)
    (hc : s.conversations.find? run.conversationId = some c)
    (hgeneration : m.nativeBindingGeneration = c.nativeBindingGeneration) (hbinding : c.nativeBindingId = some bindingId) :
    SessionsMatch { s with inputs := s.inputs.insert (s.newInput run m bindingId options) } := by
  have hlater : ∀ {k i}, s.inputs.find? k = some i → i.agentRunId = run.id → i.executionEpoch = run.executionEpoch →
      i.inputSequence < (s.newInput run m bindingId options).inputSequence ∧
        i.nativeBindingGeneration ≤ m.nativeBindingGeneration := by
    intro k i hi howner hepoch
    obtain ⟨r, c', hr, hc', -, hle, -⟩ := h.binding hi
    rw [howner, hrun] at hr
    cases hr
    rw [hc] at hc'
    cases hc'
    have hlt := lt_nextInputSequence hi
    rw [howner, hepoch] at hlt
    exact ⟨hlt, hle.trans hgeneration.ge⟩
  constructor
  · intro k i hi
    obtain hi | ⟨rfl, -, -⟩ := Table.insert_cases hi
    · exact h.binding hi
    refine ⟨run, c, hrun, hc, Nat.le_refl _, hgeneration.le, fun _ bindingId' hid => ?_⟩
    rw [hbinding] at hid
    cases hid
    rfl
  · intro k k' i i' hi hi' howner hepoch hlt
    obtain hi | ⟨rfl, -, -⟩ := Table.insert_cases hi
    · obtain hi' | ⟨rfl, -, -⟩ := Table.insert_cases hi'
      · exact h.sequence hi hi' howner hepoch hlt
      · exact (hlater hi howner hepoch).2
    · obtain hi' | ⟨rfl, -, -⟩ := Table.insert_cases hi'
      · have hbefore := (hlater hi' howner.symm hepoch.symm).1
        omega
      · exact Nat.le_refl _

theorem sessionKept_deliverContext (i : RuntimeInputDelivery) (m : ContextManifest) (c : Conversation) :
    SessionKept c (deliverContext i m c) :=
  ⟨rfl, id, Nat.le_refl _, fun _ => .inl rfl⟩

theorem received_conversations (s : Store) (target : DeliveryTarget) (nativeInputId : String) (now : Nat) :
    Table.Grows SessionKept (fun _ => False) s.conversations (s.received target nativeInputId now).conversations := by
  unfold received
  dsimp only
  split
  · exact .update SessionKept.refl s.conversations target.conversation.id (deliverContext target.input target.manifest)
      (fun _ => rfl) fun c _ => sessionKept_deliverContext _ _ c
  · exact .refl SessionKept.refl s.conversations

/-- **The step lemma**: the tables agree, and what executes after a transaction executed before it. -/
theorem sessionInv_step (s : Store) (a : Action) (h : SessionInv s) : SessionInv (s.step a) ∧ ExecutedBefore s (s.step a) := by
  have hregistered := registered_step s a h.registered
  have heffect := step_effect s a
  generalize s.step a = s' at heffect hregistered ⊢
  have hruns : Table.Grows RunFollows (fun _ => False) s.runs s.runs := .refl (fun r => (RunKept.refl r).follows) s.runs
  have hconversations : Table.Grows SessionKept (fun _ => False) s.conversations s.conversations :=
    .refl SessionKept.refl s.conversations
  cases heffect with
  | moved hmoves => exact hmoves.executedBefore h
  | requested =>
    rw [requestRedelivery_eq] at hregistered ⊢
    exact h.of_tables hregistered hruns hconversations rfl (.refl SameInput.refl s.inputs)
  | claimed envelope command facts run workspace =>
    refine h.of_tables hregistered ?_ ?_ rfl (.refl SameInput.refl s.inputs)
    · exact .update (fun r => (RunKept.refl r).follows) s.runs run.id (claimRun workspace) (fun _ => rfl)
        fun r _ => ⟨rfl, rfl, .inr (Nat.lt_succ_self _)⟩
    · exact .update SessionKept.refl s.conversations run.conversationId clearBindingSecret (fun _ => rfl)
        fun c _ => ⟨rfl, id, Nat.le_refl _, fun _ => .inl rfl⟩
  | resolved envelope runId campId version effects run hrun hstatus =>
    have hid : run.id = runId := Table.key_of_find? hrun
    rw [settleBatchDeliveries_eq]
    refine h.of_tables (settleBatchDeliveries_eq _ _ _ _ ▸ hregistered) ?_ hconversations rfl ?_
    · refine .update (fun r => (RunKept.refl r).follows) s.runs runId closeUnknownOutcome (fun _ => rfl) fun r hr => ?_
      rw [hrun] at hr
      cases hr
      exact (ends_closeUnknownOutcome (by rw [hstatus]; rfl)).kept.follows
    · exact (settleBatchDeliveries_inputs (s := { s with runs := s.runs.update runId closeUnknownOutcome }) run _ _).mono
        InputKept.same id
  | preparedAgain runId epoch manifestId options i =>
    exact h.of_tables hregistered hruns hconversations rfl
      (.update SameInput.refl s.inputs i.id (prepareAgain _) (fun _ => rfl)
        fun _ _ => ⟨rfl, rfl, rfl, rfl, rfl, rfl, rfl, rfl⟩)
  | begun runId epoch i =>
    exact h.of_tables hregistered hruns hconversations rfl
      (.update SameInput.refl s.inputs i.id (fun i => { i with dispatchStarted := true }) (fun _ => rfl)
        fun _ _ => ⟨rfl, rfl, rfl, rfl, rfl, rfl, rfl, rfl⟩)
  | prepared epoch options run m c bindingId hrun hm hc hepoch haccepted hfirst hunaccepted howner hgeneration hbinding hsource
      hfresh =>
    exact ⟨⟨hregistered, ⟨h.referred.conversation, h.referred.turn⟩, h.sessions.insert hrun hc hgeneration hbinding⟩,
      fun k i hi hexecutes => hexecutes⟩
  | acknowledged nativeInputId now resume target s' hack =>
    obtain ⟨acknowledged, hredelivery, hmoves, -⟩ := hack.outcome
    have heq := acknowledged_eq hredelivery
    have hinputs : Table.Grows SameInput (fun _ => False) s.inputs acknowledged.inputs := by
      rw [heq]
      exact received_inputs_same s target nativeInputId now
    obtain ⟨hinv, hbefore⟩ : SessionInv acknowledged ∧ ExecutedBefore s acknowledged := by
      have hreg := h.registered.acknowledged heq
      rw [heq] at hreg ⊢
      exact h.of_tables hreg hruns (received_conversations s target nativeInputId now) rfl
        (received_inputs_same s target nativeInputId now)
    obtain ⟨hinv', hbefore'⟩ := hmoves.executedBefore hinv
    exact ⟨hinv', hbefore.trans (fun k i hi => hinputs.kept hi) hbefore'⟩

end Rovai.AgentRuns
