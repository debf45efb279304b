import RovaiCore.SessionContext
import Mathlib.Data.List.Induction
/-!
# Generations, contracts and credentials of the Native Bindings (`team_tool.rs`)

Along a run that draws fresh identities every generation of a conversation has one binding, what its session has read was
acknowledged on the binding it has, and a credential speaks for the executing Run of the binding it was derived for.
-/
namespace Rovai.AgentRuns

open Tables (Table)
open List
open Store

/-! ## Resolving a credential -/

structure SenderIdentity where
  (campId agentId agentRunId : String)
  executionEpoch : Nat
  credentialDigest : String

def attests (attestedRun : Option (String × Nat)) (c : Conversation) (run : AgentRun) : Bool :=
  match attestedRun with
  | none => c.nativeSessionId.isSome
  | some (runId, executionEpoch) => run.id == runId && run.executionEpoch == executionEpoch

def Store.sendsFor (s : Store) (memberMatches : AgentRun → Bool) (nativeBindingId credentialDigest : String)
    (attestedRun : Option (String × Nat)) (c : Conversation) (run : AgentRun) : Bool :=
  run.conversationId == c.id && c.nativeBindingId == some nativeBindingId &&
    c.nativeBindingSecretDigest == some credentialDigest && attests attestedRun c run && run.status == .running &&
    !run.cancelRequested && (run.campTurnId == none || (s.turnOf run).any (fun turn => turn.live && !turn.cancelRequested)) &&
    memberMatches run

def Store.resolveSenderIdentity (s : Store) (memberMatches : AgentRun → Bool) (nativeBindingId credentialDigest : String)
    (attestedRun : Option (String × Nat)) : Except String SenderIdentity :=
  match s.conversations.rows.flatMap (fun c =>
      (s.runs.rows.filter (s.sendsFor memberMatches nativeBindingId credentialDigest attestedRun c)).map (fun run => (c, run))) with
  | [] => .error "Native Binding credential does not resolve to one current active AgentRun"
  | (c, run) :: _ =>
    if run.runtimeAdapterKind.isNone then .error "AgentRun has no frozen Runtime Adapter"
    else .ok ⟨c.campId, c.agentId, run.id, run.executionEpoch, credentialDigest⟩

theorem resolveSenderIdentity_ok {s : Store} {memberMatches : AgentRun → Bool} {nativeBindingId credentialDigest : String}
    {attestedRun : Option (String × Nat)} {identity : SenderIdentity}
    (h : s.resolveSenderIdentity memberMatches nativeBindingId credentialDigest attestedRun = .ok identity) :
    ∃ c run, s.conversations.find? c.id = some c ∧ s.runs.find? run.id = some run ∧
      s.sendsFor memberMatches nativeBindingId credentialDigest attestedRun c run = true ∧
      identity = ⟨c.campId, c.agentId, run.id, run.executionEpoch, credentialDigest⟩ := by
  unfold resolveSenderIdentity at h
  split at h
  · cases h
  rename_i c run rest hrows
  split at h
  · cases h
  cases h
  obtain ⟨c', hc', hrun⟩ := mem_flatMap.1 (hrows ▸ mem_cons_self : (c, run) ∈ _)
  obtain ⟨run', hrun', heq⟩ := mem_map.1 hrun
  cases heq
  obtain ⟨hmem, hsends⟩ := mem_filter.1 hrun'
  exact ⟨c, run, Table.find?_of_mem hc', Table.find?_of_mem hmem, hsends, rfl⟩

/-! ## Identities that are drawn -/

variable {Process : Type} (digest : Process → String → Nat → String) (s : Store)

def Store.unused (bindingId : String) : Bool :=
  !s.conversations.any (fun c => c.nativeBindingId == some bindingId)

/-- The identities that the transaction draws are fresh, and its credential is derived under the secret of one process. -/
def Store.Draws : Action → Prop
  | .prepareBinding command _ => (∃ process, command.credentialDigest = digest process) ∧ s.unused command.newBindingId = true
  | .bindNativeSession _ command _ _ _ => command.proposedBindingId = none → s.unused command.newBindingId = true
  | _ => True

/-- The bind completes a binding that another session is attached to, which has read a contract. -/
def Store.CompletesOver : Action → Prop
  | .bindNativeSession envelope command frozenRuntimeMatches _ now => ∃ run c session,
    s.Admits envelope command frozenRuntimeMatches now run c ∧ command.completes c = true ∧
      c.nativeBindingSecretDigest.isSome = true ∧ c.nativeSessionId = some session ∧ session ≠ command.nativeSessionId ∧
      (c.nativeCharterDigest.isSome = true ∨ c.nativeCollaborationStateDigest.isSome = true)
  | _ => False

/-! ## Generations -/

/-- A new binding raises the generation by one, and nothing else changes it. -/
structure GenerationStep (c c' : Conversation) : Prop where
  monotone : c.nativeBindingGeneration ≤ c'.nativeBindingGeneration
  raised : c'.nativeBindingId ≠ c.nativeBindingId → c'.nativeBindingId ≠ none →
    c'.nativeBindingGeneration = c.nativeBindingGeneration + 1
  changed : c'.nativeBindingGeneration ≠ c.nativeBindingGeneration →
    c'.nativeBindingId ≠ c.nativeBindingId ∧ c'.nativeBindingId ≠ none

/-- A bound generation is positive, and a credential that is kept was derived for the binding and its generation. -/
structure BindingInv (c : Conversation) : Prop where
  generation : c.nativeBindingId.isSome = true → 1 ≤ c.nativeBindingGeneration
  secret : ∀ credential, c.nativeBindingSecretDigest = some credential → ∃ process bindingId,
    c.nativeBindingId = some bindingId ∧ credential = digest process bindingId c.nativeBindingGeneration

def BindingsInv : Prop :=
  ∀ k c, s.conversations.find? k = some c → BindingInv digest c

variable {digest} {s : Store} {a : Action} {k : String} {c c' : Conversation}

theorem ne_of_unused {bindingId : String} (h : s.unused bindingId = true) (hc : s.conversations.find? k = some c) :
    c.nativeBindingId ≠ some bindingId := by
  unfold unused at h
  rw [Bool.not_eq_true'] at h
  simpa using Table.any_eq_false h hc

theorem nextGeneration_eq (c : Conversation) : nextGeneration c = c.nativeBindingGeneration + 1 := by
  unfold nextGeneration
  omega

theorem LeavesBinding.generationStep (h : LeavesBinding c c') : GenerationStep c c' where
  monotone := h.generation.ge
  raised hne hsome := by
    obtain ⟨hid, -⟩ | ⟨hnone, -⟩ := h.binding
    · exact absurd hid hne
    · exact absurd hnone hsome
  changed hne := absurd h.generation hne

theorem generationStep_of_same (hid : c'.nativeBindingId = c.nativeBindingId)
    (hgeneration : c'.nativeBindingGeneration = c.nativeBindingGeneration) : GenerationStep c c' :=
  ⟨hgeneration.ge, fun hne => absurd hid hne, fun hne => absurd hgeneration hne⟩

theorem generationStep_of_next {bindingId : String} (hid : c'.nativeBindingId = some bindingId)
    (hgeneration : c'.nativeBindingGeneration = nextGeneration c) (hne : c.nativeBindingId ≠ some bindingId) : GenerationStep c c' := by
  rw [nextGeneration_eq] at hgeneration
  refine ⟨by omega, fun _ _ => hgeneration, fun _ => ⟨?_, ?_⟩⟩
  · rw [hid]
    exact hne.symm
  · rw [hid]
    exact Option.some_ne_none bindingId

theorem ne_of_not_completes {envelope : Envelope} {command : BindNativeSession} {frozenRuntimeMatches metadataChanged : Bool}
    {now : Nat} (hdraws : s.Draws digest (.bindNativeSession envelope command frozenRuntimeMatches metadataChanged now))
    (hc : s.conversations.find? k = some c) (hinv : BindingInv digest c) (hcompletes : command.completes c = false) :
    c.nativeBindingId ≠ some (command.proposedBindingId.getD command.newBindingId) := by
  cases hproposed : command.proposedBindingId with
  | none => exact ne_of_unused (hdraws hproposed) hc
  | some proposed =>
    intro hid
    have hgeneration := hinv.generation (by rw [hid]; rfl)
    simp [BindNativeSession.completes, hproposed, hid, hgeneration] at hcompletes

theorem BindingStep.generationStep (h : BindingStep s a c c') (hdraws : s.Draws digest a) (hc : s.conversations.find? k = some c)
    (hinv : BindingInv digest c) : GenerationStep c c' := by
  cases h with
  | left h => exact h.generationStep
  | refreshed => exact generationStep_of_same rfl rfl
  | reserved command now ha =>
    subst ha
    exact generationStep_of_next rfl rfl (ne_of_unused hdraws.2 hc)
  | completed => exact generationStep_of_same rfl rfl
  | replaced envelope command frozenRuntimeMatches metadataChanged now ha hcompletes =>
    subst ha
    exact generationStep_of_next rfl rfl (ne_of_not_completes hdraws hc hinv hcompletes)

theorem one_le_nextGeneration (c : Conversation) : 1 ≤ nextGeneration c := by
  unfold nextGeneration
  omega

theorem LeavesBinding.bindingInv (h : LeavesBinding c c') (hinv : BindingInv digest c) : BindingInv digest c' := by
  obtain ⟨hid, -⟩ | ⟨hnone, -, hcleared⟩ := h.binding
  · constructor
    · rw [hid, h.generation]
      exact hinv.generation
    · intro credential hcredential
      rw [hid, h.generation]
      obtain hsecret | hcleared := h.secret
      · exact hinv.secret credential (hsecret ▸ hcredential)
      rw [hcleared] at hcredential
      cases hcredential
  · constructor
    · simp [hnone]
    · simp [hcleared]

theorem BindingStep.bindingInv (h : BindingStep s a c c') (hdraws : s.Draws digest a) (hinv : BindingInv digest c) :
    BindingInv digest c' := by
  cases h with
  | left h => exact h.bindingInv hinv
  | refreshed command now bindingId ha hid =>
    subst ha
    obtain ⟨process, hprocess⟩ := hdraws.1
    refine ⟨hinv.generation, fun credential hcredential => ⟨process, bindingId, hid, ?_⟩⟩
    rw [← hprocess]
    exact (Option.some.inj hcredential).symm
  | reserved command now ha =>
    subst ha
    obtain ⟨process, hprocess⟩ := hdraws.1
    refine ⟨fun _ => one_le_nextGeneration c, fun credential hcredential => ⟨process, command.newBindingId, rfl, ?_⟩⟩
    rw [← hprocess]
    exact (Option.some.inj hcredential).symm
  | completed => exact ⟨hinv.generation, hinv.secret⟩
  | replaced => exact ⟨fun _ => one_le_nextGeneration c, fun credential hcredential => nomatch hcredential⟩

theorem bindingsInv_step (hdraws : s.Draws digest a) (hinv : BindingsInv digest s) : BindingsInv digest (s.step a) := by
  intro k c' hc'
  obtain ⟨c, hc, hstep⟩ | ⟨-, hnew⟩ := (step_bindings s a).origin hc'
  · exact hstep.bindingInv hdraws (hinv k c hc)
  · exact ⟨by simp [hnew.bindingId], by simp [hnew.secret]⟩

theorem bindingsInv_run {as : List Action} (h : Runs.AllSteps step (fun s a => s.Draws digest a) Store.empty as) :
    BindingsInv digest (Store.empty.run as) :=
  Runs.run_invariant_of_allSteps step (fun _ _ => bindingsInv_step) as _ h (fun _ _ hc => nomatch hc)

theorem step_session (s : Store) (a : Action) (hc : s.conversations.find? k = some c) :
    ∃ c', (s.step a).conversations.find? k = some c' ∧ SessionKept c c' := by
  obtain ⟨c', hc', hstep⟩ := (step_conversations s a).kept hc
  refine ⟨c', hc', ?_⟩
  cases hstep with
  | kept h => exact h.session
  | delivered target => exact sessionKept_deliverContext target.input target.manifest c

theorem bound_before : ∀ {as : List Action} {s : Store} {c c' : Conversation} {bindingId : String},
    s.conversations.find? k = some c → (s.run as).conversations.find? k = some c' →
    c'.nativeBindingGeneration ≤ c.nativeBindingGeneration → c'.nativeBindingId = some bindingId →
    c'.nativeBindingGeneration = c.nativeBindingGeneration ∧ c.nativeBindingId = some bindingId
  | [], s, c, c', bindingId, hc, hc', hle, hid => by
    rw [run_nil, hc] at hc'
    cases hc'
    exact ⟨rfl, hid⟩
  | a :: as, s, c, c', bindingId, hc, hc', hle, hid => by
    obtain ⟨c₁, hc₁, hkept⟩ := step_session s a hc
    rw [run_cons] at hc'
    obtain ⟨hgeneration, hid₁⟩ := bound_before hc₁ hc' (hle.trans hkept.generation) hid
    have hmono := hkept.generation
    obtain ⟨-, hbound⟩ := hkept.of_bound hle hgeneration.symm hid₁
    exact ⟨by omega, hbound⟩

/-! ## What a session has read -/

/-- The session has read nothing, or what an acknowledgement on the present binding wrote. -/
def Acknowledged (as : List Action) (k : String) (c : Conversation) : Prop :=
  c.nativeCharterDigest = none ∧ c.nativeCollaborationStateDigest = none ∨
    ∃ bs a target, bs ++ [a] <+: as ∧ (Store.empty.run bs).currentReceipt k a = some target ∧
      c.nativeBindingId = some target.input.nativeBindingId ∧
      c.nativeBindingGeneration = target.input.nativeBindingGeneration ∧
      c.nativeCharterDigest = some target.manifest.charterDigest ∧
      c.nativeCollaborationStateDigest = some target.manifest.collaborationStateDigest

theorem acknowledged_kept {as : List Action} (h : Acknowledged as k c) (hkept : ConversationKept c c') (a : Action) :
    Acknowledged (as ++ [a]) k c' := by
  by_cases hsame : SameBinding c c'
  · obtain ⟨hcharter, hcollaboration⟩ | ⟨bs, b, target, hbefore, hreceipt, hid, hgeneration, hcharter, hcollaboration⟩ := h
    · refine .inl ?_
      obtain ⟨hcharter', hcollaboration'⟩ | hnone := hkept.digests
      · exact ⟨hcharter'.trans hcharter, hcollaboration'.trans hcollaboration⟩
      · exact hnone
    · obtain ⟨hcharter', hcollaboration'⟩ := hkept.kept hsame (by rw [hid]; rfl)
      exact .inr ⟨bs, b, target, hbefore.trans (prefix_append as [a]), hreceipt, hsame.2.trans hid, hsame.1.trans hgeneration,
        hcharter'.trans hcharter, hcollaboration'.trans hcollaboration⟩
  · exact .inl (hkept.forgotten hsame)

theorem acknowledged_run : ∀ (as : List Action) (k : String) (c : Conversation),
    (Store.empty.run as).conversations.find? k = some c → Acknowledged as k c := by
  intro as
  induction as using List.reverseRecOn with
  | nil =>
    intro k c hc
    cases hc
  | append_singleton as a ih =>
    intro k c' hc'
    rw [run_snoc] at hc'
    obtain ⟨c, hc, hstep⟩ | ⟨-, hnew⟩ := (step_conversations _ a).origin hc'
    · cases hstep with
      | kept hkept => exact acknowledged_kept (ih k c hc) hkept a
      | delivered target hreceipt =>
        rw [Table.key_of_find? hc] at hreceipt
        have hreceives := receives_of_currentReceipt hreceipt
        have hconversation : target.conversation = c := Option.mem_unique hreceives.conversation hc
        obtain ⟨r, c₁, hr, hc₁, -, -, -, -, -, hgeneration, -⟩ := hreceives.executes
        have hrun : r = target.run := Option.mem_unique hr hreceives.run
        rw [hrun, hreceives.ofConversation, hc] at hc₁
        cases hc₁
        refine .inr ⟨as, a, target, prefix_rfl, hreceipt, ?_, hgeneration, rfl, rfl⟩
        rw [← hconversation]
        exact hreceives.bound
    · exact .inl ⟨hnew.charter, hnew.collaboration⟩

/-! ## Sessions that replace others -/

def Store.ReplacesRead (s : Store) (a : Action) : Prop :=
  ∀ k c c' session session', s.conversations.find? k = some c → (s.step a).conversations.find? k = some c' →
    c.nativeSessionId = some session → c'.nativeSessionId = some session' → session ≠ session' →
    c'.nativeCharterDigest = none ∧ c'.nativeCollaborationStateDigest = none

theorem replacesRead_of_not_completesOver (h : ¬s.CompletesOver a) : s.ReplacesRead a := by
  intro k c c' session session' hc hc' hsession hsession' hne
  obtain ⟨c₁, hc₁, hstep⟩ := (step_bindings s a).kept hc
  rw [hc'] at hc₁
  cases hc₁
  cases hstep with
  | left h =>
    obtain ⟨-, hsame⟩ | ⟨-, hnone, -⟩ := h.binding
    · rw [hsession', hsession] at hsame
      exact absurd (Option.some.inj hsame).symm hne
    · rw [hsession'] at hnone
      cases hnone
  | refreshed => exact absurd (Option.mem_unique hsession hsession') hne
  | reserved => exact absurd (Option.mem_unique hsession hsession') hne
  | completed envelope command frozenRuntimeMatches metadataChanged now run ha hadmits hcompletes hsecret =>
    have hproposed : command.nativeSessionId = session' := Option.some.inj hsession'
    have hread : ¬(c.nativeCharterDigest.isSome = true ∨ c.nativeCollaborationStateDigest.isSome = true) := fun hread =>
      h (ha ▸ ⟨run, c, session, hadmits, hcompletes, hsecret, hsession, hproposed ▸ hne, hread⟩)
    rw [not_or, Bool.not_eq_true, Bool.not_eq_true, Option.isSome_eq_false_iff, Option.isSome_eq_false_iff,
      Option.isNone_iff_eq_none, Option.isNone_iff_eq_none] at hread
    exact hread
  | replaced => exact ⟨rfl, rfl⟩

theorem completesOver_step (h : s.CompletesOver a) : ∃ k c c' session session', s.conversations.find? k = some c ∧
    (s.step a).conversations.find? k = some c' ∧ c.nativeSessionId = some session ∧ c'.nativeSessionId = some session' ∧
    session ≠ session' ∧ (c'.nativeCharterDigest.isSome = true ∨ c'.nativeCollaborationStateDigest.isSome = true) := by
  cases a with
  | bindNativeSession envelope command frozenRuntimeMatches metadataChanged now =>
    obtain ⟨run, c, session, hadmits, hcompletes, hsecret, hsession, hne, hread⟩ := h
    have hreuses : command.reuses run c = false := by
      unfold BindNativeSession.reuses
      rw [hsession]
      simp [hne]
    have hself := Table.find?_key hadmits.foundConversation
    refine ⟨c.id, c, completeBinding command c, session, command.nativeSessionId, hself, ?_, hsession, rfl, hne, hread⟩
    have hstep : s.bindNativeSession envelope command frozenRuntimeMatches metadataChanged now =
        .ok (.applied "conversation.native_session_bound",
          { s with conversations := s.conversations.update c.id (completeBinding command) }) := by
      unfold bindNativeSession
      rw [hadmits.fields, hadmits.actor, hadmits.foundRun, hadmits.foundConversation]
      dsimp only
      rw [hadmits.current, hadmits.fenced, hadmits.configured, hadmits.frozen, hadmits.previous, hreuses, hcompletes, hsecret]
      rfl
    rw [step, hstep]
    exact Table.find?_update_self hself (completeBinding command) (fun _ => rfl)
  | _ => exact h.elim

/-! ## Credentials -/

def SpeaksForBinding (digest : Process → String → Nat → String) (s : Store) : Prop :=
  ∀ process bindingId generation memberMatches nativeBindingId attestedRun identity,
    s.resolveSenderIdentity memberMatches nativeBindingId (digest process bindingId generation) attestedRun = .ok identity →
    ∃ c run, s.conversations.find? c.id = some c ∧ c.nativeBindingId = some bindingId ∧ nativeBindingId = bindingId ∧
      c.nativeBindingGeneration = generation ∧ s.runs.find? identity.agentRunId = some run ∧ run.conversationId = c.id ∧
      run.status = .running ∧ run.cancelRequested = false ∧ identity.executionEpoch = run.executionEpoch ∧
      memberMatches run = true ∧ attests attestedRun c run = true

theorem BindingsInv.speaksForBinding (hinv : BindingsInv digest s)
    (hinjective : ∀ process process' bindingId bindingId' generation generation',
      digest process bindingId generation = digest process' bindingId' generation' → bindingId = bindingId' ∧ generation = generation') :
    SpeaksForBinding digest s := by
  intro process bindingId generation memberMatches nativeBindingId attestedRun identity h
  obtain ⟨c, run, hc, hrun, hsends, rfl⟩ := resolveSenderIdentity_ok h
  unfold sendsFor at hsends
  simp only [Bool.and_eq_true, beq_iff_eq, Bool.not_eq_true'] at hsends
  obtain ⟨⟨⟨⟨⟨⟨⟨hconversation, hid⟩, hsecret⟩, hattests⟩, hstatus⟩, hcancel⟩, -⟩, hmember⟩ := hsends
  obtain ⟨process', bindingId', hbound, hcredential⟩ := (hinv c.id c hc).secret _ hsecret
  obtain ⟨rfl, rfl⟩ := hinjective _ _ _ _ _ _ hcredential
  have hnamed : nativeBindingId = bindingId := Option.mem_unique hid hbound
  exact ⟨c, run, hc, hbound, hnamed, rfl, hrun, hconversation, hstatus, hcancel, rfl, hmember, hattests⟩

/-! ## Runs -/

/-- What holds of the bindings of every conversation, in every state of the run and at every transaction. -/
structure BindingsSound (digest : Process → String → Nat → String) (as : List Action) : Prop where
  generations : ∀ bs a, bs ++ [a] <+: as → ∀ k c c', (Store.empty.run bs).conversations.find? k = some c →
    ((Store.empty.run bs).step a).conversations.find? k = some c' → GenerationStep c c'
  oneBinding : ∀ bs cs, bs ++ cs <+: as → ∀ k c c' bindingId bindingId',
    (Store.empty.run bs).conversations.find? k = some c → (Store.empty.run (bs ++ cs)).conversations.find? k = some c' →
    c'.nativeBindingGeneration = c.nativeBindingGeneration → c.nativeBindingId = some bindingId →
    c'.nativeBindingId = some bindingId' → bindingId' = bindingId
  replaced : ∀ bs a, bs ++ [a] <+: as → (Store.empty.run bs).ReplacesRead a
  acknowledged : ∀ bs, bs <+: as → ∀ k c, (Store.empty.run bs).conversations.find? k = some c → Acknowledged bs k c
  credentials : ∀ bs, bs <+: as → SpeaksForBinding digest (Store.empty.run bs)

theorem allSteps_beginning {ok : Store → Action → Prop} {as bs : List Action} (h : Runs.AllSteps step ok Store.empty as)
    (hbs : bs <+: as) : Runs.AllSteps step ok Store.empty bs := by
  obtain ⟨cs, rfl⟩ := hbs
  exact ((Runs.allSteps_append step bs cs Store.empty).1 h).1

/-- **The bindings of a run** whose draws are fresh are sound exactly when no bind of it completes a binding over a session
that has read a contract. -/
theorem bindings_sound_iff (digest : Process → String → Nat → String)
    (hinjective : ∀ process process' bindingId bindingId' generation generation',
      digest process bindingId generation = digest process' bindingId' generation' → bindingId = bindingId' ∧ generation = generation')
    (as : List Action) (hdraws : Runs.AllSteps step (fun s a => s.Draws digest a) Store.empty as) :
    BindingsSound digest as ↔ Runs.AllSteps step (fun s a => ¬s.CompletesOver a) Store.empty as := by
  rw [Runs.allSteps_iff]
  constructor
  · intro hsound bs a hbefore hover
    obtain ⟨k, c, c', session, session', hc, hc', hsession, hsession', hne, hread⟩ := completesOver_step hover
    obtain ⟨hcharter, hcollaboration⟩ := hsound.replaced bs a hbefore k c c' session session' hc hc' hsession hsession' hne
    rw [hcharter, hcollaboration] at hread
    simp at hread
  · intro hover
    refine { generations := ?_, oneBinding := ?_, replaced := ?_, acknowledged := ?_, credentials := ?_ }
    · intro bs a hbefore k c c' hc hc'
      have hbs : bs <+: as := (prefix_append bs [a]).trans hbefore
      have hinv := bindingsInv_run (allSteps_beginning hdraws hbs)
      obtain ⟨c₁, hc₁, hstep⟩ := (step_bindings (Store.empty.run bs) a).kept hc
      rw [hc'] at hc₁
      cases hc₁
      exact hstep.generationStep ((Runs.allSteps_iff step).1 hdraws bs a hbefore) hc (hinv k c hc)
    · intro bs cs hbefore k c c' bindingId bindingId' hc hc' hgeneration hid hid'
      rw [run_append] at hc'
      obtain ⟨-, hbound⟩ := bound_before hc hc' hgeneration.le hid'
      exact Option.mem_unique hbound hid
    · intro bs a hbefore
      exact replacesRead_of_not_completesOver (hover bs a hbefore)
    · intro bs hbefore k c hc
      exact acknowledged_run bs k c hc
    · intro bs hbefore
      exact (bindingsInv_run (allSteps_beginning hdraws hbefore)).speaksForBinding hinjective

/-! ## A session that is attached over another -/

def plainCredential (_ : Unit) (bindingId : String) (generation : Nat) : String :=
  String.ofList (List.replicate generation 'g' ++ 'b' :: bindingId.toList)

theorem plainCredential_injective (process process' : Unit) (bindingId bindingId' : String) (generation generation' : Nat)
    (h : plainCredential process bindingId generation = plainCredential process' bindingId' generation') :
    bindingId = bindingId' ∧ generation = generation' := by
  have hlists : ∀ (n m : Nat) (l l' : List Char), List.replicate n 'g' ++ 'b' :: l = List.replicate m 'g' ++ 'b' :: l' →
      l = l' ∧ n = m := by
    intro n
    induction n with
    | zero =>
      intro m l l' h
      cases m with
      | zero => exact ⟨by simpa using h, rfl⟩
      | succ m => simp [replicate_succ] at h
    | succ n ih =>
      intro m l l' h
      cases m with
      | zero => simp [replicate_succ] at h
      | succ m =>
        have hrest : List.replicate n 'g' ++ 'b' :: l = List.replicate m 'g' ++ 'b' :: l' := by
          simpa [replicate_succ] using h
        obtain ⟨hl, hn⟩ := ih m l l' hrest
        exact ⟨hl, by omega⟩
  obtain ⟨hid, hgeneration⟩ := hlists generation generation' bindingId.toList bindingId'.toList (String.ofList_injective h)
  exact ⟨String.toList_injective hid, hgeneration⟩

def directRun (id : String) : AgentRun where
  id := id
  campId := "camp"
  campTurnId := some "turn"
  conversationId := "conversation"
  invocationKind := .direct
  runtimeAdapterKind := some .codexCli
  inputReady := true
  workspace := none
  status := .queued
  waitReason := none
  runtimeRecoveryRequired := false
  runtimeRebindCount := 0
  executionEpoch := 0
  version := 1
  cancelRequested := false
  cancelReasonCode := none
  lastErrorCode := none
  hasFinalOutput := false
  terminalResolutionSource := none
  terminalReasonCode := none

def claimOfRun (runId : String) : Action :=
  .claimAgentRun ⟨.system "agent-run-scheduler", some "camp"⟩ ⟨runId, 1, "owner", 60, none⟩ ⟨true, true, fun _ => true, 0, 0⟩

def credentialOf (runId newBindingId : String) : Action :=
  .prepareBinding ⟨runId, 1, false, true, true, newBindingId, "installation", some "compatibility", plainCredential ()⟩ 0

def attach (runId : String) (version : Nat) (previous : Option String) (session : String) : Action :=
  .bindNativeSession ⟨.system "runtime-adapter:codex", some "camp"⟩
    ⟨runId, "conversation", version, 1, some "installation", previous, some "compatibility", "installation", session,
      some "compatibility", some "binding", "other"⟩ true false 0

def attachedActions : List Action :=
  [.openConversation "camp" .campMember ⟨"agent", "delivery", "conversation"⟩, .changeTurn ⟨"turn", .running, false, false, none⟩,
   .queueRun (directRun "run"), claimOfRun "run", credentialOf "run" "binding", attach "run" 3 none "old session",
   .materializeContext startManifest 1, prepareOf 1 "first", .beginRuntimeInputDispatch "first" "run" 1,
   .acknowledgeInputDelivery "first" "native" 0 true, .settleInterruptedRun "run" "stop" false, .queueRun (directRun "next"),
   claimOfRun "next", credentialOf "next" "another"]

theorem draws_attachedActions : Runs.AllSteps step (fun s a => s.Draws plainCredential a) Store.empty attachedActions := by
  refine ⟨trivial, trivial, trivial, trivial, ⟨⟨(), rfl⟩, ?_⟩, fun hproposed => ?_, trivial, trivial, trivial, trivial, trivial,
    trivial, trivial, ⟨⟨(), rfl⟩, ?_⟩, trivial⟩
  · decide
  · cases hproposed
  · decide +kernel

/-- The next Run attaches another session to the binding, which has read nothing: the contract that the first one has read is
not sent to it. -/
theorem bindings_attached_over :
    Runs.AllSteps step (fun s a => s.Draws plainCredential a) Store.empty
        (attachedActions ++ [attach "next" 7 (some "old session") "new session"]) ∧
      ¬BindingsSound plainCredential (attachedActions ++ [attach "next" 7 (some "old session") "new session"]) := by
  refine ⟨(Runs.allSteps_append step _ _ _).2 ⟨draws_attachedActions, nofun, trivial⟩, fun hsound => ?_⟩
  have hbefore : ((Store.empty.run attachedActions).conversations.find? "conversation").map (fun c => c.nativeSessionId) =
      some (some "old session") := by decide +kernel
  have hafter : (((Store.empty.run attachedActions).step (attach "next" 7 (some "old session") "new session")).conversations.find?
      "conversation").map (fun c => (c.nativeSessionId, c.nativeCharterDigest)) = some (some "new session", some "charter") := by
    decide +kernel
  obtain ⟨c, hc, hsession⟩ := Option.map_eq_some_iff.1 hbefore
  obtain ⟨c', hc', hsession'⟩ := Option.map_eq_some_iff.1 hafter
  obtain ⟨hsession', hcharter⟩ := Prod.mk.inj hsession'
  have hread := (hsound.replaced attachedActions _ prefix_rfl "conversation" c c' _ _ hc hc' hsession hsession' (by decide)).1
  rw [hcharter] at hread
  cases hread

/-- Until then the bindings are sound. -/
theorem bindings_sound_attachedActions : BindingsSound plainCredential attachedActions := by
  refine (bindings_sound_iff plainCredential plainCredential_injective attachedActions draws_attachedActions).2 ?_
  refine ⟨id, id, id, id, id, ?_, id, id, id, id, id, id, id, id, trivial⟩
  rintro ⟨run, c, session, hadmits, -, -, hsession, -⟩
  have hfound := hadmits.foundConversation
  have hnone : ((Store.empty.run (attachedActions.take 5)).conversations.find? "conversation").map (fun c => c.nativeSessionId) =
      some none := by decide
  obtain ⟨c', hc', hnone⟩ := Option.map_eq_some_iff.1 hnone
  have hsame : c = c' := Option.mem_unique hfound hc'
  rw [hsame, hnone] at hsession
  cases hsession

end Rovai.AgentRuns
