import RovaiCore.AgentRunSteps
/-!
# Moves of the AgentRun store

The writes that the transactions are made of, each with what has been checked when it is made, and of each operation which moves
it is.
-/
namespace Rovai.AgentRuns

open Tables (Table)
open Store

/-! ## Runs -/

structure Continues (r r' : AgentRun) : Prop where
  id : r'.id = r.id
  campTurnId : r'.campTurnId = r.campTurnId
  conversationId : r'.conversationId = r.conversationId
  invocationKind : r'.invocationKind = r.invocationKind
  executionEpoch : r'.executionEpoch = r.executionEpoch
  cancelRequested : r'.cancelRequested = r.cancelRequested
  version : r.version ≤ r'.version
  bumped : r'.status ≠ r.status → r.version < r'.version
  open_before : terminal r.status = false
  open_after : terminal r'.status = false
  active_before : active r'.status = true → active r.status = true
  started : r.status ≠ .queued → r'.status ≠ .queued

theorem Continues.next {run : AgentRun} {status : AgentRunStatus} {adapterKind : Option AdapterKind}
    {waitReason : Option WaitReason} {recoveryRequired : Bool} {rebindCount : Nat} {lastErrorCode : Option String}
    (hopen : terminal run.status = false) (hopen' : terminal status = false)
    (hactive : active status = true → active run.status = true)
    (hstarted : run.status ≠ .queued → status ≠ .queued) :
    Continues run { run with
      runtimeAdapterKind := adapterKind, status := status, waitReason := waitReason
      runtimeRecoveryRequired := recoveryRequired, runtimeRebindCount := rebindCount, lastErrorCode := lastErrorCode
      version := run.version + 1 } where
  id := rfl
  campTurnId := rfl
  conversationId := rfl
  invocationKind := rfl
  executionEpoch := rfl
  cancelRequested := rfl
  version := Nat.le_succ _
  bumped _ := Nat.lt_succ_self _
  open_before := hopen
  open_after := hopen'
  active_before := hactive
  started := hstarted

structure Ends (r r' : AgentRun) : Prop where
  id : r'.id = r.id
  campTurnId : r'.campTurnId = r.campTurnId
  conversationId : r'.conversationId = r.conversationId
  invocationKind : r'.invocationKind = r.invocationKind
  executionEpoch : r'.executionEpoch = r.executionEpoch
  cancelRequested : r.cancelRequested = true → r'.cancelRequested = true
  version : r.version < r'.version
  open_before : terminal r.status = false
  ended : terminal r'.status = true

/-- Why a Run ended: its error if it failed or its Runtime reported the end, and else its cancellation. -/
def AgentRun.terminalReason (run : AgentRun) : Option String :=
  match run.status with
  | .failed => run.lastErrorCode
  | .cancelled =>
    if run.terminalResolutionSource = some "runtime_terminal" then run.lastErrorCode else run.cancelReasonCode
  | _ => none

/-! ## Conversations -/

structure Touches (c c' : Conversation) : Prop where
  id : c'.id = c.id
  kind : c'.kind = c.kind
  ended : c.ended = true → c'.ended = true
  nativeBindingId : c'.nativeBindingId = c.nativeBindingId
  nativeBindingGeneration : c'.nativeBindingGeneration = c.nativeBindingGeneration
  boundary : c'.lastAcceptedPublicBoundarySequence = c.lastAcceptedPublicBoundarySequence
  charter : c'.nativeCharterDigest = c.nativeCharterDigest
  collaboration : c'.nativeCollaborationStateDigest = c.nativeCollaborationStateDigest
  workspaceFact : c'.nativeWorkspaceFactDigest = c.nativeWorkspaceFactDigest
  mission : c'.missionDetailsDeliveredVersion = c.missionDetailsDeliveredVersion

/-- The session is replaced or dropped: the contract it has read is forgotten, the generation is raised or nothing is bound. -/
structure Rebinds (c c' : Conversation) : Prop where
  id : c'.id = c.id
  kind : c'.kind = c.kind
  ended : c'.ended = c.ended
  binding : c.nativeBindingGeneration < c'.nativeBindingGeneration ∨
    c'.nativeBindingGeneration = c.nativeBindingGeneration ∧ c'.nativeBindingId = none
  boundary : c'.lastAcceptedPublicBoundarySequence = c.lastAcceptedPublicBoundarySequence ∨
    c.kind = .singleChat ∧ c'.lastAcceptedPublicBoundarySequence = 0
  charter : c'.nativeCharterDigest = none
  collaboration : c'.nativeCollaborationStateDigest = none
  workspaceFact : c'.nativeWorkspaceFactDigest = c.nativeWorkspaceFactDigest
  mission : c'.missionDetailsDeliveredVersion = c.missionDetailsDeliveredVersion

/-! ## Inputs -/

/-- What a receipt other than an acceptance, or the end of the Run, makes of an input that has no outcome yet. -/
structure Loses (i i' : RuntimeInputDelivery) : Prop where
  before : i.status = .prepared ∨ i.status = .deliveryUnknown
  after : i'.status = .deliveryUnknown ∨ i'.status = .notAccepted
  rest : i' = { i with status := i'.status }

/-! ## Moves -/

inductive Move (s : Store) : Store → Prop
  | rewriteRuns (p : AgentRun → Bool) (f : AgentRun → AgentRun) (hf : ∀ r, (f r).id = r.id)
      (h : ∀ k r, s.runs.find? k = some r → p r = true → Continues r (f r)) :
      Move s { s with runs := s.runs.updateWhere p f hf }
  | endRun (run : AgentRun) (f : AgentRun → AgentRun) (hf : ∀ r, (f r).id = r.id) (closed : Store)
      (hrun : s.runs.find? run.id = some run) (hclosed : closed = s ∨ closed = s.closeAbortiveRunEffects run.id)
      (h : Ends run (f run)) :
      Move s ({ closed with runs := closed.runs.update run.id f hf
        }.settleBatchDeliveries run (f run).status (f run).terminalReason)
  | endChatRun (run : AgentRun) (f : AgentRun → AgentRun) (hf : ∀ r, (f r).id = r.id)
      (hrun : s.runs.find? run.id = some run) (hkind : run.invocationKind = .singleChat) (h : Ends run (f run)) :
      Move s { s with runs := s.runs.update run.id f hf }
  | settleAgain (run : AgentRun) (hrun : s.runs.find? run.id = some run) (hended : terminal run.status = true) :
      Move s (s.settleBatchDeliveries run run.status run.lastErrorCode)
  | queueRun (run : AgentRun) (hconversation : (s.conversations.find? run.conversationId).isSome = true)
      (hturn : ∀ turnId, run.campTurnId = some turnId → (s.turns.find? turnId).isSome = true) :
      Move s { s with runs := s.runs.insert (queuedRun run) }
  | insertBatchRun (claim : LaneClaim) (conversationId : String) (selected : List String)
      (hfresh : s.runs.find? claim.runId = none) (hconversation : (s.conversations.find? conversationId).isSome = true) :
      Move s (s.insertBatchRun claim conversationId selected)
  | exhaustTurn (campTurnId : String) :
      Move s { s with turns := s.turns.update campTurnId (fun turn => { turn with executionBudgetExhausted := true }) }
  | changeTurn (turn : CampTurn) : Move s (s.changeTurn turn)
  | touchConversations (p : Conversation → Bool) (f : Conversation → Conversation) (hf : ∀ c, (f c).id = c.id)
      (h : ∀ c, Touches c (f c)) : Move s { s with conversations := s.conversations.updateWhere p f hf }
  | rebind (conversationId : String) (f : Conversation → Conversation) (hf : ∀ c, (f c).id = c.id)
      (h : ∀ c, Rebinds c (f c)) : Move s { s with conversations := s.conversations.update conversationId f hf }
  | openConversation (campId : String) (kind : ConversationKind) (recipient : Recipient) :
      Move s { s with conversations := s.conversations.insert { newConversation campId recipient with kind := kind } }
  | insertManifest (manifest : ContextManifest) (run : AgentRun) (hrun : s.runs.find? manifest.agentRunId = some run)
      (hactive : active run.status = true)
      (hfirst : s.manifests.any (fun m => m.agentRunId == run.id && m.sourceDeliveryId == manifest.sourceDeliveryId) = false)
      (hsource : ∀ d, manifest.sourceDeliveryId = some d → s.steersInto run d = true)
      (hgeneration : (s.conversations.find? run.conversationId).any
        (fun c => c.nativeBindingGeneration == manifest.nativeBindingGeneration) = true) :
      Move s { s with manifests := s.manifests.insert manifest }
  | loseInput (inputId : String) (f : RuntimeInputDelivery → RuntimeInputDelivery) (hf : ∀ i, (f i).id = i.id)
      (h : ∀ i, s.inputs.find? inputId = some i → Loses i (f i)) :
      Move s { s with inputs := s.inputs.update inputId f hf }
  | insertDelivery (campId : String) (sourceKind : DeliverySourceKind) (sequence : Nat) (recipient : Recipient) :
      Move s { s with deliveries := s.deliveries.insert (newDelivery campId sourceKind sequence recipient) }
  | cancelExpired (expired : List String) : Move s (s.cancelExpired expired)
  | steerDelivery (target : String × AgentRun) : Move s (s.steerDelivery target)
  | returnToQueue (deliveryId : String) : Move s (s.returnToQueue deliveryId)
  | settleSource (runId deliveryId : String) (i : RuntimeInputDelivery) (m : ContextManifest)
      (hi : s.inputs.find? i.id = some i) (hrun : i.agentRunId = runId) (hmanifest : i.contextManifestId = m.id)
      (hm : s.manifests.find? m.id = some m) (hsource : m.sourceDeliveryId = some deliveryId) :
      Move s { s with
        deliveries := s.deliveries.updateWhere
          (fun d => d.id == deliveryId && (d.status == .claimed || d.status == .failed) && d.claimedAgentRunId == some runId)
          (fun d => { d with status := .settled, failureCode := none }) }

def Moves : Store → Store → Prop :=
  Relation.ReflTransGen Move

theorem Moves.refl (s : Store) : Moves s s := Relation.ReflTransGen.refl

variable {s s' : Store}

theorem Move.once (h : Move s s') : Moves s s' := Relation.ReflTransGen.single h

theorem Moves.trans {s s' s'' : Store} (h : Moves s s') (h' : Moves s' s'') : Moves s s'' :=
  Relation.ReflTransGen.trans h h'

theorem Moves.preserves {P : Store → Prop} (hmove : ∀ {s s'}, Move s s' → P s → P s') (h : Moves s s')
    (hs : P s) : P s' := by
  induction h with
  | refl => exact hs
  | tail _ hlast ih => exact hmove hlast ih

theorem Moves.lift {R : Store → Store → Prop} (hrefl : ∀ s, R s s) (htrans : ∀ {a b c}, R a b → R b c → R a c)
    (hmove : ∀ {s s'}, Move s s' → R s s') (h : Moves s s') : R s s' := by
  induction h with
  | refl => exact hrefl _
  | tail _ hlast ih => exact htrans ih (hmove hlast)

/-! ## What the settlements leave alone -/

namespace Store

variable (s : Store)

theorem settleBatchDeliveries_eq (run : AgentRun) (status : AgentRunStatus) (code : Option String) :
    s.settleBatchDeliveries run status code = { s with
      inputs := (s.settleBatchDeliveries run status code).inputs
      deliveries := (s.settleBatchDeliveries run status code).deliveries } := by
  unfold settleBatchDeliveries settleRunDeliveries settleExecution
  split
  · split
    · rfl
    dsimp only
    by_cases h : status = .succeeded
    · simp only [if_pos h]
      rfl
    · simp only [if_neg h]
      rfl
  · rfl

theorem changeTurn_eq (turn : CampTurn) : s.changeTurn turn = { s with turns := (s.changeTurn turn).turns } := by
  unfold changeTurn
  split
  · rfl
  · split <;> rfl

theorem requestRedelivery_eq (conversationId bindingId : String) (generation : Nat) (adapterKind : AdapterKind) :
    s.requestRedelivery conversationId bindingId generation adapterKind = { s with
      requirements := (s.requestRedelivery conversationId bindingId generation adapterKind).requirements } := by
  unfold requestRedelivery
  split <;> rfl

end Store

/-! ## What is left of a binding -/

/-- The binding and its session stay, or are dropped at once; a credential stays or is cleared. -/
structure LeavesBinding (c c' : Conversation) : Prop where
  generation : c'.nativeBindingGeneration = c.nativeBindingGeneration
  binding : c'.nativeBindingId = c.nativeBindingId ∧ c'.nativeSessionId = c.nativeSessionId ∨
    c'.nativeBindingId = none ∧ c'.nativeSessionId = none ∧ c'.nativeBindingSecretDigest = none
  secret : c'.nativeBindingSecretDigest = c.nativeBindingSecretDigest ∨ c'.nativeBindingSecretDigest = none

structure Unbound (c : Conversation) : Prop where
  bindingId : c.nativeBindingId = none
  session : c.nativeSessionId = none
  secret : c.nativeBindingSecretDigest = none

variable (c : Conversation)

theorem LeavesBinding.refl : LeavesBinding c c :=
  ⟨rfl, .inl ⟨rfl, rfl⟩, .inl rfl⟩

theorem LeavesBinding.trans {a b c : Conversation} (h : LeavesBinding a b) (h' : LeavesBinding b c) : LeavesBinding a c where
  generation := h'.generation.trans h.generation
  binding := by
    obtain ⟨hid', hsession'⟩ | hdropped := h'.binding
    · obtain ⟨hid, hsession⟩ | ⟨hid, hsession, hsecret⟩ := h.binding
      · exact .inl ⟨hid'.trans hid, hsession'.trans hsession⟩
      refine .inr ⟨hid'.trans hid, hsession'.trans hsession, ?_⟩
      obtain hsecret' | hcleared := h'.secret
      · exact hsecret'.trans hsecret
      · exact hcleared
    · exact .inr hdropped
  secret := by
    obtain hsecret' | hcleared := h'.secret
    · exact h.secret.imp hsecret'.trans hsecret'.trans
    · exact .inr hcleared

theorem Unbound.left {a b : Conversation} (h : Unbound a) (h' : LeavesBinding a b) : Unbound b := by
  obtain ⟨hid, hsession⟩ | ⟨hid, hsession, hsecret⟩ := h'.binding
  · refine ⟨hid.trans h.bindingId, hsession.trans h.session, ?_⟩
    obtain hsecret | hcleared := h'.secret
    · exact hsecret.trans h.secret
    · exact hcleared
  · exact ⟨hid, hsession, hsecret⟩

theorem leavesBinding_dropSession : LeavesBinding c (dropSession c) :=
  ⟨rfl, .inr ⟨rfl, rfl, rfl⟩, .inr rfl⟩

abbrev BindingsLeft (s s' : Store) : Prop :=
  Table.Grows LeavesBinding Unbound s.conversations s'.conversations

theorem BindingsLeft.of_eq {s s' : Store} (h : s'.conversations = s.conversations) : BindingsLeft s s' := by
  unfold BindingsLeft
  rw [h]
  exact .refl LeavesBinding.refl s.conversations

theorem BindingsLeft.trans {s t u : Store} (h : BindingsLeft s t) (h' : BindingsLeft t u) : BindingsLeft s u :=
  Table.Grows.trans LeavesBinding.trans Unbound.left h h'

/-! ## Quiet moves -/

def SameKind (r r' : AgentRun) : Prop :=
  r'.invocationKind = r.invocationKind

theorem SameKind.refl (r : AgentRun) : SameKind r r :=
  rfl

abbrev RunsThere (s s' : Store) : Prop :=
  Table.Grows SameKind (fun r => r.invocationKind = .batch) s.runs s'.runs

theorem RunsThere.of_eq {s s' : Store} (h : s'.runs = s.runs) : RunsThere s s' := by
  unfold RunsThere
  rw [h]
  exact .refl SameKind.refl s.runs

/-- Moves that leave the bindings and queue no Run but batch Runs. -/
structure Quiet (s s' : Store) : Prop where
  moves : Moves s s'
  runs : RunsThere s s'
  bindings : BindingsLeft s s'

namespace Quiet

theorem refl (s : Store) : Quiet s s :=
  ⟨.refl s, .of_eq rfl, .of_eq rfl⟩

instance : Std.Refl Quiet := ⟨refl⟩

theorem trans {s t u : Store} (h : Quiet s t) (h' : Quiet t u) : Quiet s u :=
  ⟨h.moves.trans h'.moves, Table.Grows.trans (fun hab hbc => Eq.trans hbc hab) (fun hnew hab => Eq.trans hab hnew) h.runs h'.runs,
    h.bindings.trans h'.bindings⟩

theorem foldl {α : Type} {f : Store → α → Store} (h : ∀ s a, Quiet s (f s a)) : ∀ (as : List α) (s : Store),
    Quiet s (as.foldl f s)
  | [], s => refl s
  | a :: as, s => (h s a).trans (foldl h as (f s a))

variable {s s' : Store}

theorem aside (h : Move s s') (hruns : s'.runs = s.runs) (hconversations : s'.conversations = s.conversations) : Quiet s s' :=
  ⟨h.once, .of_eq hruns, .of_eq hconversations⟩

theorem rewriteRuns (p : AgentRun → Bool) (f : AgentRun → AgentRun) (hf : ∀ r, (f r).id = r.id)
    (h : ∀ k r, s.runs.find? k = some r → p r = true → Continues r (f r)) :
    Quiet s { s with runs := s.runs.updateWhere p f hf } :=
  ⟨(Move.rewriteRuns p f hf h).once, .updateWhere SameKind.refl s.runs p f hf fun k r hr hp => (h k r hr hp).invocationKind, .of_eq rfl⟩

theorem touch (conversationId : String) (f : Conversation → Conversation) (hf : ∀ c, (f c).id = c.id)
    (h : ∀ c, Touches c (f c)) (hleft : ∀ c, LeavesBinding c (f c)) :
    Quiet s { s with conversations := s.conversations.update conversationId f hf } :=
  ⟨(Move.touchConversations _ f hf h).once, .of_eq rfl, .update LeavesBinding.refl s.conversations _ f hf fun c _ => hleft c⟩

theorem rebind (conversationId : String) (f : Conversation → Conversation) (hf : ∀ c, (f c).id = c.id)
    (h : ∀ c, Rebinds c (f c)) (hleft : ∀ c, LeavesBinding c (f c)) :
    Quiet s { s with conversations := s.conversations.update conversationId f hf } :=
  ⟨(Move.rebind _ f hf h).once, .of_eq rfl, .update LeavesBinding.refl s.conversations _ f hf fun c _ => hleft c⟩

theorem openConversation (campId : String) (kind : ConversationKind) (recipient : Recipient) :
    Quiet s { s with conversations := s.conversations.insert { newConversation campId recipient with kind := kind } } :=
  ⟨(Move.openConversation campId kind recipient).once, .of_eq rfl, .insert LeavesBinding.refl s.conversations _ ⟨rfl, rfl, rfl⟩⟩

end Quiet

/-! ## What the settlements do -/

namespace Store

variable {s : Store} {s' : Store} {run : AgentRun} {status : AgentRunStatus}

theorem runsThere_update {f : AgentRun → AgentRun} (hf : ∀ r, (f r).id = r.id) (hrun : s.runs.find? run.id = some run)
    (h : (f run).invocationKind = run.invocationKind) (hs' : s'.runs = s.runs.update run.id f hf) : RunsThere s s' := by
  unfold RunsThere
  rw [hs']
  refine .update SameKind.refl s.runs run.id f hf fun r hr => ?_
  rw [hrun] at hr
  cases hr
  exact h

theorem quiet_endRun (f : AgentRun → AgentRun) (hf : ∀ r, (f r).id = r.id) {closed : Store}
    {code : Option String} (hrun : s.runs.find? run.id = some run) (hclosed : closed = s ∨ closed = s.closeAbortiveRunEffects run.id)
    (h : Ends run (f run)) (hstatus : (f run).status = status) (hcode : (f run).terminalReason = code) :
    Quiet s ({ closed with runs := closed.runs.update run.id f hf }.settleBatchDeliveries run status code) := by
  subst hstatus hcode
  refine ⟨(Move.endRun run f hf closed hrun hclosed h).once, runsThere_update hf hrun h.invocationKind ?_, .of_eq ?_⟩
  · rw [settleBatchDeliveries_eq]
    obtain rfl | rfl := hclosed <;> rfl
  · rw [settleBatchDeliveries_eq]
    obtain rfl | rfl := hclosed <;> rfl

theorem open_of_active (h : active status = true) : terminal status = false := by
  cases status <;> simp_all [active, terminal]

variable {result : CommandResult}

theorem settleFailedAgentRunInTx_quiet {failure : Failure} {source : Option String} {cleanup : Bool}
    {closed : Store} (hrun : s.runs.find? run.id = some run)
    (hclosed : closed = s ∨ closed = s.closeAbortiveRunEffects run.id)
    (h : closed.settleFailedAgentRunInTx run failure source cleanup = .ok (result, s')) :
    Quiet s s' ∧ result.isRejected = false := by
  unfold settleFailedAgentRunInTx at h
  split at h
  · rename_i hguard
    cases h
    simp only [Bool.and_eq_true] at hguard
    refine ⟨quiet_endRun (failRun failure source cleanup) (fun _ => rfl) hrun hclosed ?_ rfl rfl, rfl⟩
    exact { id := rfl, campTurnId := rfl, conversationId := rfl, invocationKind := rfl, executionEpoch := rfl
            cancelRequested := fun hc => by simp [failRun, hc]
            version := Nat.lt_succ_self _, open_before := open_of_active hguard.1.1, ended := rfl }
  · cases h

theorem ends_interruptRun (reasonCode : String) (runtimeLost : Bool) (h : terminal run.status = false) :
    Ends run (interruptRun reasonCode runtimeLost run) where
  id := rfl
  campTurnId := rfl
  conversationId := rfl
  invocationKind := rfl
  executionEpoch := rfl
  cancelRequested _ := rfl
  version := Nat.lt_succ_self _
  open_before := h
  ended := by
    unfold interruptRun
    by_cases hlost : (runtimeLost && !run.cancelRequested) = true <;> simp [hlost, terminal]

theorem terminalReason_interruptRun (reasonCode : String) (runtimeLost : Bool) (run : AgentRun) :
    (interruptRun reasonCode runtimeLost run).terminalReason = (interruptRun reasonCode runtimeLost run).cancelReasonCode := by
  unfold interruptRun AgentRun.terminalReason
  by_cases hlost : (runtimeLost && !run.cancelRequested) = true <;> simp [hlost]

theorem settleInterruptedRunInTx_quiet {runId reasonCode : String} {runtimeLost : Bool}
    (h : s.settleInterruptedRunInTx runId reasonCode runtimeLost = .ok s') : Quiet s s' := by
  unfold settleInterruptedRunInTx at h
  split at h
  · cases h
  rename_i run hrun
  have hid := Table.key_of_find? hrun
  subst hid
  split at h
  · rename_i hended
    cases h
    exact .aside (Move.settleAgain run hrun hended) (by rw [settleBatchDeliveries_eq]) (by rw [settleBatchDeliveries_eq])
  · rename_i hopen
    cases h
    exact quiet_endRun (interruptRun reasonCode runtimeLost) (fun _ => rfl) hrun (.inr rfl)
      (ends_interruptRun _ _ (by simpa using hopen)) rfl
      (terminalReason_interruptRun ..)

theorem settleAbortiveAgentRuns_quiet {reasonCode : String} : ∀ {runIds : List String} {s s' : Store},
    settleAbortiveAgentRuns reasonCode s runIds = .ok s' → Quiet s s'
  | [], s, s', h => by
    cases h
    exact .refl s
  | runId :: rest, s, s', h => by
    unfold settleAbortiveAgentRuns at h
    split at h
    · cases h
    rename_i settled hsettled
    exact (settleInterruptedRunInTx_quiet hsettled).trans (settleAbortiveAgentRuns_quiet h)

theorem exhaustCampTurnExecutionBudget_quiet {campTurnId : String}
    (h : s.exhaustCampTurnExecutionBudget campTurnId = .ok s') : Quiet s s' := by
  unfold exhaustCampTurnExecutionBudget at h
  split at h
  · cases h
  split at h
  · cases h
    exact .refl s
  · split at h
    · cases h
    · exact (Quiet.aside (Move.exhaustTurn campTurnId) rfl rfl).trans (settleAbortiveAgentRuns_quiet h)

theorem settleAbortiveCampTurns_quiet {reasonCode : String} : ∀ {turnIds : List String} {s s' : Store},
    settleAbortiveCampTurns reasonCode s turnIds = .ok s' → Quiet s s'
  | [], s, s', h => by
    cases h
    exact .refl s
  | campTurnId :: rest, s, s', h => by
    unfold settleAbortiveCampTurns at h
    split at h
    · cases h
    rename_i settled hsettled
    exact (settleAbortiveAgentRuns_quiet hsettled).trans (settleAbortiveCampTurns_quiet h)

theorem settleControlledShutdownRuns_quiet {cycle : ShutdownCycle}
    (h : s.settleControlledShutdownRuns cycle = .ok s') : Quiet s s' := by
  unfold settleControlledShutdownRuns at h
  split at h
  · cases h
  split at h
  · cases h
    exact .refl s
  · dsimp only at h
    split at h
    · cases h
    rename_i turnsSettled hturns
    exact (settleAbortiveCampTurns_quiet hturns).trans (settleAbortiveAgentRuns_quiet h)

/-! ## What the commands do -/

/-- A handler whose refusals change nothing and whose other results do what `R` says. -/
structure Settles (R : Store → Store → Prop) (s : Store) (x : Handled) : Prop where
  of_ok : ∀ result s', x = .ok (result, s') → R s s' ∧ (result.isRejected = true → s' = s)

section

variable {R : Store → Store → Prop}

theorem Settles.reject [Std.Refl R] (code message : String) : Settles R s (reject s code message) := by
  refine ⟨fun result s' h => ?_⟩
  cases h
  exact ⟨refl s, fun _ => rfl⟩

theorem Settles.error (message : String) : Settles R s (.error message) := by
  refine ⟨fun result s' h => ?_⟩
  cases h

theorem Settles.ok (h : R s s') (hresult : result.isRejected = false) :
    Settles R s (.ok (result, s')) := by
  refine ⟨fun _ _ he => ?_⟩
  cases he
  exact ⟨h, fun hr => by simp [hresult] at hr⟩

theorem Settles.checks {c : Prop} {hc : Decidable c} {message : String} {x : Handled} (h : ¬c → Settles R s x) :
    Settles R s (if c then .error message else x) := by
  split
  · exact .error _
  · exact h ‹_›

theorem Settles.unless [Std.Refl R] {c : Prop} {hc : Decidable c} {code message : String} {x : Handled} (h : ¬c → Settles R s x) :
    Settles R s (if c then AgentRuns.reject s code message else x) := by
  split
  · exact .reject _ _
  · exact h ‹_›

end

theorem Settles.rewriteRun (f : AgentRun → AgentRun) (hf : ∀ r, (f r).id = r.id)
    (hrun : s.runs.find? run.id = some run) (h : Continues run (f run)) (hresult : result.isRejected = false) :
    Settles Quiet s (.ok (result, { s with runs := s.runs.update run.id f hf })) := by
  refine .ok (Quiet.rewriteRuns _ f hf fun k r hr hk => ?_) hresult
  have hkey := Table.key_of_find? hr
  simp only [decide_eq_true_eq] at hk
  subst hkey
  rw [hk, hrun] at hr
  cases hr
  exact h

theorem find?_of_loadRun {runId : String} (h : s.loadRun runId = some run) :
    s.runs.find? run.id = some run := by
  unfold loadRun at h
  obtain ⟨hfind, -⟩ := Option.filter_eq_some_iff.1 h
  exact Table.find?_key hfind

variable (envelope : Envelope) (command : FencedCommand)

theorem markForRecovery_settles :
    Settles Quiet s (s.markForRecovery envelope command) := by
  unfold markForRecovery
  refine .unless fun _ => ?_
  split
  · exact .reject _ _
  rename_i run hrun
  refine .unless fun _ => ?_
  split
  · rename_i hguard
    simp only [Bool.and_eq_true] at hguard
    obtain ⟨⟨⟨hactive, -⟩, -⟩, -⟩ := hguard
    exact .rewriteRun recoverRun (fun _ => rfl) (Table.find?_key hrun) (.next (open_of_active hactive) rfl (fun _ => hactive) fun _ => nofun) rfl
  · exact .reject _ _

theorem markForNetworkRecovery_settles (unsettledEffects now : Nat) :
    Settles Quiet s (s.markForNetworkRecovery envelope command unsettledEffects now) := by
  unfold markForNetworkRecovery
  refine .unless fun _ => ?_
  split
  · exact .reject _ _
  rename_i run hrun
  refine .unless fun _ => .unless fun _ => .unless fun hrunning => .unless fun _ => .unless fun _ => .unless fun _ => ?_
  have hstatus : run.status = .running := by simp_all
  exact .rewriteRun waitForNetwork (fun _ => rfl) (find?_of_loadRun hrun)
    (.next (by rw [hstatus]; rfl) rfl (fun _ => by rw [hstatus]; rfl) fun _ => nofun) rfl

theorem armNetworkRecoveryAttempt_settles (attempt : Nat)
    (facts : ClaimFacts) : Settles Quiet s (s.armNetworkRecoveryAttempt envelope command attempt facts) := by
  unfold armNetworkRecoveryAttempt
  refine .checks fun _ => ?_
  refine .unless fun _ => ?_
  split
  · exact .reject _ _
  rename_i run hrun
  refine .unless fun _ => .unless fun hwaiting => .unless fun _ => .unless fun _ => ?_
  have hstatus : run.status = .waiting := by simp_all
  have hopen : terminal run.status = false := by rw [hstatus]; rfl
  split
  · exact .rewriteRun blockNetworkRecovery (fun _ => rfl) (find?_of_loadRun hrun) (.next hopen hopen id id) rfl
  · exact .rewriteRun armRun (fun _ => rfl) (find?_of_loadRun hrun) (.next hopen hopen id id) rfl

theorem completeNetworkRecovery_settles :
    Settles Quiet s (s.completeNetworkRecovery envelope command) := by
  unfold completeNetworkRecovery
  refine .unless fun _ => ?_
  split
  · exact .reject _ _
  rename_i run hrun
  refine .unless fun _ => .unless fun hrunning => .unless fun _ => .unless fun _ => ?_
  have hstatus : run.status = .running := by simp_all
  have hopen : terminal run.status = false := by rw [hstatus]; rfl
  exact .rewriteRun recoverNetwork (fun _ => rfl) (find?_of_loadRun hrun) (.next hopen hopen id id) rfl

variable (runId : String)

theorem rebindAgentRunRuntime_settles (expectedVersion : Nat)
    (adapterKind : AdapterKind) (refusal : Option (String × String)) :
    Settles Quiet s (s.rebindAgentRunRuntime envelope runId expectedVersion adapterKind refusal) := by
  unfold rebindAgentRunRuntime
  refine .unless fun _ => ?_
  split
  · exact .reject _ _
  rename_i run hrun
  refine .unless fun _ => .unless fun _ => .unless fun _ => .unless fun _ => ?_
  split
  · exact .reject _ _
  split
  · rename_i hstate
    have hopen : terminal run.status = false := by
      cases hstatus : run.status <;> simp_all [claimableState, terminal]
    exact .rewriteRun (rebindRun adapterKind) (fun _ => rfl) (find?_of_loadRun hrun) (.next hopen hopen id id) rfl
  · exact .reject _ _

theorem requestAgentRunCancellation_settles (runId campId : String) (expectedVersion : Nat) :
    Settles Quiet s (s.requestAgentRunCancellation envelope runId campId expectedVersion) := by
  unfold requestAgentRunCancellation
  refine .unless fun _ => ?_
  split
  · exact .reject _ _
  refine .unless fun _ => ?_
  split
  · exact .ok (.refl s) rfl
  refine .unless fun _ => .unless fun _ => .unless fun _ => ?_
  split
  · exact .error _
  rename_i settled hsettled
  exact .ok (settleInterruptedRunInTx_quiet hsettled) rfl

theorem running_of_validateTerminalTarget {campId : Option String} {command : FencedCommand}
    {facts : TerminalFacts} (h : s.validateTerminalTarget campId run command facts = none) :
    run.status = .running ∧ command.fences run = true ∧ run.cancelRequested = false := by
  unfold validateTerminalTarget at h
  split at h
  · cases h
  split at h
  · cases h
  split at h
  · cases h
  split at h
  · cases h
  simp_all [FencedCommand.fences]

theorem succeedAgentRun_settles (nativeTurnId : String)
    (terminalReasonCode : Option String) (cleanupRequired finalOutput : Bool) (facts : TerminalFacts) :
    Settles Quiet s (s.succeedAgentRun envelope command nativeTurnId terminalReasonCode cleanupRequired finalOutput facts) := by
  unfold succeedAgentRun
  refine .checks fun _ => ?_
  refine .unless fun _ => ?_
  split
  · exact .reject _ _
  rename_i run hrun
  split
  · exact .reject _ _
  rename_i hvalid
  have hrun := find?_of_loadRun hrun
  have hstatus := (running_of_validateTerminalTarget hvalid).1
  have hends : Ends run (succeedRun terminalReasonCode cleanupRequired finalOutput run) :=
    { id := rfl, campTurnId := rfl, conversationId := rfl, invocationKind := rfl, executionEpoch := rfl
      cancelRequested := fun hc => by simp [succeedRun, hc]
      version := Nat.lt_succ_self _, open_before := by rw [hstatus]; rfl, ended := rfl }
  dsimp only
  split
  · rename_i hkind
    have hended : Quiet s { s with runs := s.runs.update run.id (succeedRun terminalReasonCode cleanupRequired finalOutput) } :=
      ⟨(Move.endChatRun run (succeedRun _ _ _) (fun _ => rfl) hrun hkind hends).once,
        runsThere_update (f := succeedRun _ _ _) (fun _ => rfl) hrun hends.invocationKind rfl, .of_eq rfl⟩
    refine .ok (hended.trans (.touch _ recordChatOutput (fun _ => rfl) (fun c => ?_) fun c => ?_)) rfl
    · exact ⟨rfl, rfl, id, rfl, rfl, rfl, rfl, rfl, rfl, rfl⟩
    · exact ⟨rfl, .inl ⟨rfl, rfl⟩, .inl rfl⟩
  · exact .ok (quiet_endRun (succeedRun _ _ _) (fun _ => rfl) hrun (.inl rfl) hends rfl rfl) rfl

theorem failLostAgentRunInTx_settles : Settles Quiet s (s.failLostAgentRunInTx runId) := by
  unfold failLostAgentRunInTx
  split
  · exact .error _
  rename_i run hrun
  have hid := Table.key_of_find? hrun
  refine .unless fun _ => ?_
  refine ⟨fun result s' h => ?_⟩
  obtain ⟨hmoves, hresult⟩ := settleFailedAgentRunInTx_quiet (Table.find?_key hrun) (.inr (by rw [hid])) h
  exact ⟨hmoves, fun hr => by simp [hresult] at hr⟩

theorem failAgentRun_settles (errorCode : String)
    (source : Option String) (cleanupRequired : Bool) (facts : TerminalFacts) :
    Settles Quiet s (s.failAgentRun envelope command errorCode source cleanupRequired facts) := by
  unfold failAgentRun
  refine .checks fun _ => ?_
  refine .unless fun _ => ?_
  split
  · exact .reject _ _
  rename_i run hrun
  have hrun := find?_of_loadRun hrun
  split
  · exact failLostAgentRunInTx_settles run.id
  split
  · exact .reject _ _
  refine ⟨fun result s' h => ?_⟩
  obtain ⟨hmoves, hresult⟩ := settleFailedAgentRunInTx_quiet hrun (.inl rfl) h
  exact ⟨hmoves, fun hr => by simp [hresult] at hr⟩

theorem rejectAgentRunDispatch_settles (expectedVersion : Nat) (errorCode : String) :
    Settles Quiet s (s.rejectAgentRunDispatch envelope runId expectedVersion errorCode) := by
  unfold rejectAgentRunDispatch
  refine .checks fun _ => ?_
  refine .unless fun _ => ?_
  split
  · exact .reject _ _
  rename_i run hrun
  refine .unless fun _ => .unless fun _ => .unless fun hwaits => .unless fun _ => ?_
  refine .ok (quiet_endRun (rejectRun errorCode) (fun _ => rfl) (find?_of_loadRun hrun) (.inl rfl) ?_ rfl rfl) rfl
  exact { id := rfl, campTurnId := rfl, conversationId := rfl, invocationKind := rfl, executionEpoch := rfl
          cancelRequested := id, version := Nat.lt_succ_self _
          open_before := by cases hstatus : run.status <;> simp_all [terminal]
          ended := rfl }

theorem settlePlannedShutdownAbortiveTerminal_quiet {permit : Bool} {runId : String} {executionEpoch : Nat}
    {outcome : TerminalOutcome} {errorCode : String}
    (h : s.settlePlannedShutdownAbortiveTerminal permit runId executionEpoch outcome errorCode = .ok (status, s')) :
    Quiet s s' := by
  unfold settlePlannedShutdownAbortiveTerminal at h
  split at h
  · cases h
  rename_i settledStatus reason hfacts
  split at h
  · cases h
  split at h
  · cases h
  split at h
  · cases h
  rename_i run hrun
  split at h
  · cases h
  split at h
  · split at h
    · cases h
    cases h
    exact .refl s
  split at h
  · cases h
  rename_i hactive
  split at h
  · cases h
  cases h
  have hid : run.id = runId := Table.key_of_find? (Option.filter_eq_some_iff.1 hrun).1
  subst hid
  have hopen : terminal run.status = false := by cases hstatus : run.status <;> simp_all [terminal, active]
  have hended : (status = .failed ∨ status = .cancelled) := by
    cases outcome <;> simp_all [plannedShutdownAbortiveTerminalFacts]
  refine quiet_endRun (abortRun _ _ _) (fun _ => rfl) (find?_of_loadRun hrun) (.inr rfl) ?_ rfl ?_
  · exact { id := rfl, campTurnId := rfl, conversationId := rfl, invocationKind := rfl, executionEpoch := rfl
            cancelRequested := fun hc => by simp [abortRun, hc]
            version := Nat.lt_succ_self _, open_before := hopen
            ended := by obtain rfl | rfl := hended <;> rfl }
  · obtain rfl | rfl := hended
    · rfl
    · simp [abortRun, AgentRun.terminalReason]

end Store

/-! ## What the queue, the bindings and the receipts do -/

namespace Store

variable {s : Store}

theorem enqueueDeliveries_quiet (campId : String) (sourceKind : DeliverySourceKind) (recipients : List Recipient) :
    Quiet s (s.enqueueDeliveries campId sourceKind recipients) := by
  refine .foldl (fun s r => ?_) recipients s
  have hconversation : Quiet s (s.ensureCampMemberConversation campId r) := by
    unfold ensureCampMemberConversation
    split
    · exact .refl s
    · exact .openConversation campId .campMember r
  exact hconversation.trans (.aside (Move.insertDelivery campId sourceKind _ r) rfl rfl)

theorem rebinds_dropSession : Rebinds c (dropSession c) :=
  ⟨rfl, rfl, rfl, .inr ⟨rfl, rfl⟩, .inl rfl, rfl, rfl, rfl, rfl⟩

theorem clearNativeSession_quiet (conversationId : String) : Quiet s (s.clearNativeSession conversationId) :=
  .rebind conversationId dropSession (fun _ => rfl) rebinds_dropSession leavesBinding_dropSession

theorem boundary_forgetSession :
    (forgetSession c).lastAcceptedPublicBoundarySequence = c.lastAcceptedPublicBoundarySequence ∨
      c.kind = .singleChat ∧ (forgetSession c).lastAcceptedPublicBoundarySequence = 0 := by
  unfold forgetSession
  by_cases hkind : c.kind = .singleChat
  · exact .inr ⟨hkind, by simp [hkind]⟩
  · exact .inl (by simp [hkind])

theorem lt_nextGeneration : c.nativeBindingGeneration < nextGeneration c := by
  unfold nextGeneration
  omega

theorem insertBatchRun_quiet {claim : LaneClaim} {conversationId : String} (selected : List String)
    (hfresh : s.runs.find? claim.runId = none) (hconversation : (s.conversations.find? conversationId).isSome = true) :
    Quiet s (s.insertBatchRun claim conversationId selected) :=
  ⟨(Move.insertBatchRun claim conversationId selected hfresh hconversation).once, .insert SameKind.refl s.runs _ rfl, .of_eq rfl⟩

theorem claimLane_quiet (claim : LaneClaim) : Quiet s (s.claimLane claim) := by
  unfold claimLane
  split
  · exact .refl s
  rename_i c hc
  split
  · exact .refl s
  rename_i hidle
  have hfresh : s.runs.find? claim.runId = none := by simp_all
  have hfind : s.conversations.find? c.id = some c := Table.find?_of_mem (List.mem_of_find?_eq_some hc)
  have hcleared := Quiet.aside (Move.cancelExpired (s := s) ((expiredHead claim (s.waitingLane claim)).map CampMessageDelivery.id))
    rfl rfl
  dsimp only
  split
  · exact hcleared
  refine hcleared.trans ?_
  split
  · refine (clearNativeSession_quiet c.id).trans (insertBatchRun_quiet _ hfresh ?_)
    exact Option.isSome_iff_exists.2 ⟨_, Table.find?_update_self hfind dropSession (fun _ => rfl)⟩
  · exact insertBatchRun_quiet _ hfresh (Option.isSome_iff_exists.2 ⟨c, hfind⟩)

variable {s' : Store}

theorem claimWaitingDeliveryBatches_quiet {limit : Nat} {claims : List LaneClaim}
    (h : s.claimWaitingDeliveryBatches limit claims = .ok s') : Quiet s s' := by
  unfold claimWaitingDeliveryBatches at h
  split at h
  · cases h
  cases h
  exact .foldl (fun _ claim => claimLane_quiet claim) _ s

theorem routeUserMessage_quiet (deliveryIds : List String) (canSteer : AgentRun → Bool) :
    Quiet s (s.routeUserMessage deliveryIds canSteer) :=
  .foldl (fun _ target => .aside (Move.steerDelivery target) rfl rfl) _ s

theorem restartNativeSession_settles (envelope : Envelope) (conversationId : String) (expectedVersion : Nat) :
    Settles Quiet s (s.restartNativeSession envelope conversationId expectedVersion) := by
  unfold restartNativeSession
  refine .checks fun _ => ?_
  refine .unless fun _ => ?_
  split
  · exact .reject _ _
  rename_i c hc
  refine .unless fun _ => ?_
  refine .unless fun _ => ?_
  refine .unless fun _ => ?_
  split
  · exact .ok (.refl s) rfl
  refine .ok (Quiet.rebind c.id (fun c => dropSession (forgetSession c)) (fun _ => rfl) (fun c => ?_) fun c => ?_) rfl
  · exact ⟨rfl, rfl, rfl, .inr ⟨rfl, rfl⟩, boundary_forgetSession c, rfl, rfl, rfl, rfl⟩
  · exact ⟨rfl, .inr ⟨rfl, rfl, rfl⟩, .inr rfl⟩

theorem materializeContext_quiet {manifest : ContextManifest} {executionEpoch : Nat}
    (h : s.materializeContext manifest executionEpoch = .ok s') : Quiet s s' := by
  unfold materializeContext at h
  split at h
  · cases h
  split at h
  · cases h
  rename_i run hrun
  split at h
  · cases h
  rename_i hguard
  have hactive : active run.status = true := by simp_all
  split at h
  · cases h
    exact .refl s
  rename_i hfirst
  dsimp only at h
  split at h
  · rename_i deliveryId hsource
    split at h
    · cases h
    rename_i hsteers
    split at h
    · cases h
    rename_i hgeneration
    split at h
    · cases h
    cases h
    refine .aside (Move.insertManifest manifest run hrun hactive (by simpa using hfirst) ?_ (by simp_all)) rfl rfl
    rintro d hd
    rw [hsource] at hd
    cases hd
    simpa using hsteers
  · rename_i hsource
    split at h
    · cases h
    rename_i hgeneration
    split at h
    · cases h
    cases h
    refine .aside (Move.insertManifest manifest run hrun hactive (by simpa using hfirst) ?_ (by simp_all)) rfl rfl
    rintro d hd
    rw [hsource] at hd
    cases hd

variable {deliveryId : String}

theorem find?_of_loadDeliveryTarget {target : DeliveryTarget}
    (h : s.loadDeliveryTarget deliveryId = some target) :
    s.inputs.find? deliveryId = some target.input ∧ s.manifests.find? target.input.contextManifestId = some target.manifest ∧
      s.runs.find? target.input.agentRunId = some target.run ∧
      s.conversations.find? target.run.conversationId = some target.conversation := by
  unfold loadDeliveryTarget at h
  obtain ⟨i, hi, h⟩ := Option.bind_eq_some_iff.1 h
  obtain ⟨m, hm, h⟩ := Option.bind_eq_some_iff.1 h
  obtain ⟨r, hr, h⟩ := Option.bind_eq_some_iff.1 h
  obtain ⟨c, hc, h⟩ := Option.map_eq_some_iff.1 h
  cases h
  exact ⟨hi, hm, hr, hc⟩

theorem loses_of_pending {i : RuntimeInputDelivery} {status : InputStatus}
    (hpending : ¬(i.status = .accepted ∨ i.status = .notAccepted)) (h : status = .deliveryUnknown ∨ status = .notAccepted) :
    Loses i { i with status := status } :=
  ⟨by cases hi : i.status <;> simp_all, h, rfl⟩

theorem loseInput_quiet {i : RuntimeInputDelivery} {status : InputStatus}
    (hi : s.inputs.find? deliveryId = some i) (hpending : ¬(i.status = .accepted ∨ i.status = .notAccepted))
    (h : status = .deliveryUnknown ∨ status = .notAccepted) :
    Quiet s { s with inputs := s.inputs.update deliveryId (fun i => { i with status := status }) } := by
  refine .aside (Move.loseInput deliveryId (fun i => { i with status := status }) (fun _ => rfl) fun i' hi' => ?_) rfl rfl
  rw [hi] at hi'
  cases hi'
  exact loses_of_pending hpending h

theorem markInputDeliveryUnknown_quiet
    (h : s.markInputDeliveryUnknown deliveryId = .ok s') : Quiet s s' := by
  unfold markInputDeliveryUnknown at h
  split at h
  · cases h
  rename_i target htarget
  split at h
  · cases h
    exact .refl s
  rename_i hpending
  have hlost := loseInput_quiet (find?_of_loadDeliveryTarget htarget).1 hpending (.inl rfl)
  dsimp only at h
  split at h
  · cases h
    refine hlost.trans (.rewriteRuns _ waitForReceipt (fun _ => rfl) fun k r hr hguard => ?_)
    simp only [Bool.and_eq_true] at hguard
    obtain ⟨⟨⟨⟨-, hactive⟩, -⟩, -⟩, -⟩ := hguard
    exact .next (open_of_active hactive) rfl (fun _ => hactive) fun _ => nofun
  · cases h
    exact hlost

theorem markInputDeliveryNotAccepted_quiet
    (h : s.markInputDeliveryNotAccepted deliveryId = .ok s') : Quiet s s' := by
  unfold markInputDeliveryNotAccepted at h
  split at h
  · cases h
  rename_i target htarget
  split at h
  · cases h
    exact .refl s
  rename_i hpending
  split at h
  · cases h
  cases h
  exact loseInput_quiet (find?_of_loadDeliveryTarget htarget).1 hpending (.inr rfl)

end Store
end Rovai.AgentRuns
