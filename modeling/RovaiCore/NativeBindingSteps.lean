import RovaiCore.AgentRunMoves
/-!
# What a bind does to a Native Binding

The identity, the generation, the secret and the session of a conversation are written by a preparation, a bind, and what drops or
fences the session.
-/
namespace Rovai.AgentRuns

open Tables (Table)
open Store

/-! ## Binds and preparations -/

structure Store.Admits (s : Store) (envelope : Envelope) (command : BindNativeSession) (frozenRuntimeMatches : Bool) (now : Nat)
    (run : AgentRun) (c : Conversation) : Prop where
  fields : (isBlank command.adapterInstallationId || isBlank command.nativeSessionId ||
    command.bindingCompatibilityDigest.any isBlank) = false
  actor : isRuntimeAdapter envelope.actor = true
  foundRun : s.runs.find? command.agentRunId = some run
  foundConversation : s.conversations.find? command.conversationId = some c
  current : (run.conversationId ≠ c.id || run.cancelRequested || !s.turnBinds run now) = false
  fenced : (envelope.campId ≠ some c.campId || c.version ≠ command.expectedConversationVersion ||
    run.executionEpoch ≠ command.expectedExecutionEpoch || !active run.status) = false
  configured : (!identityBinding run && command.bindingCompatibilityDigest == none) = false
  frozen : frozenRuntimeMatches = true
  previous : (c.nativeAdapterInstallationId ≠ command.previousAdapterInstallationId ||
    c.nativeSessionId ≠ command.previousNativeSessionId ||
    (!identityBinding run && c.nativeBindingCompatibilityDigest != command.previousBindingCompatibilityDigest)) = false

inductive BindingStep (s : Store) (a : Action) (c : Conversation) : Conversation → Prop
  | left {c' : Conversation} (h : LeavesBinding c c') : BindingStep s a c c'
  | refreshed (command : PrepareBinding) (now : Nat) (bindingId : String) (ha : a = .prepareBinding command now)
      (hid : c.nativeBindingId = some bindingId) :
      BindingStep s a c (refreshCredential (command.credentialDigest bindingId c.nativeBindingGeneration) c)
  | reserved (command : PrepareBinding) (now : Nat) (ha : a = .prepareBinding command now) :
      BindingStep s a c (reserveBinding command c)
  | completed (envelope : Envelope) (command : BindNativeSession) (frozenRuntimeMatches metadataChanged : Bool) (now : Nat)
      (run : AgentRun) (ha : a = .bindNativeSession envelope command frozenRuntimeMatches metadataChanged now)
      (hadmits : s.Admits envelope command frozenRuntimeMatches now run c) (hcompletes : command.completes c = true)
      (hsecret : c.nativeBindingSecretDigest.isSome = true) : BindingStep s a c (completeBinding command c)
  | replaced (envelope : Envelope) (command : BindNativeSession) (frozenRuntimeMatches metadataChanged : Bool) (now : Nat)
      (ha : a = .bindNativeSession envelope command frozenRuntimeMatches metadataChanged now)
      (hcompletes : command.completes c = false) : BindingStep s a c (replaceBinding command c)

structure Rebound (a : Action) (s s' : Store) : Prop where
  moves : Moves s s'
  runs : s'.runs = s.runs
  bindings : Table.Grows (BindingStep s a) Unbound s.conversations s'.conversations

variable {s s' : Store} {a : Action}

theorem Rebound.refl (a : Action) (s : Store) : Rebound a s s :=
  ⟨.refl s, rfl, .refl (fun c => .left (.refl c)) s.conversations⟩

instance (a : Action) : Std.Refl (Rebound a) := ⟨Rebound.refl a⟩

theorem Rebound.update {c : Conversation} {f : Conversation → Conversation} (hf : ∀ c, (f c).id = c.id)
    (hc : s.conversations.find? c.id = some c) (h : (∀ c, Touches c (f c)) ∨ ∀ c, Rebinds c (f c)) (hstep : BindingStep s a c (f c)) :
    Rebound a s { s with conversations := s.conversations.update c.id f hf } := by
  refine ⟨?_, rfl, .update (fun c => .left (.refl c)) s.conversations c.id f hf fun c' hc' => ?_⟩
  · obtain h | h := h
    · exact (Move.touchConversations _ f hf h).once
    · exact (Move.rebind _ f hf h).once
  · rw [hc] at hc'
    cases hc'
    exact hstep

theorem bindNativeSession_rebound (envelope : Envelope) (command : BindNativeSession)
    (frozenRuntimeMatches metadataChanged : Bool) (now : Nat) :
    Settles (Rebound (.bindNativeSession envelope command frozenRuntimeMatches metadataChanged now)) s
      (s.bindNativeSession envelope command frozenRuntimeMatches metadataChanged now) := by
  unfold bindNativeSession
  refine .checks fun hfields => ?_
  refine .unless fun hactor => ?_
  split
  case h_2 => exact .reject _ _
  rename_i run c hrun hc
  have hself := Table.find?_key hc
  refine .unless fun hcurrent => .unless fun hfenced => .unless fun hconfigured => .unless fun hfrozen =>
    .unless fun hprevious => ?_
  split
  · refine .unless fun _ => ?_
    split
    · refine .ok (Rebound.update (f := touchConversation) (fun _ => rfl) hself (.inl fun _ => ?_) (.left ?_)) rfl
      · exact ⟨rfl, rfl, id, rfl, rfl, rfl, rfl, rfl, rfl, rfl⟩
      · exact ⟨rfl, .inl ⟨rfl, rfl⟩, .inl rfl⟩
    · exact .ok (.refl _ s) rfl
  split
  · rename_i hcompletes
    split
    · rename_i hsecret
      refine .ok (Rebound.update (f := completeBinding command) (fun _ => rfl) hself (.inl fun _ => ?_) ?_) rfl
      · exact ⟨rfl, rfl, id, rfl, rfl, rfl, rfl, rfl, rfl, rfl⟩
      · exact .completed envelope command frozenRuntimeMatches metadataChanged now run rfl
          ⟨Bool.eq_false_iff.2 hfields, by simpa using hactor, hrun, hc, Bool.eq_false_iff.2 hcurrent, Bool.eq_false_iff.2 hfenced,
            Bool.eq_false_iff.2 hconfigured, by simpa using hfrozen, Bool.eq_false_iff.2 hprevious⟩ hcompletes hsecret
    · exact .reject _ _
  · rename_i hcompletes
    refine .ok (Rebound.update (f := replaceBinding command) (fun _ => rfl) hself (.inr fun c => ?_) ?_) rfl
    · exact ⟨rfl, rfl, rfl, .inl (lt_nextGeneration c), boundary_forgetSession c, rfl, rfl, rfl, rfl⟩
    · exact .replaced envelope command frozenRuntimeMatches metadataChanged now rfl (Bool.eq_false_iff.2 hcompletes)

theorem prepareBinding_rebound {command : PrepareBinding} {now : Nat} (h : s.prepareBinding command now = .ok s') :
    Rebound (.prepareBinding command now) s s' := by
  unfold prepareBinding at h
  split at h
  · cases h
  split at h
  · cases h
  split at h
  · cases h
  split at h
  · cases h
  rename_i c hc
  have hself := Table.find?_key hc
  split at h
  · cases h
  split at h
  · cases h
    refine .update (f := reserveBinding command) (fun _ => rfl) hself (.inr fun c => ?_) (.reserved command now rfl)
    exact ⟨rfl, rfl, rfl, .inl (lt_nextGeneration c), boundary_forgetSession c, rfl, rfl, rfl, rfl⟩
  · rename_i hreuses
    dsimp only at h
    split at h
    · cases h
      exact .refl _ s
    · cases h
      refine .update (f := refreshCredential _) (fun _ => rfl) hself (.inl fun _ => ?_) ?_
      · exact ⟨rfl, rfl, id, rfl, rfl, rfl, rfl, rfl, rfl, rfl⟩
      obtain ⟨bindingId, hid⟩ : ∃ bindingId, c.nativeBindingId = some bindingId := by
        rw [← Option.isSome_iff_exists]
        cases hid : c.nativeBindingId with
        | none => simp [hid] at hreuses
        | some bindingId => rfl
      rw [hid, Option.getD_some]
      exact .refreshed command now bindingId rfl hid

end Rovai.AgentRuns
