import RovaiCore.ActionAuthorization
/-!
# The rows of one Run

A command writes the rows of the actions of one Run, and keeps what holds between the tables: every approval, attempt and delivery
is of an action, an approval that is pending was not answered to the Runtime, and a result is delivered of a final action.
-/
namespace Rovai.Actions

open Tables (Table)

variable {s t u : Store} {r : String}

/-! ## What holds between the tables -/

structure Sound (s : Store) : Prop where
  approvalAction : ∀ {k p}, s.approvals.find? k = some p → ∃ a, s.actions.find? p.actionId = some a
  approvalUnique : ∀ {k k' p p'}, s.approvals.find? k = some p → s.approvals.find? k' = some p' → p.actionId = p'.actionId → p = p'
  deliveryAction : ∀ {k d}, s.deliveries.find? k = some d → ∃ a, s.actions.find? d.actionId = some a ∧ a.agentRunId = d.agentRunId
  attemptAction : ∀ {k x}, s.attempts.find? k = some x → ∃ a, s.actions.find? x.actionId = some a ∧ a.status ≠ .prepared
  unanswered : ∀ {k k' p d}, s.approvals.find? k = some p → p.status = .pending → s.deliveries.find? k' = some d →
    d.deliveryKind = .authorizationResolution → d.actionId ≠ p.actionId
  resulted : ∀ {k d a}, s.deliveries.find? k = some d → d.deliveryKind = .actionResult → s.actions.find? d.actionId = some a →
    a.status.final = true

structure Elsewhere (r : String) (s t : Store) : Prop where
  runs : t.runs = s.runs
  actions : ∀ {k a}, a.agentRunId ≠ r → (t.actions.find? k = some a ↔ s.actions.find? k = some a)
  approvals : ∀ {k p a}, s.actions.find? p.actionId = some a → a.agentRunId ≠ r →
    (t.approvals.find? k = some p ↔ s.approvals.find? k = some p)
  deliveries : ∀ {k d}, d.agentRunId ≠ r → (t.deliveries.find? k = some d ↔ s.deliveries.find? k = some d)

structure Writes (r : String) (s t : Store) : Prop extends Elsewhere r s t where
  sound : Sound t

theorem Writes.refl (hs : Sound s) (r : String) : Writes r s s :=
  ⟨⟨rfl, fun _ => .rfl, fun _ _ => .rfl, fun _ => .rfl⟩, hs⟩

theorem Writes.trans (h : Writes r s t) (h' : Writes r t u) : Writes r s u where
  runs := h'.runs.trans h.runs
  actions hne := (h'.actions hne).trans (h.actions hne)
  approvals ha hne := (h'.approvals ((h.actions hne).2 ha) hne).trans (h.approvals ha hne)
  deliveries hne := (h'.deliveries hne).trans (h.deliveries hne)
  sound := h'.sound

/-! ## Statements -/

theorem writes_updateActions (hs : Sound s) {p : ActionExecution → Bool} {f : ActionExecution → ActionExecution}
    (hf : ∀ a, (f a).id = a.id) (h : ∀ {k a}, s.actions.find? k = some a → p a = true → a.agentRunId = r ∧ Later a (f a)) :
    Writes r s { s with actions := s.actions.updateWhere p f hf } := by
  have hforth : ∀ {k a}, s.actions.find? k = some a → ∃ a', (s.actions.updateWhere p f hf).find? k = some a' ∧ Later a a' := by
    intro k a ha
    refine ⟨if p a then f a else a, by rw [Table.find?_updateWhere, ha]; rfl, ?_⟩
    split
    · exact (h ha ‹_›).2
    · exact .refl a
  have hback : ∀ {k a'}, (s.actions.updateWhere p f hf).find? k = some a' → ∃ a, s.actions.find? k = some a ∧ Later a a' ∧
      (a' = a ∨ a.agentRunId = r) := by
    intro k a' ha'
    rw [Table.find?_updateWhere] at ha'
    obtain ⟨a, ha, rfl⟩ := Option.map_eq_some_iff.1 ha'
    refine ⟨a, ha, ?_⟩
    split
    · exact ⟨(h ha ‹_›).2, .inr (h ha ‹_›).1⟩
    · exact ⟨.refl a, .inl rfl⟩
  refine ⟨⟨rfl, fun {k a} hne => ⟨fun ha => ?_, fun ha => ?_⟩, fun _ _ => .rfl, fun _ => .rfl⟩, ?_⟩
  · obtain ⟨a₀, ha₀, hlater, rfl | hrun⟩ := hback ha
    · exact ha₀
    · exact absurd (hlater.same.run.trans hrun) hne
  · rw [Table.find?_updateWhere, ha, Option.map_some]
    split
    · exact absurd (h ha ‹_›).1 hne
    · rfl
  · refine ⟨fun hp => ?_, hs.approvalUnique, fun hd => ?_, fun hx => ?_, hs.unanswered, fun hd hkind ha' => ?_⟩
    · obtain ⟨a, ha⟩ := hs.approvalAction hp
      obtain ⟨a', ha', -⟩ := hforth ha
      exact ⟨a', ha'⟩
    · obtain ⟨a, ha, hrun⟩ := hs.deliveryAction hd
      obtain ⟨a', ha', hlater⟩ := hforth ha
      exact ⟨a', ha', hlater.same.run.trans hrun⟩
    · obtain ⟨a, ha, hbegun⟩ := hs.attemptAction hx
      obtain ⟨a', ha', hlater⟩ := hforth ha
      exact ⟨a', ha', hlater.begun hbegun⟩
    · obtain ⟨a, ha, hlater, -⟩ := hback ha'
      have hfinal := hs.resulted hd hkind ha
      rw [hlater.final hfinal]
      exact hfinal

variable {a : ActionExecution}

theorem writes_updateAction (hs : Sound s) {k : String} {f : ActionExecution → ActionExecution}
    (hf : ∀ a, (f a).id = a.id) (ha : s.actions.find? k = some a) (hrun : a.agentRunId = r) (h : Later a (f a)) :
    Writes r s { s with actions := s.actions.update k f hf } := by
  refine writes_updateActions hs hf fun {k' a'} ha' hkey => ?_
  have hkey : a'.id = k := by simpa using hkey
  obtain rfl := Option.mem_unique ha (hkey ▸ Table.find?_key ha')
  exact ⟨hrun, h⟩

theorem writes_insertAction (hs : Sound s) (hfresh : s.actions.find? a.id = none) (hrun : a.agentRunId = r) :
    Writes r s { s with actions := s.actions.insert a } := by
  have hforth : ∀ {k b}, s.actions.find? k = some b → (s.actions.insert a).find? k = some b := fun hb => Table.find?_insert_of_found hb a
  refine ⟨⟨rfl, fun {k b} hne => ⟨fun hb => ?_, hforth⟩, fun _ _ => .rfl, fun _ => .rfl⟩, ?_⟩
  · obtain hold | ⟨rfl, -, -⟩ := Table.insert_cases hb
    · exact hold
    · exact absurd hrun hne
  · refine ⟨fun hp => ?_, hs.approvalUnique, fun hd => ?_, fun hx => ?_, hs.unanswered, fun hd hkind hb => ?_⟩
    · obtain ⟨b, hb⟩ := hs.approvalAction hp
      exact ⟨b, hforth hb⟩
    · obtain ⟨b, hb, hsame⟩ := hs.deliveryAction hd
      exact ⟨b, hforth hb, hsame⟩
    · obtain ⟨b, hb, hbegun⟩ := hs.attemptAction hx
      exact ⟨b, hforth hb, hbegun⟩
    · obtain ⟨b', hb', -⟩ := hs.deliveryAction hd
      obtain rfl := Option.mem_unique hb (hforth hb')
      exact hs.resulted hd hkind hb'

theorem writes_insertApproval (hs : Sound s) {p : Approval} (hfresh : s.approvals.find? p.id = none)
    (ha : s.actions.find? p.actionId = some a) (hrun : a.agentRunId = r)
    (hnone : ∀ {k q}, s.approvals.find? k = some q → q.actionId ≠ p.actionId)
    (hundelivered : ∀ {k d}, s.deliveries.find? k = some d → d.actionId ≠ p.actionId) :
    Writes r s { s with approvals := s.approvals.insert p } := by
  have hcases : ∀ {k q}, (s.approvals.insert p).find? k = some q → s.approvals.find? k = some q ∨ q = p := by
    intro k q hq
    obtain hold | ⟨rfl, -, -⟩ := Table.insert_cases hq
    · exact .inl hold
    · exact .inr rfl
  refine ⟨⟨rfl, fun _ => .rfl, fun {k q b} hb hne => ⟨fun hq => ?_, fun hq => Table.find?_insert_of_found hq p⟩, fun _ => .rfl⟩, ?_⟩
  · obtain hold | rfl := hcases hq
    · exact hold
    obtain rfl := Option.mem_unique ha hb
    exact absurd hrun hne
  · refine ⟨fun hq => ?_, fun hq hq' hsame => ?_, hs.deliveryAction, hs.attemptAction, fun hq hpending hd hkind => ?_, hs.resulted⟩
    · obtain hold | rfl := hcases hq
      · exact hs.approvalAction hold
      · exact ⟨a, ha⟩
    · obtain hold | rfl := hcases hq
      · obtain hold' | rfl := hcases hq'
        · exact hs.approvalUnique hold hold' hsame
        · exact absurd hsame (hnone hold)
      · obtain hold' | rfl := hcases hq'
        · exact absurd hsame.symm (hnone hold')
        · rfl
    · obtain hold | rfl := hcases hq
      · exact hs.unanswered hold hpending hd hkind
      · exact hundelivered hd

theorem writes_updateApprovals (hs : Sound s) {q : Approval → Bool} {g : Approval → Approval} (hg : ∀ p, (g p).id = p.id)
    (haction : ∀ p, (g p).actionId = p.actionId) (hresolved : ∀ p, (g p).status ≠ .pending)
    (h : ∀ {k p}, s.approvals.find? k = some p → q p = true → ∃ a, s.actions.find? p.actionId = some a ∧ a.agentRunId = r) :
    Writes r s { s with approvals := s.approvals.updateWhere q g hg } := by
  have hback : ∀ {k p'}, (s.approvals.updateWhere q g hg).find? k = some p' → ∃ p, s.approvals.find? k = some p ∧
      p' = if q p then g p else p := by
    intro k p' hp'
    rw [Table.find?_updateWhere] at hp'
    obtain ⟨p, hp, rfl⟩ := Option.map_eq_some_iff.1 hp'
    exact ⟨p, hp, rfl⟩
  have hsame : ∀ p, (if q p then g p else p).actionId = p.actionId := by
    intro p
    split
    · exact haction p
    · rfl
  refine ⟨⟨rfl, fun _ => .rfl, fun {k p a} ha hne => ⟨fun hp => ?_, fun hp => ?_⟩, fun _ => .rfl⟩, ?_⟩
  · obtain ⟨p₀, hp₀, heq⟩ := hback hp
    split at heq
    · obtain ⟨b, hb, hrun⟩ := h hp₀ ‹_›
      rw [heq, haction, hb] at ha
      cases ha
      exact absurd hrun hne
    · rw [heq]
      exact hp₀
  · rw [Table.find?_updateWhere, hp, Option.map_some]
    split
    · obtain ⟨b, hb, hrun⟩ := h hp ‹_›
      rw [hb] at ha
      cases ha
      exact absurd hrun hne
    · rfl
  · refine ⟨fun hp' => ?_, fun hp₁ hp₂ heq => ?_, hs.deliveryAction, hs.attemptAction, fun hp' hpending hd hkind => ?_, hs.resulted⟩
    · obtain ⟨p, hp, rfl⟩ := hback hp'
      rw [hsame]
      exact hs.approvalAction hp
    · obtain ⟨p, hp, rfl⟩ := hback hp₁
      obtain ⟨p', hp', rfl⟩ := hback hp₂
      rw [hsame, hsame] at heq
      rw [hs.approvalUnique hp hp' heq]
    · obtain ⟨p, hp, rfl⟩ := hback hp'
      rw [hsame]
      split at hpending
      · exact absurd hpending (hresolved p)
      · exact hs.unanswered hp hpending hd hkind

theorem writes_resolvedApproval (hs : Sound s) {p : Approval} {status : ApprovalStatus}
    {resolvedById resolutionCode : String} (hp : s.approvals.find? p.id = some p) (ha : s.actions.find? p.actionId = some a)
    (hrun : a.agentRunId = r) (hstatus : status ≠ .pending) : Writes r s (s.resolvedApproval p.id status resolvedById resolutionCode) := by
  refine @writes_updateApprovals s r hs _ (Store.resolvedAs status resolvedById resolutionCode) (fun _ => rfl) (fun _ => rfl)
    (fun _ => hstatus) fun {k p'} hp' hkey => ?_
  have hkey : p'.id = p.id := by simpa using hkey
  obtain rfl := Option.mem_unique hp (hkey ▸ Table.find?_key hp')
  exact ⟨a, ha, hrun⟩

theorem writes_insertDelivery (hs : Sound s) {d : RuntimeDelivery} (ha : s.actions.find? d.actionId = some a)
    (hrun : a.agentRunId = r) (hrun' : d.agentRunId = r)
    (hanswered : d.deliveryKind = .authorizationResolution → ∀ {k p}, s.approvals.find? k = some p → p.status = .pending →
      d.actionId ≠ p.actionId) (hfinal : d.deliveryKind = .actionResult → a.status.final = true) :
    Writes r s { s with deliveries := s.deliveries.insert d } := by
  have hcases : ∀ {k d'}, (s.deliveries.insert d).find? k = some d' → s.deliveries.find? k = some d' ∨ d' = d := by
    intro k d' hd'
    obtain hold | ⟨rfl, -, -⟩ := Table.insert_cases hd'
    · exact .inl hold
    · exact .inr rfl
  refine ⟨⟨rfl, fun _ => .rfl, fun _ _ => .rfl, fun {k d'} hne => ⟨fun hd' => ?_, fun hd' => Table.find?_insert_of_found hd' d⟩⟩, ?_⟩
  · obtain hold | rfl := hcases hd'
    · exact hold
    · exact absurd hrun' hne
  · refine ⟨hs.approvalAction, hs.approvalUnique, fun hd' => ?_, hs.attemptAction, fun hp hpending hd' hkind => ?_,
      fun hd' hkind hb => ?_⟩
    · obtain hold | rfl := hcases hd'
      · exact hs.deliveryAction hold
      · exact ⟨a, ha, hrun.trans hrun'.symm⟩
    · obtain hold | rfl := hcases hd'
      · exact hs.unanswered hp hpending hold hkind
      · exact hanswered hkind hp hpending
    · obtain hold | rfl := hcases hd'
      · exact hs.resulted hold hkind hb
      obtain rfl := Option.mem_unique ha hb
      exact hfinal hkind

structure SameDelivery (d d' : RuntimeDelivery) : Prop where
  run : d'.agentRunId = d.agentRunId
  action : d'.actionId = d.actionId
  kind : d'.deliveryKind = d.deliveryKind

theorem writes_updateDeliveries (hs : Sound s) {q : RuntimeDelivery → Bool} {g : RuntimeDelivery → RuntimeDelivery}
    (hg : ∀ d, (g d).id = d.id) (hsame : ∀ d, SameDelivery d (g d))
    (h : ∀ {k d}, s.deliveries.find? k = some d → q d = true → d.agentRunId = r) :
    Writes r s { s with deliveries := s.deliveries.updateWhere q g hg } := by
  have hback : ∀ {k d'}, (s.deliveries.updateWhere q g hg).find? k = some d' → ∃ d, s.deliveries.find? k = some d ∧
      SameDelivery d d' ∧ (d' = d ∨ d.agentRunId = r) := by
    intro k d' hd'
    rw [Table.find?_updateWhere] at hd'
    obtain ⟨d, hd, rfl⟩ := Option.map_eq_some_iff.1 hd'
    refine ⟨d, hd, ?_⟩
    split
    · exact ⟨hsame d, .inr (h hd ‹_›)⟩
    · exact ⟨⟨rfl, rfl, rfl⟩, .inl rfl⟩
  refine ⟨⟨rfl, fun _ => .rfl, fun _ _ => .rfl, fun {k d'} hne => ⟨fun hd' => ?_, fun hd' => ?_⟩⟩, ?_⟩
  · obtain ⟨d, hd, hsame', rfl | hrun⟩ := hback hd'
    · exact hd
    · exact absurd (hsame'.run.trans hrun) hne
  · rw [Table.find?_updateWhere, hd', Option.map_some]
    split
    · exact absurd (h hd' ‹_›) hne
    · rfl
  · refine ⟨hs.approvalAction, hs.approvalUnique, fun hd' => ?_, hs.attemptAction, fun hp hpending hd' hkind => ?_,
      fun hd' hkind ha => ?_⟩
    · obtain ⟨d, hd, hsame', -⟩ := hback hd'
      rw [hsame'.action, hsame'.run]
      exact hs.deliveryAction hd
    · obtain ⟨d, hd, hsame', -⟩ := hback hd'
      rw [hsame'.action]
      exact hs.unanswered hp hpending hd (hsame'.kind.symm.trans hkind)
    · obtain ⟨d, hd, hsame', -⟩ := hback hd'
      exact hs.resulted hd (hsame'.kind.symm.trans hkind) (hsame'.action ▸ ha)

theorem writes_updateDelivery (hs : Sound s) {k : String} {d : RuntimeDelivery} {g : RuntimeDelivery → RuntimeDelivery}
    (hg : ∀ d, (g d).id = d.id) (hsame : ∀ d, SameDelivery d (g d)) (hd : s.deliveries.find? k = some d) (hrun : d.agentRunId = r) :
    Writes r s { s with deliveries := s.deliveries.update k g hg } := by
  refine writes_updateDeliveries hs hg hsame fun {k' d'} hd' hkey => ?_
  have hkey : d'.id = k := by simpa using hkey
  obtain rfl := Option.mem_unique hd (hkey ▸ Table.find?_key hd')
  exact hrun

theorem writes_attempts (hs : Sound s) {attempts : Table ActionAttempt.id}
    (h : ∀ {k x}, attempts.find? k = some x → ∃ a, s.actions.find? x.actionId = some a ∧ a.status ≠ .prepared) (r : String) :
    Writes r s { s with attempts := attempts } :=
  ⟨⟨rfl, fun _ => .rfl, fun _ _ => .rfl, fun _ => .rfl⟩,
    ⟨hs.approvalAction, hs.approvalUnique, hs.deliveryAction, h, hs.unanswered, hs.resulted⟩⟩

end Rovai.Actions
