import RovaiCore.RoundComponent
/-!
# What a statement does to the rounds

A component that is quiet is left as it is by every statement, and one that becomes complete has its Run probed by the statement
that completed it.
-/
namespace Rovai.Rounds

open Tables (Table)
open Relation (ReflTransGen)
open RoundStore (DeliveryWrite)

variable {s t u : RoundStore}

/-! ## Growing -/

structure Grown (s t : RoundStore) : Prop where
  joined : ∀ {a b}, Joined s a b → Joined t a b
  rounds : ∀ {id round}, s.rounds.find? id = some round → t.rounds.find? id = some round
  markers : ∀ {p}, p ∈ s.inputMarkers → p ∈ t.inputMarkers
  message : ∀ {k m}, s.messages.find? k = some m → ∃ m', t.messages.find? k = some m' ∧ m'.authorType = m.authorType
  quiet : ∀ {root}, Quiet s root → Quiet t root ∧ ∀ {a}, Together t (.message root) a → Together s (.message root) a

structure Forward (s t : RoundStore) : Prop extends Grown s t where
  tombstoned : ∀ {k m m'}, s.messages.find? k = some m → t.messages.find? k = some m' → m'.tombstoned = m.tombstoned
  fresh : ∀ {id round}, t.rounds.find? id = some round → s.rounds.find? id = some round ∨ Complete t id ∧ Root t id

variable {a b : Node}

theorem Together.mono (h : ∀ {a b}, Joined s a b → Joined t a b) (hab : Together s a b) : Together t a b := by
  induction hab with
  | refl => exact .refl
  | tail _ hjoined ih => exact .tail ih (h hjoined)

theorem Grown.together (h : Grown s t) (hab : Together s a b) : Together t a b :=
  hab.mono h.joined

theorem Grown.refl (s : RoundStore) : Grown s s :=
  ⟨id, id, id, fun h => ⟨_, h, rfl⟩, fun h => ⟨h, id⟩⟩

theorem Grown.trans (h : Grown s t) (h' : Grown t u) : Grown s u where
  joined hab := h'.joined (h.joined hab)
  rounds hr := h'.rounds (h.rounds hr)
  markers hp := h'.markers (h.markers hp)
  message hm := by
    obtain ⟨m', hm', hauthor⟩ := h.message hm
    obtain ⟨m'', hm'', hauthor'⟩ := h'.message hm'
    exact ⟨m'', hm'', hauthor'.trans hauthor⟩
  quiet hq := by
    obtain ⟨ht, hback⟩ := h.quiet hq
    obtain ⟨hu, hback'⟩ := h'.quiet ht
    exact ⟨hu, fun ha => hback (hback' ha)⟩

theorem message_of_together (hs : WellFormed s) {root k : String} {m : CampMessage} (hm : s.messages.find? root = some m)
    (h : Together s (.message root) (.message k)) : ∃ m', s.messages.find? k = some m' := by
  obtain ⟨m', hm', -⟩ := @Together.inCamp _ hs m.campId _ _ h ⟨m, hm, rfl⟩
  exact ⟨m', hm'⟩

theorem Grown.root (hs : WellFormed s) (h : Grown s t) {root : String} (hq : Quiet s root) (hr : Root s root) : Root t root := by
  obtain ⟨m, hm, hasks⟩ := hr.asks
  obtain ⟨m', hm', hauthor⟩ := h.message hm
  refine ⟨⟨m', hm', hauthor ▸ hasks⟩, fun {k m₁} hm₁ htogether hasks₁ => ?_⟩
  have hback := (h.quiet hq).2 htogether
  obtain ⟨m₀, hm₀⟩ := message_of_together hs hm hback
  obtain ⟨m₂, hm₂, hauthor₂⟩ := h.message hm₀
  rw [hm₁] at hm₂
  cases hm₂
  exact hr.least hm₀ hback (hauthor₂ ▸ hasks₁)

theorem Forward.complete (hs : WellFormed s) (h : Forward s t) {root : String} (hc : Complete s root) (hr : Root s root) :
    Complete t root ∧ Root t root := by
  obtain ⟨hq, hback⟩ := h.quiet hc.toQuiet
  refine ⟨⟨hq, ?_, fun {k m'} hm' htogether => ?_⟩, h.root hs hc.toQuiet hr⟩
  · obtain ⟨r, hstarted⟩ := hc.started
    exact ⟨r, h.together hstarted⟩
  · obtain ⟨m, hm, -⟩ := hr.asks
    obtain ⟨m₀, hm₀⟩ := message_of_together hs hm (hback htogether)
    rw [h.tombstoned hm₀ hm']
    exact hc.kept hm₀ (hback htogether)

/-! ## Sound states -/

def Unsteered (s : RoundStore) (root : String) : Prop :=
  ∀ {k d}, s.deliveries.find? k = some d → Together s (.message root) (.message d.messageId) → d.requestedMode = .start

structure Sound (s : RoundStore) : Prop extends WellFormed s where
  announced : ∀ {root}, Complete s root → Root s root → Unsteered s root → ∃ round, s.rounds.find? root = some round

structure Passes (s t : RoundStore) : Prop where
  sound : Sound t
  forward : Forward s t

theorem Forward.refl (s : RoundStore) : Forward s s where
  toGrown := .refl s
  tombstoned hm hm' := by
    rw [hm] at hm'
    cases hm'
    rfl
  fresh h := .inl h

theorem Forward.trans (ht : WellFormed t) (h : Forward s t) (h' : Forward t u) : Forward s u where
  toGrown := h.toGrown.trans h'.toGrown
  tombstoned hm hm'' := by
    obtain ⟨m', hm', -⟩ := h.message hm
    exact (h'.tombstoned hm' hm'').trans (h.tombstoned hm hm')
  fresh hround := by
    obtain hround | hnew := h'.fresh hround
    · obtain hround | ⟨hc, hr⟩ := h.fresh hround
      · exact .inl hround
      · exact .inr (h'.complete ht hc hr)
    · exact .inr hnew

theorem Passes.refl (hs : Sound s) : Passes s s :=
  ⟨hs, .refl s⟩

theorem Passes.trans (h : Passes s t) (h' : Passes t u) : Passes s u :=
  ⟨h'.sound, h.forward.trans h.sound.toWellFormed h'.forward⟩

theorem passes_foldl {α : Type} {f : RoundStore → α → RoundStore} (hf : ∀ {s} a, Sound s → Passes s (f s a)) :
    ∀ (as : List α) {s : RoundStore}, Sound s → Passes s (as.foldl f s)
  | [], _, hs => .refl hs
  | a :: as, _, hs => (hf a hs).trans (passes_foldl hf as (hf a hs).sound)

/-! ## The same graph -/

def SameGraph (s t : RoundStore) : Prop :=
  ∀ a b, Joined t a b ↔ Joined s a b

theorem SameGraph.together (h : SameGraph s t) : Together t a b ↔ Together s a b :=
  ⟨fun hab => hab.mono (h _ _).1, fun hab => hab.mono (h _ _).2⟩

theorem sameGraph_of (hinputs : t.inputs = s.inputs)
    (hforth : ∀ {k m}, s.messages.find? k = some m → ∃ m', t.messages.find? k = some m' ∧ m'.sourceAgentRunId = m.sourceAgentRunId)
    (hback : ∀ {k m}, t.messages.find? k = some m → ∃ m', s.messages.find? k = some m' ∧ m'.sourceAgentRunId = m.sourceAgentRunId) :
    SameGraph s t := by
  intro a b
  constructor
  · intro h
    cases h with
    | input h => exact .input (hinputs ▸ h)
    | ofInput h => exact .ofInput (hinputs ▸ h)
    | output h hr =>
      obtain ⟨m', hm', hsource⟩ := hback h
      exact .output hm' (hsource.trans hr)
    | ofOutput h hr =>
      obtain ⟨m', hm', hsource⟩ := hback h
      exact .ofOutput hm' (hsource.trans hr)
  · intro h
    cases h with
    | input h => exact .input (hinputs ▸ h)
    | ofInput h => exact .ofInput (hinputs ▸ h)
    | output h hr =>
      obtain ⟨m', hm', hsource⟩ := hforth h
      exact .output hm' (hsource.trans hr)
    | ofOutput h hr =>
      obtain ⟨m', hm', hsource⟩ := hforth h
      exact .ofOutput hm' (hsource.trans hr)

theorem SameGraph.symm (h : SameGraph s t) : SameGraph t s :=
  fun a b => (h a b).symm

section
variable {root : String}

theorem SameGraph.grown (hgraph : SameGraph s t) (hrounds : t.rounds = s.rounds) (hmarkers : t.inputMarkers = s.inputMarkers)
    (hmessage : ∀ {k m}, s.messages.find? k = some m → ∃ m', t.messages.find? k = some m' ∧ m'.authorType = m.authorType)
    (hruns : ∀ {root k r}, Quiet s root → t.runs.find? k = some r → Together s (.message root) (.run k) → s.runs.find? k = some r)
    (hdeliveries : ∀ {root k d}, Quiet s root → t.deliveries.find? k = some d → Together s (.message root) (.message d.messageId) →
      s.deliveries.find? k = some d) : Grown s t where
  joined h := (hgraph _ _).2 h
  rounds h := hrounds ▸ h
  markers h := hmarkers ▸ h
  message := hmessage
  quiet hq := by
    obtain ⟨m, hm⟩ := hq.found
    obtain ⟨m', hm', -⟩ := hmessage hm
    exact ⟨⟨⟨m', hm'⟩, fun hr h => hq.succeeded (hruns hq hr (hgraph.together.1 h)) (hgraph.together.1 h),
      fun hd h => hq.settled (hdeliveries hq hd (hgraph.together.1 h)) (hgraph.together.1 h)⟩, hgraph.together.1⟩

theorem SameGraph.announced (hs : Sound s) (hgraph : SameGraph s t)
    (hforth : ∀ {k m}, s.messages.find? k = some m → ∃ m', t.messages.find? k = some m' ∧ m'.authorType = m.authorType ∧
      (m'.tombstoned = false → m.tombstoned = false))
    (hback : ∀ {k m'}, t.messages.find? k = some m' → ∃ m, s.messages.find? k = some m)
    (hc : Complete t root) (hr : Root t root) (hu : Unsteered t root)
    (hruns : ∀ {k r}, s.runs.find? k = some r → Together t (.message root) (.run k) → t.runs.find? k = some r)
    (hdeliveries : ∀ {k d}, s.deliveries.find? k = some d → Together t (.message root) (.message d.messageId) →
      t.deliveries.find? k = some d) : ∃ round, s.rounds.find? root = some round := by
  have hin : ∀ {a}, Together s (.message root) a → Together t (.message root) a := hgraph.together.2
  obtain ⟨r, hstarted⟩ := hc.started
  obtain ⟨m', hm', hasks⟩ := hr.asks
  obtain ⟨m, hm⟩ := hback hm'
  obtain ⟨_, hm'', hauthor, -⟩ := hforth hm
  cases hm'.symm.trans hm''
  refine hs.announced ⟨⟨⟨m, hm⟩, fun hk h => hc.succeeded (hruns hk (hin h)) (hin h),
    fun hd h => hc.settled (hdeliveries hd (hin h)) (hin h)⟩, ⟨r, hgraph.together.1 hstarted⟩, fun hk h => ?_⟩
    ⟨⟨m, hm, hauthor ▸ hasks⟩, fun hk h hasks => ?_⟩ fun hd h => hu (hdeliveries hd (hin h)) (hin h)
  · obtain ⟨_, hk', -, hkept⟩ := hforth hk
    exact hkept (hc.kept hk' (hin h))
  · obtain ⟨_, hk', hauthor, -⟩ := hforth hk
    exact hr.least hk' (hin h) (hauthor ▸ hasks)

end

/-! ## Probing -/

def announce (s : RoundStore) (runId : String) : RoundStore :=
  { s with
    rounds := match s.roundOf runId with
      | some round => s.rounds.insert round
      | none => s.rounds }

theorem insertProbe_eq (h : s.probe = []) (runId : String) : s.insertProbe runId = announce s runId := by
  unfold RoundStore.insertProbe RoundStore.roundCheck announce
  rw [h]
  simp only [List.contains_nil, Bool.false_eq_true, if_false, List.filter_cons, List.filter_nil, bne_self_eq_false]
  rfl

variable {round : NotificationRound}

theorem announce_cases (s : RoundStore) (runId : String) {id : String}
    (h : (announce s runId).rounds.find? id = some round) : s.rounds.find? id = some round ∨ s.roundOf runId = some round ∧ id = round.id := by
  unfold announce at h
  dsimp only at h
  split at h
  · rename_i found hfound
    obtain h | ⟨rfl, rfl, -⟩ := Table.insert_cases h
    · exact .inl h
    · exact .inr ⟨hfound, rfl⟩
  · exact .inl h

theorem announce_kept (s : RoundStore) (runId : String) {id : String}
    (h : s.rounds.find? id = some round) : (announce s runId).rounds.find? id = some round := by
  unfold announce
  dsimp only
  split
  · exact Table.find?_insert_of_found h _
  · exact h

theorem announce_found {runId : String} (h : s.roundOf runId = some round) :
    ∃ round', (announce s runId).rounds.find? round.id = some round' := by
  unfold announce
  dsimp only
  rw [h]
  dsimp only
  cases hfound : s.rounds.find? round.id with
  | some other => exact ⟨other, Table.find?_insert_of_found hfound round⟩
  | none => exact ⟨round, (Table.find?_insert hfound _).trans (if_pos rfl)⟩

theorem announce_graph (s : RoundStore) (runId : String) : SameGraph s (announce s runId) :=
  sameGraph_of rfl (fun h => ⟨_, h, rfl⟩) fun h => ⟨_, h, rfl⟩

theorem announce_wellFormed (hs : WellFormed s) (runId : String) : WellFormed (announce s runId) :=
  ⟨hs.probe, hs.input, hs.source, hs.batch, hs.published, hs.delivery, hs.waiting, hs.started, hs.steered, hs.settled,
    hs.recallable, hs.withdrawn⟩

variable {runId root : String}

theorem announce_quiet : Quiet (announce s runId) root ↔ Quiet s root := by
  have hgraph := announce_graph s runId
  exact ⟨fun h => ⟨h.found, fun hr ht => h.succeeded hr (hgraph.together.2 ht), fun hd ht => h.settled hd (hgraph.together.2 ht)⟩,
    fun h => ⟨h.found, fun hr ht => h.succeeded hr (hgraph.together.1 ht), fun hd ht => h.settled hd (hgraph.together.1 ht)⟩⟩

theorem announce_complete : Complete (announce s runId) root ↔ Complete s root := by
  have hgraph := announce_graph s runId
  exact ⟨fun h => ⟨announce_quiet.1 h.toQuiet, h.started.imp fun _ => hgraph.together.1, fun hm ht => h.kept hm (hgraph.together.2 ht)⟩,
    fun h => ⟨announce_quiet.2 h.toQuiet, h.started.imp fun _ => hgraph.together.2, fun hm ht => h.kept hm (hgraph.together.1 ht)⟩⟩

theorem announce_root : Root (announce s runId) root ↔ Root s root := by
  have hgraph := announce_graph s runId
  exact ⟨fun h => ⟨h.asks, fun hm ht => h.least hm (hgraph.together.2 ht)⟩,
    fun h => ⟨h.asks, fun hm ht => h.least hm (hgraph.together.1 ht)⟩⟩

theorem announce_forward (hs : WellFormed s) (runId : String) : Forward s (announce s runId) where
  joined h := (announce_graph s runId _ _).2 h
  rounds h := announce_kept s runId h
  markers := id
  message h := ⟨_, h, rfl⟩
  quiet h := ⟨announce_quiet.2 h, fun ht => (announce_graph s runId).together.1 ht⟩
  tombstoned hm hm' := by
    obtain rfl := Option.mem_unique hm hm'
    rfl
  fresh h := by
    obtain h | ⟨hround, rfl⟩ := announce_cases s runId h
    · exact .inl h
    obtain ⟨hc, hr⟩ := complete_of_roundOf hs hround
    exact .inr ⟨announce_complete.2 hc, announce_root.2 hr⟩

/-- **A probe announces** what it completes: what is complete then was announced before, or has the Run in it. -/
theorem passes_announce {runId : String} (ht : WellFormed t) (hforward : Forward s t)
    (h : ∀ {root}, Complete t root → Root t root → Unsteered t root →
      (∃ round, t.rounds.find? root = some round) ∨ Together t (.message root) (.run runId) ∧ ∃ run, t.runs.find? runId = some run) :
    Passes s (announce t runId) where
  sound := by
    refine ⟨announce_wellFormed ht runId, fun hc hr hu => ?_⟩
    have hc := announce_complete.1 hc
    have hr := announce_root.1 hr
    obtain ⟨round, hround⟩ | ⟨htogether, run, hrun⟩ := h hc hr fun hd ht => hu hd ((announce_graph t runId).together.2 ht)
    · exact ⟨round, announce_kept t runId hround⟩
    obtain ⟨round, hround, rfl⟩ := roundOf_of_complete ht hrun htogether hc hr
    exact announce_found hround
  forward := hforward.trans ht (announce_forward ht runId)

/-! ## Changes to a part of the tables -/

section
variable {runId : String} {run : AgentRun}

theorem passes_updateRunStatus (hs : Sound s) (hrun : s.runs.find? runId = some run) (hopen : run.status.terminal = false)
    (status : RunStatus) : Passes s (s.updateRunStatus runId status) := by
  have hne : run.status ≠ .succeeded := by
    intro h
    rw [h] at hopen
    cases hopen
  generalize ht : ({ s with runs := s.runs.update runId (fun r => { r with status := status }) } : RoundStore) = t
  have hself : t.runs.find? runId = some { run with status := status } := by
    subst ht
    exact Table.find?_update_self hrun (fun r => { r with status := status }) fun _ => rfl
  have hother : ∀ {k}, k ≠ runId → t.runs.find? k = s.runs.find? k := by
    subst ht
    exact fun hk => Table.find?_update_of_ne s.runs hk (fun r => { r with status := status }) fun _ => rfl
  have hforth : ∀ {k r}, s.runs.find? k = some r → ∃ r', t.runs.find? k = some r' ∧ r'.campId = r.campId := by
    intro k r hr
    by_cases hk : k = runId
    · subst hk
      cases hrun.symm.trans hr
      exact ⟨_, hself, rfl⟩
    · exact ⟨r, (hother hk).trans hr, rfl⟩
  have hmessages : t.messages = s.messages := by rw [← ht]
  have hdeliveries : t.deliveries = s.deliveries := by rw [← ht]
  have hgraph : SameGraph s t := sameGraph_of (by rw [← ht]) (fun h => ⟨_, hmessages ▸ h, rfl⟩) fun h => ⟨_, hmessages ▸ h, rfl⟩
  have hwell : WellFormed t := by
    have hbatch : ∀ {k r}, t.runs.find? k = some r → r.invocationKind = .batch := by
      intro k r hr
      by_cases hk : k = runId
      · subst hk
        cases hself.symm.trans hr
        exact (hs.batch hrun :)
      · exact hs.batch ((hother hk).symm.trans hr)
    subst ht
    refine ⟨hs.probe, fun hi => ?_, fun hm hr => ?_, hbatch, hs.published, hs.delivery, hs.waiting, hs.started, hs.steered,
      hs.settled, hs.recallable, hs.withdrawn⟩
    · obtain ⟨r, m, hr, hm, hcamp⟩ := hs.input hi
      obtain ⟨r', hr', hsame⟩ := hforth hr
      exact ⟨r', m, hr', hm, hsame.trans hcamp⟩
    · obtain ⟨r, hr, hcamp⟩ := hs.source hm hr
      obtain ⟨r', hr', hsame⟩ := hforth hr
      exact ⟨r', hr', hsame.trans hcamp⟩
  -- The Run is in no component that is quiet.
  have hforward : Forward s t := by
    refine ⟨hgraph.grown (by rw [← ht]) (by rw [← ht]) (fun h => ⟨_, hmessages ▸ h, rfl⟩) (fun {root k r} hq hr htogether => ?_)
      fun _ hd _ => hdeliveries ▸ hd, fun hm hm' => ?_, fun h => .inl (by rwa [← ht] at h)⟩
    · have hk : k ≠ runId := by
        rintro rfl
        exact hne (hq.succeeded hrun htogether)
      exact (hother hk).symm.trans hr
    · rw [hmessages] at hm'
      obtain rfl := Option.mem_unique hm hm'
      rfl
  -- A component that is complete without the Run was complete.
  have hold : ∀ {root}, Complete t root → Root t root → Unsteered t root → ¬ Together t (.message root) (.run runId) →
      ∃ round, t.rounds.find? root = some round := by
    intro root hc hr hu hout
    have hrounds : t.rounds = s.rounds := by rw [← ht]
    rw [hrounds]
    exact hgraph.announced hs (fun h => ⟨_, hmessages ▸ h, rfl, id⟩) (fun h => ⟨_, hmessages ▸ h⟩) hc hr hu
      (fun hr htogether => (hother fun hk => hout (hk ▸ htogether)).trans hr) fun hd _ => hdeliveries ▸ hd
  unfold RoundStore.updateRunStatus
  rw [hrun]
  dsimp only
  rw [ht]
  split
  · rw [insertProbe_eq hwell.probe]
    refine passes_announce hwell hforward fun {root} hc hr hu => ?_
    by_cases hin : Together t (.message root) (.run runId)
    · exact .inr ⟨hin, _, hself⟩
    · exact .inl (hold hc hr hu hin)
  · rename_i hno
    refine ⟨⟨hwell, fun {root} hc hr hu => hold hc hr hu fun hin => ?_⟩, hforward⟩
    -- The Run would have succeeded with the statement.
    exact hno ⟨hs.batch hrun, hc.succeeded hself hin, hne⟩

end

/-! ## A delivery -/

section
variable {deliveryId : String} {d : CampMessageDelivery} {w : DeliveryWrite}

structure Agrees (s : RoundStore) (d : CampMessageDelivery) : Prop where
  waiting : d.status = .waiting → d.requestedMode = .start
  started : ∀ {r}, d.requestedMode = .start → d.claimedAgentRunId = some r → ⟨r, d.messageId⟩ ∈ s.inputs
  steered : d.requestedMode = .steer → ∃ r, d.claimedAgentRunId = some r ∧ (r, d.messageId) ∈ s.inputMarkers
  settled : d.status = .settled → ∃ r, d.claimedAgentRunId = some r

variable {k : String}

theorem WellFormed.agrees (hs : WellFormed s) (hd : s.deliveries.find? k = some d) : Agrees s d :=
  ⟨hs.waiting hd, hs.started hd, hs.steered hd, hs.settled hd⟩

theorem find?_written (hd : s.deliveries.find? deliveryId = some d) {d' : CampMessageDelivery}
    (h : (s.deliveries.update deliveryId w.write w.id).find? k = some d') :
    k = deliveryId ∧ d' = w.write d ∨ k ≠ deliveryId ∧ s.deliveries.find? k = some d' := by
  by_cases hk : k = deliveryId
  · subst hk
    rw [Table.find?_update_self hd] at h
    cases h
    exact .inl ⟨rfl, rfl⟩
  · rw [Table.find?_update_of_ne s.deliveries hk] at h
    exact .inr ⟨hk, h⟩

theorem written_wellFormed (hs : WellFormed s) (hd : s.deliveries.find? deliveryId = some d) (hopen : d.status ≠ .cancelled)
    (h : Agrees s (w.write d)) : WellFormed { s with deliveries := s.deliveries.update deliveryId w.write w.id } := by
  have hagrees : ∀ {k d'}, (s.deliveries.update deliveryId w.write w.id).find? k = some d' → Agrees s d' := by
    intro k d' hd'
    obtain ⟨-, rfl⟩ | ⟨-, hold⟩ := find?_written hd hd'
    · exact h
    · exact hs.agrees hold
  refine ⟨hs.probe, hs.input, hs.source, hs.batch, hs.published, fun hd' => ?_, fun hd' => (hagrees hd').waiting,
    fun hd' => (hagrees hd').started, fun hd' => (hagrees hd').steered, fun hd' => (hagrees hd').settled,
    fun hm hrecall => ?_, fun hm hrecall => ?_⟩
  · obtain ⟨-, rfl⟩ | ⟨-, hold⟩ := find?_written hd hd'
    · rw [w.messageId]
      exact hs.delivery hd
    · exact hs.delivery hold
  · obtain ⟨k', d', hd', hmessage⟩ := hs.recallable hm hrecall
    by_cases hk : k' = deliveryId
    · subst hk
      cases hd.symm.trans hd'
      exact ⟨k', w.write d, Table.find?_update_self hd w.write w.id, (w.messageId d).trans hmessage⟩
    · exact ⟨k', d', (Table.find?_update_of_ne s.deliveries hk w.write w.id).trans hd', hmessage⟩
  · obtain ⟨k', d', hd', hmessage, hcancelled⟩ := hs.withdrawn hm hrecall
    have hk : k' ≠ deliveryId := by
      rintro rfl
      cases hd.symm.trans hd'
      exact hopen hcancelled
    exact ⟨k', d', (Table.find?_update_of_ne s.deliveries hk w.write w.id).trans hd', hmessage, hcancelled⟩

/-- **A delivery that is not over is rewritten.** -/
theorem passes_updateDelivery (hs : Sound s) (hd : s.deliveries.find? deliveryId = some d) (hopen : d.status ≠ .settled)
    (hopen' : d.status ≠ .cancelled) (h : Agrees s (w.write d)) : Passes s (s.updateDelivery w deliveryId) := by
  have hwell := written_wellFormed hs.toWellFormed hd hopen' h
  generalize ht : ({ s with deliveries := s.deliveries.update deliveryId w.write w.id } : RoundStore) = t at hwell
  have hself : t.deliveries.find? deliveryId = some (w.write d) := by
    subst ht
    exact Table.find?_update_self hd w.write w.id
  have hother : ∀ {k}, k ≠ deliveryId → t.deliveries.find? k = s.deliveries.find? k := by
    subst ht
    exact fun hk => Table.find?_update_of_ne s.deliveries hk w.write w.id
  have hmessages : t.messages = s.messages := by rw [← ht]
  have hruns : t.runs = s.runs := by rw [← ht]
  have hgraph : SameGraph s t := sameGraph_of (by rw [← ht]) (fun h => ⟨_, hmessages ▸ h, rfl⟩) fun h => ⟨_, hmessages ▸ h, rfl⟩
  -- The delivery is of no component that is quiet.
  have hforward : Forward s t := by
    refine ⟨hgraph.grown (by rw [← ht]) (by rw [← ht]) (fun h => ⟨_, hmessages ▸ h, rfl⟩) (fun _ hr _ => hruns ▸ hr)
      fun {root k d'} hq hd' htogether => ?_, fun hm hm' => ?_, fun h => .inl (by rwa [← ht] at h)⟩
    · have hk : k ≠ deliveryId := by
        rintro rfl
        cases hself.symm.trans hd'
        rw [w.messageId] at htogether
        exact hopen (hq.settled hd htogether)
      exact (hother hk).symm.trans hd'
    · rw [hmessages] at hm'
      obtain rfl := Option.mem_unique hm hm'
      rfl
  -- A component that is complete without the delivery was complete.
  have hout : ∀ {root}, Complete t root → Root t root → Unsteered t root → ¬ Together t (.message root) (.message d.messageId) →
      ∃ round, t.rounds.find? root = some round := by
    intro root hc hr hu hno
    have hrounds : t.rounds = s.rounds := by rw [← ht]
    rw [hrounds]
    refine hgraph.announced hs (fun h => ⟨_, hmessages ▸ h, rfl, id⟩) (fun h => ⟨_, hmessages ▸ h⟩) hc hr hu
      (fun hr _ => hruns ▸ hr) fun {k d'} hd' htogether => ?_
    have hk : k ≠ deliveryId := by
      rintro rfl
      cases hd.symm.trans hd'
      exact hno htogether
    exact (hother hk).trans hd'
  have hin : ∀ {root}, Complete t root → Together t (.message root) (.message d.messageId) → (w.write d).status = .settled :=
    fun hc htogether => hc.settled hself (by rw [w.messageId]; exact htogether)
  unfold RoundStore.updateDelivery
  rw [hd]
  dsimp only
  rw [ht]
  split
  · rename_i runId hclaimed
    split
    · rw [insertProbe_eq hwell.probe]
      refine passes_announce hwell hforward fun {root} hc hr hu => ?_
      by_cases htogether : Together t (.message root) (.message d.messageId)
      · -- Its Run was started with the message, so the probe sees the component.
        have hmode := hu hself (by rw [w.messageId]; exact htogether)
        have hinput := hwell.started hself hmode hclaimed
        rw [w.messageId] at hinput
        obtain ⟨r, -, hr', -, -⟩ := hwell.input hinput
        exact .inr ⟨htogether.tail (.ofInput hinput), r, hr'⟩
      · exact .inl (hout hc hr hu htogether)
    · rename_i hno
      refine ⟨⟨hwell, fun {root} hc hr hu => ?_⟩, hforward⟩
      by_cases htogether : Together t (.message root) (.message d.messageId)
      · exact absurd ⟨hin hc htogether, hopen⟩ hno
      · exact hout hc hr hu htogether
  · rename_i hclaimed
    refine ⟨⟨hwell, fun {root} hc hr hu => ?_⟩, hforward⟩
    by_cases htogether : Together t (.message root) (.message d.messageId)
    · obtain ⟨r, hr'⟩ := h.settled (hin hc htogether)
      rw [hclaimed] at hr'
      cases hr'
    · exact hout hc hr hu htogether

end

end Rovai.Rounds
