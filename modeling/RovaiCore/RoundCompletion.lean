import RovaiCore.RoundActions
/-!
# Rounds are announced once

The graph of a round has an edge, too, between a message and the Run that it was steered into.
-/
namespace Rovai.Rounds

open Tables (Table)
open List
open Relation (ReflTransGen)

variable {s t : RoundStore}

/-! ## The graph of the inputs -/

/-- A Run, and a message that it was started with, that was steered into it, or that it published. -/
inductive Linked (s : RoundStore) : Node → Node → Prop
  | joined {a b : Node} (h : Joined s a b) : Linked s a b
  | steered {k r : String} {d : CampMessageDelivery} (h : s.deliveries.find? k = some d) (hmode : d.requestedMode = .steer)
      (hr : d.claimedAgentRunId = some r) : Linked s (.run r) (.message d.messageId)
  | ofSteered {k r : String} {d : CampMessageDelivery} (h : s.deliveries.find? k = some d) (hmode : d.requestedMode = .steer)
      (hr : d.claimedAgentRunId = some r) : Linked s (.message d.messageId) (.run r)

def Connected (s : RoundStore) : Node → Node → Prop :=
  ReflTransGen (Linked s)

theorem Together.connected {a b : Node} (h : Together s a b) : Connected s a b := by
  induction h with
  | refl => exact .refl
  | tail _ hjoined ih => exact ih.tail (.joined hjoined)

/-- Every Run of the component has succeeded, every delivery is settled and no message was taken back. -/
structure Over (s : RoundStore) (root : String) : Prop where
  found : ∃ m, s.messages.find? root = some m
  succeeded : ∀ {r run}, s.runs.find? r = some run → Connected s (.message root) (.run r) → run.status = .succeeded
  settled : ∀ {k d}, s.deliveries.find? k = some d → Connected s (.message root) (.message d.messageId) → d.status = .settled
  kept : ∀ {k m}, s.messages.find? k = some m → Connected s (.message root) (.message k) →
    m.tombstoned = false ∧ m.recallState ≠ .withdrawn

structure Finished (s : RoundStore) (root : String) : Prop extends Over s root where
  started : ∃ r, Connected s (.message root) (.run r)

/-- The least message of the component that a user or an external principal sent. -/
structure ComponentRoot (s : RoundStore) (root : String) : Prop where
  asks : ∃ m, s.messages.find? root = some m ∧ m.authorType.asks = true
  least : ∀ {k m}, s.messages.find? k = some m → Connected s (.message root) (.message k) → m.authorType.asks = true → root ≤ k

def SteerFree (s : RoundStore) (root : String) : Prop :=
  ∀ {r m}, (r, m) ∈ s.inputMarkers → ¬ Connected s (.message root) (.run r) ∧ ¬ Connected s (.message root) (.message m)

/-! ## Where nothing was steered -/

section
variable {root : String}

theorem Grown.connected (h : Grown s t) {a b : Node} (hab : Together s a b) : Connected t a b :=
  (h.together hab).connected

/-- What is steered leaves a marker, so where there is none the graphs agree, then as earlier. -/
theorem together_of_connected (hs : WellFormed s) (h : Grown s t) (hfree : SteerFree t root) {a : Node}
    (ha : Connected s (.message root) a) : Together s (.message root) a := by
  induction ha with
  | refl => exact .refl
  | tail _ hlinked ih =>
    cases hlinked with
    | joined hjoined => exact ih.tail hjoined
    | steered hd hmode hr =>
      obtain ⟨r', hr', hmarker⟩ := hs.steered hd hmode
      obtain rfl := Option.mem_unique hr hr'
      exact absurd (h.connected ih) (hfree (h.markers hmarker)).1
    | ofSteered hd hmode =>
      obtain ⟨r', -, hmarker⟩ := hs.steered hd hmode
      exact absurd (h.connected ih) (hfree (h.markers hmarker)).2

theorem connected_iff (hs : WellFormed s) (h : Grown s t) (hfree : SteerFree t root) {a : Node} :
    Connected s (.message root) a ↔ Together s (.message root) a :=
  ⟨together_of_connected hs h hfree, Together.connected⟩

theorem unsteered_of_steerFree (hs : WellFormed s) (h : Grown s t) (hfree : SteerFree t root) : Unsteered s root := by
  intro k d hd htogether
  cases hmode : d.requestedMode with
  | start => rfl
  | steer =>
    obtain ⟨r, -, hmarker⟩ := hs.steered hd hmode
    exact absurd (h.connected htogether) (hfree (h.markers hmarker)).2

theorem finished_iff (hs : WellFormed s) (h : Grown s t) (hfree : SteerFree t root) : Finished s root ↔ Complete s root := by
  have hiff : ∀ {a}, Connected s (.message root) a ↔ Together s (.message root) a := connected_iff hs h hfree
  constructor
  · intro hf
    obtain ⟨r, hr⟩ := hf.started
    exact ⟨⟨hf.found, fun hr htogether => hf.succeeded hr (hiff.2 htogether), fun hd htogether => hf.settled hd (hiff.2 htogether)⟩,
      ⟨r, hiff.1 hr⟩, fun hm htogether => (hf.kept hm (hiff.2 htogether)).1⟩
  · intro hc
    obtain ⟨r, hr⟩ := hc.started
    refine ⟨⟨hc.found, fun hr hconnected => hc.succeeded hr (hiff.1 hconnected), fun hd hconnected => hc.settled hd (hiff.1 hconnected),
      fun hm hconnected => ⟨hc.kept hm (hiff.1 hconnected), fun hwithdrawn => ?_⟩⟩, ⟨r, hiff.2 hr⟩⟩
    obtain ⟨k', d, hd, rfl, hcancelled⟩ := hs.withdrawn hm hwithdrawn
    rw [hc.settled hd (hiff.1 hconnected)] at hcancelled
    cases hcancelled

theorem Grown.root_of_componentRoot (h : Grown s t) (hroot : ComponentRoot t root) (hfound : ∃ m, s.messages.find? root = some m) :
    Root s root := by
  obtain ⟨m, hm⟩ := hfound
  obtain ⟨m', hm', hauthor⟩ := h.message hm
  obtain ⟨m₁, hm₁, hasks⟩ := hroot.asks
  obtain rfl := Option.mem_unique hm' hm₁
  refine ⟨⟨m, hm, hauthor ▸ hasks⟩, fun hk htogether hasks' => ?_⟩
  obtain ⟨m'', hm'', hauthor'⟩ := h.message hk
  exact hroot.least hm'' (h.connected htogether) (hauthor' ▸ hasks')

theorem componentRoot_of_root (hs : WellFormed s) (hfree : SteerFree s root) (hroot : Root s root) : ComponentRoot s root :=
  ⟨hroot.asks, fun hm hconnected => hroot.least hm ((connected_iff hs (.refl s) hfree).1 hconnected)⟩

end

/-! ## Runs -/

theorem sound_empty : Sound .empty := by
  refine ⟨⟨rfl, nofun, nofun, nofun, nofun, nofun,
    nofun, nofun, nofun, nofun, nofun,
    nofun⟩, fun h => ?_⟩
  obtain ⟨m, hm⟩ := h.found
  cases hm

structure History (as : List Action) : Prop where
  sound : Sound (.run as)
  grown : ∀ n, Grown (.run (as.take n)) (.run as)
  fresh : ∀ {id round}, (RoundStore.run as).rounds.find? id = some round →
    ∃ n ≤ as.length, Complete (.run (as.take n)) id ∧ Root (.run (as.take n)) id

variable (as : List Action)

theorem run_concat (a : Action) : RoundStore.run (as ++ [a]) = (RoundStore.run as).step a :=
  foldl_concat ..

/-- **Every round was complete** at some commit, and every commit only adds. -/
theorem history : History as := by
  induction as using List.reverseRecOn with
  | nil =>
    refine ⟨sound_empty, fun n => ?_, nofun⟩
    rw [take_nil]
    exact .refl _
  | append_singleton as a ih =>
    have hstep := steps_step ih.sound a
    rw [← run_concat] at hstep
    refine ⟨hstep.sound, fun n => ?_, fun {id round} hround => ?_⟩
    · by_cases hn : n ≤ as.length
      · rw [take_append_of_le_length hn]
        exact (ih.grown n).trans hstep.grown
      · rw [take_of_length_le (by rw [length_append, length_singleton]; omega)]
        exact .refl _
    · obtain hold | hnew := hstep.fresh hround
      · obtain ⟨n, hn, hcomplete⟩ := ih.fresh hold
        refine ⟨n, by rw [length_append]; omega, ?_⟩
        rw [take_append_of_le_length hn]
        exact hcomplete
      · refine ⟨as.length + 1, by rw [length_append, length_singleton], ?_⟩
        rw [take_of_length_le (by rw [length_append, length_singleton])]
        exact hnew

theorem sound_run (n : Nat) : Sound (.run (as.take n)) :=
  (history (as.take n)).sound

section
variable {as : List Action}

theorem root_of_round {id : String} {round : NotificationRound} (h : (RoundStore.run as).rounds.find? id = some round) :
    Root (.run as) id := by
  obtain ⟨n, -, hcomplete, hroot⟩ := (history as).fresh h
  exact ((history as).grown n).root (sound_run as n).toWellFormed hcomplete.toQuiet hroot

/-- **What was once over is announced.** -/
theorem round_of_finished {n : Nat} {root : String} (hroot : ComponentRoot (.run as) root) (hfree : SteerFree (.run as) root)
    (h : Finished (.run (as.take n)) root) : ∃ round, (RoundStore.run as).rounds.find? root = some round := by
  have hs := sound_run as n
  have hgrown := (history as).grown n
  have hcomplete := (finished_iff hs.toWellFormed hgrown hfree).1 h
  obtain ⟨round, hround⟩ := hs.announced hcomplete (hgrown.root_of_componentRoot hroot h.found)
    (unsteered_of_steerFree hs.toWellFormed hgrown hfree)
  exact ⟨round, hgrown.rounds hround⟩

end

/-- **A round is recorded once**, for the root of a component, and exactly when the component was over at some commit, if nothing of
it was steered.  Whatever was steered, the started inputs and the publications of the round's component were complete. -/
theorem round_recorded_iff_finished (as : List Action) :
    (∀ root, ComponentRoot (.run as) root → SteerFree (.run as) root →
      ((∃ round, (RoundStore.run as).rounds.find? root = some round) ↔ ∃ n ≤ as.length, Finished (.run (as.take n)) root)) ∧
    (∀ id round, (RoundStore.run as).rounds.find? id = some round →
      (SteerFree (.run as) id → ComponentRoot (.run as) id) ∧
      ∃ n ≤ as.length, Complete (.run (as.take n)) id ∧ Root (.run (as.take n)) id) ∧
    (∀ id id' round round', (RoundStore.run as).rounds.find? id = some round → (RoundStore.run as).rounds.find? id' = some round' →
      SteerFree (.run as) id → Connected (.run as) (.message id) (.message id') → id = id') ∧
    (RoundStore.run as).probe = [] := by
  have hsound := (history as).sound
  have hwell := hsound.toWellFormed
  refine ⟨fun root hroot hfree => ⟨?_, ?_⟩, fun id round hround => ⟨fun hfree => ?_, (history as).fresh hround⟩,
    fun id id' round round' hround hround' hfree hconnected => ?_, hsound.probe⟩
  · rintro ⟨round, hround⟩
    obtain ⟨n, hn, hcomplete, -⟩ := (history as).fresh hround
    exact ⟨n, hn, (finished_iff (sound_run as n).toWellFormed ((history as).grown n) hfree).2 hcomplete⟩
  · rintro ⟨n, -, hfinished⟩
    exact round_of_finished hroot hfree hfinished
  · exact componentRoot_of_root hwell hfree (root_of_round hround)
  · -- Each is the least message that asks of the one component.
    have htogether := (connected_iff hwell (.refl _) hfree).1 hconnected
    have hroot := root_of_round hround
    have hroot' := root_of_round hround'
    obtain ⟨m, hm, hasks⟩ := hroot.asks
    obtain ⟨m', hm', hasks'⟩ := hroot'.asks
    exact le_antisymm (hroot.least hm' htogether hasks') (hroot'.least hm htogether.symm hasks)

/-! ## Where something was steered -/

def note : List Action :=
  [.publishUser "u" "camp" [] []]

def steeredQuestion : List Action :=
  [.publishUser "u1" "camp" ["d1"] [], .claimBatch "a" "camp" ["d1"] false, .moveRun "a" .running,
    .publishUser "u2" "camp" ["d2", "d3"] [("d2", "a")], .claimBatch "b" "camp" ["d3"] false, .moveRun "b" .running,
    .acceptInput "d2", .settle "a" none [.run .succeeded, .deliveries .succeeded none ⟨[], []⟩]]

theorem not_over_of_waiting {root k : String} {d : CampMessageDelivery} (hd : s.deliveries.find? k = some d) (hmessage : d.messageId = root)
    (h : d.status ≠ .settled) : ¬ Over s root :=
  fun hover => h (hover.settled hd (hmessage ▸ .refl))

theorem not_over_of_run {root r : String} {run : AgentRun} (hinput : ⟨r, root⟩ ∈ s.inputs) (hrun : s.runs.find? r = some run)
    (h : run.status ≠ .succeeded) : ¬ Over s root :=
  fun hover => h (hover.succeeded hrun (.single (.joined (.ofInput hinput))))

theorem componentRoot_of_rows {root : String} (hasks : ∃ m, s.messages.find? root = some m ∧ m.authorType.asks = true)
    (h : ∀ m ∈ s.messages.rows, root ≤ m.id) : ComponentRoot s root :=
  ⟨hasks, fun hm _ _ => Table.key_of_find? hm ▸ h _ (Table.mem_of_find? hm)⟩

/-- **A round is recorded while a Run still works** that the steered message connects, and none for a message without a Run. -/
theorem round_without_over :
    (Over (.run note) "u" ∧ ComponentRoot (.run note) "u" ∧ (RoundStore.run note).rounds.find? "u" = none) ∧
    ComponentRoot (.run steeredQuestion) "u1" ∧ (∃ round, (RoundStore.run steeredQuestion).rounds.find? "u1" = some round) ∧
      ∀ n ≤ steeredQuestion.length, ¬ Over (.run (steeredQuestion.take n)) "u1" := by
  have hempty : RoundStore.run (steeredQuestion.take 0) = .empty := rfl
  have hwaiting : ((RoundStore.run (steeredQuestion.take 1)).deliveries.find? "d1").any
      (fun d => d.messageId == "u1" && d.status != .settled) = true := by decide
  have hfirst : ∀ n < 8, 2 ≤ n → (RoundStore.run (steeredQuestion.take n)).inputs.contains ⟨"a", "u1"⟩ = true ∧
      ((RoundStore.run (steeredQuestion.take n)).runs.find? "a").any (fun run => run.status != .succeeded) = true := by
    decide
  have hsecond : (RoundStore.run steeredQuestion).inputs.contains ⟨"b", "u2"⟩ = true ∧
      (RoundStore.run steeredQuestion).inputs.contains ⟨"a", "u1"⟩ = true ∧
      ((RoundStore.run steeredQuestion).runs.find? "b").any (fun run => run.status != .succeeded) = true ∧
      ((RoundStore.run steeredQuestion).deliveries.find? "d2").any
        (fun d => d.messageId == "u2" && d.requestedMode == .steer && d.claimedAgentRunId == some "a") = true := by
    decide
  refine ⟨⟨⟨?_, ?_, ?_, ?_⟩, componentRoot_of_rows ?_ (by decide), by decide⟩,
    componentRoot_of_rows ?_ (by decide), ?_, fun n hn => ?_⟩
  · exact ⟨_, rfl⟩
  · intro r run hr
    cases hr
  · intro k d hd
    cases hd
  · intro k m hm _
    have hall : ∀ m ∈ (RoundStore.run note).messages.rows, m.tombstoned = false ∧ m.recallState ≠ .withdrawn := by decide
    exact hall m (Table.mem_of_find? hm)
  · exact ⟨_, rfl, rfl⟩
  · exact (Option.any_eq_true _ _).1 (by decide : ((RoundStore.run steeredQuestion).messages.find? "u1").any (·.authorType.asks) = true)
  · exact Option.isSome_iff_exists.1 (by decide)
  · intro hover
    have hcases : n = 0 ∨ n = 1 ∨ (n < 8 ∧ 2 ≤ n) ∨ n = 8 := by
      have : steeredQuestion.length = 8 := rfl
      omega
    obtain rfl | rfl | ⟨hlt, hle⟩ | rfl := hcases
    · obtain ⟨m, hm⟩ := hover.found
      rw [hempty] at hm
      cases hm
    · obtain ⟨d, hd, hopen⟩ := (Option.any_eq_true _ _).1 hwaiting
      simp only [Bool.and_eq_true, beq_iff_eq, bne_iff_ne] at hopen
      exact not_over_of_waiting hd hopen.1 hopen.2 hover
    · obtain ⟨hinput, hrun⟩ := hfirst n hlt hle
      obtain ⟨run, hrun, hopen⟩ := (Option.any_eq_true _ _).1 hrun
      exact not_over_of_run (contains_iff_mem.1 hinput) hrun (bne_iff_ne.1 hopen) hover
    · -- From the first message over its Run and the steered message to the Run that works.
      obtain ⟨hinput, hinput', hrun, hdelivery⟩ := hsecond
      obtain ⟨run, hrun, hopen⟩ := (Option.any_eq_true _ _).1 hrun
      obtain ⟨d, hd, hsteered⟩ := (Option.any_eq_true _ _).1 hdelivery
      simp only [Bool.and_eq_true, beq_iff_eq] at hsteered
      obtain ⟨⟨hmessage, hmode⟩, hr⟩ := hsteered
      have hwhole : steeredQuestion.take 8 = steeredQuestion := rfl
      rw [hwhole] at hover
      have hfirst : Connected (.run steeredQuestion) (.message "u1") (.run "a") :=
        .single (.joined (.ofInput (contains_iff_mem.1 hinput')))
      have hsteer : Linked (.run steeredQuestion) (.run "a") (.message "u2") := hmessage ▸ .steered hd hmode hr
      have hlast : Linked (.run steeredQuestion) (.message "u2") (.run "b") :=
        .joined (.ofInput (contains_iff_mem.1 hinput))
      exact bne_iff_ne.1 hopen (hover.succeeded hrun ((hfirst.tail hsteer).tail hlast))

end Rovai.Rounds
