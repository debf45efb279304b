/-!
# Runs of a deterministic system

A system is a step function on states; a run is the fold of a list of actions.
-/
namespace Runs

open List

variable {σ α : Type} (step : σ → α → σ)

/-- Every step of the run from `s` meets the condition, read at the state before it. -/
def AllSteps (ok : σ → α → Prop) : σ → List α → Prop
  | _, [] => True
  | s, a :: as => ok s a ∧ AllSteps ok (step s a) as

variable {P : σ → Prop}

/-- **The run lemma**: what every step preserves holds after every run. -/
theorem run_invariant (hstep : ∀ s a, P s → P (step s a)) : ∀ (as : List α) (s : σ), P s →
    P (as.foldl step s)
  | [], _, h => h
  | a :: as, s, h => run_invariant hstep as (step s a) (hstep s a h)

variable {ok : σ → α → Prop}

theorem run_invariant_of_allSteps (hstep : ∀ s a, ok s a → P s → P (step s a)) :
    ∀ (as : List α) (s : σ), AllSteps step ok s as → P s → P (as.foldl step s)
  | [], _, _, h => h
  | a :: as, s, hok, h => run_invariant_of_allSteps hstep as (step s a) hok.2 (hstep s a hok.1 h)

theorem allSteps_of_forall : ∀ {as : List α} (s : σ), (∀ a ∈ as, ∀ s, ok s a) → AllSteps step ok s as
  | [], _, _ => trivial
  | a :: _, s, h => ⟨h a mem_cons_self s, allSteps_of_forall (step s a) fun b hb => h b (mem_cons_of_mem a hb)⟩

/-- A condition gives another where the run keeps the invariant that it takes. -/
theorem allSteps_mono {ok ok' : σ → α → Prop} (hstep : ∀ s a, P s → P (step s a))
    (himp : ∀ s a, P s → ok s a → ok' s a) : ∀ (as : List α) (s : σ), P s → AllSteps step ok s as → AllSteps step ok' s as
  | [], _, _, _ => trivial
  | a :: as, s, h, hok => ⟨himp s a h hok.1, allSteps_mono hstep himp as (step s a) (hstep s a h) hok.2⟩

theorem allSteps_and {ok ok' : σ → α → Prop} : ∀ {as : List α} {s : σ}, AllSteps step ok s as → AllSteps step ok' s as →
    AllSteps step (fun s a => ok s a ∧ ok' s a) s as
  | [], _, _, _ => trivial
  | _ :: _, _, h, h' => ⟨⟨h.1, h'.1⟩, allSteps_and h.2 h'.2⟩

instance decidableAllSteps {ok : σ → α → Prop} [h : ∀ s a, Decidable (ok s a)] :
    ∀ (s : σ) (as : List α), Decidable (AllSteps step ok s as)
  | _, [] => isTrue trivial
  | s, a :: as => @instDecidableAnd _ _ (h s a) (decidableAllSteps (step s a) as)

theorem allSteps_append : ∀ (as bs : List α) (s : σ),
    AllSteps step ok s (as ++ bs) ↔ AllSteps step ok s as ∧ AllSteps step ok (as.foldl step s) bs
  | [], bs, s => by simp [AllSteps]
  | a :: as, bs, s => by
    simp [cons_append, AllSteps, foldl_cons, allSteps_append as bs (step s a), and_assoc]

/-- Every step of a run meets the condition exactly when it is met after every beginning of the run. -/
theorem allSteps_iff : ∀ {as : List α} {s : σ},
    AllSteps step ok s as ↔ ∀ bs a, bs ++ [a] <+: as → ok (bs.foldl step s) a
  | [], s => by simp [AllSteps, prefix_nil]
  | b :: as, s => by
    rw [AllSteps, allSteps_iff]
    constructor
    · rintro ⟨hfirst, hrest⟩ bs a hprefix
      cases bs with
      | nil =>
        obtain ⟨rfl, -⟩ := cons_prefix_cons.1 hprefix
        exact hfirst
      | cons b' bs =>
        rw [cons_append] at hprefix
        obtain ⟨rfl, htail⟩ := cons_prefix_cons.1 hprefix
        exact hrest bs a htail
    · intro h
      exact ⟨h [] b (by simp), fun bs a hprefix => h (b :: bs) a (cons_prefix_cons.2 ⟨rfl, hprefix⟩)⟩

/-- A property holds after every beginning of a run exactly when every step meets what the step needs to keep it. -/
theorem always_iff_allSteps {P Q : σ → Prop} {ok needs : σ → α → Prop} (hinv : ∀ s a, ok s a → P s → P (step s a))
    (hstep : ∀ s a, ok s a → P s → Q s → (Q (step s a) ↔ needs s a)) : ∀ {as : List α} {s : σ}, AllSteps step ok s as → P s →
    Q s → ((∀ bs, bs <+: as → Q (bs.foldl step s)) ↔ AllSteps step needs s as)
  | [], s, _, _, hq => by simp [AllSteps, prefix_nil, hq]
  | a :: as, s, hok, hp, hq => by
    have hone := hstep s a hok.1 hp hq
    rw [AllSteps]
    constructor
    · intro h
      have hnext : Q (step s a) := h [a] (cons_prefix_cons.2 ⟨rfl, nil_prefix⟩)
      refine ⟨hone.1 hnext, (always_iff_allSteps hinv hstep hok.2 (hinv s a hok.1 hp) hnext).1 fun bs hbs => ?_⟩
      exact h (a :: bs) (cons_prefix_cons.2 ⟨rfl, hbs⟩)
    · rintro ⟨hneeds, hrest⟩ bs hbs
      have hnext := hone.2 hneeds
      cases bs with
      | nil => exact hq
      | cons b bs =>
        obtain ⟨rfl, htail⟩ := cons_prefix_cons.1 hbs
        exact (always_iff_allSteps hinv hstep hok.2 (hinv s b hok.1 hp) hnext).2 hrest bs htail

end Runs
