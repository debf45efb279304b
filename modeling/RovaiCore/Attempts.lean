import Mathlib.Data.List.Forall2
/-!
# Loops of fallible steps that keep their effects

A step works on a state and ends with a value or an error; in both cases the state stays as the step leaves it.
-/
namespace Attempts

open List

variable {σ ε α β ι : Type}

def andThen (first : σ × Except ε α) (second : σ → α → σ × Except ε β) : σ × Except ε β :=
  match first with
  | (s, .error e) => (s, .error e)
  | (s, .ok a) => second s a

def loop (step : σ → α → ι → σ × Except ε α) : σ → α → List ι → σ × Except ε α
  | s, a, [] => (s, .ok a)
  | s, a, i :: rest => andThen (step s a i) fun s' a' => loop step s' a' rest

def collect (f : ι → Except ε β) : List ι → Except ε (List β)
  | [] => .ok []
  | i :: rest => match f i with
    | .error e => .error e
    | .ok b => match collect f rest with
      | .error e => .error e
      | .ok bs => .ok (b :: bs)

theorem error_ne_ok {s s' : σ} {e : ε} {a : α} : (s, (.error e : Except ε α)) ≠ (s', .ok a) :=
  fun h => nomatch (Prod.mk.inj h).2

theorem andThen_ok {first : σ × Except ε α} {second : σ → α → σ × Except ε β} {s' : σ} {b : β}
    (h : andThen first second = (s', .ok b)) : ∃ s a, first = (s, .ok a) ∧ second s a = (s', .ok b) := by
  obtain ⟨s, _ | a⟩ := first
  · exact absurd h error_ne_ok
  · exact ⟨s, a, rfl, h⟩

/-! ## Rules for loops -/

variable {step : σ → α → ι → σ × Except ε α}

/-- **A loop without an error**: what relates the items behind to the state and the value relates all items to the end. -/
theorem loop_ok {R : List ι → σ → α → Prop}
    (hstep : ∀ (done : List ι) (i : ι) (s : σ) (a : α) (s' : σ) (a' : α), R done s a → step s a i = (s', .ok a') →
      R (done ++ [i]) s' a') :
    ∀ (items done : List ι) (s : σ) (a : α) (s' : σ) (a' : α), R done s a → loop step s a items = (s', .ok a') →
      R (done ++ items) s' a'
  | [], done, s, a, s', a', h, hloop => by
    cases hloop
    rw [append_nil]
    exact h
  | i :: rest, done, s, a, s', a', h, hloop => by
    obtain ⟨s₁, a₁, hfirst, hrest⟩ := andThen_ok hloop
    have hall := loop_ok hstep rest (done ++ [i]) s₁ a₁ s' a' (hstep done i s a s₁ a₁ h hfirst) hrest
    rwa [append_assoc, singleton_append] at hall

/-- **A loop that cannot fail**: no step fails where the items behind are related to the state and the value. -/
theorem loop_total {R : List ι → σ → α → Prop} :
    ∀ (items done : List ι) (s : σ) (a : α),
      (∀ (before : List ι) (i : ι) (after : List ι) (s : σ) (a : α), done ++ items = before ++ i :: after → R before s a →
        ∃ s' a', step s a i = (s', .ok a') ∧ R (before ++ [i]) s' a') → R done s a →
      ∃ s' a', loop step s a items = (s', .ok a') ∧ R (done ++ items) s' a'
  | [], done, s, a, _, h => ⟨s, a, rfl, by rwa [append_nil]⟩
  | i :: rest, done, s, a, hstep, h => by
    obtain ⟨s₁, a₁, hfirst, h₁⟩ := hstep done i rest s a rfl h
    have hitems : done ++ i :: rest = (done ++ [i]) ++ rest := by rw [append_assoc, singleton_append]
    rw [hitems] at hstep ⊢
    obtain ⟨s', a', hrest, h'⟩ := loop_total rest (done ++ [i]) s₁ a₁ hstep h₁
    exact ⟨s', a', by rw [loop, hfirst]; exact hrest, h'⟩

/-! ## Collecting -/

variable {f : ι → Except ε β}

theorem collect_eq_ok : ∀ {items : List ι} {bs : List β},
    collect f items = .ok bs ↔ List.Forall₂ (fun i b => f i = .ok b) items bs
  | [], bs => by
    rw [forall₂_nil_left_iff, collect]
    exact ⟨fun h => (Except.ok.inj h).symm, fun h => congrArg Except.ok h.symm⟩
  | i :: rest, bs => by
    rw [forall₂_cons_left_iff, collect]
    constructor
    · intro h
      cases hf : f i with
      | error e => rw [hf] at h; cases h
      | ok b =>
        cases hr : collect f rest with
        | error e => rw [hf, hr] at h; cases h
        | ok bs' =>
          rw [hf, hr] at h
          exact ⟨b, bs', rfl, collect_eq_ok.1 hr, (Except.ok.inj h).symm⟩
    · rintro ⟨b, bs', hf, hr, rfl⟩
      rw [hf, collect_eq_ok.2 hr]

/-- Where a value can only be one, all are collected exactly when every item has its value. -/
theorem collect_ok_iff {g : ι → β} (hg : ∀ i b, f i = .ok b → b = g i) : ∀ {items : List ι} {bs : List β},
    collect f items = .ok bs ↔ (∀ i ∈ items, f i = .ok (g i)) ∧ bs = items.map g
  | [], bs => by
    rw [collect]
    exact ⟨fun h => ⟨fun i hi => absurd hi not_mem_nil, (Except.ok.inj h).symm⟩, fun h => congrArg Except.ok h.2.symm⟩
  | i :: rest, bs => by
    rw [collect, forall_mem_cons, map_cons]
    constructor
    · intro h
      cases hf : f i with
      | error e =>
        rw [hf] at h
        cases h
      | ok b =>
        rw [hf] at h
        cases hr : collect f rest with
        | error e =>
          rw [hr] at h
          cases h
        | ok bs' =>
          rw [hr] at h
          obtain ⟨hrest, rfl⟩ := (collect_ok_iff hg).1 hr
          obtain rfl := hg i b hf
          exact ⟨⟨rfl, hrest⟩, (Except.ok.inj h).symm⟩
    · rintro ⟨⟨hf, hrest⟩, rfl⟩
      rw [hf, (collect_ok_iff hg).2 ⟨hrest, rfl⟩]

theorem map_of_collect {γ : Type} {p : ι → γ} {q : β → γ} (hpq : ∀ i b, f i = .ok b → q b = p i)
    {items : List ι} {bs : List β} (h : collect f items = .ok bs) : bs.map q = items.map p := by
  induction collect_eq_ok.1 h with
  | nil => rfl
  | cons hf _ ih => rw [map_cons, map_cons, hpq _ _ hf, ih (collect_eq_ok.2 ‹_›)]

end Attempts
