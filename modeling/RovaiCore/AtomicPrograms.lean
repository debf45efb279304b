import Mathlib.Logic.Relation
/-!
# Programs of atomic steps among others

A program works on a shared state in atomic steps, and between two of its steps the others may do any number of theirs.
-/
namespace Rovai

/-- A step changes the state and goes on by what it has seen of the state before. -/
inductive Program (σ ε α : Type) where
  | done (result : Except ε α)
  | step (change : σ → σ) (next : σ → Program σ ε α)

namespace Program

variable {σ ε ε' α β : Type}

def andThen : Program σ ε α → (α → Program σ ε β) → Program σ ε β
  | done (.ok a), f => f a
  | done (.error e), _ => done (.error e)
  | step change next, f => step change fun s => (next s).andThen f

instance : Monad (Program σ ε) where
  pure a := done (.ok a)
  bind := andThen

def fail (e : ε) : Program σ ε α :=
  done (.error e)

def settle (r : Except ε α) : Program σ ε α :=
  done r

def atomic (f : σ → Except ε α × σ) : Program σ ε α :=
  step (fun s => (f s).2) fun s => done (f s).1

def attempt : Program σ ε α → Program σ ε' (Except ε α)
  | done r => done (.ok r)
  | step change next => step change fun s => (next s).attempt

/-! ## Triples -/

def Stable (others : σ → σ → Prop) (P : σ → Prop) : Prop :=
  ∀ s s', others s s' → P s → P s'

section Triples

variable (others own : σ → σ → Prop)

/-- From the state, among the steps of the others, every step of the program is one of its own kind, and where it ends the
postconditions hold, of its result or of its failure. -/
def Meets (Q : α → σ → Prop) (E : ε → σ → Prop) : Program σ ε α → σ → Prop
  | done (.ok a), s => Q a s
  | done (.error e), s => E e s
  | step change next, s => ∀ s', Relation.ReflTransGen others s s' → own s' (change s') ∧ Meets Q E (next s') (change s')

def Triple (P : σ → Prop) (p : Program σ ε α) (Q : α → σ → Prop) (E : ε → σ → Prop) : Prop :=
  ∀ s, P s → Meets others own Q E p s

variable {others own} {P P' : σ → Prop} {Q R : α → σ → Prop} {E : ε → σ → Prop}

theorem Stable.many (h : Stable others P) {s s' : σ} (hs : P s) (hmany : Relation.ReflTransGen others s s') : P s' := by
  induction hmany with
  | refl => exact hs
  | tail _ hstep ih => exact h _ _ hstep ih

theorem Stable.and (h : Stable others P) (h' : Stable others P') : Stable others fun s => P s ∧ P' s :=
  fun s s' hstep hs => ⟨h s s' hstep hs.1, h' s s' hstep hs.2⟩

theorem Stable.const (p : Prop) : Stable others fun _ : σ => p :=
  fun _ _ _ h => h

theorem triple_pure {a : α} (h : ∀ s, P s → Q a s) : Triple others own P (pure a : Program σ ε α) Q E :=
  fun s hs => h s hs

theorem triple_fail {e : ε} (h : ∀ s, P s → E e s) : Triple others own P (fail e : Program σ ε α) Q E :=
  fun s hs => h s hs

theorem triple_settle {r : Except ε α} (hok : ∀ a, r = .ok a → ∀ s, P s → Q a s) (herror : ∀ e, r = .error e → ∀ s, P s → E e s) :
    Triple others own P (settle r) Q E := by
  intro s hs
  cases r with
  | ok a => exact hok a rfl s hs
  | error e => exact herror e rfl s hs

theorem triple_atomic {f : σ → Except ε α × σ} (hstable : Stable others P) (hown : ∀ s, P s → own s (f s).2)
    (hok : ∀ s a, P s → (f s).1 = .ok a → Q a (f s).2) (herror : ∀ s e, P s → (f s).1 = .error e → E e (f s).2) :
    Triple others own P (atomic f) Q E := by
  intro s hs s' hmany
  have hs' := hstable.many hs hmany
  refine ⟨hown s' hs', ?_⟩
  show Meets others own Q E (done (f s').1) (f s').2
  cases h : (f s').1 with
  | ok a => exact hok s' a hs' h
  | error e => exact herror s' e hs' h

variable {p : Program σ ε α}

theorem meets_andThen {f : α → Program σ ε β} {T : β → σ → Prop}
    (hf : ∀ a, Triple others own (Q a) (f a) T E) : ∀ s, Meets others own Q E p s → Meets others own T E (p.andThen f) s := by
  induction p with
  | done r =>
    intro s hs
    cases r with
    | ok a => exact hf a s hs
    | error e => exact hs
  | step change next ih =>
    intro s hs s' hmany
    obtain ⟨hown, hnext⟩ := hs s' hmany
    exact ⟨hown, ih s' _ hnext⟩

/-- **One program after the other.** -/
theorem triple_bind {f : α → Program σ ε β} {T : β → σ → Prop} (hp : Triple others own P p Q E)
    (hf : ∀ a, Triple others own (Q a) (f a) T E) : Triple others own P (p >>= f) T E :=
  fun s hs => meets_andThen hf s (hp s hs)

theorem meets_mono {Q' : α → σ → Prop} {E' : ε → σ → Prop} (hok : ∀ a s, Q a s → Q' a s)
    (herror : ∀ e s, E e s → E' e s) : ∀ s, Meets others own Q E p s → Meets others own Q' E' p s := by
  induction p with
  | done r =>
    intro s hs
    cases r with
    | ok a => exact hok a s hs
    | error e => exact herror e s hs
  | step change next ih =>
    intro s hs s' hmany
    obtain ⟨hown, hnext⟩ := hs s' hmany
    exact ⟨hown, ih s' _ hnext⟩

theorem triple_weaken {Q' : α → σ → Prop} {E' : ε → σ → Prop} (h : Triple others own P p Q E)
    (hpre : ∀ s, P' s → P s) (hok : ∀ a s, Q a s → Q' a s) (herror : ∀ e s, E e s → E' e s) : Triple others own P' p Q' E' :=
  fun s hs => meets_mono hok herror s (h s (hpre s hs))

theorem triple_pre (h : Triple others own P p Q E) (hpre : ∀ s, P' s → P s) : Triple others own P' p Q E :=
  fun s hs => h s (hpre s hs)

theorem meets_attempt : ∀ s, Meets others own Q E p s →
    Meets others own (fun r s => match r with | .ok a => Q a s | .error e => E e s) (fun _ _ => False)
      (p.attempt : Program σ ε' (Except ε α)) s := by
  induction p with
  | done r =>
    intro s hs
    cases r with
    | ok a => exact hs
    | error e => exact hs
  | step change next ih =>
    intro s hs s' hmany
    obtain ⟨hown, hnext⟩ := hs s' hmany
    exact ⟨hown, ih s' _ hnext⟩

theorem triple_attempt {E' : ε' → σ → Prop} (h : Triple others own P p Q E) :
    Triple others own P (p.attempt : Program σ ε' (Except ε α))
      (fun r s => match r with | .ok a => Q a s | .error e => E e s) E' :=
  fun s hs => meets_mono (fun _ _ h => h) (fun _ _ h => h.elim) s (meets_attempt s (h s hs))

theorem Meets.meanwhile (hQ : ∀ a, Stable others (Q a)) (hE : ∀ e, Stable others (E e)) {s s' : σ}
    (h : Meets others own Q E p s) (hstep : others s s') : Meets others own Q E p s' := by
  cases p with
  | done r =>
    cases r with
    | ok a => exact hQ a s s' hstep h
    | error e => exact hE e s s' hstep h
  | step => exact fun s'' hmany => h s'' (.head hstep hmany)

theorem Meets.next {change : σ → σ} {next : σ → Program σ ε α} {s : σ} (h : Meets others own Q E (step change next) s) :
    own s (change s) ∧ Meets others own Q E (next s) (change s) :=
  h s .refl

end Triples

end Program
end Rovai
