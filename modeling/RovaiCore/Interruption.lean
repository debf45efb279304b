import Mathlib.Logic.Relation
import Mathlib.Data.List.Basic
/-!
# Procedures that can be interrupted

A procedure works on a durable state in steps.
-/
namespace Rovai

open List

structure Course (σ ε α : Type) where
  left : List σ
  result : Except ε α

structure Procedure (σ ε α : Type) where
  run : σ → Course σ ε α

namespace Procedure

variable {σ τ ε α β : Type} (p : Procedure σ ε α)

def final (s : σ) : σ :=
  (p.run s).left.getLastD s

def cuts (s : σ) : List σ :=
  s :: (p.run s).left

def observe (f : σ → Except ε α) : Procedure σ ε α where
  run s := ⟨[], f s⟩

def ask (f : σ → α) : Procedure σ ε α :=
  observe fun s => .ok (f s)

def act (f : σ → Except ε σ) : Procedure σ ε Unit where
  run s := match f s with
    | .ok s' => ⟨[s'], .ok ()⟩
    | .error e => ⟨[], .error e⟩

def fail (e : ε) : Procedure σ ε α :=
  observe fun _ => .error e

def andThen (f : α → Procedure σ ε β) : Procedure σ ε β where
  run s := match (p.run s).result with
    | .ok a => ⟨(p.run s).left ++ ((f a).run (p.final s)).left, ((f a).run (p.final s)).result⟩
    | .error e => ⟨(p.run s).left, .error e⟩

instance : Monad (Procedure σ ε) where
  pure a := ask fun _ => a
  bind := andThen

def attempt {ε' : Type} (p : Procedure σ ε α) : Procedure σ ε' (Except ε α) where
  run s := ⟨(p.run s).left, .ok (p.run s).result⟩

def within (get : τ → σ) (set : τ → σ → τ) (p : Procedure σ ε α) : Procedure τ ε α where
  run t := ⟨(p.run (get t)).left.map (set t), (p.run (get t)).result⟩

/-! ## How a procedure goes on -/

theorem getLastD_append (s : σ) : ∀ l m : List σ, (l ++ m).getLastD s = m.getLastD (l.getLastD s)
  | [], _ => rfl
  | t :: l, m => by rw [cons_append, getLastD_cons, getLastD_cons, getLastD_append t l m]

variable {p : Procedure σ ε α}

theorem run_attempt_within {ε' : Type} {get : τ → σ} {set : τ → σ → τ} {t : τ} {left : List σ}
    {r : Except ε α} (h : p.run (get t) = ⟨left, r⟩) :
    (attempt (within get set p) : Procedure τ ε' (Except ε α)).run t = ⟨left.map (set t), .ok r⟩ := by
  simp [attempt, within, h]

theorem run_pure (a : α) (s : σ) : (pure a : Procedure σ ε α).run s = ⟨[], .ok a⟩ := rfl

theorem run_fail (e : ε) (s : σ) : (fail e : Procedure σ ε α).run s = ⟨[], .error e⟩ := rfl

theorem act_ok {f : σ → Except ε σ} {s s' : σ} (h : f s = .ok s') : (act f).run s = ⟨[s'], .ok ()⟩ := by
  simp [act, h]

variable {s : σ} {e : ε}

theorem act_error {f : σ → Except ε σ} (h : f s = .error e) : (act f).run s = ⟨[], .error e⟩ := by
  simp [act, h]

theorem bind_ok {f : α → Procedure σ ε β} {l m : List σ} {a : α} {r : Except ε β}
    (hp : p.run s = ⟨l, .ok a⟩) (hf : (f a).run (l.getLastD s) = ⟨m, r⟩) : (p >>= f).run s = ⟨l ++ m, r⟩ := by
  show (andThen p f).run s = _
  simp only [andThen, final, hp, hf]

theorem bind_error {f : α → Procedure σ ε β} {l : List σ}
    (hp : p.run s = ⟨l, .error e⟩) : (p >>= f).run s = ⟨l, .error e⟩ := by
  show (andThen p f).run s = _
  simp [andThen, hp]

variable {f : σ → Except ε α}

theorem observe_ok {g : α → Procedure σ ε β} {a : α} (h : f s = .ok a) :
    (observe f >>= g).run s = (g a).run s := by
  show (andThen (observe f) g).run s = _
  simp [andThen, observe, final, h]

theorem run_observe {r : Except ε α} (h : f s = r) : (observe f).run s = ⟨[], r⟩ := by
  simp [observe, h]

theorem observe_error {g : α → Procedure σ ε β} (h : f s = .error e) :
    (observe f >>= g).run s = ⟨[], .error e⟩ :=
  bind_error (run_observe h)

theorem ask_bind (f : σ → α) (g : α → Procedure σ ε β) (s : σ) : (ask f >>= g).run s = (g (f s)).run s :=
  observe_ok rfl

/-! ## Procedures that complete -/

def Completes (I P : σ → Prop) (p : Procedure σ ε α) (Q : α → σ → Prop) : Prop :=
  ∀ s, P s → (∀ t ∈ (p.run s).left, I t) ∧ ∃ a, (p.run s).result = .ok a ∧ Q a (p.final s)

namespace Completes

variable {I P P' : σ → Prop} {Q Q' : α → σ → Prop}

theorem observe {f : σ → Except ε α} (h : ∀ s, P s → ∃ a, f s = .ok a ∧ Q a s) : Completes I P (Procedure.observe f) Q := by
  intro s hs
  obtain ⟨a, ha, hq⟩ := h s hs
  exact ⟨fun _ ht => (not_mem_nil ht).elim, a, ha, hq⟩

theorem ask {f : σ → α} (h : ∀ s, P s → Q (f s) s) : Completes I P (Procedure.ask f : Procedure σ ε α) Q :=
  observe fun s hs => ⟨f s, rfl, h s hs⟩

theorem pure {a : α} (h : ∀ s, P s → Q a s) : Completes I P (Pure.pure a : Procedure σ ε α) Q :=
  ask h

theorem act {f : σ → Except ε σ} {Q : Unit → σ → Prop} (h : ∀ s, P s → ∃ s', f s = .ok s' ∧ I s' ∧ Q () s') :
    Completes I P (Procedure.act f) Q := by
  intro s hs
  obtain ⟨s', hs', hi, hq⟩ := h s hs
  rw [final, act_ok hs']
  exact ⟨fun t ht => by rw [mem_singleton.1 ht]; exact hi, (), rfl, hq⟩

variable {p : Procedure σ ε α}

theorem bind {f : α → Procedure σ ε β} {R : β → σ → Prop} (hp : Completes I P p Q)
    (hf : ∀ a, Completes I (Q a) (f a) R) : Completes I P (p >>= f) R := by
  intro s hs
  obtain ⟨hleft, a, ha, hq⟩ := hp s hs
  obtain ⟨hleft', b, hb, hr⟩ := hf a _ hq
  have hrun : (p >>= f).run s = ⟨(p.run s).left ++ ((f a).run (p.final s)).left, ((f a).run (p.final s)).result⟩ := by
    show (andThen p f).run s = _
    simp [andThen, ha]
  refine ⟨fun t ht => ?_, b, ?_, ?_⟩
  · rw [hrun] at ht
    obtain ht | ht := mem_append.1 ht
    · exact hleft t ht
    · exact hleft' t ht
  · rw [hrun]
    exact hb
  · rw [final, hrun]
    simp only [getLastD_append]
    exact hr

theorem pure_bind {b : β} {f : β → Procedure σ ε α} (h : Completes I P (f b) Q) : Completes I P (Pure.pure b >>= f) Q := by
  have hrun : (Pure.pure b >>= f : Procedure σ ε α) = f b := by
    show Procedure.mk (fun s => (Procedure.ask (fun _ => b) >>= f).run s) = f b
    simp [Procedure.ask_bind]
  rw [hrun]
  exact h

theorem ask_bind {g : σ → β} {f : β → Procedure σ ε α} (h : ∀ b, Completes I (fun s => P s ∧ g s = b) (f b) Q) :
    Completes I P (Procedure.ask g >>= f) Q :=
  bind (ask fun _ hs => ⟨hs, rfl⟩) h

theorem absurd (h : ∀ s, ¬ P s) : Completes I P p Q :=
  fun s hs => False.elim (h s hs)

theorem of_pre {A : Prop} (h : ∀ s, P s → A) (hA : A → Completes I P p Q) : Completes I P p Q :=
  fun s hs => hA (h s hs) s hs

theorem mono (h : Completes I P p Q) (hp : ∀ s, P' s → P s) (hq : ∀ a s, Q a s → Q' a s) :
    Completes I P' p Q' := by
  intro s hs
  obtain ⟨hleft, a, ha, hqa⟩ := h s (hp s hs)
  exact ⟨hleft, a, ha, hq a _ hqa⟩

theorem forM {f : β → Procedure σ ε PUnit} {J : List β → σ → Prop} :
    ∀ l : List β, (∀ b rest, b :: rest <:+ l → Completes I (J (b :: rest)) (f b) fun _ => J rest) →
      Completes I (J l) (l.forM f) fun _ => J []
  | [], _ => pure fun _ h => h
  | b :: rest, h => bind (h b rest (suffix_refl _)) fun _ =>
      forM rest fun b' rest' hsuffix => h b' rest' (hsuffix.trans (suffix_cons b rest))

theorem cuts (h : Completes I P p Q) {s t : σ} (hs : P s) (hi : I s) (ht : t ∈ p.cuts s) : I t := by
  obtain rfl | ht := mem_cons.1 ht
  · exact hi
  · exact (h s hs).1 t ht

end Completes

/-! ## Procedures that may fail -/

def Yields (P : σ → Prop) (p : Procedure σ ε α) (Q : α → σ → Prop) : Prop :=
  ∀ s a, P s → (p.run s).result = .ok a → Q a (p.final s)

namespace Yields

variable {P : σ → Prop} {Q : α → σ → Prop}

theorem observe {f : σ → Except ε α} (h : ∀ s a, P s → f s = .ok a → Q a s) : Yields P (Procedure.observe f) Q :=
  fun s a hs ha => h s a hs ha

theorem pure {a : α} (h : ∀ s, P s → Q a s) : Yields P (Pure.pure a : Procedure σ ε α) Q := by
  intro s b hs hb
  cases hb
  exact h s hs

theorem act {f : σ → Except ε σ} {Q : Unit → σ → Prop} (h : ∀ s s', P s → f s = .ok s' → Q () s') :
    Yields P (Procedure.act f) Q := by
  intro s a hs ha
  cases hf : f s with
  | error e =>
    rw [act_error hf] at ha
    cases ha
  | ok s' =>
    rw [final, act_ok hf]
    exact h s s' hs hf

theorem bind {p : Procedure σ ε α} {f : α → Procedure σ ε β} {R : β → σ → Prop} (hp : Yields P p Q)
    (hf : ∀ a, Yields (Q a) (f a) R) : Yields P (p >>= f) R := by
  intro s b hs hb
  cases ha : (p.run s).result with
  | error e =>
    have hrun : ((p >>= f).run s).result = .error e := by
      show ((andThen p f).run s).result = _
      simp [andThen, ha]
    rw [hrun] at hb
    cases hb
  | ok a =>
    have hrun : (p >>= f).run s = ⟨(p.run s).left ++ ((f a).run (p.final s)).left, ((f a).run (p.final s)).result⟩ := by
      show (andThen p f).run s = _
      simp [andThen, ha]
    rw [hrun] at hb
    rw [final, hrun]
    simp only [getLastD_append]
    exact hf a _ b (hp s a hs ha) hb

theorem of_and {A : Prop} {p : Procedure σ ε α} (h : A → Yields P p Q) : Yields (fun s => A ∧ P s) p Q :=
  fun s a hs ha => h hs.1 s a hs.2 ha

end Yields

/-! ## What procedures leave behind -/

def Leaves (I P : σ → Prop) (p : Procedure σ ε α) (Q : α → σ → Prop) : Prop :=
  ∀ s, P s → (∀ t ∈ (p.run s).left, I t) ∧ ∀ a, (p.run s).result = .ok a → Q a (p.final s)

namespace Leaves

variable {I P P' : σ → Prop} {Q Q' : α → σ → Prop}

theorem observe {f : σ → Except ε α} (h : ∀ s a, P s → f s = .ok a → Q a s) : Leaves I P (Procedure.observe f) Q :=
  fun s hs => ⟨fun _ ht => (not_mem_nil ht).elim, fun a ha => h s a hs ha⟩

theorem pure {a : α} (h : ∀ s, P s → Q a s) : Leaves I P (Pure.pure a : Procedure σ ε α) Q := by
  refine observe fun s b hs hb => ?_
  cases hb
  exact h s hs

theorem fail {e : ε} : Leaves I P (Procedure.fail e : Procedure σ ε α) Q :=
  observe fun _ _ _ h => (nomatch h)

theorem act {f : σ → Except ε σ} {Q : Unit → σ → Prop} (h : ∀ s s', P s → f s = .ok s' → I s' ∧ Q () s') :
    Leaves I P (Procedure.act f) Q := by
  intro s hs
  cases hf : f s with
  | error e =>
    rw [act_error hf]
    exact ⟨fun _ ht => (not_mem_nil ht).elim, fun _ ha => (nomatch ha)⟩
  | ok s' =>
    rw [final, act_ok hf]
    obtain ⟨hi, hq⟩ := h s s' hs hf
    exact ⟨fun t ht => by rw [mem_singleton.1 ht]; exact hi, fun _ _ => hq⟩

variable {p : Procedure σ ε α}

theorem bind {f : α → Procedure σ ε β} {R : β → σ → Prop} (hp : Leaves I P p Q)
    (hf : ∀ a, Leaves I (Q a) (f a) R) : Leaves I P (p >>= f) R := by
  intro s hs
  obtain ⟨hleft, hresult⟩ := hp s hs
  have hrun : (p >>= f).run s = (andThen p f).run s := rfl
  cases ha : (p.run s).result with
  | error e =>
    simp only [andThen, ha] at hrun
    rw [final, hrun]
    exact ⟨hleft, fun _ hb => (nomatch hb)⟩
  | ok a =>
    simp only [andThen, ha] at hrun
    obtain ⟨hleft', hresult'⟩ := hf a _ (hresult a ha)
    rw [final, hrun]
    simp only [getLastD_append]
    refine ⟨fun t ht => ?_, hresult'⟩
    rcases mem_append.1 ht with ht | ht
    · exact hleft t ht
    · exact hleft' t ht

theorem ask_bind {g : σ → β} {f : β → Procedure σ ε α} (h : ∀ b, Leaves I (fun s => P s ∧ g s = b) (f b) Q) :
    Leaves I P (Procedure.ask g >>= f) Q := by
  refine bind (observe fun s b hs hb => ?_) h
  cases hb
  exact ⟨hs, rfl⟩

theorem attempt {ε' : Type} (h : Leaves I P p fun _ _ => True) (hi : ∀ s, P s → I s) :
    Leaves I P (Procedure.attempt p : Procedure σ ε' (Except ε α)) fun _ => I := by
  intro s hs
  refine ⟨(h s hs).1, fun _ _ => ?_⟩
  show I ((p.run s).left.getLastD s)
  rcases mem_cons.1 (getLastD_mem_cons (a := s) (l := (p.run s).left)) with heq | hmem
  · rw [heq]
    exact hi s hs
  · exact (h s hs).1 _ hmem

theorem mono (h : Leaves I P p Q) (hp : ∀ s, P' s → P s) (hq : ∀ a s, Q a s → Q' a s) :
    Leaves I P' p Q' :=
  fun s hs => ⟨(h s (hp s hs)).1, fun a ha => hq a _ ((h s (hp s hs)).2 a ha)⟩

theorem cuts (h : Leaves I P p Q) {s t : σ} (hs : P s) (hi : I s) (ht : t ∈ p.cuts s) : I t := by
  rcases mem_cons.1 ht with rfl | ht
  · exact hi
  · exact (h s hs).1 t ht

end Leaves

/-! ## Interruptions -/

def Interrupted {ι : Type} (p : ι → Procedure σ ε α) : σ → σ → Prop :=
  Relation.ReflTransGen fun s t => ∃ i, t ∈ (p i).cuts s

/-- **What every cut keeps is kept by all interruptions.** -/
theorem Interrupted.invariant {ι : Type} {p : ι → Procedure σ ε α} {P : σ → Prop}
    (hcut : ∀ i s, P s → ∀ t ∈ (p i).cuts s, P t) {s t : σ} (h : Interrupted p s t) (hs : P s) : P t := by
  induction h with
  | refl => exact hs
  | tail _ hlast ih =>
    obtain ⟨i, hlast⟩ := hlast
    exact hcut i _ ih _ hlast

end Procedure
end Rovai
