/-!
# Results that may be errors

Reading a successful run of a fallible function backwards: what a bind, a guard or a required value says when the whole is no
error.
-/
namespace Fallible

variable {ε α β : Type}

def orError (value : Option α) (error : ε) : Except ε α := match value with
  | some a => .ok a
  | none => .error error

theorem orError_eq_ok {value : Option α} {error : ε} {a : α} : orError value error = .ok a ↔ value = some a := by
  cases value <;> simp [orError]

theorem bind_eq_ok {x : Except ε α} {f : α → Except ε β} {b : β} :
    (x >>= f) = .ok b ↔ ∃ a, x = .ok a ∧ f a = .ok b := by
  constructor
  · intro h
    cases x with
    | error e => cases h
    | ok a => exact ⟨a, rfl, h⟩
  · rintro ⟨a, rfl, h⟩
    exact h

theorem guard_eq_ok {p : Prop} [Decidable p] {error : ε} {x : Except ε α} {a : α} :
    (if p then .error error else x) = .ok a ↔ ¬ p ∧ x = .ok a := by
  by_cases h : p <;> simp [h]

end Fallible
