import Mathlib.Data.Option.Basic

/-! # Sequencing fallible computations

What the success or failure of a sequence says about its parts. -/

namespace Aegis.Outcome

universe u v

variable {ε : Type u} {α β : Type v}

/-- A sequence succeeds exactly when each part does. -/
theorem bind_eq_ok {x : Except ε α} {f : α → Except ε β} {b : β} :
    x >>= f = .ok b ↔ ∃ a, x = .ok a ∧ f a = .ok b := by
  cases x with
  | error e => simp [bind, Except.bind]
  | ok a => simp [bind, Except.bind]

/-- A sequence fails with the failure of its first part that fails. -/
theorem bind_eq_error {x : Except ε α} {f : α → Except ε β} {e : ε} :
    x >>= f = .error e ↔ x = .error e ∨ ∃ a, x = .ok a ∧ f a = .error e := by
  cases x with
  | error e' => simp [bind, Except.bind]
  | ok a => simp [bind, Except.bind]

@[simp] theorem ok_bind (a : α) (f : α → Except ε β) : (Except.ok a >>= f) = f a := rfl

@[simp] theorem error_bind (e : ε) (f : α → Except ε β) :
    (Except.error e >>= f : Except ε β) = .error e := rfl

@[simp] theorem pure_eq (a : α) : (pure a : Except ε α) = .ok a := rfl

@[simp] theorem throw_eq (e : ε) : (throw e : Except ε α) = .error e := rfl

theorem isOk_iff {x : Except ε α} : x.isOk = true ↔ ∃ a, x = .ok a := by
  cases x with
  | error e => simp [Except.isOk, Except.toBool]
  | ok a => simp [Except.isOk, Except.toBool]

/-- A value that must exist. -/
def orThrow (x : Option α) (e : ε) : Except ε α :=
  match x with
  | some a => .ok a
  | none => .error e

@[simp] theorem orThrow_eq_ok {x : Option α} {e : ε} {a : α} :
    orThrow x e = .ok a ↔ x = some a := by
  cases x <;> simp [orThrow]

@[simp] theorem orThrow_eq_error {x : Option α} {e e' : ε} :
    orThrow x e = .error e' ↔ x = none ∧ e = e' := by
  cases x <;> simp [orThrow]

/-- A condition that must hold. -/
def require (p : Prop) [Decidable p] (e : ε) : Except ε Unit :=
  if p then .ok () else .error e

@[simp] theorem require_eq_ok {p : Prop} [Decidable p] {e : ε} {u : Unit} :
    require p e = .ok u ↔ p := by
  by_cases h : p <;> simp [require, h]

@[simp] theorem require_eq_error {p : Prop} [Decidable p] {e e' : ε} :
    require p e = .error e' ↔ ¬p ∧ e = e' := by
  by_cases h : p <;> simp [require, h]

end Aegis.Outcome
