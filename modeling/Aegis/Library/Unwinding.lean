import Aegis.Library.Outcome
import Aegis.Library.Run

/-! # Runs without some of their steps

Two runs are compared step by step under a relation of their states. Steps that the relation does
not see may be left out without a change of the answers to the others. -/

namespace Aegis

universe u v w

/-! ## Related outcomes -/

namespace Outcome

variable {ε : Type u} {α β γ δ : Type}

/-- The same failure, or results that are related. -/
inductive Rel (Q : α → β → Prop) : Except ε α → Except ε β → Prop where
  | error (e : ε) : Rel Q (.error e) (.error e)
  | ok {a : α} {b : β} (h : Q a b) : Rel Q (.ok a) (.ok b)

namespace Rel

variable {Q : α → β → Prop} {P : γ → δ → Prop}

theorem bind {x : Except ε α} {y : Except ε β} {f : α → Except ε γ} {g : β → Except ε δ}
    (h : Rel Q x y) (hf : ∀ a b, Q a b → Rel P (f a) (g b)) : Rel P (x >>= f) (y >>= g) := by
  cases h with
  | error e => exact .error e
  | ok h => exact hf _ _ h

/-- Both computations make the same test. -/
theorem require_bind {p : Prop} [Decidable p] {e : ε} {f : Unit → Except ε γ}
    {g : Unit → Except ε δ} (h : p → Rel P (f ()) (g ())) :
    Rel P (require p e >>= f) (require p e >>= g) := by
  by_cases hp : p
  · simpa [require, hp] using h hp
  · simpa [require, hp] using Rel.error e

theorem orThrow {x : Option α} {y : Option β} (h : Option.Rel Q x y) (e : ε) :
    Rel Q (orThrow x e) (orThrow y e) := by
  cases h with
  | none => exact .error e
  | some h => exact .ok h

end Rel

end Outcome

/-- Equal answers and related states. -/
def Twins {α : Type u} {σ : Type v} (R : σ → σ → Prop) (x y : α × σ) : Prop :=
  x.1 = y.1 ∧ R x.2 y.2

/-! ## Leaving steps out -/

namespace Unwinding

variable {σ : Type u} {ι : Type v} {ο : Type w} (step : σ → ι → ο × σ) (shown : ι → Bool)
  (R : σ → σ → Prop) (Free Safe : σ → ι → Prop)

/-- The state that a step leaves behind. -/
def next (s : σ) (i : ι) : σ := (step s i).2

/-- What the steps that are shown answer. -/
def answers : σ → List ι → List ο
  | _, [] => []
  | s, i :: is =>
      if shown i then (step s i).1 :: answers (next step s i) is else answers (next step s i) is

/-- What one step does: a hidden one that is safe keeps the relation, a shown one is answered
alike. `Free` is asked of the steps of a run without hidden ones. -/
structure Laws : Prop where
  hidden : ∀ s t i, R s t → Safe t i → shown i = false → R s (next step t i)
  shown : ∀ s t i, R s t → Free s i → Safe t i → shown i = true → Twins R (step s i) (step t i)

variable {step shown R Free Safe}

/-- Without its hidden steps a run gives the same answers and leaves a related state. -/
theorem Laws.run (laws : Laws step shown R Free Safe) {s t : σ} {is : List ι} (h : R s t)
    (hfree : Run.Along (next step) Free s (is.filter shown))
    (hsafe : Run.Along (next step) Safe t is) :
    answers step shown s (is.filter shown) = answers step shown t is ∧
      R (Run.final (next step) s (is.filter shown)) (Run.final (next step) t is) := by
  induction is generalizing s t with
  | nil => exact ⟨rfl, h⟩
  | cons i is ih =>
      obtain ⟨hi, hrest⟩ := hsafe
      cases hshown : shown i with
      | false =>
          rw [List.filter_cons_of_neg (by simp [hshown])] at hfree ⊢
          have hnext := ih (laws.hidden s t i h hi hshown) hfree hrest
          simpa [hshown, answers] using hnext
      | true =>
          rw [List.filter_cons_of_pos hshown] at hfree ⊢
          obtain ⟨hanswer, hR⟩ := laws.shown s t i h hfree.1 hi hshown
          have hnext : R (next step s i) (next step t i) := hR
          obtain ⟨hanswers, hfinal⟩ := ih hnext hfree.2 hrest
          exact ⟨by simp [hshown, answers, hanswer, hanswers], hfinal⟩

end Unwinding

end Aegis
