import Aegis.Library.Run

/-! # Guards that let an effect happen once

The purpose of an idempotency record: an attempt holds the guard, fires the effect
and leaves the guard spent, or gives up and leaves it free. -/

namespace Aegis

inductive Phase where
  | free
  | held
  | spent
  deriving DecidableEq, Repr

/-- The guard together with the number of times the effect has happened. -/
structure OnceGuard where
  phase : Phase
  fired : ℕ
  deriving DecidableEq, Repr

namespace OnceGuard

open Relation

inductive Step : OnceGuard → OnceGuard → Prop
  | acquire (n : ℕ) : Step ⟨.free, n⟩ ⟨.held, n⟩
  | fire (n : ℕ) : Step ⟨.held, n⟩ ⟨.spent, n + 1⟩
  | giveUp (n : ℕ) : Step ⟨.held, n⟩ ⟨.free, n⟩

/-- The effect has happened at most once, and only under a spent guard. -/
def Sound (g : OnceGuard) : Prop := g.fired = 0 ∨ (g.fired = 1 ∧ g.phase = .spent)

theorem Sound.fired_le_one {g : OnceGuard} (h : g.Sound) : g.fired ≤ 1 := by
  rcases h with h | ⟨h, -⟩ <;> omega

theorem Sound.step {g g' : OnceGuard} (h : g.Sound) (hstep : Step g g') : g'.Sound := by
  cases hstep with
  | acquire n => exact .inl (by simpa [Sound] using h)
  | fire n => exact .inr ⟨by simpa [Sound] using h, rfl⟩
  | giveUp n => exact .inl (by simpa [Sound] using h)

theorem Sound.steps {g g' : OnceGuard} (h : g.Sound) (hsteps : ReflTransGen Step g g') :
    g'.Sound := by
  induction hsteps with
  | refl => exact h
  | tail _ hstep ih => exact ih.step hstep

theorem not_step_spent {n : ℕ} {g : OnceGuard} : ¬ Step ⟨.spent, n⟩ g := by
  rintro ⟨⟩

/-- Nothing leaves a spent guard. -/
theorem steps_spent {n : ℕ} {g : OnceGuard} (h : ReflTransGen Step ⟨.spent, n⟩ g) :
    g = ⟨.spent, n⟩ := by
  rcases h.cases_head with h | ⟨g', hstep, -⟩
  · exact h.symm
  · exact absurd hstep not_step_spent

/-- A whole attempt that goes through. -/
theorem steps_fire (n : ℕ) : ReflTransGen Step ⟨.free, n⟩ ⟨.spent, n + 1⟩ :=
  .tail (.single (.acquire n)) (.fire n)

/-- A whole attempt that fails cleanly. -/
theorem steps_giveUp (n : ℕ) : ReflTransGen Step ⟨.free, n⟩ ⟨.free, n⟩ :=
  .tail (.single (.acquire n)) (.giveUp n)

/-! ## Systems that refine a guard -/

universe u v

variable {σ : Type u} {ι : Type v} {step : σ → ι → σ}

/-- Under the invariant and the side condition, every step of the system is a path of
the guard that `abs` reads off its state. -/
structure Refines (step : σ → ι → σ) (Inv : σ → Prop) (Ok : σ → ι → Prop)
    (abs : σ → OnceGuard) : Prop where
  inv : ∀ s i, Inv s → (abs s).Sound → Ok s i → Inv (step s i)
  path : ∀ s i, Inv s → (abs s).Sound → Ok s i → ReflTransGen Step (abs s) (abs (step s i))

variable {Inv : σ → Prop} {Ok : σ → ι → Prop} {abs : σ → OnceGuard}

/-- A system that refines a guard stays sound along every admitted run. -/
theorem Refines.always_sound (h : Refines step Inv Ok abs) {s : σ} {is : List ι}
    (hs : Inv s) (hsound : (abs s).Sound) (hok : Run.Along step Ok s is) :
    Run.Always step (fun s => Inv s ∧ (abs s).Sound) s is := by
  have hstep : ∀ s i, (Inv s ∧ (abs s).Sound) → Ok s i →
      (Inv (step s i) ∧ (abs (step s i)).Sound) := fun s i hi ho =>
    ⟨h.inv s i hi.1 hi.2 ho, hi.2.steps (h.path s i hi.1 hi.2 ho)⟩
  exact Run.always_of_step hstep ⟨hs, hsound⟩ hok

/-- A sound guard that is spent stays as it is, so what a step guarantees under a spent
guard holds at every step of an admitted run. -/
theorem Refines.along_spent (h : Refines step Inv Ok abs) {Q : σ → ι → Prop} {s : σ}
    {is : List ι} (hs : Inv s) (hsound : (abs s).Sound) (hspent : (abs s).phase = .spent)
    (hQ : ∀ s i, Inv s → (abs s).phase = .spent → Ok s i → Q s i)
    (hok : Run.Along step Ok s is) : Run.Along step Q s is := by
  have hstep : ∀ s' i, (Inv s' ∧ (abs s').Sound ∧ (abs s').phase = .spent) → Ok s' i →
      (Inv (step s' i) ∧ (abs (step s' i)).Sound ∧ (abs (step s' i)).phase = .spent) ∧ Q s' i := by
    intro s' i hi ho
    have hpath := h.path s' i hi.1 hi.2.1 ho
    have hkeep : abs (step s' i) = abs s' := by
      cases hg : abs s' with
      | mk phase n =>
          have hphase : phase = .spent := by simpa [hg] using hi.2.2
          rw [hg, hphase] at hpath
          rw [steps_spent hpath, hphase]
    exact ⟨⟨h.inv s' i hi.1 hi.2.1 ho, hkeep ▸ hi.2.1, hkeep ▸ hi.2.2⟩, hQ s' i hi.1 hi.2.2 ho⟩
  exact Run.along_of_step hstep ⟨hs, hsound, hspent⟩ hok

end OnceGuard

end Aegis
