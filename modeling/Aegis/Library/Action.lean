import Mathlib.Logic.Basic

/-! # Actions on a state that may fail

What an action wrote before it failed stays written. A triple gives one postcondition for
a normal result and one for a failure; its rules follow the shape of the program. -/

namespace Aegis

universe u v w

def Action (σ : Type u) (ε : Type v) (α : Type w) := σ → Except ε α × σ

namespace Action

variable {σ : Type u} {ε : Type v} {α β : Type w}

instance : Monad (Action σ ε) where
  pure a := fun s => (.ok a, s)
  bind m f := fun s =>
    match m s with
    | (.ok a, s') => f a s'
    | (.error e, s') => (.error e, s')

def throw (e : ε) : Action σ ε α := fun s => (.error e, s)

/-- A condition that must hold. -/
def require (p : Prop) [Decidable p] (e : ε) : Action σ ε PUnit :=
  if p then pure ⟨⟩ else throw e

/-- A value that must exist. -/
def orThrow (x : Option α) (e : ε) : Action σ ε α :=
  match x with
  | some a => pure a
  | none => throw e

/-- A computation that neither reads nor writes the state. -/
def lift (x : Except ε α) : Action σ ε α := fun s => (x, s)

/-- An action on one component of the state. -/
def focus {τ : Type u} (view : σ → τ) (put : τ → σ → σ) (m : Action τ ε α) : Action σ ε α :=
  fun s => ((m (view s)).1, put (m (view s)).2 s)

theorem bind_of_ok {m : Action σ ε α} {f : α → Action σ ε β} {s s' : σ} {a : α}
    (hm : m s = (.ok a, s')) : (m >>= f) s = f a s' := by
  simp only [Bind.bind, hm]

theorem lift_ok_bind (a : α) (f : α → Action σ ε β) (s : σ) :
    ((lift (.ok a) : Action σ ε α) >>= f) s = f a s := rfl

theorem bind_of_error {m : Action σ ε α} {f : α → Action σ ε β} {s s' : σ} {e : ε}
    (hm : m s = (.error e, s')) : (m >>= f) s = (.error e, s') := by
  simp only [Bind.bind, hm]

/-- From a state with `P`, a normal result satisfies `Q` and a failure leaves a state with `E`. -/
structure Triple (P : σ → Prop) (m : Action σ ε α) (Q : α → σ → Prop) (E : σ → Prop) : Prop where
  ok : ∀ {s a s'}, P s → m s = (.ok a, s') → Q a s'
  error : ∀ {s e s'}, P s → m s = (.error e, s') → E s'

namespace Triple

variable {P P' : σ → Prop} {Q Q' : α → σ → Prop} {R : β → σ → Prop} {E E' : σ → Prop}
  {m : Action σ ε α} {f : α → Action σ ε β} {s s' : σ}

/-- A postcondition that both outcomes share holds of the state left behind. -/
theorem final (h : Triple P m (fun _ => E) E) (hs : P s) : E (m s).2 := by
  rcases hm : m s with ⟨x, s'⟩
  cases x with
  | error e => exact h.error hs hm
  | ok a => exact h.ok hs hm

theorem conseq (h : Triple P m Q E) (hP : ∀ s, P' s → P s) (hQ : ∀ a s, Q a s → Q' a s)
    (hE : ∀ s, E s → E' s) : Triple P' m Q' E' :=
  ⟨fun hs hm => hQ _ _ (h.ok (hP _ hs) hm), fun hs hm => hE _ (h.error (hP _ hs) hm)⟩

theorem pre (h : Triple P m Q E) (hP : ∀ s, P' s → P s) : Triple P' m Q E :=
  h.conseq hP (fun _ _ hQ => hQ) fun _ hE => hE

theorem post (h : Triple P m Q E) (hQ : ∀ a s, Q a s → Q' a s) : Triple P m Q' E :=
  h.conseq (fun _ hP => hP) hQ fun _ hE => hE

theorem bind (h : Triple P m Q E) (hf : ∀ a, Triple (Q a) (f a) R E) :
    Triple P (m >>= f) R E := by
  constructor
  · intro s b s'' hs hb
    rcases hm : m s with ⟨x, s'⟩
    cases x with
    | error e =>
        rw [bind_of_error hm] at hb
        cases hb
    | ok a =>
        rw [bind_of_ok hm] at hb
        exact (hf a).ok (h.ok hs hm) hb
  · intro s e s'' hs he
    rcases hm : m s with ⟨x, s'⟩
    cases x with
    | error e' =>
        rw [bind_of_error hm] at he
        cases he
        exact h.error hs hm
    | ok a =>
        rw [bind_of_ok hm] at he
        exact (hf a).error (h.ok hs hm) he

/-- Nothing asked, nothing promised. -/
theorem trivial : Triple P m (fun _ _ => True) (fun _ => True) :=
  ⟨fun _ _ => True.intro, fun _ _ => True.intro⟩

/-- What comes after a failure is not run. -/
theorem unreachable : Triple (fun _ => False) m Q E := ⟨fun h => h.elim, fun h => h.elim⟩

theorem pure {a : α} (h : ∀ s, P s → Q a s) : Triple P (Pure.pure a : Action σ ε α) Q E := by
  constructor
  · intro s b s' hs hb
    cases hb
    exact h s hs
  · intro s e s' _ he
    cases he

theorem throw {e : ε} (h : ∀ s, P s → E s) : Triple P (Action.throw e : Action σ ε α) Q E := by
  constructor
  · intro s a s' _ ha
    cases ha
  · intro s e' s' hs he
    cases he
    exact h s hs

/-- A fact that does not depend on the state may be assumed before the action is run. -/
theorem intro {p : Prop} (h : p → Triple P m Q E) : Triple (fun s => p ∧ P s) m Q E :=
  ⟨fun hs hm => (h hs.1).ok hs.2 hm, fun hs hm => (h hs.1).error hs.2 hm⟩

/-- What follows a check may rely on it. -/
theorem require_bind {p : Prop} [Decidable p] {e : ε} {f : PUnit → Action σ ε β}
    (hE : ∀ s, P s → E s) (h : p → Triple P (f ⟨⟩) R E) :
    Triple P (Action.require p e >>= f) R E := by
  have hcheck : Triple P (Action.require p e) (fun _ s => p ∧ P s) E := by
    unfold Action.require
    split
    · rename_i hp
      exact Triple.pure fun s hs => ⟨hp, hs⟩
    · exact Triple.throw hE
  exact hcheck.bind fun _ => Triple.intro h

/-- A check that is known to pass. -/
theorem require_bind_of {p : Prop} [Decidable p] {e : ε} {f : PUnit → Action σ ε β} (hp : p)
    (h : Triple P (f ⟨⟩) R E) : Triple P (Action.require p e >>= f) R E := by
  unfold Action.require
  rw [if_pos hp]
  exact h

theorem orThrow {x : Option α} {e : ε} (hE : ∀ s, P s → E s) :
    Triple P (Action.orThrow x e) (fun a s => x = some a ∧ P s) E := by
  cases x with
  | none => exact Triple.throw hE
  | some a => exact Triple.pure fun s hs => ⟨rfl, hs⟩

theorem orThrow_bind {x : Option α} {e : ε} (hE : ∀ s, P s → E s)
    (h : ∀ a, x = some a → Triple P (f a) R E) : Triple P (Action.orThrow x e >>= f) R E :=
  (Triple.orThrow hE).bind fun a => Triple.intro (h a)

/-- A value that is known to exist. -/
theorem orThrow_bind_of {x : Option α} {e : ε} {a : α} (hx : x = some a)
    (h : Triple P (f a) R E) : Triple P (Action.orThrow x e >>= f) R E := by
  subst hx
  exact h

theorem lift {x : Except ε α} (hE : ∀ s, P s → E s) :
    Triple P (Action.lift x) (fun a s => x = .ok a ∧ P s) E := by
  cases x with
  | error e => exact Triple.throw hE
  | ok a => exact Triple.pure fun s hs => ⟨rfl, hs⟩

theorem lift_bind {x : Except ε α} (hE : ∀ s, P s → E s)
    (h : ∀ a, x = .ok a → Triple P (f a) R E) : Triple P (Action.lift x >>= f) R E :=
  (Triple.lift hE).bind fun a => Triple.intro (h a)

theorem ite {p : Prop} [Decidable p] {m' : Action σ ε α} (h : p → Triple P m Q E)
    (h' : ¬p → Triple P m' Q E) : Triple P (if p then m else m') Q E := by
  split
  · exact h ‹_›
  · exact h' ‹_›

/-- Actions on a component prove what they do to that component. -/
theorem focus {τ : Type u} {view : σ → τ} {put : τ → σ → σ} {n : Action τ ε α}
    {Pτ : τ → Prop} {Qτ : α → τ → Prop} {Eτ : τ → Prop} (h : Triple Pτ n Qτ Eτ)
    (hP : ∀ s, P s → Pτ (view s)) (hQ : ∀ s a t, P s → Qτ a t → Q a (put t s))
    (hE : ∀ s t, P s → Eτ t → E (put t s)) : Triple P (Action.focus view put n) Q E := by
  constructor
  · intro s a s' hs ha
    rcases hn : n (view s) with ⟨x, t⟩
    simp only [Action.focus, hn, Prod.mk.injEq] at ha
    obtain ⟨rfl, rfl⟩ := ha
    exact hQ s a t hs (h.ok (hP s hs) hn)
  · intro s e s' hs he
    rcases hn : n (view s) with ⟨x, t⟩
    simp only [Action.focus, hn, Prod.mk.injEq] at he
    obtain ⟨rfl, rfl⟩ := he
    exact hE s t hs (h.error (hP s hs) hn)

end Triple

/-- Whatever the outcome, `I` still holds. -/
def Keeps (I : σ → Prop) (m : Action σ ε α) : Prop := Triple I m (fun _ => I) I

namespace Keeps

variable {I : σ → Prop} {m : Action σ ε α} {f : α → Action σ ε β}

/-- Both outcomes leave one state. -/
theorem of_final (h : ∀ s, I s → I (m s).2) : Keeps I m := by
  constructor
  · intro s a s' hs hm
    have hleft := h s hs
    rwa [hm] at hleft
  · intro s e s' hs hm
    have hleft := h s hs
    rwa [hm] at hleft

theorem final (h : Keeps I m) {s : σ} (hs : I s) : I (m s).2 := Triple.final h hs

theorem bind (h : Keeps I m) (hf : ∀ a, Keeps I (f a)) : Keeps I (m >>= f) := Triple.bind h hf

theorem pure {a : α} : Keeps I (Pure.pure a : Action σ ε α) := Triple.pure fun _ hs => hs

theorem throw {e : ε} : Keeps I (Action.throw e : Action σ ε α) := Triple.throw fun _ hs => hs

theorem require {p : Prop} [Decidable p] {e : ε} :
    Keeps I (Action.require p e : Action σ ε PUnit) := by
  unfold Action.require
  split
  · exact Keeps.pure
  · exact Keeps.throw

theorem orThrow {x : Option α} {e : ε} : Keeps I (Action.orThrow x e : Action σ ε α) :=
  (Triple.orThrow fun _ hs => hs).post fun _ _ hs => hs.2

theorem lift {x : Except ε α} : Keeps I (Action.lift x : Action σ ε α) :=
  (Triple.lift fun _ hs => hs).post fun _ _ hs => hs.2

end Keeps

end Action

end Aegis
