import Mathlib.Data.List.Basic
import Mathlib.Data.List.Range

/-! # Loops that may break off

A body either goes on with the next input or leaves the loop. A `while` loop is a loop over
the numbers of its turns, of which there must be enough. -/

namespace Aegis.Loop

universe u v

/-- How a turn ends. -/
inductive Flow (σ : Type u) where
  | next (s : σ)
  | stop (s : σ)

/-- The state a turn leaves, whichever way it ends. -/
def Flow.state {σ : Type u} : Flow σ → σ
  | .next s | .stop s => s

@[simp] theorem Flow.state_next {σ : Type u} (s : σ) : (Flow.next s).state = s := rfl

@[simp] theorem Flow.state_stop {σ : Type u} (s : σ) : (Flow.stop s).state = s := rfl

variable {σ : Type u} {ι : Type v} (body : ι → σ → Flow σ)

def run : List ι → σ → σ
  | [], s => s
  | i :: is, s =>
      match body i s with
      | .next s' => run is s'
      | .stop s' => s'

/-- `Q` holds at each turn that is begun. -/
def Turns (Q : ι → σ → Prop) : List ι → σ → Prop
  | [], _ => True
  | i :: is, s => Q i s ∧ ∀ s', body i s = .next s' → Turns Q is s'

variable {body}

@[simp] theorem run_nil (s : σ) : run body [] s = s := rfl

theorem run_cons_next {i : ι} {is : List ι} {s s' : σ} (h : body i s = .next s') :
    run body (i :: is) s = run body is s' := by
  simp only [run, h]

theorem run_cons_stop {i : ι} {is : List ι} {s s' : σ} (h : body i s = .stop s') :
    run body (i :: is) s = s' := by
  simp only [run, h]

theorem turns_of_forall {Q : ι → σ → Prop} (h : ∀ i s, Q i s) (is : List ι) (s : σ) :
    Turns body Q is s := by
  induction is generalizing s with
  | nil => trivial
  | cons i is ih => exact ⟨h i s, fun s' _ => ih s'⟩

/-- What each turn preserves under its condition, the loop preserves. -/
theorem run_invariant (Inv : σ → Prop) {Q : ι → σ → Prop}
    (hturn : ∀ i s, Inv s → Q i s → Inv (body i s).state) {is : List ι} {s : σ} (hs : Inv s)
    (hQ : Turns body Q is s) : Inv (run body is s) := by
  induction is generalizing s with
  | nil => exact hs
  | cons i is ih =>
      have hnext := hturn i s hs hQ.1
      cases hbody : body i s with
      | next s' =>
          rw [hbody] at hnext
          rw [run_cons_next hbody]
          exact ih hnext (hQ.2 s' hbody)
      | stop s' =>
          rw [hbody] at hnext
          rw [run_cons_stop hbody]
          exact hnext

/-- What each turn preserves, the loop preserves. -/
theorem run_preserves (Inv : σ → Prop) {is : List ι}
    (hturn : ∀ i ∈ is, ∀ s, Inv s → Inv (body i s).state) {s : σ} (hs : Inv s) :
    Inv (run body is s) := by
  induction is generalizing s with
  | nil => exact hs
  | cons i is ih =>
      have hnext := hturn i (by simp) s hs
      have hrest : ∀ j ∈ is, ∀ s, Inv s → Inv (body j s).state :=
        fun j hj => hturn j (by simp [hj])
      cases hbody : body i s with
      | next s' =>
          rw [hbody] at hnext
          rw [run_cons_next hbody]
          exact ih hrest hnext
      | stop s' =>
          rw [hbody] at hnext
          rw [run_cons_stop hbody]
          exact hnext

/-- An invariant that knows the inputs still to come. -/
theorem run_remaining (Inv : List ι → σ → Prop) {Post : σ → Prop} {Q : ι → σ → Prop}
    (hnil : ∀ s, Inv [] s → Post s)
    (hnext : ∀ i is s s', Inv (i :: is) s → Q i s → body i s = .next s' → Inv is s')
    (hstop : ∀ i is s s', Inv (i :: is) s → Q i s → body i s = .stop s' → Post s')
    {is : List ι} {s : σ} (hs : Inv is s) (hQ : Turns body Q is s) : Post (run body is s) := by
  induction is generalizing s with
  | nil => exact hnil s hs
  | cons i is ih =>
      cases hbody : body i s with
      | next s' =>
          rw [run_cons_next hbody]
          exact ih (hnext i is s s' hs hQ.1 hbody) (hQ.2 s' hbody)
      | stop s' =>
          rw [run_cons_stop hbody]
          exact hstop i is s s' hs hQ.1 hbody

end Aegis.Loop
