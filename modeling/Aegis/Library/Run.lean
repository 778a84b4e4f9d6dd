import Mathlib.Data.List.Induction
import Mathlib.Data.Nat.Basic
import Mathlib.Logic.Relation

/-! # Runs of a deterministic step function -/

namespace Aegis.Run

universe u v

variable {σ : Type u} {ι : Type v} (step : σ → ι → σ)

/-- The state after a whole list of inputs. -/
def final (s : σ) (is : List ι) : σ := is.foldl step s

/-- Every input meets `Q` in the state it finds. -/
def Along (Q : σ → ι → Prop) : σ → List ι → Prop
  | _, [] => True
  | s, i :: is => Q s i ∧ Along Q (step s i) is

/-- `P` holds of the initial state and of every state reached from it. -/
def Always (P : σ → Prop) : σ → List ι → Prop
  | s, [] => P s
  | s, i :: is => P s ∧ Always P (step s i) is

/-- Some input meets `Q` in the state it finds, and the rest of the run satisfies `C`. -/
def After (Q : σ → ι → Prop) (C : σ → List ι → Prop) : σ → List ι → Prop
  | _, [] => False
  | s, i :: is => (Q s i ∧ C (step s i) is) ∨ After Q C (step s i) is

/-- Some input meets `Q` in the state it finds. -/
def Sometime (Q : σ → ι → Prop) : σ → List ι → Prop := After step Q fun _ _ => True

instance Along.decidable (Q : σ → ι → Prop) [∀ s i, Decidable (Q s i)] :
    ∀ s is, Decidable (Along step Q s is)
  | _, [] => .isTrue trivial
  | s, i :: is => haveI := Along.decidable Q (step s i) is; inferInstanceAs (Decidable (_ ∧ _))

variable {step}

@[simp] theorem final_nil (s : σ) : final step s [] = s := rfl

@[simp] theorem final_cons (s : σ) (i : ι) (is : List ι) :
    final step s (i :: is) = final step (step s i) is := rfl

@[simp] theorem along_nil (Q : σ → ι → Prop) (s : σ) : Along step Q s [] := trivial

@[simp] theorem along_cons (Q : σ → ι → Prop) (s : σ) (i : ι) (is : List ι) :
    Along step Q s (i :: is) ↔ Q s i ∧ Along step Q (step s i) is := Iff.rfl

@[simp] theorem always_nil (P : σ → Prop) (s : σ) : Always step P s [] ↔ P s := Iff.rfl

@[simp] theorem always_cons (P : σ → Prop) (s : σ) (i : ι) (is : List ι) :
    Always step P s (i :: is) ↔ P s ∧ Always step P (step s i) is := Iff.rfl

theorem final_append (s : σ) (is js : List ι) :
    final step s (is ++ js) = final step (final step s is) js := List.foldl_append

section Parts

variable {β δ : Type*} (read : σ → β) {move : β → δ → β}

/-- A part of the state that an input leaves or moves, by what it picks of the input. -/
theorem final_filterMap {pick : ι → Option δ}
    (hstep : ∀ s i, read (step s i) = (pick i).elim (read s) (move (read s))) (s : σ)
    (is : List ι) : read (final step s is) = (is.filterMap pick).foldl move (read s) := by
  induction is generalizing s with
  | nil => rfl
  | cons i is ih =>
      rw [final_cons, ih, hstep, List.filterMap_cons]
      cases pick i with
      | none => rfl
      | some d => rfl

theorem final_map_filter {p : ι → Prop} [DecidablePred p] {pick : ι → δ}
    (hstep : ∀ s i, read (step s i) = if p i then move (read s) (pick i) else read s) (s : σ)
    (is : List ι) :
    read (final step s is) = ((is.filter fun i => p i).map pick).foldl move (read s) := by
  induction is generalizing s with
  | nil => rfl
  | cons i is ih =>
      rw [final_cons, ih, hstep]
      by_cases hi : p i
      · simp [hi]
      · simp [hi]

end Parts

theorem Always.initial {P : σ → Prop} {s : σ} {is : List ι} (h : Always step P s is) : P s := by
  cases is with
  | nil => exact h
  | cons i is => exact h.1

theorem Always.last {P : σ → Prop} {s : σ} {is : List ι} (h : Always step P s is) :
    P (final step s is) := by
  induction is generalizing s with
  | nil => exact h
  | cons i is ih => exact ih h.2

theorem Always.mono {P P' : σ → Prop} (hP : ∀ s, P s → P' s) {s : σ} {is : List ι}
    (h : Always step P s is) : Always step P' s is := by
  induction is generalizing s with
  | nil => exact hP s h
  | cons i is ih => exact ⟨hP s h.1, ih h.2⟩

theorem Along.mono {Q Q' : σ → ι → Prop} (hQ : ∀ s i, Q s i → Q' s i) {s : σ} {is : List ι}
    (h : Along step Q s is) : Along step Q' s is := by
  induction is generalizing s with
  | nil => trivial
  | cons i is ih => exact ⟨hQ s i h.1, ih h.2⟩

theorem Along.and {Q Q' : σ → ι → Prop} {s : σ} {is : List ι} (h : Along step Q s is)
    (h' : Along step Q' s is) : Along step (fun s i => Q s i ∧ Q' s i) s is := by
  induction is generalizing s with
  | nil => trivial
  | cons i is ih => exact ⟨⟨h.1, h'.1⟩, ih h.2 h'.2⟩

/-- A condition on the inputs alone. -/
theorem along_of_forall {Q : ι → Prop} {is : List ι} (h : ∀ i ∈ is, Q i) (s : σ) :
    Along step (fun _ i => Q i) s is := by
  induction is generalizing s with
  | nil => trivial
  | cons i is ih => exact ⟨h i (by simp), ih (fun j hj => h j (by simp [hj])) _⟩

theorem along_append {Q : σ → ι → Prop} {s : σ} {is js : List ι} :
    Along step Q s (is ++ js) ↔ Along step Q s is ∧ Along step Q (final step s is) js := by
  induction is generalizing s with
  | nil => simp
  | cons i is ih => simp [ih, and_assoc]

/-- The invariant rule: what every admitted step preserves holds throughout the run. -/
theorem always_of_step {Inv : σ → Prop} {Ok : σ → ι → Prop}
    (hstep : ∀ s i, Inv s → Ok s i → Inv (step s i)) {s : σ} {is : List ι}
    (hs : Inv s) (hok : Along step Ok s is) : Always step Inv s is := by
  induction is generalizing s with
  | nil => exact hs
  | cons i is ih => exact ⟨hs, ih (hstep s i hs hok.1) hok.2⟩

/-- Where a step keeps `P` exactly under its condition, so does a run. -/
theorem always_iff_along {P : σ → Prop} {Q : σ → ι → Prop}
    (hstep : ∀ s i, P s → (P (step s i) ↔ Q s i)) {s : σ} {is : List ι} (hs : P s) :
    Always step P s is ↔ Along step Q s is := by
  induction is generalizing s with
  | nil => simp [hs]
  | cons i is ih =>
      rw [always_cons, along_cons, and_iff_right hs]
      constructor
      · intro h
        have hnext : P (step s i) := h.initial
        exact ⟨(hstep s i hs).mp hnext, (ih hnext).mp h⟩
      · rintro ⟨hi, h⟩
        exact (ih ((hstep s i hs).mpr hi)).mpr h

/-- The same with an invariant that every step keeps, whatever its condition. -/
theorem always_iff_along_of_inv {Inv P : σ → Prop} {Q : σ → ι → Prop}
    (hinv : ∀ s i, Inv s → Inv (step s i))
    (hstep : ∀ s i, Inv s → P s → (P (step s i) ↔ Q s i)) {s : σ} {is : List ι}
    (hs : Inv s) (hP : P s) : Always step P s is ↔ Along step Q s is := by
  induction is generalizing s with
  | nil => simp [hP]
  | cons i is ih =>
      rw [always_cons, along_cons, and_iff_right hP]
      constructor
      · intro h
        have hnext : P (step s i) := h.initial
        exact ⟨(hstep s i hs hP).mp hnext, (ih (hinv s i hs) hnext).mp h⟩
      · rintro ⟨hi, h⟩
        exact (ih (hinv s i hs) ((hstep s i hs hP).mpr hi)).mpr h

/-- Two conditions that agree where an invariant holds, which the second one keeps. -/
theorem along_iff_of_inv {Inv : σ → Prop} {Q Q' : σ → ι → Prop}
    (hiff : ∀ s i, Inv s → (Q s i ↔ Q' s i)) (hstep : ∀ s i, Inv s → Q' s i → Inv (step s i))
    {s : σ} {is : List ι} (hs : Inv s) : Along step Q s is ↔ Along step Q' s is := by
  induction is generalizing s with
  | nil => simp
  | cons i is ih =>
      rw [along_cons, along_cons, hiff s i hs]
      exact and_congr_right fun hi => ih (hstep s i hs hi)

/-- What an admitted step guarantees from the invariant holds at every step of the run. -/
theorem along_of_step {Inv : σ → Prop} {Ok Q : σ → ι → Prop}
    (hstep : ∀ s i, Inv s → Ok s i → Inv (step s i) ∧ Q s i) {s : σ} {is : List ι}
    (hs : Inv s) (hok : Along step Ok s is) : Along step Q s is := by
  induction is generalizing s with
  | nil => trivial
  | cons i is ih =>
      have h := hstep s i hs hok.1
      exact ⟨h.2, ih h.1 hok.2⟩

theorem After.exists_mem {Q : σ → ι → Prop} {C : σ → List ι → Prop} {s : σ} {is : List ι}
    (h : After step Q C s is) : ∃ r, ∃ i ∈ is, Q r i := by
  induction is generalizing s with
  | nil => exact h.elim
  | cons i is ih =>
      rcases h with ⟨hQ, -⟩ | h
      · exact ⟨s, i, by simp, hQ⟩
      · obtain ⟨r, j, hj, hQ⟩ := ih h
        exact ⟨r, j, by simp [hj], hQ⟩

/-- What only such inputs bring about, and nothing undoes. -/
theorem final_iff_sometime {P : σ → Prop} {Q : σ → ι → Prop}
    (hstep : ∀ s i, P (step s i) ↔ P s ∨ Q s i) (s : σ) (is : List ι) :
    P (final step s is) ↔ P s ∨ Sometime step Q s is := by
  induction is generalizing s with
  | nil => simp [Sometime, After]
  | cons i is ih =>
      have hsometime : Sometime step Q s (i :: is) ↔ Q s i ∨ Sometime step Q (step s i) is := by
        simp [Sometime, After]
      rw [final_cons, ih, hstep, hsometime, or_assoc]

theorem After.mono {Q Q' : σ → ι → Prop} {C C' : σ → List ι → Prop} (hQ : ∀ s i, Q s i → Q' s i)
    (hC : ∀ s is, C s is → C' s is) {s : σ} {is : List ι} (h : After step Q C s is) :
    After step Q' C' s is := by
  induction is generalizing s with
  | nil => exact h.elim
  | cons i is ih =>
      rcases h with ⟨hi, hrest⟩ | h
      · exact .inl ⟨hQ s i hi, hC _ _ hrest⟩
      · exact .inr (ih h)

/-! ### One more input -/

theorem Always.snoc {P : σ → Prop} {s : σ} {is : List ι} {i : ι} (h : Always step P s is)
    (hP : P (step (final step s is) i)) : Always step P s (is ++ [i]) := by
  induction is generalizing s with
  | nil => exact ⟨h, hP⟩
  | cons j is ih => exact ⟨h.1, ih h.2 hP⟩

theorem After.snoc {Q : σ → ι → Prop} {C : σ → List ι → Prop} {s : σ} {is : List ι} {i : ι}
    (h : After step Q C s is)
    (hC : ∀ r js, final step r js = final step s is → C r js → C r (js ++ [i])) :
    After step Q C s (is ++ [i]) := by
  induction is generalizing s with
  | nil => exact h.elim
  | cons j is ih =>
      rcases h with ⟨hQ, hrest⟩ | h
      · exact .inl ⟨hQ, hC _ _ rfl hrest⟩
      · exact .inr (ih h hC)

/-- What has always held since some input and holds after one more. -/
theorem After.always_snoc {Q : σ → ι → Prop} {P : σ → Prop} {s : σ} {is : List ι} {i : ι}
    (h : After step Q (Always step P) s is) (hP : P (step (final step s is) i)) :
    After step Q (Always step P) s (is ++ [i]) :=
  h.snoc fun _ _ hfinal hrest => hrest.snoc (hfinal ▸ hP)

theorem After.of_last {Q : σ → ι → Prop} {C : σ → List ι → Prop} {s : σ} {is : List ι} {i : ι}
    (hQ : Q (final step s is) i) (hC : C (step (final step s is) i) []) :
    After step Q C s (is ++ [i]) := by
  induction is generalizing s with
  | nil => exact .inl ⟨hQ, hC⟩
  | cons j is ih => exact .inr (ih hQ hC)

theorem Sometime.snoc {Q : σ → ι → Prop} {s : σ} {is : List ι} {i : ι}
    (h : Sometime step Q s is) : Sometime step Q s (is ++ [i]) :=
  After.snoc h fun _ _ _ _ => trivial

theorem Sometime.of_last {Q : σ → ι → Prop} {s : σ} {is : List ι} {i : ι}
    (hQ : Q (final step s is) i) : Sometime step Q s (is ++ [i]) := After.of_last hQ trivial

theorem final_snoc (s : σ) (is : List ι) (i : ι) :
    final step s (is ++ [i]) = step (final step s is) i := final_append s is [i]

end Aegis.Run
