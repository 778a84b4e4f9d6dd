import Mathlib.Algebra.Order.Group.Defs
import Mathlib.Data.List.Induction
import Mathlib.Order.Basic

/-! # Throttled inputs

An input fires when the last one of its key that fired is at least an interval ago. Firings of a key
are an interval apart, and an input that does not fire has one less than an interval before it. -/

namespace Aegis.Throttle

variable {ι κ α : Type*} [AddCommGroup α] [LinearOrder α] [DecidableEq κ]

section Definitions

variable (key : ι → κ) (time : ι → α) (interval : α)

/-- `last` has the instant of the last firing of each key. -/
def Fires (last : κ → α) (i : ι) : Prop := interval ≤ time i - last (key i)

instance (last : κ → α) (i : ι) : Decidable (Fires key time interval last i) :=
  inferInstanceAs (Decidable (_ ≤ _))

def advance (last : κ → α) (i : ι) : κ → α :=
  if Fires key time interval last i then Function.update last (key i) (time i) else last

/-- The inputs that fire. -/
def fired : (κ → α) → List ι → List ι
  | _, [] => []
  | last, i :: is =>
      (if Fires key time interval last i then [i] else []) ++
        fired (advance key time interval last i) is

end Definitions

variable {key : ι → κ} {time : ι → α} {interval : α} {last : κ → α} {is : List ι}

@[simp] theorem fired_nil (last : κ → α) : fired key time interval last [] = [] := rfl

theorem fired_cons (last : κ → α) (i : ι) (is : List ι) :
    fired key time interval last (i :: is) =
      fired key time interval last [i] ++
        fired key time interval (advance key time interval last i) is := by
  rw [fired, fired, fired_nil, List.append_nil]

theorem fired_of_fires {i : ι} (h : Fires key time interval last i) :
    fired key time interval last (i :: is) =
      i :: fired key time interval (Function.update last (key i) (time i)) is := by
  rw [fired, if_pos h, advance, if_pos h]
  rfl

theorem fired_of_not_fires {i : ι} (h : ¬Fires key time interval last i) :
    fired key time interval last (i :: is) = fired key time interval last is := by
  rw [fired, if_neg h, advance, if_neg h]
  rfl

theorem fired_sublist (last : κ → α) (is : List ι) :
    (fired key time interval last is).Sublist is := by
  induction is generalizing last with
  | nil => exact List.Sublist.refl []
  | cons i is ih =>
      by_cases h : Fires key time interval last i
      · rw [fired_of_fires h]
        exact (ih _).cons_cons i
      · rw [fired_of_not_fires h]
        exact (ih _).cons i

variable [IsOrderedAddMonoid α]

/-- No firing of a key is within an interval of the last one before. -/
theorem last_add_le (h0 : 0 ≤ interval) {j : ι} (hj : j ∈ fired key time interval last is) :
    last (key j) + interval ≤ time j := by
  induction is generalizing last with
  | nil => cases hj
  | cons i is ih =>
      by_cases h : Fires key time interval last i
      · have hfires : last (key i) + interval ≤ time i := add_comm (last (key i)) interval ▸
          add_le_of_le_sub_right h
        rw [fired_of_fires h] at hj
        rcases List.mem_cons.mp hj with rfl | hj
        · exact hfires
        · have hrest := ih hj
          by_cases hkey : key j = key i
          · rw [hkey, Function.update_self] at hrest
            calc last (key j) + interval ≤ time i := hkey ▸ hfires
              _ ≤ time i + interval := le_add_of_nonneg_right h0
              _ ≤ time j := hrest
          · rwa [Function.update_of_ne hkey] at hrest
      · rw [fired_of_not_fires h] at hj
        exact ih hj

/-- Firings of one key are an interval apart. -/
theorem spaced (h0 : 0 ≤ interval) (last : κ → α) (is : List ι) :
    (fired key time interval last is).Pairwise
      fun i j => key i = key j → time i + interval ≤ time j := by
  induction is generalizing last with
  | nil => exact List.Pairwise.nil
  | cons i is ih =>
      by_cases h : Fires key time interval last i
      · rw [fired_of_fires h]
        refine List.pairwise_cons.mpr ⟨fun j hj hkey => ?_, ih _⟩
        have hlast := last_add_le h0 hj
        rwa [← hkey, Function.update_self] at hlast
      · rw [fired_of_not_fires h]
        exact ih _

/-- In no interval does a key fire twice. -/
theorem at_most_one (h0 : 0 ≤ interval) (last : κ → α) (is : List ι) (k : κ) (start : α) :
    ((fired key time interval last is).filter fun i =>
      key i = k ∧ start ≤ time i ∧ time i < start + interval).length ≤ 1 := by
  have hspaced : ((fired key time interval last is).filter fun i =>
      key i = k ∧ start ≤ time i ∧ time i < start + interval).Pairwise
      fun i j => key i = key j → time i + interval ≤ time j :=
    (spaced h0 last is).filter _
  cases hfilter : (fired key time interval last is).filter fun i =>
      decide (key i = k ∧ start ≤ time i ∧ time i < start + interval) with
  | nil => exact Nat.zero_le 1
  | cons i rest =>
      cases rest with
      | nil => exact le_rfl
      | cons j rest =>
          have hwithin : ∀ x ∈ [i, j], key x = k ∧ start ≤ time x ∧ time x < start + interval := by
            intro x hx
            have hmem : x ∈ (fired key time interval last is).filter fun i =>
                decide (key i = k ∧ start ≤ time i ∧ time i < start + interval) := by
              rw [hfilter]
              simp only [List.mem_cons, List.not_mem_nil, or_false] at hx
              rcases hx with rfl | rfl <;> simp
            exact of_decide_eq_true (List.mem_filter.mp hmem).2
          obtain ⟨hi, hstart, -⟩ := hwithin i (by simp)
          obtain ⟨hj, -, hend⟩ := hwithin j (by simp)
          rw [hfilter] at hspaced
          have hapart := List.rel_of_pairwise_cons hspaced (by simp) (hi.trans hj.symm)
          have hlate : start + interval ≤ time j := (add_le_add_left hstart interval).trans hapart
          exact absurd hend hlate.not_gt

/-- An input fires, or follows one of its key that fired less than an interval before. -/
theorem covered (hsorted : is.Pairwise fun i j => time i ≤ time j) {i : ι} (hi : i ∈ is)
    (hstart : last (key i) + interval ≤ time i) (h0 : 0 < interval) :
    ∃ j ∈ fired key time interval last is, key j = key i ∧ time j ≤ time i ∧
      time i < time j + interval := by
  induction is generalizing last with
  | nil => cases hi
  | cons j is ih =>
      obtain ⟨hfirst, hsorted⟩ := List.pairwise_cons.mp hsorted
      by_cases h : Fires key time interval last j
      · rw [fired_of_fires h]
        rcases List.mem_cons.mp hi with rfl | hi
        · exact ⟨i, List.mem_cons_self, rfl, le_rfl, lt_add_of_pos_right _ h0⟩
        · by_cases hkey : key i = key j
          · by_cases hlate : time i < time j + interval
            · exact ⟨j, List.mem_cons_self, hkey.symm, hfirst i hi, hlate⟩
            · have hnext : Function.update last (key j) (time j) (key i) + interval ≤ time i := by
                rw [hkey, Function.update_self]
                exact not_lt.mp hlate
              obtain ⟨m, hm, hrest⟩ := ih hsorted hi hnext
              exact ⟨m, List.mem_cons_of_mem j hm, hrest⟩
          · have hnext : Function.update last (key j) (time j) (key i) + interval ≤ time i := by
              rwa [Function.update_of_ne hkey]
            obtain ⟨m, hm, hrest⟩ := ih hsorted hi hnext
            exact ⟨m, List.mem_cons_of_mem j hm, hrest⟩
      · rw [fired_of_not_fires h]
        rcases List.mem_cons.mp hi with rfl | hi
        · have hfires : Fires key time interval last i := le_sub_iff_add_le'.mpr hstart
          exact absurd hfires h
        · exact ih hsorted hi hstart

end Aegis.Throttle
