import Mathlib.Data.Int.Notation
import Mathlib.Data.List.Basic
import Std.Data.String.ToInt

/-! # Text assembled from fields and separators -/

namespace Aegis.Text

/-- `padStart(width, pad)` with a one-character pad. -/
def padStart (s : String) (width : ℕ) (pad : Char) : String :=
  String.ofList (List.replicate (width - s.toList.length) pad ++ s.toList)

theorem length_padStart {s : String} {width : ℕ} {pad : Char} (h : s.toList.length ≤ width) :
    (padStart s width pad).toList.length = width := by
  simp only [padStart, String.toList_ofList, List.length_append, List.length_replicate]
  omega

theorem mem_padStart {s : String} {width : ℕ} {pad c : Char}
    (h : c ∈ (padStart s width pad).toList) : c = pad ∨ c ∈ s.toList := by
  simp only [padStart, String.toList_ofList, List.mem_append] at h
  exact h.imp_left List.eq_of_mem_replicate

/-! ## Decimal numerals -/

theorem isDigit_of_mem_repr {n : ℕ} {c : Char} (h : c ∈ n.repr.toList) : c.isDigit := by
  rw [Nat.toList_repr] at h
  exact Nat.isDigit_of_mem_toDigits (by decide) (by decide) h

theorem notMem_repr {n : ℕ} {c : Char} (hc : c.isDigit = false) : c ∉ n.repr.toList := by
  intro h
  simp [isDigit_of_mem_repr h] at hc

theorem notMem_int_repr {z : ℤ} {c : Char} (hc : c.isDigit = false) (hminus : c ≠ '-') :
    c ∉ z.repr.toList := by
  rw [Int.repr_eq_if]
  split
  · exact notMem_repr hc
  · simpa [hminus] using notMem_repr hc

/-! ## Separators -/

theorem append_cons_inj_of_notMem {α : Type*} {c : α} {xs xs' ys ys' : List α}
    (hx : c ∉ xs) (hx' : c ∉ xs') (h : xs ++ c :: ys = xs' ++ c :: ys') :
    xs = xs' ∧ ys = ys' := by
  induction xs generalizing xs' with
  | nil =>
      cases xs' with
      | nil => simpa using h
      | cons x' xs' => exact absurd (List.cons.inj h).1 (List.ne_of_not_mem_cons hx')
  | cons x xs ih =>
      cases xs' with
      | nil => exact absurd (List.cons.inj h).1.symm (List.ne_of_not_mem_cons hx)
      | cons x' xs' =>
          obtain ⟨hhead, htail⟩ := List.cons.inj h
          obtain ⟨hxs, hys⟩ :=
            ih (List.not_mem_of_not_mem_cons hx) (List.not_mem_of_not_mem_cons hx') htail
          exact ⟨by rw [hhead, hxs], hys⟩

/-- A field free of the separator can be read back from the front. -/
theorem append_sep_inj_left {sep : String} {c : Char} (hsep : sep.toList = [c])
    {a a' b b' : String} (ha : c ∉ a.toList) (ha' : c ∉ a'.toList) :
    a ++ sep ++ b = a' ++ sep ++ b' ↔ a = a' ∧ b = b' := by
  refine ⟨fun h => ?_, by rintro ⟨rfl, rfl⟩; rfl⟩
  have hlist := congrArg String.toList h
  simp only [String.toList_append, hsep, List.append_assoc, List.singleton_append] at hlist
  obtain ⟨hleft, hright⟩ := append_cons_inj_of_notMem ha ha' hlist
  exact ⟨String.toList_inj.mp hleft, String.toList_inj.mp hright⟩

/-- A field free of the separator can be read back from the end. -/
theorem append_sep_inj_right {sep : String} {c : Char} (hsep : sep.toList = [c])
    {a a' b b' : String} (hb : c ∉ b.toList) (hb' : c ∉ b'.toList) :
    a ++ sep ++ b = a' ++ sep ++ b' ↔ a = a' ∧ b = b' := by
  refine ⟨fun h => ?_, by rintro ⟨rfl, rfl⟩; rfl⟩
  have hlist := congrArg (List.reverse ∘ String.toList) h
  simp only [Function.comp_apply, String.toList_append, hsep, List.reverse_append,
    List.reverse_singleton, List.singleton_append] at hlist
  obtain ⟨hright, hleft⟩ :=
    append_cons_inj_of_notMem (by simpa using hb) (by simpa using hb') hlist
  exact ⟨String.toList_inj.mp (List.reverse_injective hleft),
    String.toList_inj.mp (List.reverse_injective hright)⟩

end Aegis.Text
