import Mathlib.Algebra.Order.Floor.Ring
import Mathlib.Algebra.Order.Round
import Mathlib.Algebra.Ring.Int.Parity
import Mathlib.Data.Rat.Floor
import Mathlib.Tactic.FieldSimp
import Mathlib.Tactic.Linarith
import Mathlib.Tactic.NormNum
import Mathlib.Tactic.Positivity

/-! # Rounding to decimals, halves to the even neighbour -/

namespace Aegis.HalfEven

variable {K : Type*} [Field K] [LinearOrder K] [FloorRing K]

/-- The nearest integer; halfway between two of them, the even one. -/
def roundEven (x : K) : ℤ :=
  if Int.fract x < 1 / 2 then ⌊x⌋
  else if 1 / 2 < Int.fract x then ⌊x⌋ + 1
  else if Even ⌊x⌋ then ⌊x⌋
  else ⌊x⌋ + 1

theorem floor_le_roundEven (x : K) : ⌊x⌋ ≤ roundEven x := by
  unfold roundEven
  split_ifs <;> omega

theorem roundEven_le_floor_add_one (x : K) : roundEven x ≤ ⌊x⌋ + 1 := by
  unfold roundEven
  split_ifs <;> omega

theorem roundEven_le_floor_iff (x : K) :
    roundEven x ≤ ⌊x⌋ ↔ Int.fract x < 1 / 2 ∨ Int.fract x = 1 / 2 ∧ Even ⌊x⌋ := by
  rcases lt_trichotomy (Int.fract x) (1 / 2) with hlt | heq | hgt
  · rw [roundEven, if_pos hlt]
    exact iff_of_true le_rfl (.inl hlt)
  · rw [roundEven, if_neg heq.not_lt, if_neg heq.not_gt]
    by_cases heven : Even ⌊x⌋
    · rw [if_pos heven]
      exact iff_of_true le_rfl (.inr ⟨heq, heven⟩)
    · rw [if_neg heven]
      exact iff_of_false (by omega) (by simp [heq, heven])
  · rw [roundEven, if_neg hgt.not_gt, if_pos hgt]
    refine iff_of_false (by omega) ?_
    rintro (h | ⟨h, -⟩)
    · exact absurd h hgt.not_gt
    · exact absurd h hgt.ne'

variable [IsStrictOrderedRing K]

theorem roundEven_le_iff {x : K} {z : ℤ} :
    roundEven x ≤ z ↔ x < z + 1 / 2 ∨ x = z + 1 / 2 ∧ Even z := by
  have hx : (⌊x⌋ : K) + Int.fract x = x := Int.floor_add_fract x
  have hnonneg : 0 ≤ Int.fract x := Int.fract_nonneg x
  have hlt : Int.fract x < 1 := Int.fract_lt_one x
  rcases lt_trichotomy ⌊x⌋ z with hz | hz | hz
  · have hcast : (⌊x⌋ : K) + 1 ≤ z := by exact_mod_cast hz
    have hround : roundEven x ≤ z := (roundEven_le_floor_add_one x).trans hz
    have hbelow : x < z + 1 / 2 := by linarith
    exact iff_of_true hround (.inl hbelow)
  · subst hz
    rw [roundEven_le_floor_iff]
    constructor
    · rintro (h | ⟨h, heven⟩)
      · exact .inl (by linarith)
      · exact .inr ⟨by linarith, heven⟩
    · rintro (h | ⟨h, heven⟩)
      · exact .inl (by linarith)
      · exact .inr ⟨by linarith, heven⟩
  · have hcast : (z : K) + 1 ≤ ⌊x⌋ := by exact_mod_cast hz
    have hround : ¬roundEven x ≤ z := not_le.mpr (hz.trans_le (floor_le_roundEven x))
    have habove : z + 1 / 2 < x := by linarith
    refine iff_of_false hround ?_
    rintro (h | ⟨h, -⟩)
    · exact absurd h (not_lt.mpr habove.le)
    · exact absurd h habove.ne'

theorem le_roundEven_iff {x : K} {z : ℤ} :
    z ≤ roundEven x ↔ z - 1 / 2 < x ∨ x = z - 1 / 2 ∧ Even z := by
  have hcast : ((z - 1 : ℤ) : K) + 1 / 2 = z - 1 / 2 := by
    push_cast
    ring
  have hparity : ¬Even (z - 1) ↔ Even z := by
    rw [Int.even_sub_one, not_not]
  have hle : z ≤ roundEven x ↔ ¬roundEven x ≤ z - 1 := by omega
  rw [hle, roundEven_le_iff, hcast, not_or, not_lt, not_and, hparity]
  constructor
  · rintro ⟨hxz, heven⟩
    rcases hxz.lt_or_eq with h | h
    · exact .inl h
    · exact .inr ⟨h.symm, heven h.symm⟩
  · rintro (h | ⟨h, heven⟩)
    · exact ⟨h.le, fun heq => absurd heq h.ne'⟩
    · exact ⟨h.ge, fun _ => heven⟩

theorem roundEven_mono {x y : K} (hxy : x ≤ y) : roundEven x ≤ roundEven y := by
  rcases roundEven_le_iff.mp (le_refl (roundEven y)) with h | ⟨h, heven⟩
  · exact roundEven_le_iff.mpr (.inl (hxy.trans_lt h))
  · rcases hxy.lt_or_eq with hlt | rfl
    · exact roundEven_le_iff.mpr (.inl (hlt.trans_le h.le))
    · exact le_rfl

@[simp] theorem roundEven_intCast (z : ℤ) : roundEven (z : K) = z := by
  simp [roundEven]

/-- `round(x, digits)`. -/
def roundTo (digits : ℕ) (x : K) : K := (roundEven (x * 10 ^ digits) : K) / 10 ^ digits

section RoundTo

variable (digits : ℕ)

theorem roundTo_mono : Monotone (roundTo digits : K → K) := by
  intro x y hxy
  have hscale : x * 10 ^ digits ≤ y * 10 ^ digits :=
    mul_le_mul_of_nonneg_right hxy (by positivity)
  exact div_le_div_of_nonneg_right (by exact_mod_cast roundEven_mono hscale) (by positivity)

/-- A number with few enough decimals stays as it is. -/
theorem roundTo_of_intCast {x : K} {z : ℤ} (h : x * 10 ^ digits = z) : roundTo digits x = x := by
  rw [roundTo, h, roundEven_intCast, ← h]
  field_simp

@[simp] theorem roundTo_intCast (z : ℤ) : roundTo digits (z : K) = z := by
  refine roundTo_of_intCast digits (z := z * 10 ^ digits) ?_
  push_cast
  rfl

@[simp] theorem roundTo_natCast (n : ℕ) : roundTo digits (n : K) = n := by
  have hint : roundTo digits ((n : ℤ) : K) = ((n : ℤ) : K) := roundTo_intCast digits n
  simpa using hint

@[simp] theorem roundTo_zero : roundTo digits (0 : K) = 0 := by
  have hzero : roundTo digits ((0 : ℕ) : K) = ((0 : ℕ) : K) := roundTo_natCast digits 0
  simpa using hzero

@[simp] theorem roundTo_one : roundTo digits (1 : K) = 1 := by
  have hone : roundTo digits ((1 : ℕ) : K) = ((1 : ℕ) : K) := roundTo_natCast digits 1
  simpa using hone

theorem roundTo_le_of_le {x : K} {n : ℕ} (h : x ≤ n) : roundTo digits x ≤ n := by
  have hround := roundTo_mono digits h
  rwa [roundTo_natCast] at hround

theorem le_roundTo_of_le {x : K} {n : ℕ} (h : (n : K) ≤ x) : (n : K) ≤ roundTo digits x := by
  have hround := roundTo_mono digits h
  rwa [roundTo_natCast] at hround

theorem roundTo_nonneg {x : K} (h : 0 ≤ x) : 0 ≤ roundTo digits x := by
  have hround := roundTo_mono digits h
  rwa [roundTo_zero] at hround

theorem roundTo_le_one {x : K} (h : x ≤ 1) : roundTo digits x ≤ 1 := by
  have hround := roundTo_mono digits h
  rwa [roundTo_one] at hround

end RoundTo

/-- A whole number has an even number of hundredths, so that halfway to it counts. -/
theorem roundTo_two_le_iff {x : K} {n : ℤ} : roundTo 2 x ≤ n ↔ x ≤ n + 1 / 200 := by
  have hcast : ((n * 100 : ℤ) : K) = n * 100 := by push_cast; rfl
  have heven : Even (n * 100) := Even.mul_left (by decide) n
  have hle : roundTo 2 x ≤ n ↔ roundEven (x * 10 ^ 2) ≤ n * 100 := by
    rw [roundTo, div_le_iff₀ (by norm_num), ← Int.cast_le (R := K), hcast]
    norm_num
  rw [hle, roundEven_le_iff, hcast]
  simp only [heven, and_true, ← le_iff_lt_or_eq]
  constructor
  · intro h
    linarith
  · intro h
    linarith

theorem le_roundTo_two_iff {x : K} {n : ℤ} : n ≤ roundTo 2 x ↔ n - 1 / 200 ≤ x := by
  have hcast : ((n * 100 : ℤ) : K) = n * 100 := by push_cast; rfl
  have heven : Even (n * 100) := Even.mul_left (by decide) n
  have hle : n ≤ roundTo 2 x ↔ n * 100 ≤ roundEven (x * 10 ^ 2) := by
    rw [roundTo, le_div_iff₀ (by norm_num), ← Int.cast_le (R := K), hcast]
    norm_num
  rw [hle, le_roundEven_iff, hcast]
  simp only [heven, and_true, eq_comm (a := x * 10 ^ 2), ← le_iff_lt_or_eq]
  constructor
  · intro h
    linarith
  · intro h
    linarith

end Aegis.HalfEven
