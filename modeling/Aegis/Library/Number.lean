import Mathlib.Algebra.Order.Field.Rat
import Mathlib.Algebra.Order.Floor.Semiring
import Mathlib.Algebra.Order.Round
import Mathlib.Data.Rat.Defs
import Mathlib.Data.Rat.Floor
import Mathlib.Tactic.Linarith

/-! # Rounding as in `Math.round` and `toFixed` -/

namespace Aegis.Number

/-- `Math.round`: the nearest integer, halves towards positive infinity. -/
def mathRound (x : ℚ) : ℤ := ⌊x + 1 / 2⌋

theorem mathRound_le_iff {x : ℚ} {z : ℤ} : mathRound x ≤ z ↔ x < z + 1 / 2 := by
  rw [mathRound, Int.floor_le_iff]
  constructor
  · intro h
    linarith
  · intro h
    linarith

theorem le_mathRound_iff {x : ℚ} {z : ℤ} : z ≤ mathRound x ↔ z - 1 / 2 ≤ x := by
  rw [mathRound, Int.le_floor]
  constructor
  · intro h
    linarith
  · intro h
    linarith

@[simp] theorem mathRound_intCast (n : ℤ) : mathRound n = n := by
  rw [mathRound, Int.floor_intCast_add]
  norm_num

/-- An amount rounded to hundredths is at most `c` until half a hundredth past the last one
that is. -/
theorem round_div_le_iff {x c : ℚ} :
    (mathRound (x * 100) : ℚ) / 100 ≤ c ↔ x < (⌊c * 100⌋ + 1 / 2) / 100 := by
  rw [div_le_iff₀ (by norm_num), ← Int.le_floor, mathRound_le_iff, lt_div_iff₀ (by norm_num)]

theorem le_round_div_iff {x c : ℚ} :
    c ≤ (mathRound (x * 100) : ℚ) / 100 ↔ (⌈c * 100⌉ - 1 / 2) / 100 ≤ x := by
  rw [le_div_iff₀ (by norm_num), ← Int.ceil_le, le_mathRound_iff, div_le_iff₀ (by norm_num)]

/-- `Number(x.toFixed(2))`: two decimals, halves away from zero. -/
def toFixed2 (x : ℚ) : ℚ :=
  if x < 0 then -(mathRound (-x * 100) : ℚ) / 100 else (mathRound (x * 100) : ℚ) / 100

end Aegis.Number

/-! ## Numbers with `NaN` and the infinities

Finite numbers are exact rationals; rounding to 53 bits is not modelled. -/

namespace Aegis

inductive JsNumber where
  | nan
  | negInfinity
  | fin (q : ℚ)
  | infinity
  deriving DecidableEq, Repr

namespace JsNumber

instance : Inhabited JsNumber := ⟨nan⟩

/-- `x || 0`: `NaN` and zero are falsy. -/
def orZero : JsNumber → JsNumber
  | nan => fin 0
  | x => x

/-- What `JSON.parse(JSON.stringify(x))` leaves of a number: `null` unless it is finite. -/
def toFinite? : JsNumber → Option ℚ
  | fin q => some q
  | _ => none

/-- `x + y` for a finite `y`. -/
def addFin (x : JsNumber) (y : ℚ) : JsNumber :=
  match x with
  | fin q => fin (q + y)
  | x => x

/-- `x / y` for a finite positive `y`. -/
def divPos (x : JsNumber) (y : ℚ) : JsNumber :=
  match x with
  | fin q => fin (q / y)
  | x => x

/-- `Math.min(x, y)` for a finite `y`. -/
def minFin (x : JsNumber) (y : ℚ) : JsNumber :=
  match x with
  | nan => nan
  | negInfinity => negInfinity
  | fin q => fin (min q y)
  | infinity => fin y

/-- `Math.max(x, y)` for a finite `y`. -/
def maxFin (x : JsNumber) (y : ℚ) : JsNumber :=
  match x with
  | nan => nan
  | negInfinity => fin y
  | fin q => fin (max q y)
  | infinity => infinity

/-- `x >= y`; every comparison with `NaN` is false. -/
def geFin (x : JsNumber) (y : ℚ) : Bool :=
  match x with
  | nan | negInfinity => false
  | fin q => y ≤ q
  | infinity => true

/-- `x > y`. -/
def gtFin (x : JsNumber) (y : ℚ) : Bool :=
  match x with
  | nan | negInfinity => false
  | fin q => y < q
  | infinity => true

/-- `Math.max(lo, Math.min(hi, x))`. -/
def clamp (lo hi : ℚ) (x : JsNumber) : JsNumber := (x.minFin hi).maxFin lo

@[simp] theorem clamp_nan (lo hi : ℚ) : clamp lo hi nan = nan := rfl

@[simp] theorem clamp_fin (lo hi q : ℚ) : clamp lo hi (fin q) = fin (max (min q hi) lo) := rfl

end JsNumber

end Aegis
