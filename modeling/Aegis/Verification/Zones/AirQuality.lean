import Aegis.Model.Features
import Aegis.Verification.Zones.Severity

/-! # The index of a concentration

On the grid to which a concentration is rounded the rows of the table follow each other without
a gap, and the index rises with it. Below the table it is 500, as above. -/

namespace Aegis.AqiService

open HalfEven
open PipelineService (FeatureResponse checkParametricOverrides)
open Zones (checkParametricOverrides_eq_none_iff)

/-! ## Tables that rise -/

/-- A multiple of the step. -/
def OnGrid (step c : ℚ) : Prop := (c / step).den = 1

structure ValidRow (step : ℚ) (b : Breakpoint) : Prop where
  spans : b.c_lo < b.c_hi
  rises : b.i_lo ≤ b.i_hi
  grid : OnGrid step b.c_hi
  low : roundTo 1 b.i_lo = b.i_lo
  high : roundTo 1 b.i_hi = b.i_hi
  top : b.i_hi ≤ 500

/-- The next row begins one step after the end of the one before. -/
def Follows (step : ℚ) (b next : Breakpoint) : Prop :=
  next.c_lo = b.c_hi + step ∧ b.i_hi ≤ next.i_lo

structure Rises (step : ℚ) (bp : List Breakpoint) : Prop where
  rows : ∀ b ∈ bp, ValidRow step b
  chain : bp.IsChain (Follows step)

instance (step c : ℚ) : Decidable (OnGrid step c) := inferInstanceAs (Decidable (_ = _))

instance (step : ℚ) (b : Breakpoint) : Decidable (ValidRow step b) :=
  decidable_of_iff (b.c_lo < b.c_hi ∧ b.i_lo ≤ b.i_hi ∧ OnGrid step b.c_hi ∧
      roundTo 1 b.i_lo = b.i_lo ∧ roundTo 1 b.i_hi = b.i_hi ∧ b.i_hi ≤ 500)
    ⟨fun h => ⟨h.1, h.2.1, h.2.2.1, h.2.2.2.1, h.2.2.2.2.1, h.2.2.2.2.2⟩,
      fun h => ⟨h.spans, h.rises, h.grid, h.low, h.high, h.top⟩⟩

instance (step : ℚ) : DecidableRel (Follows step) := fun _ _ => inferInstanceAs (Decidable (_ ∧ _))

theorem pm25_rises : Rises (1 / 10) pm25Breakpoints :=
  ⟨by decide +kernel, by decide +kernel⟩

theorem pm10_rises : Rises 1 pm10Breakpoints :=
  ⟨by decide +kernel, by decide +kernel⟩

section Tables

variable {step x y : ℚ} {b next : Breakpoint} {bp : List Breakpoint}

theorem OnGrid.exists_int (hstep : step ≠ 0) (h : OnGrid step x) : ∃ n : ℤ, x = n * step := by
  refine ⟨(x / step).num, ?_⟩
  rw [Rat.coe_int_num_of_den_eq_one h, div_mul_cancel₀ _ hstep]

theorem onGrid_intCast_mul (step : ℚ) (hstep : step ≠ 0) (n : ℤ) : OnGrid step (n * step) := by
  rw [OnGrid, mul_div_cancel_right₀ _ hstep, Rat.den_intCast]

/-- There is nothing of the grid within a step. -/
theorem OnGrid.add_step_le (hstep : 0 < step) (hx : OnGrid step x) (hy : OnGrid step y)
    (hlt : x < y) : x + step ≤ y := by
  obtain ⟨n, rfl⟩ := hx.exists_int hstep.ne'
  obtain ⟨m, rfl⟩ := hy.exists_int hstep.ne'
  have hnm : n + 1 ≤ m := by exact_mod_cast lt_of_mul_lt_mul_right hlt hstep.le
  have hcast : (n + 1 : ℚ) ≤ m := by exact_mod_cast hnm
  calc (n : ℚ) * step + step = (n + 1) * step := by ring
    _ ≤ m * step := mul_le_mul_of_nonneg_right hcast hstep.le

theorem Rises.head (h : Rises step (b :: bp)) : ValidRow step b := h.rows b (by simp)

theorem Rises.tail (h : Rises step (b :: bp)) : Rises step bp :=
  ⟨fun row hrow => h.rows row (List.mem_cons_of_mem _ hrow), h.chain.tail⟩

theorem Rises.follows (h : Rises step (b :: next :: bp)) : Follows step b next :=
  (List.isChain_cons_cons.mp h.chain).1

/-! ### One row -/

theorem ValidRow.index_mono (h : ValidRow step b) (hxy : x ≤ y) : b.index x ≤ b.index y := by
  have hslope : 0 ≤ (b.i_hi - b.i_lo) / (b.c_hi - b.c_lo) :=
    div_nonneg (sub_nonneg.mpr h.rises) (sub_nonneg.mpr h.spans.le)
  have hscaled := mul_le_mul_of_nonneg_left (sub_le_sub_right hxy b.c_lo) hslope
  apply roundTo_mono 1
  linarith

theorem ValidRow.le_index (h : ValidRow step b) (hx : b.c_lo ≤ x) : b.i_lo ≤ b.index x := by
  have hend : b.index b.c_lo = b.i_lo := by
    rw [Breakpoint.index, sub_self, mul_zero, zero_add, h.low]
  rw [← hend]
  exact h.index_mono hx

theorem ValidRow.index_le (h : ValidRow step b) (hx : x ≤ b.c_hi) : b.index x ≤ b.i_hi := by
  have hwidth : b.c_hi - b.c_lo ≠ 0 := (sub_pos.mpr h.spans).ne'
  have hend : b.index b.c_hi = b.i_hi := by
    rw [Breakpoint.index, div_mul_cancel₀ _ hwidth, sub_add_cancel, h.high]
  rw [← hend]
  exact h.index_mono hx

/-! ### The search -/

theorem lookup_of_le (hlo : b.c_lo ≤ x) (hhi : x ≤ b.c_hi) : lookup (b :: bp) x = b.index x := by
  rw [lookup, if_pos ⟨hlo, hhi⟩]

theorem lookup_of_gt (h : b.c_hi < x) : lookup (b :: bp) x = lookup bp x := by
  rw [lookup, if_neg fun hspan => absurd hspan.2 (not_le.mpr h)]

theorem lookup_le (h : Rises step bp) (x : ℚ) : lookup bp x ≤ 500 := by
  induction bp with
  | nil => exact le_rfl
  | cons b bp ih =>
      rw [lookup]
      split
      · rename_i hspan
        exact (h.head.index_le hspan.2).trans h.head.top
      · exact ih h.tail

/-- Past a row the search begins anew with the next one. -/
theorem Rises.next_le (hstep : 0 < step) (h : Rises step (b :: next :: bp)) (hx : OnGrid step x)
    (hgt : b.c_hi < x) : next.c_lo ≤ x := by
  rw [h.follows.1]
  exact h.head.grid.add_step_le hstep hx hgt

theorem le_lookup (hstep : 0 < step) (h : Rises step (b :: bp)) (hx : OnGrid step x)
    (hlo : b.c_lo ≤ x) : b.i_lo ≤ lookup (b :: bp) x := by
  induction bp generalizing b with
  | nil =>
      by_cases hhi : x ≤ b.c_hi
      · rw [lookup_of_le hlo hhi]
        exact h.head.le_index hlo
      · rw [lookup_of_gt (not_le.mp hhi)]
        exact h.head.rises.trans h.head.top
  | cons next bp ih =>
      by_cases hhi : x ≤ b.c_hi
      · rw [lookup_of_le hlo hhi]
        exact h.head.le_index hlo
      · rw [lookup_of_gt (not_le.mp hhi)]
        have hnext := ih h.tail (h.next_le hstep hx (not_le.mp hhi))
        exact (h.head.rises.trans h.follows.2).trans hnext

/-- From the first row on the index does not fall. -/
theorem lookup_mono (hstep : 0 < step) (h : Rises step (b :: bp)) (hx : OnGrid step x)
    (hy : OnGrid step y) (hlo : b.c_lo ≤ x) (hxy : x ≤ y) :
    lookup (b :: bp) x ≤ lookup (b :: bp) y := by
  induction bp generalizing b with
  | nil =>
      by_cases hhi : y ≤ b.c_hi
      · rw [lookup_of_le hlo (hxy.trans hhi), lookup_of_le (hlo.trans hxy) hhi]
        exact h.head.index_mono hxy
      · rw [lookup_of_gt (not_le.mp hhi)]
        exact lookup_le h x
  | cons next bp ih =>
      by_cases hhi : y ≤ b.c_hi
      · rw [lookup_of_le hlo (hxy.trans hhi), lookup_of_le (hlo.trans hxy) hhi]
        exact h.head.index_mono hxy
      · have hynext := h.next_le hstep hy (not_le.mp hhi)
        rw [lookup_of_gt (not_le.mp hhi)]
        by_cases hxhi : x ≤ b.c_hi
        · rw [lookup_of_le hlo hxhi]
          calc b.index x ≤ b.i_hi := h.head.index_le hxhi
            _ ≤ next.i_lo := h.follows.2
            _ ≤ lookup (next :: bp) y := le_lookup hstep h.tail hy hynext
        · rw [lookup_of_gt (not_le.mp hxhi)]
          exact ih h.tail (h.next_le hstep hx (not_le.mp hxhi))

theorem lookup_below (hstep : 0 < step) (h : Rises step (b :: bp)) (hx : x < b.c_lo) :
    lookup (b :: bp) x = 500 := by
  induction bp generalizing b with
  | nil => rw [lookup, if_neg fun hspan => absurd hspan.1 (not_le.mpr hx), lookup]
  | cons next bp ih =>
      have hnext : b.c_lo < next.c_lo := by
        have hspans := h.head.spans
        rw [h.follows.1]
        linarith
      rw [lookup, if_neg fun hspan => absurd hspan.1 (not_le.mpr hx)]
      exact ih h.tail (hx.trans hnext)

theorem lookup_mem (hstep : 0 < step) (h : Rises step (b :: bp)) (hlo : 0 ≤ b.i_lo)
    (hx : OnGrid step x) : lookup (b :: bp) x ∈ Set.Icc (0 : ℚ) 500 := by
  refine ⟨?_, lookup_le h x⟩
  by_cases hbelow : x < b.c_lo
  · rw [lookup_below hstep h hbelow]
    norm_num
  · exact hlo.trans (le_lookup hstep h hx (not_lt.mp hbelow))

/-- What is below the table is only ordered with what is below or at its end; `top` is the least
concentration of the index 500. -/
theorem lookup_le_iff (top : ℚ) (hstep : 0 < step) (h : Rises step (b :: bp))
    (htop : lookup (b :: bp) top = 500) (hbelow : lookup (b :: bp) (top - step) < 500)
    (hgrid : OnGrid step top) (hgrid' : OnGrid step (top - step)) (hlo : b.c_lo ≤ top - step)
    (hx : OnGrid step x) (hy : OnGrid step y) (hxy : x ≤ y) :
    lookup (b :: bp) x ≤ lookup (b :: bp) y ↔ b.c_lo ≤ x ∨ y < b.c_lo ∨ top ≤ y := by
  constructor
  · intro hle
    by_contra hnone
    simp only [not_or, not_le, not_lt] at hnone
    obtain ⟨hxlo, hylo, hytop⟩ := hnone
    have hystep : y ≤ top - step := by
      have hstep := hy.add_step_le hstep hgrid hytop
      linarith
    have hlow := lookup_mono hstep h hy hgrid' hylo hystep
    rw [lookup_below hstep h hxlo] at hle
    linarith
  · rintro (hxlo | hylo | hytop)
    · exact lookup_mono hstep h hx hy hxlo hxy
    · rw [lookup_below hstep h hylo]
      exact lookup_le h x
    · have hge := lookup_mono hstep h hgrid hy (hlo.trans (by linarith)) hytop
      rw [htop] at hge
      exact (lookup_le h x).trans hge

end Tables

/-! ## The two conversions -/

section Conversions

variable {c c' : ℚ}

theorem onGrid_roundTo (c : ℚ) : OnGrid (1 / 10) (roundTo 1 c) := by
  have hgrid := onGrid_intCast_mul (1 / 10) (by norm_num) (roundEven (c * 10 ^ 1))
  rwa [mul_one_div, ← pow_one (10 : ℚ)] at hgrid

theorem onGrid_floor (c : ℚ) : OnGrid 1 (⌊c⌋ : ℚ) := by
  rw [OnGrid, div_one, Rat.den_intCast]

/-- An even number of tenths is reached from half a tenth before on. -/
theorem le_roundTo_one_iff {n : ℤ} (heven : Even n) :
    (n : ℚ) / 10 ≤ roundTo 1 c ↔ (n - 1 / 2) / 10 ≤ c := by
  have hround : (n : ℚ) / 10 ≤ roundTo 1 c ↔ n ≤ roundEven (c * 10 ^ 1) := by
    rw [roundTo, pow_one, div_le_div_iff_of_pos_right (by norm_num), Int.cast_le]
  have hscale : (n - 1 / 2) / 10 ≤ c ↔ (n : ℚ) - 1 / 2 ≤ c * 10 ^ 1 := by
    rw [pow_one, div_le_iff₀ (by norm_num)]
  rw [hround, hscale, le_roundEven_iff, le_iff_lt_or_eq]
  simp [heven, eq_comm]

theorem pm25ToAqi_mem (c : ℚ) : pm25ToAqi c ∈ Set.Icc (0 : ℚ) 500 :=
  lookup_mem (by norm_num) pm25_rises le_rfl (onGrid_roundTo c)

theorem pm10ToAqi_mem (c : ℚ) : pm10ToAqi c ∈ Set.Icc (0 : ℚ) 500 :=
  lookup_mem one_pos pm10_rises le_rfl (onGrid_floor c)

theorem pm25ToAqi_le_iff (h : c ≤ c') :
    pm25ToAqi c ≤ pm25ToAqi c' ↔ -1 / 20 ≤ c ∨ c' < -1 / 20 ∨ 10007 / 20 ≤ c' := by
  have hzero (x : ℚ) : 0 ≤ roundTo 1 x ↔ -1 / 20 ≤ x := by
    have hround := le_roundTo_one_iff (c := x) (n := 0) (by decide)
    norm_num at hround ⊢
    exact hround
  have htop (x : ℚ) : 5004 / 10 ≤ roundTo 1 x ↔ 10007 / 20 ≤ x := by
    have hround := le_roundTo_one_iff (c := x) (n := 5004) (by decide)
    norm_num at hround ⊢
    exact hround
  have hle := lookup_le_iff (5004 / 10) (by norm_num) pm25_rises (by decide +kernel)
    (by decide +kernel) (by decide +kernel) (by decide +kernel) (by norm_num) (onGrid_roundTo c)
    (onGrid_roundTo c') (roundTo_mono 1 h)
  rw [pm25ToAqi, pm25ToAqi, ← hzero c, ← not_le, ← hzero c', ← htop c', not_le]
  exact hle

theorem pm10ToAqi_le_iff (h : c ≤ c') :
    pm10ToAqi c ≤ pm10ToAqi c' ↔ 0 ≤ c ∨ c' < 0 ∨ 604 ≤ c' := by
  have hzero (x : ℚ) : (0 : ℚ) ≤ ⌊x⌋ ↔ 0 ≤ x := by
    rw [← Int.floor_nonneg (a := x)]
    exact_mod_cast Iff.rfl
  have htop (x : ℚ) : (604 : ℚ) ≤ ⌊x⌋ ↔ 604 ≤ x := by
    have hfloor : (604 : ℤ) ≤ ⌊x⌋ ↔ ((604 : ℤ) : ℚ) ≤ x := Int.le_floor
    exact_mod_cast hfloor
  have hmono : (⌊c⌋ : ℚ) ≤ ⌊c'⌋ := by exact_mod_cast Int.floor_le_floor h
  have hle := lookup_le_iff 604 one_pos pm10_rises (by decide +kernel)
    (by decide +kernel) (by decide +kernel) (by decide +kernel) (by norm_num) (onGrid_floor c)
    (onGrid_floor c') hmono
  rw [pm10ToAqi, pm10ToAqi, ← hzero c, ← not_le, ← hzero c', ← htop c', not_le]
  exact hle

end Conversions

/-! ## The law -/

/-- Of two concentrations, the first no higher: both indices are in the range and in order, and
the air that does not override the score at the higher one does not at the lower. -/
structure IndexLaw (index : ℚ → ℚ) (c c' : ℚ) : Prop where
  range : index c ∈ Set.Icc (0 : ℚ) 500 ∧ index c' ∈ Set.Icc (0 : ℚ) 500
  mono : index c ≤ index c'
  override : ∀ (features : FeatureResponse) (is_gridlock : Bool),
    checkParametricOverrides { features with aqi := index c' } is_gridlock = none →
      checkParametricOverrides { features with aqi := index c } is_gridlock = none

section Law

variable {index : ℚ → ℚ} {c c' : ℚ}

theorem override_of_le {features : FeatureResponse} {is_gridlock : Bool} (h : index c ≤ index c')
    (hnone : checkParametricOverrides { features with aqi := index c' } is_gridlock = none) :
    checkParametricOverrides { features with aqi := index c } is_gridlock = none := by
  obtain ⟨hrain, haqi, hgridlock⟩ := checkParametricOverrides_eq_none_iff.mp hnone
  exact checkParametricOverrides_eq_none_iff.mpr ⟨hrain, h.trans_lt haqi, hgridlock⟩

theorem indexLaw_iff_le (hrange : ∀ c, index c ∈ Set.Icc (0 : ℚ) 500) :
    IndexLaw index c c' ↔ index c ≤ index c' := by
  constructor
  · exact IndexLaw.mono
  · intro hle
    exact ⟨⟨hrange c, hrange c'⟩, hle, fun _ _ => override_of_le hle⟩

/-- The index is in order but where the lower concentration falls below the table and the higher
one does not reach the last index. -/
theorem index_law_iff (c c' : ℚ) (h : c ≤ c') :
    (IndexLaw pm25ToAqi c c' ↔ -1 / 20 ≤ c ∨ c' < -1 / 20 ∨ 10007 / 20 ≤ c') ∧
      (IndexLaw pm10ToAqi c c' ↔ 0 ≤ c ∨ c' < 0 ∨ 604 ≤ c') := by
  rw [indexLaw_iff_le pm25ToAqi_mem, indexLaw_iff_le pm10ToAqi_mem]
  exact ⟨pm25ToAqi_le_iff h, pm10ToAqi_le_iff h⟩

theorem index_law_clean : IndexLaw pm25ToAqi 3 80 ∧ IndexLaw pm10ToAqi 3 80 :=
  ⟨(index_law_iff 3 80 (by norm_num)).1.mpr (.inl (by norm_num)),
    (index_law_iff 3 80 (by norm_num)).2.mpr (.inl (by norm_num))⟩

/-- A reading a little below zero is the worst air, one of 3 µg is good. -/
theorem negative_reading_worst :
    pm25ToAqi 3 < pm25ToAqi (-1) ∧ 300 ≤ pm25ToAqi (-1) ∧ pm10ToAqi 3 < pm10ToAqi (-1) ∧
      300 ≤ pm10ToAqi (-1) := by
  decide +kernel

end Law

/-! ## What the search answers -/

theorem aqiOfReadings_range {pm25 pm10 : Option ℚ} :
    ∀ data ∈ aqiOfReadings pm25 pm10, data.aqi ∈ Set.Icc (0 : ℚ) 500 := by
  intro data hdata
  cases pm25 with
  | some pm25 =>
      cases hdata
      exact pm25ToAqi_mem pm25
  | none =>
      cases pm10 with
      | some pm10 =>
          cases hdata
          exact pm10ToAqi_mem pm10
      | none => cases hdata

/-- Whatever the sensors read and however the search ends, the index is one. -/
theorem fetchAqi_range (radii : List RadiusAnswer) :
    (fetchAqi radii).aqi ∈ Set.Icc (0 : ℚ) 500 := by
  have hfallback : cpcbFallback.aqi ∈ Set.Icc (0 : ℚ) 500 := by
    norm_num [cpcbFallback]
  induction radii with
  | nil => exact hfallback
  | cons answer radii ih =>
      cases answer with
      | sensors pm25 pm10 =>
          rw [fetchAqi]
          cases hdata : aqiOfReadings (avgSensorType pm25) (avgSensorType pm10) with
          | none => exact ih
          | some data => exact aqiOfReadings_range data hdata
      | timeout => exact ih
      | failed => exact hfallback

end Aegis.AqiService
