import Mathlib.Tactic.IntervalCases
import Aegis.Verification.Premium.Bounds

/-! # The ladders of the tiers

The floor and the cap of a premium are steps of the coverage factor rounded to tenths.
Below 0.95 they enclose a range inside 20 to 50 rupees; from there on the floor is 60 and
lies above the cap. -/

namespace Aegis.PremiumService

open Number

/-- The floor of every tenth from 0 to 1. -/
def floorLadder : List ℤ := [20, 20, 20, 20, 20, 25, 25, 30, 40, 50, 60]

def capLadder : List ℤ := [30, 30, 30, 30, 30, 35, 40, 45, 50, 50, 50]

/-- The tenth to which a factor is rounded. -/
def tenth (Ct : ℚ) : ℕ := (mathRound (Ct * 10)).toNat

/-- The premium for the earnings `Ew`, the loss fraction `Lf` and the factor `Ct`. -/
def premiumOf (Ew Lf Ct : ℚ) : ℚ :=
  applyPremiumBounds (computeRawWeeklyPremium Ew Lf Ct) (resolveTierCap Ct) (resolveTierFloor Ct)

/-! ## The steps -/

section Ladders

variable {Ct Ct' : ℚ}

theorem tenth_le_ten (h : Ct ≤ 1) : tenth Ct ≤ 10 := by
  have hround : mathRound (Ct * 10) ≤ 10 := by
    rw [mathRound_le_iff]
    push_cast
    linarith
  rw [tenth]
  omega

theorem mathRound_eq_tenth (h : 0 ≤ Ct) : mathRound (Ct * 10) = tenth Ct := by
  have hround : 0 ≤ mathRound (Ct * 10) := by
    rw [le_mathRound_iff]
    push_cast
    linarith
  rw [tenth, Int.toNat_of_nonneg hround]

theorem tenth_mono (h : Ct ≤ Ct') : tenth Ct ≤ tenth Ct' := by
  have hround : mathRound (Ct * 10) ≤ mathRound (Ct' * 10) := by
    apply Int.floor_le_floor
    linarith
  exact Int.toNat_le_toNat hround

theorem tenth_le_nine_iff (h : 0 ≤ Ct) : tenth Ct ≤ 9 ↔ Ct < 19 / 20 := by
  have hround : mathRound (Ct * 10) ≤ 9 ↔ Ct < 19 / 20 := by
    rw [mathRound_le_iff]
    push_cast
    constructor
    · intro h
      linarith
    · intro h
      linarith
  rw [← hround, mathRound_eq_tenth h]
  exact_mod_cast Iff.rfl

/-- Where floor and cap stand for each of the tenths. -/
theorem ladders (h : Ct ∈ Set.Icc (0 : ℚ) 1) :
    resolveTierFloor Ct = floorLadder.getD (tenth Ct) 0 ∧
      resolveTierCap Ct = capLadder.getD (tenth Ct) 0 := by
  have hround : roundedCt Ct = (tenth Ct : ℚ) / 10 := by
    rw [roundedCt, mathRound_eq_tenth h.1, Int.cast_natCast]
  have hle := tenth_le_ten h.2
  rw [resolveTierFloor, resolveTierCap, hround]
  generalize tenth Ct = n at hle
  interval_cases n <;> decide +kernel

theorem floorLadder_mono : ∀ n ≤ 10, ∀ m ≤ n, floorLadder.getD m 0 ≤ floorLadder.getD n 0 := by
  decide

theorem capLadder_mono : ∀ n ≤ 10, ∀ m ≤ n, capLadder.getD m 0 ≤ capLadder.getD n 0 := by
  decide

/-- Up to nine tenths the ladders enclose a part of the band. -/
theorem ladders_enclose : ∀ n ≤ 9, 20 ≤ floorLadder.getD n 0 ∧
    floorLadder.getD n 0 ≤ capLadder.getD n 0 ∧ capLadder.getD n 0 ≤ 50 := by
  decide

theorem tier_range (h : 0 ≤ Ct) (hlow : Ct < 19 / 20) :
    TierRange Ct (floorLadder.getD (tenth Ct) 0) (capLadder.getD (tenth Ct) 0) := by
  obtain ⟨hfloor, hcap⟩ := ladders ⟨h, by linarith⟩
  obtain ⟨hlo, hle, hhi⟩ := ladders_enclose _ ((tenth_le_nine_iff h).mpr hlow)
  exact ⟨hfloor, hcap, hlo, hle, hhi⟩

/-- At the top of the ladders the floor has passed the cap. -/
theorem tier_top (hhigh : 19 / 20 ≤ Ct) (h : Ct ≤ 1) :
    resolveTierFloor Ct = 60 ∧ resolveTierCap Ct = 50 := by
  have hpos : 0 ≤ Ct := by linarith
  have hnine := (tenth_le_nine_iff hpos).not.mpr (not_lt.mpr hhigh)
  have hten : tenth Ct = 10 := by
    have hle := tenth_le_ten h
    omega
  obtain ⟨hfloor, hcap⟩ := ladders ⟨hpos, h⟩
  rw [hten] at hfloor hcap
  exact ⟨hfloor, hcap⟩

theorem resolveTierFloor_mono (h : 0 ≤ Ct) (hle : Ct ≤ Ct') (h' : Ct' ≤ 1) :
    resolveTierFloor Ct ≤ resolveTierFloor Ct' := by
  rw [(ladders ⟨h, hle.trans h'⟩).1, (ladders ⟨h.trans hle, h'⟩).1]
  exact_mod_cast floorLadder_mono _ (tenth_le_ten h') _ (tenth_mono hle)

theorem resolveTierCap_mono (h : 0 ≤ Ct) (hle : Ct ≤ Ct') (h' : Ct' ≤ 1) :
    resolveTierCap Ct ≤ resolveTierCap Ct' := by
  rw [(ladders ⟨h, hle.trans h'⟩).2, (ladders ⟨h.trans hle, h'⟩).2]
  exact_mod_cast capLadder_mono _ (tenth_le_ten h') _ (tenth_mono hle)

end Ladders

/-! ## The premium -/

section Premium

variable {Ew Ew' Lf Lf' Ct Ct' : ℚ}

theorem computeRawWeeklyPremium_mono (hEw : 0 ≤ Ew) (hEwle : Ew ≤ Ew') (hLf : 0 ≤ Lf)
    (hLfle : Lf ≤ Lf') (hCt : 0 ≤ Ct) (hCtle : Ct ≤ Ct') :
    computeRawWeeklyPremium Ew Lf Ct ≤ computeRawWeeklyPremium Ew' Lf' Ct' := by
  have hrate : (0 : ℚ) ≤ PREMIUM_RATE := by norm_num [PREMIUM_RATE]
  have hmargin : (0 : ℚ) ≤ 1 + PREMIUM_MARGIN := by norm_num [PREMIUM_MARGIN]
  have hEw' := hEw.trans hEwle
  have hLf' := hLf.trans hLfle
  have hproduct : Ew * PREMIUM_RATE * Lf * Ct * (1 + PREMIUM_MARGIN) ≤
      Ew' * PREMIUM_RATE * Lf' * Ct' * (1 + PREMIUM_MARGIN) := by gcongr
  have hround : mathRound (Ew * PREMIUM_RATE * Lf * Ct * (1 + PREMIUM_MARGIN) * 100) ≤
      mathRound (Ew' * PREMIUM_RATE * Lf' * Ct' * (1 + PREMIUM_MARGIN) * 100) := by
    apply Int.floor_le_floor
    linarith
  have hcast : (mathRound (Ew * PREMIUM_RATE * Lf * Ct * (1 + PREMIUM_MARGIN) * 100) : ℚ) ≤
      mathRound (Ew' * PREMIUM_RATE * Lf' * Ct' * (1 + PREMIUM_MARGIN) * 100) := by
    exact_mod_cast hround
  rw [computeRawWeeklyPremium, computeRawWeeklyPremium]
  exact div_le_div_of_nonneg_right hcast (by norm_num)

theorem premiumOf_bounded (h : 0 ≤ Ct) (hlow : Ct < 19 / 20) : Bounded Ct (premiumOf Ew Lf Ct) := by
  have hle := (tier_range h hlow).floor_le_cap
  rw [premiumOf, applyPremiumBounds_eq hle]
  exact ⟨le_max_left _ _, max_le hle (min_le_right _ _)⟩

/-- At the top of the ladders either bound is broken, and the premium is at least 50. -/
theorem premiumOf_top (hhigh : 19 / 20 ≤ Ct) (h : Ct ≤ 1) :
    ¬Bounded Ct (premiumOf Ew Lf Ct) ∧ 50 ≤ premiumOf Ew Lf Ct := by
  obtain ⟨hfloor, hcap⟩ := tier_top hhigh h
  have hcases : premiumOf Ew Lf Ct = 60 ∨ premiumOf Ew Lf Ct = 50 := by
    rw [premiumOf, applyPremiumBounds, hfloor, hcap]
    split
    · exact .inl rfl
    · rename_i hraw
      rw [if_pos (by linarith)]
      exact .inr rfl
  constructor
  · rintro ⟨hge, hle⟩
    rw [hfloor] at hge
    rw [hcap] at hle
    linarith
  · rcases hcases with hp | hp
    · rw [hp]
      norm_num
    · rw [hp]

theorem premiumOf_band (h : 0 ≤ Ct) (hlow : Ct < 19 / 20) :
    premiumOf Ew Lf Ct ∈ Set.Icc (20 : ℚ) 50 := by
  have hbounded : Bounded Ct (premiumOf Ew Lf Ct) := premiumOf_bounded h hlow
  have hrange := tier_range h hlow
  have hlo : (20 : ℚ) ≤ resolveTierFloor Ct := by
    rw [hrange.floor]
    exact_mod_cast hrange.low
  have hhi : resolveTierCap Ct ≤ 50 := by
    rw [hrange.cap]
    exact_mod_cast hrange.high
  exact ⟨hlo.trans hbounded.floor_le, hbounded.le_cap.trans hhi⟩

/-- More earnings, risk or cover cost no less, up to the top of the ladders. -/
theorem premiumOf_mono (hEw : 0 ≤ Ew) (hEwle : Ew ≤ Ew') (hLf : 0 ≤ Lf) (hLfle : Lf ≤ Lf')
    (hCt : 0 ≤ Ct) (hCtle : Ct ≤ Ct') (hlow : Ct < 19 / 20) (h' : Ct' ≤ 1) :
    premiumOf Ew Lf Ct ≤ premiumOf Ew' Lf' Ct' := by
  by_cases hlow' : Ct' < 19 / 20
  · have hle := (tier_range hCt hlow).floor_le_cap
    have hle' := (tier_range (hCt.trans hCtle) hlow').floor_le_cap
    have hraw := computeRawWeeklyPremium_mono hEw hEwle hLf hLfle hCt hCtle
    rw [premiumOf, premiumOf, applyPremiumBounds_eq hle, applyPremiumBounds_eq hle']
    apply max_le_max (resolveTierFloor_mono hCt hCtle h')
    exact min_le_min hraw (resolveTierCap_mono hCt hCtle h')
  · calc premiumOf Ew Lf Ct ≤ 50 := (premiumOf_band hCt hlow).2
      _ ≤ premiumOf Ew' Lf' Ct' := (premiumOf_top (not_lt.mp hlow') h').2

end Premium

/-! ## The law at a factor -/

/-- What is promised of the premiums of the factor `Ct`, against those of all others too. -/
structure LadderLaw (Ct : ℚ) : Prop where
  bounded : ∀ Ew Lf, 0 ≤ Ew → 0 ≤ Lf → Bounded Ct (premiumOf Ew Lf Ct)
  band : ∀ Ew Lf, 0 ≤ Ew → 0 ≤ Lf → premiumOf Ew Lf Ct ∈ Set.Icc (20 : ℚ) 50
  mono_Ew : ∀ Ew Ew' Lf, 0 ≤ Ew → Ew ≤ Ew' → 0 ≤ Lf → premiumOf Ew Lf Ct ≤ premiumOf Ew' Lf Ct
  mono_Lf : ∀ Ew Lf Lf', 0 ≤ Ew → 0 ≤ Lf → Lf ≤ Lf' → premiumOf Ew Lf Ct ≤ premiumOf Ew Lf' Ct
  mono_Ct : ∀ Ew Lf, 0 ≤ Ew → 0 ≤ Lf → ∀ Ct' ∈ Set.Icc (0 : ℚ) 1,
    (Ct ≤ Ct' → premiumOf Ew Lf Ct ≤ premiumOf Ew Lf Ct') ∧
      (Ct' ≤ Ct → premiumOf Ew Lf Ct' ≤ premiumOf Ew Lf Ct)

theorem ladder_law_iff (Ct : ℚ) (hCt : Ct ∈ Set.Icc (0 : ℚ) 1) : LadderLaw Ct ↔ Ct < 19 / 20 := by
  constructor
  · intro hlaw
    by_contra hhigh
    exact (premiumOf_top (not_lt.mp hhigh) hCt.2).1 (hlaw.bounded 0 0 le_rfl le_rfl)
  · intro hlow
    constructor
    case bounded =>
      intro Ew Lf _ _
      exact premiumOf_bounded hCt.1 hlow
    case band =>
      intro Ew Lf _ _
      exact premiumOf_band hCt.1 hlow
    case mono_Ew =>
      intro Ew Ew' Lf hEw hle hLf
      exact premiumOf_mono hEw hle hLf le_rfl hCt.1 le_rfl hlow hCt.2
    case mono_Lf =>
      intro Ew Lf Lf' hEw hLf hle
      exact premiumOf_mono hEw le_rfl hLf hle hCt.1 le_rfl hlow hCt.2
    case mono_Ct =>
      intro Ew Lf hEw hLf Ct' hCt'
      constructor
      · intro hle
        exact premiumOf_mono hEw le_rfl hLf le_rfl hCt.1 hle hlow hCt'.2
      · intro hle
        exact premiumOf_mono hEw le_rfl hLf le_rfl hCt'.1 hle (hle.trans_lt hlow) hCt.2

theorem ladder_law_elite : (4 / 5 : ℚ) ∈ Set.Icc (0 : ℚ) 1 ∧ LadderLaw (4 / 5) :=
  ⟨by norm_num, (ladder_law_iff (4 / 5) (by norm_num)).mpr (by norm_num)⟩

/-- Full cover of no earnings costs 60 rupees, and less once the earnings are high. -/
theorem full_cover_over_band :
    resolveTierCap 1 < premiumOf 0 0 1 ∧ 50 < premiumOf 0 0 1 ∧
      premiumOf 10000 1 1 < premiumOf 0 0 1 := by
  decide +kernel

end Aegis.PremiumService
