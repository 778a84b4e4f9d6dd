import Aegis.Verification.Premium.Cover

/-! # The bounds of the premium

A premium is quoted between the floor and the cap of a factor, computed by the bare
formula, or taken over from the pipeline or the plan. -/

namespace Aegis.PremiumService

open Outcome RedisState Number PayoutService

/-! ## Amounts in the range of a tier -/

/-- A premium between the floor and the cap of the coverage factor. -/
structure Bounded (Ct premium : ℚ) : Prop where
  floor_le : resolveTierFloor Ct ≤ premium
  le_cap : premium ≤ resolveTierCap Ct

/-- An amount that is within the bounds once it is rounded to paise. -/
structure Roundable (Ct x : ℚ) : Prop where
  floor_le : resolveTierFloor Ct - 1 / 200 ≤ x
  lt_cap : x < resolveTierCap Ct + 1 / 200

/-- What the clamp of the factor `c` leaves of an amount is within the bounds of `Ct`. -/
structure FitsTier (Ct raw c : ℚ) : Prop where
  floor : resolveTierFloor c < resolveTierFloor Ct →
    resolveTierFloor Ct ≤ raw ∧ resolveTierFloor Ct ≤ resolveTierCap c
  cap : resolveTierCap Ct < resolveTierCap c →
    raw ≤ resolveTierCap Ct ∧ resolveTierFloor c ≤ resolveTierCap Ct

section Tiers

variable {Ct c raw x : ℚ}

/-- The range of a tier in whole rupees. -/
structure TierRange (c : ℚ) (lo hi : ℤ) : Prop where
  floor : resolveTierFloor c = lo
  cap : resolveTierCap c = hi
  low : 20 ≤ lo
  le : lo ≤ hi
  high : hi ≤ 50

instance (c : ℚ) (lo hi : ℤ) : Decidable (TierRange c lo hi) :=
  decidable_of_iff (resolveTierFloor c = lo ∧ resolveTierCap c = hi ∧ 20 ≤ lo ∧ lo ≤ hi ∧ hi ≤ 50)
    ⟨fun h => ⟨h.1, h.2.1, h.2.2.1, h.2.2.2.1, h.2.2.2.2⟩,
      fun h => ⟨h.floor, h.cap, h.low, h.le, h.high⟩⟩

/-- The factors of the tiers, and the one that is priced where none is known. -/
theorem safeCt_range (plan : Option String) (activeDays : ℕ) :
    ∃ lo hi, TierRange (safeCt (ctForPlan plan) activeDays) lo hi := by
  by_cases hdays : activeDays < 5
  · rw [safeCt, if_pos hdays]
    exact ⟨20, 30, by decide +kernel⟩
  · rw [safeCt, if_neg hdays]
    cases hCt : ctForPlan plan with
    | none => exact ⟨25, 35, by decide +kernel⟩
    | some Ct =>
        rcases ctForPlan_cases hCt with rfl | rfl | rfl | rfl
        · exact ⟨20, 30, by decide +kernel⟩
        · exact ⟨25, 40, by decide +kernel⟩
        · exact ⟨30, 45, by decide +kernel⟩
        · exact ⟨40, 50, by decide +kernel⟩

theorem ctForPlan_range {plan : Option String} (h : ctForPlan plan = some Ct) :
    ∃ lo hi, TierRange Ct lo hi := by
  have hrange := safeCt_range plan 5
  rw [h] at hrange
  exact hrange

theorem TierRange.floor_le_cap {lo hi : ℤ} (h : TierRange c lo hi) :
    resolveTierFloor c ≤ resolveTierCap c := by
  rw [h.floor, h.cap]
  exact_mod_cast h.le

/-- The premium of a tier costs between 20 and 50 rupees. -/
theorem Bounded.mem_range {plan : Option String} {premium : ℚ} (h : Bounded Ct premium)
    (hCt : ctForPlan plan = some Ct) : premium ∈ Set.Icc (20 : ℚ) 50 := by
  obtain ⟨lo, hi, hrange⟩ := ctForPlan_range hCt
  have hlow : (20 : ℚ) ≤ lo := by exact_mod_cast hrange.low
  have hhigh : (hi : ℚ) ≤ 50 := by exact_mod_cast hrange.high
  constructor
  · exact hlow.trans (hrange.floor ▸ h.floor_le)
  · exact (hrange.cap ▸ h.le_cap).trans hhigh

/-! ### The clamp -/

theorem applyPremiumBounds_eq (h : resolveTierFloor c ≤ resolveTierCap c) :
    applyPremiumBounds raw (resolveTierCap c) (resolveTierFloor c) =
      max (resolveTierFloor c) (min raw (resolveTierCap c)) := by
  unfold applyPremiumBounds
  split
  · rename_i hlow
    rw [max_eq_left ((min_le_left _ _).trans hlow.le)]
  · rename_i hlow
    have hfloor := not_lt.mp hlow
    split
    · rename_i hhigh
      rw [min_eq_right hhigh.le, max_eq_right h]
    · rename_i hhigh
      rw [min_eq_left (not_lt.mp hhigh), max_eq_right hfloor]

theorem bounded_quote_iff (h : resolveTierFloor c ≤ resolveTierCap c) :
    Bounded Ct (applyPremiumBounds raw (resolveTierCap c) (resolveTierFloor c)) ↔
      FitsTier Ct raw c := by
  rw [applyPremiumBounds_eq h]
  constructor
  · intro hb
    have hfloor := hb.floor_le
    have hcap := hb.le_cap
    constructor
    · intro hlow
      rcases le_max_iff.mp hfloor with hle | hle
      · exact absurd hle (not_le.mpr hlow)
      · exact le_min_iff.mp hle
    · intro hhigh
      obtain ⟨hle, hmin⟩ := max_le_iff.mp hcap
      rcases min_le_iff.mp hmin with hraw | hcap'
      · exact ⟨hraw, hle⟩
      · exact absurd hcap' (not_le.mpr hhigh)
  · intro hfits
    constructor
    · by_cases hlow : resolveTierFloor c < resolveTierFloor Ct
      · obtain ⟨hraw, hcap⟩ := hfits.floor hlow
        exact (le_min hraw hcap).trans (le_max_right _ _)
      · exact (not_lt.mp hlow).trans (le_max_left _ _)
    · by_cases hhigh : resolveTierCap Ct < resolveTierCap c
      · obtain ⟨hraw, hfloor⟩ := hfits.cap hhigh
        exact max_le hfloor ((min_le_left _ _).trans hraw)
      · have hcap := not_lt.mp hhigh
        exact max_le (h.trans hcap) ((min_le_right _ _).trans hcap)

/-! ### Rounding -/

theorem bounded_round_iff {plan : Option String} (hCt : ctForPlan plan = some Ct) :
    Bounded Ct ((mathRound (x * 100) : ℚ) / 100) ↔ Roundable Ct x := by
  obtain ⟨lo, hi, hrange⟩ := ctForPlan_range hCt
  have hceil : ⌈(lo : ℚ) * 100⌉ = lo * 100 := by exact_mod_cast Int.ceil_intCast (lo * 100)
  have hfloor : ⌊(hi : ℚ) * 100⌋ = hi * 100 := by exact_mod_cast Int.floor_intCast (hi * 100)
  constructor
  · intro hb
    have hlow := hb.floor_le
    have hhigh := hb.le_cap
    rw [hrange.floor, le_round_div_iff, hceil] at hlow
    rw [hrange.cap, round_div_le_iff, hfloor] at hhigh
    push_cast at hlow hhigh
    refine ⟨?_, ?_⟩
    · rw [hrange.floor]
      linarith
    · rw [hrange.cap]
      linarith
  · intro hr
    have hlow := hr.floor_le
    have hhigh := hr.lt_cap
    rw [hrange.floor] at hlow
    rw [hrange.cap] at hhigh
    refine ⟨?_, ?_⟩
    · rw [hrange.floor, le_round_div_iff, hceil]
      push_cast
      linarith
    · rw [hrange.cap, round_div_le_iff, hfloor]
      push_cast
      linarith

end Tiers

/-! ## The quotation -/

/-- What the formula is applied to. -/
structure Inputs where
  Ew : ℚ
  Lf : ℚ
  Ct : ℚ
  deriving DecidableEq, Repr

/-- The inputs with which `calculateWeeklyPremium` prices a driver, if it gets them. -/
def pricingInputs (io : PremiumIo) (s : System) (driverId : String) (planId : Option String) :
    Option Inputs := do
  let (id, profile) ← (resolveProfileDriver io s.db driverId).toOption
  let coverage ← (resolveCoverage io s.db driverId planId).toOption
  let h3Cell ← (resolveCell io s driverId id).toOption
  pure ⟨resolveEarningsWithNewDriverFallback profile (resolveActiveDays profile),
    (resolveLf io s.redis h3Cell).1, safeCt coverage (resolveActiveDays profile)⟩

/-- The clamp of the factor that is priced keeps to the bounds of `Ct`. -/
def Inputs.Fits (Ct : ℚ) (i : Inputs) : Prop :=
  FitsTier Ct (computeRawWeeklyPremium i.Ew i.Lf i.Ct) i.Ct

section Quotation

variable {io : PremiumIo} {s : System} {driverId : String} {planId : Option String}
  {quote : WeeklyPremium} {redis : Redis} {Ct : ℚ}

/-- A coverage is looked up under some plan, and none without one. -/
theorem resolveCoverage_plan {db : Db} {coverage : Option ℚ}
    (h : resolveCoverage io db driverId planId = .ok coverage) :
    ∃ plan, coverage = ctForPlan plan := by
  unfold resolveCoverage at h
  split at h
  · obtain ⟨_, -, h⟩ := bind_eq_ok.mp h
    cases h
    exact ⟨_, rfl⟩
  · obtain ⟨_, -, h⟩ := bind_eq_ok.mp h
    cases h
    cases hunended : unendedPolicy io.now db driverId with
    | none => exact ⟨none, by simp [resolveCtForDriver, hunended, ctForPlan_none]⟩
    | some policy =>
        exact ⟨some (PlansService.planKeyOf db policy), by simp [resolveCtForDriver, hunended]⟩

theorem pricingInputs_of_quote
    (h : calculateWeeklyPremium io s driverId planId = .ok (quote, redis)) :
    pricingInputs io s driverId planId = some ⟨quote.Ew, quote.Lf, quote.Ct⟩ := by
  obtain ⟨id, profile, coverage, h3Cell, hprofile, hcoverage, hcell, hquotes⟩ :=
    calculateWeeklyPremium_spec h
  simp [pricingInputs, hprofile, hcoverage, hcell, Except.toOption, hquotes.Ew, hquotes.Lf,
    hquotes.Ct]

/-- Pricing fails only where an input is missing. -/
theorem pricingInputs_of_error {e : Exn}
    (h : calculateWeeklyPremium io s driverId planId = .error e) :
    pricingInputs io s driverId planId = none := by
  cases hprofile : resolveProfileDriver io s.db driverId with
  | error e => simp [pricingInputs, hprofile, Except.toOption]
  | ok found =>
      cases hcoverage : resolveCoverage io s.db driverId planId with
      | error e => simp [pricingInputs, hprofile, hcoverage, Except.toOption]
      | ok coverage =>
          cases hcell : resolveCell io s driverId found.1 with
          | error e => simp [pricingInputs, hprofile, hcoverage, hcell, Except.toOption]
          | ok h3Cell =>
              simp [calculateWeeklyPremium, hprofile, hcoverage, hcell] at h

theorem quote_range (h : calculateWeeklyPremium io s driverId planId = .ok (quote, redis)) :
    ∃ lo hi, TierRange quote.Ct lo hi := by
  obtain ⟨_, profile, coverage, _, -, hcoverage, -, hquotes⟩ := calculateWeeklyPremium_spec h
  obtain ⟨plan, rfl⟩ := resolveCoverage_plan hcoverage
  rw [hquotes.Ct]
  exact safeCt_range plan _

theorem quote_bounded_iff (h : calculateWeeklyPremium io s driverId planId = .ok (quote, redis)) :
    Bounded Ct quote.premium ↔ ∀ i ∈ pricingInputs io s driverId planId, i.Fits Ct := by
  obtain ⟨lo, hi, hrange⟩ := quote_range h
  obtain ⟨_, _, _, _, -, -, -, hquotes⟩ := calculateWeeklyPremium_spec h
  rw [hquotes.premium, bounded_quote_iff hrange.floor_le_cap, pricingInputs_of_quote h]
  simp [Inputs.Fits]

end Quotation

end Aegis.PremiumService
