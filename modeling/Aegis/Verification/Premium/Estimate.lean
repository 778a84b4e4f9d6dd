import Aegis.Model.Insurance
import Aegis.Model.Pricing

/-! # The premium without the pricing service

The pipeline estimates a premium from the loss fraction when it has fallen back. The estimate
leaves the actuarial rate out and takes the margin for a factor of its own. -/

namespace Aegis.PricingService

open HalfEven Number PipelineService
open RiskService (clamp)
open PremiumService (PREMIUM_MARGIN PREMIUM_RATE computeRawWeeklyPremium)

/-- A request in the documented ranges, for a calm zone. -/
structure Calm (request : PipelineRequest) (features : FeatureResponse) (Lf Ct : ℚ) : Prop where
  Ew_nonneg : 0 ≤ request.Ew
  Lf_mem : Lf ∈ Set.Icc (0 : ℚ) 1
  Ct_mem : Ct ∈ Set.Icc (4 / 10 : ℚ) (9 / 10)
  given : request.Ct = some Ct
  M_mem : request.M ∈ Set.Icc (0 : ℚ) 1
  demand_ratio : features.demand_ratio = 1
  zone_volatility : features.sla_breach_rate = 0

/-- The clamp of the pipeline. -/
def bounded (premium : ℚ) : ℚ := clamp premium MIN_PREMIUM MAX_PREMIUM

/-- An amount to the hundredth. -/
def hundredths (x : ℚ) : ℚ := (mathRound (x * 100) : ℚ) / 100

/-- The estimate is what the service would have been asked for, and at the margin of the backend
the amounts before any clamp are those of its two formulas. -/
structure OnePremium (request : PipelineRequest) (features : FeatureResponse) (Lf Ct : ℚ) :
    Prop where
  quoted : bounded (estimatePremium request Lf) =
    bounded (calculatePremium none (pricingPayload request features Lf)).premium
  raw : request.M = PREMIUM_MARGIN →
    hundredths (rawEstimate request Lf) = computeRawWeeklyPremium request.Ew Lf Ct ∧
    hundredths (unclippedPremium none (pricingPayload request features Lf)) =
      computeRawWeeklyPremium request.Ew Lf Ct ∧
    InsuranceService.computePremium request.Ew Lf Ct = computeRawWeeklyPremium request.Ew Lf Ct

instance (request : PipelineRequest) (features : FeatureResponse) (Lf Ct : ℚ) :
    Decidable (OnePremium request features Lf Ct) :=
  decidable_of_iff (_ ∧ _) ⟨fun h => ⟨h.1, h.2⟩, fun h => ⟨h.1, h.2⟩⟩

/-- `x` and `p` are equal within the bounds: both at the floor of the service, both at the ceiling
of the pipeline, or the same to the hundredth. -/
inductive SamePrice (x p : ℚ) : Prop where
  | floor (hp : p ≤ 50 + 1 / 200) (hlow : 50 - 1 / 200 ≤ x) (hhigh : x ≤ 50 + 1 / 200)
  | ceiling (hp : 150 - 1 / 200 ≤ p) (hx : 150 - 1 / 200 ≤ x)
  | between (hlow : 50 + 1 / 200 < p) (hhigh : p < 150 - 1 / 200)
      (hsame : roundTo 2 x = roundTo 2 p)

section Amounts

variable {x p : ℚ}

theorem bounded_roundTo (x : ℚ) : bounded (roundTo 2 x) = roundTo 2 (bounded x) := by
  have hmin : roundTo 2 MIN_PREMIUM = MIN_PREMIUM := roundTo_natCast 2 15
  have hmax : roundTo 2 MAX_PREMIUM = MAX_PREMIUM := roundTo_natCast 2 150
  have hmono : Monotone (roundTo 2 : ℚ → ℚ) := roundTo_mono 2
  rw [bounded, bounded, clamp, clamp, hmono.map_max, hmono.map_min, hmin, hmax]

/-- The floor of the service is above that of the pipeline, its ceiling above that too. -/
theorem bounded_softClip (p : ℚ) : bounded (softClip p) = max 50 (min 150 p) := by
  unfold bounded softClip clamp MIN_PREMIUM MAX_PREMIUM PREMIUM_MIN_CLIPPING PREMIUM_MAX_CLIPPING
    PREMIUM_RESIDUAL_MULTIPLIER
  rcases le_total p 300 with h | h
  · rw [max_eq_left (by linarith : p - 300 ≤ 0), min_eq_right h]
    grind
  · rw [max_eq_right (by linarith : 0 ≤ p - 300), min_eq_left h]
    grind

theorem roundTo_max_min (p : ℚ) :
    roundTo 2 (max 50 (min 150 p)) = max 50 (min 150 (roundTo 2 p)) := by
  have hlow : roundTo 2 (50 : ℚ) = 50 := roundTo_natCast 2 50
  have hhigh : roundTo 2 (150 : ℚ) = 150 := roundTo_natCast 2 150
  have hmono : Monotone (roundTo 2 : ℚ → ℚ) := roundTo_mono 2
  rw [hmono.map_max, hmono.map_min, hlow, hhigh]

theorem bounded_eq_iff (X P : ℚ) :
    bounded X = max 50 (min 150 P) ↔
      P ≤ 50 ∧ X = 50 ∨ 150 ≤ P ∧ 150 ≤ X ∨ 50 < P ∧ P < 150 ∧ X = P := by
  unfold bounded clamp MIN_PREMIUM MAX_PREMIUM
  grind

theorem samePrice_iff :
    bounded (roundTo 2 x) = roundTo 2 (bounded (softClip p)) ↔ SamePrice x p := by
  have hfloor (y : ℚ) : roundTo 2 y ≤ 50 ↔ y ≤ 50 + 1 / 200 := by
    exact_mod_cast roundTo_two_le_iff (K := ℚ) (n := 50)
  have hceiling (y : ℚ) : 150 ≤ roundTo 2 y ↔ 150 - 1 / 200 ≤ y := by
    exact_mod_cast le_roundTo_two_iff (K := ℚ) (n := 150)
  have hfifty : 50 ≤ roundTo 2 x ↔ 50 - 1 / 200 ≤ x := by
    exact_mod_cast le_roundTo_two_iff (K := ℚ) (n := 50)
  rw [bounded_softClip, roundTo_max_min, bounded_eq_iff, le_antisymm_iff, hfloor, hfloor, hfifty,
    hceiling, hceiling, ← not_le, hfloor, ← not_le, hceiling, not_le, not_le]
  constructor
  · rintro (⟨hp, hhigh, hlow⟩ | ⟨hp, hx⟩ | ⟨hlow, hhigh, hsame⟩)
    · exact .floor hp hlow hhigh
    · exact .ceiling hp hx
    · exact .between hlow hhigh hsame
  · rintro (⟨hp, hlow, hhigh⟩ | ⟨hp, hx⟩ | ⟨hlow, hhigh, hsame⟩)
    · exact .inl ⟨hp, hhigh, hlow⟩
    · exact .inr (.inl ⟨hp, hx⟩)
    · exact .inr (.inr ⟨hlow, hhigh, hsame⟩)

/-- The estimate is never less than 50 then. -/
theorem SamePrice.le (h : SamePrice x p) : 50 - 1 / 200 ≤ x := by
  cases h with
  | floor hp hlow hhigh => exact hlow
  | ceiling hp hx => linarith
  | between hlow hhigh hsame =>
      have hp : (50 : ℤ) ≤ roundTo 2 p := le_roundTo_two_iff.mpr (by push_cast; linarith)
      rw [← hsame, le_roundTo_two_iff] at hp
      exact_mod_cast hp

end Amounts

section Estimates

variable {request : PipelineRequest} {features : FeatureResponse} {Lf Ct : ℚ}

theorem Calm.rawEstimate_eq (h : Calm request features Lf Ct) :
    rawEstimate request Lf =
      max request.Ew 1 * Lf * Ct * (if request.M = 0 then 1 / 10 else request.M) := by
  have hCt : Ct ≠ 0 := by
    have := h.Ct_mem.1
    linarith
  simp [rawEstimate, h.given, Option.filter, hCt]

theorem Calm.unclipped_eq (h : Calm request features Lf Ct) :
    unclippedPremium none (pricingPayload request features Lf) =
      request.Ew * (15 / 1000) * Lf * Ct * (1 + request.M) := by
  have hclamp : resolveCt request.platform (some Ct) = Ct := if_pos h.Ct_mem
  have hdemand : clamp 1 0 5 = (1 : ℚ) := by decide
  have hvolatility : clamp 0 0 1 = (0 : ℚ) := by decide
  have hzone : zoneMultiplier 1 0 = 1 := by decide +kernel
  simp [unclippedPremium, pricingPayload, h.given, h.demand_ratio, h.zone_volatility, hclamp,
    hdemand, hvolatility, hzone, rulePremium, ALPHA]

theorem bounded_bounded (x : ℚ) : bounded (bounded x) = bounded x := by
  unfold bounded clamp MIN_PREMIUM MAX_PREMIUM
  grind

theorem estimatePremium_eq (request : PipelineRequest) (Lf : ℚ) :
    estimatePremium request Lf = bounded (roundTo 2 (rawEstimate request Lf)) := by
  have hle : MIN_PREMIUM ≤ MAX_PREMIUM := by decide
  rw [estimatePremium, bounded_roundTo, bounded, clamp, max_min_distrib_left, max_eq_right hle,
    min_comm, max_comm]

theorem Calm.quoted_iff (h : Calm request features Lf Ct) :
    bounded (estimatePremium request Lf) =
        bounded (calculatePremium none (pricingPayload request features Lf)).premium ↔
      SamePrice (max request.Ew 1 * Lf * Ct * (if request.M = 0 then 1 / 10 else request.M))
        (request.Ew * (15 / 1000) * Lf * Ct * (1 + request.M)) := by
  rw [estimatePremium_eq, bounded_bounded, h.rawEstimate_eq, calculatePremium, h.unclipped_eq,
    bounded_roundTo (softClip _), samePrice_iff]

/-- Half a hundredth on either side. -/
theorem sub_le_of_hundredths_eq {x p : ℚ} (h : hundredths x = hundredths p) :
    x - p < 1 / 100 := by
  have hround : mathRound (x * 100) = mathRound (p * 100) := by
    unfold hundredths at h
    have hcast : (mathRound (x * 100) : ℚ) = mathRound (p * 100) := by linarith
    exact_mod_cast hcast
  have hx : x * 100 < mathRound (x * 100) + 1 / 2 := mathRound_le_iff.mp le_rfl
  have hp : mathRound (p * 100) - 1 / 2 ≤ p * 100 := le_mathRound_iff.mp le_rfl
  rw [hround] at hx
  linarith

/-- At the margin of the backend the estimate is six times the formula. -/
theorem Calm.margin_ne (h : Calm request features Lf Ct)
    (hone : OnePremium request features Lf Ct) :
    request.M ≠ 1 / 10 := by
  intro hM
  have hsame := (h.quoted_iff.mp hone.quoted).le
  rw [if_neg (by norm_num [hM]), hM] at hsame
  obtain ⟨hestimate, hrule, -⟩ := hone.raw hM
  have hclose := sub_le_of_hundredths_eq (hestimate.trans hrule.symm)
  rw [h.rawEstimate_eq, h.unclipped_eq, if_neg (by norm_num [hM]), hM] at hclose
  have hcover : Lf * Ct ≤ 1 * (9 / 10) :=
    mul_le_mul h.Lf_mem.2 h.Ct_mem.2 (by linarith [h.Ct_mem.1]) zero_le_one
  -- a week that earns one rupee is not worth fifty
  have hEw : max request.Ew 1 = request.Ew := by
    refine max_eq_left (le_of_not_ge fun hle => ?_)
    rw [max_eq_right hle] at hsame
    linarith
  rw [hEw] at hsame hclose
  linarith

end Estimates

/-- The estimate is the premium of the service, and the raw amounts are one, just when the margin
is not that of the backend and the two products meet within the bounds. -/
theorem onePremium_iff {request : PipelineRequest} {features : FeatureResponse} {Lf Ct : ℚ}
    (h : Calm request features Lf Ct) :
    OnePremium request features Lf Ct ↔
      request.M ≠ 1 / 10 ∧
        SamePrice (max request.Ew 1 * Lf * Ct * (if request.M = 0 then 1 / 10 else request.M))
          (request.Ew * (15 / 1000) * Lf * Ct * (1 + request.M)) := by
  constructor
  · intro hone
    exact ⟨h.margin_ne hone, h.quoted_iff.mp hone.quoted⟩
  · rintro ⟨hM, hsame⟩
    exact ⟨h.quoted_iff.mpr hsame, fun hmargin => absurd hmargin hM⟩

namespace Quoted

def features : FeatureResponse where
  rainfall := 10
  temperature := 25
  aqi := 80
  active_orders := 10
  active_riders := 10
  demand_ratio := 1
  sla_breach_rate := 0
  avg_delivery_delay_min := 0
  civic_alert := false
  is_fallback := true

/-- A usual week at a margin. -/
def request (M : ℚ) : PipelineRequest := { Ew := 8000, Ct := some (6 / 10), M }

theorem calm {M : ℚ} (h : M ∈ Set.Icc (0 : ℚ) 1) :
    Calm (request M) features (8 / 10) (6 / 10) where
  Ew_nonneg := Nat.ofNat_nonneg 8000
  Lf_mem := by constructor <;> norm_num
  Ct_mem := by constructor <;> norm_num
  given := rfl
  M_mem := h
  demand_ratio := rfl
  zone_volatility := rfl

end Quoted

open Quoted in
/-- The margin at which the two formulas are one. -/
theorem onePremium_margin : OnePremium (request (3 / 197)) features (8 / 10) (6 / 10) :=
  (onePremium_iff (calm (by constructor <;> norm_num))).mpr
    ⟨by decide +kernel, .between (by decide +kernel) (by decide +kernel) (by decide +kernel)⟩

open Quoted in
/-- At the usual margin the estimate is 150 and the premium of the service 63.36. -/
theorem not_onePremium :
    Calm (request (1 / 10)) features (8 / 10) (6 / 10) ∧
      ¬OnePremium (request (1 / 10)) features (8 / 10) (6 / 10) :=
  ⟨calm (by constructor <;> norm_num), by decide +kernel⟩

end Aegis.PricingService
