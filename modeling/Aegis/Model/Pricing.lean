import Aegis.Library.JsString
import Aegis.Model.Pipeline

/-! # The pricing service

`pricing_service.py` of the ML service. -/

namespace Aegis.PricingService

open HalfEven JsString
open PipelineService (PricingPayload)
open RiskService (clamp)

def ALPHA : ℚ := 15 / 1000

def PREMIUM_MIN_CLIPPING : ℚ := 50

def PREMIUM_MAX_CLIPPING : ℚ := 300

def PREMIUM_RESIDUAL_MULTIPLIER : ℚ := 1 / 100

structure PricingResponse where
  premium : ℚ
  zone_multiplier : ℚ
  deriving DecidableEq, Repr

def DEFAULT_CT : ℚ := 60 / 100

def PLATFORM_CT : List (String × ℚ) :=
  [("zepto", 60 / 100), ("blinkit", 65 / 100), ("instamart", 55 / 100), ("jiomart", 60 / 100),
    ("bigbasket", 62 / 100)]

/-- The given coverage, else that of the platform. -/
def resolveCt (platform : Option String) (ct_override : Option ℚ) : ℚ :=
  match ct_override with
  | some ct => if 4 / 10 ≤ ct ∧ ct ≤ 9 / 10 then ct else clamp ct (4 / 10) (9 / 10)
  | none => (platform.bind fun name => PLATFORM_CT.lookup (trim (toLowerCase name))).getD DEFAULT_CT

def zoneMultiplier (demand_ratio zone_volatility : ℚ) : ℚ :=
  clamp (1 + (demand_ratio - 1) * (1 / 10) + zone_volatility * (2 / 10)) (8 / 10) 2

/-- The formula without the trained model. -/
def rulePremium (Ew Lf Ct M zone_multiplier : ℚ) : ℚ :=
  Ew * ALPHA * Lf * Ct * (1 + M) * zone_multiplier

/-- The amount that is clipped. `price_model` is the exponential of the prediction of the trained
model for the earnings, the loss fraction, the coverage and the margin; it may raise. -/
def unclippedPremium (price_model : Option (ℚ → ℚ → ℚ → ℚ → Option ℚ)) (request : PricingPayload) :
    ℚ :=
  let Ct := resolveCt request.platform request.Ct
  let zone_multiplier := zoneMultiplier request.demand_ratio request.zone_volatility
  match price_model.bind fun predict => predict request.Ew request.Lf Ct request.M with
  | some premium => premium * zone_multiplier
  | none => rulePremium request.Ew request.Lf Ct request.M zone_multiplier

/-- A hundredth of what is above the ceiling stays. -/
def softClip (premium : ℚ) : ℚ :=
  clamp premium PREMIUM_MIN_CLIPPING PREMIUM_MAX_CLIPPING +
    PREMIUM_RESIDUAL_MULTIPLIER * max 0 (premium - PREMIUM_MAX_CLIPPING)

def calculatePremium (price_model : Option (ℚ → ℚ → ℚ → ℚ → Option ℚ)) (request : PricingPayload) :
    PricingResponse where
  premium := roundTo 2 (softClip (unclippedPremium price_model request))
  zone_multiplier := roundTo 3 (zoneMultiplier request.demand_ratio request.zone_volatility)

end Aegis.PricingService
