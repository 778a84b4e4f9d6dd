import Aegis.Library.HalfEven

/-! # The risk service

`risk_service.py` of the ML service: the heuristic score that the pipeline asks for and the
model score that is published for a cell. -/

namespace Aegis.RiskService

open HalfEven

def SEVERITY_RAIN : ℚ := 6 / 10

def SEVERITY_FLOOD : ℚ := 7 / 10

def SEVERITY_AQI : ℚ := 4 / 10

def SEVERITY_TEMP : ℚ := 3 / 10

def RISK_LOW_THRESHOLD : ℚ := 3 / 10

def RISK_MEDIUM_THRESHOLD : ℚ := 6 / 10

/-- `max(lo, min(hi, value))`. -/
def clamp (value lo hi : ℚ) : ℚ := max lo (min hi value)

def scaled (value lo hi : ℚ) : ℚ :=
  if value ≤ lo then 0 else if hi ≤ value then 1 else (value - lo) / (hi - lo)

def deriveFloodProbability (rainfall : ℚ) : ℚ :=
  if rainfall < 20 then 0 else min 1 (rainfall / 100)

/-! ## The model score of a cell -/

structure RiskModelScoreRequest where
  rainfall_mm : ℚ
  aqi : ℚ
  demand_ratio : ℚ
  hour_of_day : ℚ
  day_of_week : ℚ
  historical_risk : ℚ
  deriving DecidableEq, Repr

structure RiskModelScoreResponse where
  lf_score : ℚ
  zone_state : String
  confidence : ℚ
  model_used : String
  deriving DecidableEq, Repr

/-- The estimator on disk, if there is one; it may raise. -/
structure RiskModel where
  risk_feature_names : List String := []
  predict_proba : Option (List ℚ → Option ℚ) := none

def RISK_MODEL_DEFAULT_FEATURES : List String :=
  ["rainfall_mm", "aqi_index", "demand_factor", "hour_of_day", "day_of_week",
    "zone_historical_risk", "driver_tenure_days"]

def toZoneState (lf_score : ℚ) : String :=
  if 75 / 100 ≤ lf_score then "HALTED"
  else if 4 / 10 ≤ lf_score then "ELEVATED"
  else "NORMAL"

def heuristicFallbackScore (request : RiskModelScoreRequest) : ℚ :=
  let p_rain := scaled request.rainfall_mm 5 40
  let p_aqi := scaled request.aqi 70 200
  let p_demand := scaled request.demand_ratio 1 2
  let p_history := min 1 (max 0 request.historical_risk)
  max 0 (min 1 (1 - (1 - p_rain * (6 / 10)) * (1 - p_aqi * (4 / 10)) *
    (1 - p_demand * (25 / 100)) * (1 - p_history * (15 / 100))))

def featureMap (request : RiskModelScoreRequest) : List (String × ℚ) :=
  [("rainfall_mm", clamp request.rainfall_mm 0 250), ("aqi_index", clamp request.aqi 0 500),
    ("demand_factor", clamp request.demand_ratio (4 / 10) 3),
    ("hour_of_day", clamp request.hour_of_day 0 23),
    ("day_of_week", clamp request.day_of_week 0 6),
    ("zone_historical_risk", clamp request.historical_risk 0 1), ("driver_tenure_days", 180)]

def featureVector (model : RiskModel) (request : RiskModelScoreRequest) : List ℚ :=
  let feature_names := if model.risk_feature_names = [] then RISK_MODEL_DEFAULT_FEATURES
    else model.risk_feature_names
  feature_names.map fun name => ((featureMap request).lookup name).getD 0

/-- The label is taken from the score before it is rounded. -/
def scoreRiskModel (model : RiskModel) (request : RiskModelScoreRequest) :
    RiskModelScoreResponse :=
  match model.predict_proba.bind fun predict => predict (featureVector model request) with
  | some proba =>
      let lf_score := max 0 (min 1 proba)
      let confidence := max (55 / 100) (min (98 / 100) (|lf_score - 1 / 2| * (18 / 10)))
      ⟨roundTo 4 lf_score, toZoneState lf_score, roundTo 4 confidence, "xgboost"⟩
  | none =>
      let lf_score := heuristicFallbackScore request
      let confidence := max (45 / 100) (min (7 / 10)
        (65 / 100 - |1 / 2 - lf_score| * (15 / 100)))
      ⟨roundTo 4 lf_score, toZoneState lf_score, roundTo 4 confidence, "fallback"⟩

/-! ## The score of a pipeline run -/

structure RiskScoreRequest where
  rainfall : ℚ
  temperature : ℚ
  aqi : ℚ
  demand_ratio : ℚ
  historical_disruption_frequency : Option ℚ := some (35 / 100)
  zone_volatility : Option ℚ := some (25 / 100)
  avg_speed_kmh : Option ℚ := some 18
  deriving DecidableEq, Repr

structure RiskScoreResponse where
  Lf : ℚ
  risk_level : String
  confidence : ℚ
  scoring_path : String
  deriving DecidableEq, Repr

section Score

variable (request : RiskScoreRequest)

def pHistory : ℚ := min 1 (max 0 (request.historical_disruption_frequency.getD 0))

def pVolatility : ℚ := min 1 (max 0 (request.zone_volatility.getD 0))

def pDemand : ℚ := scaled request.demand_ratio 1 2

/-- Flood and rain are one cluster; the worse of the two counts. -/
def rainCluster : ℚ :=
  max (scaled request.rainfall 5 40 * SEVERITY_RAIN)
    (deriveFloodProbability request.rainfall * SEVERITY_FLOOD)

def aqiCluster : ℚ := scaled request.aqi 70 200 * SEVERITY_AQI

def tempCluster : ℚ := scaled request.temperature 36 45 * SEVERITY_TEMP

def demandCluster : ℚ := 25 / 100 * pDemand request

def speedCluster : ℚ := 20 / 100 * scaled (max 0 (25 - request.avg_speed_kmh.getD 0)) 5 20

def historyCluster : ℚ := 15 / 100 * pHistory request

def volatilityCluster : ℚ := 10 / 100 * pVolatility request

def currentLf : ℚ :=
  1 - (1 - rainCluster request) * (1 - aqiCluster request) * (1 - tempCluster request) *
    (1 - demandCluster request) * (1 - speedCluster request) * (1 - historyCluster request) *
    (1 - volatilityCluster request)

/-- The score smoothed with the one before it, which is kept as it is. -/
def smoothedLf (previous : Option ℚ) : ℚ :=
  7 / 10 * currentLf request + 3 / 10 * previous.getD (currentLf request)

def riskLevel (Lf : ℚ) : String :=
  if Lf < RISK_LOW_THRESHOLD then "LOW"
  else if Lf < RISK_MEDIUM_THRESHOLD then "MEDIUM"
  else "HIGH"

/-- The answer, and the value that the next run of the cell is smoothed with. -/
def calculateRiskScore (previous : Option ℚ) : RiskScoreResponse × ℚ :=
  let stored := smoothedLf request previous
  let Lf := max 0 (min 1 stored)
  let confidence := max (55 / 100) (min (98 / 100)
    (1 - 4 / 10 * |pHistory request - pDemand request| - 2 / 10 * pVolatility request))
  (⟨roundTo 4 Lf, riskLevel Lf, roundTo 4 confidence, "heuristic_v2"⟩, stored)

end Score

/-! ## The score before, kept for each cell -/

/-- The hash `lf:smooth:<cell>`, and when it expires. -/
structure SmoothedScore where
  lf : ℚ
  expiresAt : ℤ
  deriving DecidableEq, Repr

def getPreviousLf (now : ℤ) (stored : Option SmoothedScore) : Option ℚ :=
  (stored.filter fun score => now < score.expiresAt).map SmoothedScore.lf

def storeLf (now : ℤ) (lf : ℚ) : SmoothedScore := ⟨lf, now + 3600⟩

/-- A request for the cell at the instant `now`, and what the store holds after it. -/
def riskScoreCall (stored : Option SmoothedScore) (now : ℤ) (request : RiskScoreRequest) :
    RiskScoreResponse × Option SmoothedScore :=
  let (response, lf) := calculateRiskScore request (getPreviousLf now stored)
  (response, some (storeLf now lf))

/-- The answers to the requests for one cell. -/
def riskScoreHistory :
    Option SmoothedScore → List (ℤ × RiskScoreRequest) → List RiskScoreResponse
  | _, [] => []
  | stored, (now, request) :: calls =>
      (riskScoreCall stored now request).1 ::
        riskScoreHistory (riskScoreCall stored now request).2 calls

end Aegis.RiskService
