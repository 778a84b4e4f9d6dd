import Aegis.Library.HalfEven
import Aegis.Library.JsString
import Aegis.Model.RedisState

/-! # The hybrid fraud score

`fraud_service.py` of the ML service, with the drift that `feedback.py` keeps for it. The
exponential function is a parameter. -/

namespace Aegis.MlFraudService

open HalfEven

def ANOMALY_SIGMOID_SCALE : ℚ := -5

def SPEED_NORMAL_MEAN : ℚ := 60

def SPEED_NORMAL_STDEV : ℚ := 20

def FRAUD_RULE_SPEED_LIMIT : ℚ := 120

def FRAUD_RULE_CLAIM_FLOOD_LIMIT : ℚ := 4

structure FraudHybridScoreRequest where
  device_switch_frequency : ℚ
  gps_speed : ℚ
  h3_zone_consistency : ℚ
  claims_last_30d : ℚ
  claims_last_24h : ℚ
  earnings_pattern_deviation : ℚ
  mismatch : Bool := false
  shared_driver_count_24h : ℤ := 1
  driver_id : Option String := none
  auth_token : Option String := none
  deriving DecidableEq, Repr

structure FraudHybridScoreResponse where
  fraud_score : ℚ
  rule_score : ℚ
  ml_anomaly_score : ℚ
  ml_classifier_score : ℚ
  top_signals : List String
  model_used : String
  deriving DecidableEq, Repr

/-! ## The rules -/

structure HybridRule where
  signal : String
  weight : ℚ
  fires : FraudHybridScoreRequest → Bool

def hybridRules : List HybridRule :=
  [⟨"GPS_TELEPORT_PATTERN", 35 / 100, fun r => FRAUD_RULE_SPEED_LIMIT < r.gps_speed⟩,
    ⟨"CLAIM_BURST_30D", 25 / 100, fun r => FRAUD_RULE_CLAIM_FLOOD_LIMIT < r.claims_last_30d⟩,
    ⟨"CLAIM_BURST_24H", 25 / 100, fun r => 3 ≤ r.claims_last_24h⟩,
    ⟨"DEVICE_SWITCH_RING", 2 / 10, fun r => 4 < r.device_switch_frequency⟩,
    ⟨"DEVICE_SHARING_CLUSTER", 2 / 10, fun r => 5 ≤ r.shared_driver_count_24h⟩,
    ⟨"EARNINGS_PATTERN_DEVIATION", 2 / 10, fun r => 3 < r.earnings_pattern_deviation⟩,
    ⟨"DEVICE_MISMATCH", 2 / 10, fun r => r.mismatch⟩]

def buildHybridRuleScore (request : FraudHybridScoreRequest) : ℚ × List String :=
  let fired := hybridRules.filter fun rule => rule.fires request
  (min 1 (fired.map HybridRule.weight).sum, fired.map HybridRule.signal)

/-! ## The models -/

def featureVector (request : FraudHybridScoreRequest) : List ℚ :=
  [request.gps_speed,
    request.claims_last_30d / max request.claims_last_30d 1,
    if request.mismatch then 1 else 0,
    (request.gps_speed - SPEED_NORMAL_MEAN) / max SPEED_NORMAL_STDEV (1 / 1000000),
    request.claims_last_30d,
    request.claims_last_24h,
    request.h3_zone_consistency,
    request.gps_speed * 4,
    max 1 (120 / max request.gps_speed 1),
    request.shared_driver_count_24h,
    request.gps_speed]

/-- The models on disk; each of them may raise. -/
structure FraudModels where
  fraud_anomaly_model : Option (List ℚ → Option ℚ) := none
  fraud_classifier_model : Option (List ℚ → Option ℚ) := none

/-- What both models make of a request, if both are loaded and answer. -/
def FraudModels.answers (models : FraudModels) (request : FraudHybridScoreRequest) :
    Option (ℚ × ℚ) := do
  let anomaly ← models.fraud_anomaly_model
  let classifier ← models.fraud_classifier_model
  let raw_if ← anomaly (featureVector request)
  let gb_score ← classifier (featureVector request)
  pure (raw_if, gb_score)

/-! ## The shared store -/

structure MlRedis where
  revoked_tokens : List String := []
  adaptive_drift : Option ℚ := none
  deriving DecidableEq, Repr

/-- Whether the store answers the two queries. -/
structure MlIo where
  models : FraudModels
  revocationUp : Bool := true
  driftUp : Bool := true

section Score

variable (exp : ℚ → ℚ) (io : MlIo) (redis : MlRedis) (request : FraudHybridScoreRequest)

def normalizeAnomalyScore (raw_score : ℚ) : ℚ := 1 / (1 + exp (ANOMALY_SIGMOID_SCALE * raw_score))

def isTokenRevoked : Bool :=
  match request.auth_token with
  | some token => token ≠ "" && io.revocationUp && redis.revoked_tokens.contains token
  | none => false

/-- The drift that is added, if one is stored and can be read. -/
def readDrift : Option ℚ := if io.driftUp then redis.adaptive_drift else none

def rulesOnly : FraudHybridScoreResponse :=
  let (rule_score, signals) := buildHybridRuleScore request
  { fraud_score := roundTo 2 (rule_score * 100)
    rule_score := roundTo 2 (rule_score * 100)
    ml_anomaly_score := 0
    ml_classifier_score := 0
    top_signals := (if signals = [] then ["RULE_BASELINE"] else signals).take 3
    model_used := "rules_only" }

def unitClamp (x : ℚ) : ℚ := max 0 (min 1 x)

/-- The mix of the three scores; a revoked token sets it, the drift moves it. -/
def finalScore (rule_score anomaly_score gb_score : ℚ) : ℚ :=
  let final_score := 4 / 10 * rule_score + 3 / 10 * anomaly_score + 3 / 10 * gb_score
  let final_score := if isTokenRevoked io redis request then 1 else final_score
  let final_score := match readDrift io redis with
    | some drift_val => unitClamp (final_score + drift_val)
    | none => final_score
  unitClamp final_score

def calculateHybridFraudScore : FraudHybridScoreResponse :=
  match io.models.answers request with
  | none => rulesOnly request
  | some (raw_if, gb_score) =>
      let (rule_score, signals) := buildHybridRuleScore request
      let anomaly_score := normalizeAnomalyScore exp raw_if
      let signals := if isTokenRevoked io redis request then signals ++ ["REVOKED_OAUTH_TOKEN"]
        else signals
      { fraud_score :=
        roundTo 2 (finalScore io redis request rule_score anomaly_score gb_score * 100)
        rule_score := roundTo 2 (rule_score * 100)
        ml_anomaly_score := roundTo 2 (anomaly_score * 100)
        ml_classifier_score := roundTo 2 (gb_score * 100)
        top_signals := (if signals = [] then ["MODEL_ANOMALY_SIGNAL"] else signals).take 3
        model_used := "hybrid" }

end Score

/-! ## The feedback -/

def LEARNING_RATE : ℚ := 5 / 100

structure PayoutFeedback where
  payout_id : String
  predicted_risk : ℚ
  actual_outcome : ℚ
  driver_id : String
  h3_cell : String
  deriving DecidableEq, Repr

/-- The drift after one audit; it is kept within half a point. -/
def processPayoutAudit (redisUp : Bool) (feedback : PayoutFeedback) (redis : MlRedis) : MlRedis :=
  if redisUp then
    let error := feedback.actual_outcome - feedback.predicted_risk
    let current_drift := redis.adaptive_drift.getD 0
    let new_drift := current_drift + error * LEARNING_RATE
    { redis with adaptive_drift := some (max (-(5 / 10)) (min (5 / 10) new_drift)) }
  else redis

end Aegis.MlFraudService

/-! ## The audit after a payout

`PostPayoutAuditService.auditPayout`, which reports to the route of `feedback.py`. -/

namespace Aegis.PostPayoutAuditService

open Outcome RedisState MlFraudService

/-- `mlUp` tells whether the report reaches the ML service, `mlRedisUp` whether that reaches its
store. -/
structure AuditIo where
  now : ℤ
  readPayout : Bool := true
  redisUp : Bool := true
  mlUp : Bool := true
  mlRedisUp : Bool := true
  deriving DecidableEq, Repr

variable (io : AuditIo)

/-- The fraud score of the driver, at the time of the audit. -/
def predictedRisk (s : System) (driverId : String) : ℚ :=
  ((getDriverState io.redisUp io.now s.redis driverId).bind DriverState.fraudScore).getD (5 / 10)

/-- An approved payout counts as a legitimate loss. -/
def actualOutcome (payout : Payout) : ℚ := if payout.status = .APPROVED then 1 else 0

def sendFeedbackToMl (payoutId driverId : String) (predicted actual : ℚ) (s : System)
    (ml : MlRedis) : MlRedis :=
  let driverState := getDriverState io.redisUp io.now s.redis driverId
  let location := driverState.bind DriverState.last_location
  let h3_cell := (location.bind LastLocation.h3_cell).getD "unknown"
  if io.mlUp then
    processPayoutAudit io.mlRedisUp
      { payout_id := payoutId, predicted_risk := predicted, actual_outcome := actual
        driver_id := driverId, h3_cell } ml
  else ml

/-- The payout with its policy, when its event is known. -/
def findAudited (payoutId : String) (db : Db) : Option (Payout × Policy) := do
  let payout ← db.payouts.findUnique (.id payoutId)
  let policy ← db.policies.findUnique payout.policyId
  let _ ← db.disruptionEvents.findUnique payout.disruptionEventId
  pure (payout, policy)

def auditPayout (payoutId : String) (s : System) (ml : MlRedis) : Except Exn Unit × MlRedis :=
  if io.readPayout then
    match findAudited payoutId s.db with
    | none => (.ok (), ml)
    | some (payout, policy) =>
        (.ok (), sendFeedbackToMl io payoutId policy.userId (predictedRisk io s policy.userId)
          (actualOutcome payout) s ml)
  else (.error Payments.storeDown, ml)

end Aegis.PostPayoutAuditService
