import Aegis.Model.FraudModel
import Aegis.Model.FraudReview
import Mathlib.Logic.Function.Basic

/-! # Enforcement and fraud scores

`enforcement_service.py` of the ML service, which writes to the tables of the backend, and the
scoring requests that end with it. -/

namespace Aegis.AegisEnforcementEngine

open MlFraudService PayoutService

def ENFORCEMENT_FRAUD_THRESHOLD : ℚ := 10

def ENFORCEMENT_MAX_WARNINGS : ℕ := 3

/-- The columns of `users` that no other service uses. -/
structure Warnings where
  fraudWarningCount : ℕ := 0
  isActive : Bool := true
  deriving DecidableEq, Repr

structure Tables where
  db : Db
  warnings : String → Warnings := fun _ => {}

/-- `executed` when no statement before the commit fails; `twilio` when there is a client. -/
structure EnforcementIo where
  connected : Bool := true
  executed : Bool := true
  committed : Bool := true
  twilio : Bool := true
  deriving DecidableEq, Repr

def warningBody : String :=
  "Aegis Compliance: Unusual activity detected on your account (Location Conflict). " ++
  "Multiple simultaneous logins are a violation of your insurance terms. " ++
  "Your account is under 24/7 monitoring. Continued violations will lead to an immediate block."

def suspensionBody : String :=
  "Aegis: Your account has been suspended indefinitely due to repeated compliance violations."

/-- The statements of the transaction; `true` when they suspend the driver. -/
def warn (driver_id : String) (t : Tables) : Bool × Tables :=
  if (t.db.users.findUnique (.id driver_id)).isSome then
    let warning_count := (t.warnings driver_id).fraudWarningCount + 1
    if ENFORCEMENT_MAX_WARNINGS ≤ warning_count then
      (true,
        { db := { t.db with
            fraudAnalyses := t.db.fraudAnalyses.update driver_id
              (FraudService.setStatus "SUSPENDED") }
          warnings := Function.update t.warnings driver_id ⟨warning_count, false⟩ })
    else
      (false, { t with
        warnings := Function.update t.warnings driver_id
          { t.warnings driver_id with fraudWarningCount := warning_count } })
  else (false, t)

/-- What the call leaves behind, with the text that it sends. -/
structure Enforced extends Tables where
  sms : Option String := none
  suspends : Bool := false

/-- The text speaks of a suspension even where the commit has failed. -/
def enforceFraudPolicy (io : EnforcementIo) (driver_id : Option String) (fraud_score : ℚ)
    (phone_number : Option String) (t : Tables) : Enforced :=
  match truthy driver_id with
  | none => { toTables := t }
  | some driver_id =>
      if fraud_score < ENFORCEMENT_FRAUD_THRESHOLD then { toTables := t }
      else
        let (is_suspended, after) :=
          if io.connected && io.executed then warn driver_id t else (false, t)
        { toTables := if io.committed then after else t
          sms :=
            if io.twilio && (truthy phone_number).isSome then
              some (if is_suspended then suspensionBody else warningBody)
            else none
          suspends := is_suspended && io.committed }

/-! ## Scoring requests -/

/-- A request to one of the two routes. `calculate_fraud_score` is left with the score of its
response. -/
inductive ScoringRequest where
  | hybrid (exp : ℚ → ℚ) (io : MlIo) (redis : MlRedis) (request : FraudHybridScoreRequest)
  | standard (driver_id : Option String) (score : ℚ)

def ScoringRequest.driver_id : ScoringRequest → Option String
  | hybrid _ _ _ request => request.driver_id
  | standard driver_id _ => driver_id

/-- The score that is enforced, from 0 to 100. -/
def ScoringRequest.fraud_score : ScoringRequest → ℚ
  | hybrid exp io redis request => (calculateHybridFraudScore exp io redis request).fraud_score
  | standard _ score => score * 100

/-- Every route ends with the enforcement, whichever way the score was computed. -/
def ScoringRequest.enforce (r : ScoringRequest) (io : EnforcementIo) (phone_number : Option String)
    (t : Tables) : Enforced :=
  enforceFraudPolicy io r.driver_id r.fraud_score phone_number t

end Aegis.AegisEnforcementEngine

/-! ## The request for a fraud score

`FraudService.fetchHybridFraudScore` and the route `/fraud/score` that it calls. A field that
a body leaves out is `none`. -/

namespace Aegis.MlFraudService

open AegisEnforcementEngine

structure FraudScoreBody where
  account_age_days : ℚ
  device_id_uniqueness : ℚ
  device_switch_frequency : ℚ
  gps_speed : ℚ
  h3_zone_consistency : ℚ
  claims_last_30d : ℚ
  claims_last_24h : ℚ
  trigger_frequency : ℚ
  earnings_pattern_deviation : ℚ
  mismatch : Bool
  shared_driver_count_24h : ℚ
  driver_id : Option String := none
  phone_number : Option String := none
  auth_token : Option String := none
  /-- These four are sent, and the schema does not know them. -/
  altitude_accuracy : ℚ := 0
  is_spoofed : ℚ := 0
  spoof_provider : Option String := none
  developer_mode : ℚ := 0
  deriving DecidableEq, Repr

/-! ## The schema -/

/-- `Field(ge=…, le=…)`. -/
structure FieldBound where
  field : String
  value : FraudScoreBody → ℚ
  ge : ℚ := 0
  le : ℚ

def FieldBound.holds (bound : FieldBound) (body : FraudScoreBody) : Bool :=
  bound.ge ≤ bound.value body && bound.value body ≤ bound.le

/-- The bounds of `FraudHybridScoreRequest`. -/
def hybridBounds : List FieldBound :=
  [{ field := "account_age_days", value := FraudScoreBody.account_age_days, le := 10000 },
    { field := "device_id_uniqueness", value := FraudScoreBody.device_id_uniqueness, le := 1 },
    { field := "device_switch_frequency", value := FraudScoreBody.device_switch_frequency,
      le := 100 },
    { field := "gps_speed", value := FraudScoreBody.gps_speed, le := 500 },
    { field := "h3_zone_consistency", value := FraudScoreBody.h3_zone_consistency, le := 1 },
    { field := "claims_last_30d", value := FraudScoreBody.claims_last_30d, le := 1000 },
    { field := "claims_last_24h", value := FraudScoreBody.claims_last_24h, le := 100 },
    { field := "trigger_frequency", value := FraudScoreBody.trigger_frequency, le := 100 },
    { field := "earnings_pattern_deviation", value := FraudScoreBody.earnings_pattern_deviation,
      le := 100 },
    { field := "shared_driver_count_24h", value := FraudScoreBody.shared_driver_count_24h, ge := 1,
      le := 100 }]

/-- The fields that are refused; a number of drivers is a whole one. -/
def invalidFields (body : FraudScoreBody) : List String :=
  (hybridBounds.filter fun bound => !bound.holds body).map FieldBound.field ++
    (if body.shared_driver_count_24h.den = 1 then [] else ["shared_driver_count_24h"])

/-- The request, or the fields that a `422` names. -/
def parseHybridRequest (body : FraudScoreBody) : Except (List String) FraudHybridScoreRequest :=
  if invalidFields body = [] then
    .ok {
      device_switch_frequency := body.device_switch_frequency
      gps_speed := body.gps_speed
      h3_zone_consistency := body.h3_zone_consistency
      claims_last_30d := body.claims_last_30d
      claims_last_24h := body.claims_last_24h
      earnings_pattern_deviation := body.earnings_pattern_deviation
      mismatch := body.mismatch
      shared_driver_count_24h := body.shared_driver_count_24h.num
      driver_id := body.driver_id
      auth_token := body.auth_token }
  else .error (invalidFields body)

/-! ## The route -/

/-- What a request to the service meets. -/
structure ScoringIo where
  exp : ℚ → ℚ
  ml : MlIo
  redis : MlRedis := {}
  enforcement : EnforcementIo := {}

/-- `POST /fraud/score`. -/
def getHybridFraudScore (io : ScoringIo) (body : FraudScoreBody) (t : Tables) :
    Except (List String) FraudHybridScoreResponse × Tables :=
  match parseHybridRequest body with
  | .error fields => (.error fields, t)
  | .ok request =>
      (.ok (calculateHybridFraudScore io.exp io.ml io.redis request),
        ((ScoringRequest.hybrid io.exp io.ml io.redis request).enforce io.enforcement
          body.phone_number t).toTables)

end Aegis.MlFraudService

namespace Aegis.FraudService

open MlFraudService AegisEnforcementEngine

/-- `reqBody`. -/
def hybridScoreBody (db : Db) (userId : String) (features : FraudFeatureResponse)
    (dto : AnalyzeFraudDto) (token : Option String) : FraudScoreBody where
  account_age_days := features.identity.account_age_days
  device_id_uniqueness := features.identity.device_id_uniqueness
  device_switch_frequency := features.identity.device_switch_frequency
  gps_speed := features.location.gps_speed
  h3_zone_consistency := features.location.h3_zone_consistency
  claims_last_30d := features.behavior.claims_last_30d
  claims_last_24h := features.metaData.claims_last_24h.getD 0
  trigger_frequency := features.behavior.trigger_frequency
  earnings_pattern_deviation := features.behavior.earnings_pattern_deviation
  mismatch := features.identity.device_id_uniqueness < 3 / 10
  shared_driver_count_24h := features.metaData.device_user_count.getD 1
  phone_number := (db.users.findUnique (.id userId)).bind User.phone
  altitude_accuracy := dto.altitudeAccuracy.getD 0
  is_spoofed := dto.isSpoofed.getD 0
  spoof_provider := dto.spoof_provider
  developer_mode := dto.developerMode.getD 0
  auth_token := token

/-- A request of `fetchHybridFraudScore`. -/
structure ScoreCall where
  userId : String
  features : FraudFeatureResponse
  dto : AnalyzeFraudDto
  token : Option String := none
  io : ScoringIo

def ScoreCall.body (c : ScoreCall) (db : Db) : FraudScoreBody :=
  hybridScoreBody db c.userId c.features c.dto c.token

def fetchHybridFraudScore (c : ScoreCall) (t : Tables) :
    Except (List String) FraudHybridScoreResponse × Tables :=
  getHybridFraudScore c.io (c.body t.db) t

end Aegis.FraudService
