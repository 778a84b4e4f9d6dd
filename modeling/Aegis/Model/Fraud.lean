import Aegis.Library.Json
import Aegis.Library.Number
import Aegis.Model.RedisState

/-! # Fraud scoring

`FraudService.analyzeFraud` with its two scoring services, and
`FraudIntegrationService.computeFraudScore`. The texts that describe an analysis are
not modelled; where building one can throw, the model throws. -/

namespace Aegis.FraudService

open Outcome RedisState JsString Number

structure Config where
  latLngToCell : ℚ → ℚ → String
  sha256 : String → String
  /-- The numbers other than finite ones that the client library puts in a `Float` column. -/
  nonFiniteColumn : JsNumber → Bool

def Config.storable (cfg : Config) : JsNumber → Bool
  | .fin _ => true
  | x => cfg.nonFiniteColumn x

structure AnalyzeFraudDto where
  gpsLatitude : ℚ
  gpsLongitude : ℚ
  deviceId : Option String := none
  upiId : Option String := none
  claimAmount : Option ℚ := none
  eventType : Option String := none
  accelerometerVariance : Option ℚ := none
  barometricPressureHpa : Option ℚ := none
  acousticMatchConfidence : Option ℚ := none
  deviceIntegrity : Option String := none
  networkType : Option String := none
  velocityCheck : Option String := none
  altitudeAccuracy : Option ℚ := none
  isSpoofed : Option ℚ := none
  spoof_provider : Option String := none
  developerMode : Option ℚ := none
  deriving DecidableEq, Repr

/-! ## The scoring services -/

structure IdentityFeatures where
  account_age_days : ℚ
  device_id_uniqueness : ℚ
  device_switch_frequency : ℚ
  oauth_token_valid : Bool
  deriving DecidableEq, Repr

structure LocationFeatures where
  gps_speed : ℚ
  gps_cell_distance : ℚ
  h3_zone_consistency : ℚ
  deriving DecidableEq, Repr

structure BehaviorFeatures where
  claims_last_30d : ℚ
  trigger_frequency : ℚ
  earnings_pattern_deviation : ℚ
  deriving DecidableEq, Repr

structure MetaFeatures where
  h3_cell : String
  timestamp : ℤ
  device_high_share : Option Bool := none
  device_user_count : Option ℚ := none
  h3_burst_detected : Option Bool := none
  h3_active_count : Option ℚ := none
  claims_last_24h : Option ℚ := none
  deriving DecidableEq, Repr

structure FraudFeatureResponse where
  identity : IdentityFeatures
  location : LocationFeatures
  behavior : BehaviorFeatures
  metaData : MetaFeatures
  deriving DecidableEq, Repr

/-- How the two services answer one analysis. `features` is `none` when the service
answers `null` or its breaker rejects, `ml` when the scorer fails or times out. -/
structure Scoring where
  features : Option FraudFeatureResponse
  ml : Option Json

structure FraudIo where
  now : ℤ
  scoring : Scoring
  readFingerprints : Bool
  readPayouts : Bool
  createFingerprint : Bool
  enqueue : Bool
  readUser : Bool
  readAnalysis : Bool
  analysisId : String
  writeAnalysis : Bool
  redisUp : Bool

/-! ## Duplicate claims -/

structure DuplicateClaimSignal where
  isDuplicate : Bool
  isCrossUserBurst : Bool
  signalScore : ℚ
  deriving DecidableEq, Repr

def DUPLICATE_CLAIM_WINDOW_HOURS : ℤ := 24

def DUPLICATE_CLAIM_AMOUNT_VARIANCE : ℚ := 15 / 100

def DUPLICATE_CLAIM_AMOUNT_BUCKET : ℚ := 50

def DUPLICATE_CLAIM_CROSS_USER_THRESHOLD : ℕ := 3

section Duplicates

variable (cfg : Config) (io : FraudIo) (userId : String) (dto : AnalyzeFraudDto)

def noSignal : DuplicateClaimSignal := ⟨false, false, 0⟩

def isClaimEvent : Bool :=
  dto.eventType.any (fun type => includes (toUpperCase type) "CLAIM") ||
    dto.claimAmount.any fun amount => amount ≠ 0

def windowStart : ℤ := io.now - DUPLICATE_CLAIM_WINDOW_HOURS * 60 * 60 * 1000

def getTimeBucket (now : ℤ) : ℤ := now / 1000 / 1800

def amountBucket (claimAmount : ℚ) : ℤ :=
  mathRound (claimAmount / DUPLICATE_CLAIM_AMOUNT_BUCKET) * 50

def newFingerprint : ClaimFingerprint :=
  let h3Cell := cfg.latLngToCell dto.gpsLatitude dto.gpsLongitude
  let eventType := dto.eventType.getD "CLAIM_EVENT"
  let claimAmount := dto.claimAmount.getD 0
  let timeBucket := getTimeBucket io.now
  { userId, h3Cell, eventType, claimAmount
    amountBucket := amountBucket claimAmount
    timeBucket
    fingerprintHash := cfg.sha256 (eventType ++ "|" ++ h3Cell ++ "|" ++
      toString (amountBucket claimAmount) ++ "|" ++ toString timeBucket)
    createdAt := io.now }

/-- The latest payouts on the user's policies, at most five. -/
def recentPayouts (db : Db) : List Payout :=
  (db.payouts.findManyDesc
    (fun p => ((db.policies.findUnique p.policyId).map Policy.userId) = some userId &&
      windowStart io ≤ p.createdAt) Payout.createdAt).take 5

/-- The payout is within the variance of the claimed amount. -/
def amountMatches (claimAmount : ℚ) (payout : Payout) : Bool :=
  let approved := (payout.approvedPayout.or payout.estimatedLoss).getD 0
  0 < approved && |approved - claimAmount| / max 1 claimAmount ≤ DUPLICATE_CLAIM_AMOUNT_VARIANCE

def disruptionMatches (db : Db) (eventType : String) (payout : Payout) : Bool :=
  ((db.disruptionEvents.findUnique payout.disruptionEventId).map DisruptionEvent.type) =
    some eventType

def duplicateSignal (db : Db) : DuplicateClaimSignal :=
  let fingerprintMatches := db.claimFingerprints.rows.filter fun f =>
    f.fingerprintHash = (newFingerprint cfg io userId dto).fingerprintHash &&
      windowStart io ≤ f.createdAt
  let distinctUserCount := (fingerprintMatches.map ClaimFingerprint.userId).dedup.length
  let sameUser := fingerprintMatches.any fun f => f.userId = userId
  let isCrossUserBurst := decide (DUPLICATE_CLAIM_CROSS_USER_THRESHOLD ≤ distinctUserCount)
  let recent := recentPayouts io userId db
  let claimAmount := dto.claimAmount.getD 0
  let matchedAmount := claimAmount ≠ 0 && recent.any (amountMatches claimAmount)
  let matchedDisruption := dto.eventType.any fun eventType =>
    eventType ≠ "" && recent.any (disruptionMatches db eventType)
  let signalScore : ℚ :=
    (if 2 ≤ recent.length then 25 else if recent.length = 1 then 15 else 0) +
      (if sameUser then 20 else 0) + (if isCrossUserBurst then 20 else 0) +
      (if matchedAmount then 20 else 0) + (if matchedDisruption then 10 else 0)
  { isDuplicate := isCrossUserBurst || sameUser || decide (0 < recent.length)
    isCrossUserBurst
    signalScore := min 60 signalScore }

/-- The fingerprint is kept when it can be; a failing insert is tolerated. -/
def detectDuplicateClaim (db : Db) : Except Exn (DuplicateClaimSignal × Db) :=
  if isClaimEvent dto then do
    require (io.readFingerprints = true ∧ io.readPayouts = true) Payments.storeDown
    let inserted := if io.createFingerprint then
      db.claimFingerprints.create (newFingerprint cfg io userId dto) else none
    pure (duplicateSignal cfg io userId dto db,
      { db with claimFingerprints := inserted.getD db.claimFingerprints })
  else pure (noSignal, db)

def applyDuplicateClaimPenalty (riskScore : JsNumber) (signal : DuplicateClaimSignal) :
    JsNumber :=
  if !signal.isDuplicate || signal.signalScore ≤ 0 then riskScore.minFin 100
  else (riskScore.addFin signal.signalScore).minFin 100

end Duplicates

/-! ## Sentinels and heuristics -/

def STATIONARY_THRESHOLD : ℚ := 1 / 2

def STORM_PRESSURE_THRESHOLD : ℚ := 1000

def ACOUSTIC_CONFIDENCE_THRESHOLD : ℚ := 75 / 100

def kinematicAnomaly (dto : AnalyzeFraudDto) : Bool :=
  dto.accelerometerVariance.any (· < STATIONARY_THRESHOLD)

def atmosAnomaly (dto : AnalyzeFraudDto) : Bool :=
  dto.barometricPressureHpa.any (STORM_PRESSURE_THRESHOLD < ·) ||
    dto.acousticMatchConfidence.any (· < ACOUSTIC_CONFIDENCE_THRESHOLD)

/-- The points for a condition that holds. -/
def points (holds : Bool) (score : ℚ) : ℚ := if holds then score else 0

/-- The layers that read the feature vector. -/
def featurePoints (f : FraudFeatureResponse) : ℚ :=
  points (f.identity.account_age_days < 7) 20 +
  points (f.identity.device_id_uniqueness < 3 / 10) 15 +
  points (3 < f.identity.device_switch_frequency) 20 +
  points (150 < f.location.gps_speed) 25 +
  points (f.location.h3_zone_consistency < 3 / 10) 10 +
  points (50 < f.location.gps_cell_distance) 15 +
  points (10 < f.behavior.claims_last_30d) 20 +
  points (1 < f.behavior.trigger_frequency) 15 +
  points (1 < f.behavior.earnings_pattern_deviation) 10 +
  points (f.metaData.device_high_share.getD false) 20 +
  points (f.metaData.h3_burst_detected.getD false) 15 +
  points (2 ≤ f.metaData.claims_last_24h.getD 0) 20

/-- The layers that read the request. -/
def devicePoints (dto : AnalyzeFraudDto) : ℚ :=
  points (dto.deviceIntegrity = some "Rooted Device") 20 +
  points (dto.deviceIntegrity = some "Jailbroken Device") 25 +
  points (dto.networkType = some "Premium VPN") 15 +
  points (dto.networkType = some "Proxy") 25 +
  points (dto.velocityCheck = some "Suspicious") 20 +
  points (dto.isSpoofed.getD 0 ≠ 0) 60 +
  points (dto.developerMode.getD 0 ≠ 0) 30 +
  points (dto.altitudeAccuracy.any (10 < ·)) 10

def scoreFromFeatures (f : Option FraudFeatureResponse) (dto : AnalyzeFraudDto) : ℚ :=
  min ((f.map featurePoints).getD 0 + devicePoints dto) 100

/-! ## The answer of the scorer -/

/-- The score that stands in for a scorer that fails. -/
def failClosed : Json :=
  .obj [("fraud_score", .num 95), ("rule_score", .num 95), ("ml_anomaly_score", .num 0),
    ("ml_classifier_score", .num 0), ("top_signals", .arr [.str "SYSTEM_FAIL_CLOSED"]),
    ("model_used", .str "rules_only")]

def pushedSignals (signal : DuplicateClaimSignal) : List Json :=
  (if signal.isDuplicate then [.str "DUPLICATE_CLAIM_SIGNAL"] else []) ++
    (if signal.isCrossUserBurst then [.str "DUPLICATE_CLAIM_BURST"] else [])

/-- `topSignals.push`, which only arrays have. -/
def pushSignals (topSignals : Json) (pushed : List Json) : Except Exn Json :=
  match topSignals, pushed with
  | .arr items, pushed => .ok (.arr (items ++ pushed))
  | topSignals, [] => .ok topSignals
  | _, _ :: _ => .error (.typeError "topSignals.push is not a function")

/-- Whether `topSignals.length ? topSignals.join(', ') : …` returns. -/
def joinable : Json → Bool
  | .arr items => Json.allPrintable items
  | .str s => s = ""
  | .obj fields => !((Json.obj fields).get "length").any Json.truthy
  | _ => true

structure Verdict where
  riskScore : JsNumber
  topSignals : Json

/-- What `analyzeFraud` makes of the scorer's body. -/
def readVerdict (body : Json) (signal : DuplicateClaimSignal) : Except Exn Verdict := do
  require (body.isNull = false) (.typeError "Cannot read properties of null")
  let score ← orThrow (Json.memberToNumber (body.get "fraud_score"))
    (.typeError "Cannot convert object to primitive value")
  require ((body.get "model_used").all Json.printable = true)
    (.typeError "Cannot convert object to primitive value")
  let topSignals ← pushSignals ((body.get? "top_signals").getD (.arr [])) (pushedSignals signal)
  require (joinable topSignals = true) (.typeError "topSignals.join is not a function")
  pure ⟨applyDuplicateClaimPenalty score signal, topSignals⟩

def statusOf (riskScore : JsNumber) : String :=
  if riskScore.geFin 75 then "AUTO_REJECTED"
  else if riskScore.geFin 45 then "INCONCLUSIVE"
  else "APPROVED"

/-! ## The stored analysis -/

/-- A row with the defaults of the schema. -/
def blankAnalysis (id userId : String) : FraudAnalysis where
  id := id
  userId := userId
  gpsLatitude := none
  gpsLongitude := none
  riskScore := .fin 0
  status := "PENDING"
  deviceIntegrity := none
  networkType := none
  velocityCheck := none
  accelerometerVariance := none
  barometricPressureHpa := none
  acousticMatchConfidence := none
  isKinematicallyValid := none
  fraudReason := none

def KINEMATIC_REASON : String :=
  "Kinematic Sentinel anomaly detected: Device momentum does not match physical expectations for a delivery vehicle"

def ATMOS_REASON : String :=
  "Atmos Sentinel anomaly detected: Environmental telemetry does not match claimed weather event."

def spoofedData (dto : AnalyzeFraudDto) (isKinematicallyValid : Bool) (fraudReason : String) :
    RowUpdate FraudAnalysis.keys where
  apply a := { a with
    gpsLatitude := some dto.gpsLatitude
    gpsLongitude := some dto.gpsLongitude
    riskScore := .fin 100
    status := "SPOOFED_ATTACK"
    deviceIntegrity := dto.deviceIntegrity
    networkType := dto.networkType
    velocityCheck := dto.velocityCheck
    accelerometerVariance := dto.accelerometerVariance
    barometricPressureHpa := dto.barometricPressureHpa
    acousticMatchConfidence := dto.acousticMatchConfidence
    isKinematicallyValid := some isKinematicallyValid
    fraudReason := some fraudReason }
  keys_apply _ := rfl

/-- Pressure, acoustics and reason of an earlier analysis stay. -/
def scoredData (dto : AnalyzeFraudDto) (riskScore : JsNumber) :
    RowUpdate FraudAnalysis.keys where
  apply a := { a with
    gpsLatitude := some dto.gpsLatitude
    gpsLongitude := some dto.gpsLongitude
    riskScore := riskScore
    status := statusOf riskScore
    deviceIntegrity := dto.deviceIntegrity
    networkType := dto.networkType
    velocityCheck := dto.velocityCheck
    accelerometerVariance := dto.accelerometerVariance
    isKinematicallyValid := some true }
  keys_apply _ := rfl

section Analyze

variable (cfg : Config) (io : FraudIo) (userId : String) (dto : AnalyzeFraudDto)

/-- The analysis of a user is created or updated. -/
def writeAnalysis (data : RowUpdate FraudAnalysis.keys) (db : Db) : Except Exn Db := do
  require (io.readAnalysis = true ∧ io.writeAnalysis = true) Payments.storeDown
  let fraudAnalyses ← orThrow
    (db.fraudAnalyses.upsert userId (data.apply (blankAnalysis io.analysisId userId)) data)
    Payments.constraintFailed
  pure { db with fraudAnalyses }

def persistFraudAnalysis (data : RowUpdate FraudAnalysis.keys) (db : Db) : Except Exn Db := do
  require (io.readUser = true) Payments.storeDown
  if (db.users.findUnique (.id userId)).isSome then writeAnalysis io userId data db else pure db

/-- A sentinel stores the attack and refuses the request. -/
def refuse (data : RowUpdate FraudAnalysis.keys) (reason : String) (db : Db) : Exn × Db :=
  match persistFraudAnalysis io userId data db with
  | .ok db => (.forbidden reason, db)
  | .error e => (e, db)

/-- `data.analysis` of the result when no features were delivered. -/
structure FallbackAnalysis where
  riskScore : ℚ
  status : String
  fraudReason : String
  deriving DecidableEq, Repr

/-- `result.data`. -/
structure AnalyzeData where
  riskScore : Option JsNumber := none
  status : Option String := none
  topSignals : Option Json := none
  features : Option FraudFeatureResponse := none
  analysis : Option FallbackAnalysis := none

/-- The risk score that was computed, wherever the result carries it. -/
def AnalyzeData.computed (data : AnalyzeData) : JsNumber :=
  data.riskScore.getD (((data.analysis.map FallbackAnalysis.riskScore).map JsNumber.fin).getD .nan)

def unavailable : AnalyzeData :=
  let fallback := scoreFromFeatures none dto
  { analysis := some
      { riskScore := fallback
        status := if 75 ≤ fallback then "AUTO_REJECTED" else "INCONCLUSIVE"
        fraudReason := "Feature service unavailable; system failing closed" } }

/-- `fraudQueue.add` with the id of the user's job: one that waits is left as it is. -/
def addReviewJob (redis : Redis) : Redis :=
  if redis.reviewJobs.any fun job => job.userId = userId then redis
  else { redis with reviewJobs := redis.reviewJobs ++ [⟨userId, io.now + 5 * 60 * 1000⟩] }

/-- An inconclusive analysis is queued for review. -/
def queueReview (riskScore : JsNumber) (redis : Redis) : Except Exn Redis :=
  if statusOf riskScore = "INCONCLUSIVE" then
    if io.enqueue then .ok (addReviewJob io userId redis)
    else .error (.error "Connection is closed.")
  else .ok redis

/-- The verdict is stored for a known user. -/
def storeVerdict (riskScore : JsNumber) (db : Db) : Except Exn Db := do
  require (io.readUser = true) Payments.storeDown
  if (db.users.findUnique (.id userId)).isSome then do
    require (cfg.storable riskScore = true)
      (.error "Argument riskScore must not be null.")
    writeAnalysis io userId (scoredData dto riskScore) db
  else pure db

def scored (features : FraudFeatureResponse) (signal : DuplicateClaimSignal) (s : System) :
    Except Exn AnalyzeData × System :=
  match readVerdict (io.scoring.ml.getD failClosed) signal with
  | .error e => (.error e, s)
  | .ok verdict =>
      match queueReview io userId verdict.riskScore s.redis with
      | .error e => (.error e, s)
      | .ok redis =>
          match storeVerdict cfg io userId dto verdict.riskScore s.db with
          | .error e => (.error e, { s with redis })
          | .ok db =>
              (.ok { riskScore := some verdict.riskScore
                     status := some (statusOf verdict.riskScore)
                     topSignals := some verdict.topSignals
                     features := some features },
                { s with db, redis })

def analyzeFraud (s : System) : Except Exn AnalyzeData × System :=
  if kinematicAnomaly dto then
    let (e, db) := refuse io userId (spoofedData dto false KINEMATIC_REASON) KINEMATIC_REASON s.db
    (.error e, { s with db })
  else if atmosAnomaly dto then
    let (e, db) := refuse io userId (spoofedData dto true ATMOS_REASON) ATMOS_REASON s.db
    (.error e, { s with db })
  else
    match detectDuplicateClaim cfg io userId dto s.db with
    | .error e => (.error e, s)
    | .ok (signal, db) =>
        let s := { s with db }
        match io.scoring.features with
        | none => (.ok (unavailable dto), s)
        | some features => scored cfg io userId dto features signal s

end Analyze

/-! ## The bridge to the services -/

structure FraudScore where
  fraudScore : JsNumber
  status : String
  deriving DecidableEq, Repr

/-- `FraudIntegrationService.computeFraudScore`: reads `data.riskScore` only. -/
def computeFraudScore (cfg : Config) (io : FraudIo) (userId : String) (dto : AnalyzeFraudDto)
    (s : System) : Except Exn FraudScore × System :=
  match analyzeFraud cfg io userId dto s with
  | (.error e, s) => (.error e, s)
  | (.ok data, s) =>
      let riskScore := data.riskScore.getD (.fin 0)
      let fraudScore := (riskScore.divPos 100).clamp 0 1
      let existing := (getDriverState io.redisUp io.now s.redis userId).getD {}
      let last_location := existing.last_location.getD {}
      (.ok ⟨fraudScore, data.status.getD "UNKNOWN"⟩,
        { s with redis := setDriverState io.redisUp io.now s.redis userId { existing with
            fraudScore := fraudScore.toFinite?
            last_location := some { last_location with
              lat := some dto.gpsLatitude
              lng := some dto.gpsLongitude } } })

end Aegis.FraudService
