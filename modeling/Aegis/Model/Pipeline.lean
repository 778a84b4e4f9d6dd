import Aegis.Model.RedisState
import Aegis.Model.RiskService

/-! # The zone pipeline

`pipeline_service.py` of the feature service with its circuit breaker, the thresholds of
`zone_aggregator.py`, and the backend's endpoint for zone states. Amounts are exact
rationals; the instants of Redis are milliseconds. -/

namespace Aegis.CircuitBreaker

def CB_FAILURE_THRESHOLD : ℕ := 3

def CB_RECOVERY_TIMEOUT : ℚ := 30

inductive BreakerState where
  | CLOSED
  | OPEN
  | HALF_OPEN
  deriving DecidableEq, Repr

structure Breaker where
  state : BreakerState := .CLOSED
  failures : ℕ := 0
  lastOpenTime : ℚ := 0
  deriving DecidableEq, Repr

variable (monotonic : ℚ) (cb : Breaker)

/-- An open breaker lets a probe through once its recovery time is over. -/
def allowRequest : Bool × Breaker :=
  match cb.state with
  | .CLOSED | .HALF_OPEN => (true, cb)
  | .OPEN =>
      if CB_RECOVERY_TIMEOUT ≤ monotonic - cb.lastOpenTime then
        (true, { cb with state := .HALF_OPEN })
      else (false, cb)

def recordSuccess : Breaker := { cb with state := .CLOSED, failures := 0 }

def recordFailure : Breaker :=
  let failures := cb.failures + 1
  if cb.state = .HALF_OPEN ∨ CB_FAILURE_THRESHOLD ≤ failures then
    ⟨.OPEN, failures, monotonic⟩
  else { cb with failures }

end Aegis.CircuitBreaker

namespace Aegis.ZoneAggregator

def ZONE_HALTED_LF : ℚ := 75 / 100

def ZONE_DANGEROUS_LF : ℚ := 60 / 100

def ZONE_SLOW_LF : ℚ := 40 / 100

def determineState (lf : ℚ) : String :=
  if ZONE_HALTED_LF < lf then "HALTED"
  else if ZONE_DANGEROUS_LF < lf then "DANGEROUS"
  else if ZONE_SLOW_LF < lf then "SLOW"
  else "NORMAL"

end Aegis.ZoneAggregator

namespace Aegis.PipelineService

open HalfEven RedisState CircuitBreaker
open RiskService (clamp RiskScoreRequest RiskModelScoreRequest RiskModelScoreResponse)

def REDIS_ZONE_TTL : ℤ := 300

def MAX_FALLBACK_RATIO : ℚ := 1 / 2

def MIN_PREMIUM : ℚ := 15

def MAX_PREMIUM : ℚ := 150

/-! ## Data -/

structure FeatureResponse where
  rainfall : ℚ
  temperature : ℚ
  aqi : ℚ
  active_orders : ℤ
  active_riders : ℤ
  demand_ratio : ℚ
  sla_breach_rate : ℚ
  avg_delivery_delay_min : ℚ
  civic_alert : Bool
  is_fallback : Bool := false
  fallback_ratio : ℚ := 0
  missing_features : List String := []
  deriving DecidableEq, Repr

structure Traffic where
  is_gridlock : Bool
  avg_speed_kmh : ℚ
  deriving DecidableEq, Repr

structure PipelineRequest where
  Ew : ℚ
  Ct : Option ℚ := none
  M : ℚ := 1 / 10
  platform : Option String := none
  deriving DecidableEq, Repr

/-- The environment part of the answer is the feature vector itself. -/
structure PipelineResponse where
  h3_cell : String
  features : FeatureResponse
  Lf : ℚ
  risk_level : String
  zone_state : String
  Ew : ℚ
  Ct : ℚ
  premium : ℚ
  is_fallback : Bool
  fallback_reasons : List String
  deriving DecidableEq, Repr

/-- What `feature_service.py` reads of the feature vector to have the cell scored. -/
structure PublishedFeatures where
  rainfall : ℚ
  aqi : ℚ
  demand_ratio : ℚ
  historical_risk : ℚ
  hour_of_day : ℚ
  day_of_week : ℚ
  deriving DecidableEq, Repr

structure RiskAnswer where
  Lf : ℚ
  risk_level : String
  deriving DecidableEq, Repr

structure PricingPayload where
  Ew : ℚ
  Lf : ℚ
  Ct : Option ℚ
  M : ℚ
  platform : Option String
  demand_ratio : ℚ
  zone_volatility : ℚ
  deriving DecidableEq, Repr

/-- The body of the request to `/internal/zone-state`. -/
structure ZonePost where
  h3_cell : String
  Lf : ℚ
  zone_state : String
  rainfall_mm : ℚ
  aqi : ℚ
  computed_at : ℤ
  deriving DecidableEq, Repr

inductive Refusal where
  | features
  | realtimeOnly
  | insufficientFeatures
  | riskUnavailable
  | pricingUnavailable
  deriving DecidableEq, Repr

structure Config where
  STRICT_REALTIME : Bool := false

/-- What one execution meets: the caches, the feature services and the ML service, which
answers `none` when it fails. -/
structure PipelineIo where
  now : ℤ
  monotonic : ℚ := 0
  cached : Option PipelineResponse := none
  features : Option FeatureResponse
  avgSpeed : ℚ := 0
  traffic : Option Traffic := none
  risk : RiskScoreRequest → Option RiskAnswer
  pricing : PricingPayload → Option ℚ
  redisUp : Bool := true

/-- `posts` are scheduled and not delivered yet. -/
structure PipelineState where
  breaker : Breaker := {}
  redis : Redis := {}
  posts : List ZonePost := []

/-! ## Publishing the model score -/

def modelPayload (features : PublishedFeatures) : RiskModelScoreRequest where
  rainfall_mm := features.rainfall
  aqi := features.aqi
  demand_ratio := max 0 (min 5 features.demand_ratio)
  hour_of_day := max 0 (min 23 features.hour_of_day)
  day_of_week := max 0 (min 6 features.day_of_week)
  historical_risk := max 0 (min 1 features.historical_risk)

/-- `_publish_zone_state`: the post that follows a fresh feature vector. -/
def publishZoneState (score : RiskModelScoreRequest → Option RiskModelScoreResponse) (now : ℤ)
    (h3_cell : String) (features : PublishedFeatures) : Option ZonePost :=
  (score (modelPayload features)).map fun risk_data =>
    ⟨h3_cell, risk_data.lf_score, risk_data.zone_state, features.rainfall, features.aqi,
      now / 1000⟩

/-! ## The zone state -/

def getZoneState (civic_alert : Bool) (Lf : ℚ) : String :=
  if civic_alert then "HALTED"
  else if 75 / 100 < Lf then "HALTED"
  else if 60 / 100 < Lf then "DANGEROUS"
  else if 40 / 100 < Lf then "SLOW"
  else "NORMAL"

def checkParametricOverrides (features : FeatureResponse) (is_gridlock : Bool) :
    Option (ℚ × String) :=
  if 50 ≤ features.rainfall then some (1, "FLOODED")
  else if 300 ≤ features.aqi then some (1, "TOXIC_AQI")
  else if is_gridlock then some (1, "GRIDLOCK")
  else none

/-- The state a score stands for replaces one that contradicts it, those of a trigger apart. -/
def sanityCheck (Lf premium : ℚ) (zone_state : String) : ℚ × ℚ × String :=
  let Lf := clamp Lf 0 1
  let premium := clamp premium MIN_PREMIUM MAX_PREMIUM
  let expected_state := getZoneState false Lf
  let zone_state := if zone_state ∈ ["HALTED", "FLOODED", "TOXIC_AQI", "GRIDLOCK"] then zone_state
    else expected_state
  (Lf, premium, zone_state)

/-- Steps 4.2 to 4.5: the final loss fraction, premium and zone state. -/
def deriveZone (features : FeatureResponse) (is_gridlock : Bool) (Lf premium : ℚ) :
    ℚ × ℚ × String :=
  match checkParametricOverrides features is_gridlock with
  | some (override_lf, override_state) =>
      (override_lf, clamp premium MIN_PREMIUM MAX_PREMIUM, override_state)
  | none => sanityCheck Lf premium (getZoneState features.civic_alert Lf)

/-! ## The stages of an execution -/

section Stages

variable (cfg : Config) (io : PipelineIo) (request : PipelineRequest) (h3_cell : String)

/-- `424` for features that are not real enough. -/
def admitFeatures (features : FeatureResponse) : Except Refusal Unit :=
  let has_platform_signal := 0 < features.active_orders ∧ 0 < features.active_riders
  if cfg.STRICT_REALTIME = true ∧ (features.is_fallback = true ∨ 0 < features.fallback_ratio ∨
      features.missing_features ≠ []) then .error .realtimeOnly
  else if (features.fallback_ratio ≥ MAX_FALLBACK_RATIO ∨
      3 ≤ features.missing_features.length) ∧ ¬has_platform_signal then .error .insufficientFeatures
  else .ok ()

/-- The speed of the traffic service where it has one. -/
def speedOf : ℚ :=
  match io.traffic with
  | some traffic => if 0 < traffic.avg_speed_kmh then traffic.avg_speed_kmh else io.avgSpeed
  | none => io.avgSpeed

def isGridlock : Bool := io.traffic.any Traffic.is_gridlock

def riskPayload (features : FeatureResponse) : RiskScoreRequest where
  rainfall := clamp features.rainfall 0 500
  temperature := clamp features.temperature (-10) 60
  aqi := clamp features.aqi 0 500
  demand_ratio := clamp features.demand_ratio 0 5
  historical_disruption_frequency := some (clamp (features.avg_delivery_delay_min / 60) 0 1)
  zone_volatility := some (clamp features.sla_breach_rate 0 1)
  avg_speed_kmh := some (clamp (speedOf io) 0 180)

def fallbackFromRedis (redis : Redis) : Option ZoneState :=
  RedisState.getZoneState io.redisUp io.now redis h3_cell

structure Assessment where
  Lf : ℚ := 0
  risk_level : String := "LOW"
  used_fallback : Bool := false
  fallback_reasons : List String := []
  deriving DecidableEq, Repr

/-- The last known loss fraction of the cell. -/
def storedAssessment (data : ZoneState) : Assessment :=
  ⟨data.Lf.getD 0, "UNKNOWN", true, ["redis_zone_fallback"]⟩

/-- Step 3. Without a stored record an open breaker leaves the score at zero and is not
counted as a fallback. -/
def assessRisk (payload : RiskScoreRequest) (s : PipelineState) :
    Except Refusal Assessment × Breaker :=
  let (allowed, breaker) := allowRequest io.monotonic s.breaker
  let stored := fallbackFromRedis io h3_cell s.redis
  if allowed then
    match io.risk payload with
    | some answer => (.ok { Lf := answer.Lf, risk_level := answer.risk_level },
        recordSuccess breaker)
    | none =>
        let breaker := recordFailure io.monotonic breaker
        if cfg.STRICT_REALTIME then (.error .riskUnavailable, breaker)
        else
          match stored with
          | some data => (.ok (storedAssessment data), breaker)
          | none =>
              (.ok { used_fallback := true, fallback_reasons := ["ml_risk_failed"] }, breaker)
  else if cfg.STRICT_REALTIME then (.error .riskUnavailable, breaker)
  else
    match stored with
    | some data => (.ok (storedAssessment data), breaker)
    | none => (.ok {}, breaker)

/-- A zero coverage or margin counts as not given. -/
def rawEstimate (Lf : ℚ) : ℚ :=
  let Ew := max request.Ew 1
  let Ct := (request.Ct.filter (· ≠ 0)).getD (6 / 10)
  let M := if request.M = 0 then 1 / 10 else request.M
  Ew * Lf * Ct * M

/-- The premium without the pricing service. -/
def estimatePremium (Lf : ℚ) : ℚ :=
  roundTo 2 (min (max (rawEstimate request Lf) MIN_PREMIUM) MAX_PREMIUM)

def pricingPayload (features : FeatureResponse) (Lf : ℚ) : PricingPayload where
  Ew := request.Ew
  Lf := Lf
  Ct := request.Ct
  M := request.M
  platform := request.platform
  demand_ratio := clamp features.demand_ratio 0 5
  zone_volatility := clamp features.sla_breach_rate 0 1

/-- Step 4. -/
def pricePremium (payload : PricingPayload) (a : Assessment) (breaker : Breaker) :
    Except Refusal (ℚ × List String) × Breaker :=
  if a.used_fallback then
    if cfg.STRICT_REALTIME then (.error .pricingUnavailable, breaker)
    else (.ok (estimatePremium request a.Lf, ["pricing_fallback"]), breaker)
  else
    let (allowed, breaker) := allowRequest io.monotonic breaker
    if allowed then
      match io.pricing payload with
      | some premium => (.ok (premium, []), recordSuccess breaker)
      | none =>
          let breaker := recordFailure io.monotonic breaker
          if cfg.STRICT_REALTIME then (.error .pricingUnavailable, breaker)
          else (.ok (MIN_PREMIUM, ["ml_pricing_failed"]), breaker)
    else (.ok (MIN_PREMIUM, []), breaker)

/-- The record and, once it is written, the post that repeats it to the backend. -/
def writeZoneToRedis (Lf : ℚ) (zone_state : String) (rainfall aqi : ℚ) (s : PipelineState) :
    PipelineState :=
  if io.redisUp then
    { s with
      redis := { s.redis with
        zones := setEx s.redis.zones io.now REDIS_ZONE_TTL h3_cell
          { Lf := some Lf, lf_score := some Lf, zone_state := some zone_state } }
      posts := s.posts ++ [⟨h3_cell, Lf, zone_state, rainfall, aqi, io.now / 1000⟩] }
  else s

/-- Steps 3 to 5 for a feature vector that was let in. -/
def scoreAndWrite (features : FeatureResponse) (s : PipelineState) :
    Except Refusal PipelineResponse × PipelineState :=
  match assessRisk cfg io h3_cell (riskPayload io features) s with
  | (.error e, breaker) => (.error e, { s with breaker })
  | (.ok a, breaker) =>
      match pricePremium cfg io request (pricingPayload request features a.Lf) a breaker with
      | (.error e, breaker) => (.error e, { s with breaker })
      | (.ok (premium, pricing_reasons), breaker) =>
          let (Lf, premium, zone_state) := deriveZone features (isGridlock io) a.Lf premium
          let reasons := a.fallback_reasons ++ pricing_reasons ++
            (if features.is_fallback then ["feature_fallbacks"] else [])
          (.ok {
              h3_cell, features, Lf, risk_level := a.risk_level, zone_state
              Ew := request.Ew
              Ct := request.Ct.getD (6 / 10)
              premium
              is_fallback := a.used_fallback || features.is_fallback
              fallback_reasons := reasons.dedup.mergeSort (· ≤ ·) },
            writeZoneToRedis io h3_cell Lf zone_state features.rainfall features.aqi
              { s with breaker })

def executePipelineCore (s : PipelineState) : Except Refusal PipelineResponse × PipelineState :=
  match io.cached, io.features with
  | some response, _ => (.ok response, s)
  | none, none => (.error .features, s)
  | none, some features =>
      match admitFeatures cfg features with
      | .error e => (.error e, s)
      | .ok _ => scoreAndWrite cfg io request h3_cell features s

end Stages

end Aegis.PipelineService

namespace Aegis.InternalStateController

open RedisState PipelineService

/-- How a post arrives; the sender's key and the backend's own come from two environments. -/
structure PostIo where
  now : ℤ
  internalKey : String := "aegis_telemetry_elite_2026"
  secret : String := "aegis_telemetry_elite_2026"
  redisUp : Bool := true
  deriving DecidableEq, Repr

/-- `POST /internal/zone-state`. The telemetry log that follows is write-only. -/
def setZoneState (io : PostIo) (payload : ZonePost) (redis : Redis) : Redis :=
  if io.internalKey ≠ io.secret ∨ payload.h3_cell = "" then redis
  else RedisState.setZoneState io.redisUp io.now redis payload.h3_cell
    { Lf := some payload.Lf, zone_state := some payload.zone_state }

end Aegis.InternalStateController

/-! ## The deadline of the pipeline

What `run_pipeline` answers when an execution takes longer than `PIPELINE_DEADLINE`. -/

namespace Aegis.PipelineService

open RedisState

/-- The environment of the answer, which is not looked up. -/
def timeoutFeatures : FeatureResponse where
  rainfall := 0
  temperature := 25
  aqi := 50
  active_orders := 0
  active_riders := 0
  demand_ratio := 1
  sla_breach_rate := 0
  avg_delivery_delay_min := 0
  civic_alert := false
  missing_features := ["rainfall", "aqi", "demand_ratio"]

/-- The last known zone state of the cell, or a normal one. -/
def timeoutResponse (io : PipelineIo) (request : PipelineRequest) (h3_cell : String)
    (redis : Redis) : PipelineResponse :=
  let fb := fallbackFromRedis io h3_cell redis
  { h3_cell
    features := timeoutFeatures
    Lf := (fb.bind ZoneState.Lf).getD 0
    risk_level := "UNKNOWN"
    zone_state := (fb.bind ZoneState.zone_state).getD "NORMAL"
    Ew := request.Ew
    Ct := (request.Ct.filter (· ≠ 0)).getD (6 / 10)
    premium := MIN_PREMIUM
    is_fallback := true
    fallback_reasons := ["pipeline_timeout"] }

end Aegis.PipelineService
