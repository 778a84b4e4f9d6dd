import Aegis.Model.Fraud
import Aegis.Model.Orders
import Aegis.Model.Trigger

/-! # The insurance service

`InsuranceService`: enrolment, cancellation, renewal and the evaluation of a claim. -/

namespace Aegis.InsuranceService

open Outcome RedisState Number JsString PayoutService PremiumService
open Payments (storeDown constraintFailed endPolicies weeklyPolicy MS_PER_DAY)

structure Config where
  payout : PayoutService.Config
  latLngToCell : ℚ → ℚ → String
  /-- The numbers other than finite ones that the client library puts in a `Float` column. -/
  nonFiniteColumn : JsNumber → Bool

def Config.fraud (cfg : Config) : FraudService.Config :=
  ⟨cfg.latLngToCell, cfg.payout.sha256, cfg.nonFiniteColumn⟩

def FRAUD_BLOCK_THRESHOLD : ℚ := 7 / 10

def profileMissing : Exn := .notFound "Driver profile not found"

/-! ## Enrolment -/

section Enroll

structure PipelineResponse where
  Lf : Option ℚ
  zone_state : Option String
  premium : Option ℚ
  deriving DecidableEq, Repr

/-- `pipeline` is `none` when the pipeline cannot be asked, `gridZone` when the grid
service does not know the cell either. -/
structure EnrollIo where
  now : ℤ
  readUser : Bool
  readEligibility : Bool
  readSums : Bool
  profile : Option DriverProfile
  redisUp : Bool
  pipeline : Option PipelineResponse
  gridZone : Option ZoneState
  endOld : Bool
  policyId : String
  createPolicy : Bool
  pool : LiquidityPool.Access

/-- What an enrolment is sold on. -/
structure Quote where
  plan : String
  Ct : ℚ
  Ew : ℚ
  Lf : ℚ
  zone_state : String
  premium : ℚ
  zone : String
  deriving DecidableEq, Repr

variable (cfg : Config) (io : EnrollIo) (driverId : String)

def lossRatio (db : Db) : ℚ :=
  let totalApprovedPayout := (db.payouts.rows.map fun p => p.approvedPayout.getD 0).sum
  let totalPremiumCollected := (db.policies.rows.map Policy.premium).sum
  if 0 < totalPremiumCollected then totalApprovedPayout / totalPremiumCollected else 0

def computePremium (Ew Lf Ct : ℚ) : ℚ :=
  let premium := Ew * PREMIUM_RATE * Lf * Ct * (1 + PREMIUM_MARGIN)
  (mathRound (premium * 100) : ℚ) / 100

structure Position where
  lat : Option ℚ
  lng : Option ℚ
  h3Cell : Option String
  deriving DecidableEq, Repr

def lastLocation (driverState : Option DriverState) : LastLocation :=
  (driverState.bind DriverState.last_location).getD {}

def resolveH3FromDriverState (driverState : Option DriverState) : Position :=
  let last := lastLocation driverState
  match truthy last.h3_cell, last.lat, last.lng with
  | some h3Cell, lat, lng => ⟨lat, lng, some h3Cell⟩
  | none, some lat, some lng => ⟨some lat, some lng, some (cfg.latLngToCell lat lng)⟩
  | none, lat, lng => ⟨lat, lng, none⟩

def fallbackZoneState (redis : Redis) (h3Cell : String) : Option ZoneState :=
  (getZoneState io.redisUp io.now redis h3Cell).or io.gridZone

/-- Loss fraction, zone state and the premium of the pricing service, if it names one. -/
def zoneQuote (redis : Redis) (h3Cell : String) : ℚ × String × Option ℚ :=
  match io.pipeline with
  | some pipeline =>
      (pipeline.Lf.getD (5 / 10), pipeline.zone_state.getD "UNKNOWN",
        pipeline.premium.filter (0 < ·))
  | none =>
      let fallbackZone := fallbackZoneState io redis h3Cell
      (zoneLf fallbackZone (5 / 10), zoneLabel fallbackZone, none)

/-- The gates of an enrolment and its terms; nothing is written yet. -/
def prepareEnroll (plan : String) (s : System) : Except Exn Quote := do
  let plan ← orThrow (normalizePlanTier (some plan))
    (.badRequest "Plan must be BASIC, STANDARD, or PREMIUM")
  require (io.readUser = true) storeDown
  let _ ← orThrow (s.db.users.findUnique (.id driverId))
    (.badRequest "Driver account not found. Please register and complete onboarding first.")
  let _ ← Eligibility.assertDriverPolicyEligibility cfg.payout.eligibility io.readEligibility io.now
    s.db
    driverId (some plan)
  require (io.readSums = true) storeDown
  require (lossRatio s.db ≤ 85 / 100)
    (.badRequest "Enrolment paused due to portfolio capacity load. BCR exceeds 85%.")
  let profile ← orThrow io.profile profileMissing
  let Ew := resolveWeeklyEarnings profile
  let position := resolveH3FromDriverState cfg
    (getDriverState io.redisUp io.now s.redis driverId)
  let zone ← orThrow (truthy position.h3Cell)
    (.badRequest "Driver location is required to assign a zone")
  require (position.lat.isSome = true ∧ position.lng.isSome = true)
    (.badRequest "Driver location is required to assign a zone")
  let Ct ← orThrow (ctForPlan (some plan)) (.badRequest "Invalid plan tier")
  let (Lf, zone_state, premiumFromPipeline) := zoneQuote io s.redis zone
  let premium := premiumFromPipeline.getD (computePremium Ew Lf Ct)
  pure { plan, Ct, Ew, Lf, zone_state, premium, zone }

/-- Cover begins after a cooling-off day and lasts a week. -/
def enrolledPolicy (quote : Quote) : Policy where
  id := io.policyId
  userId := driverId
  planType := quote.plan
  status := .ACTIVE
  premium := quote.premium
  startDate := io.now + MS_PER_DAY
  endDate := io.now + MS_PER_DAY + 7 * MS_PER_DAY
  createdAt := io.now
  weeklyPlanId := none

def soldState (quote : Quote) : PolicyState where
  plan := some quote.plan
  Ct := some quote.Ct
  Ew := some quote.Ew
  Lf := some quote.Lf
  premium := some quote.premium
  zone := some quote.zone
  zone_state := some quote.zone_state
  active := some true

/-- The premium enters the pool when there is one. -/
def collect (pool : LiquidityPool.Access) (premium : ℚ) (db : Db) : Except Exn Db :=
  if 0 < premium then do
    let (_, systemSettings) ← LiquidityPool.injectPremium pool db.systemSettings premium
    pure { db with systemSettings }
  else pure db

def createPolicy (writable : Bool) (policy : Policy) (db : Db) : Except Exn Db := do
  require (writable = true) storeDown
  let policies ← orThrow (db.policies.create policy) constraintFailed
  pure { db with policies }

/-- The old policies end, the new one is created and paid for, and its record is written. -/
def issueEnrolment (quote : Quote) (s : System) : Except Exn Quote × System :=
  if io.endOld then
    let ended := endPolicies io.now driverId s.db
    match createPolicy io.createPolicy (enrolledPolicy io driverId quote) ended with
    | .error e => (.error e, { s with db := ended })
    | .ok created =>
        match collect io.pool quote.premium created with
        | .error e => (.error e, { s with db := created })
        | .ok db =>
            (.ok quote, { s with
              db
              redis := setPolicyState io.redisUp io.now s.redis io.policyId (soldState quote) })
  else (.error storeDown, s)

def enrollPolicy (plan : String) (s : System) : Except Exn Quote × System :=
  match prepareEnroll cfg io driverId plan s with
  | .error e => (.error e, s)
  | .ok quote => issueEnrolment io driverId quote s

end Enroll

/-! ## Cancellation and renewal -/

section Cancel

structure CancelIo where
  now : ℤ
  readPolicy : Bool
  writePolicy : Bool
  redisUp : Bool

variable (io : CancelIo) (driverId : String) (reason : Option String)

/-- The record is overwritten: it keeps no zone. -/
def cancelledState : PolicyState where
  active := some false
  cancelReason := some (reason.getD "User initiated cancellation")

/-- An ACTIVE policy that has not ended; the query asks for no order. -/
def cancelPolicy (s : System) : Except Exn String × System :=
  if io.readPolicy then
    match s.db.policies.rows.find? fun p =>
        p.userId = driverId && p.status = .ACTIVE && io.now < p.endDate with
    | none => (.error (.badRequest "No active policy found to cancel"), s)
    | some policy =>
        if io.writePolicy then
          (.ok policy.id, { s with
            db := { s.db with
              policies := s.db.policies.update policy.id
                ⟨fun p => { p with status := .CANCELLED, endDate := io.now }, fun _ => rfl⟩ }
            redis := setPolicyState io.redisUp io.now s.redis policy.id (cancelledState reason) })
        else (.error storeDown, s)
  else (.error storeDown, s)

end Cancel

section Renew

structure RenewIo where
  now : ℤ
  readLatest : Bool
  readPlan : Bool
  premium : PremiumIo
  endOld : Bool
  policyId : String
  createPolicy : Bool
  pool : LiquidityPool.Access
  enroll : EnrollIo

variable (cfg : Config) (io : RenewIo) (driverId : String)

def latestPolicy (db : Db) : Option Policy :=
  db.policies.findFirstDesc (fun p => p.userId = driverId) Policy.createdAt

/-- The policy that may be renewed: it is not ACTIVE for more than another day. -/
def renewable (db : Db) : Except Exn Policy := do
  require (io.readLatest = true) storeDown
  let latest ← orThrow (latestPolicy driverId db)
    (.badRequest "No existing policy to renew. Please use /enroll.")
  require (¬(latest.status = .ACTIVE ∧ io.now + MS_PER_DAY < latest.endDate))
    (.badRequest
      "Current policy is active and not soon-to-expire. Cannot hold two active policies simultaneously.")
  pure latest

/-- What `renewPolicy` returns, by the way it takes. -/
inductive Renewal where
  | weekly (policyId : String)
  | enrolled (quote : Quote)
  deriving DecidableEq, Repr

/-- The plan that is renewed, its premium, and the zone cache the pricing leaves. -/
def weeklyQuote (weeklyPlanId : String) (s : System) :
    Except Exn (WeeklyPlan × WeeklyPremium × Redis) := do
  require (io.readPlan = true) storeDown
  let plan ← orThrow (s.db.weeklyPlans.findUnique (.id weeklyPlanId))
    (.badRequest "Weekly plan not found for renewal")
  let quote ← calculateWeeklyPremium io.premium s driverId (some plan.id)
  pure (plan, quote)

/-- A renewal of a weekly plan starts at once and writes no Redis record. -/
def renewWeekly (weeklyPlanId : String) (s : System) : Except Exn Renewal × System :=
  match weeklyQuote io driverId weeklyPlanId s with
  | .error e => (.error e, s)
  | .ok (plan, quote, redis) =>
      if io.endOld then
        let ended := endPolicies io.now driverId s.db
        match createPolicy io.createPolicy
            (weeklyPolicy io.now io.policyId driverId plan quote.premium) ended with
        | .error e => (.error e, { s with db := ended, redis })
        | .ok created =>
            match collect io.pool quote.premium created with
            | .error e => (.error e, { s with db := created, redis })
            | .ok db => (.ok (.weekly io.policyId), { s with db, redis })
      else (.error storeDown, { s with redis })

def renewPolicy (s : System) : Except Exn Renewal × System :=
  match renewable io driverId s.db with
  | .error e => (.error e, s)
  | .ok latest =>
      match truthy latest.weeklyPlanId with
      | some weeklyPlanId => renewWeekly io driverId weeklyPlanId s
      | none =>
          match enrollPolicy cfg io.enroll driverId latest.planType s with
          | (.error e, s) => (.error e, s)
          | (.ok quote, s) => (.ok (.enrolled quote), s)

end Renew

/-! ## The evaluation of a claim -/

section Evaluate

structure ProcessInsuranceRequestDto where
  lat : Option ℚ := none
  lng : Option ℚ := none
  deviceId : Option String := none
  upiId : Option String := none
  claimAmount : Option ℚ := none
  eventType : Option String := none
  eventTimestamp : Option ℤ := none
  accelerometerVariance : Option ℚ := none
  barometricPressureHpa : Option ℚ := none
  acousticMatchConfidence : Option ℚ := none
  deriving DecidableEq, Repr

structure EvaluateIo where
  now : ℤ
  profile : Option DriverProfile
  readPolicy : Bool
  readEligibility : Bool
  redisUp : Bool
  fraud : FraudService.FraudIo
  monitored : ZoneState
  calculate : CalculateIo
  process : ProcessIo

inductive Decision where
  | APPROVED
  | HOLD
  | REJECT
  | NO_TRIGGER
  deriving DecidableEq, Repr

structure InsuranceResult where
  plan : Option String
  Ct : Option ℚ
  premium : ℚ
  payout : ℚ
  decision : Decision
  transactionId : Option String
  payoutTransferRail : Option String := none
  payoutTransferReference : Option String := none
  triggerEvaluation : Option TriggerService.TriggerDecisionResult := none
  deriving DecidableEq, Repr

variable (cfg : Config) (io : EvaluateIo) (driverId : String) (dto : ProcessInsuranceRequestDto)

/-- The coordinates of the request, else those of the driver's record. -/
def position (redis : Redis) : Position :=
  let last := lastLocation (getDriverState io.redisUp io.now redis driverId)
  let ⟨lat, lng, h3Cell⟩ : Position :=
    match dto.lat, dto.lng with
    | some lat, some lng => ⟨some lat, some lng, none⟩
    | lat, lng => ⟨last.lat.or lat, last.lng.or lng, last.h3_cell⟩
  match lat, lng with
  | some lat, some lng => ⟨some lat, some lng, some (cfg.latLngToCell lat lng)⟩
  | lat, lng => ⟨lat, lng, h3Cell⟩

def fraudDto (lat lng : ℚ) : FraudService.AnalyzeFraudDto where
  gpsLatitude := lat
  gpsLongitude := lng
  deviceId := dto.deviceId
  upiId := dto.upiId
  claimAmount := dto.claimAmount
  eventType := some (dto.eventType.getD "TRIGGER_EVAL")
  accelerometerVariance := dto.accelerometerVariance
  barometricPressureHpa := dto.barometricPressureHpa
  acousticMatchConfidence := dto.acousticMatchConfidence

structure FraudReading where
  fraudScore : Option JsNumber
  fraudFailure : Bool
  deriving DecidableEq, Repr

/-- The score is asked for when there are coordinates; otherwise the driver's record may
have one. -/
def readFraud (place : Position) (s : System) : FraudReading × System :=
  match place.lat, place.lng with
  | some lat, some lng =>
      match FraudService.computeFraudScore cfg.fraud io.fraud driverId (fraudDto dto lat lng) s with
      | (.ok score, s) => (⟨some score.fraudScore, false⟩, s)
      | (.error _, s) => (⟨none, true⟩, s)
  | _, _ =>
      (⟨((getDriverState io.redisUp io.now s.redis driverId).bind
        DriverState.fraudScore).map .fin, false⟩, s)

/-- What the decision is made on. -/
structure Evidence where
  h3Cell : Option String
  zoneState : String
  policyZone : Option String
  fraud : FraudReading
  trigger : TriggerService.TriggerDecisionResult
  deriving DecidableEq, Repr

/-- The tests before a payout, in order; `none` lets the payout through. -/
def refusal (e : Evidence) : Option Decision :=
  match truthy e.h3Cell with
  | none => some .REJECT
  | some h3Cell =>
      if (PARAMETRIC_TRIGGER_STATES.contains (toUpperCase e.zoneState)) = false then
        some .NO_TRIGGER
      else if e.trigger.decision = .HOLD then some .HOLD
      else if truthy e.policyZone ≠ some h3Cell then some .REJECT
      else
        match e.fraud.fraudFailure, e.fraud.fraudScore with
        | false, some fraudScore =>
            if fraudScore.gtFin FRAUD_BLOCK_THRESHOLD ∨ e.trigger.decision = .REJECTED then
              some .REJECT
            else none
        | _, _ => some .HOLD

/-- The record of the policy is written back with the tier; what it held stays. -/
def touchPolicyState (policy : Policy) (Ct : ℚ) (redis : Redis) : Redis :=
  let existing := (getPolicyState io.redisUp io.now redis policy.id).getD {}
  setPolicyState io.redisUp io.now redis policy.id
    { existing with Ct := some Ct, active := some true }

def eventTimestamp : ℤ := dto.eventTimestamp.getD (io.now / 1000)

/-- The evidence and the state it leaves behind. -/
def gatherEvidence (policy : Policy) (s : System) : Evidence × System :=
  let place := position cfg io driverId dto s.redis
  let zone := (truthy place.h3Cell).bind fun cell => getZoneState io.redisUp io.now s.redis cell
  let (fraud, s) := readFraud cfg io driverId dto place s
  let trigger := TriggerService.evaluateTrigger cfg.latLngToCell ⟨io.now, io.redisUp, io.monitored⟩
    s.redis ⟨driverId, place.h3Cell, place.lat, place.lng, fraud.fraudScore⟩
  let policyZone := (getPolicyState io.redisUp io.now s.redis policy.id).bind PolicyState.zone
  (⟨place.h3Cell, zoneLabel zone, policyZone, fraud, trigger⟩, s)

def zoneLossFraction (redis : Redis) : ℚ :=
  zoneLf ((truthy (position cfg io driverId dto redis).h3Cell).bind fun cell =>
    getZoneState io.redisUp io.now redis cell) (5 / 10)

/-- The payout branch: the amount and the outcome of its settlement. -/
def payClaim (policy : Policy) (Ew Lf Ct : ℚ) (e : Evidence) (s : System) :
    Except Exn (ℚ × ProcessPayoutResult) × System :=
  match calculatePayout io.calculate s ⟨driverId, some Ew, some Lf, some Ct⟩ with
  | .error e => (.error e, s)
  | .ok calculation =>
      match processPayout cfg.payout io.process
          { driverId
            payoutAmount := some calculation.payoutAmount
            h3Cell := e.h3Cell
            eventTimestamp := some (eventTimestamp io dto)
            policyId := some policy.id
            disruptionType := some e.zoneState } s with
      | (.error e, s) => (.error e, s)
      | (.ok result, s) => (.ok (calculation.payoutAmount, result), s)

def transferOf : ProcessPayoutResult → Option (String × String)
  | .settled _ _ _ payout => some (payout.transferRail, payout.transferReference)
  | .existing .. | .retryQueued => none

/-- A claim on an eligible policy of a known tier. -/
def evaluateClaim (policy : Policy) (planKey : String) (Ew Ct : ℚ) (s : System) :
    Except Exn InsuranceResult × System :=
  let s := { s with redis := touchPolicyState io policy Ct s.redis }
  let Lf := zoneLossFraction cfg io driverId dto s.redis
  let (e, s) := gatherEvidence cfg io driverId dto policy s
  match refusal e with
  | some decision =>
      (.ok { plan := some planKey, Ct := some Ct, premium := policy.premium, payout := 0, decision
             transactionId := none, triggerEvaluation := some e.trigger }, s)
  | none =>
      match payClaim cfg io driverId dto policy Ew Lf Ct e s with
      | (.error e, s) => (.error e, s)
      | (.ok (payout, result), s) =>
          (.ok { plan := some planKey, Ct := some Ct, premium := policy.premium, payout
                 decision := if result.success then .APPROVED else .HOLD
                 transactionId := result.transactionId
                 payoutTransferRail := (transferOf result).map Prod.fst
                 payoutTransferReference := (transferOf result).map Prod.snd
                 triggerEvaluation := some e.trigger }, s)

def unpriced (plan : Option String) (premium : ℚ) : InsuranceResult where
  plan := plan
  Ct := none
  premium := premium
  payout := 0
  decision := .REJECT
  transactionId := none

/-- The earnings of the driver and the policy a claim is made on. -/
def claimedPolicy (db : Db) : Except Exn (ℚ × Option Policy) := do
  let profile ← orThrow io.profile profileMissing
  require (io.readPolicy = true) storeDown
  pure (resolveWeeklyEarnings profile, unendedPolicy io.now db driverId)

def processInsurance (s : System) : Except Exn InsuranceResult × System :=
  match claimedPolicy io driverId s.db with
  | .error e => (.error e, s)
  | .ok (_, none) => (.ok (unpriced none 0), s)
  | .ok (Ew, some policy) =>
      let planKey := PlansService.planKeyOf s.db policy
      match Eligibility.assertDriverPolicyEligibility cfg.payout.eligibility io.readEligibility
        io.now s.db
          driverId (some planKey) with
      | .error e => (.error e, s)
      | .ok _ =>
          match ctForPlan (some planKey) with
          | none => (.ok (unpriced (some planKey) policy.premium), s)
          | some Ct => evaluateClaim cfg io driverId dto policy planKey Ew Ct s

end Evaluate

end Aegis.InsuranceService
