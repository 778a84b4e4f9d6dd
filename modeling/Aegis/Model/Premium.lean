import Aegis.Library.Base64
import Aegis.Model.Payout
import Aegis.Model.Plans

/-! # The premium service

`premium-calculation.util.ts` and `PremiumService.calculateWeeklyPremium`; amounts are
exact rationals. -/

namespace Aegis.PremiumService

open Outcome RedisState Number JsString PayoutService

/-! ## The formula -/

def PREMIUM_MARGIN : ℚ := 1 / 10

def PREMIUM_RATE : ℚ := 15 / 1000

def MAXIMUM_WEEKLY_PREMIUM_INR : ℚ := 50

/-- `Math.round(Ct * 10) / 10`. -/
def roundedCt (Ct : ℚ) : ℚ := (mathRound (Ct * 10) : ℚ) / 10

def resolveTierFloor (Ct : ℚ) : ℚ :=
  if roundedCt Ct ≤ 45 / 100 then 20
  else if roundedCt Ct ≤ 65 / 100 then 25
  else if roundedCt Ct ≤ 75 / 100 then 30
  else if roundedCt Ct ≤ 85 / 100 then 40
  else 40 + (roundedCt Ct - 8 / 10) / (1 / 10) * (50 - 40)

def COHORT_MEDIAN_WEEKLY_EARNINGS_INR : ℚ := 6800

def MIN_HISTORY_DAYS_FOR_PERSONAL_EW : ℕ := 7

def BASIC_TIER_CAP_INR : ℚ := 30

def STANDARD_TIER_CAP_INR : ℚ := 40

def PREMIUM_TIER_CAP_INR : ℚ := 50

def resolveEarningsWithFallback (weeklyEarnings cohortAverageWeeklyEarnings : ℚ)
    (activeDays : ℕ) : ℚ :=
  if MIN_HISTORY_DAYS_FOR_PERSONAL_EW ≤ activeDays ∧ 0 < weeklyEarnings then weeklyEarnings
  else if 0 < cohortAverageWeeklyEarnings then cohortAverageWeeklyEarnings
  else COHORT_MEDIAN_WEEKLY_EARNINGS_INR

def resolveTierCap (Ct : ℚ) : ℚ :=
  if roundedCt Ct = 4 / 10 then BASIC_TIER_CAP_INR
  else if roundedCt Ct = 6 / 10 then STANDARD_TIER_CAP_INR
  else if roundedCt Ct = 8 / 10 then PREMIUM_TIER_CAP_INR
  else
    let interpolatedCap := BASIC_TIER_CAP_INR +
      (roundedCt Ct - 4 / 10) / (4 / 10) * (PREMIUM_TIER_CAP_INR - BASIC_TIER_CAP_INR)
    min MAXIMUM_WEEKLY_PREMIUM_INR
      (max BASIC_TIER_CAP_INR ((mathRound (interpolatedCap * 100) : ℚ) / 100))

def computeRawWeeklyPremium (Ew Lf Ct : ℚ) : ℚ :=
  let premium := Ew * PREMIUM_RATE * Lf * Ct * (1 + PREMIUM_MARGIN)
  (mathRound (premium * 100) : ℚ) / 100

def applyPremiumBounds (rawPremium tierCap tierFloor : ℚ) : ℚ :=
  if rawPremium < tierFloor then tierFloor
  else if tierCap < rawPremium then tierCap
  else rawPremium

/-! ## The inputs of the formula -/

structure RiskScoreResponse where
  lf_score : ℚ
  zone_state : Option String
  deriving DecidableEq, Repr

/-- `profileOf` is `getDriverProfile`, `none` where it throws; `risk` is `none` when the
service fails or returns no finite `lf_score`. -/
structure PremiumIo where
  now : ℤ
  profileOf : String → Option DriverProfile
  readUser : Bool
  readPlan : Bool
  readPolicy : Bool
  redisUp : Bool
  readKyc : Bool
  risk : Option RiskScoreResponse
  /-- `riskConfig.fallbackLf` of the administrators, when it can be read. -/
  fallbackLf : Option ℚ

variable (io : PremiumIo)

def resolveActiveDays (profile : DriverProfile) : ℕ :=
  (profile.dailyBreakdown.filter fun day =>
    decide (0 < day.hoursWorked.getD 0) || decide (0 < day.completedDeliveries.getD 0)).length

def resolveEarningsWithNewDriverFallback (profile : DriverProfile) (activeDays : ℕ) : ℚ :=
  resolveEarningsWithFallback (resolveWeeklyEarnings profile)
    (profile.averageWeeklyEarnings.getD 0) activeDays

def createInternalDriverId (provider identifier : String) : String :=
  "drv_" ++ Base64.base64url (provider ++ "|" ++ identifier)

/-- The id under which the profile generator knows the driver, and the profile. -/
def resolveProfileDriver (db : Db) (driverOrUserId : String) :
    Except Exn (String × DriverProfile) :=
  match io.profileOf driverOrUserId with
  | some profile => pure (driverOrUserId, profile)
  | none => do
      require (io.readUser = true) Payments.storeDown
      let user := db.users.findUnique (.id driverOrUserId)
      let identifier ← orThrow (truthy (user.map User.email))
        (.error "Cannot resolve dynamic driver identifier from user account")
      let rawPlatform := toLowerCase ((user.bind User.platform).getD "")
      let provider := if Eligibility.oauthProviders.contains rawPlatform then rawPlatform
        else "blinkit"
      let derivedDriverId := createInternalDriverId provider identifier
      let profile ← orThrow (io.profileOf derivedDriverId) (.notFound "Driver profile not found")
      pure (derivedDriverId, profile)

/-- The newest policy of the driver that has not ended, started or not. -/
def unendedPolicy (now : ℤ) (db : Db) (driverId : String) : Option Policy :=
  db.policies.findFirstDesc
    (fun p => p.userId = driverId && p.status = .ACTIVE && now < p.endDate) Policy.createdAt

def resolveCtForDriver (db : Db) (driverId : String) : Option ℚ :=
  (unendedPolicy io.now db driverId).bind fun policy =>
    ctForPlan (some (PlansService.planKeyOf db policy))

def resolveCtForPlanId (db : Db) (planId : String) : Option ℚ :=
  ctForPlan ((db.weeklyPlans.findUnique (.id planId)).map WeeklyPlan.key)

/-- The coverage factor of the plan that is asked for, else of the driver's policy. -/
def resolveCoverage (db : Db) (driverId : String) (planId : Option String) :
    Except Exn (Option ℚ) :=
  match truthy planId with
  | some planId => do
      require (io.readPlan = true) Payments.storeDown
      pure (resolveCtForPlanId db planId)
  | none => do
      require (io.readPolicy = true) Payments.storeDown
      pure (resolveCtForDriver io db driverId)

def cityToH3 : List (String × String) :=
  [("chennai", "8861892433fffff"), ("bangalore", "8861892521fffff"),
    ("coimbatore", "8861892095fffff"), ("mumbai", "8860a25939fffff"),
    ("delhi", "883da11281fffff")]

/-- The last seen cell of the driver, or the cell of the city given for KYC. -/
def resolveCell (s : System) (driverId profileDriverId : String) : Except Exn String :=
  match truthy (cellOf (getDriverState io.redisUp io.now s.redis profileDriverId)) with
  | some h3Cell => pure h3Cell
  | none => do
      require (io.readKyc = true) Payments.storeDown
      let city := ((s.db.kycPersonalDetails.findUnique driverId).map
        KYCPersonalDetails.city).getD ""
      pure ((cityToH3.lookup (trim (toLowerCase city))).getD "8861892433fffff")

def resolveLfFromMlService : RiskScoreResponse :=
  io.risk.getD ⟨io.fallbackLf.getD (15 / 100), some "UNKNOWN"⟩

/-- The loss fraction of the cell; one that Redis lacks is asked for and stored. -/
def resolveLf (redis : Redis) (h3Cell : String) : ℚ × Redis :=
  let zoneState := getZoneState io.redisUp io.now redis h3Cell
  match (zoneState.bind ZoneState.Lf).or (zoneState.bind ZoneState.lf_score) with
  | some Lf => (Lf, redis)
  | none =>
      let mlRisk := resolveLfFromMlService io
      (mlRisk.lf_score, setZoneState io.redisUp io.now redis h3Cell
        { Lf := some mlRisk.lf_score, zone_state := mlRisk.zone_state })

structure WeeklyPremium where
  driverId : String
  Ew : ℚ
  Lf : ℚ
  Ct : ℚ
  active_days : ℕ
  premium : ℚ
  min : ℚ
  max : ℚ
  deriving DecidableEq, Repr

/-- A driver with fewer than five active days is priced at the lowest tier. -/
def safeCt (Ct : Option ℚ) (activeDays : ℕ) : ℚ :=
  if activeDays < 5 then 4 / 10 else Ct.getD (5 / 10)

def calculateWeeklyPremium (s : System) (driverId : String) (planId : Option String) :
    Except Exn (WeeklyPremium × Redis) := do
  let (profileDriverId, profile) ← resolveProfileDriver io s.db driverId
  let activeDays := resolveActiveDays profile
  let Ew := resolveEarningsWithNewDriverFallback profile activeDays
  let coverage ← resolveCoverage io s.db driverId planId
  let Ct := safeCt coverage activeDays
  let h3Cell ← resolveCell io s driverId profileDriverId
  let (Lf, redis) := resolveLf io s.redis h3Cell
  let rawPremium := computeRawWeeklyPremium Ew Lf Ct
  let tierCap := resolveTierCap Ct
  let tierFloor := resolveTierFloor Ct
  let premium := applyPremiumBounds rawPremium tierCap tierFloor
  pure (⟨driverId, Ew, Lf, Ct, activeDays, premium, tierFloor, tierCap⟩, redis)

end Aegis.PremiumService
