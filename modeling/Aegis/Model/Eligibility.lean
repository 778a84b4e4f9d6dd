import Aegis.Library.JsString
import Aegis.Library.Number
import Aegis.Library.Outcome
import Aegis.Model.Schema

/-! # Driver eligibility

`driver-eligibility.util.ts`. -/

namespace Aegis.Eligibility

open Outcome JsString

/-- The environment variables that decide whether the gate is enforced. -/
structure Env where
  enforceDriverEligibility : Option String := none
  nodeEnv : Option String := none
  deriving DecidableEq, Repr

def MS_PER_DAY : ℤ := 24 * 60 * 60 * 1000

def MIN_ENGAGEMENT_DAYS_STANDARD : ℤ := 90

def MIN_ENGAGEMENT_DAYS_PREMIUM : ℤ := 120

/-- The values of `QCommerceProvider`. -/
def oauthProviders : List String :=
  ["zepto", "blinkit", "instamart", "bigbasket", "jiomart", "aegis"]

def isEligibilityEnforced (env : Env) : Bool :=
  let explicit := toLowerCase (trim (env.enforceDriverEligibility.getD ""))
  if explicit = "true" then true
  else if explicit = "false" then false
  else env.nodeEnv = some "production"

def normalizePlanKey (planKey : Option String) : String := toUpperCase (trim (planKey.getD ""))

def resolveRequiredEngagementDays (planKey : Option String) : ℤ :=
  if normalizePlanKey planKey = "PREMIUM" then MIN_ENGAGEMENT_DAYS_PREMIUM
  else MIN_ENGAGEMENT_DAYS_STANDARD

def resolveEngagementDaysSince (date now : ℤ) : ℤ := max 0 (now - date) / MS_PER_DAY

structure Standing where
  engagementDays : ℤ
  requiredDays : ℤ
  kycStatus : KYCStatus
  deriving DecidableEq, Repr

def isOAuthUser (user : User) : Bool :=
  match user.platform with
  | some platform => platform ≠ "" && oauthProviders.contains (toLowerCase platform)
  | none => false

/-- What the gate reports of an eligible driver; `readable` is `false` when one of the three reads
fails. -/
def assertDriverPolicyEligibility (env : Env) (readable : Bool) (now : ℤ) (db : Db)
    (userId : String) (planKey : Option String) : Except Exn Standing := do
  require (readable = true) (.database "Can't reach database server")
  let kycProfile := db.kycProfiles.findUnique userId
  let user ← orThrow (db.users.findUnique (.id userId)) (.forbidden "Driver account not found")
  require (user.isVerified = true) (.unauthorized
    "Please verify your email before policy enrollment or payout processing.")
  let engagementDays := resolveEngagementDaysSince user.createdAt now
  let requiredDays := resolveRequiredEngagementDays planKey
  if isEligibilityEnforced env then
    if isOAuthUser user then pure ⟨engagementDays, requiredDays, .APPROVED⟩
    else do
      require ((kycProfile.map KYCProfile.status) = some .APPROVED)
        (.forbidden "KYC must be approved before policy enrollment or payout processing.")
      require (((db.kycPayoutSetups.findUnique userId).map
          KYCPayoutSetup.financialDataConsent) = some true)
        (.forbidden
          "Explicit financial data consent is required before policy enrollment or payout processing.")
      require (requiredDays ≤ engagementDays)
        (.forbidden ("Minimum platform engagement of " ++ toString requiredDays ++
          " days is required before policy enrollment or payout processing. Current tenure: " ++
          toString engagementDays ++ " days."))
      pure ⟨engagementDays, requiredDays, .APPROVED⟩
  else
    pure ⟨engagementDays, requiredDays, ((kycProfile.map KYCProfile.status).getD .NOT_STARTED)⟩

end Aegis.Eligibility

/-! ## Plan tiers and the payout formula

`policy-tiers.ts` and `payout-calculation.util.ts`; amounts are exact rationals. -/

namespace Aegis

open JsString Number

def PLAN_CT : List (String × ℚ) :=
  [("BASIC", 4 / 10), ("STANDARD", 6 / 10), ("PREMIUM", 7 / 10), ("ELITE", 8 / 10)]

def normalizePlanTier (plan : Option String) : Option String :=
  match plan with
  | none => none
  | some plan =>
      if plan = "" then none
      else
        let normalized := toUpperCase (trim plan)
        if (PLAN_CT.lookup normalized).isSome then some normalized else none

def ctForPlan (plan : Option String) : Option ℚ :=
  (normalizePlanTier plan).bind fun tier => PLAN_CT.lookup tier

/-! ## The payout formula -/

def DEDUCTIBLE_BASIC_INR : ℚ := 500

def DEDUCTIBLE_STANDARD_INR : ℚ := 200

def DEDUCTIBLE_PREMIUM_INR : ℚ := 0

def resolveDeductible (planType : Option String) : ℚ :=
  let normalized := toUpperCase (planType.getD "")
  if normalized = "BASIC" then DEDUCTIBLE_BASIC_INR
  else if normalized = "STANDARD" then DEDUCTIBLE_STANDARD_INR
  else DEDUCTIBLE_PREMIUM_INR

def computeGrossPayout (Ew Lf Ct : ℚ) : ℚ :=
  let dailyIncome := Ew / 7
  dailyIncome * Ct * Lf

def computeNetPayout (grossPayout deductible : ℚ) : ℚ := max 0 (grossPayout - deductible)

end Aegis
