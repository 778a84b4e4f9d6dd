import Aegis.Model.Eligibility
import Aegis.Model.Payments

/-! # The plans page

`PlansService.getPurchasedPolicies`, which resolves the payout of every active policy for
the latest disruption. -/

namespace Aegis.PlansService

open Outcome Payments Number

/-- How the ML service answers the trigger request. -/
inductive TriggerReply where
  | unavailable
  | answered (decision : Option String)
  deriving DecidableEq, Repr

structure Config where
  eligibility : Eligibility.Env
  latLngToCell : ℚ → ℚ → String

/-- What the resolution for one policy meets. -/
structure ResolveIo where
  readEligibility : Bool
  readAnalysis : Bool
  trigger : String → JsNumber → TriggerReply
  readPayout : Bool
  payoutId : String
  randomBytes : List ℕ
  writePayout : Bool

structure PurchasedIo where
  now : ℤ
  readPolicies : Bool
  readDisruption : Bool
  resolve : String → ResolveIo
  readLatestPayout : String → Bool

section Resolve

variable (cfg : Config) (now : ℤ) (io : ResolveIo) (db : Db)

def weeklyPlanOf (policy : Policy) : Option WeeklyPlan :=
  policy.weeklyPlanId.bind fun id => db.weeklyPlans.findUnique (.id id)

/-- `policy.weeklyPlan?.key ?? policy.planType`. -/
def planKeyOf (policy : Policy) : String :=
  ((weeklyPlanOf db policy).map WeeklyPlan.key).getD policy.planType

def generateStandardPayoutReference : String := "pout_" ++ base62 io.randomBytes

/-- A coordinate that is neither absent nor zero. -/
def coordinate (v : Option ℚ) : Option ℚ := v.filter (· ≠ 0)

/-- Whether the ML service approves; every failure on the way counts as no. -/
def shouldBeApproved (userId : String) : Bool :=
  if io.readAnalysis then
    match db.fraudAnalyses.findUnique userId with
    | none => false
    | some analysis =>
        match coordinate analysis.gpsLatitude, coordinate analysis.gpsLongitude with
        | some lat, some lng =>
            match io.trigger (cfg.latLngToCell lat lng) (analysis.riskScore.orZero.divPos 100) with
            | .answered decision => decision = some "APPROVED"
            | .unavailable => false
        | _, _ => false
  else false

/-- `Math.round(x * 100) / 100`. -/
def round2 (x : ℚ) : ℚ := (mathRound (x * 100) : ℚ) / 100

def tierWeight (policy : Policy) : ℚ :=
  let ct := (ctForPlan (some (planKeyOf db policy))).getD (8 / 10)
  min 1 (max (1 / 10) (ct / (8 / 10)))

def estimatedLoss (policy : Policy) (disruption : DisruptionEvent) : ℚ :=
  round2 (disruption.expectedLoss.getD 0 * tierWeight db policy)

def approvedPayout (policy : Policy) (disruption : DisruptionEvent) : ℚ :=
  let expectedPayout := disruption.expectedPayout.getD 0
  let maxPayout := ((weeklyPlanOf db policy).map WeeklyPlan.maxPayout).getD 0
  round2 (min (expectedPayout * tierWeight db policy)
    (if 0 < maxPayout then maxPayout else expectedPayout))

def newPayout (policy : Policy) (disruption : DisruptionEvent) (approved : Bool) : Payout where
  id := io.payoutId
  policyId := policy.id
  disruptionEventId := disruption.id
  status := if approved then .APPROVED else .PROCESSING
  estimatedLoss := some (estimatedLoss db policy disruption)
  approvedPayout := some (approvedPayout db policy disruption)
  transactionId := if approved then some (generateStandardPayoutReference io) else none
  paymentMethod := none
  processingTime := some (if approved then "Auto-credited" else "Auto-processing")
  bankReference := none
  transferredAt := none
  createdAt := now

/-- `payout.transactionId || generated`. -/
def transactionIdOr (payout : Payout) : String :=
  (payout.transactionId.filter (· ≠ "")).getD (generateStandardPayoutReference io)

def autoCredit (policy : Policy) (disruption : DisruptionEvent) (payout : Payout) :
    RowUpdate Payout.keys where
  apply p := { p with
    status := .APPROVED
    approvedPayout := some (approvedPayout db policy disruption)
    processingTime := some "Auto-credited"
    transactionId := some (transactionIdOr io payout) }
  keys_apply _ := rfl

/-- The payout row of the pair; `none` when the driver is not eligible. -/
def resolvePayoutForPolicy (policy : Policy) (disruption : DisruptionEvent) (userId : String) :
    Except Exn (Option Payout × Db) :=
  match Eligibility.assertDriverPolicyEligibility cfg.eligibility io.readEligibility now db userId
      (some (planKeyOf db policy)) with
  | .error _ => .ok (none, db)
  | .ok _ => do
      require (io.readPayout = true) storeDown
      let approved := shouldBeApproved cfg io db userId
      match db.payouts.findUnique (.policyId_disruptionEventId policy.id disruption.id) with
      | none =>
          require (io.writePayout = true) storeDown
          let payouts ← orThrow (db.payouts.create (newPayout now io db policy disruption approved))
            constraintFailed
          pure (some (newPayout now io db policy disruption approved), { db with payouts })
      | some payout =>
          if approved && payout.status = .PROCESSING then do
            require (io.writePayout = true) storeDown
            let credit := autoCredit io db policy disruption payout
            pure (some (credit.apply payout),
              { db with payouts := db.payouts.update (.id payout.id) credit })
          else pure (some payout, db)

end Resolve

/-! ## The page -/

def claimStatusFromPayout (payoutStatus : PayoutStatus) : String :=
  match payoutStatus with
  | .APPROVED => "PAID_OUT"
  | .PROCESSING => "PROCESSING"
  | .REJECTED => "REJECTED"

structure PurchasedPolicy where
  policy : Policy
  weeklyPlan : Option WeeklyPlan
  eligibleForLatestDisruption : Bool
  claimStatus : String
  payout : Option Payout
  disruptionType : Option String
  deriving DecidableEq, Repr

structure Purchased where
  latestDisruption : Option DisruptionEvent
  purchasedPolicies : List PurchasedPolicy
  deriving DecidableEq, Repr

section Page

variable (cfg : Config) (io : PurchasedIo) (userId : String)

def latestPayoutOf (db : Db) (policyId : String) : Option Payout :=
  db.payouts.findFirstDesc (fun p => p.policyId = policyId) Payout.createdAt

/-- The `disruptionEvent` of a payout row, by its type. -/
def disruptionTypeOf (db : Db) (payout : Option Payout) : Option String :=
  payout.bind fun p => (db.disruptionEvents.findUnique p.disruptionEventId).map DisruptionEvent.type

/-- The payout and the claim status shown for one policy. -/
def payoutOfPolicy (policy : Policy) (latestDisruption : Option DisruptionEvent) (eligible : Bool)
    (db : Db) : Except Exn (Option Payout × String) × Db :=
  let latest (claimStatus : String) : Except Exn (Option Payout × String) × Db :=
    if io.readLatestPayout policy.id then
      let payout := latestPayoutOf db policy.id
      (.ok (payout, (payout.map fun p => claimStatusFromPayout p.status).getD claimStatus), db)
    else (.error storeDown, db)
  match latestDisruption, eligible with
  | some disruption, true =>
      match resolvePayoutForPolicy cfg io.now
        (io.resolve policy.id) db policy disruption userId with
      | .error e => (.error e, db)
      | .ok (some payout, db) => (.ok (some payout, claimStatusFromPayout payout.status), db)
      | .ok (none, db) =>
          (.error (.typeError "Cannot read properties of null (reading 'status')"), db)
  | none, _ => latest "NO_DISRUPTION"
  | some _, false => latest "INELIGIBLE_FOR_LATEST_DISRUPTION"

/-- The loop over the policies; the writes made before a failure stay. -/
def purchasedPolicies (latestDisruption : Option DisruptionEvent) :
    List Policy → Db → Except Exn (List PurchasedPolicy) × Db
  | [], db => (.ok [], db)
  | policy :: rest, db =>
      let weeklyPlan := weeklyPlanOf db policy
      let eligibleTypes := (weeklyPlan.map WeeklyPlan.eligibleDisruptionTypes).getD []
      let eligible := (latestDisruption.map fun e => eligibleTypes.contains e.type).getD false
      match payoutOfPolicy cfg io userId policy latestDisruption eligible db with
      | (.error e, db) => (.error e, db)
      | (.ok (payout, claimStatus), db) =>
          let shown : PurchasedPolicy :=
            ⟨policy, weeklyPlan, eligible, claimStatus, payout, disruptionTypeOf db payout⟩
          match purchasedPolicies latestDisruption rest db with
          | (.error e, db) => (.error e, db)
          | (.ok shownRest, db) => (.ok (shown :: shownRest), db)

def latestDisruptionOf (now : ℤ) (db : Db) : Option DisruptionEvent :=
  db.disruptionEvents.findFirstDesc
    (fun e => e.verified && (e.expiresAt.all fun expiresAt => now < expiresAt))
    DisruptionEvent.occurredAt

def getPurchasedPolicies (db : Db) : Except Exn Purchased × Db :=
  if io.readPolicies && io.readDisruption then
    let activePolicies := db.policies.findManyDesc
      (fun p => p.userId = userId && p.status = .ACTIVE && io.now < p.endDate) Policy.createdAt
    let latestDisruption := latestDisruptionOf io.now db
    match purchasedPolicies cfg io userId latestDisruption activePolicies db with
    | (.error e, db) => (.error e, db)
    | (.ok shown, db) => (.ok ⟨latestDisruption, shown⟩, db)
  else (.error storeDown, db)

end Page

end Aegis.PlansService
