import Aegis.Model.Payout
import Aegis.Model.Plans

/-! # The endpoints around payouts

`PayoutController`, `PaymentsController`, `CanonicalPayoutsController` and
`CanonicalClaimsController`. The guards have checked the token: a request comes with the
principal it was issued to. -/

namespace Aegis.PayoutEndpoints

open Outcome RedisState Payments PayoutService

structure Principal where
  id : String
  role : Role
  deriving DecidableEq, Repr

/-! ## POST /payout/process -/

section Process

structure PayoutProcessRequestDto where
  driverId : String
  payoutAmount : Option ℚ := none
  h3Cell : Option String := none
  eventTimestamp : Option ℤ := none
  policyId : Option String := none
  disruptionType : Option String := none
  deriving DecidableEq, Repr

def resolveAuthorizedDriverId (user : Principal) (requestedDriverId : String) :
    Except Exn String :=
  if user.role = .ADMIN then .ok requestedDriverId
  else if requestedDriverId ≠ "" ∧ requestedDriverId ≠ user.id then
    .error (.forbidden "Cannot process payout for another driver")
  else .ok user.id

def PayoutProcessRequestDto.params (dto : PayoutProcessRequestDto) (driverId : String) :
    ProcessPayoutParams where
  driverId := driverId
  payoutAmount := dto.payoutAmount
  h3Cell := dto.h3Cell
  eventTimestamp := dto.eventTimestamp
  policyId := dto.policyId
  disruptionType := dto.disruptionType

def process (cfg : PayoutService.Config) (io : ProcessIo) (user : Principal)
    (dto : PayoutProcessRequestDto) (s : System) : Except Exn ProcessPayoutResult × System :=
  match resolveAuthorizedDriverId user dto.driverId with
  | .error e => (.error e, s)
  | .ok driverId => processPayout cfg io (dto.params driverId) s

end Process

/-! ## POST /payments/parametric-payout -/

section ParametricPayout

/-- The body of the request, with `approvedPayout` at least zero. -/
structure ParametricPayoutRequest where
  policyId : String
  disruptionEventId : String
  eventTimestamp : ℤ
  h3Cell : String
  approvedPayout : ℚ
  nonneg : 0 ≤ approvedPayout
  deriving DecidableEq

def ParametricPayoutRequest.dto (r : ParametricPayoutRequest) (userId : String) :
    ParametricPayoutDto where
  userId := userId
  policyId := r.policyId
  disruptionEventId := r.disruptionEventId
  eventTimestamp := r.eventTimestamp
  h3Cell := r.h3Cell
  approvedPayout := r.approvedPayout

/-- A settlement as part of the whole system; Redis is not touched. -/
def settleIn (cfg : Payments.Config) (io : Payments.Io) (dto : ParametricPayoutDto) (s : System) :
    Except Exn PayoutResult × System :=
  let (result, world) := processParametricPayout cfg io dto s.toWorld
  (result, { s with toWorld := world })

def parametricPayout (cfg : Payments.Config) (io : Payments.Io) (user : Principal)
    (body : ParametricPayoutRequest) (s : System) : Except Exn PayoutResult × System :=
  settleIn cfg io (body.dto user.id) s

end ParametricPayout

/-! ## POST /payments/demo-claim -/

section DemoClaim

structure DemoIo where
  now : ℤ
  readPolicy : Bool
  eventId : String
  createEvent : Bool
  settle : Payments.Io

/-- The newest policy of the driver that is marked active, whatever its dates. -/
def demoPolicy (db : Db) (userId : String) : Option Policy :=
  db.policies.findFirstDesc (fun p => p.userId = userId && p.status = .ACTIVE) Policy.createdAt

/-- `activePolicy.weeklyPlan?.maxPayout ?? activePolicy.premium`. -/
def demoAmount (db : Db) (policy : Policy) : ℚ :=
  ((PlansService.weeklyPlanOf db policy).map WeeklyPlan.maxPayout).getD policy.premium

def demoEvent (io : DemoIo) (db : Db) (policy : Policy) (type : Option String) :
    DisruptionEvent where
  id := io.eventId
  type := JsString.toUpperCase ((truthy type).getD "RAIN")
  title := "Demo claim " ++ JsString.toUpperCase ((truthy type).getD "RAIN")
  expectedLoss := some (demoAmount db policy)
  expectedPayout := some (demoAmount db policy)
  occurredAt := io.now
  expiresAt := none
  verified := true

def demoDto (io : DemoIo) (db : Db) (policy : Policy) (userId : String) : ParametricPayoutDto where
  userId := userId
  policyId := policy.id
  disruptionEventId := io.eventId
  eventTimestamp := io.now / 1000
  h3Cell := "demo_h3_cell"
  approvedPayout := demoAmount db policy

/-- The demo's settlement request, and the store with the demo's event. -/
def prepareDemo (io : DemoIo) (userId : String) (type : Option String) (db : Db) :
    Except Exn (ParametricPayoutDto × Db) := do
  require (io.readPolicy = true) storeDown
  let policy ← orThrow (demoPolicy db userId)
    (.badRequest "No active policy found for demo claim")
  require (io.createEvent = true) storeDown
  let disruptionEvents ← orThrow (db.disruptionEvents.create (demoEvent io db policy type))
    constraintFailed
  pure (demoDto io db policy userId, { db with disruptionEvents })

def runDemoClaim (cfg : Payments.Config) (io : DemoIo) (userId : String) (type : Option String)
    (s : System) : Except Exn PayoutResult × System :=
  match prepareDemo io userId type s.db with
  | .error e => (.error e, s)
  | .ok (dto, db) => settleIn cfg io.settle dto { s with db }

end DemoClaim

/-! ## POST /payouts/initiate -/

section Initiate

structure PayoutInitiateDto where
  workerId : Option String := none
  claimId : String
  deriving DecidableEq, Repr

structure InitiateIo where
  now : ℤ
  readClaim : Bool
  redisUp : Bool
  settle : Payments.Io

def assertAccess (user : Principal) (workerId : String) : Except Exn Unit :=
  require (user.role = .ADMIN ∨ user.id = workerId)
    (.forbidden "Cannot access another worker payouts")

/-- The settlement request for an existing payout row. -/
def prepareInitiate (io : InitiateIo) (user : Principal) (dto : PayoutInitiateDto) (s : System) :
    Except Exn ParametricPayoutDto := do
  require (io.readClaim = true) storeDown
  let claim ← orThrow (s.db.payouts.findUnique (.id dto.claimId)) (.forbidden "Claim not found")
  let policy ← orThrow (s.db.policies.findUnique claim.policyId)
    (.typeError "Cannot read properties of null (reading 'userId')")
  let workerId := dto.workerId.getD policy.userId
  assertAccess user workerId
  let policyState := getPolicyState io.redisUp io.now s.redis claim.policyId
  let occurredAt := (s.db.disruptionEvents.findUnique claim.disruptionEventId).map
    DisruptionEvent.occurredAt
  pure {
    userId := workerId
    policyId := claim.policyId
    disruptionEventId := claim.disruptionEventId
    eventTimestamp := occurredAt.getD io.now / 1000
    h3Cell := (policyState.bind PolicyState.zone).getD "manual-claim"
    approvedPayout := (claim.approvedPayout.or claim.estimatedLoss).getD 0 }

def initiate (cfg : Payments.Config) (io : InitiateIo) (user : Principal) (dto : PayoutInitiateDto)
    (s : System) : Except Exn PayoutResult × System :=
  match prepareInitiate io user dto s with
  | .error e => (.error e, s)
  | .ok request => settleIn cfg io.settle request s

end Initiate

/-! ## PUT /claims/:id/approve -/

section Approve

structure ApproveIo where
  now : ℤ
  readClaim : Bool
  writeClaim : Bool

def markApproved (now : ℤ) : RowUpdate Payout.keys where
  apply p := { p with status := .APPROVED, transferredAt := some (p.transferredAt.getD now) }
  keys_apply _ := rfl

/-- An administrator marks the payout row approved. -/
def approve (io : ApproveIo) (claimId : String) (s : System) :
    Except Exn (String × PayoutStatus) × System :=
  if io.readClaim then
    match s.db.payouts.findUnique (.id claimId) with
    | none => (.error (.forbidden "Claim not found"), s)
    | some claim =>
        if io.writeClaim then
          (.ok (claim.id, .APPROVED), { s with
            db := { s.db with
              payouts := s.db.payouts.update (.id claimId) (markApproved io.now) } })
        else (.error storeDown, s)
  else (.error storeDown, s)

end Approve

end Aegis.PayoutEndpoints
