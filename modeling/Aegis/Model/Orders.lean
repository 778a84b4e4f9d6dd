import Aegis.Model.Premium
import Mathlib.Logic.Function.Basic

/-! # Buying a plan

`PaymentsService.createOrder` and `verifyPayment`. -/

namespace Aegis.Payments

open Outcome LiquidityPool Number PremiumService

structure OrderConfig where
  razorpayKeyId : Option String
  razorpayKeySecret : Option String
  /-- The hexadecimal digest of `crypto.createHmac('sha256', key)`. -/
  hmacSha256 : String → String → String

def MAX_WEEKLY_PREMIUM_INR : ℚ := 150

def resolveTierCapForPlanKey (planKey : Option String) : ℚ :=
  match ctForPlan planKey with
  | none => MAX_WEEKLY_PREMIUM_INR
  | some Ct => min MAX_WEEKLY_PREMIUM_INR ((mathRound ((50 + Ct * 125) * 100) : ℚ) / 100)

def MS_PER_DAY : ℤ := 24 * 60 * 60 * 1000

/-! ## The order -/

/-- The order as the gateway creates it. -/
structure GatewayOrder where
  id : String
  currency : Option String
  deriving DecidableEq, Repr

structure CreateOrderIo where
  readPlan : Bool
  premium : PremiumIo
  /-- The outcome of the gateway after the retries. -/
  gateway : Option GatewayOrder
  orderId : String
  createOrder : Bool

section CreateOrder

variable (cfg : OrderConfig) (io : CreateOrderIo) (userId weeklyPlanId : String)

/-- The price in rupees; when pricing fails, the list price under the cap. -/
def orderAmount (s : System) (plan : WeeklyPlan) : ℚ × RedisState.Redis :=
  let tierCap := resolveTierCapForPlanKey (some plan.key)
  match calculateWeeklyPremium io.premium s userId (some weeklyPlanId) with
  | .ok (quote, redis) => (min quote.premium tierCap, redis)
  | .error _ => (min (min plan.price tierCap) tierCap, s.redis)

def newOrder (plan : WeeklyPlan) (order : GatewayOrder) (amountPaise : ℤ) : RazorpayOrder where
  id := io.orderId
  userId := userId
  weeklyPlanId := plan.id
  razorpayOrderId := order.id
  amount := amountPaise
  currency := order.currency.getD "INR"
  status := .CREATED
  razorpayPaymentId := none
  razorpaySignature := none

/-- The plan that is sold, checked before money is asked for. -/
def orderedPlan (db : Db) : Except Exn WeeklyPlan := do
  require (io.readPlan = true) storeDown
  let plan ← orThrow (db.weeklyPlans.findUnique (.id weeklyPlanId))
    (.badRequest "Weekly plan not found")
  require (cfg.razorpayKeyId.getD "" ≠ "" ∧ cfg.razorpayKeySecret.getD "" ≠ "")
    (.error "Missing Razorpay credentials in environment variables")
  pure plan

def insertOrder (plan : WeeklyPlan) (amountPaise : ℤ) (db : Db) :
    Except Exn (GatewayOrder × Db) := do
  let order ← orThrow io.gateway (.error "Razorpay order creation failed")
  require (io.createOrder = true ∧ FitsInt4 amountPaise) storeDown
  let razorpayOrders ← orThrow
    (db.razorpayOrders.create (newOrder io userId plan order amountPaise)) constraintFailed
  pure (order, { db with razorpayOrders })

def createOrder (s : System) : Except Exn GatewayOrder × System :=
  match orderedPlan cfg io weeklyPlanId s.db with
  | .error e => (.error e, s)
  | .ok plan =>
      let (amountRupees, redis) := orderAmount io userId weeklyPlanId s plan
      let s := { s with redis }
      match insertOrder io userId plan (mathRound (amountRupees * 100)) s.db with
      | .error e => (.error e, s)
      | .ok (order, db) => (.ok order, { s with db })

end CreateOrder

/-! ## The verification -/

structure VerifyPaymentDto where
  razorpay_order_id : String
  razorpay_payment_id : String
  razorpay_signature : String
  deriving DecidableEq, Repr

/-- `transaction` covers every write of the transaction but the new policy's uniqueness. -/
structure VerifyIo where
  now : ℤ
  readOrder : Bool
  readPolicy : Bool
  markInvalid : Bool
  policyId : String
  transaction : Bool
  pool : Access
  commit : Bool
  markFailed : Bool
  createDlq : Bool

section Issue

/-- `policy.updateMany` over the user's ACTIVE policies that have not ended. -/
def endPolicies (now : ℤ) (userId : String) (db : Db) : Db :=
  { db with
    policies := db.policies.updateMany
      (fun p => p.userId = userId && p.status = .ACTIVE && now < p.endDate)
      ⟨fun p => { p with endDate := now }, fun _ => rfl⟩ }

def weeklyPolicy (now : ℤ) (id userId : String) (plan : WeeklyPlan) (premium : ℚ) : Policy where
  id := id
  userId := userId
  planType := plan.key
  status := .ACTIVE
  premium := premium
  startDate := now
  endDate := now + plan.durationDays * MS_PER_DAY
  createdAt := now
  weeklyPlanId := some plan.id

end Issue

section VerifyPayment

variable (cfg : OrderConfig) (io : VerifyIo) (userId : String) (dto : VerifyPaymentDto)

def verifyRazorpaySignature : Except Exn Bool := do
  require (cfg.razorpayKeySecret.getD "" ≠ "") (.error "Missing RAZORPAY_KEY_SECRET")
  pure (cfg.hmacSha256 (cfg.razorpayKeySecret.getD "")
    (dto.razorpay_order_id ++ "|" ++ dto.razorpay_payment_id) = dto.razorpay_signature)

def settleOrder (status : OrderStatus) : RowUpdate RazorpayOrder.keys where
  apply o := { o with
    status
    razorpayPaymentId := some dto.razorpay_payment_id
    razorpaySignature := some dto.razorpay_signature }
  keys_apply _ := rfl

def markOrder (order : RazorpayOrder) (status : OrderStatus) (db : Db) : Db :=
  { db with razorpayOrders := db.razorpayOrders.update (.id order.id) (settleOrder dto status) }

def ownOrder (db : Db) : Except Exn RazorpayOrder := do
  require (io.readOrder = true) storeDown
  let order ← orThrow (db.razorpayOrders.findUnique (.razorpayOrderId dto.razorpay_order_id))
    (.badRequest "Invalid Razorpay order")
  require (order.userId = userId) (.unauthorized "Order does not belong to this user")
  pure order

/-- The policy in force for an order that was verified before. -/
def verifiedPolicy (order : RazorpayOrder) (db : Db) : Except Exn (Option Policy) := do
  require (io.readPolicy = true) storeDown
  pure (db.policies.findFirstDesc
    (fun p => p.userId = userId && p.weeklyPlanId = some order.weeklyPlanId &&
      p.status = .ACTIVE && io.now < p.endDate) Policy.createdAt)

/-- Premium replenishment on a connection of its own; a failure is swallowed. -/
def replenish (paidPremium : ℚ) (db : Db) : Db :=
  match injectPremium io.pool db.systemSettings paidPremium with
  | .ok (_, systemSettings) => { db with systemSettings }
  | .error _ => db

/-- The body of the transaction: the new policy and the store as it would be committed. -/
def issueTx (order : RazorpayOrder) (plan : WeeklyPlan) (db : Db) : Except Exn (Policy × Db) := do
  require (io.transaction = true) storeDown
  let db := endPolicies io.now userId db
  let policy := weeklyPolicy io.now io.policyId userId plan (order.amount / 100)
  let policies ← orThrow (db.policies.create policy) constraintFailed
  pure (policy, markOrder dto order .SUCCESS { db with policies })

def policyFailure (order : RazorpayOrder) (plan : WeeklyPlan) (e : Exn) : KafkaDLQ where
  topic := "PAYMENT_VERIFIED_POLICY_FAILED"
  eventKey := some userId
  payload := .verifiedPayment order.id plan.id dto.razorpay_payment_id
  error := some e.message
  retryCount := 0
  status := "PENDING"

/-- The order fails and a dead letter records the payment, as far as the store goes along. -/
def trackFailure (order : RazorpayOrder) (plan : WeeklyPlan) (e : Exn) (db : Db) : Db :=
  if io.markFailed then
    let db := markOrder dto order .FAILED db
    if io.createDlq then
      { db with kafkaDLQ := db.kafkaDLQ ++ [policyFailure userId dto order plan e] }
    else db
  else db

def policyCreationFailed : Exn :=
  .badRequest
    "Payment verified but policy creation failed. Your money is safe. Please contact support."

/-- Policy and order change together; the replenishment inside outlives a failed commit. -/
def issuePolicy (order : RazorpayOrder) (plan : WeeklyPlan) (db : Db) :
    Except Exn (Option Policy) × Db :=
  match issueTx io userId dto order plan db with
  | .error e => (.error policyCreationFailed, trackFailure io userId dto order plan e db)
  | .ok (policy, issued) =>
      if io.commit then (.ok (some policy), replenish io (order.amount / 100) issued)
      else
        (.error policyCreationFailed, trackFailure io userId dto order plan storeDown
          (replenish io (order.amount / 100) db))

def verifyPayment (db : Db) : Except Exn (Option Policy) × Db :=
  match ownOrder io userId dto db with
  | .error e => (.error e, db)
  | .ok order =>
      if order.status = .SUCCESS then (verifiedPolicy io userId order db, db)
      else
        match verifyRazorpaySignature cfg dto with
        | .error e => (.error e, db)
        | .ok false =>
            if io.markInvalid then
              (.error (.badRequest "Invalid Razorpay signature"), markOrder dto order .FAILED db)
            else (.error storeDown, db)
        | .ok true =>
            match db.weeklyPlans.findUnique (.id order.weeklyPlanId) with
            | none => (.error (.badRequest "Weekly plan not found for order"), db)
            | some plan => issuePolicy io userId dto order plan db

end VerifyPayment

end Aegis.Payments

/-! ## Overlapping verifications

Every call of `verifyPayment` is a thread. The read of the order, the transaction that
issues the policy and each of the other statements are steps of their own; what the
transactions issue and inject is logged under the order. -/

namespace Aegis.Payments

open Outcome LiquidityPool

structure VerifyCall where
  io : VerifyIo
  userId : String
  dto : VerifyPaymentDto

/-- Where a call stands; an order is carried as it was read. -/
inductive VerifyPc where
  | start
  | verified (order : RazorpayOrder)
  | invalid (order : RazorpayOrder)
  | issuing (order : RazorpayOrder) (plan : WeeklyPlan)
  | failing (order : RazorpayOrder) (plan : WeeklyPlan) (e : Exn)
  | failed (order : RazorpayOrder) (plan : WeeklyPlan) (e : Exn)
  | done (result : Except Exn (Option Policy))
  deriving DecidableEq

structure Checkout (τ : Type) where
  db : Db
  issued : List (String × Policy) := []
  injected : List (String × ℚ) := []
  pc : τ → VerifyPc := fun _ => .start

namespace Checkout

variable {τ : Type} [DecidableEq τ]

def goTo (s : Checkout τ) (t : τ) (pc : VerifyPc) : Checkout τ :=
  { s with pc := Function.update s.pc t pc }

/-- Where the read of the order leads. -/
def afterRead (cfg : OrderConfig) (c : VerifyCall) (db : Db) : VerifyPc :=
  match ownOrder c.io c.userId c.dto db with
  | .error e => .done (.error e)
  | .ok order =>
      if order.status = .SUCCESS then .verified order
      else
        match verifyRazorpaySignature cfg c.dto with
        | .error e => .done (.error e)
        | .ok false => .invalid order
        | .ok true =>
            match db.weeklyPlans.findUnique (.id order.weeklyPlanId) with
            | none => .done (.error (.badRequest "Weekly plan not found for order"))
            | some plan => .issuing order plan

/-- What a replenishment for the order adds to the pool. -/
def premiumOf (io : VerifyIo) (order : RazorpayOrder) : List (String × ℚ) :=
  if io.pool = .available then [(order.id, order.amount / 100)] else []

/-- The transaction. The replenishment inside has a connection of its own. -/
def transact (c : VerifyCall) (order : RazorpayOrder) (plan : WeeklyPlan) (s : Checkout τ)
    (t : τ) : Checkout τ :=
  match issueTx c.io c.userId c.dto order plan s.db with
  | .error e => s.goTo t (.failing order plan e)
  | .ok (policy, db) =>
      if c.io.commit then
        { s with
          db := replenish c.io (order.amount / 100) db
          issued := s.issued ++ [(order.id, policy)]
          injected := s.injected ++ premiumOf c.io order }.goTo t (.done (.ok (some policy)))
      else
        { s with
          db := replenish c.io (order.amount / 100) s.db
          injected := s.injected ++ premiumOf c.io order }.goTo t (.failing order plan storeDown)

/-- One step of the thread `t`. -/
def step (cfg : OrderConfig) (calls : τ → VerifyCall) (s : Checkout τ) (t : τ) : Checkout τ :=
  let c := calls t
  match s.pc t with
  | .start => s.goTo t (afterRead cfg c s.db)
  | .verified order => s.goTo t (.done (verifiedPolicy c.io c.userId order s.db))
  | .invalid order =>
      if c.io.markInvalid then
        { s with db := markOrder c.dto order .FAILED s.db }.goTo t
          (.done (.error (.badRequest "Invalid Razorpay signature")))
      else s.goTo t (.done (.error storeDown))
  | .issuing order plan => transact c order plan s t
  | .failing order plan e =>
      if c.io.markFailed then
        { s with db := markOrder c.dto order .FAILED s.db }.goTo t (.failed order plan e)
      else s.goTo t (.done (.error policyCreationFailed))
  | .failed order plan e =>
      let db :=
        if c.io.createDlq then
          { s.db with kafkaDLQ := s.db.kafkaDLQ ++ [policyFailure c.userId c.dto order plan e] }
        else s.db
      { s with db }.goTo t (.done (.error policyCreationFailed))
  | .done _ => s

end Checkout

end Aegis.Payments
