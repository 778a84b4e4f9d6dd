import Aegis.Library.Number
import Aegis.Library.Table
import Mathlib.Algebra.Order.Field.Rat

/-! # The relational schema

One record per model of `schema.prisma`, with the columns that the modelled services
read or write, and one table per model. Times are milliseconds since the epoch. -/

namespace Aegis

/-- What a service throws, by exception class. -/
inductive Exn where
  | error (message : String)
  | typeError (message : String)
  | badRequest (message : String)
  | unauthorized (message : String)
  | forbidden (message : String)
  | notFound (message : String)
  | conflict (message : String)
  | database (message : String)
  deriving DecidableEq, Repr

def Exn.message : Exn → String
  | error m | typeError m | badRequest m | unauthorized m | forbidden m | notFound m
  | conflict m | database m => m

/-! ## Column types -/

inductive PolicyStatus where
  | ACTIVE
  | CANCELLED
  deriving DecidableEq, Repr

inductive PayoutStatus where
  | PROCESSING
  | APPROVED
  | REJECTED
  deriving DecidableEq, Repr

inductive PayoutState where
  | PENDING
  | PROCESSING
  | SUCCESS
  | FAILED
  deriving DecidableEq, Repr

inductive ClaimCaseStatus where
  | OPEN
  | UNDER_REVIEW
  | APPROVED
  | REJECTED
  | PAID
  deriving DecidableEq, Repr

inductive PayoutMethod where
  | UPI
  | BANK
  deriving DecidableEq, Repr

inductive OrderStatus where
  | CREATED
  | SUCCESS
  | FAILED
  deriving DecidableEq, Repr

inductive Role where
  | DRIVER
  | ADMIN
  deriving DecidableEq, Repr

inductive KYCStatus where
  | NOT_STARTED
  | IN_PROGRESS
  | SUBMITTED
  | APPROVED
  | REJECTED
  deriving DecidableEq, Repr

/-! ## Rows -/

structure User where
  id : String
  email : String
  phone : Option String
  passwordHash : String
  role : Role
  isVerified : Bool
  otpCode : Option String
  otpExpiresAt : Option ℤ
  refreshToken : Option String
  createdAt : ℤ
  driverName : Option String
  platform : Option String
  deriving DecidableEq, Repr

structure KYCProfile where
  userId : String
  status : KYCStatus
  submittedAt : Option ℤ
  reviewedAt : Option ℤ
  reviewNote : Option String
  deriving DecidableEq, Repr

structure KYCPayoutSetup where
  userId : String
  method : PayoutMethod
  upiId : Option String
  accountNumber : Option String
  ifscCode : Option String
  accountHolder : Option String
  bankName : Option String
  consentVersion : Option String
  financialDataConsent : Bool
  financialDataConsentAt : Option ℤ
  deriving DecidableEq, Repr

structure KYCPersonalDetails where
  userId : String
  address : String
  city : String
  state : String
  pincode : String
  deriving DecidableEq, Repr

structure FraudAnalysis where
  id : String
  userId : String
  gpsLatitude : Option ℚ
  gpsLongitude : Option ℚ
  riskScore : JsNumber
  status : String
  deviceIntegrity : Option String
  networkType : Option String
  velocityCheck : Option String
  accelerometerVariance : Option ℚ
  barometricPressureHpa : Option ℚ
  acousticMatchConfidence : Option ℚ
  isKinematicallyValid : Option Bool
  fraudReason : Option String
  deriving DecidableEq, Repr

structure ClaimFingerprint where
  userId : String
  h3Cell : String
  eventType : String
  claimAmount : ℚ
  amountBucket : ℤ
  timeBucket : ℤ
  fingerprintHash : String
  createdAt : ℤ
  deriving DecidableEq, Repr

structure WeeklyPlan where
  id : String
  key : String
  name : String
  price : ℚ
  maxPayout : ℚ
  durationDays : ℤ
  eligibleDisruptionTypes : List String
  deriving DecidableEq, Repr

structure DisruptionEvent where
  id : String
  type : String
  title : String
  expectedLoss : Option ℚ
  expectedPayout : Option ℚ
  occurredAt : ℤ
  expiresAt : Option ℤ
  verified : Bool
  deriving DecidableEq, Repr

structure Policy where
  id : String
  userId : String
  planType : String
  status : PolicyStatus
  premium : ℚ
  startDate : ℤ
  endDate : ℤ
  createdAt : ℤ
  weeklyPlanId : Option String
  deriving DecidableEq, Repr

structure RazorpayOrder where
  id : String
  userId : String
  weeklyPlanId : String
  razorpayOrderId : String
  /-- In paise. -/
  amount : ℤ
  currency : String
  status : OrderStatus
  razorpayPaymentId : Option String
  razorpaySignature : Option String
  deriving DecidableEq, Repr

structure Payout where
  id : String
  policyId : String
  disruptionEventId : String
  status : PayoutStatus
  estimatedLoss : Option ℚ
  approvedPayout : Option ℚ
  transactionId : Option String
  paymentMethod : Option String
  processingTime : Option String
  bankReference : Option String
  transferredAt : Option ℤ
  createdAt : ℤ
  deriving DecidableEq, Repr

structure ClaimCase where
  id : String
  userId : String
  policyId : String
  disruptionEventId : String
  payoutId : Option String
  status : ClaimCaseStatus
  reasonCode : Option String
  decisionNote : Option String
  correlationId : Option String
  deriving DecidableEq, Repr

structure PayoutIdempotencyKey where
  id : String
  userId : String
  h3Cell : String
  eventTimestamp : ℤ
  payoutState : PayoutState
  payoutId : Option String
  errorMessage : Option String
  deriving DecidableEq, Repr

/-- An entry of the Redis list `payout_retry_queue`. -/
structure PayoutRetry where
  driverId : String
  policyId : String
  disruptionEventId : String
  h3Cell : String
  approvedPayout : Option ℚ
  eventTimestamp : Option ℤ
  attempts : Option ℕ
  deriving DecidableEq, Repr

inductive DlqPayload where
  | payoutRetry (entry : PayoutRetry)
  | verifiedPayment (orderId planId razorpayPaymentId : String)
  deriving DecidableEq, Repr

/-- A dead letter and what was given up. -/
structure KafkaDLQ where
  topic : String
  eventKey : Option String
  payload : DlqPayload
  error : Option String
  retryCount : ℕ
  status : String
  deriving DecidableEq, Repr

structure SystemSetting where
  key : String
  value : ℚ
  deriving DecidableEq, Repr

/-! ## Unique indexes -/

inductive UserIndex where
  | id (id : String)
  | email (email : String)
  | phone (phone : String)
  deriving DecidableEq, Repr

def User.keys (u : User) : List UserIndex :=
  [.id u.id, .email u.email] ++ (u.phone.map UserIndex.phone).toList

def KYCProfile.keys (p : KYCProfile) : List String := [p.userId]

def KYCPayoutSetup.keys (p : KYCPayoutSetup) : List String := [p.userId]

def KYCPersonalDetails.keys (d : KYCPersonalDetails) : List String := [d.userId]

def FraudAnalysis.keys (a : FraudAnalysis) : List String := [a.userId]

def ClaimFingerprint.keys (f : ClaimFingerprint) : List (String × String × ℤ) :=
  [(f.userId, f.fingerprintHash, f.timeBucket)]

inductive RazorpayOrderIndex where
  | id (id : String)
  | razorpayOrderId (razorpayOrderId : String)
  deriving DecidableEq, Repr

def RazorpayOrder.keys (o : RazorpayOrder) : List RazorpayOrderIndex :=
  [.id o.id, .razorpayOrderId o.razorpayOrderId]

@[simp] theorem RazorpayOrder.id_mem_keys_iff {id : String} {o : RazorpayOrder} :
    RazorpayOrderIndex.id id ∈ o.keys ↔ id = o.id := by
  simp [RazorpayOrder.keys]

inductive WeeklyPlanIndex where
  | id (id : String)
  | key (key : String)
  deriving DecidableEq, Repr

def WeeklyPlan.keys (p : WeeklyPlan) : List WeeklyPlanIndex := [.id p.id, .key p.key]

def DisruptionEvent.keys (e : DisruptionEvent) : List String := [e.id]

def Policy.keys (p : Policy) : List String := [p.id]

inductive PayoutIndex where
  | id (id : String)
  | policyId_disruptionEventId (policyId disruptionEventId : String)
  deriving DecidableEq, Repr

def Payout.keys (p : Payout) : List PayoutIndex :=
  [.id p.id, .policyId_disruptionEventId p.policyId p.disruptionEventId]

@[simp] theorem Payout.id_mem_keys_iff {id : String} {p : Payout} :
    PayoutIndex.id id ∈ p.keys ↔ id = p.id := by
  simp [Payout.keys]

@[simp] theorem Payout.event_mem_keys_iff {policyId disruptionEventId : String} {p : Payout} :
    PayoutIndex.policyId_disruptionEventId policyId disruptionEventId ∈ p.keys ↔
      policyId = p.policyId ∧ disruptionEventId = p.disruptionEventId := by
  simp [Payout.keys]

inductive ClaimCaseIndex where
  | id (id : String)
  | policyId_disruptionEventId (policyId disruptionEventId : String)
  | payoutId (payoutId : String)
  deriving DecidableEq, Repr

def ClaimCase.keys (c : ClaimCase) : List ClaimCaseIndex :=
  [.id c.id, .policyId_disruptionEventId c.policyId c.disruptionEventId] ++
    (c.payoutId.map ClaimCaseIndex.payoutId).toList

inductive PayoutIdempotencyIndex where
  | id (id : String)
  | userId_h3Cell_eventTimestamp (userId h3Cell : String) (eventTimestamp : ℤ)
  deriving DecidableEq, Repr

def PayoutIdempotencyKey.keys (k : PayoutIdempotencyKey) : List PayoutIdempotencyIndex :=
  [.id k.id, .userId_h3Cell_eventTimestamp k.userId k.h3Cell k.eventTimestamp]

@[simp] theorem PayoutIdempotencyKey.id_mem_keys_iff {id : String} {k : PayoutIdempotencyKey} :
    PayoutIdempotencyIndex.id id ∈ k.keys ↔ id = k.id := by
  simp [PayoutIdempotencyKey.keys]

def SystemSetting.keys (s : SystemSetting) : List String := [s.key]

/-! ## The store -/

structure Db where
  users : Table User.keys := .empty
  kycProfiles : Table KYCProfile.keys := .empty
  kycPayoutSetups : Table KYCPayoutSetup.keys := .empty
  kycPersonalDetails : Table KYCPersonalDetails.keys := .empty
  fraudAnalyses : Table FraudAnalysis.keys := .empty
  claimFingerprints : Table ClaimFingerprint.keys := .empty
  weeklyPlans : Table WeeklyPlan.keys := .empty
  disruptionEvents : Table DisruptionEvent.keys := .empty
  policies : Table Policy.keys := .empty
  razorpayOrders : Table RazorpayOrder.keys := .empty
  payouts : Table Payout.keys := .empty
  claimCases : Table ClaimCase.keys := .empty
  payoutIdempotencyKeys : Table PayoutIdempotencyKey.keys := .empty
  systemSettings : Table SystemSetting.keys := .empty
  kafkaDLQ : List KafkaDLQ := []

/-- The 32-bit range of an `Int` column. -/
def FitsInt4 (n : ℤ) : Prop := -2147483648 ≤ n ∧ n ≤ 2147483647

instance (n : ℤ) : Decidable (FitsInt4 n) := inferInstanceAs (Decidable (_ ∧ _))

end Aegis
