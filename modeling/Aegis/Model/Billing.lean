import Aegis.Model.Premium

/-! # Recurring billing

`PremiumService.runRecurringBilling` and what it calls. The statements of a charge are
operations of their own on the books. -/

namespace Aegis

/-! ## The tables -/

inductive BillingMandateStatus where
  | ACTIVE
  | PAUSED
  | FAILED
  | REVOKED
  deriving DecidableEq, Repr

inductive PremiumInvoiceStatus where
  | PENDING
  | PROCESSING
  | PAID
  | FAILED
  | WAIVED
  deriving DecidableEq, Repr

inductive ChargeAttemptStatus where
  | STARTED
  | SUCCESS
  | FAILED
  deriving DecidableEq, Repr

structure BillingMandate where
  id : String
  userId : String
  policyId : String
  provider : String
  providerMandateId : Option String
  status : BillingMandateStatus
  nextChargeAt : ℤ
  lastChargedAt : Option ℤ
  failureCount : ℕ
  createdAt : ℤ
  deriving DecidableEq, Repr

structure PremiumInvoice where
  id : String
  userId : String
  policyId : String
  mandateId : Option String
  billingCycleStart : ℤ
  billingCycleEnd : ℤ
  amountDue : ℚ
  amountPaid : Option ℚ
  status : PremiumInvoiceStatus
  dueAt : ℤ
  paidAt : Option ℤ
  failureReason : Option String
  correlationId : Option String
  deriving DecidableEq, Repr

structure PremiumChargeAttempt where
  id : String
  invoiceId : String
  attemptNumber : ℕ
  status : ChargeAttemptStatus
  gatewayReference : Option String
  errorCode : Option String
  errorMessage : Option String
  correlationId : Option String
  deriving DecidableEq, Repr

structure PremiumLedgerEntry where
  userId : String
  policyId : String
  invoiceId : String
  direction : String
  amount : ℚ
  correlationId : Option String
  deriving DecidableEq, Repr

def BillingMandate.keys (m : BillingMandate) : List String := [m.id]

inductive PremiumInvoiceIndex where
  | id (id : String)
  | policyId_billingCycleStart (policyId : String) (billingCycleStart : ℤ)
  deriving DecidableEq, Repr

def PremiumInvoice.keys (i : PremiumInvoice) : List PremiumInvoiceIndex :=
  [.id i.id, .policyId_billingCycleStart i.policyId i.billingCycleStart]

@[simp] theorem PremiumInvoice.id_mem_keys_iff {id : String} {i : PremiumInvoice} :
    PremiumInvoiceIndex.id id ∈ i.keys ↔ id = i.id := by
  simp [PremiumInvoice.keys]

@[simp] theorem PremiumInvoice.cycle_mem_keys_iff {policyId : String} {billingCycleStart : ℤ}
    {i : PremiumInvoice} :
    PremiumInvoiceIndex.policyId_billingCycleStart policyId billingCycleStart ∈ i.keys ↔
      policyId = i.policyId ∧ billingCycleStart = i.billingCycleStart := by
  simp [PremiumInvoice.keys]

def PremiumChargeAttempt.keys (a : PremiumChargeAttempt) : List String := [a.id]

namespace PremiumService

open Outcome Gateway LiquidityPool RedisState JsString
open PayoutService (truthy)
open Payments (storeDown constraintFailed recordNotFound)

/-- A debit that the gateway executed. -/
structure Debit where
  invoiceId : String
  userId : String
  policyId : String
  mandateId : Option String
  provider : String
  providerMandateId : String
  amountRupees : ℚ
  amountPaise : ℤ
  attemptNumber : ℕ
  correlationId : String
  deriving DecidableEq, Repr

/-- The store with its billing tables, Redis, and the debits executed so far. -/
structure Books extends System where
  billingMandates : Table BillingMandate.keys := .empty
  premiumInvoices : Table PremiumInvoice.keys := .empty
  premiumChargeAttempts : Table PremiumChargeAttempt.keys := .empty
  premiumLedgerEntries : List PremiumLedgerEntry := []
  debits : List Debit := []

def Books.withSettings (b : Books) (systemSettings : Settings) : Books :=
  { b with db := { b.db with systemSettings } }

/-- `RECURRING_BILLING_DEBIT_WEBHOOK_URL` and `ELITE_RECURRING_BILLING_ALLOW_STAGED`. -/
structure BillingConfig where
  debitWebhookUrl : Option String := none
  allowStaged : Option String := none
  deriving DecidableEq, Repr

def BillingConfig.allowStagedProvisioning (cfg : BillingConfig) : Bool :=
  toLowerCase (cfg.allowStaged.getD "true") = "true"

/-! ## The charge of an invoice -/

/-- `settleTx` is the statements of the settlement but the injection, `commit` its commit,
`failTx` the transaction of the catch block. -/
structure ChargeIo where
  now : ℤ
  readInvoice : Bool
  countAttempts : Bool
  attemptId : String
  createAttempt : Bool
  markProcessing : Bool
  replies : List (Reply (Option String))
  settleTx : Bool
  pool : Access
  commit : Bool
  failTx : Bool

section Charge

variable (cfg : BillingConfig) (io : ChargeIo) (correlationId : String)

/-- An invoice with the mandate it refers to. -/
structure Chargeable where
  invoice : PremiumInvoice
  mandate : Option BillingMandate
  deriving DecidableEq, Repr

def findChargeable (invoiceId : String) (b : Books) : Option Chargeable :=
  (b.premiumInvoices.findUnique (.id invoiceId)).map fun invoice =>
    ⟨invoice, invoice.mandateId.bind b.billingMandates.findUnique⟩

def attemptCount (invoiceId : String) (b : Books) : ℕ :=
  (b.premiumChargeAttempts.rows.filter fun a => a.invoiceId = invoiceId).length

def startedAttempt (invoiceId : String) (attemptNumber : ℕ) : PremiumChargeAttempt where
  id := io.attemptId
  invoiceId := invoiceId
  attemptNumber := attemptNumber
  status := .STARTED
  gatewayReference := none
  errorCode := none
  errorMessage := none
  correlationId := some correlationId

def createAttempt (invoiceId : String) (attemptNumber : ℕ) (b : Books) : Except Exn Books := do
  require (io.createAttempt = true) storeDown
  let premiumChargeAttempts ← orThrow
    (b.premiumChargeAttempts.create (startedAttempt io correlationId invoiceId attemptNumber))
    constraintFailed
  pure { b with premiumChargeAttempts }

def processing : RowUpdate PremiumInvoice.keys where
  apply i := { i with status := .PROCESSING, correlationId := some correlationId }
  keys_apply _ := rfl

def markProcessing (invoiceId : String) (b : Books) : Except Exn Books := do
  require (io.markProcessing = true) storeDown
  pure { b with
    premiumInvoices :=
      b.premiumInvoices.update (.id invoiceId) (processing correlationId) }

/-! ### The debit -/

def debitOf (c : Chargeable) (providerMandateId : String) (attemptNumber : ℕ) : Debit where
  invoiceId := c.invoice.id
  userId := c.invoice.userId
  policyId := c.invoice.policyId
  mandateId := c.invoice.mandateId
  provider := (c.mandate.map BillingMandate.provider).getD "RAZORPAY"
  providerMandateId := providerMandateId
  amountRupees := c.invoice.amountDue
  amountPaise := Number.mathRound (c.invoice.amountDue * 100)
  attemptNumber := attemptNumber
  correlationId := correlationId

/-- The reference in the answer; an answer without one, or without JSON, gets one made up. -/
def readReference (now : ℤ) : Response (Option String) → Except Exn String
  | .notOk status text =>
      .error (.error ("Recurring billing gateway failed (" ++ toString status ++ "): " ++ text))
  | .notJson _ => .ok ("rec_live_" ++ toString now)
  | .json gatewayReference => .ok (gatewayReference.getD ("rec_live_" ++ toString now))

/-- The webhook to which a live debit is posted, or the reference of a staged one. -/
inductive DebitRoute where
  | live (providerMandateId : String)
  | staged (gatewayReference : String)
  deriving DecidableEq, Repr

def debitRoute (c : Chargeable) (attemptNumber : ℕ) : Except Exn DebitRoute :=
  if isSet cfg.debitWebhookUrl then
    match truthy (c.mandate.bind BillingMandate.providerMandateId) with
    | some providerMandateId => .ok (.live providerMandateId)
    | none => .error (.error "Recurring billing mandate provider id is missing for live debit")
  else if cfg.allowStagedProvisioning then
    .ok (.staged ("rec_bill_" ++ toString io.now ++ "_" ++ toString attemptNumber))
  else .error (.error "Recurring billing mandate debit integration is not configured")

/-- The reference of the debit, and every execution of the POST. -/
def executeRecurringDebit (c : Chargeable) (attemptNumber : ℕ) :
    Except Exn String × List Debit :=
  match debitRoute cfg io c attemptNumber with
  | .error e => (.error e, [])
  | .ok (.staged gatewayReference) => (.ok gatewayReference, [])
  | .ok (.live providerMandateId) =>
      let (response, wire) := withRetry fetchPost 2 ⟨io.replies, []⟩
      (response >>= readReference io.now,
        wire.executed.map fun _ => debitOf correlationId c providerMandateId attemptNumber)

/-! ### The settlement and the failure branch -/

def succeeded (gatewayReference : String) : RowUpdate PremiumChargeAttempt.keys where
  apply a := { a with status := .SUCCESS, gatewayReference := some gatewayReference }
  keys_apply _ := rfl

def paid (amountDue : ℚ) : RowUpdate PremiumInvoice.keys where
  apply i := { i with
    status := .PAID
    amountPaid := some amountDue
    paidAt := some io.now
    failureReason := none }
  keys_apply _ := rfl

def creditOf (invoice : PremiumInvoice) : PremiumLedgerEntry where
  userId := invoice.userId
  policyId := invoice.policyId
  invoiceId := invoice.id
  direction := "CREDIT"
  amount := invoice.amountDue
  correlationId := some correlationId

def MS_PER_HOUR : ℤ := 60 * 60 * 1000

def charged : RowUpdate BillingMandate.keys where
  apply m := { m with
    status := .ACTIVE
    lastChargedAt := some io.now
    nextChargeAt := io.now + 7 * 24 * MS_PER_HOUR
    failureCount := 0 }
  keys_apply _ := rfl

def chargeFailed : RowUpdate BillingMandate.keys where
  apply m := { m with
    status := .FAILED
    failureCount := m.failureCount + 1
    nextChargeAt := io.now + 24 * MS_PER_HOUR }
  keys_apply _ := rfl

/-- The update of the mandate that an invoice refers to, if any. -/
def updateMandate (mandateId : Option String) (f : RowUpdate BillingMandate.keys) (b : Books) :
    Except Exn Books :=
  match mandateId with
  | none => .ok b
  | some mandateId => do
      require ((b.billingMandates.findUnique mandateId).isSome) recordNotFound
      pure { b with billingMandates := b.billingMandates.update mandateId f }

/-- What the settlement transaction writes before the pool is credited. -/
def settleTx (invoice : PremiumInvoice) (gatewayReference : String) (b : Books) :
    Except Exn Books := do
  require (io.settleTx = true) storeDown
  updateMandate invoice.mandateId (charged io) { b with
    premiumChargeAttempts :=
      b.premiumChargeAttempts.update io.attemptId (succeeded gatewayReference)
    premiumInvoices :=
      b.premiumInvoices.update (.id invoice.id) (paid io invoice.amountDue)
    premiumLedgerEntries := b.premiumLedgerEntries ++ [creditOf correlationId invoice] }

/-- The injection inside has a connection of its own and outlives a failed commit. -/
def settleInvoice (invoice : PremiumInvoice) (gatewayReference : String) (b : Books) :
    Except Exn Unit × Books :=
  match settleTx io correlationId invoice gatewayReference b with
  | .error e => (.error e, b)
  | .ok settled =>
      match injectPremium io.pool b.db.systemSettings invoice.amountDue with
      | .error e => (.error e, b)
      | .ok (_, systemSettings) =>
          if io.commit then (.ok (), settled.withSettings systemSettings)
          else (.error storeDown, b.withSettings systemSettings)

def attemptFailed (e : Exn) : RowUpdate PremiumChargeAttempt.keys where
  apply a := { a with
    status := .FAILED
    errorCode := some "RECURRING_CHARGE_FAILED"
    errorMessage := some e.message }
  keys_apply _ := rfl

def unpaid (e : Exn) : RowUpdate PremiumInvoice.keys where
  apply i := { i with
    status := .FAILED
    failureReason := some e.message
    correlationId := some correlationId }
  keys_apply _ := rfl

/-- The transaction of the catch block. -/
def failInvoice (invoice : PremiumInvoice) (e : Exn) (b : Books) : Except Exn Books := do
  require (io.failTx = true) storeDown
  updateMandate invoice.mandateId (chargeFailed io) { b with
    premiumChargeAttempts := b.premiumChargeAttempts.update io.attemptId (attemptFailed e)
    premiumInvoices :=
      b.premiumInvoices.update (.id invoice.id) (unpaid correlationId e) }

/-- The debit and what is booked for it. -/
def collectInvoice (c : Chargeable) (attemptNumber : ℕ) (b : Books) : Except Exn Unit × Books :=
  let (debit, executed) := executeRecurringDebit cfg io correlationId c attemptNumber
  let b := { b with debits := b.debits ++ executed }
  match debit with
  | .error e => (.error e, b)
  | .ok gatewayReference => settleInvoice io correlationId c.invoice gatewayReference b

/-- The catch block: an error of the debit or of the settlement is booked and swallowed. -/
def chargeInvoice (c : Chargeable) (attemptNumber : ℕ) (b : Books) : Except Exn Unit × Books :=
  match collectInvoice cfg io correlationId c attemptNumber b with
  | (.ok _, b) => (.ok (), b)
  | (.error e, b) =>
      match failInvoice io correlationId c.invoice e b with
      | .error e => (.error e, b)
      | .ok b => (.ok (), b)

/-- An attempt is numbered, recorded as started, and its invoice marked. -/
def startAttempt (invoiceId : String) (b : Books) : Except Exn ℕ × Books :=
  if io.countAttempts then
    let attemptNumber := attemptCount invoiceId b + 1
    match createAttempt io correlationId invoiceId attemptNumber b with
    | .error e => (.error e, b)
    | .ok b =>
        match markProcessing io correlationId invoiceId b with
        | .error e => (.error e, b)
        | .ok b => (.ok attemptNumber, b)
  else (.error storeDown, b)

/-- Nothing is left to charge. -/
def PremiumInvoiceStatus.isSettled (status : PremiumInvoiceStatus) : Bool :=
  status = .PAID || status = .WAIVED

def processInvoiceCharge (invoiceId : String) (b : Books) : Except Exn Unit × Books :=
  if io.readInvoice then
    match findChargeable invoiceId b with
    | none => (.ok (), b)
    | some c =>
        if PremiumInvoiceStatus.isSettled c.invoice.status then (.ok (), b)
        else
          match startAttempt io correlationId invoiceId b with
          | (.error e, b) => (.error e, b)
          | (.ok attemptNumber, b) => chargeInvoice cfg io correlationId c attemptNumber b
  else (.error storeDown, b)

end Charge

/-! ## The mandate and the invoice of the cycle -/

/-- One policy's share of a run. -/
structure PolicyIo where
  readMandate : Bool
  mandateId : String
  createMandate : Bool
  readInvoice : Bool
  premium : PremiumIo
  invoiceId : String
  createInvoice : Bool
  charge : ChargeIo

section Policy

variable (cfg : BillingConfig) (io : PolicyIo) (now : ℤ) (correlationId : String)
  (policy : Policy)

structure CycleWindow where
  billingCycleStart : ℤ
  billingCycleEnd : ℤ
  deriving DecidableEq, Repr

def MS_PER_WEEK : ℤ := 7 * 24 * 60 * 60 * 1000

def resolveCycleWindow (policyStartDate now : ℤ) : CycleWindow :=
  let elapsedMs := max 0 (now - policyStartDate)
  let cycleIndex := elapsedMs / MS_PER_WEEK
  let billingCycleStart := policyStartDate + cycleIndex * MS_PER_WEEK
  ⟨billingCycleStart, billingCycleStart + MS_PER_WEEK⟩

/-- The newest mandate of the policy that is not revoked. -/
def existingMandate (policyId : String) (b : Books) : Option BillingMandate :=
  b.billingMandates.findFirstDesc
    (fun m => m.policyId = policyId &&
      (m.status = .ACTIVE || m.status = .PAUSED || m.status = .FAILED)) BillingMandate.createdAt

def newMandate : BillingMandate where
  id := io.mandateId
  userId := policy.userId
  policyId := policy.id
  provider := "RAZORPAY"
  providerMandateId := none
  status := .ACTIVE
  nextChargeAt := now
  lastChargedAt := none
  failureCount := 0
  createdAt := now

def createMandate (b : Books) : Except Exn (BillingMandate × Books) := do
  require (io.createMandate = true) storeDown
  let billingMandates ← orThrow (b.billingMandates.create (newMandate io now policy))
    constraintFailed
  pure (newMandate io now policy, { b with billingMandates })

def ensureBillingMandate (b : Books) : Except Exn (BillingMandate × Books) := do
  require (io.readMandate = true) storeDown
  match existingMandate policy.id b with
  | some mandate => pure (mandate, b)
  | none => createMandate io now policy b

def cycleInvoice (b : Books) : Option PremiumInvoice :=
  b.premiumInvoices.findUnique (.policyId_billingCycleStart policy.id
    (resolveCycleWindow policy.startDate now).billingCycleStart)

def newInvoice (mandateId : String) (premium : ℚ) : PremiumInvoice where
  id := io.invoiceId
  userId := policy.userId
  policyId := policy.id
  mandateId := some mandateId
  billingCycleStart := (resolveCycleWindow policy.startDate now).billingCycleStart
  billingCycleEnd := (resolveCycleWindow policy.startDate now).billingCycleEnd
  amountDue := premium
  amountPaid := some 0
  status := .PENDING
  dueAt := now
  paidAt := none
  failureReason := none
  correlationId := some correlationId

def createInvoice (mandateId : String) (premium : ℚ) (b : Books) :
    Except Exn (PremiumInvoice × Books) := do
  require (io.createInvoice = true) storeDown
  let premiumInvoices ← orThrow
    (b.premiumInvoices.create (newInvoice io now correlationId policy mandateId premium))
    constraintFailed
  pure (newInvoice io now correlationId policy mandateId premium, { b with premiumInvoices })

/-- The premium of the week as it is priced now, and the zone cache the pricing leaves. -/
def priceCycle (b : Books) : Except Exn (WeeklyPremium × Books) := do
  let (premium, redis) ← calculateWeeklyPremium io.premium b.toSystem policy.userId
    policy.weeklyPlanId
  pure (premium, { b with redis })

def ensureCycleInvoice (mandateId : String) (b : Books) : Except Exn PremiumInvoice × Books :=
  if io.readInvoice then
    match cycleInvoice now policy b with
    | some invoice => (.ok invoice, b)
    | none =>
        match priceCycle io policy b with
        | .error e => (.error e, b)
        | .ok (premium, b) =>
            match createInvoice io now correlationId policy mandateId premium.premium b with
            | .error e => (.error e, b)
            | .ok (invoice, b) => (.ok invoice, b)
  else (.error storeDown, b)

/-- What a run does about a policy. An attempt is a call of `processInvoiceCharge`. -/
inductive Billed where
  | inactive
  | notDue
  | paid
  | attempted (invoiceId : String) (result : Except Exn Unit)
  | failed (e : Exn)
  deriving DecidableEq

/-- The body of the loop of `runRecurringBilling`. -/
def billPolicy (b : Books) : Billed × Books :=
  match ensureBillingMandate io now policy b with
  | .error e => (.failed e, b)
  | .ok (mandate, b) =>
      if mandate.status ≠ .ACTIVE then (.inactive, b)
      else if now < mandate.nextChargeAt then (.notDue, b)
      else
        match ensureCycleInvoice io now correlationId policy mandate.id b with
        | (.error e, b) => (.failed e, b)
        | (.ok invoice, b) =>
            if PremiumInvoiceStatus.isSettled invoice.status then (.paid, b)
            else
              let (result, b) := processInvoiceCharge cfg io.charge correlationId invoice.id b
              (.attempted invoice.id result, b)

end Policy

/-! ## A run -/

/-- `policy` gives each policy's share by its id. -/
structure BillingIo where
  now : ℤ
  /-- `randomUUID()`. -/
  runId : String
  readPolicies : Bool
  policy : String → PolicyIo

section Run

variable (cfg : BillingConfig) (io : BillingIo)

def BillingIo.correlationId : String := "recurring_" ++ io.runId

/-- The policies in force. -/
def billablePolicies (now : ℤ) (db : Db) : List Policy :=
  db.policies.rows.filter fun p => p.status = .ACTIVE && p.startDate ≤ now && now < p.endDate

/-- One policy after the other, with what was done about each. -/
def billPolicies : List Policy → Books → List (String × Billed) × Books
  | [], b => ([], b)
  | policy :: policies, b =>
      let (billed, b) :=
        billPolicy cfg (io.policy policy.id) io.now io.correlationId policy b
      let (rest, b) := billPolicies policies b
      ((policy.id, billed) :: rest, b)

def runRecurringBilling (b : Books) : Except Exn (List (String × Billed)) × Books :=
  if io.readPolicies then
    let (billed, b) := billPolicies cfg io (billablePolicies io.now b.db) b
    (.ok billed, b)
  else (.error storeDown, b)

end Run

end PremiumService

end Aegis
