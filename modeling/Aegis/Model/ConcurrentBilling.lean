import Aegis.Model.Billing
import Mathlib.Logic.Function.Basic

/-! # Overlapping billing runs

Every call of `runRecurringBilling` is a thread. What it does between two awaits is a step; a
transaction is one as well, since its writes are seen by others at its commit, and so is the
pricing of a week, which neither reads nor writes the billing tables. -/

namespace Aegis.PremiumService

open Outcome Gateway

/-- Where the billing of a policy stands; an invoice is carried as it was read. -/
inductive PolicyPc where
  | start
  | newMandate
  | invoicing (mandateId : String)
  | pricing (mandateId : String)
  | newInvoice (mandateId : String) (premium : ℚ)
  | charging (invoiceId : String)
  | counting (c : Chargeable)
  | attempting (c : Chargeable) (attemptNumber : ℕ)
  | marking (c : Chargeable) (attemptNumber : ℕ)
  | debiting (c : Chargeable) (attemptNumber : ℕ) (providerMandateId : String) (retries : ℕ)
      (replies : List (Reply (Option String)))
  | settling (c : Chargeable) (isProvisioned : Bool) (gatewayReference : String)
  | failing (c : Chargeable) (e : Exn)
  | finished
  deriving DecidableEq

/-! ## The billing of a policy -/

section Policy

variable (cfg : BillingConfig) (io : PolicyIo) (now : ℤ) (correlationId : String)
  (policy : Policy)

def afterMandate (mandate : BillingMandate) : PolicyPc :=
  if mandate.status ≠ .ACTIVE then .finished
  else if now < mandate.nextChargeAt then .finished
  else .invoicing mandate.id

def afterInvoice (invoice : PremiumInvoice) : PolicyPc :=
  if PremiumInvoiceStatus.isSettled invoice.status then .finished else .charging invoice.id

/-- `executeRecurringDebit` as far as its first await. -/
def afterMarking (c : Chargeable) (attemptNumber : ℕ) : PolicyPc :=
  match debitRoute cfg io.charge c attemptNumber with
  | .error e => .failing c e
  | .ok (.staged gatewayReference) => .settling c true gatewayReference
  | .ok (.live providerMandateId) =>
      .debiting c attemptNumber providerMandateId 2 io.charge.replies

/-- `withRetry` once a POST is settled, with `replies` still to come. -/
def afterPost (c : Chargeable) (attemptNumber : ℕ) (providerMandateId : String)
    (replies : List (Reply (Option String))) :
    Except Exn (Response (Option String)) → ℕ → PolicyPc
  | .ok response, _ =>
      match readReference io.charge.now response with
      | .ok gatewayReference => .settling c false gatewayReference
      | .error e => .failing c e
  | .error e, 0 => .failing c e
  | .error _, retries + 1 => .debiting c attemptNumber providerMandateId retries replies

/-- One step of the billing of a policy. -/
def policyStep (pc : PolicyPc) (b : Books) : PolicyPc × Books :=
  match pc with
  | .start =>
      if io.readMandate then
        match existingMandate policy.id b with
        | some mandate => (afterMandate now mandate, b)
        | none => (.newMandate, b)
      else (.finished, b)
  | .newMandate =>
      match createMandate io now policy b with
      | .ok (mandate, b) => (afterMandate now mandate, b)
      | .error _ => (.finished, b)
  | .invoicing mandateId =>
      if io.readInvoice then
        match cycleInvoice now policy b with
        | some invoice => (afterInvoice invoice, b)
        | none => (.pricing mandateId, b)
      else (.finished, b)
  | .pricing mandateId =>
      match priceCycle io policy b with
      | .ok (premium, b) => (.newInvoice mandateId premium.premium, b)
      | .error _ => (.finished, b)
  | .newInvoice mandateId premium =>
      match createInvoice io now correlationId policy mandateId premium b with
      | .ok (invoice, b) => (afterInvoice invoice, b)
      | .error _ => (.finished, b)
  | .charging invoiceId =>
      if io.charge.readInvoice then
        match findChargeable invoiceId b with
        | some c =>
            if PremiumInvoiceStatus.isSettled c.invoice.status then (.finished, b)
            else (.counting c, b)
        | none => (.finished, b)
      else (.finished, b)
  | .counting c =>
      if io.charge.countAttempts then (.attempting c (attemptCount c.invoice.id b + 1), b)
      else (.finished, b)
  | .attempting c attemptNumber =>
      match createAttempt io.charge correlationId c.invoice.id attemptNumber b with
      | .ok b => (.marking c attemptNumber, b)
      | .error _ => (.finished, b)
  | .marking c attemptNumber =>
      match markProcessing io.charge correlationId c.invoice.id b with
      | .ok b => (afterMarking cfg io c attemptNumber, b)
      | .error _ => (.finished, b)
  | .debiting c attemptNumber providerMandateId retries replies =>
      let (response, wire) := fetchPost ⟨replies, []⟩
      let executed :=
        wire.executed.map fun _ => debitOf correlationId c providerMandateId attemptNumber
      (afterPost io c attemptNumber providerMandateId wire.replies response retries,
        { b with debits := b.debits ++ executed })
  | .settling c _ gatewayReference =>
      match settleInvoice io.charge correlationId c.invoice gatewayReference b with
      | (.ok _, b) => (.finished, b)
      | (.error e, b) => (.failing c e, b)
  | .failing c e =>
      match failInvoice io.charge correlationId c.invoice e b with
      | .ok b => (.finished, b)
      | .error _ => (.finished, b)
  | .finished => (.finished, b)

@[simp]
theorem policyStep_finished (b : Books) :
    policyStep cfg io now correlationId policy .finished b = (.finished, b) := by
  simp only [policyStep]

end Policy

/-! ## The runs -/

/-- Where a run stands: the policy it bills and those still to come. -/
inductive BillingPc where
  | start
  | billing (policy : Policy) (policies : List Policy) (pc : PolicyPc)
  | done
  deriving DecidableEq

/-- The books and every run. -/
structure Cron (τ : Type) where
  books : Books
  pc : τ → BillingPc := fun _ => .start

/-- A run takes its next step, or its process crashes. -/
inductive CronEvent (τ : Type) where
  | run (t : τ)
  | crash (t : τ)
  deriving DecidableEq

namespace Cron

variable {τ : Type} [DecidableEq τ]

def goTo (s : Cron τ) (t : τ) (pc : BillingPc) : Cron τ :=
  { s with pc := Function.update s.pc t pc }

/-- The head of the loop over the policies. -/
def nextPolicy : List Policy → BillingPc
  | [] => .done
  | policy :: policies => .billing policy policies .start

/-- The loop goes on with the next policy once one is finished. -/
def inPolicy (policy : Policy) (policies : List Policy) : PolicyPc → BillingPc
  | .finished => nextPolicy policies
  | pc => .billing policy policies pc

/-- One step of the run `t`. -/
def runStep (cfg : BillingConfig) (io : BillingIo) (s : Cron τ) (t : τ) : Cron τ :=
  match s.pc t with
  | .start =>
      if io.readPolicies then s.goTo t (nextPolicy (billablePolicies io.now s.books.db))
      else s.goTo t .done
  | .billing policy policies pc =>
      let (pc, books) :=
        policyStep cfg (io.policy policy.id) io.now io.correlationId policy pc s.books
      { s with books }.goTo t (inPolicy policy policies pc)
  | .done => s

def step (cfg : BillingConfig) (runs : τ → BillingIo) (s : Cron τ) : CronEvent τ → Cron τ
  | .run t => runStep cfg (runs t) s t
  | .crash t => s.goTo t .done

end Cron

end Aegis.PremiumService
