import Aegis.Model.Billing

/-! # What a charge does

Every case of `processInvoiceCharge`, with what it leaves in the books. -/

namespace Aegis.PremiumService

open Outcome Gateway LiquidityPool
open Payments (storeDown)

/-! ## The statements -/

/-- The mandate that an invoice refers to is updated, if there is one. -/
def mandatesAfter (mandateId : Option String) (f : RowUpdate BillingMandate.keys)
    (mandates : Table BillingMandate.keys) : Table BillingMandate.keys :=
  match mandateId with
  | none => mandates
  | some mandateId => mandates.update mandateId f

section Statements

variable {io : ChargeIo} {correlationId invoiceId : String} {b b' : Books}

theorem updateMandate_eq_ok {mandateId : Option String} {f : RowUpdate BillingMandate.keys}
    (h : updateMandate mandateId f b = .ok b') :
    b' = { b with billingMandates := mandatesAfter mandateId f b.billingMandates } := by
  cases mandateId with
  | none =>
      cases h
      rfl
  | some mandateId =>
      obtain ⟨_, -, h⟩ := bind_eq_ok.mp h
      cases h
      rfl

/-- The books once the attempt is recorded and its invoice marked. -/
def started (correlationId invoiceId : String)
    (premiumChargeAttempts : Table PremiumChargeAttempt.keys) (b : Books) : Books :=
  { b with
    premiumChargeAttempts
    premiumInvoices := b.premiumInvoices.update (.id invoiceId) (processing correlationId) }

theorem startAttempt_ok {n : ℕ} (h : startAttempt io correlationId invoiceId b = (.ok n, b')) :
    ∃ premiumChargeAttempts, b' = started correlationId invoiceId premiumChargeAttempts b := by
  unfold startAttempt at h
  split at h
  · simp only at h
    split at h
    · cases h
    · rename_i created hcreate
      obtain ⟨_, -, hcreate⟩ := bind_eq_ok.mp hcreate
      obtain ⟨attempts, -, hcreate⟩ := bind_eq_ok.mp hcreate
      cases hcreate
      split at h
      · cases h
      · rename_i marked hmark
        obtain ⟨_, -, hmark⟩ := bind_eq_ok.mp hmark
        cases hmark
        cases h
        exact ⟨attempts, rfl⟩
  · cases h

theorem startAttempt_error {e : Exn}
    (h : startAttempt io correlationId invoiceId b = (.error e, b')) :
    ∃ premiumChargeAttempts, b' = { b with premiumChargeAttempts } := by
  unfold startAttempt at h
  split at h
  · simp only at h
    split at h
    · cases h
      exact ⟨b.premiumChargeAttempts, rfl⟩
    · rename_i created hcreate
      obtain ⟨_, -, hcreate⟩ := bind_eq_ok.mp hcreate
      obtain ⟨attempts, -, hcreate⟩ := bind_eq_ok.mp hcreate
      cases hcreate
      split at h
      · cases h
        exact ⟨attempts, rfl⟩
      · cases h
  · cases h
    exact ⟨b.premiumChargeAttempts, rfl⟩

/-- What the settlement writes but for the pool. -/
def settledBooks (io : ChargeIo) (correlationId : String) (invoice : PremiumInvoice)
    (gatewayReference : String) (b : Books) : Books :=
  { b with
    premiumChargeAttempts :=
      b.premiumChargeAttempts.update io.attemptId (succeeded gatewayReference)
    premiumInvoices := b.premiumInvoices.update (.id invoice.id) (paid io invoice.amountDue)
    premiumLedgerEntries := b.premiumLedgerEntries ++ [creditOf correlationId invoice]
    billingMandates := mandatesAfter invoice.mandateId (charged io) b.billingMandates }

theorem settleTx_eq_ok {invoice : PremiumInvoice} {gatewayReference : String}
    (h : settleTx io correlationId invoice gatewayReference b = .ok b') :
    b' = settledBooks io correlationId invoice gatewayReference b := by
  obtain ⟨_, -, h⟩ := bind_eq_ok.mp h
  exact updateMandate_eq_ok h

/-- What the catch block writes. -/
def failedBooks (io : ChargeIo) (correlationId : String) (invoice : PremiumInvoice) (e : Exn)
    (b : Books) : Books :=
  { b with
    premiumChargeAttempts := b.premiumChargeAttempts.update io.attemptId (attemptFailed e)
    premiumInvoices := b.premiumInvoices.update (.id invoice.id) (unpaid correlationId e)
    billingMandates := mandatesAfter invoice.mandateId (chargeFailed io) b.billingMandates }

theorem failInvoice_eq_ok {invoice : PremiumInvoice} {e : Exn}
    (h : failInvoice io correlationId invoice e b = .ok b') :
    b' = failedBooks io correlationId invoice e b := by
  obtain ⟨_, -, h⟩ := bind_eq_ok.mp h
  exact updateMandate_eq_ok h

theorem findUnique_id_update (t : Table PremiumInvoice.keys) (i id : String)
    (f : RowUpdate PremiumInvoice.keys) : (t.update (.id i) f).findUnique (.id id) =
      if id = i then (t.findUnique (.id id)).map f.apply else t.findUnique (.id id) := by
  by_cases hid : id = i
  · rw [if_pos hid, hid, Table.findUnique_update_self]
  · rw [if_neg hid]
    refine Table.findUnique_update_of_notMem fun r hr hkey => hid ?_
    have hown := Table.key_of_findUnique hr
    rw [PremiumInvoice.id_mem_keys_iff.mp hown, PremiumInvoice.id_mem_keys_iff.mp hkey]

end Statements

/-! ## The cases -/

section Cases

variable (cfg : BillingConfig) (io : ChargeIo) (correlationId invoiceId : String) (b : Books)

/-- An invoice that is there and neither paid nor waived. -/
structure Due (c : Chargeable) : Prop where
  found : findChargeable invoiceId b = some c
  unsettled : PremiumInvoiceStatus.isSettled c.invoice.status = false

/-- The invoice whose settlement comes as far as the injection. -/
def settling : Option PremiumInvoice :=
  if io.readInvoice then
    match findChargeable invoiceId b with
    | none => none
    | some c =>
        if PremiumInvoiceStatus.isSettled c.invoice.status then none
        else
          match startAttempt io correlationId invoiceId b with
          | (.error _, _) => none
          | (.ok attemptNumber, b) =>
              let (debit, executed) := executeRecurringDebit cfg io correlationId c attemptNumber
              match debit with
              | .error _ => none
              | .ok gatewayReference =>
                  match settleTx io correlationId c.invoice gatewayReference
                      { b with debits := b.debits ++ executed } with
                  | .error _ => none
                  | .ok _ => some c.invoice
  else none

/-- The pool after a charge that fails: as before, or with the premium of a settlement that
was not committed. -/
inductive PoolLeft (invoice : PremiumInvoice) : Settings → Prop
  | kept (unpaid : settling cfg io correlationId invoiceId b = some invoice →
      ∃ e, injectPremium io.pool b.db.systemSettings invoice.amountDue = .error e) :
      PoolLeft invoice b.db.systemSettings
  | credited (injection : Injection) (systemSettings : Settings)
      (reached : settling cfg io correlationId invoiceId b = some invoice)
      (lost : io.commit = false)
      (injected : injectPremium io.pool b.db.systemSettings invoice.amountDue =
        .ok (injection, systemSettings)) : PoolLeft invoice systemSettings

/-- The books when the debit is over. -/
def debited (invoice : PremiumInvoice) (attempts : Table PremiumChargeAttempt.keys)
    (executed : List Debit) : Books :=
  { started correlationId invoice.id attempts b with debits := b.debits ++ executed }

/-- What becomes of a call of `processInvoiceCharge`. -/
inductive ChargeCases : Except Exn Unit → Books → Prop
  | skipped (result : Except Exn Unit)
      (quiet : settling cfg io correlationId invoiceId b = none) : ChargeCases result b
  | halted (e : Exn) (premiumChargeAttempts : Table PremiumChargeAttempt.keys)
      (quiet : settling cfg io correlationId invoiceId b = none) :
      ChargeCases (.error e) { b with premiumChargeAttempts }
  | settled (c : Chargeable) (attempts : Table PremiumChargeAttempt.keys) (executed : List Debit)
      (gatewayReference : String) (injection : Injection) (systemSettings : Settings)
      (due : Due invoiceId b c)
      (reached : settling cfg io correlationId invoiceId b = some c.invoice)
      (committed : io.commit = true)
      (injected : injectPremium io.pool b.db.systemSettings c.invoice.amountDue =
        .ok (injection, systemSettings)) :
      ChargeCases (.ok ())
        ((settledBooks io correlationId c.invoice gatewayReference
          (debited correlationId b c.invoice attempts executed)).withSettings systemSettings)
  | failed (c : Chargeable) (attempts : Table PremiumChargeAttempt.keys) (executed : List Debit)
      (e : Exn) (systemSettings : Settings) (due : Due invoiceId b c)
      (pool : PoolLeft cfg io correlationId invoiceId b c.invoice systemSettings) :
      ChargeCases (.ok ())
        ((failedBooks io correlationId c.invoice e
          (debited correlationId b c.invoice attempts executed)).withSettings systemSettings)
  | stuck (c : Chargeable) (attempts : Table PremiumChargeAttempt.keys) (executed : List Debit)
      (e : Exn) (systemSettings : Settings) (due : Due invoiceId b c)
      (pool : PoolLeft cfg io correlationId invoiceId b c.invoice systemSettings) :
      ChargeCases (.error e)
        ((debited correlationId b c.invoice attempts executed).withSettings systemSettings)

variable {cfg io correlationId invoiceId b}

theorem Due.id_eq {c : Chargeable} (h : Due invoiceId b c) : c.invoice.id = invoiceId := by
  obtain ⟨invoice, hinvoice, rfl⟩ := Option.map_eq_some_iff.mp h.found
  have hkey := Table.key_of_findUnique hinvoice
  exact (PremiumInvoice.id_mem_keys_iff.mp hkey).symm

/-- A failed attempt ends in the catch block or in its failure. -/
theorem chargeInvoice_failed {c : Chargeable} {n : ℕ} {started b' : Books}
    {attempts : Table PremiumChargeAttempt.keys} {executed : List Debit} {e : Exn}
    {systemSettings : Settings} (hdue : Due invoiceId b c)
    (hpool : PoolLeft cfg io correlationId invoiceId b c.invoice systemSettings)
    (hcollect : collectInvoice cfg io correlationId c n started = (.error e, b'))
    (hbooks : b' = (debited correlationId b c.invoice attempts executed).withSettings
      systemSettings) :
    ChargeCases cfg io correlationId invoiceId b (chargeInvoice cfg io correlationId c n started).1
      (chargeInvoice cfg io correlationId c n started).2 := by
  rw [chargeInvoice, hcollect]
  subst hbooks
  cases hfail : failInvoice io correlationId c.invoice e
      ((debited correlationId b c.invoice attempts executed).withSettings systemSettings) with
  | error e' =>
      simp only [hfail]
      exact .stuck c attempts executed e' systemSettings hdue hpool
  | ok failed =>
      simp only [hfail]
      rw [failInvoice_eq_ok hfail]
      exact .failed c attempts executed e systemSettings hdue hpool

/-- After the debit only the statements of the settlement stand before the injection. -/
theorem settling_eq {c : Chargeable} {n : ℕ} {attempts : Table PremiumChargeAttempt.keys}
    {gatewayReference : String} {executed : List Debit} (hread : io.readInvoice = true)
    (hdue : Due invoiceId b c)
    (hstart : startAttempt io correlationId invoiceId b =
      (.ok n, started correlationId c.invoice.id attempts b))
    (hdebit : executeRecurringDebit cfg io correlationId c n = (.ok gatewayReference, executed)) :
    settling cfg io correlationId invoiceId b =
      ((settleTx io correlationId c.invoice gatewayReference
        (debited correlationId b c.invoice attempts executed)).toOption.map fun _ =>
          c.invoice) := by
  have hbooks : settling cfg io correlationId invoiceId b =
      match settleTx io correlationId c.invoice gatewayReference
        (debited correlationId b c.invoice attempts executed) with
      | .error _ => none
      | .ok _ => some c.invoice := by
    simp only [settling, hread, hdue.found, hdue.unsettled, hstart, hdebit, if_true]
    rfl
  rw [hbooks]
  cases settleTx io correlationId c.invoice gatewayReference
      (debited correlationId b c.invoice attempts executed) with
  | error e => rfl
  | ok settled => rfl

/-- The charge of a due invoice whose attempt was recorded. -/
theorem chargeInvoice_cases {c : Chargeable} {n : ℕ} {attempts : Table PremiumChargeAttempt.keys}
    (hread : io.readInvoice = true) (hdue : Due invoiceId b c)
    (hstart : startAttempt io correlationId invoiceId b =
      (.ok n, started correlationId c.invoice.id attempts b)) :
    ChargeCases cfg io correlationId invoiceId b
      (chargeInvoice cfg io correlationId c n (started correlationId c.invoice.id attempts b)).1
      (chargeInvoice cfg io correlationId c n
        (started correlationId c.invoice.id attempts b)).2 := by
  have hkept : ∀ executed, debited correlationId b c.invoice attempts executed =
      (debited correlationId b c.invoice attempts executed).withSettings b.db.systemSettings :=
    fun _ => rfl
  rcases hdebit :
    executeRecurringDebit cfg io correlationId c n with ⟨e | gatewayReference, executed⟩
  · have hcollect : collectInvoice cfg io correlationId c n
        (started correlationId c.invoice.id attempts b) =
          (.error e, debited correlationId b c.invoice attempts executed) := by
      simp only [collectInvoice, hdebit]
      rfl
    refine chargeInvoice_failed hdue (.kept fun hreached => ?_) hcollect (hkept executed)
    simp [settling, hread, hdue.found, hdue.unsettled, hstart, hdebit] at hreached
  · have hcollect : collectInvoice cfg io correlationId c n
        (started correlationId c.invoice.id attempts b) =
          settleInvoice io correlationId c.invoice gatewayReference
            (debited correlationId b c.invoice attempts executed) := by
      simp only [collectInvoice, hdebit]
      rfl
    have hsettling := settling_eq hread hdue hstart hdebit
    cases htx : settleTx io correlationId c.invoice gatewayReference
        (debited correlationId b c.invoice attempts executed) with
    | error e =>
        rw [htx] at hsettling
        rw [settleInvoice, htx] at hcollect
        refine chargeInvoice_failed hdue (.kept fun hreached => ?_) hcollect (hkept executed)
        rw [hsettling] at hreached
        cases hreached
    | ok settled =>
        rw [htx] at hsettling
        have hpool : injectPremium io.pool
            (debited correlationId b c.invoice attempts executed).db.systemSettings
              c.invoice.amountDue =
            injectPremium io.pool b.db.systemSettings c.invoice.amountDue := rfl
        simp only [settleInvoice, htx, hpool] at hcollect
        cases hinject : injectPremium io.pool b.db.systemSettings c.invoice.amountDue with
        | error e =>
            simp only [hinject] at hcollect
            exact chargeInvoice_failed hdue (.kept fun _ => ⟨e, hinject⟩) hcollect (hkept executed)
        | ok injected =>
            obtain ⟨injection, systemSettings⟩ := injected
            simp only [hinject] at hcollect
            by_cases hcommit : io.commit = true
            · rw [if_pos hcommit] at hcollect
              rw [chargeInvoice, hcollect, settleTx_eq_ok htx]
              exact .settled c attempts executed gatewayReference injection systemSettings hdue
                hsettling hcommit hinject
            · rw [if_neg hcommit] at hcollect
              exact chargeInvoice_failed hdue
                (.credited injection systemSettings hsettling (by simpa using hcommit) hinject)
                hcollect rfl

theorem processInvoiceCharge_cases (cfg : BillingConfig) (io : ChargeIo)
    (correlationId invoiceId : String) (b : Books) :
    ChargeCases cfg io correlationId invoiceId b
      (processInvoiceCharge cfg io correlationId invoiceId b).1
      (processInvoiceCharge cfg io correlationId invoiceId b).2 := by
  cases hread : io.readInvoice with
  | false =>
      simp only [processInvoiceCharge, hread]
      exact .skipped _ (by simp [settling, hread])
  | true =>
      cases hfound : findChargeable invoiceId b with
      | none =>
          simp only [processInvoiceCharge, hread, hfound, if_true]
          exact .skipped _ (by simp [settling, hread, hfound])
      | some c =>
          simp only [processInvoiceCharge, hread, hfound, if_true]
          cases hsettled : PremiumInvoiceStatus.isSettled c.invoice.status with
          | true => exact .skipped _ (by simp [settling, hread, hfound, hsettled])
          | false =>
              have hdue : Due invoiceId b c := ⟨hfound, hsettled⟩
              rcases hstart : startAttempt io correlationId invoiceId b with ⟨e | n, b₁⟩
              · obtain ⟨attempts, rfl⟩ := startAttempt_error hstart
                exact .halted e attempts (by simp [settling, hread, hfound, hsettled, hstart])
              · obtain ⟨attempts, rfl⟩ := startAttempt_ok hstart
                obtain rfl := hdue.id_eq
                exact chargeInvoice_cases hread hdue hstart

end Cases

/-! ## Rows to try it on -/

namespace Rows

def mandate : BillingMandate where
  id := "m1"
  userId := "u1"
  policyId := "p1"
  provider := "RAZORPAY"
  providerMandateId := none
  status := .ACTIVE
  nextChargeAt := 0
  lastChargedAt := none
  failureCount := 0
  createdAt := 0

def invoice : PremiumInvoice where
  id := "i1"
  userId := "u1"
  policyId := "p1"
  mandateId := some "m1"
  billingCycleStart := 0
  billingCycleEnd := 604800000
  amountDue := 30
  amountPaid := some 0
  status := .PENDING
  dueAt := 0
  paidAt := none
  failureReason := none
  correlationId := none

/-- Every operation goes through. -/
def chargeIo : ChargeIo where
  now := 7200000
  readInvoice := true
  countAttempts := true
  attemptId := "a1"
  createAttempt := true
  markProcessing := true
  replies := [.answered (some "rec_1")]
  settleTx := true
  pool := .available
  commit := true
  failTx := true

end Rows

end Aegis.PremiumService
