import Aegis.Verification.Billing.Charges
import Aegis.Verification.Liquidity.Conservation
import Aegis.Verification.Payments.Issuing
import Aegis.Verification.Payments.OnePolicy

/-! # Credits of the pool and their causes

A premium enters the pool on a connection of its own, inside the transaction that settles an
order or an invoice. Calls that settle either are run in any order. -/

namespace Aegis.PremiumService

open Outcome LiquidityPool
open Payments (storeDown ownOrder verifyRazorpaySignature issueTx issuePolicy markOrder
  trackFailure replenish)
open Payments.Checkout (Succeeded inject premiumOf replenish_eq succeeded_of_orders
  succeeded_markOrder_kept)

/-! ## Causes and their settlement -/

/-- What a premium is credited for. -/
inductive Cause where
  | order (id : String)
  | invoice (id : String)
  deriving DecidableEq, Repr

def Cause.id : Cause → String
  | order id | invoice id => id

/-- The invoice is paid. -/
def Paid (b : Books) (id : String) : Prop :=
  (b.premiumInvoices.findUnique (.id id)).map PremiumInvoice.status = some .PAID

/-- The order is SUCCESS, or the invoice PAID. -/
def Collected (b : Books) : Cause → Prop
  | .order id => Succeeded b.db id
  | .invoice id => Paid b id

instance (b : Books) (id : String) : Decidable (Paid b id) := inferInstanceAs (Decidable (_ = _))

instance (b : Books) : (cause : Cause) → Decidable (Collected b cause)
  | .order id => inferInstanceAs (Decidable (Succeeded b.db id))
  | .invoice id => inferInstanceAs (Decidable (Paid b id))

/-! ## Calls -/

/-- A call that collects a premium, or tries to. -/
inductive Collection where
  | verifyPayment (io : Payments.VerifyIo) (userId : String) (dto : Payments.VerifyPaymentDto)
  | processInvoiceCharge (io : ChargeIo) (correlationId invoiceId : String)

structure CollectionConfig where
  orders : Payments.OrderConfig
  billing : BillingConfig

/-- The books and what was credited to the pool, with its cause. -/
structure Accounts extends Books where
  credits : List (Cause × ℚ) := []

section Calls

variable (cfg : CollectionConfig)

/-- The order whose transaction comes as far as the replenishment. -/
def issuing (cfg : Payments.OrderConfig) (io : Payments.VerifyIo) (userId : String)
    (dto : Payments.VerifyPaymentDto) (db : Db) : Option RazorpayOrder :=
  match ownOrder io userId dto db with
  | .error _ => none
  | .ok order =>
      if order.status = .SUCCESS then none
      else
        match verifyRazorpaySignature cfg dto,
          db.weeklyPlans.findUnique (.id order.weeklyPlanId) with
        | .ok true, some plan => (issueTx io userId dto order plan db).toOption.map fun _ => order
        | _, _ => none

/-- What a call credits to the pool. -/
def creditsOf (b : Books) : Collection → List (Cause × ℚ)
  | .verifyPayment io userId dto =>
      match issuing cfg.orders io userId dto b.db with
      | some order => if io.pool = .available then [(.order order.id, order.amount / 100)] else []
      | none => []
  | .processInvoiceCharge io correlationId invoiceId =>
      match settling cfg.billing io correlationId invoiceId b with
      | some invoice =>
          if io.pool = .available then [(.invoice invoice.id, invoice.amountDue)] else []
      | none => []

def Collection.serve (b : Books) : Collection → Books
  | verifyPayment io userId dto =>
      { b with db := (Payments.verifyPayment cfg.orders io userId dto b.db).2 }
  | processInvoiceCharge io correlationId invoiceId =>
      (PremiumService.processInvoiceCharge cfg.billing io correlationId invoiceId b).2

/-- Whether the transaction of the call is committed. -/
def Collection.commit : Collection → Bool
  | verifyPayment io _ _ => io.commit
  | processInvoiceCharge io _ _ => io.commit

def collect (s : Accounts) (c : Collection) : Accounts where
  toBooks := c.serve cfg s.toBooks
  credits := s.credits ++ creditsOf cfg s.toBooks c

/-! ## The property -/

def Accounts.creditsFor (s : Accounts) (cause : Cause) : List (Cause × ℚ) :=
  s.credits.filter fun c => c.1 = cause

/-- The pool holds the credits beside what it held before, every cause is credited once at
most, and none that is not settled. -/
structure Atomic (settings : Settings) (s : Accounts) : Prop where
  pool : s.db.systemSettings = s.credits.foldl (fun t c => inject t (c.1.id, c.2)) settings
  once : ∀ cause, (s.creditsFor cause).length ≤ 1
  caused : ∀ cause, s.creditsFor cause ≠ [] → Collected s.toBooks cause

/-- A premium is credited only in a transaction that is committed. -/
def Commits (s : Accounts) (c : Collection) : Prop :=
  creditsOf cfg s.toBooks c ≠ [] → c.commit = true

instance (s : Accounts) (c : Collection) : Decidable (Commits cfg s c) :=
  inferInstanceAs (Decidable (_ → _))

/-- What every call does to the pool and to the causes. -/
structure CollectionSpec (b b' : Books) (c : Collection) : Prop where
  pool : b'.db.systemSettings =
    (creditsOf cfg b c).foldl (fun t c => inject t (c.1.id, c.2)) b.db.systemSettings
  kept : ∀ cause, Collected b cause → Collected b' cause
  single : (creditsOf cfg b c).length ≤ 1
  fresh : ∀ p ∈ creditsOf cfg b c, ¬Collected b p.1
  settled : ∀ p ∈ creditsOf cfg b c, Collected b' p.1 ↔ c.commit = true

variable {cfg} {b b' : Books} {c : Collection}

theorem CollectionSpec.of_nil (hnone : creditsOf cfg b c = [])
    (hpool : b'.db.systemSettings = b.db.systemSettings)
    (hkept : ∀ cause, Collected b cause → Collected b' cause) : CollectionSpec cfg b b' c := by
  refine ⟨?_, hkept, ?_, ?_, ?_⟩
  · rw [hnone, hpool]
    rfl
  · simp [hnone]
  · simp [hnone]
  · simp [hnone]

theorem CollectionSpec.of_credit {pool : Access} {cause : Cause} {amount : ℚ}
    (hcredits : creditsOf cfg b c = if pool = .available then [(cause, amount)] else [])
    (hpool : b'.db.systemSettings = (if pool = .available then [(cause, amount)] else []).foldl
      (fun t c => inject t (c.1.id, c.2)) b.db.systemSettings)
    (hkept : ∀ cause, Collected b cause → Collected b' cause) (hfresh : ¬Collected b cause)
    (hsettled : Collected b' cause ↔ c.commit = true) : CollectionSpec cfg b b' c := by
  have hmem : ∀ p ∈ creditsOf cfg b c, p.1 = cause := by
    intro p hp
    rw [hcredits] at hp
    split at hp
    · rw [List.mem_singleton.mp hp]
    · cases hp
  refine ⟨by rw [hcredits, hpool], hkept, ?_, ?_, ?_⟩
  · rw [hcredits]
    split
    · simp
    · simp
  · intro p hp
    rw [hmem p hp]
    exact hfresh
  · intro p hp
    rw [hmem p hp]
    exact hsettled

end Calls

/-! ## The charge of an invoice -/

section Charge

variable {orders : Payments.OrderConfig} {cfg : BillingConfig} {io : ChargeIo}
  {correlationId invoiceId : String} {b : Books}

theorem injected_eq {pool : Access} {settings settings' : Settings} {amount : ℚ}
    {injection : Injection} (h : injectPremium pool settings amount = .ok (injection, settings'))
    (cause : Cause) :
    settings' = (if pool = .available then [(cause, amount)] else []).foldl
      (fun t c => inject t (c.1.id, c.2)) settings := by
  cases pool with
  | available =>
      have htx : injectTx settings amount = .ok (injection, settings') := h
      simp [inject, htx]
  | tableMissing =>
      cases h
      rfl
  | down message => cases h

/-- A pool that is up takes every premium. -/
theorem not_available_of_error {pool : Access} {settings : Settings} {amount : ℚ} {e : Exn}
    (h : injectPremium pool settings amount = .error e) : pool ≠ .available := by
  rintro rfl
  obtain ⟨_, _, htx, -⟩ := injectTx_spec settings amount
  have herror : injectTx settings amount = .error e := h
  rw [htx] at herror
  cases herror

theorem Due.not_paid {c : Chargeable} (h : Due invoiceId b c) : ¬Paid b c.invoice.id := by
  obtain ⟨invoice, hinvoice, hc⟩ := Option.map_eq_some_iff.mp h.found
  have hid : c.invoice = invoice := by rw [← hc]
  have hunsettled := h.unsettled
  rw [Paid, h.id_eq, hinvoice]
  rw [hid] at hunsettled
  simp only [Option.map_some, Option.some.injEq]
  intro hpaid
  simp [PremiumInvoiceStatus.isSettled, hpaid] at hunsettled

/-- The status of the invoice that is charged, and of the others. -/
theorem paid_after {c : Chargeable} {b' : Books} {f : RowUpdate PremiumInvoice.keys}
    {status : PremiumInvoiceStatus} (hdue : Due invoiceId b c)
    (hrows : b'.premiumInvoices = b.premiumInvoices.update (.id c.invoice.id) f)
    (hstatus : ∀ i, (f.apply i).status = status) (id : String) :
    Paid b' id ↔ if id = c.invoice.id then status = .PAID else Paid b id := by
  rw [Paid, hrows, findUnique_id_update]
  by_cases hid : id = c.invoice.id
  · obtain ⟨invoice, hinvoice, -⟩ := Option.map_eq_some_iff.mp hdue.found
    rw [if_pos hid, if_pos hid, hid, hdue.id_eq, hinvoice]
    simp [hstatus]
  · rw [if_neg hid, if_neg hid, Paid]

theorem paid_kept {c : Chargeable} {b' : Books} {f : RowUpdate PremiumInvoice.keys}
    {status : PremiumInvoiceStatus} (hdue : Due invoiceId b c)
    (hrows : b'.premiumInvoices = b.premiumInvoices.update (.id c.invoice.id) f)
    (hstatus : ∀ i, (f.apply i).status = status) {id : String} (h : Paid b id) : Paid b' id := by
  have hne : id ≠ c.invoice.id := by
    rintro rfl
    exact hdue.not_paid h
  rw [paid_after hdue hrows hstatus, if_neg hne]
  exact h

theorem Due.settling_cases {c : Chargeable} (h : Due invoiceId b c) (cfg : BillingConfig)
    (io : ChargeIo) (correlationId : String) :
    settling cfg io correlationId invoiceId b = none ∨
      settling cfg io correlationId invoiceId b = some c.invoice := by
  simp only [settling, h.found, h.unsettled]
  repeat' split
  all_goals simp

/-- A charge that fails pays nothing, whatever it leaves in the pool. -/
theorem PoolLeft.spec {c : Chargeable} {b' : Books} {f : RowUpdate PremiumInvoice.keys}
    {status : PremiumInvoiceStatus} {systemSettings : Settings} (hdue : Due invoiceId b c)
    (hpool : PoolLeft cfg io correlationId invoiceId b c.invoice systemSettings)
    (hsettings : b'.db.systemSettings = systemSettings)
    (horders : b'.db.razorpayOrders = b.db.razorpayOrders)
    (hrows : b'.premiumInvoices = b.premiumInvoices.update (.id c.invoice.id) f)
    (hstatus : ∀ i, (f.apply i).status = status) (hunpaid : status ≠ .PAID) :
    CollectionSpec ⟨orders, cfg⟩ b b' (.processInvoiceCharge io correlationId invoiceId) := by
  have hkept : ∀ cause, Collected b cause → Collected b' cause := by
    intro cause h
    cases cause with
    | order id =>
        simp only [Collected, Succeeded, horders] at h ⊢
        exact h
    | invoice id => exact paid_kept hdue hrows hstatus h
  have hopen : ¬Paid b' c.invoice.id := by
    rw [paid_after hdue hrows hstatus, if_pos rfl]
    exact hunpaid
  cases hpool with
  | kept hunreached =>
      refine .of_nil ?_ hsettings hkept
      rcases hdue.settling_cases cfg io correlationId with h | h
      · simp only [creditsOf, h]
      · obtain ⟨e, hinject⟩ := hunreached h
        simp only [creditsOf, h, if_neg (not_available_of_error hinject)]
  | credited injection _ reached lost injected =>
      refine .of_credit (by simp only [creditsOf, reached])
        (hsettings.trans (injected_eq injected (.invoice c.invoice.id))) hkept hdue.not_paid ?_
      simp only [Collected, hopen, Collection.commit, lost, Bool.false_eq_true]

theorem ChargeCases.spec {result : Except Exn Unit} {b' : Books}
    (h : ChargeCases cfg io correlationId invoiceId b result b') :
    CollectionSpec ⟨orders, cfg⟩ b b' (.processInvoiceCharge io correlationId invoiceId) := by
  have hquiet : ∀ b' : Books, settling cfg io correlationId invoiceId b = none →
      b'.db = b.db → b'.premiumInvoices = b.premiumInvoices →
      CollectionSpec ⟨orders, cfg⟩ b b' (.processInvoiceCharge io correlationId invoiceId) := by
    intro b' hnone hdb hrows
    refine .of_nil (by simp only [creditsOf, hnone]) (by rw [hdb]) ?_
    intro cause hcause
    cases cause with
    | order id => simpa only [Collected, hdb] using hcause
    | invoice id => simpa only [Collected, Paid, hrows] using hcause
  cases h with
  | skipped result quiet => exact hquiet _ quiet rfl rfl
  | halted e attempts quiet => exact hquiet _ quiet rfl rfl
  | settled c attempts executed gatewayReference injection systemSettings due reached committed
      injected =>
      have hrows := b.premiumInvoices.update_update (.id c.invoice.id) (processing correlationId)
        (paid io c.invoice.amountDue)
      have hpaid : ∀ i, (((processing correlationId).andThen
          (paid io c.invoice.amountDue)).apply i).status = .PAID := fun _ => rfl
      refine .of_credit (by simp only [creditsOf, reached])
        (injected_eq injected (.invoice c.invoice.id)) ?_ due.not_paid (iff_of_true ?_ committed)
      · intro cause hcause
        cases cause with
        | order id => exact hcause
        | invoice id => exact paid_kept due hrows hpaid hcause
      · exact (paid_after due hrows hpaid _).mpr (by simp)
  | failed c attempts executed e systemSettings due pool =>
      exact pool.spec due rfl rfl (b.premiumInvoices.update_update (.id c.invoice.id)
        (processing correlationId) (unpaid correlationId e)) (fun _ => rfl) (by decide)
  | stuck c attempts executed e systemSettings due pool =>
      exact pool.spec due rfl rfl rfl (fun _ => rfl) (by decide)

end Charge

/-! ## The verification of a payment -/

section Verification

variable {cfg : CollectionConfig} {io : Payments.VerifyIo} {userId : String}
  {dto : Payments.VerifyPaymentDto} {b : Books} {order : RazorpayOrder} {plan : WeeklyPlan}

/-- The orders as they are, or with one of them marked FAILED. -/
def OrdersLeft (order : RazorpayOrder) (db db' : Db) : Prop :=
  db'.razorpayOrders = db.razorpayOrders ∨
    ∃ dto, db'.razorpayOrders = (markOrder dto order .FAILED db).razorpayOrders

theorem OrdersLeft.kept {db db' : Db} (h : OrdersLeft order db db')
    (hopen : ¬Succeeded db order.id) {id : String} (hid : Succeeded db id) : Succeeded db' id := by
  rcases h with h | ⟨dto, h⟩
  · exact (succeeded_of_orders h).mpr hid
  · exact (succeeded_of_orders h).mpr (succeeded_markOrder_kept hopen hid)

theorem OrdersLeft.not_succeeded {db db' : Db} (h : OrdersLeft order db db')
    (hopen : ¬Succeeded db order.id) : ¬Succeeded db' order.id := by
  rcases h with h | ⟨dto, h⟩
  · exact fun hid => hopen ((succeeded_of_orders h).mp hid)
  · rw [succeeded_of_orders h, Succeeded, markOrder, Table.findUnique_update_self]
    cases db.razorpayOrders.findUnique (.id order.id) with
    | none => simp
    | some row => simp [Payments.settleOrder]

variable (io userId dto order plan) in
theorem trackFailure_ordersLeft (e : Exn) (db : Db) :
    OrdersLeft order db (trackFailure io userId dto order plan e db) := by
  rcases Payments.trackFailure_left io userId dto order plan e db with h | ⟨kafkaDLQ, h⟩
  · exact .inl (by rw [h])
  · exact .inr ⟨dto, by rw [h]⟩

theorem trackFailure_settings (e : Exn) (db : Db) :
    (trackFailure io userId dto order plan e db).systemSettings = db.systemSettings := by
  rcases Payments.trackFailure_left io userId dto order plan e db with h | ⟨kafkaDLQ, h⟩
  · rw [h]
  · rw [h]
    rfl

theorem replenish_settings (order : RazorpayOrder) (db : Db) :
    (replenish io (order.amount / 100) db).systemSettings =
      (if io.pool = .available then
        [(Cause.order order.id, (order.amount : ℚ) / 100)] else []).foldl
        (fun t c => inject t (c.1.id, c.2)) db.systemSettings := by
  rw [replenish_eq, premiumOf]
  split
  · rfl
  · rfl

/-- An order that is read and not yet SUCCESS. -/
theorem ownOrder_open {db : Db} (hown : ownOrder io userId dto db = .ok order)
    (hstatus : order.status ≠ .SUCCESS) : ¬Succeeded db order.id := by
  have hid := Table.findUnique_of_findUnique (Payments.ownOrder_spec hown)
    (RazorpayOrder.id_mem_keys_iff.mpr rfl : RazorpayOrderIndex.id order.id ∈ order.keys)
  rw [Succeeded, hid]
  simpa using hstatus

/-- A verification leaves the invoices. -/
theorem collected_of_orders {db' : Db} (h : ∀ id, Succeeded b.db id → Succeeded db' id)
    (cause : Cause) (hcause : Collected b cause) : Collected { b with db := db' } cause := by
  cases cause with
  | order id => exact h id hcause
  | invoice id => exact hcause

/-- A verification that comes to no replenishment. -/
theorem OrdersLeft.spec {db' : Db} (h : OrdersLeft order b.db db')
    (hopen : ¬Succeeded b.db order.id)
    (hnone : issuing cfg.orders io userId dto b.db = none)
    (hsettings : db'.systemSettings = b.db.systemSettings) :
    CollectionSpec cfg b { b with db := db' } (.verifyPayment io userId dto) := by
  exact .of_nil (by simp only [creditsOf, hnone]) hsettings
    (collected_of_orders fun _ => h.kept hopen)

theorem creditsOf_issuing (hreached : issuing cfg.orders io userId dto b.db = some order) :
    creditsOf cfg b (.verifyPayment io userId dto) =
      if io.pool = .available then [(.order order.id, (order.amount : ℚ) / 100)] else [] := by
  simp only [creditsOf, hreached]

/-- The transaction is committed with the replenishment. -/
theorem committed_spec {issue : Policy × Db} (hopen : ¬Succeeded b.db order.id)
    (hknown : Payments.Checkout.Known b.db order.id)
    (htx : issueTx io userId dto order plan b.db = .ok issue)
    (hreached : issuing cfg.orders io userId dto b.db = some order) (hcommit : io.commit = true) :
    CollectionSpec cfg b { b with db := replenish io (order.amount / 100) issue.2 }
      (.verifyPayment io userId dto) := by
  have hsettings := (Payments.Checkout.issueTx_policies htx).2
  have hafter : (replenish io (order.amount / 100) issue.2).razorpayOrders =
      (markOrder dto order .SUCCESS b.db).razorpayOrders :=
    (Payments.replenish_orders io (order.amount / 100) issue.2).trans
      (Payments.Checkout.issueTx_spec htx)
  refine .of_credit (creditsOf_issuing hreached)
    ((replenish_settings order issue.2).trans (by rw [hsettings])) ?_ hopen
    (iff_of_true ((succeeded_of_orders hafter).mpr
      (Payments.Checkout.succeeded_markOrder_self hknown)) hcommit)
  exact collected_of_orders fun _ hid =>
    (succeeded_of_orders hafter).mpr (succeeded_markOrder_kept hopen hid)

/-- The transaction is rolled back, the replenishment stays. -/
theorem rolledBack_spec (hopen : ¬Succeeded b.db order.id)
    (hreached : issuing cfg.orders io userId dto b.db = some order) (hcommit : io.commit ≠ true) :
    CollectionSpec cfg b
      { b with
        db := trackFailure io userId dto order plan storeDown
          (replenish io (order.amount / 100) b.db) }
      (.verifyPayment io userId dto) := by
  have hreplenished := Payments.replenish_orders io (order.amount / 100) b.db
  have hleft : OrdersLeft order b.db (trackFailure io userId dto order plan storeDown
      (replenish io (order.amount / 100) b.db)) := by
    rcases trackFailure_ordersLeft io userId dto order plan storeDown
        (replenish io (order.amount / 100) b.db) with h | ⟨dto', h⟩
    · exact .inl (h.trans hreplenished)
    · refine .inr ⟨dto', h.trans ?_⟩
      simp only [markOrder, hreplenished]
  refine .of_credit (creditsOf_issuing hreached)
    ((trackFailure_settings storeDown _).trans (replenish_settings order b.db)) ?_ hopen
    (iff_of_false (hleft.not_succeeded hopen) hcommit)
  exact collected_of_orders fun _ => hleft.kept hopen

theorem issuePolicy_spec (hopen : ¬Succeeded b.db order.id)
    (hknown : Payments.Checkout.Known b.db order.id)
    (hissuing : issuing cfg.orders io userId dto b.db =
      (issueTx io userId dto order plan b.db).toOption.map fun _ => order) :
    CollectionSpec cfg b { b with db := (issuePolicy io userId dto order plan b.db).2 }
      (.verifyPayment io userId dto) := by
  unfold issuePolicy
  cases htx : issueTx io userId dto order plan b.db with
  | error e =>
      rw [htx] at hissuing
      exact (trackFailure_ordersLeft io userId dto order plan e b.db).spec hopen hissuing
        (trackFailure_settings e b.db)
  | ok issue =>
      rw [htx] at hissuing
      by_cases hcommit : io.commit = true
      · simp only [hcommit, if_true]
        exact committed_spec hopen hknown htx hissuing hcommit
      · simp only [hcommit]
        exact rolledBack_spec hopen hissuing hcommit

theorem verifyPayment_spec (cfg : CollectionConfig) (io : Payments.VerifyIo) (userId : String)
    (dto : Payments.VerifyPaymentDto) (b : Books) :
    CollectionSpec cfg b
      { b with db := (Payments.verifyPayment cfg.orders io userId dto b.db).2 }
      (.verifyPayment io userId dto) := by
  have hquiet : issuing cfg.orders io userId dto b.db = none →
      CollectionSpec cfg b b (.verifyPayment io userId dto) :=
    fun hnone => .of_nil (by simp only [creditsOf, hnone]) rfl fun _ h => h
  unfold Payments.verifyPayment
  cases hown : ownOrder io userId dto b.db with
  | error e => exact hquiet (by simp only [issuing, hown])
  | ok order =>
      by_cases hstatus : order.status = .SUCCESS
      · simp only [hstatus, if_true]
        exact hquiet (by simp only [issuing, hown, hstatus, if_true])
      · simp only [hstatus, if_false]
        have hopen := ownOrder_open hown hstatus
        cases hsignature : verifyRazorpaySignature cfg.orders dto with
        | error e => exact hquiet (by simp only [issuing, hown, hstatus, hsignature, if_false])
        | ok valid =>
            cases valid with
            | false =>
                have hnone : issuing cfg.orders io userId dto b.db = none := by
                  simp only [issuing, hown, hstatus, hsignature, if_false]
                by_cases hmark : io.markInvalid = true
                · simp only [hmark, if_true]
                  exact OrdersLeft.spec (.inr ⟨dto, rfl⟩) hopen hnone rfl
                · simp only [hmark]
                  exact hquiet hnone
            | true =>
                cases hplan : b.db.weeklyPlans.findUnique (.id order.weeklyPlanId) with
                | none =>
                    exact hquiet
                      (by simp only [issuing, hown, hstatus, hsignature, hplan, if_false])
                | some plan =>
                    refine issuePolicy_spec hopen ?_ ?_
                    · exact Payments.Checkout.known_of_mem
                        (Table.mem_of_findUnique (Payments.ownOrder_spec hown))
                    · simp only [issuing, hown, hstatus, hsignature, hplan, if_false]

end Verification

/-! ## Runs of calls -/

section Runs

variable {cfg : CollectionConfig} {settings : Settings}

theorem serve_spec (cfg : CollectionConfig) (b : Books) (c : Collection) :
    CollectionSpec cfg b (c.serve cfg b) c := by
  cases c with
  | verifyPayment io userId dto => exact verifyPayment_spec cfg io userId dto b
  | processInvoiceCharge io correlationId invoiceId =>
      exact (processInvoiceCharge_cases cfg.billing io correlationId invoiceId b).spec

theorem creditsFor_collect (s : Accounts) (c : Collection) (cause : Cause) :
    (collect cfg s c).creditsFor cause =
      s.creditsFor cause ++ (creditsOf cfg s.toBooks c).filter fun p => p.1 = cause := by
  simp [Accounts.creditsFor, collect]

theorem Atomic.collect {s : Accounts} {c : Collection} (h : Atomic settings s)
    (hcommits : Commits cfg s c) : Atomic settings (collect cfg s c) := by
  have hspec := serve_spec cfg s.toBooks c
  have hfresh : ∀ p ∈ creditsOf cfg s.toBooks c, s.creditsFor p.1 = [] := by
    intro p hp
    by_contra hne
    exact hspec.fresh p hp (h.caused p.1 hne)
  refine ⟨?_, ?_, ?_⟩
  · have hpool := hspec.pool
    rw [h.pool] at hpool
    simp only [PremiumService.collect, List.foldl_append, hpool]
  · intro cause
    rw [creditsFor_collect]
    by_cases hnone : (creditsOf cfg s.toBooks c).filter (fun p => p.1 = cause) = []
    · rw [hnone, List.append_nil]
      exact h.once cause
    · obtain ⟨p, hp⟩ := List.exists_mem_of_ne_nil _ hnone
      obtain ⟨hmem, hcause⟩ := List.mem_filter.mp hp
      have hempty : s.creditsFor cause = [] := by
        rw [← of_decide_eq_true hcause]
        exact hfresh p hmem
      rw [hempty, List.nil_append]
      exact (List.length_filter_le _ _).trans hspec.single
  · intro cause hne
    rw [creditsFor_collect] at hne
    by_cases hold : s.creditsFor cause = []
    · rw [hold, List.nil_append] at hne
      obtain ⟨p, hp⟩ := List.exists_mem_of_ne_nil _ hne
      obtain ⟨hmem, hcause⟩ := List.mem_filter.mp hp
      rw [← of_decide_eq_true hcause]
      exact (hspec.settled p hmem).mpr (hcommits (List.ne_nil_of_mem hmem))
    · exact hspec.kept cause (h.caused cause hold)

theorem Atomic.commits {s : Accounts} {c : Collection}
    (h : Atomic settings (PremiumService.collect cfg s c)) : Commits cfg s c := by
  intro hne
  obtain ⟨p, hp⟩ := List.exists_mem_of_ne_nil _ hne
  refine ((serve_spec cfg s.toBooks c).settled p hp).mp (h.caused p.1 ?_)
  rw [creditsFor_collect]
  exact List.append_ne_nil_of_right_ne_nil _
    (List.ne_nil_of_mem (List.mem_filter.mpr ⟨hp, by simp⟩))

/-- A premium is in the pool once and for a settled cause exactly as long as no transaction that
credits one fails to commit. -/
theorem always_atomic_iff (cfg : CollectionConfig) (b : Books) (calls : List Collection) :
    Run.Always (PremiumService.collect cfg) (Atomic b.db.systemSettings) ⟨b, []⟩ calls ↔
      Run.Along (PremiumService.collect cfg) (Commits cfg) ⟨b, []⟩ calls := by
  refine Run.always_iff_along (fun s c hs => ⟨Atomic.commits, hs.collect⟩) ⟨rfl, ?_, ?_⟩
  · intro cause
    exact Nat.zero_le 1
  · intro cause hne
    exact absurd rfl hne

end Runs

/-! ## A commit that fails -/

namespace Retried

open Rows

/-- An order that is paid for, and an invoice that is due. -/
def books : Books where
  db := Payments.Checkout.Race.shop
  billingMandates := .singleton mandate
  premiumInvoices := .singleton invoice

/-- Debits are staged: none is posted. -/
def config : CollectionConfig := ⟨Payments.Checkout.Race.shopConfig, {}⟩

def verify (policyId : String) (commit : Bool) : Collection :=
  .verifyPayment { Payments.Checkout.Race.verifyIo policyId with commit } "u1"
    ⟨"order_1", "pay_1", "order_1|pay_1"⟩

def charge (attemptId : String) (commit : Bool) : Collection :=
  .processInvoiceCharge { chargeIo with attemptId, commit } "recurring_1" "i1"

end Retried

open Retried in
/-- Each of the two transactions fails to commit once, and the retry credits the premium again. -/
theorem not_atomic_retried :
    ¬Run.Always (PremiumService.collect config) (Atomic books.db.systemSettings) ⟨books, []⟩
        [verify "p1" false, verify "p2" true] ∧
      ¬Run.Always (PremiumService.collect config) (Atomic books.db.systemSettings) ⟨books, []⟩
        [charge "a1" false, charge "a2" true] := by
  have horder : ((Run.final (PremiumService.collect config) ⟨books, []⟩
      [verify "p1" false, verify "p2" true]).creditsFor (.order "o1")).length = 2 := by
    decide
  have hinvoice : ((Run.final (PremiumService.collect config) ⟨books, []⟩
      [charge "a1" false, charge "a2" true]).creditsFor (.invoice "i1")).length = 2 := by
    decide
  constructor
  · intro h
    have hone := h.last.once (.order "o1")
    omega
  · intro h
    have hone := h.last.once (.invoice "i1")
    omega

end Aegis.PremiumService
