import Aegis.Library.TableParts
import Aegis.Verification.Insurance.Buyers
import Aegis.Verification.Premium.Issues

/-! # The premiums of the portfolio

What the policies say was paid for them, and what was collected by orders and by invoices. A
sale changes the first by what its order collects, or by the premium of a policy that has no
order. A run of billing collects without touching a policy. -/

namespace Aegis.Portfolio

open Outcome InsuranceService PremiumService
open Payments (endPolicies weeklyPolicy)

/-! ## The sums -/

/-- The premiums of all policies. -/
def bookedPremiums (db : Db) : ℚ := (db.policies.rows.map Policy.premium).sum

/-- The amounts of the orders that were paid, in rupees. -/
def orderPremiums (db : Db) : ℚ :=
  ((db.razorpayOrders.rows.filter fun o => o.status = .SUCCESS).map fun o =>
    (o.amount : ℚ) / 100).sum

/-- The amounts of the recurring invoices that were paid. -/
def recurringPremiums (b : Books) : ℚ :=
  ((b.premiumInvoices.rows.filter fun i => i.status = .PAID).map fun i => i.amountPaid.getD 0).sum

def premiumsCollected (b : Books) : ℚ := orderPremiums b.db + recurringPremiums b

def orderPaid (o : RazorpayOrder) : ℚ := if o.status = .SUCCESS then (o.amount : ℚ) / 100 else 0

def invoicePaid (i : PremiumInvoice) : ℚ := if i.status = .PAID then i.amountPaid.getD 0 else 0

theorem orderPremiums_eq_total (db : Db) : orderPremiums db = db.razorpayOrders.total orderPaid :=
  Table.sum_filter_eq_total (fun o : RazorpayOrder => o.status = .SUCCESS) _ _

theorem recurringPremiums_eq_total (b : Books) :
    recurringPremiums b = b.premiumInvoices.total invoicePaid :=
  Table.sum_filter_eq_total (fun i : PremiumInvoice => i.status = .PAID) _ _

theorem bookedPremiums_eq_total (db : Db) : bookedPremiums db = db.policies.total Policy.premium :=
  rfl

/-! ## Sales -/

/-- The policy that is created, if it can be. -/
def sellable (writable : Bool) (policy : Policy) (db : Db) : Option Policy :=
  if (createPolicy writable policy db).isOk then some policy else none

/-- The policy that an enrolment creates. -/
def enrolment (cfg : InsuranceService.Config) (io : EnrollIo) (driverId plan : String)
    (s : System) : Option Policy :=
  match prepareEnroll cfg io driverId plan s with
  | .error _ => none
  | .ok quote =>
      if io.endOld then
        sellable io.createPolicy (enrolledPolicy io driverId quote)
          (endPolicies io.now driverId s.db)
      else none

/-- The policy that a renewal of a weekly plan creates. -/
def weeklyRenewal (io : RenewIo) (driverId weeklyPlanId : String) (s : System) : Option Policy :=
  match weeklyQuote io driverId weeklyPlanId s with
  | .error _ => none
  | .ok (plan, quote, _) =>
      if io.endOld then
        sellable io.createPolicy (weeklyPolicy io.now io.policyId driverId plan quote.premium)
          (endPolicies io.now driverId s.db)
      else none

def renewal (cfg : InsuranceService.Config) (io : RenewIo) (driverId : String) (s : System) :
    Option Policy :=
  match renewable io driverId s.db with
  | .error _ => none
  | .ok latest =>
      match PayoutService.truthy latest.weeklyPlanId with
      | some weeklyPlanId => weeklyRenewal io driverId weeklyPlanId s
      | none => enrolment cfg io.enroll driverId latest.planType s

/-- The policy that a call sells without an order. -/
def soldWithoutOrder (cfg : Services) (now : ℤ) (s : System) : Call → Option Policy
  | .enrollPolicy io driverId plan => enrolment cfg.insurance { io with now } driverId plan s
  | .renewPolicy io driverId delay =>
      renewal cfg.insurance { io with now, enroll := { io.enroll with now := now + delay } }
        driverId s
  | .createOrder .. | .verifyPayment .. | .cancelPolicy .. => none

def premiumOf (sold : Option Policy) : ℚ := (sold.map Policy.premium).getD 0

/-- The premiums of the policies grow by what orders collect and by the given premium. -/
def Grows (db db' : Db) (premium : ℚ) : Prop :=
  bookedPremiums db' + orderPremiums db = bookedPremiums db + orderPremiums db' + premium

section Sales

variable {db db' : Db}

theorem Grows.of_same (hpolicies : db'.policies = db.policies)
    (horders : db'.razorpayOrders = db.razorpayOrders) : Grows db db' 0 := by
  rw [Grows, bookedPremiums, bookedPremiums, orderPremiums, orderPremiums, hpolicies, horders,
    add_zero]

theorem Grows.trans {db'' : Db} {premium premium' : ℚ} (h : Grows db db' premium)
    (h' : Grows db' db'' premium') : Grows db db'' (premium + premium') := by
  rw [Grows] at h h' ⊢
  linarith

theorem bookedPremiums_endPolicies (now : ℤ) (userId : String) (db : Db) :
    bookedPremiums (endPolicies now userId db) = bookedPremiums db :=
  Table.total_updateMany fun _ _ _ => rfl

theorem grows_endPolicies (now : ℤ) (userId : String) (db : Db) :
    Grows db (endPolicies now userId db) 0 := by
  rw [Grows, bookedPremiums_endPolicies, add_zero]
  rfl

/-- The end of old policies, the new policy and what its premium does to the pool. -/
theorem grows_createPolicy {writable : Bool} {now : ℤ} {userId : String} {policy : Policy}
    (h : createPolicy writable policy (endPolicies now userId db) = .ok db') :
    Grows db db' (premiumOf (sellable writable policy (endPolicies now userId db))) := by
  obtain ⟨-, policies, hcreate, rfl⟩ := createPolicy_eq_ok.mp h
  have hsold : premiumOf (sellable writable policy (endPolicies now userId db)) =
      policy.premium := by
    rw [sellable, h]
    rfl
  have hbooked : bookedPremiums { endPolicies now userId db with policies } =
      bookedPremiums (endPolicies now userId db) + policy.premium := Table.total_create hcreate
  have horders : orderPremiums { endPolicies now userId db with policies } = orderPremiums db := rfl
  rw [Grows, hsold, hbooked, horders, bookedPremiums_endPolicies]
  ring

theorem sellable_of_error {writable : Bool} {policy : Policy} {e : Exn}
    (h : createPolicy writable policy db = .error e) : sellable writable policy db = none := by
  rw [sellable, h]
  rfl

theorem grows_collect {pool : LiquidityPool.Access} {premium : ℚ}
    (h : collect pool premium db = .ok db') : Grows db db' 0 :=
  .of_same (collect_policies h) (collect_orders h)

/-- A sale adds the premium of the policy that it creates. -/
theorem grows_of_sells {endOld writable : Bool} {pool : LiquidityPool.Access} {now : ℤ}
    {policy : Policy} {s s' : System} (h : Sells endOld writable pool now policy s s') :
    Grows s.db s'.db (premiumOf (if endOld then
      sellable writable policy (endPolicies now policy.userId s.db) else none)) := by
  cases h with
  | refused hend redis =>
      subst hend
      exact .of_same rfl rfl
  | ended hend hcreate redis =>
      rw [if_pos hend, sellable_of_error hcreate]
      exact grows_endPolicies now policy.userId s.db
  | unpaid hend hcreate redis =>
      rw [if_pos hend]
      exact grows_createPolicy hcreate
  | paid hend hcreate hpaid redis =>
      rw [if_pos hend]
      exact add_zero (premiumOf _) ▸ (grows_createPolicy hcreate).trans (grows_collect hpaid)

theorem enrollPolicy_grows (cfg : InsuranceService.Config) (io : EnrollIo) (driverId plan : String)
    (s : System) : Grows s.db (enrollPolicy cfg io driverId plan s).2.db
      (premiumOf (enrolment cfg io driverId plan s)) := by
  unfold enrollPolicy enrolment
  cases prepareEnroll cfg io driverId plan s with
  | error e => exact .of_same rfl rfl
  | ok quote => exact grows_of_sells (issueEnrolment_sells io driverId quote s)

theorem renewWeekly_grows (io : RenewIo) (driverId weeklyPlanId : String) (s : System) :
    Grows s.db (renewWeekly io driverId weeklyPlanId s).2.db
      (premiumOf (weeklyRenewal io driverId weeklyPlanId s)) := by
  rw [weeklyRenewal]
  cases hquote : weeklyQuote io driverId weeklyPlanId s with
  | error e =>
      rw [renewWeekly, hquote]
      exact .of_same rfl rfl
  | ok quoted => exact grows_of_sells (renewWeekly_sells hquote)

theorem renewPolicy_grows (cfg : InsuranceService.Config) (io : RenewIo) (driverId : String)
    (s : System) : Grows s.db (renewPolicy cfg io driverId s).2.db
      (premiumOf (renewal cfg io driverId s)) := by
  unfold renewPolicy renewal
  cases renewable io driverId s.db with
  | error e => exact .of_same rfl rfl
  | ok latest =>
      dsimp only
      cases PayoutService.truthy latest.weeklyPlanId with
      | some weeklyPlanId => exact renewWeekly_grows io driverId weeklyPlanId s
      | none =>
          have henrolled := enrollPolicy_grows cfg io.enroll driverId latest.planType s
          dsimp only
          split
          · rename_i h
            rwa [h] at henrolled
          · rename_i h
            rwa [h] at henrolled

theorem cancelPolicy_grows (io : CancelIo) (driverId : String) (reason : Option String)
    (s : System) : Grows s.db (cancelPolicy io driverId reason s).2.db 0 := by
  unfold cancelPolicy
  split
  · split
    · exact .of_same rfl rfl
    · split
      · rename_i policy _ _
        have hsame : (s.db.policies.update policy.id
            ⟨fun p => { p with status := .CANCELLED, endDate := io.now }, fun _ => rfl⟩).total
              Policy.premium = bookedPremiums s.db := Table.total_updateMany fun _ _ _ => rfl
        rw [Grows, bookedPremiums_eq_total, hsame, add_zero]
        rfl
      · exact .of_same rfl rfl
  · exact .of_same rfl rfl

/-! ### Orders -/

/-- A new order is not paid yet. -/
theorem createOrder_grows (cfg : Payments.OrderConfig) (io : Payments.CreateOrderIo)
    (userId weeklyPlanId : String) (s : System) :
    Grows s.db (Payments.createOrder cfg io userId weeklyPlanId s).2.db 0 := by
  unfold Payments.createOrder
  split
  · exact .of_same rfl rfl
  · dsimp only
    split
    · exact .of_same rfl rfl
    · rename_i hinsert
      obtain ⟨_, -, h⟩ := bind_eq_ok.mp hinsert
      obtain ⟨_, -, h⟩ := bind_eq_ok.mp h
      obtain ⟨orders, horders, h⟩ := bind_eq_ok.mp h
      cases h
      have hunpaid : orders.total orderPaid = s.db.razorpayOrders.total orderPaid :=
        (Table.total_create (orThrow_eq_ok.mp horders)).trans (add_zero _)
      rw [Grows, orderPremiums_eq_total, orderPremiums_eq_total, hunpaid, add_zero]
      rfl

/-- An order that was not paid yet is marked. -/
theorem orderPremiums_markOrder {order : RazorpayOrder} (dto : Payments.VerifyPaymentDto)
    (status : OrderStatus) (hfound : db.razorpayOrders.findUnique (.id order.id) = some order)
    (hopen : order.status ≠ .SUCCESS) :
    orderPremiums (Payments.markOrder dto order status db) =
      orderPremiums db + if status = .SUCCESS then (order.amount : ℚ) / 100 else 0 := by
  have htotal : (db.razorpayOrders.update (.id order.id) (Payments.settleOrder dto status)).total
      orderPaid + orderPaid order = db.razorpayOrders.total orderPaid +
        orderPaid ((Payments.settleOrder dto status).apply order) := Table.total_update hfound
  have hbefore : orderPaid order = 0 := if_neg hopen
  rw [hbefore, add_zero] at htotal
  rw [orderPremiums_eq_total, orderPremiums_eq_total]
  exact htotal

theorem grows_markFailed {order : RazorpayOrder} (dto : Payments.VerifyPaymentDto)
    (hfound : db.razorpayOrders.findUnique (.id order.id) = some order)
    (hopen : order.status ≠ .SUCCESS) : Grows db (Payments.markOrder dto order .FAILED db) 0 := by
  rw [Grows, orderPremiums_markOrder dto .FAILED hfound hopen, if_neg (by decide)]
  simp only [add_zero]
  rfl

theorem grows_trackFailure {order : RazorpayOrder} (io : Payments.VerifyIo) (userId : String)
    (dto : Payments.VerifyPaymentDto) (plan : WeeklyPlan) (e : Exn)
    (hfound : db.razorpayOrders.findUnique (.id order.id) = some order)
    (hopen : order.status ≠ .SUCCESS) :
    Grows db (Payments.trackFailure io userId dto order plan e db) 0 := by
  rcases Payments.trackFailure_left io userId dto order plan e db with h | ⟨kafkaDLQ, h⟩
  · rw [h]
    exact .of_same rfl rfl
  · rw [h]
    exact grows_markFailed dto hfound hopen

theorem grows_replenish (io : Payments.VerifyIo) (paidPremium : ℚ) (db : Db) :
    Grows db (Payments.replenish io paidPremium db) 0 :=
  .of_same (Payments.replenish_policies io paidPremium db)
    (Payments.replenish_orders io paidPremium db)

/-- The order is paid and its policy booked at what was paid, or neither. -/
theorem issuePolicy_grows {order : RazorpayOrder} (io : Payments.VerifyIo) (userId : String)
    (dto : Payments.VerifyPaymentDto) (plan : WeeklyPlan)
    (hfound : db.razorpayOrders.findUnique (.id order.id) = some order)
    (hopen : order.status ≠ .SUCCESS) :
    Grows db (Payments.issuePolicy io userId dto order plan db).2 0 := by
  rw [Payments.issuePolicy]
  cases htx : Payments.issueTx io userId dto order plan db with
  | error e => exact grows_trackFailure io userId dto plan e hfound hopen
  | ok issued =>
      obtain ⟨_, -, hissue⟩ := bind_eq_ok.mp htx
      obtain ⟨policies, hcreate, hissue⟩ := bind_eq_ok.mp hissue
      cases hissue
      dsimp only
      split
      · have hpaid : orderPremiums (Payments.markOrder dto order .SUCCESS
            { endPolicies io.now userId db with policies }) = _ :=
          orderPremiums_markOrder dto .SUCCESS hfound hopen
        rw [if_pos rfl] at hpaid
        have hsold : Grows db (Payments.markOrder dto order .SUCCESS
            { endPolicies io.now userId db with policies }) 0 := by
          have hbooked : bookedPremiums (Payments.markOrder dto order .SUCCESS
              { endPolicies io.now userId db with policies }) =
                bookedPremiums (endPolicies io.now userId db) + (order.amount : ℚ) / 100 :=
            Table.total_create (orThrow_eq_ok.mp hcreate)
          have horders : orderPremiums { endPolicies io.now userId db with policies } =
              orderPremiums db := rfl
          rw [Grows, hpaid, hbooked, horders, bookedPremiums_endPolicies]
          ring
        exact add_zero (0 : ℚ) ▸ hsold.trans (grows_replenish io (order.amount / 100) _)
      · refine add_zero (0 : ℚ) ▸ (grows_replenish io (order.amount / 100) db).trans
          (grows_trackFailure io userId dto plan _ ?_ hopen)
        rwa [Payments.replenish_orders]

theorem verifyPayment_grows (cfg : Payments.OrderConfig) (io : Payments.VerifyIo)
    (userId : String) (dto : Payments.VerifyPaymentDto) (db : Db) :
    Grows db (Payments.verifyPayment cfg io userId dto db).2 0 := by
  unfold Payments.verifyPayment
  cases hown : Payments.ownOrder io userId dto db with
  | error e => exact .of_same rfl rfl
  | ok order =>
      have hfound : db.razorpayOrders.findUnique (.id order.id) = some order :=
        Table.findUnique_of_findUnique (Payments.ownOrder_spec hown) (by simp [RazorpayOrder.keys])
      dsimp only
      by_cases hstatus : order.status = .SUCCESS
      · rw [if_pos hstatus]
        exact .of_same rfl rfl
      · rw [if_neg hstatus]
        split
        · exact .of_same rfl rfl
        · split
          · exact grows_markFailed dto hfound hstatus
          · exact .of_same rfl rfl
        · split
          · exact .of_same rfl rfl
          · exact issuePolicy_grows io userId dto _ hfound hstatus

/-- A call adds to the premiums what its order collects, or what it sells without one. -/
theorem serve_grows (cfg : Services) (now : ℤ) (s : System) (c : Call) :
    Grows s.db (c.serve cfg now s).db (premiumOf (soldWithoutOrder cfg now s c)) := by
  cases c with
  | enrollPolicy io driverId plan => exact enrollPolicy_grows cfg.insurance _ driverId plan s
  | createOrder io userId weeklyPlanId =>
      exact createOrder_grows cfg.orders io userId weeklyPlanId s
  | verifyPayment io userId dto => exact verifyPayment_grows cfg.orders _ userId dto s.db
  | renewPolicy io driverId delay => exact renewPolicy_grows cfg.insurance _ driverId s
  | cancelPolicy io driverId reason => exact cancelPolicy_grows _ driverId reason s

end Sales

/-! ## Recurring billing -/

section Billing

variable {cfg : BillingConfig} {io : BillingIo} {b b' : PremiumService.Books}

/-- The tables outside billing, but for the pool. -/
def OnlyPool (db db' : Db) : Prop := ∃ systemSettings, db' = { db with systemSettings }

theorem processInvoiceCharge_onlyPool (io : ChargeIo) (correlationId invoiceId : String)
    (b : PremiumService.Books) :
    OnlyPool b.db (processInvoiceCharge cfg io correlationId invoiceId b).2.db := by
  have hcases := processInvoiceCharge_cases cfg io correlationId invoiceId b
  generalize (processInvoiceCharge cfg io correlationId invoiceId b).1 = result at hcases
  generalize (processInvoiceCharge cfg io correlationId invoiceId b).2 = b' at hcases
  cases hcases with
  | skipped => exact ⟨_, rfl⟩
  | halted => exact ⟨_, rfl⟩
  | settled => exact ⟨_, rfl⟩
  | failed => exact ⟨_, rfl⟩
  | stuck => exact ⟨_, rfl⟩

theorem ensureBillingMandate_db {io : PolicyIo} {now : ℤ} {policy : Policy}
    {mandate : BillingMandate} (h : ensureBillingMandate io now policy b = .ok (mandate, b')) :
    b'.db = b.db := by
  obtain ⟨_, -, h⟩ := bind_eq_ok.mp h
  split at h
  · cases h
    rfl
  · obtain ⟨_, -, h⟩ := bind_eq_ok.mp h
    obtain ⟨_, -, h⟩ := bind_eq_ok.mp h
    cases h
    rfl

theorem ensureCycleInvoice_db (io : PolicyIo) (now : ℤ) (correlationId : String) (policy : Policy)
    (mandateId : String) (b : PremiumService.Books) :
    (ensureCycleInvoice io now correlationId policy mandateId b).2.db = b.db := by
  have hcases := ensureCycleInvoice_cases io now correlationId policy mandateId b
  generalize (ensureCycleInvoice io now correlationId policy mandateId b).1 = result at hcases
  generalize (ensureCycleInvoice io now correlationId policy mandateId b).2 = b' at hcases
  cases hcases <;> rfl

theorem billPolicy_onlyPool (cfg : BillingConfig) (io : PolicyIo) (now : ℤ)
    (correlationId : String) (policy : Policy) (b : PremiumService.Books) :
    OnlyPool b.db (billPolicy cfg io now correlationId policy b).2.db := by
  unfold billPolicy
  cases hmandate : ensureBillingMandate io now policy b with
  | error e => exact ⟨_, rfl⟩
  | ok ensured =>
      obtain ⟨mandate, b₁⟩ := ensured
      have hdb := ensureBillingMandate_db hmandate
      have hcycle := ensureCycleInvoice_db io now correlationId policy mandate.id b₁
      rw [hdb] at hcycle
      dsimp only
      split
      · exact ⟨_, hdb⟩
      · split
        · exact ⟨_, hdb⟩
        · split
          · rename_i h
            rw [h] at hcycle
            exact ⟨_, hcycle⟩
          · rename_i h
            rw [h] at hcycle
            split
            · exact ⟨_, hcycle⟩
            · exact hcycle ▸ processInvoiceCharge_onlyPool io.charge correlationId _ _

theorem billingRun_onlyPool (cfg : BillingConfig) (io : BillingIo) (b : PremiumService.Books) :
    OnlyPool b.db (billingRun cfg b io).db := by
  unfold billingRun runRecurringBilling
  split
  · refine billPolicies_keeps (P := fun b' => OnlyPool b.db b'.db) ⟨_, rfl⟩
      fun policy _ b' hb => ?_
    obtain ⟨systemSettings, hdb⟩ := hb
    obtain ⟨systemSettings', hdb'⟩ :=
      billPolicy_onlyPool cfg (io.policy policy.id) io.now io.correlationId policy b'
    exact ⟨systemSettings', by rw [hdb', hdb]⟩
  · exact ⟨_, rfl⟩

/-- A paid invoice is never touched again. -/
theorem mem_billingRun_of_paid {i : PremiumInvoice} (hi : i ∈ b.premiumInvoices.rows)
    (hpaid : i.status = .PAID) : i ∈ (billingRun cfg b io).premiumInvoices.rows := by
  refine billingRun_preserves (P := fun b' => i ∈ b'.premiumInvoices.rows) hi
    fun policy _ b b' hmem hstep => ?_
  have hkept : ∀ j, Open policy b j → ∀ f, i ∈ (b.premiumInvoices.update (.id j.id) f).rows := by
    intro j hopen f
    refine Table.mem_update.mpr ⟨i, hmem, if_neg fun hid => ?_⟩
    have hsame : i = j := Table.eq_of_findUnique hopen.found hmem hid
    have hunsettled := hopen.unsettled
    rw [← hsame, hpaid] at hunsettled
    exact absurd hunsettled (by decide)
  cases hstep with
  | quiet _ same => rwa [same.premiumInvoices]
  | mandate m own _ created same => rwa [same.premiumInvoices]
  | invoice j m own pending cycle mandateId mandate ours _ created same =>
      exact (Table.mem_create created).mpr (.inl hmem)
  | unpaid j isOpen status refused f g sets keeps _ same =>
      rw [same.premiumInvoices]
      exact hkept j isOpen f
  | paid j isOpen correlationId f g sets keeps _ same =>
      rw [same.premiumInvoices]
      exact hkept j isOpen f

/-- The run marks no invoice with an amount as paid. -/
def CollectsNothing (cfg : BillingConfig) (io : BillingIo) (b : PremiumService.Books) : Prop :=
  ∀ i ∈ (billingRun cfg b io).premiumInvoices.rows, i.status = .PAID →
    i ∈ b.premiumInvoices.rows ∨ i.amountPaid.getD 0 = 0

instance : Decidable (CollectsNothing cfg io b) :=
  inferInstanceAs (Decidable (∀ i ∈ (billingRun cfg b io).premiumInvoices.rows, _))

theorem recurringPremiums_billingRun (h : CollectsNothing cfg io b) :
    recurringPremiums (billingRun cfg b io) = recurringPremiums b := by
  rw [recurringPremiums_eq_total, recurringPremiums_eq_total]
  refine Table.total_eq_of_mem_iff (fun i => by simp [PremiumInvoice.keys]) fun i hamount => ?_
  have hpaid : i.status = .PAID := by
    by_contra hunpaid
    exact hamount (if_neg hunpaid)
  have hsome : i.amountPaid.getD 0 ≠ 0 := by
    rwa [invoicePaid, if_pos hpaid] at hamount
  constructor
  · intro hi
    exact (h i hi hpaid).resolve_right hsome
  · intro hi
    exact mem_billingRun_of_paid hi hpaid

end Billing

end Aegis.Portfolio
