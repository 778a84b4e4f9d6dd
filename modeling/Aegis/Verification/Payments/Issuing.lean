import Aegis.Model.Orders

/-! # What a verification does

Every case of `verifyPayment`, with what it leaves in the store. -/

namespace Aegis.Payments

open Outcome

variable (cfg : OrderConfig) (io : VerifyIo) (userId : String) (dto : VerifyPaymentDto) (db : Db)

/-- The call comes as far as its transaction. -/
structure ReachesTx (order : RazorpayOrder) (plan : WeeklyPlan) : Prop where
  own : ownOrder io userId dto db = .ok order
  unsettled : order.status ≠ .SUCCESS
  signed : verifyRazorpaySignature cfg dto = .ok true
  plan : db.weeklyPlans.findUnique (.id order.weeklyPlanId) = some plan

/-- The store with a new policy in force and its order paid. -/
def sold (order : RazorpayOrder) (policies : Table Policy.keys) : Db :=
  markOrder dto order .SUCCESS { db with policies }

/-- What becomes of a call of `verifyPayment`. -/
inductive VerifyCases : Except Exn (Option Policy) → Db → Prop
  | refused (e : Exn) : VerifyCases (.error e) db
  | verified (order : RazorpayOrder) : VerifyCases (verifiedPolicy io userId order db) db
  | invalid (order : RazorpayOrder) (e : Exn) :
      VerifyCases (.error e) (markOrder dto order .FAILED db)
  | failed (order : RazorpayOrder) (plan : WeeklyPlan) (e : Exn) :
      VerifyCases (.error policyCreationFailed) (trackFailure io userId dto order plan e db)
  | lost (order : RazorpayOrder) (plan : WeeklyPlan) :
      VerifyCases (.error policyCreationFailed)
        (trackFailure io userId dto order plan storeDown (replenish io (order.amount / 100) db))
  | issued (order : RazorpayOrder) (plan : WeeklyPlan) (policies : Table Policy.keys)
      (reached : ReachesTx cfg io userId dto db order plan) (transaction : io.transaction = true)
      (commit : io.commit = true)
      (created : (endPolicies io.now userId db).policies.create
        (weeklyPolicy io.now io.policyId userId plan (order.amount / 100)) = some policies) :
      VerifyCases (.ok (some (weeklyPolicy io.now io.policyId userId plan (order.amount / 100))))
        (replenish io (order.amount / 100) (sold dto db order policies))

variable {cfg io userId dto db} {order : RazorpayOrder} {plan : WeeklyPlan}

theorem ownOrder_spec (h : ownOrder io userId dto db = .ok order) :
    db.razorpayOrders.findUnique (.razorpayOrderId dto.razorpay_order_id) = some order := by
  obtain ⟨_, -, h⟩ := bind_eq_ok.mp h
  obtain ⟨found, hfound, h⟩ := bind_eq_ok.mp h
  obtain ⟨_, -, h⟩ := bind_eq_ok.mp h
  cases h
  exact orThrow_eq_ok.mp hfound

theorem issuePolicy_cases (h : ReachesTx cfg io userId dto db order plan) :
    VerifyCases cfg io userId dto db (issuePolicy io userId dto order plan db).1
      (issuePolicy io userId dto order plan db).2 := by
  rw [issuePolicy]
  cases htx : issueTx io userId dto order plan db with
  | error e => exact .failed order plan e
  | ok issued =>
      obtain ⟨_, htransaction, hissue⟩ := bind_eq_ok.mp htx
      obtain ⟨policies, hcreate, hissue⟩ := bind_eq_ok.mp hissue
      cases hissue
      by_cases hcommit : io.commit = true
      · simp only [hcommit, if_true]
        exact .issued order plan policies h (require_eq_ok.mp htransaction) hcommit
          (orThrow_eq_ok.mp hcreate)
      · simp only [hcommit]
        exact .lost order plan

theorem verifyPayment_cases (cfg : OrderConfig) (io : VerifyIo) (userId : String)
    (dto : VerifyPaymentDto) (db : Db) :
    VerifyCases cfg io userId dto db (verifyPayment cfg io userId dto db).1
      (verifyPayment cfg io userId dto db).2 := by
  rw [verifyPayment]
  cases hown : ownOrder io userId dto db with
  | error e => exact .refused e
  | ok order =>
      by_cases hstatus : order.status = .SUCCESS
      · simp only [hstatus, if_true]
        exact .verified order
      · simp only [hstatus, if_false]
        cases hsignature : verifyRazorpaySignature cfg dto with
        | error e => exact .refused e
        | ok valid =>
            cases valid with
            | false =>
                by_cases hmark : io.markInvalid = true
                · simp only [hmark, if_true]
                  exact .invalid order _
                · simp only [hmark]
                  exact .refused storeDown
            | true =>
                cases hplan : db.weeklyPlans.findUnique (.id order.weeklyPlanId) with
                | none => exact .refused _
                | some plan => exact issuePolicy_cases ⟨hown, hstatus, hsignature, hplan⟩

/-! ## What the parts leave alone -/

theorem replenish_policies (io : VerifyIo) (paidPremium : ℚ) (db : Db) :
    (replenish io paidPremium db).policies = db.policies := by
  rw [replenish]
  split
  · rfl
  · rfl

theorem replenish_orders (io : VerifyIo) (paidPremium : ℚ) (db : Db) :
    (replenish io paidPremium db).razorpayOrders = db.razorpayOrders := by
  rw [replenish]
  split
  · rfl
  · rfl

/-- A failure that is tracked leaves the store as it is, or the order FAILED and a dead letter. -/
theorem trackFailure_left (io : VerifyIo) (userId : String) (dto : VerifyPaymentDto)
    (order : RazorpayOrder) (plan : WeeklyPlan) (e : Exn) (db : Db) :
    trackFailure io userId dto order plan e db = db ∨
      ∃ kafkaDLQ, trackFailure io userId dto order plan e db =
        { markOrder dto order .FAILED db with kafkaDLQ } := by
  rw [trackFailure]
  by_cases hmark : io.markFailed = true
  · by_cases hdlq : io.createDlq = true
    · rw [if_pos hmark, if_pos hdlq]
      exact .inr ⟨_, rfl⟩
    · rw [if_pos hmark, if_neg hdlq]
      exact .inr ⟨db.kafkaDLQ, rfl⟩
  · rw [if_neg hmark]
    exact .inl rfl

theorem trackFailure_policies (io : VerifyIo) (userId : String) (dto : VerifyPaymentDto)
    (order : RazorpayOrder) (plan : WeeklyPlan) (e : Exn) (db : Db) :
    (trackFailure io userId dto order plan e db).policies = db.policies := by
  rcases trackFailure_left io userId dto order plan e db with h | ⟨kafkaDLQ, h⟩
  · rw [h]
  · rw [h]
    rfl

end Aegis.Payments
