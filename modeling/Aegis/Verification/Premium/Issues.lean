import Aegis.Verification.Billing.Steps
import Aegis.Verification.Insurance.Intervals
import Aegis.Verification.Premium.Bounds

/-! # The premiums that are stored

Enrolment, purchase, renewal and billing each price a week by a way of their own. -/

namespace Aegis.InsuranceService

open Outcome RedisState Number PayoutService PremiumService
open Payments (endPolicies weeklyPolicy replenish_policies replenish_orders trackFailure_policies)

/-! ## What an operation stores -/

/-- The premium of the policy that appears under the id. -/
def newPremium (id : String) (db db' : Db) : Option ℚ :=
  match db.policies.findUnique id with
  | some _ => none
  | none => (db'.policies.findUnique id).map Policy.premium

/-- The amount of the invoice that appears under the id. -/
def newAmount (id : String) (b b' : Books) : Option ℚ :=
  match b.premiumInvoices.findUnique (.id id) with
  | some _ => none
  | none => (b'.premiumInvoices.findUnique (.id id)).map PremiumInvoice.amountDue

section Stored

variable {cfg : Config} {s : System} {driverId : String} {premium Ct : ℚ}

theorem newPremium_eq_some {id : String} {db db' : Db} : newPremium id db db' = some premium ↔
    db.policies.findUnique id = none ∧ ∃ p, db'.policies.findUnique id = some p ∧
      p.premium = premium := by
  unfold newPremium
  cases h : db.policies.findUnique id with
  | none => simp
  | some p => simp

theorem newPremium_kept {id : String} {db db' : Db} (h : db'.policies = db.policies) :
    newPremium id db db' ≠ some premium := by
  intro hnew
  obtain ⟨hnone, p, hfound, -⟩ := newPremium_eq_some.mp hnew
  rw [h, hnone] at hfound
  cases hfound

theorem newPremium_ended {id : String} {now : ℤ} {db : Db} :
    newPremium id db (endPolicies now driverId db) ≠ some premium := by
  intro hnew
  obtain ⟨hnone, p, hfound, -⟩ := newPremium_eq_some.mp hnew
  rw [(findUnique_endPolicies now driverId db id).mpr hnone] at hfound
  cases hfound

/-- What appears is what is created after the old policies have ended. -/
theorem newPremium_created {id : String} {now : ℤ} {db db' : Db} {q : Policy}
    (hcreate : (endPolicies now driverId db).policies.create q = some db'.policies)
    (hnew : newPremium id db db' = some premium) : q.premium = premium := by
  obtain ⟨hnone, p, hfound, hp⟩ := newPremium_eq_some.mp hnew
  rw [Table.findUnique_create hcreate, (findUnique_endPolicies now driverId db id).mpr hnone]
    at hfound
  split at hfound
  · cases hfound
    exact hp
  · cases hfound

theorem newPremium_createPolicy {id : String} {now : ℤ} {writable : Bool} {db created db' : Db}
    {q : Policy} (hcreate : createPolicy writable q (endPolicies now driverId db) = .ok created)
    (hsame : db'.policies = created.policies) (hnew : newPremium id db db' = some premium) :
    q.premium = premium := by
  obtain ⟨-, policies, hpolicies, rfl⟩ := createPolicy_eq_ok.mp hcreate
  have hrows : db'.policies = policies := hsame
  exact newPremium_created (hpolicies.trans (congrArg some hrows.symm)) hnew

/-! ### Enrolment -/

/-- The tier under which a plan is known is its own. -/
theorem ctForPlan_normalized {plan : Option String} {tier : String}
    (h : normalizePlanTier plan = some tier) : ctForPlan (some tier) = ctForPlan plan := by
  have hknown : ∃ Ct, PLAN_CT.lookup tier = some Ct := by
    unfold normalizePlanTier at h
    split at h
    · cases h
    · rename_i plan
      split at h
      · cases h
      · simp only at h
        generalize JsString.toUpperCase (JsString.trim plan) = normalized at h
        split at h
        · rename_i hlookup
          cases h
          exact Option.isSome_iff_exists.mp hlookup
        · cases h
  obtain ⟨Ct, hCt⟩ := hknown
  obtain ⟨before, after, hmem, -⟩ := List.lookup_eq_some_iff.mp hCt
  have htier : tier ∈ PLAN_CT.map Prod.fst := by simp [hmem]
  have hsame : normalizePlanTier (some tier) = some tier := by
    simp only [PLAN_CT, List.map_cons, List.map_nil, List.mem_cons, List.not_mem_nil, or_false]
      at htier
    rcases htier with rfl | rfl | rfl | rfl
    · decide
    · decide
    · decide
    · decide
  rw [ctForPlan, ctForPlan, hsame, h]

/-- The pipeline's premium, or the bare formula, keeps to the bounds of `Ct`. -/
def EnrolmentFits (cfg : Config) (io : EnrollIo) (driverId : String) (s : System) (Ct : ℚ) : Prop :=
  ∀ profile ∈ io.profile,
    ∀ zone ∈ truthy (resolveH3FromDriverState cfg
        (getDriverState io.redisUp io.now s.redis driverId)).h3Cell,
      match zoneQuote io s.redis zone with
      | (_, _, some premium) => Bounded Ct premium
      | (Lf, _, none) => Roundable Ct
          (resolveWeeklyEarnings profile * PREMIUM_RATE * Lf * Ct * (1 + PREMIUM_MARGIN))

theorem prepareEnroll_bounded_iff {io : EnrollIo} {plan : String} {quote : Quote}
    (h : prepareEnroll cfg io driverId plan s = .ok quote) (hCt : ctForPlan (some plan) = some Ct) :
    Bounded Ct quote.premium ↔ EnrolmentFits cfg io driverId s Ct := by
  obtain ⟨tier, htier, h⟩ := bind_eq_ok.mp h
  obtain ⟨_, -, h⟩ := bind_eq_ok.mp h
  obtain ⟨_, -, h⟩ := bind_eq_ok.mp h
  obtain ⟨_, -, h⟩ := bind_eq_ok.mp h
  obtain ⟨_, -, h⟩ := bind_eq_ok.mp h
  obtain ⟨_, -, h⟩ := bind_eq_ok.mp h
  obtain ⟨profile, hprofile, h⟩ := bind_eq_ok.mp h
  obtain ⟨zone, hzone, h⟩ := bind_eq_ok.mp h
  obtain ⟨_, -, h⟩ := bind_eq_ok.mp h
  obtain ⟨Ct', hCt', h⟩ := bind_eq_ok.mp h
  cases h
  have hfactor := (ctForPlan_normalized (orThrow_eq_ok.mp htier)).trans hCt
  cases hfactor.symm.trans (orThrow_eq_ok.mp hCt')
  change Bounded Ct ((zoneQuote io s.redis zone).2.2.getD
    (computePremium (resolveWeeklyEarnings profile) (zoneQuote io s.redis zone).1 Ct)) ↔ _
  simp only [EnrolmentFits, orThrow_eq_ok.mp hprofile, orThrow_eq_ok.mp hzone, Option.mem_def,
    Option.some.injEq, forall_eq']
  rcases hquote : zoneQuote io s.redis zone with ⟨Lf, zone_state, _ | premium⟩
  · simp only [Option.getD_none]
    exact bounded_round_iff hCt
  · simp only [Option.getD_some]

/-- A sale stores the premium of its policy. -/
theorem premium_of_sells {endOld writable : Bool} {pool : LiquidityPool.Access} {now : ℤ}
    {q : Policy}
    {id : String} {s' : System} (h : Sells endOld writable pool now q s s')
    (hnew : newPremium id s.db s'.db = some premium) : q.premium = premium := by
  cases h with
  | refused _ redis => exact absurd hnew (newPremium_kept rfl)
  | ended _ _ redis => exact absurd hnew newPremium_ended
  | unpaid _ hcreate redis => exact newPremium_createPolicy hcreate rfl hnew
  | paid _ hcreate hpaid redis =>
      exact newPremium_createPolicy hcreate (collect_policies hpaid) hnew

theorem enrollPolicy_stored {io : EnrollIo} {plan id : String}
    (h : newPremium id s.db (enrollPolicy cfg io driverId plan s).2.db = some premium) :
    ∃ quote, prepareEnroll cfg io driverId plan s = .ok quote ∧ quote.premium = premium := by
  unfold enrollPolicy at h
  split at h
  · exact absurd h (newPremium_kept rfl)
  · rename_i quote hquote
    exact ⟨quote, hquote, premium_of_sells (issueEnrolment_sells io driverId quote s) h⟩

/-! ### Renewal -/

theorem renewWeekly_stored {io : RenewIo} {weeklyPlanId id : String}
    (h : newPremium id s.db (renewWeekly io driverId weeklyPlanId s).2.db = some premium) :
    ∃ quote redis, calculateWeeklyPremium io.premium s driverId (some weeklyPlanId) =
      .ok (quote, redis) ∧ quote.premium = premium := by
  cases hquote : weeklyQuote io driverId weeklyPlanId s with
  | error e =>
      rw [renewWeekly, hquote] at h
      exact absurd h (newPremium_kept rfl)
  | ok quoted =>
      obtain ⟨plan, quote, redis⟩ := quoted
      have hpremium : quote.premium = premium := premium_of_sells (renewWeekly_sells hquote) h
      obtain ⟨_, -, hquote⟩ := bind_eq_ok.mp hquote
      obtain ⟨found, hfound, hquote⟩ := bind_eq_ok.mp hquote
      obtain ⟨priced, hpriced, hquote⟩ := bind_eq_ok.mp hquote
      cases hquote
      have hid : plan.id = weeklyPlanId := by
        have hkey := Table.key_of_findUnique (orThrow_eq_ok.mp hfound)
        simpa [WeeklyPlan.keys, eq_comm] using hkey
      exact ⟨quote, redis, hid ▸ hpriced, hpremium⟩

/-- The factor of the plan that a policy belongs to. -/
def planCt (db : Db) (policy : Policy) : Option ℚ :=
  match truthy policy.weeklyPlanId with
  | some planId => resolveCtForPlanId db planId
  | none => ctForPlan (some policy.planType)

/-- A renewal fits as its weekly plan is priced, or as an enrolment. -/
def RenewalFits (cfg : Config) (io : RenewIo) (driverId : String) (s : System) (Ct : ℚ)
    (latest : Policy) : Prop :=
  match truthy latest.weeklyPlanId with
  | some planId => ∀ i ∈ pricingInputs io.premium s driverId (some planId), i.Fits Ct
  | none => EnrolmentFits cfg io.enroll driverId s Ct

theorem renewPolicy_bounded_iff {io : RenewIo} {id : String} {latest : Policy}
    (h : newPremium id s.db (renewPolicy cfg io driverId s).2.db = some premium)
    (hlatest : latestPolicy driverId s.db = some latest) (hCt : planCt s.db latest = some Ct) :
    Bounded Ct premium ↔ RenewalFits cfg io driverId s Ct latest := by
  unfold renewPolicy at h
  unfold planCt at hCt
  unfold RenewalFits
  split at h
  · exact absurd h (newPremium_kept rfl)
  · rename_i renewed hrenewed
    obtain ⟨_, -, hrenewed⟩ := bind_eq_ok.mp hrenewed
    obtain ⟨found, hfound, hrenewed⟩ := bind_eq_ok.mp hrenewed
    obtain ⟨_, -, hrenewed⟩ := bind_eq_ok.mp hrenewed
    cases hrenewed
    cases hlatest.symm.trans (orThrow_eq_ok.mp hfound)
    cases hplan : truthy latest.weeklyPlanId with
    | some planId =>
        simp only [hplan] at h
        obtain ⟨quote, redis, hquote, rfl⟩ := renewWeekly_stored h
        exact quote_bounded_iff hquote
    | none =>
        simp only [hplan] at h hCt
        have hstored : newPremium id s.db
            (enrollPolicy cfg io.enroll driverId latest.planType s).2.db = some premium := by
          rcases henroll :
            enrollPolicy cfg io.enroll driverId latest.planType s with ⟨_ | quote, s'⟩
          · rw [henroll] at h
            exact h
          · rw [henroll] at h
            exact h
        obtain ⟨quote, hquote, rfl⟩ := enrollPolicy_stored hstored
        exact prepareEnroll_bounded_iff hquote hCt

/-! ### The invoice of a cycle -/

theorem ensureCycleInvoice_stored {io : PolicyIo} {now : ℤ} {correlationId mandateId : String}
    {policy : Policy} {b : Books}
    (h : newAmount io.invoiceId b
      (ensureCycleInvoice io now correlationId policy mandateId b).2 = some premium) :
    ∃ quote redis, calculateWeeklyPremium io.premium b.toSystem policy.userId
      policy.weeklyPlanId = .ok (quote, redis) ∧ quote.premium = premium := by
  have hkept : ∀ b' : Books, b'.premiumInvoices = b.premiumInvoices →
      newAmount io.invoiceId b b' ≠ some premium := by
    intro b' hsame
    unfold newAmount
    rw [hsame]
    cases b.premiumInvoices.findUnique (.id io.invoiceId) <;> simp
  have hcases := ensureCycleInvoice_cases io now correlationId policy mandateId b
  rcases hensure : ensureCycleInvoice io now correlationId policy mandateId b with ⟨result, b'⟩
  rw [hensure] at h hcases
  cases hcases with
  | refused e => exact absurd h (hkept _ rfl)
  | existing invoice found => exact absurd h (hkept _ rfl)
  | unmade e redis => exact absurd h (hkept _ rfl)
  | made quote redis premiumInvoices priced created =>
      refine ⟨quote, redis, priced, ?_⟩
      unfold newAmount at h
      split at h
      · cases h
      · rw [Table.findUnique_create created] at h
        simpa [newInvoice] using h

end Stored

/-! ### Purchase -/

/-- No order is lost and none changes its amount. -/
def AmountsKept (db db' : Db) : Prop :=
  ∀ k order, db.razorpayOrders.findUnique k = some order →
    ∃ order', db'.razorpayOrders.findUnique k = some order' ∧ order'.amount = order.amount

section Orders

variable {db db' db'' : Db}

theorem AmountsKept.of_eq (h : db'.razorpayOrders = db.razorpayOrders) : AmountsKept db db' := by
  intro k order hfound
  exact ⟨order, h ▸ hfound, rfl⟩

theorem AmountsKept.trans (h : AmountsKept db db') (h' : AmountsKept db' db'') :
    AmountsKept db db'' := by
  intro k order hfound
  obtain ⟨order', hfound', hamount⟩ := h k order hfound
  obtain ⟨order'', hfound'', hamount'⟩ := h' k order' hfound'
  exact ⟨order'', hfound'', hamount'.trans hamount⟩

theorem amountsKept_markOrder (dto : Payments.VerifyPaymentDto) (order : RazorpayOrder)
    (status : OrderStatus) (db : Db) : AmountsKept db (Payments.markOrder dto order status db) := by
  intro k o hfound
  refine ⟨_, by rw [Payments.markOrder, Table.findUnique_update, hfound]; rfl, ?_⟩
  dsimp only
  split
  · rfl
  · rfl

theorem amountsKept_trackFailure (io : Payments.VerifyIo) (userId : String)
    (dto : Payments.VerifyPaymentDto) (order : RazorpayOrder) (plan : WeeklyPlan) (e : Exn)
    (db : Db) : AmountsKept db (Payments.trackFailure io userId dto order plan e db) := by
  rcases Payments.trackFailure_left io userId dto order plan e db with h | ⟨kafkaDLQ, h⟩
  · rw [h]
    exact .of_eq rfl
  · rw [h]
    exact amountsKept_markOrder dto order .FAILED db

theorem amountsKept_verifyPayment (cfg : Payments.OrderConfig) (io : Payments.VerifyIo)
    (userId : String) (dto : Payments.VerifyPaymentDto) (db : Db) :
    AmountsKept db (Payments.verifyPayment cfg io userId dto db).2 := by
  have hcases := Payments.verifyPayment_cases cfg io userId dto db
  generalize (Payments.verifyPayment cfg io userId dto db).1 = result at hcases
  generalize (Payments.verifyPayment cfg io userId dto db).2 = db' at hcases ⊢
  cases hcases with
  | refused e => exact .of_eq rfl
  | verified order => exact .of_eq rfl
  | invalid order e => exact amountsKept_markOrder dto order .FAILED db
  | failed order plan e => exact amountsKept_trackFailure io userId dto order plan e db
  | lost order plan =>
      exact (AmountsKept.of_eq (replenish_orders _ _ _)).trans
        (amountsKept_trackFailure io userId dto order plan _ _)
  | issued order plan policies reached transaction commit created =>
      exact (amountsKept_markOrder dto order .SUCCESS db).trans (.of_eq (replenish_orders _ _ _))

theorem collect_orders {pool : LiquidityPool.Access} {premium : ℚ}
    (h : collect pool premium db = .ok db') : db'.razorpayOrders = db.razorpayOrders := by
  unfold collect at h
  split at h
  · obtain ⟨_, -, h⟩ := bind_eq_ok.mp h
    cases h
    rfl
  · cases h
    rfl

theorem createPolicy_orders {writable : Bool} {now : ℤ} {userId : String} {policy : Policy}
    (h : createPolicy writable policy (endPolicies now userId db) = .ok db') :
    db'.razorpayOrders = db.razorpayOrders := by
  obtain ⟨-, policies, -, rfl⟩ := createPolicy_eq_ok.mp h
  rfl

theorem razorpayOrders_of_sells {endOld writable : Bool} {pool : LiquidityPool.Access} {now : ℤ}
    {q : Policy} {s s' : System} (h : Sells endOld writable pool now q s s') :
    s'.db.razorpayOrders = s.db.razorpayOrders := by
  cases h with
  | refused _ redis => rfl
  | ended _ _ redis => rfl
  | unpaid _ hcreate redis => exact createPolicy_orders hcreate
  | paid _ hcreate hpaid redis => exact (collect_orders hpaid).trans (createPolicy_orders hcreate)

theorem enrollPolicy_orders (cfg : Config) (io : EnrollIo) (driverId plan : String) (s : System) :
    (enrollPolicy cfg io driverId plan s).2.db.razorpayOrders = s.db.razorpayOrders := by
  unfold enrollPolicy
  split
  · rfl
  · rename_i quote _
    exact razorpayOrders_of_sells (issueEnrolment_sells io driverId quote s)

theorem renewWeekly_orders (io : RenewIo) (driverId weeklyPlanId : String) (s : System) :
    (renewWeekly io driverId weeklyPlanId s).2.db.razorpayOrders = s.db.razorpayOrders := by
  cases hquote : weeklyQuote io driverId weeklyPlanId s with
  | error e =>
      rw [renewWeekly, hquote]
  | ok quoted => exact razorpayOrders_of_sells (renewWeekly_sells hquote)

theorem renewPolicy_orders (cfg : Config) (io : RenewIo) (driverId : String) (s : System) :
    (renewPolicy cfg io driverId s).2.db.razorpayOrders = s.db.razorpayOrders := by
  unfold renewPolicy
  split
  · rfl
  · rename_i latest _
    split
    · exact renewWeekly_orders io driverId _ s
    · have henrolled := enrollPolicy_orders cfg io.enroll driverId latest.planType s
      split
      · rename_i h
        rwa [h] at henrolled
      · rename_i h
        rwa [h] at henrolled

theorem cancelPolicy_orders (io : CancelIo) (driverId : String) (reason : Option String)
    (s : System) : (cancelPolicy io driverId reason s).2.db.razorpayOrders =
      s.db.razorpayOrders := by
  unfold cancelPolicy
  split
  · split
    · rfl
    · split
      · rfl
      · rfl
  · rfl

theorem amountsKept_createOrder (cfg : Payments.OrderConfig) (io : Payments.CreateOrderIo)
    (userId weeklyPlanId : String) (s : System) :
    AmountsKept s.db (Payments.createOrder cfg io userId weeklyPlanId s).2.db := by
  unfold Payments.createOrder
  split
  · exact .of_eq rfl
  · dsimp only
    split
    · exact .of_eq rfl
    · rename_i hinsert
      obtain ⟨_, -, h⟩ := bind_eq_ok.mp hinsert
      obtain ⟨_, -, h⟩ := bind_eq_ok.mp h
      obtain ⟨orders, horders, h⟩ := bind_eq_ok.mp h
      cases h
      exact fun k order hfound =>
        ⟨order, Table.findUnique_create_of_some (orThrow_eq_ok.mp horders) hfound, rfl⟩

/-- In any run of calls. -/
theorem amountsKept_final (cfg : Services) (s : Timed) (calls : List (ℕ × Call)) :
    AmountsKept s.db (Run.final (call cfg) s calls).db := by
  induction calls generalizing s with
  | nil => exact .of_eq rfl
  | cons c calls ih =>
      refine AmountsKept.trans ?_ (ih (call cfg s c))
      obtain ⟨delay, c⟩ := c
      cases c with
      | enrollPolicy io driverId plan => exact .of_eq (enrollPolicy_orders _ _ _ _ _)
      | createOrder io userId weeklyPlanId => exact amountsKept_createOrder _ _ _ _ _
      | verifyPayment io userId dto => exact amountsKept_verifyPayment _ _ _ _ _
      | renewPolicy io driverId delay => exact .of_eq (renewPolicy_orders _ _ _ _)
      | cancelPolicy io driverId reason => exact .of_eq (cancelPolicy_orders _ _ _ _)

variable {s : System} {userId : String} {premium Ct : ℚ}

/-- The amount of the order in paise, under the id that the gateway gave it. -/
theorem createOrder_amount {cfg : Payments.OrderConfig} {io : Payments.CreateOrderIo}
    {weeklyPlanId : String} {created : Payments.GatewayOrder}
    (h : (Payments.createOrder cfg io userId weeklyPlanId s).1 = .ok created) :
    ∃ plan order, s.db.weeklyPlans.findUnique (.id weeklyPlanId) = some plan ∧
      (Payments.createOrder cfg io userId weeklyPlanId s).2.db.razorpayOrders.findUnique
        (.razorpayOrderId created.id) = some order ∧
      order.amount = mathRound ((Payments.orderAmount io userId weeklyPlanId s plan).1 * 100) := by
  unfold Payments.createOrder at h ⊢
  split at h
  · cases h
  · rename_i plan hplan
    obtain ⟨_, -, hplan⟩ := bind_eq_ok.mp hplan
    obtain ⟨found, hfound, hplan⟩ := bind_eq_ok.mp hplan
    obtain ⟨_, -, hplan⟩ := bind_eq_ok.mp hplan
    cases hplan
    dsimp only at h ⊢
    split at h
    · cases h
    · rename_i gatewayOrder db hinsert
      cases h
      obtain ⟨gateway, -, hinsert⟩ := bind_eq_ok.mp hinsert
      obtain ⟨_, -, hinsert⟩ := bind_eq_ok.mp hinsert
      obtain ⟨orders, horders, hinsert⟩ := bind_eq_ok.mp hinsert
      cases hinsert
      refine ⟨plan, Payments.newOrder io userId plan created
        (mathRound ((Payments.orderAmount io userId weeklyPlanId s plan).1 * 100)),
        orThrow_eq_ok.mp hfound, ?_, rfl⟩
      rw [Table.findUnique_create (orThrow_eq_ok.mp horders), if_pos]
      simp [RazorpayOrder.keys, Payments.newOrder]

theorem verifyPayment_stored {cfg : Payments.OrderConfig} {io : Payments.VerifyIo}
    {dto : Payments.VerifyPaymentDto} {id : String}
    (h : newPremium id db (Payments.verifyPayment cfg io userId dto db).2 = some premium) :
    ∃ order, db.razorpayOrders.findUnique (.razorpayOrderId dto.razorpay_order_id) = some order ∧
      (order.amount : ℚ) / 100 = premium := by
  have hcases := Payments.verifyPayment_cases cfg io userId dto db
  generalize (Payments.verifyPayment cfg io userId dto db).1 = result at hcases
  generalize (Payments.verifyPayment cfg io userId dto db).2 = db' at hcases h
  cases hcases with
  | refused e => exact absurd h (newPremium_kept rfl)
  | verified order => exact absurd h (newPremium_kept rfl)
  | invalid order e => exact absurd h (newPremium_kept rfl)
  | failed order plan e => exact absurd h (newPremium_kept (trackFailure_policies _ _ _ _ _ _ _))
  | lost order plan =>
      exact absurd h (newPremium_kept
        ((trackFailure_policies _ _ _ _ _ _ _).trans (replenish_policies _ _ _)))
  | issued order plan policies reached transaction commit created =>
      refine ⟨order, Payments.ownOrder_spec reached.own, ?_⟩
      exact newPremium_created (created.trans (by rw [replenish_policies]; rfl)) h

/-! The order's cap lies above the bounds of every tier, and every quote is in whole paise. -/

theorem le_resolveTierCapForPlanKey (planKey : Option String) :
    100 ≤ Payments.resolveTierCapForPlanKey planKey := by
  unfold Payments.resolveTierCapForPlanKey
  split
  · decide
  · rename_i Ct hCt
    rcases ctForPlan_cases hCt with rfl | rfl | rfl | rfl
    · decide +kernel
    · decide +kernel
    · decide +kernel
    · decide +kernel

theorem mathRound_paise {x : ℚ} {k : ℤ} (h : x = k / 100) :
    (mathRound (x * 100) : ℚ) / 100 = x := by
  have hpaise : x * 100 = (k : ℚ) := by
    rw [h]
    ring
  rw [hpaise, mathRound_intCast, h]

theorem quote_paise {io : PremiumIo} {planId : Option String} {quote : WeeklyPremium}
    {redis : Redis} (h : calculateWeeklyPremium io s userId planId = .ok (quote, redis)) :
    ∃ k : ℤ, quote.premium = k / 100 := by
  obtain ⟨lo, hi, hrange⟩ := quote_range h
  obtain ⟨_, _, _, _, -, -, -, hquotes⟩ := calculateWeeklyPremium_spec h
  rw [hquotes.premium, hrange.floor, hrange.cap]
  unfold applyPremiumBounds
  split
  · exact ⟨lo * 100, by push_cast; ring⟩
  · split
    · exact ⟨hi * 100, by push_cast; ring⟩
    · exact ⟨_, rfl⟩

theorem quote_le {io : PremiumIo} {planId : Option String} {quote : WeeklyPremium}
    {redis : Redis} (h : calculateWeeklyPremium io s userId planId = .ok (quote, redis)) :
    quote.premium ≤ 50 := by
  obtain ⟨lo, hi, hrange⟩ := quote_range h
  obtain ⟨_, _, _, _, -, -, -, hquotes⟩ := calculateWeeklyPremium_spec h
  have hfloor : (lo : ℚ) ≤ 50 := by exact_mod_cast hrange.le.trans hrange.high
  have hcap : (hi : ℚ) ≤ 50 := by exact_mod_cast hrange.high
  rw [hquotes.premium, applyPremiumBounds_eq hrange.floor_le_cap, hrange.floor, hrange.cap]
  exact max_le hfloor ((min_le_right _ _).trans hcap)

/-- An order fits as it is priced or, where it is not, as the plan is listed. -/
def OrderFits (io : Payments.CreateOrderIo) (userId weeklyPlanId : String) (s : System) (Ct : ℚ) :
    Prop :=
  match pricingInputs io.premium s userId (some weeklyPlanId) with
  | some i => i.Fits Ct
  | none => ∀ plan ∈ s.db.weeklyPlans.findUnique (.id weeklyPlanId), Roundable Ct plan.price

theorem orderAmount_bounded_iff {io : Payments.CreateOrderIo} {weeklyPlanId : String}
    {plan : WeeklyPlan} (hplan : s.db.weeklyPlans.findUnique (.id weeklyPlanId) = some plan)
    (hCt : ctForPlan (some plan.key) = some Ct) :
    Bounded Ct ((mathRound ((Payments.orderAmount io userId weeklyPlanId s plan).1 * 100) : ℚ) /
      100) ↔ OrderFits io userId weeklyPlanId s Ct := by
  have hcap := le_resolveTierCapForPlanKey (some plan.key)
  cases hquote : calculateWeeklyPremium io.premium s userId (some weeklyPlanId) with
  | ok quoted =>
      obtain ⟨quote, redis⟩ := quoted
      have hamount : (Payments.orderAmount io userId weeklyPlanId s plan).1 = quote.premium := by
        simp only [Payments.orderAmount, hquote]
        exact min_eq_left (by linarith [quote_le hquote])
      obtain ⟨k, hpaise⟩ := quote_paise hquote
      rw [hamount, mathRound_paise hpaise, quote_bounded_iff hquote, OrderFits,
        pricingInputs_of_quote hquote]
      simp
  | error e =>
      have hamount : (Payments.orderAmount io userId weeklyPlanId s plan).1 =
          min plan.price (Payments.resolveTierCapForPlanKey (some plan.key)) := by
        simp [Payments.orderAmount, hquote]
      obtain ⟨lo, hi, hrange⟩ := ctForPlan_range hCt
      have hlow : (lo : ℚ) ≤ 50 := by exact_mod_cast hrange.le.trans hrange.high
      have hhigh : (hi : ℚ) ≤ 50 := by exact_mod_cast hrange.high
      rw [hamount, bounded_round_iff hCt, OrderFits, pricingInputs_of_error hquote]
      simp only [hplan, Option.mem_def, Option.some.injEq, forall_eq']
      constructor
      · intro h
        have hlt := h.lt_cap
        rw [hrange.cap] at hlt
        refine ⟨h.floor_le.trans (min_le_left _ _), ?_⟩
        rcases min_lt_iff.mp hlt with hprice | hlarge
        · exact hrange.cap ▸ hprice
        · linarith
      · intro h
        refine ⟨le_min h.floor_le ?_, (min_le_left _ _).trans_lt h.lt_cap⟩
        rw [hrange.floor]
        linarith

end Orders

/-! ## The ways to a premium -/

/-- A way by which a premium is stored; between an order and its verification other calls
may run. -/
inductive Issue where
  | enrollPolicy (io : EnrollIo) (driverId plan : String)
  | purchase (order : Payments.CreateOrderIo) (userId weeklyPlanId : String)
      (between : List (ℕ × Call)) (verify : Payments.VerifyIo) (dto : Payments.VerifyPaymentDto)
  | renewPolicy (io : RenewIo) (driverId : String)
  | ensureCycleInvoice (io : PolicyIo) (correlationId : String) (policy : Policy)
      (mandateId : String)

section Issues

variable (cfg : Services) (now : ℤ) (b : Books)

/-- The premium of the policy or of the invoice that is added. -/
def Issue.stores : Issue → Option ℚ
  | enrollPolicy io driverId plan =>
      newPremium io.policyId b.db
        (InsuranceService.enrollPolicy cfg.insurance io driverId plan b.toSystem).2.db
  | purchase order userId weeklyPlanId between verify dto =>
      match (Payments.createOrder cfg.orders order userId weeklyPlanId b.toSystem).1 with
      | .error _ => none
      | .ok created =>
          if dto.razorpay_order_id = created.id then
            let s := Run.final (call cfg) ⟨b.toSystem, now⟩
              ((0, .createOrder order userId weeklyPlanId) :: between)
            newPremium verify.policyId s.db
              (Payments.verifyPayment cfg.orders { verify with now := s.now } userId dto s.db).2
          else none
  | renewPolicy io driverId =>
      let db := (InsuranceService.renewPolicy cfg.insurance io driverId b.toSystem).2.db
      (newPremium io.policyId b.db db).or (newPremium io.enroll.policyId b.db db)
  | ensureCycleInvoice io correlationId policy mandateId =>
      newAmount io.invoiceId b
        (PremiumService.ensureCycleInvoice io now correlationId policy mandateId b).2

/-- The coverage factor of the plan. -/
def Issue.Ct : Issue → Option ℚ
  | enrollPolicy _ _ plan => ctForPlan (some plan)
  | purchase _ _ weeklyPlanId _ _ _ => resolveCtForPlanId b.db weeklyPlanId
  | renewPolicy _ driverId => (latestPolicy driverId b.db).bind (planCt b.db)
  | ensureCycleInvoice _ _ policy _ => planCt b.db policy

/-- What the pricing starts from leads to a premium within the bounds of `Ct`. -/
def Issue.Fits (Ct : ℚ) : Issue → Prop
  | enrollPolicy io driverId _ => EnrolmentFits cfg.insurance io driverId b.toSystem Ct
  | purchase order userId weeklyPlanId _ _ _ => OrderFits order userId weeklyPlanId b.toSystem Ct
  | renewPolicy io driverId => ∀ latest ∈ latestPolicy driverId b.db,
      RenewalFits cfg.insurance io driverId b.toSystem Ct latest
  | ensureCycleInvoice io _ policy _ =>
      ∀ i ∈ pricingInputs io.premium b.toSystem policy.userId policy.weeklyPlanId, i.Fits Ct

variable {cfg now b}

theorem stores_bounded_iff {issue : Issue} {premium Ct : ℚ}
    (hstores : issue.stores cfg now b = some premium) (hCt : issue.Ct b = some Ct) :
    Bounded Ct premium ↔ issue.Fits cfg b Ct := by
  cases issue with
  | enrollPolicy io driverId plan =>
      obtain ⟨quote, hquote, rfl⟩ := enrollPolicy_stored hstores
      exact prepareEnroll_bounded_iff hquote hCt
  | purchase order userId weeklyPlanId between verify dto =>
      simp only [Issue.stores] at hstores
      split at hstores
      · cases hstores
      · rename_i created hcreated
        split at hstores
        · rename_i hid
          obtain ⟨verified, hverified, rfl⟩ := verifyPayment_stored hstores
          obtain ⟨plan, ordered, hplan, hordered, hamount⟩ := createOrder_amount hcreated
          obtain ⟨kept, hkept, hsame⟩ := amountsKept_final cfg
            (call cfg ⟨b.toSystem, now⟩ (0, .createOrder order userId weeklyPlanId)) between _ _
            hordered
          rw [← hid] at hkept
          cases hverified.symm.trans hkept
          rw [hsame, hamount]
          refine orderAmount_bounded_iff hplan ?_
          simpa [Issue.Ct, resolveCtForPlanId, hplan] using hCt
        · cases hstores
  | renewPolicy io driverId =>
      obtain ⟨latest, hlatest, hplan⟩ := Option.bind_eq_some_iff.mp hCt
      have hfits : (Issue.renewPolicy io driverId).Fits cfg b Ct ↔
          RenewalFits cfg.insurance io driverId b.toSystem Ct latest := by
        simp [Issue.Fits, hlatest]
      rw [hfits]
      rcases Option.or_eq_some_iff.mp hstores with h | ⟨-, h⟩
      · exact renewPolicy_bounded_iff h hlatest hplan
      · exact renewPolicy_bounded_iff h hlatest hplan
  | ensureCycleInvoice io correlationId policy mandateId =>
      obtain ⟨quote, redis, hquote, rfl⟩ := ensureCycleInvoice_stored hstores
      exact quote_bounded_iff hquote

end Issues

/-! ## Premiums outside the bounds of the plan -/

namespace Priced

open Sale

def books : Books := { toSystem := start.toSystem }

def enrolled : Issue := .enrollPolicy enrollIo "u1" "STANDARD"

/-- The pipeline asks for its highest premium. -/
def enrolledHigh : Issue :=
  .enrollPolicy { enrollIo with
    pipeline := some ⟨some 1, some "FLOODED", some 150⟩ } "u1" "STANDARD"

def bought : Issue :=
  .purchase orderIo "u1" "wp1" [] verifyIo ⟨"order_1", "pay_1", "order_1|pay_1"⟩

end Priced

open Sale Priced in
theorem enrolled_fits : enrolled.Fits services books (6 / 10) :=
  (stores_bounded_iff (by decide +kernel : enrolled.stores services 0 books = some (693 / 20))
    (by decide +kernel)).mp ⟨by decide +kernel, by decide +kernel⟩

open Sale Priced in
/-- The standard tier costs 25 to 40 rupees; a policy is sold for 150, and one for 20. -/
theorem not_bounded_stores :
    enrolledHigh.stores services 0 books = some 150 ∧ enrolledHigh.Ct books = some (6 / 10) ∧
      ¬Bounded (6 / 10) 150 ∧
      bought.stores services 0 books = some 20 ∧ bought.Ct books = some (6 / 10) ∧
      ¬Bounded (6 / 10) 20 := by
  refine ⟨by decide +kernel, by decide +kernel, fun h => ?_, by decide +kernel,
    by decide +kernel, fun h => ?_⟩
  · exact absurd h.le_cap (by decide +kernel)
  · exact absurd h.floor_le (by decide +kernel)

end Aegis.InsuranceService
