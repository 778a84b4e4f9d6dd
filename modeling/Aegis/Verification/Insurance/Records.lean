import Aegis.Verification.Insurance.Frames
import Aegis.Verification.Payments.Issuing

/-! # The zone in the record of a policy

The zone that a claim is matched against lives in the Redis record of the policy only. For
every operation: what becomes of the unended policies and of the zones in their records. -/

namespace Aegis.InsuranceService

open Outcome RedisState PayoutService
open Payments (storeDown endPolicies weeklyPolicy replenish_policies trackFailure_policies)

/-! ## The record of a policy -/

/-- The zone in the record, as long as the record lives. -/
def zoneIn (redis : Redis) (now : ℤ) (policyId : String) : Option String :=
  (getPolicyState true now redis policyId).bind PolicyState.zone

def Unended (now : ℤ) (p : Policy) : Prop := p.status = .ACTIVE ∧ now < p.endDate

def InForce (now : ℤ) (p : Policy) : Prop := Unended now p ∧ p.startDate ≤ now

instance (now : ℤ) (p : Policy) : Decidable (Unended now p) := inferInstanceAs (Decidable (_ ∧ _))

instance (now : ℤ) (p : Policy) : Decidable (InForce now p) := inferInstanceAs (Decidable (_ ∧ _))

theorem zoneIn_congr {redis redis' : Redis} (h : redis'.policies = redis.policies) (now : ℤ)
    (policyId : String) : zoneIn redis' now policyId = zoneIn redis now policyId := by
  simp [zoneIn, getPolicyState, h]

theorem zoneIn_setPolicyState_self (redis : Redis) (now : ℤ) (policyId : String)
    (payload : PolicyState) :
    zoneIn (setPolicyState true now redis policyId payload) now policyId = payload.zone := by
  have hlive : now < now + POLICY_STATE_TTL * 1000 := by simp [POLICY_STATE_TTL]
  simp [zoneIn, getPolicyState, setPolicyState, get_setEx_self _ _ _ hlive]

theorem zoneIn_setPolicyState_of_ne (redis : Redis) (now : ℤ) {policyId id : String}
    (payload : PolicyState) (h : id ≠ policyId) :
    zoneIn (setPolicyState true now redis policyId payload) now id = zoneIn redis now id := by
  simp [zoneIn, getPolicyState, setPolicyState, get_setEx_of_ne _ _ _ _ _ h]

/-- Writing a record back keeps its zone, and a dead record does not come back with one. -/
theorem zoneIn_touchPolicyState {io : EvaluateIo} (hup : io.redisUp = true) (policy : Policy)
    (Ct : ℚ) (redis : Redis) (id : String) :
    zoneIn (touchPolicyState io policy Ct redis) io.now id = zoneIn redis io.now id := by
  unfold touchPolicyState
  rw [hup]
  by_cases hid : id = policy.id
  · subst hid
    rw [zoneIn_setPolicyState_self]
    cases hrecord : getPolicyState true io.now redis policy.id with
    | none => simp [zoneIn, hrecord]
    | some record => simp [zoneIn, hrecord]
  · rw [zoneIn_setPolicyState_of_ne _ _ _ hid]

/-! ## What an operation does to the unended policies -/

/-- An unended policy was there before and its record has the zone it had, or it is new and
its record has one. -/
def Carries (now : ℤ) (s after : System) : Prop :=
  ∀ p ∈ after.db.policies.rows, Unended now p →
    (p ∈ s.db.policies.rows ∧ zoneIn after.redis now p.id = zoneIn s.redis now p.id) ∨
    (s.db.policies.findUnique p.id = none ∧ (truthy (zoneIn after.redis now p.id)).isSome = true)

theorem carries_of_mem {now : ℤ} {s after : System}
    (hrows : ∀ p ∈ after.db.policies.rows, Unended now p → p ∈ s.db.policies.rows)
    (hzones : ∀ id, zoneIn after.redis now id = zoneIn s.redis now id) : Carries now s after :=
  fun p hp hunended => .inl ⟨hrows p hp hunended, hzones p.id⟩

theorem carries_of_same {now : ℤ} {s after : System} (h : SamePolicies s after) :
    Carries now s after := by
  refine carries_of_mem (fun p hp _ => ?_) (zoneIn_congr h.records now)
  rwa [h.rows] at hp

theorem Carries.trans_same {now : ℤ} {s s' s'' : System} (h : Carries now s s')
    (h' : SamePolicies s' s'') : Carries now s s'' := by
  intro p hp hunended
  rw [h'.rows] at hp
  rw [zoneIn_congr h'.records]
  exact h p hp hunended

/-- Policies that end now are not unended; all others stay as they are. -/
theorem mem_of_mem_endPolicies {now : ℤ} {userId : String} {db : Db} {p : Policy}
    (hp : p ∈ (endPolicies now userId db).policies.rows) (hunended : Unended now p) :
    p ∈ db.policies.rows ∧ p.userId ≠ userId := by
  obtain ⟨r, hr, rfl⟩ := Table.mem_updateMany.mp hp
  by_cases hended : (r.userId = userId && r.status = .ACTIVE && now < r.endDate) = true
  · rw [if_pos hended] at hunended
    exact absurd hunended.2 (lt_irrefl now)
  · rw [if_neg hended] at hunended ⊢
    refine ⟨hr, fun huser => hended ?_⟩
    simp [huser, hunended.1, hunended.2]

theorem findUnique_endPolicies (now : ℤ) (userId : String) (db : Db) (id : String) :
    (endPolicies now userId db).policies.findUnique id = none ↔
      db.policies.findUnique id = none := by
  simp [endPolicies, Table.findUnique_updateMany]

theorem mem_of_mem_create {now : ℤ} {userId : String} {db : Db} {policies : Table Policy.keys}
    {q p : Policy} (hcreate : (endPolicies now userId db).policies.create q = some policies)
    (hp : p ∈ policies.rows) (hunended : Unended now p) :
    (p = q ∧ db.policies.findUnique q.id = none) ∨ (p ∈ db.policies.rows ∧ p.id ≠ q.id) := by
  obtain ⟨hfresh, -⟩ := Table.create_eq_some hcreate
  rcases (Table.mem_create hcreate).mp hp with hold | rfl
  · right
    refine ⟨(mem_of_mem_endPolicies hold hunended).1, fun hid => ?_⟩
    exact hfresh p hold p.id (by simp [Policy.keys]) (by simp [Policy.keys, hid])
  · left
    refine ⟨rfl, (findUnique_endPolicies now userId db p.id).mp ?_⟩
    refine (Table.findUnique_eq_none _ _).mpr fun r hr hid => ?_
    exact hfresh r hr p.id hid (by simp [Policy.keys])

/-! ## The operations -/

section Operations

theorem collect_policies {pool : LiquidityPool.Access} {premium : ℚ} {db db' : Db}
    (h : collect pool premium db = .ok db') : db'.policies = db.policies := by
  unfold collect at h
  split at h
  · obtain ⟨_, -, h⟩ := bind_eq_ok.mp h
    cases h
    rfl
  · cases h
    rfl

theorem prepareEnroll_zone {cfg : Config} {io : EnrollIo} {driverId plan : String} {s : System}
    {quote : Quote} (h : prepareEnroll cfg io driverId plan s = .ok quote) :
    (truthy (some quote.zone)).isSome = true := by
  obtain ⟨_, -, h⟩ := bind_eq_ok.mp h
  obtain ⟨_, -, h⟩ := bind_eq_ok.mp h
  obtain ⟨_, -, h⟩ := bind_eq_ok.mp h
  obtain ⟨_, -, h⟩ := bind_eq_ok.mp h
  obtain ⟨_, -, h⟩ := bind_eq_ok.mp h
  obtain ⟨_, -, h⟩ := bind_eq_ok.mp h
  obtain ⟨_, -, h⟩ := bind_eq_ok.mp h
  obtain ⟨zone, hzone, h⟩ := bind_eq_ok.mp h
  obtain ⟨_, -, h⟩ := bind_eq_ok.mp h
  obtain ⟨_, -, h⟩ := bind_eq_ok.mp h
  cases h
  obtain ⟨-, hne⟩ := Option.filter_eq_some_iff.mp (orThrow_eq_ok.mp hzone)
  simpa [truthy] using hne

/-- Whether the premium of an enrolment that is issued reaches the pool. -/
def PremiumCollected (io : EnrollIo) (quote : Quote) (s : System) : Prop :=
  io.endOld = true → io.createPolicy = true →
    (collect io.pool quote.premium s.db).isOk = true

theorem collect_congr {pool : LiquidityPool.Access} {premium : ℚ} {db db' : Db}
    (h : db'.systemSettings = db.systemSettings) :
    (collect pool premium db').isOk = (collect pool premium db).isOk := by
  unfold collect
  split
  · rw [h]
    cases LiquidityPool.injectPremium pool db.systemSettings premium <;> rfl
  · rfl

theorem endPolicies_carries (now : ℤ) (driverId : String) (s : System) :
    Carries now s { s with db := endPolicies now driverId s.db } :=
  carries_of_mem (fun _ hp hunended => (mem_of_mem_endPolicies hp hunended).1) fun _ => rfl

theorem createPolicy_eq_ok {writable : Bool} {policy : Policy} {db db' : Db} :
    createPolicy writable policy db = .ok db' ↔ writable = true ∧
      ∃ policies, db.policies.create policy = some policies ∧ { db with policies } = db' := by
  simp [createPolicy, bind_eq_ok]

/-- How far the sale of a policy without an order comes: the old policies end, the new one is
created, and its premium is collected. -/
inductive Sells (endOld writable : Bool) (pool : LiquidityPool.Access) (now : ℤ) (policy : Policy)
    (s : System) : System → Prop
  | refused (hend : endOld = false) (redis : Redis) :
      Sells endOld writable pool now policy s { s with redis }
  | ended {e : Exn} (hend : endOld = true)
      (hcreate : createPolicy writable policy (endPolicies now policy.userId s.db) = .error e)
      (redis : Redis) : Sells endOld writable pool now policy s
        { s with db := endPolicies now policy.userId s.db, redis }
  | unpaid {created : Db} (hend : endOld = true)
      (hcreate : createPolicy writable policy (endPolicies now policy.userId s.db) = .ok created)
      (redis : Redis) : Sells endOld writable pool now policy s { s with db := created, redis }
  | paid {created db : Db} (hend : endOld = true)
      (hcreate : createPolicy writable policy (endPolicies now policy.userId s.db) = .ok created)
      (hpaid : collect pool policy.premium created = .ok db) (redis : Redis) :
      Sells endOld writable pool now policy s { s with db, redis }

theorem issueEnrolment_sells (io : EnrollIo) (driverId : String) (quote : Quote) (s : System) :
    Sells io.endOld io.createPolicy io.pool io.now (enrolledPolicy io driverId quote) s
      (issueEnrolment io driverId quote s).2 := by
  rw [issueEnrolment]
  split
  · rename_i hend
    dsimp only
    split
    · rename_i hcreate
      exact .ended hend hcreate s.redis
    · rename_i hcreate
      split
      · exact .unpaid hend hcreate s.redis
      · rename_i hpaid
        exact .paid hend hcreate hpaid _
  · rename_i hend
    exact .refused (Bool.eq_false_iff.mpr hend) s.redis

theorem renewWeekly_sells {io : RenewIo} {driverId weeklyPlanId : String} {s : System}
    {plan : WeeklyPlan} {quote : PremiumService.WeeklyPremium} {redis : Redis}
    (hquote : weeklyQuote io driverId weeklyPlanId s = .ok (plan, quote, redis)) :
    Sells io.endOld io.createPolicy io.pool io.now
      (weeklyPolicy io.now io.policyId driverId plan quote.premium) s
      (renewWeekly io driverId weeklyPlanId s).2 := by
  rw [renewWeekly, hquote]
  dsimp only
  split
  · rename_i hend
    split
    · rename_i hcreate
      exact .ended hend hcreate redis
    · rename_i hcreate
      split
      · exact .unpaid hend hcreate redis
      · rename_i hpaid
        exact .paid hend hcreate hpaid redis
  · rename_i hend
    exact .refused (Bool.eq_false_iff.mpr hend) redis

/-- Of the unended policies only the created one is new. -/
theorem mem_of_createPolicy {now : ℤ} {userId : String} {writable : Bool} {policy p : Policy}
    {db db' : Db} (h : createPolicy writable policy (endPolicies now userId db) = .ok db')
    (hp : p ∈ db'.policies.rows) (hunended : Unended now p) :
    (p = policy ∧ db.policies.findUnique policy.id = none) ∨
    (p ∈ db.policies.rows ∧ p.id ≠ policy.id) := by
  obtain ⟨-, policies, hcreate, rfl⟩ := createPolicy_eq_ok.mp h
  exact mem_of_mem_create hcreate hp hunended

theorem issueEnrolment_carries {io : EnrollIo} {driverId : String} {quote : Quote} {s : System}
    (hup : io.redisUp = true) (hzone : (truthy (some quote.zone)).isSome = true)
    (hcollected : PremiumCollected io quote s) :
    Carries io.now s (issueEnrolment io driverId quote s).2 := by
  unfold issueEnrolment
  split
  · rename_i hend
    dsimp only
    split
    · exact endPolicies_carries io.now driverId s
    · rename_i created hcreate
      have hwrite := (createPolicy_eq_ok.mp hcreate).1
      split
      · rename_i e hfailed
        have hsettings : created.systemSettings = s.db.systemSettings := by
          obtain ⟨-, policies, -, rfl⟩ := createPolicy_eq_ok.mp hcreate
          rfl
        have hok := hcollected hend hwrite
        rw [← collect_congr hsettings, hfailed] at hok
        cases hok
      · rename_i db hpaid
        intro p hp hunended
        rw [collect_policies hpaid] at hp
        rw [hup]
        rcases mem_of_createPolicy hcreate hp hunended with ⟨rfl, hnew⟩ | ⟨hold, hne⟩
        · right
          refine ⟨hnew, ?_⟩
          change (truthy (zoneIn _ io.now io.policyId)).isSome = true
          rw [zoneIn_setPolicyState_self]
          exact hzone
        · left
          exact ⟨hold, zoneIn_setPolicyState_of_ne _ _ _ hne⟩
  · exact carries_of_same (.refl s)

/-- Whether the enrolment, if it is accepted, is paid into the pool. -/
def EnrolmentCollected (cfg : Config) (io : EnrollIo) (driverId plan : String) (s : System) :
    Prop :=
  ∀ quote ∈ (prepareEnroll cfg io driverId plan s).toOption, PremiumCollected io quote s

instance (cfg : Config) (io : EnrollIo) (driverId plan : String) (s : System) :
    Decidable (EnrolmentCollected cfg io driverId plan s) :=
  inferInstanceAs (Decidable (∀ quote ∈ (prepareEnroll cfg io driverId plan s).toOption,
    io.endOld = true → io.createPolicy = true →
      (collect io.pool quote.premium s.db).isOk = true))

theorem enrollPolicy_carries {cfg : Config} {io : EnrollIo} {driverId plan : String} {s : System}
    (hup : io.redisUp = true) (hcollected : EnrolmentCollected cfg io driverId plan s) :
    Carries io.now s (enrollPolicy cfg io driverId plan s).2 := by
  unfold enrollPolicy
  split
  · exact carries_of_same (.refl s)
  · rename_i quote hquote
    refine issueEnrolment_carries hup (prepareEnroll_zone hquote) (hcollected quote ?_)
    rw [hquote]
    rfl

theorem cancelPolicy_carries {io : CancelIo} (hup : io.redisUp = true) (driverId : String)
    (reason : Option String) (s : System) :
    Carries io.now s (cancelPolicy io driverId reason s).2 := by
  unfold cancelPolicy
  split
  · split
    · exact carries_of_same (.refl s)
    · rename_i policy _
      split
      · intro p hp hunended
        obtain ⟨r, hr, rfl⟩ := Table.mem_update.mp hp
        by_cases hcancelled : policy.id ∈ r.keys
        · rw [if_pos hcancelled] at hunended
          obtain ⟨hactive, -⟩ := hunended
          cases hactive
        · rw [if_neg hcancelled]
          left
          have hne : r.id ≠ policy.id := fun hid => hcancelled (by simp [Policy.keys, hid])
          refine ⟨hr, ?_⟩
          rw [hup]
          exact zoneIn_setPolicyState_of_ne _ _ _ hne
      · exact carries_of_same (.refl s)
  · exact carries_of_same (.refl s)

/-- A policy that ends when it begins is never unended. -/
theorem not_unended_weeklyPolicy {now : ℤ} {id userId : String} {plan : WeeklyPlan} {premium : ℚ}
    (hdays : plan.durationDays ≤ 0) : ¬Unended now (weeklyPolicy now id userId plan premium) := by
  intro h
  have hend : now < now + plan.durationDays * Payments.MS_PER_DAY := h.2
  have : plan.durationDays * Payments.MS_PER_DAY ≤ 0 :=
    mul_nonpos_of_nonpos_of_nonneg hdays (by decide)
  omega

theorem setZoneState_policies (up : Bool) (now : ℤ) (redis : Redis) (h3Cell : String)
    (payload : ZoneState) :
    (setZoneState up now redis h3Cell payload).policies = redis.policies := by
  unfold setZoneState
  split <;> rfl

theorem resolveLf_policies (io : PremiumService.PremiumIo) (redis : Redis) (h3Cell : String) :
    (PremiumService.resolveLf io redis h3Cell).2.policies = redis.policies := by
  unfold PremiumService.resolveLf
  dsimp only
  split
  · rfl
  · exact setZoneState_policies _ _ _ _ _

theorem calculateWeeklyPremium_policies {io : PremiumService.PremiumIo} {s : System}
    {driverId : String} {planId : Option String} {quote : PremiumService.WeeklyPremium}
    {redis : Redis}
    (h : PremiumService.calculateWeeklyPremium io s driverId planId = .ok (quote, redis)) :
    redis.policies = s.redis.policies := by
  obtain ⟨⟨profileDriverId, profile⟩, -, h⟩ := bind_eq_ok.mp h
  obtain ⟨coverage, -, h⟩ := bind_eq_ok.mp h
  obtain ⟨h3Cell, -, h⟩ := bind_eq_ok.mp h
  cases h
  exact resolveLf_policies io s.redis h3Cell

/-- Whether the renewal of a weekly plan creates a policy that is in force. -/
def RenewsWeekly (io : RenewIo) (driverId weeklyPlanId : String) (s : System) : Prop :=
  (weeklyQuote io driverId weeklyPlanId s).toOption.any (fun quote =>
    io.endOld && io.createPolicy && 0 < quote.1.durationDays) = true

instance (io : RenewIo) (driverId weeklyPlanId : String) (s : System) :
    Decidable (RenewsWeekly io driverId weeklyPlanId s) := inferInstanceAs (Decidable (_ = true))

theorem renewWeekly_carries {io : RenewIo} {driverId weeklyPlanId : String} {s : System}
    (hnot : ¬RenewsWeekly io driverId weeklyPlanId s) :
    Carries io.now s (renewWeekly io driverId weeklyPlanId s).2 := by
  unfold renewWeekly
  split
  · exact carries_of_same (.refl s)
  · rename_i plan quote redis hquote
    obtain ⟨_, -, h⟩ := bind_eq_ok.mp hquote
    obtain ⟨_, -, h⟩ := bind_eq_ok.mp h
    obtain ⟨⟨_, _⟩, hpremium, h⟩ := bind_eq_ok.mp h
    cases h
    have hredis := zoneIn_congr (calculateWeeklyPremium_policies hpremium) io.now
    split
    · rename_i hend
      dsimp only
      split
      · exact carries_of_mem (fun _ hp hunended => (mem_of_mem_endPolicies hp hunended).1) hredis
      · rename_i created hcreate
        have hwrite := (createPolicy_eq_ok.mp hcreate).1
        have hdays : plan.durationDays ≤ 0 := by
          refine not_lt.mp fun hdays => hnot ?_
          simp [RenewsWeekly, hquote, Except.toOption, hend, hwrite, hdays]
        have hold : ∀ p ∈ created.policies.rows, Unended io.now p → p ∈ s.db.policies.rows := by
          intro p hp hunended
          rcases mem_of_createPolicy hcreate hp hunended with ⟨rfl, -⟩ | ⟨hold, -⟩
          · exact absurd hunended (not_unended_weeklyPolicy hdays)
          · exact hold
        split
        · exact carries_of_mem hold hredis
        · rename_i db hpaid
          refine carries_of_mem (fun p hp hunended => hold p ?_ hunended) hredis
          rwa [collect_policies hpaid] at hp
    · exact carries_of_mem (fun _ hp _ => hp) hredis

/-- Whether a renewal, if it is one of an enrolment, is paid into the pool, and is no
renewal of a weekly plan. -/
def RenewalCarries (cfg : Config) (io : RenewIo) (driverId : String) (s : System) : Prop :=
  ∀ latest ∈ (renewable io driverId s.db).toOption,
    (∀ weeklyPlanId ∈ truthy latest.weeklyPlanId, ¬RenewsWeekly io driverId weeklyPlanId s) ∧
    (truthy latest.weeklyPlanId = none →
      EnrolmentCollected cfg io.enroll driverId latest.planType s)

instance (cfg : Config) (io : RenewIo) (driverId : String) (s : System) :
    Decidable (RenewalCarries cfg io driverId s) :=
  inferInstanceAs (Decidable (∀ latest ∈ (renewable io driverId s.db).toOption,
    (∀ weeklyPlanId ∈ truthy latest.weeklyPlanId, ¬RenewsWeekly io driverId weeklyPlanId s) ∧
    (truthy latest.weeklyPlanId = none →
      EnrolmentCollected cfg io.enroll driverId latest.planType s)))

theorem renewPolicy_carries {cfg : Config} {io : RenewIo} {driverId : String} {s : System}
    (hup : io.enroll.redisUp = true) (hnow : io.enroll.now = io.now)
    (hcarries : RenewalCarries cfg io driverId s) :
    Carries io.now s (renewPolicy cfg io driverId s).2 := by
  unfold renewPolicy
  split
  · exact carries_of_same (.refl s)
  · rename_i latest hlatest
    obtain ⟨hweekly, henrolment⟩ := hcarries latest (by rw [hlatest]; rfl)
    split
    · rename_i weeklyPlanId hid
      exact renewWeekly_carries (hweekly weeklyPlanId hid)
    · rename_i hnone
      have henrolled := enrollPolicy_carries hup (henrolment hnone)
      rw [hnow] at henrolled
      split
      · rename_i h
        rwa [h] at henrolled
      · rename_i h
        rwa [h] at henrolled

theorem createOrder_policies (cfg : Payments.OrderConfig) (io : Payments.CreateOrderIo)
    (userId weeklyPlanId : String) (s : System) :
    SamePolicies s (Payments.createOrder cfg io userId weeklyPlanId s).2 := by
  have hamount : ∀ plan, (Payments.orderAmount io userId weeklyPlanId s plan).2.policies =
      s.redis.policies := by
    intro plan
    unfold Payments.orderAmount
    dsimp only
    split
    · rename_i hpremium
      exact calculateWeeklyPremium_policies hpremium
    · rfl
  unfold Payments.createOrder
  split
  · exact .refl s
  · rename_i plan _
    dsimp only
    split
    · exact ⟨rfl, hamount plan⟩
    · rename_i hinsert
      obtain ⟨_, -, h⟩ := bind_eq_ok.mp hinsert
      obtain ⟨_, -, h⟩ := bind_eq_ok.mp h
      obtain ⟨_, -, h⟩ := bind_eq_ok.mp h
      cases h
      exact ⟨rfl, hamount plan⟩

/-- Whether a payment is verified by issuing a policy that is in force. -/
def Issues (cfg : Payments.OrderConfig) (io : Payments.VerifyIo) (userId : String)
    (dto : Payments.VerifyPaymentDto) (db : Db) : Prop :=
  (Payments.ownOrder io userId dto db).toOption.any (fun order =>
    order.status ≠ .SUCCESS && (Payments.verifyRazorpaySignature cfg dto).toOption = some true &&
      io.transaction && io.commit && (db.weeklyPlans.findUnique (.id order.weeklyPlanId)).any
        fun plan => 0 < plan.durationDays) = true

instance (cfg : Payments.OrderConfig) (io : Payments.VerifyIo) (userId : String)
    (dto : Payments.VerifyPaymentDto) (db : Db) : Decidable (Issues cfg io userId dto db) :=
  inferInstanceAs (Decidable (_ = true))

theorem verifyPayment_mem {cfg : Payments.OrderConfig} {io : Payments.VerifyIo} {userId : String}
    {dto : Payments.VerifyPaymentDto} {p : Policy} {db : Db}
    (hnot : ¬Issues cfg io userId dto db)
    (hp : p ∈ (Payments.verifyPayment cfg io userId dto db).2.policies.rows)
    (hunended : Unended io.now p) : p ∈ db.policies.rows := by
  have hcases := Payments.verifyPayment_cases cfg io userId dto db
  generalize (Payments.verifyPayment cfg io userId dto db).1 = result at hcases
  generalize (Payments.verifyPayment cfg io userId dto db).2 = db' at hcases hp
  cases hcases with
  | refused e => exact hp
  | verified order => exact hp
  | invalid order e => exact hp
  | failed order plan e => rwa [trackFailure_policies] at hp
  | lost order plan => rwa [trackFailure_policies, replenish_policies] at hp
  | issued order plan policies reached transaction commit created =>
      rw [replenish_policies] at hp
      have hdays : plan.durationDays ≤ 0 := by
        refine not_lt.mp fun hdays => hnot ?_
        simp [Issues, reached.own, reached.unsettled, reached.signed, reached.plan,
          Except.toOption, transaction, commit, hdays]
      rcases mem_of_mem_create created hp hunended with ⟨rfl, -⟩ | ⟨hold, -⟩
      · exact absurd hunended (not_unended_weeklyPolicy hdays)
      · exact hold

theorem touchPolicyState_carries {io : EvaluateIo} (hup : io.redisUp = true) (policy : Policy)
    (Ct : ℚ) (s : System) :
    Carries io.now s { s with redis := touchPolicyState io policy Ct s.redis } :=
  carries_of_mem (fun _ hp _ => hp) (zoneIn_touchPolicyState hup policy Ct s.redis)

theorem processInsurance_carries {cfg : Config} {io : EvaluateIo} (hup : io.redisUp = true)
    (driverId : String) (dto : ProcessInsuranceRequestDto) (s : System) :
    Carries io.now s (processInsurance cfg io driverId dto s).2 := by
  unfold processInsurance
  split
  · exact carries_of_same (.refl s)
  · exact carries_of_same (.refl s)
  · rename_i Ew policy _
    dsimp only
    split
    · exact carries_of_same (.refl s)
    · split
      · exact carries_of_same (.refl s)
      · rename_i Ct _
        exact (touchPolicyState_carries hup policy Ct s).trans_same
          (evaluateClaim_policies policy _ Ew Ct s)

end Operations

end Aegis.InsuranceService
