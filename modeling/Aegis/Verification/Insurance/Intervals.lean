import Aegis.Verification.Insurance.Coverage
import Mathlib

/-! # The intervals of cover

Runs of the operations that end and start policies. Cover that ends now is cut short, and
cover that is sold now begins now or later. -/

namespace Aegis.InsuranceService

open Outcome PayoutService
open Payments (endPolicies weeklyPolicy MS_PER_DAY replenish_policies trackFailure_policies)

/-! ## Cover -/

/-- The half-open interval in which the policy covers its holder. -/
def cover (p : Policy) : Set ℤ := Set.Ico p.startDate p.endDate

def activePolicies (db : Db) (userId : String) : Set Policy :=
  {p | p ∈ db.policies.rows ∧ p.userId = userId ∧ p.status = .ACTIVE}

/-- No instant is covered twice, and one policy at most is not over. -/
structure Apart (now : ℤ) (db : Db) (userId : String) : Prop where
  disjoint : (activePolicies db userId).PairwiseDisjoint cover
  latest : {p ∈ activePolicies db userId | now < p.endDate}.Subsingleton

theorem activePolicies_congr {db db' : Db} (h : db'.policies = db.policies) (userId : String) :
    activePolicies db' userId = activePolicies db userId := by
  simp [activePolicies, h]

theorem Apart.congr {now : ℤ} {db db' : Db} {userId : String} (hs : Apart now db userId)
    (h : db'.policies = db.policies) : Apart now db' userId := by
  have hactive := activePolicies_congr h userId
  exact ⟨hactive ▸ hs.disjoint, hactive ▸ hs.latest⟩

theorem Apart.later {now now' : ℤ} {db : Db} {userId : String} (hs : Apart now db userId)
    (h : now ≤ now') : Apart now' db userId :=
  ⟨hs.disjoint, hs.latest.anti fun _ hp => ⟨hp.1, lt_of_le_of_lt h hp.2⟩⟩

/-- Rows that keep their holder and shrink their cover stay apart. -/
theorem Apart.of_shrinks {now : ℤ} {db db' : Db} {userId : String} (hs : Apart now db userId)
    (f : Policy → Policy) (hrows : ∀ p ∈ activePolicies db' userId,
      ∃ q ∈ activePolicies db userId, f q = p ∧ cover p ⊆ cover q ∧
        (now < p.endDate → p = q)) : Apart now db' userId := by
  constructor
  · intro p hp p' hp' hne
    obtain ⟨q, hq, hfq, hsub, -⟩ := hrows p hp
    obtain ⟨q', hq', hfq', hsub', -⟩ := hrows p' hp'
    have hneq : q ≠ q' := by
      rintro rfl
      exact hne (hfq.symm.trans hfq')
    exact (hs.disjoint hq hq' hneq).mono hsub hsub'
  · rintro p ⟨hp, hend⟩ p' ⟨hp', hend'⟩
    obtain ⟨q, hq, -, -, hkeep⟩ := hrows p hp
    obtain ⟨q', hq', -, -, hkeep'⟩ := hrows p' hp'
    obtain rfl := hkeep hend
    obtain rfl := hkeep' hend'
    exact hs.latest ⟨hq, hend⟩ ⟨hq', hend'⟩

theorem disjoint_cover {p q : Policy} (h : p.endDate ≤ q.startDate) :
    Disjoint (cover p) (cover q) := by
  rw [Set.disjoint_left]
  intro t hp hq
  have hlt : t < p.endDate := hp.2
  have hle : q.startDate ≤ t := hq.1
  omega

/-! ## What ends and starts cover -/

theorem Apart.ends {now : ℤ} {db : Db} {userId : String} (holder : String)
    (hs : Apart now db userId) : Apart now (endPolicies now holder db) userId := by
  refine hs.of_shrinks
    (fun q => if (q.userId = holder && q.status = .ACTIVE && now < q.endDate) = true
    then { q with endDate := now } else q) ?_
  rintro p ⟨hp, huser, hactive⟩
  obtain ⟨q, hq, rfl⟩ := Table.mem_updateMany.mp hp
  by_cases hended : (q.userId = holder && q.status = .ACTIVE && now < q.endDate) = true
  · rw [if_pos hended] at huser hactive ⊢
    refine ⟨q, ⟨hq, huser, hactive⟩, if_pos hended, ?_, ?_⟩
    · simp only [Bool.and_eq_true, decide_eq_true_eq] at hended
      exact Set.Ico_subset_Ico_right hended.2.le
    · intro hend
      exact absurd hend (lt_irrefl now)
  · rw [if_neg hended] at huser hactive ⊢
    exact ⟨q, ⟨hq, huser, hactive⟩, if_neg hended, subset_rfl, fun _ => rfl⟩

theorem endDate_le_of_endPolicies {now : ℤ} {db : Db} {userId : String} {p : Policy}
    (hp : p ∈ activePolicies (endPolicies now userId db) userId) : p.endDate ≤ now := by
  obtain ⟨hrow, huser, hactive⟩ := hp
  by_contra hend
  exact (mem_of_mem_endPolicies hrow ⟨hactive, not_le.mp hend⟩).2 huser

/-- A sale after the old cover has ended: the new policy is the only one that is not over. -/
theorem Apart.sell {now : ℤ} {db db' : Db} {userId : String} {q : Policy}
    (hs : Apart now db userId) (hstart : now ≤ q.startDate)
    (hsold : (endPolicies now q.userId db).policies.create q = some db'.policies) :
    Apart now db' userId := by
  have hended : Apart now (endPolicies now q.userId db) userId := hs.ends q.userId
  have hcases : ∀ p ∈ activePolicies db' userId, p = q ∧ q.userId = userId ∨
      p ∈ activePolicies (endPolicies now q.userId db) userId := by
    rintro p ⟨hp, huser, hactive⟩
    rcases (Table.mem_create hsold).mp hp with hold | rfl
    · exact .inr ⟨hold, huser, hactive⟩
    · exact .inl ⟨rfl, huser⟩
  have hbefore : q.userId = userId →
      ∀ p ∈ activePolicies (endPolicies now q.userId db) userId,
        p.endDate ≤ now := by
    rintro rfl p hp
    exact endDate_le_of_endPolicies hp
  constructor
  · intro p hp p' hp' hne
    rcases hcases p hp with ⟨rfl, howner⟩ | hold
    · rcases hcases p' hp' with ⟨rfl, -⟩ | hold'
      · exact absurd rfl hne
      · exact (disjoint_cover ((hbefore howner p' hold').trans hstart)).symm
    · rcases hcases p' hp' with ⟨rfl, howner⟩ | hold'
      · exact disjoint_cover ((hbefore howner p hold).trans hstart)
      · exact hended.disjoint hold hold' hne
  · rintro p ⟨hp, hend⟩ p' ⟨hp', hend'⟩
    rcases hcases p hp with ⟨rfl, howner⟩ | hold
    · rcases hcases p' hp' with ⟨rfl, -⟩ | hold'
      · rfl
      · exact absurd hend' (not_lt.mpr (hbefore howner p' hold'))
    · rcases hcases p' hp' with ⟨rfl, howner⟩ | hold'
      · exact absurd hend (not_lt.mpr (hbefore howner p hold))
      · exact hended.latest ⟨hold, hend⟩ ⟨hold', hend'⟩

theorem Apart.cancel {now : ℤ} {db db' : Db} {userId policyId : String}
    (hs : Apart now db userId)
    (h : db'.policies = db.policies.update policyId
      ⟨fun p => { p with status := .CANCELLED, endDate := now }, fun _ => rfl⟩) :
    Apart now db' userId := by
  refine hs.of_shrinks id ?_
  rintro p ⟨hp, huser, hactive⟩
  rw [h] at hp
  obtain ⟨q, hq, rfl⟩ := Table.mem_update.mp hp
  by_cases hcancelled : policyId ∈ q.keys
  · rw [if_pos hcancelled] at hactive
    cases hactive
  · rw [if_neg hcancelled] at huser hactive ⊢
    exact ⟨q, ⟨hq, huser, hactive⟩, rfl, subset_rfl, fun _ => rfl⟩

/-! ## The operations -/

/-- What an operation at the given time does to the policies. -/
inductive Trades (now : ℤ) (db db' : Db) : Prop
  | kept (same : db'.policies = db.policies)
  | ended (holder : String) (ends : db'.policies = (endPolicies now holder db).policies)
  | sold (q : Policy) (start : now ≤ q.startDate)
      (sold : (endPolicies now q.userId db).policies.create q = some db'.policies)
  | cancelled (policyId : String) (cancelled : db'.policies = db.policies.update policyId
      ⟨fun p => { p with status := .CANCELLED, endDate := now }, fun _ => rfl⟩)

theorem Apart.trades {now : ℤ} {db db' : Db} {userId : String} (hs : Apart now db userId)
    (h : Trades now db db') : Apart now db' userId := by
  cases h with
  | kept same => exact hs.congr same
  | ended holder ends => exact (hs.ends holder).congr ends
  | sold q start sold => exact hs.sell start sold
  | cancelled policyId cancelled => exact hs.cancel cancelled

section Operations

theorem createPolicy_trades {writable : Bool} {q : Policy} {now : ℤ} {db created db' : Db}
    (hstart : now ≤ q.startDate)
    (hcreate : createPolicy writable q (endPolicies now q.userId db) = .ok created)
    (hsame : db'.policies = created.policies) : Trades now db db' := by
  obtain ⟨-, policies, hpolicies, rfl⟩ := createPolicy_eq_ok.mp hcreate
  exact .sold q hstart (hsame ▸ hpolicies)

/-- The crash points of a sale: before the old cover ends, before the new policy is created, and
before its premium is in the pool. -/
theorem Sells.trades {endOld writable : Bool} {pool : LiquidityPool.Access} {now : ℤ} {q : Policy}
    {s s' : System} (h : Sells endOld writable pool now q s s') (hstart : now ≤ q.startDate) :
    Trades now s.db s'.db := by
  cases h with
  | refused _ redis => exact .kept rfl
  | ended _ _ redis => exact .ended q.userId rfl
  | unpaid _ hcreate redis => exact createPolicy_trades hstart hcreate rfl
  | paid _ hcreate hpaid redis => exact createPolicy_trades hstart hcreate (collect_policies hpaid)

theorem enrollPolicy_trades (cfg : Config) (io : EnrollIo) (driverId plan : String) (s : System) :
    Trades io.now s.db (enrollPolicy cfg io driverId plan s).2.db := by
  unfold enrollPolicy
  split
  · exact .kept rfl
  · rename_i quote _
    have hstart : io.now ≤ (enrolledPolicy io driverId quote).startDate := by
      have hday : (0 : ℤ) ≤ MS_PER_DAY := by decide
      simp only [enrolledPolicy]
      omega
    exact (issueEnrolment_sells io driverId quote s).trades hstart

theorem renewWeekly_trades (io : RenewIo) (driverId weeklyPlanId : String) (s : System) :
    Trades io.now s.db (renewWeekly io driverId weeklyPlanId s).2.db := by
  cases hquote : weeklyQuote io driverId weeklyPlanId s with
  | error e =>
      rw [renewWeekly, hquote]
      exact .kept rfl
  | ok quoted => exact (renewWeekly_sells hquote).trades le_rfl

/-- A renewal acts at its own time, or at the later one of its enrolment. -/
theorem renewPolicy_trades (cfg : Config) (io : RenewIo) (driverId : String) (s : System) :
    Trades io.now s.db (renewPolicy cfg io driverId s).2.db ∨
      Trades io.enroll.now s.db (renewPolicy cfg io driverId s).2.db := by
  unfold renewPolicy
  split
  · exact .inl (.kept rfl)
  · rename_i latest hlatest
    split
    · rename_i weeklyPlanId hid
      exact .inl (renewWeekly_trades io driverId weeklyPlanId s)
    · right
      have henrolled := enrollPolicy_trades cfg io.enroll driverId latest.planType s
      split
      · rename_i h
        rwa [h] at henrolled
      · rename_i h
        rwa [h] at henrolled

/-- The transaction of a verification sells its policy or leaves the policies alone. -/
theorem verifyPayment_trades (cfg : Payments.OrderConfig) (io : Payments.VerifyIo)
    (userId : String) (dto : Payments.VerifyPaymentDto) (db : Db) :
    Trades io.now db (Payments.verifyPayment cfg io userId dto db).2 := by
  have hcases := Payments.verifyPayment_cases cfg io userId dto db
  generalize (Payments.verifyPayment cfg io userId dto db).1 = result at hcases
  generalize (Payments.verifyPayment cfg io userId dto db).2 = db' at hcases ⊢
  cases hcases with
  | refused e => exact .kept rfl
  | verified order => exact .kept rfl
  | invalid order e => exact .kept rfl
  | failed order plan e => exact .kept (trackFailure_policies _ _ _ _ _ _ _)
  | lost order plan =>
      exact .kept ((trackFailure_policies _ _ _ _ _ _ _).trans (replenish_policies _ _ _))
  | issued order plan policies reached transaction commit created =>
      refine .sold (weeklyPolicy io.now io.policyId userId plan (order.amount / 100)) le_rfl ?_
      rw [replenish_policies]
      exact created

theorem cancelPolicy_trades (io : CancelIo) (driverId : String) (reason : Option String)
    (s : System) : Trades io.now s.db (cancelPolicy io driverId reason s).2.db := by
  unfold cancelPolicy
  split
  · split
    · exact .kept rfl
    · rename_i policy _
      split
      · exact .cancelled policy.id rfl
      · exact .kept rfl
  · exact .kept rfl

end Operations

/-! ## Runs -/

/-- A call, by the operation and what it meets; a renewal by enrolment takes some time to
come to the sale. -/
inductive Call where
  | enrollPolicy (io : EnrollIo) (driverId plan : String)
  | createOrder (io : Payments.CreateOrderIo) (userId weeklyPlanId : String)
  | verifyPayment (io : Payments.VerifyIo) (userId : String) (dto : Payments.VerifyPaymentDto)
  | renewPolicy (io : RenewIo) (driverId : String) (delay : ℕ)
  | cancelPolicy (io : CancelIo) (driverId : String) (reason : Option String)

def Call.delay : Call → ℕ
  | renewPolicy _ _ delay => delay
  | _ => 0

/-- The system and the time of its last call. -/
structure Timed extends System where
  now : ℤ

section Run

variable (cfg : Services)

def Call.serve (now : ℤ) (s : System) : Call → System
  | enrollPolicy io driverId plan =>
      (InsuranceService.enrollPolicy cfg.insurance { io with now } driverId plan s).2
  | createOrder io userId weeklyPlanId =>
      (Payments.createOrder cfg.orders io userId weeklyPlanId s).2
  | verifyPayment io userId dto =>
      { s with db := (Payments.verifyPayment cfg.orders { io with now } userId dto s.db).2 }
  | renewPolicy io driverId delay =>
      (InsuranceService.renewPolicy cfg.insurance
        { io with now, enroll := { io.enroll with now := now + delay } } driverId s).2
  | cancelPolicy io driverId reason =>
      (InsuranceService.cancelPolicy { io with now } driverId reason s).2

/-- A call after some time has passed. -/
def call (s : Timed) (c : ℕ × Call) : Timed where
  toSystem := c.2.serve cfg (s.now + c.1) s.toSystem
  now := s.now + c.1 + c.2.delay

/-- The cover of every holder stays apart. -/
def AllApart (s : Timed) : Prop := ∀ userId, Apart s.now s.db userId

variable {cfg}

theorem Call.serve_trades (now : ℤ) (s : System) (c : Call) :
    Trades now s.db (c.serve cfg now s).db ∨
      Trades (now + c.delay) s.db (c.serve cfg now s).db := by
  cases c with
  | enrollPolicy io driverId plan =>
      exact .inl (enrollPolicy_trades cfg.insurance { io with now } driverId plan s)
  | createOrder io userId weeklyPlanId =>
      exact .inl (.kept (createOrder_policies cfg.orders io userId weeklyPlanId s).rows)
  | verifyPayment io userId dto =>
      exact .inl (verifyPayment_trades cfg.orders { io with now } userId dto s.db)
  | renewPolicy io driverId delay =>
      exact renewPolicy_trades cfg.insurance
        { io with now, enroll := { io.enroll with now := now + delay } } driverId s
  | cancelPolicy io driverId reason =>
      exact .inl (cancelPolicy_trades { io with now } driverId reason s)

theorem call_allApart {s : Timed} (c : ℕ × Call) (hs : AllApart s) : AllApart (call cfg s c) := by
  intro userId
  have hwaited : Apart (s.now + c.1) s.db userId := (hs userId).later (by omega)
  have hnow : (call cfg s c).now = s.now + c.1 + c.2.delay := rfl
  rcases c.2.serve_trades (s.now + c.1) s.toSystem with h | h
  · exact (hwaited.trades h).later (by omega)
  · exact (hwaited.later (by omega)).trades h

/-- Cover never overlaps, in any run from a state in which it does not. -/
theorem always_allApart {s : Timed} (calls : List (ℕ × Call)) (hs : AllApart s) :
    Run.Always (call cfg) AllApart s calls :=
  Run.always_of_step (fun _ c hs _ => call_allApart c hs) hs
    (Run.along_of_forall (fun _ _ => trivial) s)

end Run

open Sale in
/-- An enrolment, the purchase of a plan an hour later, and a renewal that crashes after it
has ended the old cover. -/
theorem always_allApart_sales :
    Run.Always (call services) AllApart ⟨start.toSystem, 0⟩
      [(0, .enrollPolicy enrollIo "u1" "STANDARD"), (3600000, .createOrder orderIo "u1" "wp1"),
        (0, .verifyPayment { verifyIo with policyId := "p2" } "u1"
          ⟨"order_1", "pay_1", "order_1|pay_1"⟩),
        (590000000, .renewPolicy
          ⟨0, true, true, orderIo.premium, true, "p3", false, .available, enrollIo⟩ "u1" 0)] := by
  refine always_allApart _ fun userId => ⟨?_, ?_⟩
  · intro p hp
    exact absurd hp.1 List.not_mem_nil
  · intro p hp
    exact absurd hp.1.1 List.not_mem_nil

end Aegis.InsuranceService
