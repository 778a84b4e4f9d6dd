import Aegis.Verification.Insurance.SaleGates

/-! # The buyers of policies

To whom a call can issue a policy, by its gates, and the tables that it writes. -/

namespace Aegis.InsuranceService

open Outcome PayoutService
open Payments (endPolicies weeklyPolicy replenish_policies trackFailure_policies)

/-- All that a sale, a cancellation or an order writes. -/
def OnlySales (s s' : System) : Prop :=
  ∃ policies razorpayOrders systemSettings kafkaDLQ redis,
    s' = { s with
      db := { s.db with policies, razorpayOrders, systemSettings, kafkaDLQ }
      redis }

theorem OnlySales.refl (s : System) : OnlySales s s := ⟨_, _, _, _, _, rfl⟩

theorem OnlySales.trans {s s' s'' : System} (h : OnlySales s s') (h' : OnlySales s' s'') :
    OnlySales s s'' := by
  obtain ⟨_, _, _, _, _, rfl⟩ := h
  obtain ⟨_, _, _, _, _, rfl⟩ := h'
  exact ⟨_, _, _, _, _, rfl⟩

theorem OnlySales.fraudAnalyses {s s' : System} (h : OnlySales s s') :
    s'.db.fraudAnalyses = s.db.fraudAnalyses := by
  obtain ⟨_, _, _, _, _, rfl⟩ := h
  rfl

theorem OnlySales.transfers {s s' : System} (h : OnlySales s s') :
    s'.transfers = s.transfers := by
  obtain ⟨_, _, _, _, _, rfl⟩ := h
  rfl

/-- The driver had the policy before, whatever became of it. -/
def Held (db : Db) (p : Policy) : Prop :=
  ∃ q ∈ db.policies.rows, q.id = p.id ∧ q.userId = p.userId

instance (db : Db) (p : Policy) : Decidable (Held db p) :=
  inferInstanceAs (Decidable (∃ q ∈ db.policies.rows, q.id = p.id ∧ q.userId = p.userId))

/-! ## The gates of each call -/

section Gates

variable (cfg : Config)

/-- The enrolment passes its gates, and can write. -/
def enrols (io : EnrollIo) (driverId plan : String) (s : System) : Bool :=
  (prepareEnroll cfg io driverId plan s).isOk && (io.endOld && io.createPolicy)

def renewsWeekly (io : RenewIo) (driverId weeklyPlanId : String) (s : System) : Bool :=
  (weeklyQuote io driverId weeklyPlanId s).isOk && (io.endOld && io.createPolicy)

def renews (io : RenewIo) (driverId : String) (s : System) : Bool :=
  (renewable io driverId s.db).toOption.any fun latest =>
    match truthy latest.weeklyPlanId with
    | some weeklyPlanId => renewsWeekly io driverId weeklyPlanId s
    | none => enrols cfg io.enroll driverId latest.planType s

/-- The payment is for an open order of a known plan, it is signed, and its transaction commits. -/
def verifies (cfg : Payments.OrderConfig) (io : Payments.VerifyIo) (userId : String)
    (dto : Payments.VerifyPaymentDto) (db : Db) : Bool :=
  (Payments.ownOrder io userId dto db).toOption.any fun order =>
    order.status ≠ .SUCCESS && (Payments.verifyRazorpaySignature cfg dto).toOption = some true &&
      (db.weeklyPlans.findUnique (.id order.weeklyPlanId)).isSome && (io.transaction && io.commit)

/-- The driver to whom the call can issue a policy. -/
def Call.issuesTo (cfg : Services) (now : ℤ) (s : System) : Call → Option String
  | enrollPolicy io driverId plan =>
      if enrols cfg.insurance { io with now } driverId plan s then some driverId else none
  | verifyPayment io userId dto =>
      if verifies cfg.orders { io with now } userId dto s.db then some userId else none
  | renewPolicy io driverId delay =>
      if renews cfg.insurance { io with now, enroll := { io.enroll with now := now + delay } }
          driverId s then some driverId
      else none
  | createOrder .. | cancelPolicy .. => none

end Gates

/-! ## What each call adds -/

section Adds

variable {cfg : Config} {now : ℤ} {holder : String} {db db' : Db} {p q : Policy}

theorem Held.of_mem (hp : p ∈ db.policies.rows) : Held db p := ⟨p, hp, rfl, rfl⟩

theorem held_of_endPolicies (hp : p ∈ (endPolicies now holder db).policies.rows) : Held db p := by
  obtain ⟨q, hq, rfl⟩ := Table.mem_updateMany.mp hp
  refine ⟨q, hq, ?_⟩
  split
  · exact ⟨rfl, rfl⟩
  · exact ⟨rfl, rfl⟩

theorem held_or_created {writable : Bool}
    (h : createPolicy writable q (endPolicies now holder db) = .ok db')
    (hp : p ∈ db'.policies.rows) : Held db p ∨ p = q ∧ writable = true := by
  obtain ⟨hwritable, policies, hcreate, rfl⟩ := createPolicy_eq_ok.mp h
  rcases (Table.mem_create hcreate).mp hp with hold | hnew
  · exact .inl (held_of_endPolicies hold)
  · exact .inr ⟨hnew, hwritable⟩

/-- A sale adds the policy that it creates. -/
theorem Sells.adds {endOld writable : Bool} {pool : LiquidityPool.Access} {s s' : System}
    (h : Sells endOld writable pool now q s s') (hp : p ∈ s'.db.policies.rows) :
    Held s.db p ∨ p = q ∧ endOld = true ∧ writable = true := by
  cases h with
  | refused _ redis => exact .inl (.of_mem hp)
  | ended _ _ redis => exact .inl (held_of_endPolicies hp)
  | unpaid hend hcreate redis =>
      exact (held_or_created hcreate hp).imp_right fun h => ⟨h.1, hend, h.2⟩
  | paid hend hcreate hpaid redis =>
      rw [collect_policies hpaid] at hp
      exact (held_or_created hcreate hp).imp_right fun h => ⟨h.1, hend, h.2⟩

theorem enrollPolicy_adds {io : EnrollIo} {driverId plan : String} {s : System}
    (hp : p ∈ (enrollPolicy cfg io driverId plan s).2.db.policies.rows) :
    Held s.db p ∨ p.userId = driverId ∧ enrols cfg io driverId plan s = true := by
  unfold enrollPolicy at hp
  split at hp
  · exact .inl (.of_mem hp)
  · rename_i quote hquote
    refine ((issueEnrolment_sells io driverId quote s).adds hp).imp_right ?_
    rintro ⟨rfl, hend, hwritable⟩
    exact ⟨rfl, by rw [enrols, hquote, hend, hwritable]; rfl⟩

theorem renewWeekly_adds {io : RenewIo} {driverId weeklyPlanId : String} {s : System}
    (hp : p ∈ (renewWeekly io driverId weeklyPlanId s).2.db.policies.rows) :
    Held s.db p ∨ p.userId = driverId ∧ renewsWeekly io driverId weeklyPlanId s = true := by
  cases hquote : weeklyQuote io driverId weeklyPlanId s with
  | error e =>
      rw [renewWeekly, hquote] at hp
      exact .inl (.of_mem hp)
  | ok quoted =>
      obtain ⟨plan, quote, redis⟩ := quoted
      refine ((renewWeekly_sells hquote).adds hp).imp_right ?_
      rintro ⟨rfl, hend, hwritable⟩
      exact ⟨rfl, by rw [renewsWeekly, hquote, hend, hwritable]; rfl⟩

theorem renewPolicy_adds {io : RenewIo} {driverId : String} {s : System}
    (hp : p ∈ (renewPolicy cfg io driverId s).2.db.policies.rows) :
    Held s.db p ∨ p.userId = driverId ∧ renews cfg io driverId s = true := by
  unfold renewPolicy at hp
  split at hp
  · exact .inl (.of_mem hp)
  · rename_i latest hlatest
    split at hp
    · rename_i weeklyPlanId hid
      refine (renewWeekly_adds hp).imp_right fun h => ⟨h.1, ?_⟩
      simpa [renews, hlatest, Except.toOption, hid] using h.2
    · rename_i hid
      have hrow :
          p ∈ (enrollPolicy cfg io.enroll driverId latest.planType s).2.db.policies.rows := by
        split at hp
        · rename_i h
          rwa [h]
        · rename_i h
          rwa [h]
      refine (enrollPolicy_adds hrow).imp_right fun h => ⟨h.1, ?_⟩
      simpa [renews, hlatest, Except.toOption, hid] using h.2

theorem verifyPayment_adds {cfg : Payments.OrderConfig} {io : Payments.VerifyIo} {userId : String}
    {dto : Payments.VerifyPaymentDto}
    (hp : p ∈ (Payments.verifyPayment cfg io userId dto db).2.policies.rows) :
    Held db p ∨ p.userId = userId ∧ verifies cfg io userId dto db = true := by
  have hcases := Payments.verifyPayment_cases cfg io userId dto db
  generalize (Payments.verifyPayment cfg io userId dto db).1 = result at hcases
  generalize (Payments.verifyPayment cfg io userId dto db).2 = db' at hcases hp
  cases hcases with
  | refused e => exact .inl (.of_mem hp)
  | verified order => exact .inl (.of_mem hp)
  | invalid order e => exact .inl (.of_mem hp)
  | failed order plan e =>
      rw [trackFailure_policies] at hp
      exact .inl (.of_mem hp)
  | lost order plan =>
      rw [trackFailure_policies, replenish_policies] at hp
      exact .inl (.of_mem hp)
  | issued order plan policies reached transaction commit created =>
      rw [replenish_policies] at hp
      rcases (Table.mem_create created).mp hp with hold | rfl
      · exact .inl (held_of_endPolicies hold)
      · refine .inr ⟨rfl, ?_⟩
        simp [verifies, reached.own, reached.unsettled, reached.signed, reached.plan, transaction,
          commit, Except.toOption]

theorem cancelPolicy_adds {io : CancelIo} {driverId : String} {reason : Option String} {s : System}
    (hp : p ∈ (cancelPolicy io driverId reason s).2.db.policies.rows) : Held s.db p := by
  unfold cancelPolicy at hp
  split at hp
  · split at hp
    · exact .of_mem hp
    · split at hp
      · obtain ⟨q, hq, rfl⟩ := Table.mem_update.mp hp
        refine ⟨q, hq, ?_⟩
        split
        · exact ⟨rfl, rfl⟩
        · exact ⟨rfl, rfl⟩
      · exact .of_mem hp
  · exact .of_mem hp

/-- Every policy that a call adds is for the driver whose gates it has passed. -/
theorem Call.serve_adds {cfg : Services} {s : System} {c : Call}
    (hp : p ∈ (c.serve cfg now s).db.policies.rows) :
    Held s.db p ∨ c.issuesTo cfg now s = some p.userId := by
  cases c with
  | enrollPolicy io driverId plan =>
      refine (enrollPolicy_adds hp).imp_right ?_
      rintro ⟨rfl, hgates⟩
      rw [issuesTo, if_pos hgates]
  | createOrder io userId weeklyPlanId =>
      have hsame := (createOrder_policies cfg.orders io userId weeklyPlanId s).rows
      simp only [serve] at hp
      rw [hsame] at hp
      exact .inl (.of_mem hp)
  | verifyPayment io userId dto =>
      refine (verifyPayment_adds hp).imp_right ?_
      rintro ⟨rfl, hgates⟩
      rw [issuesTo, if_pos hgates]
  | renewPolicy io driverId delay =>
      refine (renewPolicy_adds hp).imp_right ?_
      rintro ⟨rfl, hgates⟩
      rw [issuesTo, if_pos hgates]
  | cancelPolicy io driverId reason => exact .inl (cancelPolicy_adds hp)

end Adds

/-! ## What each call leaves alone -/

section Frames

variable {s : System}

theorem createPolicy_frame {writable : Bool} {q : Policy} {now : ℤ} {holder : String}
    {created : Db} (h : createPolicy writable q (endPolicies now holder s.db) = .ok created) :
    OnlySales s { s with db := created } := by
  obtain ⟨-, policies, -, rfl⟩ := createPolicy_eq_ok.mp h
  exact ⟨_, _, _, _, _, rfl⟩

theorem collect_frame {pool : LiquidityPool.Access} {premium : ℚ} {paid : Db}
    (h : collect pool premium s.db = .ok paid) (redis : RedisState.Redis) :
    OnlySales s { s with db := paid, redis } := by
  unfold collect at h
  split at h
  · obtain ⟨_, -, h⟩ := bind_eq_ok.mp h
    cases h
    exact ⟨_, _, _, _, _, rfl⟩
  · cases h
    exact ⟨_, _, _, _, _, rfl⟩

theorem Sells.frame {endOld writable : Bool} {pool : LiquidityPool.Access} {now : ℤ} {q : Policy}
    {s s' : System} (h : Sells endOld writable pool now q s s') : OnlySales s s' := by
  cases h with
  | refused _ redis => exact ⟨_, _, _, _, _, rfl⟩
  | ended _ _ redis => exact ⟨_, _, _, _, _, rfl⟩
  | unpaid _ hcreate redis => exact (createPolicy_frame hcreate).trans ⟨_, _, _, _, _, rfl⟩
  | @paid created _ _ hcreate hpaid redis =>
      exact (createPolicy_frame hcreate).trans (collect_frame hpaid redis)

theorem enrollPolicy_frame (cfg : Config) (io : EnrollIo) (driverId plan : String) (s : System) :
    OnlySales s (enrollPolicy cfg io driverId plan s).2 := by
  unfold enrollPolicy
  split
  · exact .refl s
  · rename_i quote _
    exact (issueEnrolment_sells io driverId quote s).frame

theorem renewWeekly_frame (io : RenewIo) (driverId weeklyPlanId : String) (s : System) :
    OnlySales s (renewWeekly io driverId weeklyPlanId s).2 := by
  cases hquote : weeklyQuote io driverId weeklyPlanId s with
  | error e =>
      rw [renewWeekly, hquote]
      exact .refl s
  | ok quoted => exact (renewWeekly_sells hquote).frame

theorem renewPolicy_frame (cfg : Config) (io : RenewIo) (driverId : String) (s : System) :
    OnlySales s (renewPolicy cfg io driverId s).2 := by
  unfold renewPolicy
  split
  · exact .refl s
  · rename_i latest hlatest
    split
    · exact renewWeekly_frame io driverId _ s
    · have henrolled := enrollPolicy_frame cfg io.enroll driverId latest.planType s
      split
      · rename_i h
        rwa [h] at henrolled
      · rename_i h
        rwa [h] at henrolled

theorem verifyPayment_frame (cfg : Payments.OrderConfig) (io : Payments.VerifyIo) (userId : String)
    (dto : Payments.VerifyPaymentDto) (s : System) :
    OnlySales s { s with db := (Payments.verifyPayment cfg io userId dto s.db).2 } := by
  have hreplenish (paidPremium : ℚ) (s : System) :
      OnlySales s { s with db := Payments.replenish io paidPremium s.db } := by
    unfold Payments.replenish
    split
    · exact ⟨_, _, _, _, _, rfl⟩
    · exact .refl s
  have htrack (order : RazorpayOrder) (plan : WeeklyPlan) (e : Exn) (s : System) :
      OnlySales s { s with db := Payments.trackFailure io userId dto order plan e s.db } := by
    rcases Payments.trackFailure_left io userId dto order plan e s.db with h | ⟨kafkaDLQ, h⟩
    · rw [h]
      exact .refl s
    · rw [h]
      exact ⟨_, _, _, _, _, rfl⟩
  have hcases := Payments.verifyPayment_cases cfg io userId dto s.db
  generalize (Payments.verifyPayment cfg io userId dto s.db).1 = result at hcases
  generalize (Payments.verifyPayment cfg io userId dto s.db).2 = db' at hcases ⊢
  cases hcases with
  | refused e => exact .refl s
  | verified order => exact .refl s
  | invalid order e => exact ⟨_, _, _, _, _, rfl⟩
  | failed order plan e => exact htrack order plan e s
  | lost order plan =>
      exact (hreplenish _ s).trans (htrack order plan Payments.storeDown { s with db := _ })
  | issued order plan policies reached transaction commit created =>
      have hsold : OnlySales s { s with db := Payments.sold dto s.db order policies } :=
        ⟨_, _, _, _, _, rfl⟩
      exact hsold.trans (hreplenish _ { s with db := _ })

theorem createOrder_frame (cfg : Payments.OrderConfig) (io : Payments.CreateOrderIo)
    (userId weeklyPlanId : String) (s : System) :
    OnlySales s (Payments.createOrder cfg io userId weeklyPlanId s).2 := by
  unfold Payments.createOrder
  split
  · exact .refl s
  · dsimp only
    split
    · exact ⟨_, _, _, _, _, rfl⟩
    · rename_i hinsert
      obtain ⟨_, -, hinsert⟩ := bind_eq_ok.mp hinsert
      obtain ⟨_, -, hinsert⟩ := bind_eq_ok.mp hinsert
      obtain ⟨_, -, hinsert⟩ := bind_eq_ok.mp hinsert
      cases hinsert
      exact ⟨_, _, _, _, _, rfl⟩

theorem cancelPolicy_frame (io : CancelIo) (driverId : String) (reason : Option String)
    (s : System) : OnlySales s (cancelPolicy io driverId reason s).2 := by
  unfold cancelPolicy
  split
  · split
    · exact .refl s
    · split
      · exact ⟨_, _, _, _, _, rfl⟩
      · exact .refl s
  · exact .refl s

theorem Call.serve_frame (cfg : Services) (now : ℤ) (s : System) (c : Call) :
    OnlySales s (c.serve cfg now s) := by
  cases c with
  | enrollPolicy io driverId plan => exact enrollPolicy_frame cfg.insurance _ driverId plan s
  | createOrder io userId weeklyPlanId =>
      exact createOrder_frame cfg.orders io userId weeklyPlanId s
  | verifyPayment io userId dto => exact verifyPayment_frame cfg.orders _ userId dto s
  | renewPolicy io driverId delay => exact renewPolicy_frame cfg.insurance _ driverId s
  | cancelPolicy io driverId reason => exact cancelPolicy_frame _ driverId reason s

end Frames

end Aegis.InsuranceService
