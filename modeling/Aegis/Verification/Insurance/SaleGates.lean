import Aegis.Verification.Insurance.Intervals

/-! # The gates of a sale

Enrolment checks the driver's standing and the load of the portfolio. A plan that is bought
or renewed comes to an ACTIVE policy by another way. -/

namespace Aegis.InsuranceService

open Outcome PayoutService Eligibility

/-! ## The gates -/

/-- The driver is eligible for the plan when the policy is sold, and the portfolio bears it. -/
structure GatesHeld (env : Env) (db : Db) (p : Policy) : Prop where
  eligible : (assertDriverPolicyEligibility env true p.createdAt db p.userId
    (some p.planType)).isOk = true
  bearable : lossRatio db ≤ 85 / 100

/-- An account that is verified and, where the gate is enforced, known to a platform or with
its KYC approved, the consent given and the days worked. -/
structure GoodStanding (env : Env) (db : Db) (p : Policy) (user : User) : Prop where
  verified : user.isVerified = true
  vetted : isEligibilityEnforced env = true → isOAuthUser user = false →
    (db.kycProfiles.findUnique p.userId).map KYCProfile.status = some .APPROVED ∧
      (db.kycPayoutSetups.findUnique p.userId).map KYCPayoutSetup.financialDataConsent =
        some true ∧
      resolveRequiredEngagementDays (some p.planType) ≤
        resolveEngagementDaysSince user.createdAt p.createdAt

/-- What the rows of the store have to say for the gates to hold. -/
structure Qualified (env : Env) (db : Db) (p : Policy) : Prop where
  account : ∃ user, db.users.findUnique (.id p.userId) = some user ∧ GoodStanding env db p user
  load : (db.payouts.rows.map fun r => r.approvedPayout.getD 0).sum * 100 ≤
      (db.policies.rows.map Policy.premium).sum * 85 ∨
    (db.policies.rows.map Policy.premium).sum ≤ 0

section Gates

variable {env : Env} {db : Db} {p : Policy}

theorem lossRatio_le_iff : lossRatio db ≤ 85 / 100 ↔
    (db.payouts.rows.map fun r => r.approvedPayout.getD 0).sum * 100 ≤
      (db.policies.rows.map Policy.premium).sum * 85 ∨
    (db.policies.rows.map Policy.premium).sum ≤ 0 := by
  simp only [lossRatio]
  generalize (db.payouts.rows.map fun r => r.approvedPayout.getD 0).sum = paid
  generalize (db.policies.rows.map Policy.premium).sum = collected
  by_cases hpos : 0 < collected
  · rw [if_pos hpos, div_le_iff₀ hpos]
    constructor
    · intro h
      left
      linarith
    · rintro (h | h)
      · linarith
      · exact absurd hpos (not_lt.mpr h)
  · rw [if_neg hpos]
    constructor
    · intro _
      exact .inr (not_lt.mp hpos)
    · intro _
      norm_num

theorem goodStanding_iff {now : ℤ} {userId : String} {planKey : Option String} :
    (assertDriverPolicyEligibility env true now db userId planKey).isOk = true ↔
      ∃ user, db.users.findUnique (.id userId) = some user ∧ user.isVerified = true ∧
        (isEligibilityEnforced env = true → isOAuthUser user = false →
          (db.kycProfiles.findUnique userId).map KYCProfile.status = some .APPROVED ∧
            (db.kycPayoutSetups.findUnique userId).map KYCPayoutSetup.financialDataConsent =
              some true ∧
            resolveRequiredEngagementDays planKey ≤
              resolveEngagementDaysSince user.createdAt now) := by
  rw [isOk_iff]
  constructor
  · rintro ⟨standing, h⟩
    obtain ⟨_, -, h⟩ := bind_eq_ok.mp h
    obtain ⟨user, hfound, h⟩ := bind_eq_ok.mp h
    obtain ⟨_, hverified, h⟩ := bind_eq_ok.mp h
    refine ⟨user, orThrow_eq_ok.mp hfound, require_eq_ok.mp hverified, fun henforced hplain => ?_⟩
    rw [if_pos henforced, if_neg (by simp [hplain])] at h
    obtain ⟨_, hkyc, h⟩ := bind_eq_ok.mp h
    obtain ⟨_, hconsent, h⟩ := bind_eq_ok.mp h
    obtain ⟨_, hdays, -⟩ := bind_eq_ok.mp h
    exact ⟨require_eq_ok.mp hkyc, require_eq_ok.mp hconsent, require_eq_ok.mp hdays⟩
  · rintro ⟨user, hfound, hverified, hvetted⟩
    simp only [assertDriverPolicyEligibility, hfound, hverified, require, orThrow, if_true, ok_bind]
    by_cases henforced : isEligibilityEnforced env = true
    · rw [if_pos henforced]
      by_cases hoauth : isOAuthUser user = true
      · rw [if_pos hoauth]
        exact ⟨_, rfl⟩
      · obtain ⟨hkyc, hconsent, hdays⟩ := hvetted henforced (by simpa using hoauth)
        rw [if_neg hoauth, if_pos hkyc, if_pos hconsent, if_pos hdays]
        exact ⟨_, rfl⟩
    · rw [if_neg henforced]
      exact ⟨_, rfl⟩

theorem gatesHeld_iff_qualified : GatesHeld env db p ↔ Qualified env db p := by
  constructor
  · intro h
    obtain ⟨user, hfound, hverified, hvetted⟩ := goodStanding_iff.mp h.eligible
    exact ⟨⟨user, hfound, hverified, hvetted⟩, lossRatio_le_iff.mp h.bearable⟩
  · intro h
    obtain ⟨user, hfound, hstanding⟩ := h.account
    exact ⟨goodStanding_iff.mpr ⟨user, hfound, hstanding.verified, hstanding.vetted⟩,
      lossRatio_le_iff.mpr h.load⟩

end Gates

/-! ## The ways to an ACTIVE policy -/

/-- A sale; between the order and its verification other calls may run. -/
inductive Selling where
  | enrollPolicy (io : EnrollIo) (driverId plan : String)
  | purchase (order : Payments.CreateOrderIo) (weeklyPlanId : String) (between : List (ℕ × Call))
      (verify : Payments.VerifyIo) (userId : String) (dto : Payments.VerifyPaymentDto)
  | renewPolicy (io : RenewIo) (driverId : String) (delay : ℕ)

section Sales

variable (cfg : Services)

/-- The state in which the policy is issued. -/
def Selling.moment (s : Timed) : Selling → Timed
  | enrollPolicy .. | renewPolicy .. => s
  | purchase order weeklyPlanId between _ userId _ =>
      Run.final (call cfg) s ((0, .createOrder order userId weeklyPlanId) :: between)

/-- The last call of the sale. -/
def Selling.issues : Selling → Call
  | enrollPolicy io driverId plan => .enrollPolicy io driverId plan
  | purchase _ _ _ verify userId dto => .verifyPayment verify userId dto
  | renewPolicy io driverId delay => .renewPolicy io driverId delay

/-- Whether every call of the sale succeeds. -/
def Selling.succeeds (s : Timed) : Selling → Bool
  | enrollPolicy io driverId plan =>
      (InsuranceService.enrollPolicy cfg.insurance { io with now := s.now } driverId plan
        s.toSystem).1.isOk
  | purchase order weeklyPlanId between verify userId dto =>
      let t := (purchase order weeklyPlanId between verify userId dto).moment cfg s
      (Payments.createOrder cfg.orders order userId weeklyPlanId s.toSystem).1.isOk &&
        (Payments.verifyPayment cfg.orders { verify with now := t.now } userId dto t.db).1.isOk
  | renewPolicy io driverId delay =>
      (InsuranceService.renewPolicy cfg.insurance
        { io with now := s.now, enroll := { io.enroll with now := s.now + delay } } driverId
        s.toSystem).1.isOk

/-- The ACTIVE policy that a successful sale has added to the store. -/
def Selling.Sells (s : Timed) (sale : Selling) (p : Policy) : Prop :=
  sale.succeeds cfg s = true ∧ p.status = .ACTIVE ∧
    (sale.moment cfg s).db.policies.findUnique p.id = none ∧
    (sale.issues.serve cfg (sale.moment cfg s).now
      (sale.moment cfg s).toSystem).db.policies.findUnique p.id = some p

/-- The sale goes through `enrollPolicy`: so does the renewal of a policy that no weekly plan
belongs to. -/
def Selling.Enrols (s : Timed) : Selling → Prop
  | enrollPolicy .. => True
  | purchase .. => False
  | renewPolicy io driverId _ => ∀ latest ∈ (renewable { io with now := s.now } driverId
      s.db).toOption, truthy latest.weeklyPlanId = none

instance (s : Timed) (sale : Selling) (p : Policy) : Decidable (sale.Sells cfg s p) :=
  inferInstanceAs (Decidable (_ ∧ _))

variable {cfg} {s : Timed} {p : Policy}

theorem prepareEnroll_gates {cfg : Config} {io : EnrollIo} {driverId plan : String} {s : System}
    {quote : Quote} (h : prepareEnroll cfg io driverId plan s = .ok quote) :
    GatesHeld cfg.payout.eligibility s.db (enrolledPolicy io driverId quote) := by
  obtain ⟨tier, -, h⟩ := bind_eq_ok.mp h
  obtain ⟨_, -, h⟩ := bind_eq_ok.mp h
  obtain ⟨_, -, h⟩ := bind_eq_ok.mp h
  obtain ⟨standing, heligible, h⟩ := bind_eq_ok.mp h
  obtain ⟨_, -, h⟩ := bind_eq_ok.mp h
  obtain ⟨_, hload, h⟩ := bind_eq_ok.mp h
  obtain ⟨_, -, h⟩ := bind_eq_ok.mp h
  obtain ⟨_, -, h⟩ := bind_eq_ok.mp h
  obtain ⟨_, -, h⟩ := bind_eq_ok.mp h
  obtain ⟨_, -, h⟩ := bind_eq_ok.mp h
  cases h
  exact ⟨Payouts.eligible_of_readable heligible, require_eq_ok.mp hload⟩

/-- What an enrolment has added is the policy it was quoted for. -/
theorem enrollPolicy_added {cfg : Config} {io : EnrollIo} {driverId plan : String} {s : System}
    (hok : (enrollPolicy cfg io driverId plan s).1.isOk = true)
    (hnew : s.db.policies.findUnique p.id = none)
    (hfound : (enrollPolicy cfg io driverId plan s).2.db.policies.findUnique p.id = some p) :
    GatesHeld cfg.payout.eligibility s.db p := by
  unfold enrollPolicy at hok hfound
  split at hok
  · cases hok
  · rename_i quote hquote
    simp only [hquote] at hfound
    unfold issueEnrolment at hok hfound
    by_cases hend : io.endOld = true
    · simp only [hend, if_true] at hok hfound
      split at hok
      · cases hok
      · rename_i created hcreate
        simp only [hcreate] at hfound
        split at hok
        · cases hok
        · rename_i db hpaid
          simp only [hpaid, collect_policies hpaid] at hfound
          obtain ⟨-, policies, hpolicies, rfl⟩ := createPolicy_eq_ok.mp hcreate
          rcases (Table.mem_create hpolicies).mp (Table.mem_of_findUnique hfound) with hold | rfl
          · have hbefore := (findUnique_endPolicies io.now driverId s.db p.id).mpr hnew
            exact absurd (by simp [Policy.keys]) ((Table.findUnique_eq_none _ _).mp hbefore p hold)
          · exact prepareEnroll_gates hquote
    · simp only [hend] at hok
      cases hok

/-- The renewal of a policy without a weekly plan is an enrolment. -/
theorem renewPolicy_unlinked {cfg : Config} {io : RenewIo} {driverId : String} {s : System}
    {latest : Policy} (hlatest : renewable io driverId s.db = .ok latest)
    (hnone : truthy latest.weeklyPlanId = none) :
    (renewPolicy cfg io driverId s).1.isOk =
        (enrollPolicy cfg io.enroll driverId latest.planType s).1.isOk ∧
      (renewPolicy cfg io driverId s).2 =
        (enrollPolicy cfg io.enroll driverId latest.planType s).2 := by
  simp only [renewPolicy, hlatest, hnone]
  cases enrollPolicy cfg io.enroll driverId latest.planType s with
  | mk result after =>
      cases result with
      | error e => exact ⟨rfl, rfl⟩
      | ok quote => exact ⟨rfl, rfl⟩

theorem renewPolicy_isOk {cfg : Config} {io : RenewIo} {driverId : String} {s : System}
    (hok : (renewPolicy cfg io driverId s).1.isOk = true) :
    ∃ latest, renewable io driverId s.db = .ok latest := by
  cases hlatest : renewable io driverId s.db with
  | error e =>
      simp only [renewPolicy, hlatest] at hok
      cases hok
  | ok latest => exact ⟨latest, rfl⟩

theorem Selling.Enrols.gatesHeld {sale : Selling} (henrols : sale.Enrols s)
    (h : sale.Sells cfg s p) :
    GatesHeld cfg.insurance.payout.eligibility (sale.moment cfg s).db p := by
  obtain ⟨hok, -, hnew, hfound⟩ := h
  cases sale with
  | enrollPolicy io driverId plan => exact enrollPolicy_added hok hnew hfound
  | purchase order weeklyPlanId between verify userId dto => exact absurd henrols id
  | renewPolicy io driverId delay =>
      obtain ⟨latest, hlatest⟩ := renewPolicy_isOk hok
      have hsame : renewable { io with now := s.now } driverId s.db = .ok latest := hlatest
      have hnone : truthy latest.weeklyPlanId = none := henrols latest (by rw [hsame]; rfl)
      obtain ⟨hresult, hstate⟩ := renewPolicy_unlinked hlatest hnone
      exact enrollPolicy_added (hresult.symm.trans hok) hnew (hstate ▸ hfound)

/-- A sale outside enrolment passes the gates only where the rows would have let it. -/
theorem gatesHeld_iff {sale : Selling} (h : sale.Sells cfg s p) :
    GatesHeld cfg.insurance.payout.eligibility (sale.moment cfg s).db p ↔
      sale.Enrols s ∨ Qualified cfg.insurance.payout.eligibility (sale.moment cfg s).db p := by
  constructor
  · intro hgates
    exact .inr (gatesHeld_iff_qualified.mp hgates)
  · rintro (henrols | hqualified)
    · exact henrols.gatesHeld h
    · exact gatesHeld_iff_qualified.mpr hqualified

end Sales

/-! ## A plan bought past the gates -/

namespace Sale

open Payments.Sample

def enrolling : Selling := .enrollPolicy enrollIo "u1" "STANDARD"

def enrolled : Policy :=
  enrolledPolicy enrollIo "u1" ⟨"STANDARD", 6 / 10, 7000, 5 / 10, "UNKNOWN", 693 / 20, cell⟩

def buying : Selling :=
  .purchase orderIo "wp1" [] verifyIo "u1" ⟨"order_1", "pay_1", "order_1|pay_1"⟩

def bought : Policy := Payments.weeklyPolicy 0 "p1" "u1" plan 20

/-- The driver has not confirmed the address. -/
def unverified : Timed where
  toSystem := { start.toSystem with
    db := { start.db with users := .singleton { user with isVerified := false } } }
  now := 0

/-- Another driver's policy has cost ten times its premium. -/
def overloaded : Timed where
  toSystem := { start.toSystem with
    db := { start.db with
      policies := .singleton { policy with id := "p0", userId := "u0" }
      payouts := .singleton { Payouts.Ungated.row with policyId := "p0" } } }
  now := 0

end Sale

open Sale in
theorem gatesHeld_enrolled : GatesHeld {} start.db enrolled :=
  (gatesHeld_iff (by decide +kernel : enrolling.Sells services ⟨start.toSystem, 0⟩ enrolled)).mpr
    (.inl trivial)

open Sale in
/-- A plan is sold to a driver who is not verified, and in a portfolio over its limit. -/
theorem not_gatesHeld_bought :
    buying.Sells services unverified bought ∧ ¬GatesHeld {} unverified.db bought ∧
      buying.Sells services overloaded bought ∧ ¬GatesHeld {} overloaded.db bought := by
  refine ⟨by decide +kernel, fun h => ?_, by decide +kernel, fun h => ?_⟩
  · exact absurd h.eligible (by decide)
  · exact absurd h.bearable (by decide +kernel)

end Aegis.InsuranceService
