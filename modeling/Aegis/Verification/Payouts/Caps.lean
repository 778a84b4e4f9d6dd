import Aegis.Verification.Insurance.Deductible
import Aegis.Verification.Payouts.PhantomApprovals

/-! # The maximum payout of a plan

An amount is fixed by a claim, by the plans page or by a payout that is initiated; the page
alone looks at `maxPayout`. -/

namespace Aegis.Payouts

open Outcome RedisState Number PayoutService PayoutEndpoints PlansService InsuranceService

/-! ## Amounts under a cap -/

/-- The amounts below it are at most `c` once they are rounded to paise. -/
def paiseBound (c : ℚ) : ℚ := (⌊c * 100⌋ + 1 / 2) / 100

theorem paiseBound_pos {c : ℚ} (h : 0 ≤ c) : 0 < paiseBound c := by
  have hfloor : (0 : ℚ) ≤ (⌊c * 100⌋ : ℚ) := by
    exact_mod_cast Int.floor_nonneg.mpr (by linarith)
  rw [paiseBound]
  linarith

theorem round2_le_iff {x c : ℚ} : round2 x ≤ c ↔ x < paiseBound c := round_div_le_iff

theorem amountDue_le_iff {Ew Lf Ct deductible c : ℚ} (hc : 0 ≤ c) :
    amountDue Ew Lf Ct deductible ≤ c ↔ Ew / 7 * Ct * Lf < deductible + paiseBound c := by
  have hpos := paiseBound_pos hc
  rw [amountDue, toFixed2_of_nonneg (le_max_left _ _), round_div_le_iff, max_lt_iff]
  constructor
  · rintro ⟨-, h⟩
    rw [paiseBound]
    linarith
  · intro h
    exact ⟨hpos, by rw [paiseBound] at h; linarith⟩

theorem computeNetPayout_le_iff {amount deductible c : ℚ} (hc : 0 ≤ c) :
    computeNetPayout amount deductible ≤ c ↔ amount ≤ c + deductible := by
  rw [computeNetPayout, max_le_iff]
  constructor
  · rintro ⟨-, h⟩
    linarith
  · intro h
    exact ⟨hc, by linarith⟩

/-! ## The routes -/

/-- A way by which the approved payout of a policy is fixed. -/
inductive Route where
  | claim (cfg : InsuranceService.Config) (io : EvaluateIo) (driverId : String)
      (dto : ProcessInsuranceRequestDto)
  | page (cfg : PlansService.Config) (now : ℤ) (io : ResolveIo) (policy : Policy)
      (disruption : DisruptionEvent) (userId : String)
  | initiate (io : InitiateIo) (user : Principal) (dto : PayoutInitiateDto)

/-- The policy and the payout approved for it: asked of the settlement, or written to the row
by the page. -/
def Route.fixes (s : System) : Route → Option (Policy × ℚ)
  | claim cfg io driverId dto =>
      (handed cfg io driverId dto s).bind fun request =>
        (s.db.policies.findUnique request.policyId).map fun policy =>
          (policy, request.approvedPayout)
  | page cfg now io policy disruption userId =>
      match resolvePayoutForPolicy cfg now io s.db policy disruption userId with
      | .ok (some payout, _) =>
          if Payments.rowOf s.db policy.id disruption.id = some payout then none
          else payout.approvedPayout.map fun amount => (policy, amount)
      | _ => none
  | initiate io user dto =>
      match prepareInitiate io user dto s with
      | .ok request =>
          (s.db.policies.findUnique request.policyId).map fun policy =>
            (policy, request.approvedPayout)
      | .error _ => none

/-- The earnings, the expected payout or the stored amount are low enough for the cap. -/
def Route.Within (s : System) (policy : Policy) (maxPayout : ℚ) : Route → Prop
  | claim cfg io driverId dto =>
      ∀ profile ∈ io.profile, ∀ calculated ∈ activePolicy io.calculate.now s.db driverId,
        ∀ Ct ∈ ctForPlan (some calculated.planType),
          givenOr (resolveWeeklyEarnings profile)
              (io.calculate.profile.weeklyEarningsTotal.getD 0) / 7 * Ct *
            givenOr (zoneLossFraction cfg io driverId dto s.redis)
              (driverLf io.calculate (payoutState cfg io driverId dto s).redis driverId) <
          resolveDeductible (some calculated.planType) +
            paiseBound (maxPayout + resolveDeductible (some policy.planType))
  | page _ _ _ policy disruption _ =>
      min (disruption.expectedPayout.getD 0 * tierWeight s.db policy) maxPayout <
        paiseBound maxPayout
  | initiate _ _ dto =>
      ∀ row ∈ s.db.payouts.findUnique (.id dto.claimId),
        (row.approvedPayout.or row.estimatedLoss).getD 0 ≤ maxPayout

section Routes

variable {s : System} {policy : Policy} {amount maxPayout : ℚ}

theorem claim_capped_iff {cfg : InsuranceService.Config} {io : EvaluateIo} {driverId : String}
    {dto : ProcessInsuranceRequestDto}
    (hfixes : (Route.claim cfg io driverId dto).fixes s = some (policy, amount))
    (hmax : 0 < maxPayout) :
    amount ≤ maxPayout ↔ (Route.claim cfg io driverId dto).Within s policy maxPayout := by
  obtain ⟨request, hhanded, hfound⟩ := Option.bind_eq_some_iff.mp hfixes
  obtain ⟨paid, hpaid, hpair⟩ := Option.map_eq_some_iff.mp hfound
  cases hpair
  cases hprofile : io.profile with
  | none =>
      obtain ⟨call, hcall, -⟩ := Option.bind_eq_some_iff.mp hhanded
      simp [payoutCall, claimedPolicy, hprofile, orThrow] at hcall
  | some profile =>
      obtain ⟨calculated, paid', Ct, due, h⟩ := handed_spec hprofile hhanded
      cases hpaid.symm.trans h.found
      have hdeductible := resolveDeductible_nonneg (some policy.planType)
      rw [h.asked, computeNetPayout_le_iff hmax.le, h.amount,
        amountDue_le_iff (by linarith)]
      simp [Route.Within, hprofile, h.inForce, h.tier]

/-- The row that the page shows is the stored one, or carries the amount that the page fixed. -/
theorem resolvePayoutForPolicy_row {cfg : PlansService.Config} {now : ℤ} {io : ResolveIo}
    {db db' : Db}
    {shown : Policy} {disruption : DisruptionEvent} {userId : String} {payout : Payout}
    (h : resolvePayoutForPolicy cfg now io db shown disruption userId = .ok (some payout, db')) :
    Payments.rowOf db shown.id disruption.id = some payout ∨
      payout.approvedPayout = some (approvedPayout db shown disruption) := by
  rw [resolvePayoutForPolicy] at h
  split at h
  · cases h
  · obtain ⟨_, -, h⟩ := bind_eq_ok.mp h
    cases hrow : Payments.rowOf db shown.id disruption.id with
    | none =>
        rw [Payments.rowOf] at hrow
        simp only [hrow] at h
        obtain ⟨_, -, h⟩ := bind_eq_ok.mp h
        obtain ⟨payouts, -, h⟩ := bind_eq_ok.mp h
        cases h
        exact .inr rfl
    | some row =>
        rw [Payments.rowOf] at hrow
        simp only [hrow] at h
        split at h
        · obtain ⟨_, -, h⟩ := bind_eq_ok.mp h
          cases h
          exact .inr rfl
        · cases h
          exact .inl rfl

theorem page_capped_iff {cfg : PlansService.Config} {now : ℤ} {io : ResolveIo} {shown : Policy}
    {disruption : DisruptionEvent} {userId : String} {plan : WeeklyPlan}
    (hfixes : (Route.page cfg now io shown disruption userId).fixes s = some (policy, amount))
    (hplan : weeklyPlanOf s.db policy = some plan) (hmax : 0 < plan.maxPayout) :
    amount ≤ plan.maxPayout ↔
      (Route.page cfg now io shown disruption userId).Within s policy plan.maxPayout := by
  have hamount : policy = shown ∧ amount = approvedPayout s.db shown disruption := by
    simp only [Route.fixes] at hfixes
    split at hfixes
    · rename_i payout db hresolve
      by_cases hkept : Payments.rowOf s.db shown.id disruption.id = some payout
      · simp [hkept] at hfixes
      · rw [if_neg hkept] at hfixes
        obtain ⟨_, hpayout, hpair⟩ := Option.map_eq_some_iff.mp hfixes
        cases hpair
        have hfixed := (resolvePayoutForPolicy_row hresolve).resolve_left hkept
        exact ⟨rfl, Option.some.inj (hpayout.symm.trans hfixed)⟩
    · cases hfixes
  obtain ⟨rfl, rfl⟩ := hamount
  rw [approvedPayout, round2_le_iff, hplan]
  simp [Route.Within, hmax]

theorem initiate_capped_iff {io : InitiateIo} {user : Principal} {dto : PayoutInitiateDto}
    (hfixes : (Route.initiate io user dto).fixes s = some (policy, amount)) :
    amount ≤ maxPayout ↔ (Route.initiate io user dto).Within s policy maxPayout := by
  simp only [Route.fixes] at hfixes
  split at hfixes
  · rename_i request hprepare
    obtain ⟨paid, -, hpair⟩ := Option.map_eq_some_iff.mp hfixes
    cases hpair
    obtain ⟨_, -, h⟩ := bind_eq_ok.mp hprepare
    obtain ⟨row, hrow, h⟩ := bind_eq_ok.mp h
    obtain ⟨owned, -, h⟩ := bind_eq_ok.mp h
    obtain ⟨_, -, h⟩ := bind_eq_ok.mp h
    cases h
    simp [Route.Within, orThrow_eq_ok.mp hrow]
  · cases hfixes

/-- On every route the cap holds exactly for amounts that are low enough by themselves. -/
theorem capped_iff {route : Route} {plan : WeeklyPlan}
    (hfixes : route.fixes s = some (policy, amount))
    (hplan : weeklyPlanOf s.db policy = some plan) (hmax : 0 < plan.maxPayout) :
    amount ≤ plan.maxPayout ↔ route.Within s policy plan.maxPayout := by
  cases route with
  | claim cfg io driverId dto => exact claim_capped_iff hfixes hmax
  | page cfg now io shown disruption userId => exact page_capped_iff hfixes hplan hmax
  | initiate io user dto => exact initiate_capped_iff hfixes

end Routes

/-! ## A plan that pays at most 100 rupees -/

namespace Caps

def plan (maxPayout : ℚ) : WeeklyPlan where
  id := "wp1"
  key := "ELITE"
  name := "Elite"
  price := 45
  maxPayout := maxPayout
  durationDays := 7
  eligibleDisruptionTypes := ["RAIN"]

def policy : Policy :=
  { InsuranceService.Cleared.policy with planType := "ELITE", weeklyPlanId := some "wp1" }

/-- The driver's zone is halted, and a row over 400 rupees is open. -/
def system (maxPayout : ℚ) : System :=
  { Halted.store "ELITE" with
    db := { (Halted.store "ELITE").db with
      policies := .singleton policy
      weeklyPlans := .singleton (plan maxPayout)
      payouts := .singleton
        { Ungated.row with id := "po0", disruptionEventId := "e0", approvedPayout := some 400 } } }

/-- The driver's claim comes to 640 rupees. -/
def claim : Route := .claim Cleared.services Halted.io "u1" {}

/-- The page shows the policy for an event with an expected payout of 800 rupees. -/
def page : Route :=
  .page ⟨{}, fun _ _ => ""⟩ Cleared.now ((Sample.purchasedIo .unavailable).resolve "p1") policy
    { Cleared.event with expectedPayout := some 800 } "u1"

def initiation : Route :=
  .initiate ⟨Cleared.now, true, true, Payments.Sample.io⟩ ⟨"u1", .DRIVER⟩ ⟨none, "po0"⟩

end Caps

open Caps in
/-- The page keeps the amount at 100 rupees. -/
theorem capped_page : ∃ amount, page.fixes (system 100) = some (policy, amount) ∧ amount ≤ 100 := by
  have hfixes : page.fixes (system 100) = some (policy, 100) := by decide +kernel
  have hplan : weeklyPlanOf (system 100).db policy = some (plan 100) := by decide
  have hwithin : page.Within (system 100) policy (plan 100).maxPayout := by
    simp only [page, Route.Within]
    decide +kernel
  have hmax : (0 : ℚ) < (plan 100).maxPayout := by decide
  exact ⟨100, hfixes, (capped_iff hfixes hplan hmax).mpr hwithin⟩

open Caps in
/-- A claim settles 640 rupees and an old row 400; a cap of 100.006 rupees is rounded up. -/
theorem not_capped :
    claim.fixes (system 100) = some (policy, 640) ∧
      initiation.fixes (system 100) = some (policy, 400) ∧
      page.fixes (system (100006 / 1000)) = some (policy, 10001 / 100) ∧
      ¬(640 : ℚ) ≤ (plan 100).maxPayout ∧ ¬(400 : ℚ) ≤ (plan 100).maxPayout ∧
      ¬(10001 / 100 : ℚ) ≤ (plan (100006 / 1000)).maxPayout := by
  decide +kernel

end Aegis.Payouts
