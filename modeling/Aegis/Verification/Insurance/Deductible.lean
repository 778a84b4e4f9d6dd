import Aegis.Verification.Insurance.FailClosed
import Aegis.Verification.Insurance.PayoutCalls

/-! # The deductible of a claim

`calculatePayout` subtracts the tier's deductible, and so does `processPayout` from the
amount it is given. -/

namespace Aegis.InsuranceService

open Outcome RedisState Number PayoutService

/-! ## Rounding -/

theorem toFixed2_of_nonneg {x : ℚ} (h : 0 ≤ x) : toFixed2 x = (mathRound (x * 100) : ℚ) / 100 :=
  if_neg (not_lt.mpr h)

theorem toFixed2_nonneg {x : ℚ} (h : 0 ≤ x) : 0 ≤ toFixed2 x := by
  have hround : (0 : ℤ) ≤ mathRound (x * 100) := Int.floor_nonneg.mpr (by linarith)
  have hcast : (0 : ℚ) ≤ (mathRound (x * 100) : ℚ) := by exact_mod_cast hround
  rw [toFixed2_of_nonneg h]
  linarith

/-- An amount rounds to nothing below half a paisa. -/
theorem toFixed2_eq_zero {x : ℚ} (h : 0 ≤ x) : toFixed2 x = 0 ↔ x < 1 / 200 := by
  have hround : toFixed2 x = 0 ↔ mathRound (x * 100) = 0 := by
    rw [toFixed2_of_nonneg h, div_eq_zero_iff]
    simp
  rw [hround, mathRound, Int.floor_eq_zero_iff, Set.mem_Ico]
  constructor
  · rintro ⟨-, hlt⟩
    linarith
  · intro hlt
    constructor
    · linarith
    · linarith

/-- A deductible takes nothing from an amount exactly when one of the two is zero. -/
theorem computeNetPayout_eq_self {amount deductible : ℚ} (hamount : 0 ≤ amount)
    (hdeductible : 0 ≤ deductible) :
    computeNetPayout amount deductible = amount ↔ deductible = 0 ∨ amount = 0 := by
  rw [computeNetPayout]
  constructor
  · intro h
    by_cases hzero : deductible = 0
    · exact .inl hzero
    · have hpos : 0 < deductible := lt_of_le_of_ne hdeductible (Ne.symm hzero)
      right
      rcases max_choice 0 (amount - deductible) with hmax | hmax
      · rw [← h, hmax]
      · rw [hmax] at h
        linarith
  · rintro (rfl | rfl)
    · rw [sub_zero]
      exact max_eq_right hamount
    · exact max_eq_left (by linarith)

theorem resolveDeductible_nonneg (planType : Option String) : 0 ≤ resolveDeductible planType := by
  simp only [resolveDeductible]
  split
  · norm_num [DEDUCTIBLE_BASIC_INR]
  · split
    · norm_num [DEDUCTIBLE_STANDARD_INR]
    · norm_num [DEDUCTIBLE_PREMIUM_INR]

/-! ## The property -/

/-- The evaluation, the calculation and the payout read one clock. -/
def EvaluateIo.atOnce (io : EvaluateIo) : EvaluateIo :=
  { io with
    calculate := { io.calculate with now := io.now }
    process := { io.process with now := io.now } }

section Handed

variable (cfg : Config) (io : EvaluateIo) (driverId : String) (dto : ProcessInsuranceRequestDto)

/-- What goes to `processParametricPayout` when the claim reaches the payout branch and no
payout of its event is on record. -/
def handed (s : System) : Option Payments.ParametricPayoutDto :=
  (payoutCall cfg io driverId dto s).bind fun call =>
    settlementAsked cfg.payout io.process call.1 call.2

/-- `max(0, Ew/7 * Ct * Lf - deductible)`, rounded to paise. -/
def amountDue (Ew Lf Ct deductible : ℚ) : ℚ := toFixed2 (max 0 (Ew / 7 * Ct * Lf - deductible))

theorem amountDue_nonneg (Ew Lf Ct deductible : ℚ) : 0 ≤ amountDue Ew Lf Ct deductible :=
  toFixed2_nonneg (le_max_left _ _)

theorem amountDue_eq_zero {Ew Lf Ct deductible : ℚ} :
    amountDue Ew Lf Ct deductible = 0 ↔ Ew / 7 * Ct * Lf < deductible + 1 / 200 := by
  rw [amountDue, toFixed2_eq_zero (le_max_left _ _), max_lt_iff]
  constructor
  · rintro ⟨-, h⟩
    linarith
  · intro h
    exact ⟨by norm_num, by linarith⟩

/-- The settlement is asked for the amount due, and so much is reported to the caller. -/
structure DeductedOnce (due : ℚ) (s : System) (request : Payments.ParametricPayoutDto) : Prop where
  handed : request.approvedPayout = due
  reported : ∃ report, (processInsurance cfg io driverId dto s).1 = .ok report ∧
    report.payout = request.approvedPayout

end Handed

section Once

variable {cfg : Config} {io : EvaluateIo} {driverId : String} {dto : ProcessInsuranceRequestDto}
  {s s' : System} {params : ProcessPayoutParams}

theorem claimedPolicy_spec {profile : DriverProfile} {db : Db} {Ew : ℚ} {policy : Option Policy}
    (hprofile : io.profile = some profile)
    (h : claimedPolicy io driverId db = .ok (Ew, policy)) :
    Ew = resolveWeeklyEarnings profile ∧
      PremiumService.unendedPolicy io.now db driverId = policy := by
  rw [claimedPolicy] at h
  obtain ⟨found, hfound, h⟩ := bind_eq_ok.mp h
  obtain ⟨_, -, h⟩ := bind_eq_ok.mp h
  rw [orThrow_eq_ok, hprofile] at hfound
  cases hfound
  cases h
  exact ⟨rfl, rfl⟩

/-- The record that is written back is not the zone's. -/
theorem zoneLossFraction_touched (policy : Policy) (Ct : ℚ) (redis : Redis) :
    zoneLossFraction cfg io driverId dto (touchPolicyState io policy Ct redis) =
      zoneLossFraction cfg io driverId dto redis := by
  have hplace : position cfg io driverId dto (touchPolicyState io policy Ct redis) =
      position cfg io driverId dto redis :=
    position_congr (touchPolicyState_drivers policy Ct redis)
  have hzones : (touchPolicyState io policy Ct redis).zones = redis.zones :=
    touchPolicyState_zones policy Ct redis
  simp only [zoneLossFraction, hplace, getZoneState, hzones]

/-- The payout call of a claim is for the driver's newest unended policy and carries the
amount calculated for the driver. -/
theorem payoutCall_spec {profile : DriverProfile} (hprofile : io.profile = some profile)
    (h : payoutCall cfg io driverId dto s = some (params, s')) :
    ∃ policy e Ct calculation,
      PremiumService.unendedPolicy io.now s.db driverId = some policy ∧
      calculatePayout io.calculate s' ⟨driverId, some (resolveWeeklyEarnings profile),
        some (zoneLossFraction cfg io driverId dto s.redis), some Ct⟩ = .ok calculation ∧
      params = claimParams io driverId dto policy e calculation.payoutAmount ∧
      s'.db.policies = s.db.policies := by
  rw [payoutCall] at h
  split at h
  · rename_i Ew policy hclaimed
    obtain ⟨rfl, hunended⟩ := claimedPolicy_spec hprofile hclaimed
    split at h
    · rename_i standing Ct _ _
      have hpolicies : SamePolicies { s with redis := touchPolicyState io policy Ct s.redis }
          (gatherEvidence cfg io driverId dto policy
            { s with redis := touchPolicyState io policy Ct s.redis }).2 :=
        gatherEvidence_policies policy _
      simp only [claimPayoutCall, zoneLossFraction_touched] at h
      split at h
      · cases h
      · split at h
        · cases h
        · rename_i calculation hcalculate
          cases h
          exact ⟨policy, _, Ct, calculation, hunended, hcalculate, rfl, hpolicies.rows⟩
    · cases h
  · cases h

/-- A zero `Ew` or `Lf` counts as not given. -/
def givenOr (given fallback : ℚ) : ℚ := if given = 0 then fallback else given

/-- The formula for the driver's policy in force. -/
theorem calculatePayout_spec {io : CalculateIo} {Ew Lf : ℚ} {Ct : Option ℚ}
    {calculation : PayoutCalculation}
    (h : calculatePayout io s ⟨driverId, some Ew, some Lf, Ct⟩ = .ok calculation) :
    ∃ policy Ct, activePolicy io.now s.db driverId = some policy ∧
      ctForPlan (some policy.planType) = some Ct ∧
      calculation.payoutAmount =
        amountDue (givenOr Ew (io.profile.weeklyEarningsTotal.getD 0))
          (givenOr Lf (driverLf io s.redis driverId)) Ct
          (resolveDeductible (some policy.planType)) := by
  rw [calculatePayout] at h
  obtain ⟨_, -, h⟩ := bind_eq_ok.mp h
  obtain ⟨policy, hpolicy, h⟩ := bind_eq_ok.mp h
  obtain ⟨Ct, hCt, h⟩ := bind_eq_ok.mp h
  cases h
  exact ⟨policy, Ct, orThrow_eq_ok.mp hpolicy, orThrow_eq_ok.mp hCt, rfl⟩

/-- At one moment the policy that is paid on is the one that the amount was calculated for. -/
theorem activePolicy_of_selected {io : ProcessIo} {db : Db} {policy paid : Policy}
    (hunended : PremiumService.unendedPolicy io.now db driverId = some policy)
    (hparams : params.policyId = some policy.id) (hdriver : params.driverId = driverId)
    (h : selectPolicy io params db = .ok paid) :
    activePolicy io.now db driverId = some paid := by
  rw [selectPolicy, hparams] at h
  obtain ⟨_, -, h⟩ := bind_eq_ok.mp h
  by_cases hid : policy.id = ""
  · have hfalsy : truthy (some policy.id) = none := by simp [truthy, hid]
    rw [hfalsy, hdriver] at h
    exact orThrow_eq_ok.mp h
  · have htruthy : truthy (some policy.id) = some policy.id := by simp [truthy, hid]
    rw [htruthy] at h
    obtain ⟨found, hfound, h⟩ := bind_eq_ok.mp h
    obtain ⟨_, hstarted, h⟩ := bind_eq_ok.mp h
    cases h
    obtain ⟨hmem, hp⟩ := Table.findFirstDesc_eq_some hunended
    have hself : db.policies.findUnique policy.id = some policy :=
      (db.policies.findUnique_eq_some _ _).mpr ⟨hmem, by simp [Policy.keys]⟩
    obtain rfl : policy = paid := by
      rw [orThrow_eq_ok, hself] at hfound
      exact Option.some.inj hfound
    have hstart : policy.startDate ≤ io.now := require_eq_ok.mp hstarted
    refine Table.findFirstDesc_of_imp hunended ?_ ?_
    · simp only [Bool.and_eq_true, decide_eq_true_eq] at hp ⊢
      exact ⟨⟨⟨hp.1.1, hp.1.2⟩, hstart⟩, hp.2⟩
    · intro x hx
      simp only [Bool.and_eq_true, decide_eq_true_eq] at hx ⊢
      exact ⟨⟨hx.1.1.1, hx.1.1.2⟩, hx.2⟩

/-- The state in which the amount of a claim is calculated. -/
def payoutState (cfg : Config) (io : EvaluateIo) (driverId : String)
    (dto : ProcessInsuranceRequestDto) (s : System) : System :=
  ((payoutCall cfg io driverId dto s).map Prod.snd).getD s

/-- A claim that is handed to the settlement: the amount calculated for one policy, less the
deductible of the policy that is paid on. -/
structure Handing (cfg : Config) (io : EvaluateIo) (driverId : String)
    (dto : ProcessInsuranceRequestDto) (s : System) (profile : DriverProfile)
    (request : Payments.ParametricPayoutDto) (calculated paid : Policy) (Ct due : ℚ) : Prop where
  found : s.db.policies.findUnique request.policyId = some paid
  inForce : activePolicy io.calculate.now s.db driverId = some calculated
  tier : ctForPlan (some calculated.planType) = some Ct
  amount : due = amountDue
    (givenOr (resolveWeeklyEarnings profile) (io.calculate.profile.weeklyEarningsTotal.getD 0))
    (givenOr (zoneLossFraction cfg io driverId dto s.redis)
      (driverLf io.calculate (payoutState cfg io driverId dto s).redis driverId)) Ct
    (resolveDeductible (some calculated.planType))
  asked : request.approvedPayout = computeNetPayout due (resolveDeductible (some paid.planType))
  reported : ∃ report, (processInsurance cfg io driverId dto s).1 = .ok report ∧
    report.payout = due
  newest : io.process.now = io.now → activePolicy io.now s.db driverId = some paid

theorem handed_spec {profile : DriverProfile} {request : Payments.ParametricPayoutDto}
    (hprofile : io.profile = some profile)
    (hhanded : handed cfg io driverId dto s = some request) :
    ∃ calculated paid Ct due,
      Handing cfg io driverId dto s profile request calculated paid Ct due := by
  obtain ⟨⟨params, s'⟩, hcall, hasked⟩ := Option.bind_eq_some_iff.mp hhanded
  obtain ⟨paid, h3Cell, disruption, db, hidentified, hfree, rfl⟩ := settlementAsked_eq_some hasked
  obtain ⟨unended, e, Ct', calculation, hunended, hcalculate, hparams, hpolicies⟩ :=
    payoutCall_spec hprofile hcall
  obtain ⟨selected, hselected, hgates⟩ := bind_eq_ok.mp hidentified.gates
  obtain rfl : selected = paid := by
    repeat obtain ⟨_, -, hgates⟩ := bind_eq_ok.mp hgates
    cases hgates
    rfl
  have hstate : payoutState cfg io driverId dto s = s' := by simp [payoutState, hcall]
  obtain ⟨calculated, Ct, hcalculated, hCt, hamount⟩ := calculatePayout_spec hcalculate
  obtain ⟨report, hreport, hpayout, -⟩ := (processInsurance_reports hcall).ok _
    (congrArg Prod.fst (processPayout_handed hidentified hfree))
  refine ⟨calculated, selected, Ct, calculation.payoutAmount, ?_, ?_, hCt, ?_, ?_, ?_, ?_⟩
  · rw [← hpolicies]
    exact (Payouts.selectPolicy_spec hselected).1
  · rwa [activePolicy, hpolicies] at hcalculated
  · rw [hstate]
    exact hamount
  · rw [hparams]
    rfl
  · refine ⟨report, hreport, ?_⟩
    rw [hpayout, hparams]
    rfl
  · intro hnow
    have hunended' : PremiumService.unendedPolicy io.process.now s'.db driverId =
        some unended := by
      rw [PremiumService.unendedPolicy, hpolicies, hnow]
      exact hunended
    have hactive := activePolicy_of_selected hunended' (by rw [hparams]; rfl)
      (by rw [hparams]; rfl) hselected
    rwa [activePolicy, hpolicies, hnow] at hactive

/-- The deductible is applied once exactly for the tiers that have none and for the losses
that it covers up to half a paisa. -/
theorem deductedOnce_iff {profile : DriverProfile} {request : Payments.ParametricPayoutDto}
    {policy : Policy} {Ct : ℚ} (hprofile : io.profile = some profile)
    (hEw : 0 < resolveWeeklyEarnings profile)
    (hLf : 0 < zoneLossFraction cfg io driverId dto s.redis)
    (hhanded : handed cfg io.atOnce driverId dto s = some request)
    (hpolicy : s.db.policies.findUnique request.policyId = some policy)
    (hCt : ctForPlan (some policy.planType) = some Ct) :
    DeductedOnce cfg io.atOnce driverId dto
        (amountDue (resolveWeeklyEarnings profile) (zoneLossFraction cfg io driverId dto s.redis) Ct
          (resolveDeductible (some policy.planType))) s request ↔
      resolveDeductible (some policy.planType) = 0 ∨
        resolveWeeklyEarnings profile / 7 * Ct * zoneLossFraction cfg io driverId dto s.redis <
          resolveDeductible (some policy.planType) + 1 / 200 := by
  have hprofile' : io.atOnce.profile = some profile := hprofile
  obtain ⟨calculated, paid, Ct', due, hhanding⟩ := handed_spec hprofile' hhanded
  obtain ⟨report, hreport, hpayout⟩ := hhanding.reported
  cases hpolicy.symm.trans hhanding.found
  cases (hhanding.newest rfl).symm.trans hhanding.inForce
  cases hCt.symm.trans hhanding.tier
  have hdue : due = amountDue (resolveWeeklyEarnings profile)
      (zoneLossFraction cfg io driverId dto s.redis) Ct
      (resolveDeductible (some policy.planType)) := by
    have hLf' : zoneLossFraction cfg io.atOnce driverId dto s.redis ≠ 0 := hLf.ne'
    rw [hhanding.amount, givenOr, givenOr, if_neg hEw.ne', if_neg hLf']
    rfl
  have hrequest := hhanding.asked
  subst hdue
  rw [← amountDue_eq_zero]
  rw [← computeNetPayout_eq_self (amountDue_nonneg _ _ _ _) (resolveDeductible_nonneg _)]
  constructor
  · intro h
    rw [← hrequest]
    exact h.handed
  · intro h
    rw [h] at hrequest
    exact ⟨hrequest, report, hreport, hpayout.trans hrequest.symm⟩

end Once

/-! ## A claim on each kind of tier -/

namespace Halted

def cell : String := "8860145b5dfffff"

/-- The driver of a policy of the tier was last seen in its zone, which is halted. -/
def store (planType : String) : System where
  db :=
    { users := .singleton Cleared.driver
      kycPayoutSetups := .singleton Payments.Sample.payoutSetup
      policies := .singleton { Cleared.policy with planType }
      disruptionEvents := .singleton Cleared.event }
  redis :=
    { drivers := setEx (fun _ => none) Cleared.now DRIVER_STATE_TTL "u1"
        { fraudScore := some (1 / 10), last_location := some { h3_cell := some cell } }
      zones := setEx (fun _ => none) Cleared.now ZONE_STATE_TTL cell Cleared.zoneRecord
      policies := setEx (fun _ => none) Cleared.now POLICY_STATE_TTL "p1" { zone := some cell } }

def io : EvaluateIo := Cleared.evaluateIo Cleared.silent

def request (approvedPayout : ℚ) : Payments.ParametricPayoutDto where
  userId := "u1"
  policyId := "p1"
  disruptionEventId := "e1"
  eventTimestamp := 172800
  h3Cell := cell
  approvedPayout := approvedPayout

end Halted

open Halted Cleared in
/-- The elite tier has no deductible: the full 640 rupees are asked for. -/
theorem deductedOnce_elite :
    DeductedOnce services Halted.io.atOnce "u1" {}
      (amountDue (resolveWeeklyEarnings profile)
        (zoneLossFraction services Halted.io "u1" {} (Halted.store "ELITE").redis) (8 / 10)
        (resolveDeductible (some "ELITE")))
      (Halted.store "ELITE") (Halted.request 640) := by
  have hpolicy : (Halted.store "ELITE").db.policies.findUnique (Halted.request 640).policyId =
      some { Cleared.policy with planType := "ELITE" } := by decide
  exact (deductedOnce_iff (rfl : Halted.io.profile = some profile) (by decide)
    (by decide +kernel) (by decide +kernel) hpolicy (by decide +kernel)).mpr
      (.inl (by decide))

open Halted Cleared in
/-- On the standard tier 280 rupees are due and reported, and 80 are asked for. -/
theorem not_deductedOnce :
    handed services Halted.io.atOnce "u1" {} (Halted.store "STANDARD") = some (Halted.request 80) ∧
      ¬DeductedOnce services Halted.io.atOnce "u1" {}
        (amountDue (resolveWeeklyEarnings profile)
          (zoneLossFraction services Halted.io "u1" {} (Halted.store "STANDARD").redis) (6 / 10)
          (resolveDeductible (some "STANDARD")))
        (Halted.store "STANDARD") (Halted.request 80) := by
  constructor
  · decide +kernel
  · intro h
    have hdue : (Halted.request 80).approvedPayout ≠ amountDue (resolveWeeklyEarnings profile)
        (zoneLossFraction services Halted.io "u1" {} (Halted.store "STANDARD").redis) (6 / 10)
        (resolveDeductible (some "STANDARD")) := by
      decide +kernel
    exact hdue h.handed

end Aegis.InsuranceService
