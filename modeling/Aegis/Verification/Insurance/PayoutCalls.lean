import Aegis.Verification.Insurance.Frames
import Aegis.Verification.Payouts.Processing

/-! # The payout call of a claim

The evaluation of a claim calls `processPayout` in its last branch only; here is that call,
and what the evaluation makes of its result. -/

namespace Aegis.InsuranceService

open Outcome RedisState PayoutService

section Call

variable (cfg : Config) (io : EvaluateIo) (driverId : String) (dto : ProcessInsuranceRequestDto)

/-- The parameters of the payout branch for a calculated amount. -/
def claimParams (policy : Policy) (e : Evidence) (payoutAmount : ℚ) : ProcessPayoutParams where
  driverId := driverId
  payoutAmount := some payoutAmount
  h3Cell := e.h3Cell
  eventTimestamp := some (eventTimestamp io dto)
  policyId := some policy.id
  disruptionType := some e.zoneState

/-- The payout call of a claim on an eligible policy, and the state it is made in. -/
def claimPayoutCall (policy : Policy) (Ew Ct : ℚ) (s : System) :
    Option (ProcessPayoutParams × System) :=
  let s := { s with redis := touchPolicyState io policy Ct s.redis }
  let Lf := zoneLossFraction cfg io driverId dto s.redis
  let (e, s) := gatherEvidence cfg io driverId dto policy s
  match refusal e with
  | some _ => none
  | none =>
      match calculatePayout io.calculate s ⟨driverId, some Ew, some Lf, some Ct⟩ with
      | .error _ => none
      | .ok calculation =>
          some (claimParams io driverId dto policy e calculation.payoutAmount, s)

/-- The payout call that `processInsurance` makes, if it comes to one. -/
def payoutCall (s : System) : Option (ProcessPayoutParams × System) :=
  match claimedPolicy io driverId s.db with
  | .ok (Ew, some policy) =>
      match Eligibility.assertDriverPolicyEligibility cfg.payout.eligibility io.readEligibility
          io.now s.db driverId (some (PlansService.planKeyOf s.db policy)),
        ctForPlan (some (PlansService.planKeyOf s.db policy)) with
      | .ok _, some Ct => claimPayoutCall cfg io driverId dto policy Ew Ct s
      | _, _ => none
  | _ => none

/-- What the evaluation makes of the result of its payout call. -/
structure Reports (params : ProcessPayoutParams) (s : System) (outcome : Except Exn InsuranceResult)
    (s' : System) : Prop where
  state : s' = (processPayout cfg.payout io.process params s).2
  ok : ∀ result, (processPayout cfg.payout io.process params s).1 = .ok result →
    ∃ report, outcome = .ok report ∧ report.payout = params.payoutAmount.getD 0 ∧
      report.decision = if result.success then .APPROVED else .HOLD
  error : ∀ e, (processPayout cfg.payout io.process params s).1 = .error e → outcome = .error e

variable {cfg io driverId dto} {s : System} {params : ProcessPayoutParams} {s' : System}

theorem evaluateClaim_reports {policy : Policy} {planKey : String} {Ew Ct : ℚ}
    (h : claimPayoutCall cfg io driverId dto policy Ew Ct s = some (params, s')) :
    Reports cfg io params s' (evaluateClaim cfg io driverId dto policy planKey Ew Ct s).1
      (evaluateClaim cfg io driverId dto policy planKey Ew Ct s).2 := by
  simp only [claimPayoutCall] at h
  simp only [evaluateClaim]
  generalize gatherEvidence cfg io driverId dto policy
    { s with redis := touchPolicyState io policy Ct s.redis } = gathered at h ⊢
  obtain ⟨e, gatheredState⟩ := gathered
  dsimp only at h ⊢
  cases hrefusal : refusal e with
  | some decision =>
      rw [hrefusal] at h
      cases h
  | none =>
      rw [hrefusal] at h
      dsimp only at h ⊢
      split at h
      · cases h
      · rename_i calculation hcalculate
        cases h
        simp only [payClaim, hcalculate]
        cases hprocess : processPayout cfg.payout io.process
            (claimParams io driverId dto policy e calculation.payoutAmount) s' with
        | mk outcome after =>
            have hcall := hprocess
            simp only [claimParams] at hprocess
            simp only [hprocess]
            cases outcome with
            | error e =>
                refine ⟨by rw [hcall], ?_, ?_⟩
                · intro result hresult
                  rw [hcall] at hresult
                  cases hresult
                · intro e' he'
                  rw [hcall] at he'
                  cases he'
                  rfl
            | ok result =>
                refine ⟨by rw [hcall], ?_, ?_⟩
                · intro result' hresult
                  rw [hcall] at hresult
                  cases hresult
                  exact ⟨_, rfl, rfl, rfl⟩
                · intro e' he'
                  rw [hcall] at he'
                  cases he'

/-- With a payout call the evaluation ends as that call does. -/
theorem processInsurance_reports (h : payoutCall cfg io driverId dto s = some (params, s')) :
    Reports cfg io params s' (processInsurance cfg io driverId dto s).1
      (processInsurance cfg io driverId dto s).2 := by
  unfold payoutCall at h
  split at h
  · rename_i Ew policy hclaimed
    split at h
    · rename_i standing Ct heligible hct
      simp only [processInsurance, hclaimed, heligible, hct]
      exact evaluateClaim_reports h
    · cases h
  · cases h

theorem evaluateClaim_call_of_approved {policy : Policy} {planKey : String} {Ew Ct : ℚ}
    {report : InsuranceResult}
    (h : (evaluateClaim cfg io driverId dto policy planKey Ew Ct s).1 = .ok report)
    (happroved : report.decision = .APPROVED) :
    ∃ params s', claimPayoutCall cfg io driverId dto policy Ew Ct s = some (params, s') := by
  simp only [evaluateClaim] at h
  simp only [claimPayoutCall]
  generalize gatherEvidence cfg io driverId dto policy
    { s with redis := touchPolicyState io policy Ct s.redis } = gathered at h ⊢
  obtain ⟨e, gatheredState⟩ := gathered
  dsimp only at h ⊢
  cases hrefusal : refusal e with
  | some decision =>
      rw [hrefusal] at h
      cases h
      simp only at happroved
      exact absurd (happroved ▸ hrefusal) (refusal_ne_approved e)
  | none =>
      rw [hrefusal] at h
      simp only [payClaim] at h
      cases hcalculate : calculatePayout io.calculate gatheredState
          ⟨driverId, some Ew, some (zoneLossFraction cfg io driverId dto
            (touchPolicyState io policy Ct s.redis)), some Ct⟩ with
      | error e =>
          rw [hcalculate] at h
          cases h
      | ok calculation => exact ⟨_, _, rfl⟩

/-- An approval is the report of a payout call. -/
theorem payoutCall_of_approved {report : InsuranceResult}
    (h : (processInsurance cfg io driverId dto s).1 = .ok report)
    (happroved : report.decision = .APPROVED) :
    ∃ params s', payoutCall cfg io driverId dto s = some (params, s') := by
  unfold processInsurance at h
  unfold payoutCall
  cases hclaimed : claimedPolicy io driverId s.db with
  | error e =>
      rw [hclaimed] at h
      cases h
  | ok claimed =>
      rw [hclaimed] at h
      obtain ⟨Ew, policy⟩ := claimed
      cases policy with
      | none =>
          cases h
          cases happroved
      | some policy =>
          dsimp only at h ⊢
          split at h
          · cases h
          · rename_i standing heligible
            cases hct : ctForPlan (some (PlansService.planKeyOf s.db policy)) with
            | none =>
                rw [hct] at h
                cases h
                cases happroved
            | some Ct =>
                rw [hct] at h
                simp only [heligible]
                exact evaluateClaim_call_of_approved h happroved

end Call

end Aegis.InsuranceService
