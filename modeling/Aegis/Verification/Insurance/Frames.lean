import Aegis.Model.Insurance
import Aegis.Verification.Payments.Equations

/-! # What the evaluation of a claim leaves alone

Scoring and settlement write neither the policies nor their Redis records. -/

namespace Aegis

open Outcome RedisState

structure SamePolicies (s s' : System) : Prop where
  rows : s'.db.policies = s.db.policies
  records : s'.redis.policies = s.redis.policies

theorem SamePolicies.refl (s : System) : SamePolicies s s := ⟨rfl, rfl⟩

theorem SamePolicies.trans {s s' s'' : System} (h : SamePolicies s s')
    (h' : SamePolicies s' s'') : SamePolicies s s'' :=
  ⟨h'.rows.trans h.rows, h'.records.trans h.records⟩

/-- The state in the outcome of an operation. -/
theorem SamePolicies.of_eq {α : Type} {s s' : System} {outcome : α × System} {a : α}
    (h : SamePolicies s outcome.2) (houtcome : outcome = (a, s')) : SamePolicies s s' := by
  rwa [houtcome] at h

/-! ## Fraud scoring -/

/-- All that scoring writes: fingerprints, analyses, driver records and review jobs. -/
def OnlyScoring (s s' : System) : Prop :=
  ∃ claimFingerprints fraudAnalyses drivers reviewJobs,
    s' = { s with
      db := { s.db with claimFingerprints, fraudAnalyses }
      redis := { s.redis with drivers, reviewJobs } }

theorem OnlyScoring.refl (s : System) : OnlyScoring s s := ⟨_, _, _, _, rfl⟩

theorem OnlyScoring.trans {s s' s'' : System} (h : OnlyScoring s s') (h' : OnlyScoring s' s'') :
    OnlyScoring s s'' := by
  obtain ⟨_, _, _, _, rfl⟩ := h
  obtain ⟨_, _, _, _, rfl⟩ := h'
  exact ⟨_, _, _, _, rfl⟩

theorem OnlyScoring.of_eq {α : Type} {s s' : System} {outcome : α × System} {a : α}
    (h : OnlyScoring s outcome.2) (houtcome : outcome = (a, s')) : OnlyScoring s s' := by
  rwa [houtcome] at h

theorem OnlyScoring.policies {s s' : System} (h : OnlyScoring s s') : SamePolicies s s' := by
  obtain ⟨_, _, _, _, rfl⟩ := h
  exact ⟨rfl, rfl⟩

namespace FraudService

variable {cfg : Config} {io : FraudIo} {userId : String} {dto : AnalyzeFraudDto} {db db' : Db}

/-- The sentinels refuse the request. -/
def sentinelRejects (dto : AnalyzeFraudDto) : Bool := kinematicAnomaly dto || atmosAnomaly dto

theorem detectDuplicateClaim_frame {signal : DuplicateClaimSignal}
    (h : detectDuplicateClaim cfg io userId dto db = .ok (signal, db')) :
    ∃ claimFingerprints, db' = { db with claimFingerprints } := by
  unfold detectDuplicateClaim at h
  split at h
  · obtain ⟨_, -, h⟩ := bind_eq_ok.mp h
    cases h
    exact ⟨_, rfl⟩
  · cases h
    exact ⟨_, rfl⟩

theorem writeAnalysis_frame {data : RowUpdate FraudAnalysis.keys}
    (h : writeAnalysis io userId data db = .ok db') :
    ∃ fraudAnalyses, db' = { db with fraudAnalyses } := by
  obtain ⟨_, -, h⟩ := bind_eq_ok.mp h
  obtain ⟨fraudAnalyses, -, h⟩ := bind_eq_ok.mp h
  cases h
  exact ⟨fraudAnalyses, rfl⟩

theorem refuse_frame (data : RowUpdate FraudAnalysis.keys) (reason : String) (db : Db) :
    ∃ fraudAnalyses, (refuse io userId data reason db).2 = { db with fraudAnalyses } := by
  unfold refuse
  split
  · rename_i h
    obtain ⟨_, -, h⟩ := bind_eq_ok.mp h
    split at h
    · exact writeAnalysis_frame h
    · cases h
      exact ⟨_, rfl⟩
  · exact ⟨_, rfl⟩

theorem storeVerdict_frame {riskScore : JsNumber}
    (h : storeVerdict cfg io userId dto riskScore db = .ok db') :
    ∃ fraudAnalyses, db' = { db with fraudAnalyses } := by
  obtain ⟨_, -, h⟩ := bind_eq_ok.mp h
  split at h
  · obtain ⟨_, -, h⟩ := bind_eq_ok.mp h
    exact writeAnalysis_frame h
  · cases h
    exact ⟨_, rfl⟩

theorem queueReview_frame {riskScore : JsNumber} {redis redis' : Redis}
    (h : queueReview io userId riskScore redis = .ok redis') :
    ∃ reviewJobs, redis' = { redis with reviewJobs } := by
  unfold queueReview at h
  split at h
  · split at h
    · cases h
      unfold addReviewJob
      split
      · exact ⟨_, rfl⟩
      · exact ⟨_, rfl⟩
    · cases h
  · cases h
    exact ⟨_, rfl⟩

theorem scored_frame (features : FraudFeatureResponse) (signal : DuplicateClaimSignal)
    (s : System) : OnlyScoring s (scored cfg io userId dto features signal s).2 := by
  unfold scored
  split
  · exact .refl s
  · split
    · exact .refl s
    · rename_i hqueue
      obtain ⟨_, rfl⟩ := queueReview_frame hqueue
      split
      · exact ⟨_, _, _, _, rfl⟩
      · rename_i hstore
        obtain ⟨_, rfl⟩ := storeVerdict_frame hstore
        exact ⟨_, _, _, _, rfl⟩

theorem analyzeFraud_frame (s : System) :
    OnlyScoring s (analyzeFraud cfg io userId dto s).2 := by
  have hrefused : ∀ data reason,
      OnlyScoring s { s with db := (refuse io userId data reason s.db).2 } := by
    intro data reason
    have hframe : ∃ fraudAnalyses, (refuse io userId data reason s.db).2 =
        { s.db with fraudAnalyses } := refuse_frame data reason s.db
    obtain ⟨_, hframe⟩ := hframe
    rw [hframe]
    exact ⟨_, _, _, _, rfl⟩
  unfold analyzeFraud
  split
  · exact hrefused _ _
  · split
    · exact hrefused _ _
    · split
      · exact .refl s
      · rename_i signal db hduplicate
        obtain ⟨_, rfl⟩ := detectDuplicateClaim_frame hduplicate
        dsimp only
        split
        · exact ⟨_, _, _, _, rfl⟩
        · exact OnlyScoring.trans ⟨_, _, _, _, rfl⟩ (scored_frame _ signal _)

theorem setDriverState_frame (up : Bool) (now : ℤ) (redis : Redis) (driverId : String)
    (payload : DriverState) :
    ∃ drivers, setDriverState up now redis driverId payload = { redis with drivers } := by
  unfold setDriverState
  split
  · exact ⟨_, rfl⟩
  · exact ⟨_, rfl⟩

theorem computeFraudScore_frame (s : System) :
    OnlyScoring s (computeFraudScore cfg io userId dto s).2 := by
  have hanalysis : OnlyScoring s (analyzeFraud cfg io userId dto s).2 := analyzeFraud_frame s
  unfold computeFraudScore
  split
  · rename_i h
    exact hanalysis.of_eq h
  · rename_i data s' h
    refine (hanalysis.of_eq h).trans ?_
    dsimp only
    obtain ⟨_, hdrivers⟩ := setDriverState_frame io.redisUp io.now s'.redis userId _
    rw [hdrivers]
    exact ⟨_, _, _, _, rfl⟩

end FraudService

/-! ## Settlement -/

namespace Payments

theorem CallCases.parties {cfg : Config} {io : Io} {dto : ParametricPayoutDto} {w : World}
    {result : Except Exn PayoutResult} {w' : World} (h : CallCases cfg io dto w result w') :
    SameParties w.db w'.db := by
  cases h with
  | refused e => exact .refl _
  | cached k owner found success => exact .refl _
  | settled p executed db' admitted rail after => exact after.others.parties
  | failed e result executed db' admitted rail cause after => exact after.others.parties

end Payments

namespace PayoutService

variable {cfg : Config} {io : ProcessIo} {params : ProcessPayoutParams}

theorem findOrCreateEvent_policies {disruption : DisruptionEvent} {db db' : Db}
    (h : findOrCreateEvent io params db = .ok (disruption, db')) :
    db'.policies = db.policies := by
  obtain ⟨_, -, h⟩ := bind_eq_ok.mp h
  split at h
  · cases h
    rfl
  · obtain ⟨_, -, h⟩ := bind_eq_ok.mp h
    obtain ⟨_, -, h⟩ := bind_eq_ok.mp h
    cases h
    rfl

theorem settleOrQueue_policies (policy : Policy) (dto : Payments.ParametricPayoutDto)
    (s : System) : SamePolicies s (settleOrQueue cfg io params policy dto s).2 := by
  have hcall := (Payments.processParametricPayout_cases cfg.toConfig io.settle dto
    s.toWorld).parties
  unfold settleOrQueue
  split
  · rename_i h
    rw [h] at hcall
    exact ⟨hcall.policies, rfl⟩
  · rename_i h
    rw [h] at hcall
    refine ⟨hcall.policies, ?_⟩
    unfold pushPayoutRetry
    split <;> rfl

theorem processPayout_policies (s : System) :
    SamePolicies s (processPayout cfg io params s).2 := by
  unfold processPayout
  split
  · exact .refl s
  · split
    · exact .refl s
    · rename_i db hevent
      have hkept : SamePolicies s { s with db } := ⟨findOrCreateEvent_policies hevent, rfl⟩
      dsimp only
      split
      · split
        · exact hkept
        · exact hkept.trans (settleOrQueue_policies _ _ _)
      · exact hkept

end PayoutService

/-! ## The claim as a whole -/

namespace InsuranceService

variable {cfg : Config} {io : EvaluateIo} {driverId : String} {dto : ProcessInsuranceRequestDto}

theorem readFraud_frame (place : Position) (s : System) :
    OnlyScoring s (readFraud cfg io driverId dto place s).2 := by
  unfold readFraud
  split
  · rename_i lat lng _ _
    have hscore : OnlyScoring s (FraudService.computeFraudScore cfg.fraud io.fraud driverId
        (fraudDto dto lat lng) s).2 := FraudService.computeFraudScore_frame s
    split
    · rename_i h
      exact hscore.of_eq h
    · rename_i h
      exact hscore.of_eq h
  · exact .refl s

theorem gatherEvidence_policies (policy : Policy) (s : System) :
    SamePolicies s (gatherEvidence cfg io driverId dto policy s).2 := (readFraud_frame _ s).policies

theorem payClaim_policies (policy : Policy) (Ew Lf Ct : ℚ) (e : Evidence) (s : System) :
    SamePolicies s (payClaim cfg io driverId dto policy Ew Lf Ct e s).2 := by
  unfold payClaim
  split
  · exact .refl s
  · split
    · rename_i h
      exact (PayoutService.processPayout_policies s).of_eq h
    · rename_i h
      exact (PayoutService.processPayout_policies s).of_eq h

/-- The evidence that `processInsurance` decides on. -/
def evidenceOf (cfg : Config) (io : EvaluateIo) (driverId : String)
    (dto : ProcessInsuranceRequestDto) (policy : Policy) (Ct : ℚ) (s : System) : Evidence :=
  (gatherEvidence cfg io driverId dto policy
    { s with redis := touchPolicyState io policy Ct s.redis }).1

theorem refusal_ne_approved (e : Evidence) : refusal e ≠ some .APPROVED := by
  unfold refusal
  repeat' split
  all_goals simp

/-- Up to its first write, which is to the record of the policy. -/
theorem evaluateClaim_policies (policy : Policy) (planKey : String) (Ew Ct : ℚ) (s : System) :
    SamePolicies { s with redis := touchPolicyState io policy Ct s.redis }
      (evaluateClaim cfg io driverId dto policy planKey Ew Ct s).2 := by
  have hgathered : SamePolicies { s with redis := touchPolicyState io policy Ct s.redis }
      (gatherEvidence cfg io driverId dto policy
        { s with redis := touchPolicyState io policy Ct s.redis }).2 :=
    gatherEvidence_policies policy _
  unfold evaluateClaim
  dsimp only
  split
  · exact hgathered
  · split
    · rename_i h
      exact hgathered.trans ((payClaim_policies policy Ew _ Ct _ _).of_eq h)
    · rename_i h
      exact hgathered.trans ((payClaim_policies policy Ew _ Ct _ _).of_eq h)

end InsuranceService

end Aegis
