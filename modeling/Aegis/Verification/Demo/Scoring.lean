import Aegis.Verification.Demo.Views
import Aegis.Verification.Insurance.Frames

/-! # Fraud scores beside the demos -/

namespace Aegis.DemoFlow

open Outcome FraudService RedisState

variable {pcfg : Payments.Config} {N : Names} {cfg : FraudService.Config} {io : FraudIo}
  {userId : String} {dto : AnalyzeFraudDto} {a b : Db} {s t : System}

/-! ## Rows of another driver -/

/-- The policies tell whose rows are named after them. -/
theorem Fits.policy_of_found {db : Db} (h : Fits pcfg N db) {policyId : String} {policy : Policy}
    (hfound : db.policies.findUnique policyId = some policy) :
    N.policy policyId = decide (policy.userId = N.driver) := by
  have hid : policyId = policy.id := by simpa [Policy.keys] using Table.key_of_findUnique hfound
  rw [hid, h.policies policy (Table.mem_of_findUnique hfound)]

theorem Fits.policy_of_owner {db : Db} (h : Fits pcfg N db) {policyId : String}
    (howner : (db.policies.findUnique policyId).map Policy.userId = some userId)
    (huser : userId ≠ N.driver) : N.policy policyId = false := by
  obtain ⟨policy, hpolicy, rfl⟩ := Option.map_eq_some_iff.mp howner
  rw [h.policy_of_found hpolicy, decide_eq_false huser]

theorem Fits.payout_outside {db : Db} (h : Fits pcfg N db) {p : Payout} (hp : p ∈ db.payouts.rows)
    (hpolicy : N.policy p.policyId = false) : ∀ k ∈ p.keys, N.payoutIndex k = false :=
  fun k hk => (h.payouts p hp k hk _ (Payout.event_mem_keys_iff.mpr ⟨rfl, rfl⟩)).trans hpolicy

/-! ## The score of another driver -/

section Others

theorem recentPayouts_view (h : DbView pcfg N a b) (huser : userId ≠ N.driver) :
    recentPayouts io userId a = recentPayouts io userId b := by
  unfold recentPayouts
  rw [h.policies]
  refine congrArg (List.take 5) (h.payouts.findManyDesc _ fun p hp hquery => ?_)
  have howner : (b.policies.findUnique p.policyId).map Policy.userId = some userId := by
    simp only [Bool.and_eq_true, decide_eq_true_eq] at hquery
    exact hquery.1
  have hpolicy := h.right.policy_of_owner howner huser
  rcases hp with hp | hp
  · exact h.left.payout_outside hp hpolicy
  · exact h.right.payout_outside hp hpolicy

theorem event_of_recent (h : Fits pcfg N a) (huser : userId ≠ N.driver) {p : Payout}
    (hp : p ∈ recentPayouts io userId a) : N.event p.disruptionEventId = false := by
  obtain ⟨hmem, hquery⟩ := Table.mem_findManyDesc.mp (List.mem_of_mem_take hp)
  simp only [Bool.and_eq_true, decide_eq_true_eq] at hquery
  exact h.references p hmem (h.policy_of_owner hquery.1 huser)

theorem duplicateSignal_view (h : DbView pcfg N a b) (huser : userId ≠ N.driver) :
    duplicateSignal cfg io userId dto a = duplicateSignal cfg io userId dto b := by
  have hmatches : ∀ eventType, (recentPayouts io userId b).any (disruptionMatches a eventType) =
      (recentPayouts io userId b).any (disruptionMatches b eventType) := by
    intro eventType
    rw [Bool.eq_iff_iff, List.any_eq_true, List.any_eq_true]
    refine exists_congr fun p => and_congr_right fun hp => ?_
    rw [disruptionMatches, disruptionMatches,
      h.events.findUnique (event_of_recent h.right huser hp)]
  simp only [duplicateSignal, recentPayouts_view h huser, h.claimFingerprints, hmatches]

theorem detectDuplicateClaim_view (h : DbView pcfg N a b) (huser : userId ≠ N.driver) :
    Rel (Twins (DbView pcfg N)) (detectDuplicateClaim cfg io userId dto a)
      (detectDuplicateClaim cfg io userId dto b) := by
  unfold detectDuplicateClaim
  split
  · refine Rel.require_bind fun _ => .ok ⟨duplicateSignal_view h huser, ?_⟩
    exact { h with
      left := { h.left with }
      right := { h.right with }
      claimFingerprints := by rw [h.claimFingerprints] }
  · exact .ok ⟨rfl, h⟩

theorem DbView.withAnalyses (h : DbView pcfg N a b)
    {fraudAnalyses analyses' : Table FraudAnalysis.keys}
    (hanalyses : Table.Alike N.analysisIndex fraudAnalyses analyses') :
    DbView pcfg N { a with fraudAnalyses } { b with fraudAnalyses := analyses' } :=
  { h with
    left := { h.left with analyses := hanalyses.left }
    right := { h.right with analyses := hanalyses.right }
    analyses := hanalyses }

theorem keys_analysis (data : RowUpdate FraudAnalysis.keys) (id : String) :
    (data.apply (blankAnalysis id userId)).keys = [userId] := by
  rw [data.keys_apply]
  rfl

theorem writeAnalysis_view (h : DbView pcfg N a b) (huser : userId ≠ N.driver)
    (data : RowUpdate FraudAnalysis.keys) :
    Rel (DbView pcfg N) (writeAnalysis io userId data a) (writeAnalysis io userId data b) := by
  have hindex : N.analysisIndex userId = false := decide_eq_false huser
  refine Rel.require_bind fun _ => (Rel.orThrow (h.analyses.upsert hindex data ?_) _).bind
    fun _ _ hanalyses => .ok (h.withAnalyses hanalyses)
  simpa [keys_analysis] using hindex

theorem persistFraudAnalysis_view (h : DbView pcfg N a b) (huser : userId ≠ N.driver)
    (data : RowUpdate FraudAnalysis.keys) :
    Rel (DbView pcfg N) (persistFraudAnalysis io userId data a)
      (persistFraudAnalysis io userId data b) := by
  refine Rel.require_bind fun _ => ?_
  rw [← h.users]
  split
  · exact writeAnalysis_view h huser data
  · exact .ok h

theorem refuse_view (h : DbView pcfg N a b) (huser : userId ≠ N.driver)
    (data : RowUpdate FraudAnalysis.keys) (reason : String) :
    Twins (DbView pcfg N) (refuse io userId data reason a) (refuse io userId data reason b) := by
  have hpersist : Rel (DbView pcfg N) (persistFraudAnalysis io userId data a)
      (persistFraudAnalysis io userId data b) := persistFraudAnalysis_view h huser data
  unfold refuse
  generalize persistFraudAnalysis io userId data a = left at hpersist
  generalize persistFraudAnalysis io userId data b = right at hpersist
  cases hpersist with
  | error e => exact ⟨rfl, h⟩
  | ok hdb => exact ⟨rfl, hdb⟩

theorem storeVerdict_view (h : DbView pcfg N a b) (huser : userId ≠ N.driver)
    (riskScore : JsNumber) :
    Rel (DbView pcfg N) (storeVerdict cfg io userId dto riskScore a)
      (storeVerdict cfg io userId dto riskScore b) := by
  refine Rel.require_bind fun _ => ?_
  rw [← h.users]
  split
  · exact Rel.require_bind fun _ => writeAnalysis_view h huser _
  · exact .ok h

/-- The review queue is nothing that the relation speaks about. -/
theorem queueReview_view {x y : Redis} (h : RedisView N x y) (riskScore : JsNumber) :
    Rel (RedisView N) (queueReview io userId riskScore x) (queueReview io userId riskScore y) := by
  have hjobs : ∀ {z : Redis}, RedisView N z (addReviewJob io userId z) := by
    intro z
    unfold addReviewJob
    split
    · exact .refl z
    · exact ⟨fun _ _ _ => rfl, fun _ _ => rfl, fun _ _ => rfl⟩
  unfold queueReview
  split
  · split
    · exact .ok ((hjobs.symm.trans h).trans hjobs)
    · exact .error _
  · exact .ok h

theorem scored_view (h : SystemView pcfg N s t) (huser : userId ≠ N.driver)
    (features : FraudFeatureResponse) (signal : DuplicateClaimSignal) :
    Twins (SystemView pcfg N) (scored cfg io userId dto features signal s)
      (scored cfg io userId dto features signal t) := by
  unfold scored
  cases readVerdict (io.scoring.ml.getD failClosed) signal with
  | error e => exact ⟨rfl, h⟩
  | ok verdict =>
      dsimp only
      have hqueue : Rel (RedisView N) (queueReview io userId verdict.riskScore s.redis)
          (queueReview io userId verdict.riskScore t.redis) := queueReview_view h.redis _
      have hstore : Rel (DbView pcfg N) (storeVerdict cfg io userId dto verdict.riskScore s.db)
          (storeVerdict cfg io userId dto verdict.riskScore t.db) := storeVerdict_view h.db huser _
      generalize queueReview io userId verdict.riskScore s.redis = queued at hqueue
      generalize queueReview io userId verdict.riskScore t.redis = queued' at hqueue
      cases hqueue with
      | error e => exact ⟨rfl, h⟩
      | ok hredis =>
          generalize storeVerdict cfg io userId dto verdict.riskScore s.db = stored at hstore
          generalize storeVerdict cfg io userId dto verdict.riskScore t.db = stored' at hstore
          cases hstore with
          | error e => exact ⟨rfl, h.db, hredis⟩
          | ok hdb => exact ⟨rfl, hdb, hredis⟩

theorem analyzeFraud_view (h : SystemView pcfg N s t) (huser : userId ≠ N.driver) :
    Twins (SystemView pcfg N) (analyzeFraud cfg io userId dto s)
      (analyzeFraud cfg io userId dto t) := by
  have hrefuse : ∀ data reason, Twins (DbView pcfg N) (refuse io userId data reason s.db)
      (refuse io userId data reason t.db) := fun data reason => refuse_view h.db huser data reason
  unfold analyzeFraud
  split
  · obtain ⟨herror, hdb⟩ := hrefuse (spoofedData dto false KINEMATIC_REASON) KINEMATIC_REASON
    exact ⟨congrArg Except.error herror, hdb, h.redis⟩
  · split
    · obtain ⟨herror, hdb⟩ := hrefuse (spoofedData dto true ATMOS_REASON) ATMOS_REASON
      exact ⟨congrArg Except.error herror, hdb, h.redis⟩
    · have hduplicate : Rel (Twins (DbView pcfg N)) (detectDuplicateClaim cfg io userId dto s.db)
          (detectDuplicateClaim cfg io userId dto t.db) := detectDuplicateClaim_view h.db huser
      generalize detectDuplicateClaim cfg io userId dto s.db = found at hduplicate
      generalize detectDuplicateClaim cfg io userId dto t.db = found' at hduplicate
      cases hduplicate with
      | error e => exact ⟨rfl, h⟩
      | @ok x y hview =>
          obtain ⟨signal, db⟩ := x
          obtain ⟨signal', db'⟩ := y
          obtain ⟨hsignal, hdb⟩ := hview
          cases hsignal
          have hsystem : SystemView pcfg N { s with db } { t with db := db' } := ⟨hdb, h.redis⟩
          cases io.scoring.features with
          | none => exact ⟨rfl, hsystem⟩
          | some features => exact scored_view hsystem huser features signal

theorem computeFraudScore_view (h : SystemView pcfg N s t) (huser : userId ≠ N.driver) :
    Twins (SystemView pcfg N) (computeFraudScore cfg io userId dto s)
      (computeFraudScore cfg io userId dto t) := by
  have hanalysis : Twins (SystemView pcfg N) (analyzeFraud cfg io userId dto s)
      (analyzeFraud cfg io userId dto t) := analyzeFraud_view h huser
  unfold computeFraudScore
  generalize analyzeFraud cfg io userId dto s = outcome at hanalysis
  generalize analyzeFraud cfg io userId dto t = outcome' at hanalysis
  obtain ⟨result, s'⟩ := outcome
  obtain ⟨result', t'⟩ := outcome'
  obtain ⟨hresult, hview⟩ := hanalysis
  cases hresult
  cases result with
  | error e => exact ⟨rfl, hview⟩
  | ok data =>
      dsimp only
      rw [hview.redis.getDriverState huser io.redisUp io.now]
      exact ⟨rfl, hview.db, hview.redis.setDriverState _ _ _ _⟩

end Others

/-! ## The driver's own score -/

section Own

theorem writeAnalysis_own (h : Fits pcfg N a) {data : RowUpdate FraudAnalysis.keys}
    (hwrite : writeAnalysis io N.driver data a = .ok b) : DbView pcfg N a b := by
  obtain ⟨_, -, hwrite⟩ := bind_eq_ok.mp hwrite
  obtain ⟨fraudAnalyses, hupsert, hwrite⟩ := bind_eq_ok.mp hwrite
  cases hwrite
  refine h.view.withAnalyses (h.analyses.upsert_inside ?_ ?_ (orThrow_eq_ok.mp hupsert))
  · simp [keys_analysis]
  · simp [keys_analysis, Names.analysisIndex]

theorem refuse_own (h : Fits pcfg N a) (data : RowUpdate FraudAnalysis.keys) (reason : String) :
    DbView pcfg N a (refuse io N.driver data reason a).2 := by
  unfold refuse
  split
  · rename_i hpersist
    obtain ⟨_, -, hpersist⟩ := bind_eq_ok.mp hpersist
    split at hpersist
    · exact writeAnalysis_own h hpersist
    · cases hpersist
      exact h.view
  · exact h.view

theorem storeVerdict_own (h : Fits pcfg N a) {riskScore : JsNumber}
    (hstore : storeVerdict cfg io N.driver dto riskScore a = .ok b) : DbView pcfg N a b := by
  obtain ⟨_, -, hstore⟩ := bind_eq_ok.mp hstore
  split at hstore
  · obtain ⟨_, -, hstore⟩ := bind_eq_ok.mp hstore
    exact writeAnalysis_own h hstore
  · cases hstore
    exact h.view

theorem scored_own (h : Fits pcfg N s.db) (features : FraudFeatureResponse)
    (signal : DuplicateClaimSignal) :
    SystemView pcfg N s (scored cfg io N.driver dto features signal s).2 := by
  unfold scored
  split
  · exact ⟨h.view, .refl _⟩
  · split
    · exact ⟨h.view, .refl _⟩
    · rename_i hqueue
      obtain ⟨_, rfl⟩ := queueReview_frame hqueue
      have hredis : ∀ reviewJobs, RedisView N s.redis { s.redis with reviewJobs } :=
        fun _ => ⟨fun _ _ _ => rfl, fun _ _ => rfl, fun _ _ => rfl⟩
      split
      · exact ⟨h.view, hredis _⟩
      · rename_i hstore
        exact ⟨storeVerdict_own h hstore, hredis _⟩

/-- An analysis that is not for a claim leaves no fingerprint. -/
theorem analyzeFraud_own (h : Fits pcfg N s.db) (hclaim : isClaimEvent dto = false) :
    SystemView pcfg N s (analyzeFraud cfg io N.driver dto s).2 := by
  unfold analyzeFraud
  split
  · exact ⟨refuse_own h _ _, .refl _⟩
  · split
    · exact ⟨refuse_own h _ _, .refl _⟩
    · rw [detectDuplicateClaim, if_neg (by simp [hclaim])]
      dsimp only [pure_eq]
      split
      · exact ⟨h.view, .refl _⟩
      · exact scored_own h _ _

theorem computeFraudScore_own (h : Fits pcfg N s.db) (hclaim : isClaimEvent dto = false) :
    SystemView pcfg N s (computeFraudScore cfg io N.driver dto s).2 := by
  have hanalysis : SystemView pcfg N s (analyzeFraud cfg io N.driver dto s).2 :=
    analyzeFraud_own h hclaim
  unfold computeFraudScore
  split
  · rename_i hresult
    rw [hresult] at hanalysis
    exact hanalysis
  · rename_i hresult
    rw [hresult] at hanalysis
    exact hanalysis.trans ⟨hanalysis.db.right.view, .setDriverState_own _ _ _⟩

end Own

end Aegis.DemoFlow
