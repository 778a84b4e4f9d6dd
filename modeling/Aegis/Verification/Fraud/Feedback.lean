import Aegis.Library.Run
import Aegis.Model.FraudModel
import Aegis.Verification.Fraud.Polarity

/-! # What an audit teaches the score

A legitimate loss counts as one and is compared with a fraud score, so an approved payout raises
the drift and a rejected one lowers it. -/

namespace Aegis.PostPayoutAuditService

open RedisState MlFraudService

/-- The drift, none stored being zero. -/
def drift (ml : MlRedis) : ℚ := ml.adaptive_drift.getD 0

/-- The drift is within half a point. -/
def DriftBounded (ml : MlRedis) : Prop := drift ml ∈ Set.Icc (-(1 / 2) : ℚ) (1 / 2)

instance (ml : MlRedis) : Decidable (DriftBounded ml) :=
  inferInstanceAs (Decidable (drift ml ∈ Set.Icc (-(1 / 2) : ℚ) (1 / 2)))

/-- No request whose token is not revoked scores more under `low` than under `high`. -/
def ScoresAtMost (low high : MlRedis) : Prop :=
  ∀ exp, IsExp exp → ∀ (io : MlIo) (request : FraudHybridScoreRequest),
    isTokenRevoked io high request = false →
    (∀ raw p, io.models.answers request = some (raw, p) → p ∈ Set.Icc (0 : ℚ) 1) →
    (calculateHybridFraudScore exp io low request).fraud_score ≤
      (calculateHybridFraudScore exp io high request).fraud_score

/-! ## The drift moves the scores -/

/-- Every rule fires. -/
def loudRequest : FraudHybridScoreRequest where
  device_switch_frequency := 5
  gps_speed := 200
  h3_zone_consistency := 1
  claims_last_30d := 5
  claims_last_24h := 3
  earnings_pattern_deviation := 4
  mismatch := true
  shared_driver_count_24h := 5

/-- The mix of a request whose anomaly score is one half, before the drift. -/
def evenMix (request : FraudHybridScoreRequest) (p : ℚ) : ℚ :=
  4 / 10 * (buildHybridRuleScore request).1 + 3 / 10 * p + 3 / 10 * (1 / 2)

/-- Where the mixes of a request leave room for the drift, one of them has two scores. -/
theorem exists_evenMix_of_base {request : FraudHybridScoreRequest} {base d d' : ℚ}
    (hmix : ∀ p, evenMix request p = base + 3 / 10 * p) (hlt : d < d')
    (hlow : 1 / 10 ≤ base + 3 / 20 + (d + d') / 2)
    (hhigh : base + 3 / 20 + (d + d') / 2 ≤ 9 / 10) :
    ∃ p ∈ Set.Icc (0 : ℚ) 1,
      scoreOf (evenMix request p + d) < scoreOf (evenMix request p + d') := by
  obtain ⟨c, hc⟩ : ∃ c, c = base + 3 / 20 + (d + d') / 2 := ⟨_, rfl⟩
  have hfloor : (⌊c * 10000⌋ : ℚ) ≤ c * 10000 := Int.floor_le _
  have hfloor' : c * 10000 < ⌊c * 10000⌋ + 1 := Int.lt_floor_add_one _
  have hk : 0 ≤ ⌊c * 10000⌋ := Int.floor_nonneg.mpr (by linarith)
  have hk' : ⌊c * 10000⌋ < 10000 := Int.floor_lt.mpr (by push_cast; linarith)
  generalize ⌊c * 10000⌋ = k at *
  -- the mix is put halfway between the two drifts below the halfway point next to `c`
  refine ⟨((k + 1 / 2) / 10000 - (d + d') / 2 - base) / (3 / 10), ⟨by linarith, by linarith⟩, ?_⟩
  rw [hmix]
  exact scoreOf_lt_scoreOf hk hk' (by linarith) (by linarith)

theorem evenMix_quiet (p : ℚ) : evenMix quietRequest p = 3 / 20 + 3 / 10 * p := by
  have hrules : (buildHybridRuleScore quietRequest).1 = 0 := by decide
  rw [evenMix, hrules]
  ring

theorem evenMix_loud (p : ℚ) : evenMix loudRequest p = 11 / 20 + 3 / 10 * p := by
  have hrules : (buildHybridRuleScore loudRequest).1 = 1 := by decide +kernel
  rw [evenMix, hrules]
  ring

theorem exists_evenMix {d d' : ℚ} (hd : d ∈ Set.Icc (-(1 / 2) : ℚ) (1 / 2))
    (hd' : d' ∈ Set.Icc (-(1 / 2) : ℚ) (1 / 2)) (hlt : d < d') :
    ∃ request, request.auth_token = none ∧ ∃ p ∈ Set.Icc (0 : ℚ) 1,
      scoreOf (evenMix request p + d) < scoreOf (evenMix request p + d') := by
  obtain ⟨hd0, hd1⟩ := hd
  obtain ⟨hd0', hd1'⟩ := hd'
  by_cases hm : 0 ≤ d + d'
  · exact ⟨quietRequest, rfl,
      exists_evenMix_of_base evenMix_quiet hlt (by linarith) (by linarith)⟩
  · exact ⟨loudRequest, rfl,
      exists_evenMix_of_base evenMix_loud hlt (by linarith) (by linarith)⟩

section Order

variable {low high : MlRedis}

theorem fraud_score_of_drift {exp : ℚ → ℚ} (hexp : IsExp exp) {request : FraudHybridScoreRequest}
    (htoken : request.auth_token = none) (p : ℚ) (ml : MlRedis) :
    (calculateHybridFraudScore exp ⟨answering 0 p, true, true⟩ ml request).fraud_score =
      scoreOf (evenMix request p + drift ml) := by
  have hrevoked (io : MlIo) : isTokenRevoked io ml request = false := by
    rw [isTokenRevoked, htoken]
  have hscore := fraud_score_eq exp ⟨{}, true, true⟩ ml (answering_answers 0 p request)
  rw [hrevoked, if_neg (by decide), normalizeAnomalyScore_zero hexp] at hscore
  rw [hscore, evenMix, baseMix, readDrift, if_pos rfl, drift]
  congr 1
  ring

/-- Scores are ordered as the drifts are. -/
theorem scoresAtMost_iff (htokens : low.revoked_tokens = high.revoked_tokens)
    (hlow : DriftBounded low) (hhigh : DriftBounded high) :
    ScoresAtMost low high ↔ drift low ≤ drift high := by
  constructor
  · intro h
    by_contra hgt
    obtain ⟨request, htoken, p, hp, hscores⟩ := exists_evenMix hhigh hlow (not_le.mp hgt)
    refine absurd (h ratExp isExp_ratExp ⟨answering 0 p, true, true⟩ request ?_ ?_) ?_
    · rw [isTokenRevoked, htoken]
    · rintro raw p' hanswers
      obtain ⟨-, rfl⟩ : (0, p) = (raw, p') := by simpa [answering_answers] using hanswers
      exact hp
    · rw [fraud_score_of_drift isExp_ratExp htoken, fraud_score_of_drift isExp_ratExp htoken]
      exact not_le.mpr hscores
  · intro hdrift exp hexp io request hrevoked _
    have hrevoked' : isTokenRevoked io low request = false := by
      rw [← hrevoked, isTokenRevoked, isTokenRevoked, htokens]
    cases hanswers : io.models.answers request with
    | none => simp [calculateHybridFraudScore, hanswers]
    | some answer =>
        obtain ⟨raw, p⟩ := answer
        have hscore (ml : MlRedis) := fraud_score_eq exp io ml hanswers
        rw [hscore, hscore, hrevoked, hrevoked', if_neg (by decide), if_neg (by decide)]
        refine scoreOf_mono (add_le_add_left ?_ _)
        have hread : (readDrift io low).getD 0 ≤ (readDrift io high).getD 0 := by
          unfold readDrift
          split
          · exact hdrift
          · exact le_rfl
        rw [baseMix, baseMix]
        linarith

end Order

/-! ## One audit -/

structure AuditEvent where
  io : AuditIo
  payoutId : String
  system : System

def AuditEvent.run (ml : MlRedis) (event : AuditEvent) : MlRedis :=
  (auditPayout event.io event.payoutId event.system ml).2

section Audit

variable {io : AuditIo} {payoutId : String} {s : System} {ml : MlRedis}

theorem processPayoutAudit_tokens (redisUp : Bool) (feedback : PayoutFeedback) (ml : MlRedis) :
    (processPayoutAudit redisUp feedback ml).revoked_tokens = ml.revoked_tokens := by
  unfold processPayoutAudit
  split <;> rfl

/-- A report moves the drift by a twentieth of the error, within half a point. -/
theorem drift_processPayoutAudit (feedback : PayoutFeedback) (ml : MlRedis) :
    drift (processPayoutAudit true feedback ml) =
      max (-(5 / 10)) (min (5 / 10)
        (drift ml + (feedback.actual_outcome - feedback.predicted_risk) * LEARNING_RATE)) := rfl

theorem driftBounded_processPayoutAudit {redisUp : Bool} {feedback : PayoutFeedback}
    (h : DriftBounded ml) : DriftBounded (processPayoutAudit redisUp feedback ml) := by
  cases redisUp with
  | false => exact h
  | true =>
      rw [DriftBounded, drift_processPayoutAudit]
      constructor
      · exact (by norm_num : (-(1 / 2) : ℚ) ≤ -(5 / 10)).trans (le_max_left _ _)
      · exact max_le (by norm_num) ((min_le_left _ _).trans (by norm_num))

theorem driftBounded_auditPayout (h : DriftBounded ml) :
    DriftBounded (auditPayout io payoutId s ml).2 := by
  unfold auditPayout
  split
  · split
    · exact h
    · unfold sendFeedbackToMl
      split
      · exact driftBounded_processPayoutAudit h
      · exact h
  · exact h

/-- The run lemma. -/
theorem always_driftBounded (h : DriftBounded ml) (audits : List AuditEvent) :
    Run.Always AuditEvent.run DriftBounded ml audits := by
  have hok : Run.Along AuditEvent.run (fun _ _ => True) ml audits :=
    Run.along_of_forall (fun _ _ => trivial) ml
  exact Run.always_of_step (fun _ _ hbounded _ => driftBounded_auditPayout hbounded) h hok

end Audit

/-- The report reaches the drift. -/
def reports (io : AuditIo) : Bool := io.readPayout && io.mlUp && io.mlRedisUp

/-- After the audit of an approved payout no later score is higher, of a rejected one lower, and
no audits take the drift out of its bounds. -/
structure Corrects (io : AuditIo) (payoutId : String) (status : PayoutStatus) (s : System)
    (ml : MlRedis) : Prop where
  approved : status = .APPROVED → ScoresAtMost (auditPayout io payoutId s ml).2 ml
  rejected : status = .REJECTED → ScoresAtMost ml (auditPayout io payoutId s ml).2
  stays : ∀ audits, Run.Always AuditEvent.run DriftBounded ml audits

section Direction

variable {io : AuditIo} {payoutId : String} {s : System} {ml : MlRedis} {payout : Payout}
  {policy : Policy}

/-- The drift after the audit of a payout. -/
theorem drift_auditPayout (hfound : findAudited payoutId s.db = some (payout, policy)) :
    drift (auditPayout io payoutId s ml).2 =
      if reports io then max (-(5 / 10)) (min (5 / 10) (drift ml +
        (actualOutcome payout - predictedRisk io s policy.userId) * LEARNING_RATE))
      else drift ml := by
  cases hreports : reports io with
  | true =>
      have hup : (io.readPayout = true ∧ io.mlUp = true) ∧ io.mlRedisUp = true := by
        simpa [reports] using hreports
      simp [auditPayout, hfound, sendFeedbackToMl, hup, drift_processPayoutAudit]
  | false =>
      have hsame : (auditPayout io payoutId s ml).2 = ml := by
        unfold auditPayout sendFeedbackToMl processPayoutAudit
        rw [hfound]
        split_ifs with hread hml hredis
        · simp [reports, hread, hml, hredis] at hreports
        all_goals rfl
      rw [hsame, if_neg (by decide)]

theorem tokens_auditPayout (io : AuditIo) (payoutId : String) (s : System) (ml : MlRedis) :
    (auditPayout io payoutId s ml).2.revoked_tokens = ml.revoked_tokens := by
  unfold auditPayout
  split
  · split
    · rfl
    · unfold sendFeedbackToMl
      split
      · exact processPayoutAudit_tokens _ _ ml
      · rfl
  · rfl

theorem corrects_iff_drift (hd : DriftBounded ml) :
    Corrects io payoutId payout.status s ml ↔
      (payout.status = .APPROVED → drift (auditPayout io payoutId s ml).2 ≤ drift ml) ∧
        (payout.status = .REJECTED → drift ml ≤ drift (auditPayout io payoutId s ml).2) := by
  have htokens := tokens_auditPayout io payoutId s ml
  have hbounded : DriftBounded (auditPayout io payoutId s ml).2 := driftBounded_auditPayout hd
  rw [← scoresAtMost_iff htokens hbounded hd, ← scoresAtMost_iff htokens.symm hd hbounded]
  constructor
  · intro h
    exact ⟨h.approved, h.rejected⟩
  · rintro ⟨happroved, hrejected⟩
    exact ⟨happroved, hrejected, always_driftBounded hd⟩

/-- An approved payout raises the drift, unless it was expected for sure or the drift is full. -/
theorem approved_le_iff {d f : ℚ} (hd : d ∈ Set.Icc (-(1 / 2) : ℚ) (1 / 2)) (hf : f ≤ 1) :
    max (-(5 / 10)) (min (5 / 10) (d + (1 - f) * LEARNING_RATE)) ≤ d ↔ f = 1 ∨ d = 1 / 2 := by
  obtain ⟨hlow, hhigh⟩ := hd
  rw [LEARNING_RATE, max_le_iff, min_le_iff]
  constructor
  · rintro ⟨-, h | h⟩
    · exact .inr (by linarith)
    · exact .inl (by linarith)
  · rintro (rfl | rfl)
    · exact ⟨by linarith, .inr (by linarith)⟩
    · exact ⟨by norm_num, .inl (by norm_num)⟩

theorem le_rejected_iff {d f : ℚ} (hd : d ∈ Set.Icc (-(1 / 2) : ℚ) (1 / 2)) (hf : 0 ≤ f) :
    d ≤ max (-(5 / 10)) (min (5 / 10) (d + (0 - f) * LEARNING_RATE)) ↔ f = 0 ∨ d = -(1 / 2) := by
  obtain ⟨hlow, hhigh⟩ := hd
  rw [LEARNING_RATE, le_max_iff, le_min_iff]
  constructor
  · rintro (h | ⟨-, h⟩)
    · exact .inr (by linarith)
    · exact .inl (by linarith)
  · rintro (rfl | rfl)
    · exact .inr ⟨by linarith, by linarith⟩
    · exact .inl (by norm_num)

end Direction

/-- An audit corrects in the right direction just when it changes nothing: it does not reach the
drift, the outcome was predicted for sure, or the drift is at the bound it would move to. -/
theorem corrects_iff (io : AuditIo) {payoutId : String} {s : System} {ml : MlRedis}
    {payout : Payout} {policy : Policy}
    (hfound : findAudited payoutId s.db = some (payout, policy))
    (hf : predictedRisk io s policy.userId ∈ Set.Icc (0 : ℚ) 1) (hd : DriftBounded ml) :
    Corrects io payoutId payout.status s ml ↔
      reports io = false ∨
        (payout.status = .APPROVED →
          predictedRisk io s policy.userId = 1 ∨ drift ml = 1 / 2) ∧
        (payout.status = .REJECTED →
          predictedRisk io s policy.userId = 0 ∨ drift ml = -(1 / 2)) := by
  rw [corrects_iff_drift hd, drift_auditPayout hfound]
  cases reports io with
  | false => simp
  | true =>
      rw [if_pos rfl, actualOutcome]
      cases payout.status with
      | PROCESSING => simp
      | APPROVED => simpa using approved_le_iff hd hf.2
      | REJECTED => simpa using le_rejected_iff hd hf.1

namespace Honest

/-- All that an audit needs answers. -/
def io : AuditIo := ⟨0, true, true, true, true⟩

def payout (status : PayoutStatus) : Payout where
  id := "pay_1"
  policyId := "pol_1"
  disruptionEventId := "evt_1"
  status := status
  estimatedLoss := none
  approvedPayout := none
  transactionId := none
  paymentMethod := none
  processingTime := none
  bankReference := none
  transferredAt := none
  createdAt := 0

def policy : Policy where
  id := "pol_1"
  userId := "drv_1"
  planType := "STANDARD"
  status := .ACTIVE
  premium := 30
  startDate := 0
  endDate := 10
  createdAt := 0
  weeklyPlanId := none

def event : DisruptionEvent where
  id := "evt_1"
  type := "WEATHER"
  title := "Flood"
  expectedLoss := none
  expectedPayout := none
  occurredAt := 0
  expiresAt := none
  verified := true

/-- A driver of the given fraud score with one payout. -/
def system (status : PayoutStatus) (fraudScore : ℚ) : System where
  db := {
    payouts := .singleton (payout status)
    policies := .singleton policy
    disruptionEvents := .singleton event }
  redis := { drivers := fun _ => some ⟨{ fraudScore := some fraudScore }, 10⟩ }

end Honest

open Honest in
theorem corrects_certain :
    Corrects io "pay_1" (payout .REJECTED).status (system .REJECTED 0) {} := by
  have hfound : findAudited "pay_1" (system .REJECTED 0).db = some (payout .REJECTED, policy) :=
    rfl
  exact (corrects_iff io hfound (by decide +kernel) (by decide +kernel)).mpr (by decide +kernel)

open Honest in
/-- One approved payout of a driver above suspicion raises a score of 20 to 24.75. -/
theorem not_corrects : ¬Corrects io "pay_1" (payout .APPROVED).status
    (system .APPROVED (5 / 100)) {} := by
  intro h
  have hp : ∀ raw p, (answering (1 / 5) 0).answers quietRequest = some (raw, p) →
      p ∈ Set.Icc (0 : ℚ) 1 := by
    rintro raw p hanswers
    obtain ⟨-, rfl⟩ : (1 / 5, 0) = (raw, p) := by simpa [answering_answers] using hanswers
    decide
  have hscores := h.approved rfl ratExp isExp_ratExp ⟨answering (1 / 5) 0, true, true⟩ quietRequest
    rfl hp
  revert hscores
  decide +kernel

end Aegis.PostPayoutAuditService
