import Aegis.Verification.Fraud.Polarity

/-! # Revoked tokens

A token on the revocation list sets the mix to one, but only on the path of the models; the
drift is added after it, and the reason is the last of the signals, of which three are kept. -/

namespace Aegis.MlFraudService

open HalfEven

def revokedSignal : String := "REVOKED_OAUTH_TOKEN"

/-- The answer is the highest score, and names the reason. -/
structure HardBlock (response : FraudHybridScoreResponse) : Prop where
  score : response.fraud_score = 100
  reason : revokedSignal ∈ response.top_signals

instance (response : FraudHybridScoreResponse) : Decidable (HardBlock response) :=
  decidable_of_iff (_ ∧ _) ⟨fun h => ⟨h.1, h.2⟩, fun h => ⟨h.1, h.2⟩⟩

/-- The signals of the rules that fire. -/
def firedSignals (request : FraudHybridScoreRequest) : List String :=
  (buildHybridRuleScore request).2

section Score

variable {io : MlIo} {redis : MlRedis} {request : FraudHybridScoreRequest} {token : String}

theorem scoreOf_eq_hundred_iff {x : ℚ} : scoreOf x = 100 ↔ 1 - 1 / 20000 ≤ x := by
  constructor
  · intro h
    have hround : ((100 : ℤ) : ℚ) ≤ roundTo 2 (unitClamp x * 100) := by
      rw [← scoreOf, h]
      norm_num
    have hclamp := le_roundTo_two_iff.mp hround
    push_cast at hclamp
    rcases le_max_iff.mp (show 1 - 1 / 20000 ≤ unitClamp x by linarith) with hzero | hmin
    · norm_num at hzero
    · exact (le_min_iff.mp hmin).2
  · exact scoreOf_eq_hundred

theorem isTokenRevoked_iff (htoken : request.auth_token = some token)
    (hlisted : token ∈ redis.revoked_tokens) (hup : io.revocationUp = true) :
    isTokenRevoked io redis request = true ↔ token ≠ "" := by
  simp [isTokenRevoked, htoken, hup, hlisted]

end Score

/-! ## The signals -/

section Signals

variable {request : FraudHybridScoreRequest}

theorem revokedSignal_not_mem_rules : ∀ rule ∈ hybridRules, rule.signal ≠ revokedSignal := by
  decide

theorem revokedSignal_not_fired : revokedSignal ∉ firedSignals request := by
  intro hmem
  obtain ⟨rule, hrule, hsignal⟩ := List.mem_map.mp hmem
  exact revokedSignal_not_mem_rules rule (List.mem_filter.mp hrule).1 hsignal

/-- A signal after all others is cut off from the third of them on. -/
theorem mem_take_append_iff {signal : String} {signals : List String} (h : signal ∉ signals)
    (n : ℕ) : signal ∈ (signals ++ [signal]).take n ↔ signals.length < n := by
  induction signals generalizing n with
  | nil =>
      cases n with
      | zero => simp
      | succ n => simp
  | cons head signals ih =>
      obtain ⟨hhead, htail⟩ := not_or.mp (List.mem_cons.not.mp h)
      cases n with
      | zero => simp
      | succ n => simp [hhead, ih htail]

/-- A default in place of no signals at all is another one. -/
theorem not_mem_take_default {other : String} (hother : other ≠ revokedSignal)
    {signals : List String} (h : revokedSignal ∉ signals) :
    revokedSignal ∉ (if signals = [] then [other] else signals).take 3 := by
  intro hmem
  have hmem := List.mem_of_mem_take hmem
  split at hmem
  · exact hother (List.mem_singleton.mp hmem).symm
  · exact h hmem

theorem not_hardBlock_rulesOnly : ¬HardBlock (rulesOnly request) := by
  intro h
  exact not_mem_take_default (by decide : "RULE_BASELINE" ≠ revokedSignal) revokedSignal_not_fired
    h.reason

end Signals

/-! ## The law -/

section Law

variable {exp : ℚ → ℚ} {io : MlIo} {redis : MlRedis} {request : FraudHybridScoreRequest}
  {raw p : ℚ}

theorem calculateHybridFraudScore_signals (hanswers : io.models.answers request = some (raw, p))
    (hrevoked : isTokenRevoked io redis request = true) :
    (calculateHybridFraudScore exp io redis request).top_signals =
      (firedSignals request ++ [revokedSignal]).take 3 := by
  rw [calculateHybridFraudScore, hanswers]
  dsimp only
  rw [hrevoked, if_pos rfl, if_neg (by simp)]
  rfl

theorem not_hardBlock_of_unrevoked (hanswers : io.models.answers request = some (raw, p))
    (hrevoked : isTokenRevoked io redis request = false) :
    ¬HardBlock (calculateHybridFraudScore exp io redis request) := by
  intro h
  have hreason := h.reason
  rw [calculateHybridFraudScore, hanswers] at hreason
  dsimp only at hreason
  rw [hrevoked, if_neg Bool.false_ne_true] at hreason
  exact not_mem_take_default (by decide : "MODEL_ANOMALY_SIGNAL" ≠ revokedSignal)
    revokedSignal_not_fired hreason

theorem hardBlock_answers_iff (hanswers : io.models.answers request = some (raw, p))
    (hrevoked : isTokenRevoked io redis request = true) :
    HardBlock (calculateHybridFraudScore exp io redis request) ↔
      -1 / 20000 ≤ (readDrift io redis).getD 0 ∧ (firedSignals request).length < 3 := by
  have hscore : (calculateHybridFraudScore exp io redis request).fraud_score =
      scoreOf (1 + (readDrift io redis).getD 0) := by
    have heq := fraud_score_eq exp io redis hanswers
    rwa [hrevoked, if_pos rfl] at heq
  have hdrift : scoreOf (1 + (readDrift io redis).getD 0) = 100 ↔
      -1 / 20000 ≤ (readDrift io redis).getD 0 := by
    rw [scoreOf_eq_hundred_iff]
    constructor
    · intro h
      linarith
    · intro h
      linarith
  rw [← hdrift, ← mem_take_append_iff revokedSignal_not_fired, ← hscore,
    ← calculateHybridFraudScore_signals hanswers hrevoked]
  exact ⟨fun h => ⟨h.score, h.reason⟩, fun h => ⟨h.1, h.2⟩⟩

/-- A listed token is a hard block just when the models answer, no negative drift shows in the
score, and fewer than three rules fire. -/
theorem hardBlock_iff (exp : ℚ → ℚ) (io : MlIo) (redis : MlRedis)
    (request : FraudHybridScoreRequest) (token : String)
    (htoken : request.auth_token = some token) (hlisted : token ∈ redis.revoked_tokens)
    (hup : io.revocationUp = true) :
    HardBlock (calculateHybridFraudScore exp io redis request) ↔
      token ≠ "" ∧ (io.models.answers request).isSome ∧
        -1 / 20000 ≤ (readDrift io redis).getD 0 ∧ (firedSignals request).length < 3 := by
  rw [← isTokenRevoked_iff htoken hlisted hup]
  cases hanswers : io.models.answers request with
  | none =>
      have hrules : calculateHybridFraudScore exp io redis request = rulesOnly request := by
        rw [calculateHybridFraudScore, hanswers]
      rw [hrules]
      exact iff_of_false not_hardBlock_rulesOnly (by simp)
  | some answer =>
      obtain ⟨raw, p⟩ := answer
      cases hrevoked : isTokenRevoked io redis request with
      | false => exact iff_of_false (not_hardBlock_of_unrevoked hanswers hrevoked) (by simp)
      | true => simp [hardBlock_answers_iff hanswers hrevoked]

end Law

def revokedRequest : FraudHybridScoreRequest := { quietRequest with auth_token := some "t" }

theorem hardBlock_quiet :
    HardBlock (calculateHybridFraudScore ratExp ⟨answering 1 0, true, true⟩ ⟨["t"], some (1 / 10)⟩
      revokedRequest) :=
  (hardBlock_iff ratExp ⟨answering 1 0, true, true⟩ ⟨["t"], some (1 / 10)⟩ revokedRequest "t" rfl
    (by decide) rfl).mpr (by decide +kernel)

/-- Without the models the score is that of the rules; a drift of half a point halves it; three
rules leave no room for the reason. -/
theorem revoked_not_blocked :
    ¬HardBlock (calculateHybridFraudScore ratExp ⟨{}, true, true⟩ ⟨["t"], none⟩ revokedRequest) ∧
      ¬HardBlock (calculateHybridFraudScore ratExp ⟨answering 1 0, true, true⟩
        ⟨["t"], some (-1 / 2)⟩ revokedRequest) ∧
      ¬HardBlock (calculateHybridFraudScore ratExp ⟨answering 1 0, true, true⟩ ⟨["t"], none⟩
        { revokedRequest with gps_speed := 200, mismatch := true, claims_last_24h := 3 }) := by
  decide +kernel

end Aegis.MlFraudService
