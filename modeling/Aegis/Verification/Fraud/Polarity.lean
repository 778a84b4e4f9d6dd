import Aegis.Model.FraudModel

/-! # What moves the fraud score

The scale of the sigmoid carries the minus sign of the sigmoid itself, so the anomaly score grows
with the output of the isolation forest: an outlier lowers the fraud score. -/

namespace Aegis.MlFraudService

open HalfEven

/-- All that is used of the exponential function. -/
structure IsExp (exp : ℚ → ℚ) : Prop where
  strictMono : StrictMono exp
  pos : ∀ x, 0 < exp x
  zero : exp 0 = 1

/-! ## The score as a function of the mix -/

/-- The score of a final mix. -/
def scoreOf (mix : ℚ) : ℚ := roundTo 2 (unitClamp mix * 100)

/-- The part of the mix that the anomaly has no share in. -/
def baseMix (io : MlIo) (redis : MlRedis) (request : FraudHybridScoreRequest) (p : ℚ) : ℚ :=
  4 / 10 * (buildHybridRuleScore request).1 + 3 / 10 * p + (readDrift io redis).getD 0

section Mix

variable {io : MlIo} {redis : MlRedis} {request : FraudHybridScoreRequest} {raw p : ℚ}

theorem unitClamp_mono : Monotone unitClamp :=
  fun _ _ hxy => max_le_max le_rfl (min_le_min le_rfl hxy)

@[simp] theorem unitClamp_unitClamp (x : ℚ) : unitClamp (unitClamp x) = unitClamp x := by
  unfold unitClamp
  grind

theorem finalScore_eq (rule_score anomaly_score gb_score : ℚ) :
    finalScore io redis request rule_score anomaly_score gb_score =
      unitClamp ((if isTokenRevoked io redis request then 1
        else 4 / 10 * rule_score + 3 / 10 * anomaly_score + 3 / 10 * gb_score) +
          (readDrift io redis).getD 0) := by
  rw [finalScore]
  cases readDrift io redis with
  | none => simp
  | some drift => simp

theorem scoreOf_mono : Monotone scoreOf := by
  intro x y hxy
  have hscaled : unitClamp x * 100 ≤ unitClamp y * 100 :=
    mul_le_mul_of_nonneg_right (unitClamp_mono hxy) (by norm_num)
  exact roundTo_mono 2 hscaled

theorem scoreOf_mem (x : ℚ) : scoreOf x ∈ Set.Icc (0 : ℚ) 100 := by
  have hlow : 0 ≤ unitClamp x := le_max_left _ _
  have hhigh : unitClamp x ≤ 1 := max_le zero_le_one (min_le_left _ _)
  constructor
  · exact_mod_cast le_roundTo_of_le 2 (n := 0) (by push_cast; linarith : ((0 : ℕ) : ℚ) ≤ _)
  · exact_mod_cast roundTo_le_of_le 2 (n := 100) (by push_cast; linarith : _ ≤ ((100 : ℕ) : ℚ))

theorem scoreOf_eq_hundred {x : ℚ} (h : 1 - 1 / 20000 ≤ x) : scoreOf x = 100 := by
  have hclamp : 1 - 1 / 20000 ≤ unitClamp x := le_max_of_le_right (le_min (by norm_num) h)
  have hround : ((100 : ℤ) : ℚ) ≤ scoreOf x :=
    le_roundTo_two_iff.mpr (by push_cast; linarith)
  exact le_antisymm (scoreOf_mem x).2 (by exact_mod_cast hround)

theorem scoreOf_eq_zero {x : ℚ} (h : x ≤ 1 / 20000) : scoreOf x = 0 := by
  have hclamp : unitClamp x ≤ 1 / 20000 := max_le (by norm_num) ((min_le_right _ _).trans h)
  have hround : scoreOf x ≤ ((0 : ℤ) : ℚ) :=
    roundTo_two_le_iff.mpr (by push_cast; linarith)
  exact le_antisymm (by exact_mod_cast hround) (scoreOf_mem x).1

/-- The models matter by their answers only. -/
theorem fraud_score_eq (exp : ℚ → ℚ) (io : MlIo) (redis : MlRedis) {models : FraudModels}
    (hanswers : models.answers request = some (raw, p)) :
    (calculateHybridFraudScore exp { io with models } redis request).fraud_score =
      if isTokenRevoked io redis request then scoreOf (1 + (readDrift io redis).getD 0)
      else scoreOf (baseMix io redis request p + 3 / 10 * normalizeAnomalyScore exp raw) := by
  have hrevoked : isTokenRevoked { io with models } redis request =
      isTokenRevoked io redis request := rfl
  have hdrift : readDrift { io with models } redis = readDrift io redis := rfl
  rw [calculateHybridFraudScore, hanswers]
  dsimp only
  rw [finalScore_eq, scoreOf, baseMix, scoreOf, hrevoked, hdrift]
  split
  · rfl
  · congr 3
    ring

end Mix

/-! ## Halfway points -/

/-- Two mixes on the two sides of a halfway point are rounded to two scores. -/
theorem scoreOf_lt_scoreOf {k : ℤ} {x y : ℚ} (hk : 0 ≤ k) (hk' : k < 10000)
    (hx : x < (k + 1 / 2) / 10000) (hy : (k + 1 / 2) / 10000 < y) : scoreOf x < scoreOf y := by
  have hkq : (0 : ℚ) ≤ k := by exact_mod_cast hk
  have hkq' : (k : ℚ) + 1 ≤ 10000 := by exact_mod_cast hk'
  have hlow : roundEven (unitClamp x * 100 * 10 ^ 2) ≤ k := by
    refine roundEven_le_iff.mpr (.inl ?_)
    have hclamp : unitClamp x < (k + 1 / 2) / 10000 :=
      max_lt (by positivity) ((min_le_right _ _).trans_lt hx)
    linarith
  have hhigh : k + 1 ≤ roundEven (unitClamp y * 100 * 10 ^ 2) := by
    refine le_roundEven_iff.mpr (.inl ?_)
    have hclamp : (k + 1 / 2) / 10000 < unitClamp y :=
      lt_max_of_lt_right (lt_min (by linarith) hy)
    push_cast
    linarith
  have hlt : roundEven (unitClamp x * 100 * 10 ^ 2) < roundEven (unitClamp y * 100 * 10 ^ 2) := by
    omega
  exact div_lt_div_of_pos_right (by exact_mod_cast hlt) (by norm_num)

/-- There is a halfway point inside every interval of some length that reaches into the range of
the scores. -/
theorem exists_half {lo hi : ℚ} (hlo : lo < 1 - 1 / 20000) (hhi : 1 / 20000 < hi)
    (hlen : lo + 1 / 10000 < hi) :
    ∃ k : ℤ, 0 ≤ k ∧ k < 10000 ∧ lo < (k + 1 / 2) / 10000 ∧ (k + 1 / 2) / 10000 < hi := by
  by_cases htop : 1 - 1 / 20000 < hi
  · exact ⟨9999, by norm_num, by norm_num, by push_cast; linarith, by push_cast; linarith⟩
  · have hceil : 10000 * hi - 1 / 2 ≤ ⌈10000 * hi - 1 / 2⌉ := Int.le_ceil _
    have hceil' : (⌈10000 * hi - 1 / 2⌉ : ℚ) < 10000 * hi - 1 / 2 + 1 := Int.ceil_lt_add_one _
    refine ⟨⌈10000 * hi - 1 / 2⌉ - 1, ?_, ?_, ?_, ?_⟩
    · have hpos : 0 < ⌈10000 * hi - 1 / 2⌉ := Int.ceil_pos.mpr (by linarith)
      omega
    · have hle : ⌈10000 * hi - 1 / 2⌉ ≤ 9999 := Int.ceil_le.mpr (by push_cast; linarith)
      omega
    · push_cast
      linarith
    · push_cast
      linarith

/-! ## The rules -/

/-- Every rule that fires on one request fires on the other. -/
def MoreRules (request request' : FraudHybridScoreRequest) : Prop :=
  ∀ rule ∈ hybridRules, rule.fires request = true → rule.fires request' = true

theorem sum_weights_le {rules : List HybridRule} {request request' : FraudHybridScoreRequest}
    (hweight : ∀ rule ∈ rules, 0 ≤ rule.weight)
    (hfires : ∀ rule ∈ rules, rule.fires request = true → rule.fires request' = true) :
    ((rules.filter fun rule => rule.fires request).map HybridRule.weight).sum ≤
      ((rules.filter fun rule => rule.fires request').map HybridRule.weight).sum := by
  induction rules with
  | nil => simp
  | cons rule rules ih =>
      obtain ⟨hnonneg, hweight⟩ := List.forall_mem_cons.mp hweight
      obtain ⟨hfire, hfires⟩ := List.forall_mem_cons.mp hfires
      have htail := ih hweight hfires
      rw [List.filter_cons, List.filter_cons]
      by_cases h : rule.fires request = true
      · simpa [h, hfire h] using htail
      · rw [if_neg h]
        split
        · simp only [List.map_cons, List.sum_cons]
          linarith
        · exact htail

theorem buildHybridRuleScore_mono {request request' : FraudHybridScoreRequest}
    (h : MoreRules request request') :
    (buildHybridRuleScore request).1 ≤ (buildHybridRuleScore request').1 := by
  have hweight : ∀ rule ∈ hybridRules, 0 ≤ rule.weight := by
    simp only [hybridRules, List.forall_mem_cons]
    norm_num
  exact min_le_min le_rfl (sum_weights_le hweight h)

/-! ## The sigmoid -/

section Sigmoid

variable {exp : ℚ → ℚ}

theorem normalizeAnomalyScore_pos (hexp : IsExp exp) (raw : ℚ) :
    0 < normalizeAnomalyScore exp raw := by
  have hpos := hexp.pos (ANOMALY_SIGMOID_SCALE * raw)
  unfold normalizeAnomalyScore
  positivity

theorem normalizeAnomalyScore_lt_one (hexp : IsExp exp) (raw : ℚ) :
    normalizeAnomalyScore exp raw < 1 := by
  have hpos := hexp.pos (ANOMALY_SIGMOID_SCALE * raw)
  rw [normalizeAnomalyScore, div_lt_one (by linarith)]
  linarith

/-- An output of zero is halfway, whatever the exponential is. -/
theorem normalizeAnomalyScore_zero (hexp : IsExp exp) : normalizeAnomalyScore exp 0 = 1 / 2 := by
  rw [normalizeAnomalyScore, mul_zero, hexp.zero]
  norm_num

/-- The polarity of the code. -/
theorem normalizeAnomalyScore_strictMono (hexp : IsExp exp) :
    StrictMono (normalizeAnomalyScore exp) := by
  intro raw raw' hlt
  have hscaled : ANOMALY_SIGMOID_SCALE * raw' < ANOMALY_SIGMOID_SCALE * raw := by
    rw [ANOMALY_SIGMOID_SCALE]
    linarith
  have hpos := hexp.pos (ANOMALY_SIGMOID_SCALE * raw')
  have hmono := hexp.strictMono hscaled
  exact one_div_lt_one_div_of_lt (by linarith) (by linarith)

/-- A rational function that is used as an exponential. -/
def ratExp (x : ℚ) : ℚ := if 0 ≤ x then 1 + x else 1 / (1 - x)

theorem isExp_ratExp : IsExp ratExp where
  strictMono := by
    intro x y hxy
    unfold ratExp
    split_ifs with hx hy hy
    · linarith
    · linarith
    · have hone : 1 / (1 - x) < 1 := by
        rw [div_lt_one (by linarith)]
        linarith
      linarith
    · exact one_div_lt_one_div_of_lt (by linarith) (by linarith)
  pos x := by
    unfold ratExp
    split_ifs with hx
    · linarith
    · exact one_div_pos.mpr (by linarith)
  zero := by simp [ratExp]

/-- It takes every positive value, so that the sigmoid takes every value between zero and one. -/
theorem exists_normalizeAnomalyScore {t : ℚ} (h0 : 0 < t) (h1 : t < 1) :
    ∃ raw, normalizeAnomalyScore ratExp raw = t := by
  have hsurj : ∀ y : ℚ, 0 < y → ∃ x, ratExp x = y := by
    intro y hy
    by_cases hle : 1 ≤ y
    · refine ⟨y - 1, ?_⟩
      rw [ratExp, if_pos (by linarith)]
      ring
    · have hlt : 1 < 1 / y := (one_lt_div hy).mpr (by linarith)
      refine ⟨1 - 1 / y, ?_⟩
      rw [ratExp, if_neg (by linarith), sub_sub_cancel, one_div_one_div]
  have hpos : 0 < 1 / t - 1 := sub_pos.mpr ((one_lt_div h0).mpr h1)
  obtain ⟨x, hx⟩ := hsurj (1 / t - 1) hpos
  refine ⟨x / ANOMALY_SIGMOID_SCALE, ?_⟩
  have hscale : ANOMALY_SIGMOID_SCALE ≠ 0 := by norm_num [ANOMALY_SIGMOID_SCALE]
  rw [normalizeAnomalyScore, mul_div_cancel₀ _ hscale, hx, add_sub_cancel, one_div_one_div]

end Sigmoid

/-! ## The law -/

/-- With one of the inputs changed, the models' answers included, and all else fixed. -/
structure Scored (exp : ℚ → ℚ) (io : MlIo) (redis : MlRedis) (request : FraudHybridScoreRequest)
    (p : ℚ) : Prop where
  range : ∀ models raw, models.answers request = some (raw, p) →
    (calculateHybridFraudScore exp { io with models } redis request).fraud_score ∈
      Set.Icc (0 : ℚ) 100
  anomaly : ∀ models models' raw raw', models.answers request = some (raw, p) →
    models'.answers request = some (raw', p) → raw' ≤ raw →
    (calculateHybridFraudScore exp { io with models } redis request).fraud_score ≤
      (calculateHybridFraudScore exp { io with models := models' } redis request).fraud_score
  classifier : ∀ models models' raw p', models.answers request = some (raw, p) →
    models'.answers request = some (raw, p') → p ≤ p' →
    (calculateHybridFraudScore exp { io with models } redis request).fraud_score ≤
      (calculateHybridFraudScore exp { io with models := models' } redis request).fraud_score
  rules : ∀ models models' request' raw, models.answers request = some (raw, p) →
    models'.answers request' = some (raw, p) → MoreRules request request' →
    request'.auth_token = request.auth_token →
    (calculateHybridFraudScore exp { io with models } redis request).fraud_score ≤
      (calculateHybridFraudScore exp { io with models := models' } redis request').fraud_score

section Law

variable {exp : ℚ → ℚ} {io : MlIo} {redis : MlRedis} {request : FraudHybridScoreRequest} {p : ℚ}

theorem fraud_score_mem {models : FraudModels} {raw : ℚ}
    (hanswers : models.answers request = some (raw, p)) :
    (calculateHybridFraudScore exp { io with models } redis request).fraud_score ∈
      Set.Icc (0 : ℚ) 100 := by
  rw [fraud_score_eq exp io redis hanswers]
  split <;> exact scoreOf_mem _

/-- More of the other two scores is never less in all. -/
theorem fraud_score_le_of_base {models models' : FraudModels}
    {request' : FraudHybridScoreRequest} {raw p' : ℚ}
    (hanswers : models.answers request = some (raw, p))
    (hanswers' : models'.answers request' = some (raw, p'))
    (htoken : request'.auth_token = request.auth_token)
    (hrules : (buildHybridRuleScore request).1 ≤ (buildHybridRuleScore request').1) (hp : p ≤ p') :
    (calculateHybridFraudScore exp { io with models } redis request).fraud_score ≤
      (calculateHybridFraudScore exp { io with models := models' } redis request').fraud_score := by
  have hrevoked : isTokenRevoked io redis request' = isTokenRevoked io redis request := by
    rw [isTokenRevoked, isTokenRevoked, htoken]
  rw [fraud_score_eq exp io redis hanswers, fraud_score_eq exp io redis hanswers', hrevoked]
  split
  · exact le_rfl
  · refine scoreOf_mono (add_le_add_left ?_ _)
    rw [baseMix, baseMix]
    linarith

/-- The law holds where the anomaly has no say. -/
theorem scored_of_const {c : ℚ} (hexp : IsExp exp)
    (hconst : isTokenRevoked io redis request = false → ∀ anomaly_score : ℚ, 0 < anomaly_score →
      anomaly_score < 1 → scoreOf (baseMix io redis request p + 3 / 10 * anomaly_score) = c) :
    Scored exp io redis request p where
  range _ _ hanswers := fraud_score_mem hanswers
  anomaly models models' raw raw' hanswers hanswers' _ := by
    rw [fraud_score_eq exp io redis hanswers, fraud_score_eq exp io redis hanswers']
    cases hrevoked : isTokenRevoked io redis request with
    | true => rw [if_pos rfl, if_pos rfl]
    | false =>
        have hscore (raw : ℚ) := hconst hrevoked (normalizeAnomalyScore exp raw)
          (normalizeAnomalyScore_pos hexp raw) (normalizeAnomalyScore_lt_one hexp raw)
        rw [if_neg (by decide), if_neg (by decide), hscore, hscore]
  classifier _ _ _ _ hanswers hanswers' hp :=
    fraud_score_le_of_base hanswers hanswers' rfl le_rfl hp
  rules _ _ _ _ hanswers hanswers' hmore htoken :=
    fraud_score_le_of_base hanswers hanswers' htoken (buildHybridRuleScore_mono hmore) le_rfl

/-- Models that answer every request alike. -/
def answering (raw p : ℚ) : FraudModels := ⟨some fun _ => some raw, some fun _ => some p⟩

theorem answering_answers (raw p : ℚ) (request : FraudHybridScoreRequest) :
    (answering raw p).answers request = some (raw, p) := rfl

/-- Between the two clamps some outlier scores less than some inlier. -/
theorem not_scored_of_between (hrevoked : isTokenRevoked io redis request = false)
    (hlow : baseMix io redis request p < 1 - 1 / 20000)
    (hhigh : 1 / 20000 < baseMix io redis request p + 3 / 10) :
    ¬Scored ratExp io redis request p := by
  intro h
  obtain ⟨k, hk, hk', hbelow, habove⟩ := exists_half hlow hhigh (by linarith)
  -- the anomaly score at which the rounded score changes
  obtain ⟨t, ht⟩ : ∃ t : ℚ, baseMix io redis request p + 3 / 10 * t = (k + 1 / 2) / 10000 :=
    ⟨((k + 1 / 2) / 10000 - baseMix io redis request p) / (3 / 10), by ring⟩
  obtain ⟨raw', hraw'⟩ := exists_normalizeAnomalyScore (t := t / 2) (by linarith) (by linarith)
  obtain ⟨raw, hraw⟩ := exists_normalizeAnomalyScore (t := (t + 1) / 2) (by linarith) (by linarith)
  have hle : raw' ≤ raw := by
    rw [← (normalizeAnomalyScore_strictMono isExp_ratExp).le_iff_le, hraw', hraw]
    linarith
  have hscores := h.anomaly _ _ raw raw' (answering_answers raw p request)
    (answering_answers raw' p request) hle
  rw [fraud_score_eq _ _ _ (answering_answers raw p request),
    fraud_score_eq _ _ _ (answering_answers raw' p request), hrevoked, if_neg (by decide),
    if_neg (by decide), hraw, hraw'] at hscores
  exact absurd hscores (not_le.mpr (scoreOf_lt_scoreOf hk hk' (by linarith) (by linarith)))

end Law

/-- An anomaly never lowers the score just when it cannot change it: the token is revoked, or the
rules, the classifier and the drift alone are beyond one of the clamps. -/
theorem scored_iff (io : MlIo) (redis : MlRedis) (request : FraudHybridScoreRequest) (p : ℚ) :
    (∀ exp, IsExp exp → Scored exp io redis request p) ↔
      isTokenRevoked io redis request = true ∨
        1 - 1 / 20000 ≤ baseMix io redis request p ∨
        baseMix io redis request p + 3 / 10 ≤ 1 / 20000 := by
  constructor
  · intro h
    by_contra hnone
    simp only [not_or, not_le, Bool.not_eq_true] at hnone
    obtain ⟨hrevoked, hlow, hhigh⟩ := hnone
    exact not_scored_of_between hrevoked hlow hhigh (h ratExp isExp_ratExp)
  · rintro (hrevoked | hhigh | hlow) exp hexp
    · exact scored_of_const (c := 0) hexp fun hnot => by simp [hrevoked] at hnot
    · exact scored_of_const hexp fun _ t h0 _ => scoreOf_eq_hundred (by linarith)
    · exact scored_of_const hexp fun _ t _ h1 => scoreOf_eq_zero (by linarith)

/-- No rule fires: the outlier scores 10, the inlier at the same distance 20. -/
def quietRequest : FraudHybridScoreRequest where
  device_switch_frequency := 0
  gps_speed := 20
  h3_zone_consistency := 1
  claims_last_30d := 0
  claims_last_24h := 0
  earnings_pattern_deviation := 0

theorem not_scored : ∃ exp, IsExp exp ∧ ¬Scored exp ⟨{}, true, true⟩ {} quietRequest 0 := by
  refine ⟨ratExp, isExp_ratExp, fun h => ?_⟩
  have hscores := h.anomaly _ _ (1 / 5) (-1 / 5) (answering_answers _ _ _) (answering_answers _ _ _)
    (by norm_num)
  revert hscores
  decide +kernel

end Aegis.MlFraudService
