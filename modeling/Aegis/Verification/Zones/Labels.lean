import Aegis.Model.Pipeline
import Aegis.Model.Premium

/-! # One loss fraction, one zone state

Three services derive the label of a cell from its loss fraction, each by thresholds of its
own. -/

namespace Aegis.Zones

open HalfEven RedisState

/-- Who writes the record of a cell. -/
inductive Producer where
  | pipeline
  | aggregator
  | riskService
  deriving DecidableEq, Repr

/-- The label that the producer derives from a score alone. -/
def Producer.label : Producer → ℚ → String
  | pipeline => PipelineService.getZoneState false
  | aggregator => ZoneAggregator.determineState
  | riskService => RiskService.toZoneState

def zoneStates : List String := ["NORMAL", "SLOW", "DANGEROUS", "HALTED"]

/-- The producers call the cell payable together, in words that their readers know. -/
structure OneLabel (Lf : ℚ) : Prop where
  halted : ∀ p q : Producer, p.label Lf = "HALTED" ↔ q.label Lf = "HALTED"
  known : ∀ p : Producer, p.label Lf ∈ zoneStates

/-! ## The three ladders -/

theorem getZoneState_eq_determineState (Lf : ℚ) :
    PipelineService.getZoneState false Lf = ZoneAggregator.determineState Lf := rfl

theorem getZoneState_eq_halted_iff {civic_alert : Bool} {Lf : ℚ} :
    PipelineService.getZoneState civic_alert Lf = "HALTED" ↔
      civic_alert = true ∨ 75 / 100 < Lf := by
  unfold PipelineService.getZoneState
  split_ifs with hcivic hhalted hdangerous hslow
  · simp [hcivic]
  · simp [hhalted]
  · simp [hcivic, hhalted]
  · simp [hcivic, hhalted]
  · simp [hcivic, hhalted]

theorem getZoneState_mem (civic_alert : Bool) (Lf : ℚ) :
    PipelineService.getZoneState civic_alert Lf ∈ zoneStates := by
  unfold PipelineService.getZoneState
  split_ifs <;> simp [zoneStates]

theorem toZoneState_eq_halted_iff {Lf : ℚ} :
    RiskService.toZoneState Lf = "HALTED" ↔ 75 / 100 ≤ Lf := by
  unfold RiskService.toZoneState
  split_ifs with hhalted helevated
  · simp [hhalted]
  · simp [hhalted]
  · simp [hhalted]

theorem toZoneState_mem_iff {Lf : ℚ} :
    RiskService.toZoneState Lf ∈ zoneStates ↔ Lf < 4 / 10 ∨ 75 / 100 ≤ Lf := by
  unfold RiskService.toZoneState
  split_ifs with hhalted helevated
  · simp [zoneStates, hhalted]
  · simp [zoneStates, hhalted, helevated]
  · simp [zoneStates, not_le.mp helevated]

/-! ## What the producers write -/

section Written

/-- Without an override or an alert the pipeline writes the label of the score it writes. -/
theorem deriveZone_label {features : PipelineService.FeatureResponse} {is_gridlock : Bool}
    {Lf premium : ℚ}
    (hoverride : PipelineService.checkParametricOverrides features is_gridlock = none)
    (hcivic : features.civic_alert = false) :
    (PipelineService.deriveZone features is_gridlock Lf premium).2.2 =
      Producer.pipeline.label (PipelineService.deriveZone features is_gridlock Lf premium).1 := by
  simp only [PipelineService.deriveZone, hoverride, hcivic, PipelineService.sanityCheck,
    Producer.label]
  split_ifs with hkept
  · have hhalted : PipelineService.getZoneState false Lf = "HALTED" := by
      have hmem := getZoneState_mem false Lf
      simp only [zoneStates, List.mem_cons, List.not_mem_nil, or_false] at hmem hkept
      rcases hmem with h | h | h | h
      all_goals first
        | exact h
        | simp [h] at hkept
    have hLf : 75 / 100 < Lf := by simpa using getZoneState_eq_halted_iff.mp hhalted
    have hclamped : 75 / 100 < RiskService.clamp Lf 0 1 :=
      lt_max_of_lt_right (lt_min (by norm_num) hLf)
    rw [hhalted, getZoneState_eq_halted_iff.mpr (.inr hclamped)]
  · rfl

/-- What is published for a fresh feature vector is a score rounded to four decimals under
the risk service's label of the exact one. -/
theorem publishZoneState_label {model : RiskService.RiskModel} {now : ℤ} {h3_cell : String}
    {features : PipelineService.PublishedFeatures} {post : PipelineService.ZonePost}
    (h : PipelineService.publishZoneState (fun r => some (RiskService.scoreRiskModel model r)) now
      h3_cell features = some post) :
    ∃ Lf, 0 ≤ Lf ∧ Lf ≤ 1 ∧ post.Lf = roundTo 4 Lf ∧
      post.zone_state = Producer.riskService.label Lf := by
  cases h
  simp only [RiskService.scoreRiskModel]
  split
  · exact ⟨_, le_max_left _ _, max_le zero_le_one (min_le_left _ _), rfl, rfl⟩
  · exact ⟨_, le_max_left _ _, max_le zero_le_one (min_le_left _ _), rfl, rfl⟩

/-- `PremiumService` stores the answer of the risk service under its own label. -/
theorem resolveLf_stores {io : PremiumService.PremiumIo} {redis : Redis} {h3Cell : String}
    {risk : PremiumService.RiskScoreResponse} (hrisk : io.risk = some risk)
    (hempty : getZoneState io.redisUp io.now redis h3Cell = none) :
    (PremiumService.resolveLf io redis h3Cell).2 = setZoneState io.redisUp io.now redis h3Cell
      { Lf := some risk.lf_score, zone_state := risk.zone_state } := by
  simp [PremiumService.resolveLf, hempty, PremiumService.resolveLfFromMlService, hrisk]

end Written

/-! ## Agreement -/

/-- The labels agree below the first step of the risk service and above its last one. -/
theorem oneLabel_iff (Lf : ℚ) : OneLabel Lf ↔ Lf < 4 / 10 ∨ 75 / 100 < Lf := by
  have hagg : ∀ Lf, Producer.aggregator.label Lf = Producer.pipeline.label Lf :=
    fun Lf => (getZoneState_eq_determineState Lf).symm
  have hpipeline : Producer.pipeline.label Lf = "HALTED" ↔ 75 / 100 < Lf := by
    rw [Producer.label, getZoneState_eq_halted_iff]
    simp
  have hrisk : Producer.riskService.label Lf = "HALTED" ↔ 75 / 100 ≤ Lf :=
    toZoneState_eq_halted_iff
  constructor
  · intro h
    rcases toZoneState_mem_iff.mp (h.known .riskService) with hlow | hhigh
    · exact .inl hlow
    · exact .inr (hpipeline.mp ((h.halted .riskService .pipeline).mp (hrisk.mpr hhigh)))
  · intro h
    have hsame : 75 / 100 < Lf ↔ 75 / 100 ≤ Lf := by
      constructor
      · exact le_of_lt
      · intro hle
        rcases h with hlow | hhigh
        · linarith
        · exact hhigh
    have hall : ∀ p : Producer, p.label Lf = "HALTED" ↔ 75 / 100 < Lf := by
      intro p
      cases p with
      | pipeline => exact hpipeline
      | aggregator => rw [hagg, hpipeline]
      | riskService => rw [hrisk, hsame]
    refine ⟨fun p q => (hall p).trans (hall q).symm, fun p => ?_⟩
    cases p with
    | pipeline => exact getZoneState_mem false Lf
    | aggregator =>
        rw [hagg]
        exact getZoneState_mem false Lf
    | riskService => exact toZoneState_mem_iff.mpr (h.imp_right le_of_lt)

/-- At the payout boundary one producer halts the cell and two do not; below it the risk
service says `ELEVATED`. -/
theorem not_oneLabel : ¬OneLabel (75 / 100) ∧ ¬OneLabel (1 / 2) := by
  constructor
  · intro h
    exact absurd ((h.halted .riskService .pipeline).mp (by decide +kernel)) (by decide +kernel)
  · intro h
    exact absurd (h.known .riskService) (by decide +kernel)

end Aegis.Zones
