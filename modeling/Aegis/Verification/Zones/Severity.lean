import Aegis.Verification.Payouts.ZoneGates
import Aegis.Verification.Zones.Labels
import Aegis.Verification.Zones.Sentinel
import Aegis.Verification.Zones.Writes

/-! # Severity and approval

The score of a cell rises with rain and bad air. The overrides for the worst of both replace
the one label that the trigger and the settlement accept. -/

namespace Aegis.Zones

open HalfEven RedisState CircuitBreaker PipelineService Payouts JsString
open RiskService (scaled deriveFloodProbability RiskScoreRequest currentLf smoothedLf
  calculateRiskScore rainCluster aqiCluster)

/-! ## The zone state of a score -/

section Zone

variable {features : FeatureResponse} {is_gridlock : Bool} {Lf : ℚ}

theorem checkParametricOverrides_eq_none_iff :
    checkParametricOverrides features is_gridlock = none ↔
      features.rainfall < 50 ∧ features.aqi < 300 ∧ is_gridlock = false := by
  unfold checkParametricOverrides
  split_ifs with hrain haqi hgridlock
  · simp [hrain]
  · simp [haqi]
  · simp [hgridlock]
  · simp [not_le.mp hrain, not_le.mp haqi, hgridlock]

theorem clamp_of_mem {x lo hi : ℚ} (hlo : lo ≤ x) (hhi : x ≤ hi) :
    RiskService.clamp x lo hi = x := by
  rw [RiskService.clamp, min_eq_right hhi, max_eq_right hlo]

/-- No override is the label `HALTED`; without one the alert or the score has to say so. -/
theorem zoneOf_eq_halted_iff (hnonneg : 0 ≤ Lf) (hle : Lf ≤ 1) :
    (zoneOf features is_gridlock Lf).2 = "HALTED" ↔
      checkParametricOverrides features is_gridlock = none ∧
        (features.civic_alert = true ∨ 75 / 100 < Lf) := by
  cases hoverride : checkParametricOverrides features is_gridlock with
  | some override =>
      simp only [zoneOf, deriveZone, hoverride, reduceCtorEq, false_and, iff_false]
      unfold checkParametricOverrides at hoverride
      split_ifs at hoverride <;> cases hoverride <;> decide
  | none =>
      have hstate : getZoneState features.civic_alert Lf = "HALTED" ↔
          features.civic_alert = true ∨ 75 / 100 < Lf := getZoneState_eq_halted_iff
      simp only [zoneOf, deriveZone, hoverride, sanityCheck, clamp_of_mem hnonneg hle, true_and]
      rw [← hstate]
      split_ifs with hkept
      · rfl
      · have hnot : getZoneState features.civic_alert Lf ≠ "HALTED" :=
          fun heq => hkept (by simp [heq])
        rw [iff_false_right hnot, getZoneState_eq_halted_iff]
        rintro (hcivic | hLf)
        · cases hcivic
        · exact hnot (hstate.mpr (.inr hLf))

theorem zoneOf_Lf (hoverride : checkParametricOverrides features is_gridlock = none)
    (hnonneg : 0 ≤ Lf) (hle : Lf ≤ 1) : (zoneOf features is_gridlock Lf).1 = Lf := by
  simp [zoneOf, deriveZone, hoverride, sanityCheck, clamp_of_mem hnonneg hle]

end Zone

/-! ## A claim in changing weather -/

/-- All that the answer to a claim depends on apart from rain and air: the execution of the
pipeline, the request to the trigger and the reading at the zone gate. -/
structure Disruption where
  cell : ZoneCell
  features : FeatureResponse
  traffic : Option Traffic
  avgSpeed : ℚ
  previous : Option ℚ
  request : PipelineRequest
  pricing : PricingPayload → Option ℚ
  before : PipelineState
  now : ℤ
  monotonic : ℚ
  driverId : String
  fraudScore : Option JsNumber
  latLngToCell : ℚ → ℚ → String
  monitored : ZoneState
  readAt : ℤ

namespace Disruption

variable (q : Disruption) (rainfall aqi : ℚ)

def weather : FeatureResponse := { q.features with rainfall, aqi }

/-- The ML service answers with `calculate_risk_score`. -/
def io : PipelineIo where
  now := q.now
  monotonic := q.monotonic
  features := some (q.weather rainfall aqi)
  avgSpeed := q.avgSpeed
  traffic := q.traffic
  risk := fun payload =>
    let response := (calculateRiskScore payload q.previous).1
    some ⟨response.Lf, response.risk_level⟩
  pricing := q.pricing

def after : Redis :=
  (executePipelineCore {} (q.io rainfall aqi) q.request q.cell.h3Cell q.before).2.redis

/-- The features are let in, the breaker lets the ML service be asked, and the record is read
before it expires. -/
structure Live : Prop where
  admitted : admitFeatures {} q.features = .ok ()
  asked : (allowRequest q.monotonic q.before.breaker).1 = true
  fresh : q.readAt < q.now + REDIS_ZONE_TTL * 1000

/-- The trigger approves the claim and the zone gate of `processPayout` lets it pass. -/
structure Passes : Prop where
  approved : (TriggerService.evaluateTrigger q.latLngToCell ⟨q.readAt, true, q.monitored⟩
    (q.after rainfall aqi)
    { driverId := q.driverId, h3Cell := some q.cell.h3Cell, fraudScore := q.fraudScore }).decision =
      .APPROVED
  payable : zoneLabel (RedisState.getZoneState true q.readAt (q.after rainfall aqi)
    q.cell.h3Cell) = "HALTED"

def score : ℚ :=
  (calculateRiskScore (riskPayload (q.io rainfall aqi) (q.weather rainfall aqi)) q.previous).1.Lf

/-- The loss fraction and the label of the record. -/
def zone : ℚ × String :=
  zoneOf (q.weather rainfall aqi) (q.traffic.any Traffic.is_gridlock) (q.score rainfall aqi)

variable {q rainfall aqi}

theorem score_mem : 0 ≤ q.score rainfall aqi ∧ q.score rainfall aqi ≤ 1 :=
  calculateRiskScore_mem _ _

theorem origin_scored (h : q.Live) :
    (origin (q.io rainfall aqi) q.cell.h3Cell (q.weather rainfall aqi) q.before).Lf =
      q.score rainfall aqi := by
  have hasked : (allowRequest (q.io rainfall aqi).monotonic q.before.breaker).1 = true := h.asked
  unfold origin mlAnswer
  rw [if_pos hasked]
  rfl

/-- The record that the trigger and the gate read. -/
theorem read_after (h : q.Live) :
    RedisState.getZoneState true q.readAt (q.after rainfall aqi) q.cell.h3Cell =
      some { Lf := some (q.zone rainfall aqi).1, lf_score := some (q.zone rainfall aqi).1
             zone_state := some (q.zone rainfall aqi).2 } := by
  obtain ⟨breaker, hstate⟩ := executePipelineCore_state (q.io rainfall aqi) q.cell.h3Cell
    q.request q.before
  have hadmitted : admitted (q.io rainfall aqi) = some (q.weather rainfall aqi) := by
    have hok : admitFeatures {} (q.weather rainfall aqi) = .ok () := h.admitted
    simp [admitted, io, Option.filter, hok]
  rw [hadmitted] at hstate
  dsimp only at hstate
  rw [origin_scored h] at hstate
  rw [after, hstate]
  simp only [RedisState.getZoneState, if_true, writeZoneToRedis, io]
  exact get_setEx_self _ _ _ h.fresh

theorem passes_iff (h : q.Live) :
    q.Passes rainfall aqi ↔
      (rainfall < 50 ∧ aqi < 300 ∧ q.traffic.any Traffic.is_gridlock = false) ∧
        (q.features.civic_alert = true ∨ 75 / 100 < q.score rainfall aqi) ∧
        6 / 10 ≤ q.score rainfall aqi ∧ TriggerService.fraudGateOf q.fraudScore = .PASS := by
  obtain ⟨hnonneg, hle⟩ : 0 ≤ q.score rainfall aqi ∧ q.score rainfall aqi ≤ 1 := score_mem
  have hoverride : checkParametricOverrides (q.weather rainfall aqi)
      (q.traffic.any Traffic.is_gridlock) = none ↔
        rainfall < 50 ∧ aqi < 300 ∧ q.traffic.any Traffic.is_gridlock = false :=
    checkParametricOverrides_eq_none_iff
  have hhalted : (q.zone rainfall aqi).2 = "HALTED" ↔
      checkParametricOverrides (q.weather rainfall aqi) (q.traffic.any Traffic.is_gridlock) =
          none ∧ (q.features.civic_alert = true ∨ 75 / 100 < q.score rainfall aqi) :=
    zoneOf_eq_halted_iff hnonneg hle
  constructor
  · rintro ⟨happroved, hpayable⟩
    rw [evaluateTrigger_approved_iff q.latLngToCell rfl (read_after h)] at happroved
    rw [read_after h] at hpayable
    obtain ⟨-, hLf, hfraud⟩ := happroved
    obtain ⟨hnone, hsevere⟩ := hhalted.mp hpayable
    have hscore : (q.zone rainfall aqi).1 = q.score rainfall aqi := zoneOf_Lf hnone hnonneg hle
    exact ⟨hoverride.mp hnone, hsevere, hscore ▸ hLf, hfraud⟩
  · rintro ⟨hweather, hsevere, hLf, hfraud⟩
    have hnone := hoverride.mpr hweather
    have hlabel := hhalted.mpr ⟨hnone, hsevere⟩
    have hscore : (q.zone rainfall aqi).1 = q.score rainfall aqi := zoneOf_Lf hnone hnonneg hle
    have hupper : toUpperCase "HALTED" = "HALTED" := by decide
    constructor
    · rw [evaluateTrigger_approved_iff q.latLngToCell rfl (read_after h)]
      exact ⟨(congrArg toUpperCase hlabel).trans hupper, hscore ▸ hLf, hfraud⟩
    · rw [read_after h]
      exact hlabel

theorem score_mono {rainfall' aqi' : ℚ} (hrain : rainfall ≤ rainfall') (haqi : aqi ≤ aqi') :
    q.score rainfall aqi ≤ q.score rainfall' aqi' := by
  refine calculateRiskScore_mono _ q.previous ?_ ?_
  · exact max_le_max le_rfl (min_le_min le_rfl hrain)
  · exact max_le_max le_rfl (min_le_min le_rfl haqi)

theorem Passes.of_worse {rainfall' aqi' : ℚ} (h : q.Live) (hpass : q.Passes rainfall aqi)
    (hrain : rainfall ≤ rainfall') (haqi : aqi ≤ aqi') (hflood : rainfall' < 50)
    (htoxic : aqi' < 300) : q.Passes rainfall' aqi' := by
  have hscore : q.score rainfall aqi ≤ q.score rainfall' aqi' := score_mono hrain haqi
  obtain ⟨⟨-, -, hgridlock⟩, hsevere, hLf, hfraud⟩ := (passes_iff h).mp hpass
  refine (passes_iff h).mpr ⟨⟨hflood, htoxic, hgridlock⟩, ?_, hLf.trans hscore, hfraud⟩
  exact hsevere.imp_right fun hlt => hlt.trans_le hscore

/-- A claim that passes goes on passing until the rain floods the cell or the air is toxic. -/
theorem passes_worse_iff (h : q.Live) (hpass : q.Passes rainfall aqi) :
    (∀ rainfall', rainfall ≤ rainfall' → (q.Passes rainfall' aqi ↔ rainfall' < 50)) ∧
      ∀ aqi', aqi ≤ aqi' → (q.Passes rainfall aqi' ↔ aqi' < 300) := by
  obtain ⟨⟨hflood, htoxic, -⟩, -⟩ := (passes_iff h).mp hpass
  constructor
  · intro rainfall' hworse
    constructor
    · intro hpass'
      exact ((passes_iff h).mp hpass').1.1
    · intro hflood'
      exact hpass.of_worse h hworse le_rfl hflood' htoxic
  · intro aqi' hworse
    constructor
    · intro hpass'
      exact ((passes_iff h).mp hpass').1.2.1
    · intro htoxic'
      exact hpass.of_worse h le_rfl hworse hflood htoxic'

/-! ## A storm -/

/-- Heavy rain in bad air, in a cell without any other trouble. -/
def storm : Disruption where
  cell := ZoneGates.cell
  features :=
    { rainfall := 45, temperature := 25, aqi := 250, active_orders := 10, active_riders := 10
      demand_ratio := 1, sla_breach_rate := 0, avg_delivery_delay_min := 0
      civic_alert := false, is_fallback := true }
  traffic := none
  avgSpeed := 20
  previous := none
  request := { Ew := 8000 }
  pricing := fun _ => none
  before := {}
  now := 0
  monotonic := 0
  driverId := "u1"
  fraudScore := some (.fin 0)
  latLngToCell := fun _ _ => ""
  monitored := {}
  readAt := 0

theorem storm_live : storm.Live := ⟨by decide +kernel, by decide, by decide⟩

theorem storm_passes : storm.Passes 45 250 :=
  (passes_iff storm_live).mpr (by decide +kernel)

theorem storm_passes_worse :
    (storm.Passes 49 250 ↔ (49 : ℚ) < 50) ∧ (storm.Passes 45 299 ↔ (299 : ℚ) < 300) :=
  ⟨(passes_worse_iff storm_live storm_passes).1 49 (by norm_num),
    (passes_worse_iff storm_live storm_passes).2 299 (by norm_num)⟩

/-- The claim is paid at 45 mm of rain and refused at 50, paid in air of 250 and refused in
air of 300. -/
theorem not_passes_worse :
    storm.Live ∧ storm.Passes 45 250 ∧ ¬storm.Passes 50 250 ∧ ¬storm.Passes 45 300 := by
  refine ⟨storm_live, storm_passes, ?_, ?_⟩
  · intro h
    exact absurd ((passes_iff storm_live).mp h).1.1 (lt_irrefl _)
  · intro h
    exact absurd ((passes_iff storm_live).mp h).1.2.1 (lt_irrefl _)

end Disruption

end Aegis.Zones
