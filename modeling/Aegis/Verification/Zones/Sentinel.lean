import Aegis.Model.RiskService

/-! # The monotone score

Every cluster of the score rises with its signal, the product of their complements falls with
each of them, and the smoothing keeps the order of two histories. -/

namespace Aegis.Zones

open HalfEven
open RiskService (scaled deriveFloodProbability RiskScoreRequest RiskScoreResponse currentLf
  smoothedLf calculateRiskScore rainCluster aqiCluster SmoothedScore getPreviousLf riskScoreCall
  riskScoreHistory)

/-! ## The score is monotone -/

section Score

theorem scaled_nonneg (value lo hi : ℚ) : 0 ≤ scaled value lo hi := by
  unfold scaled
  split_ifs with hlow hhigh
  · rfl
  · norm_num
  · exact div_nonneg (by linarith) (by linarith)

theorem scaled_le_one (value lo hi : ℚ) : scaled value lo hi ≤ 1 := by
  unfold scaled
  split_ifs with hlow hhigh
  · norm_num
  · rfl
  · rw [div_le_one (by linarith)]
    linarith

theorem scaled_mono (lo hi : ℚ) : Monotone fun value => scaled value lo hi := by
  intro x y hxy
  have hnonneg := scaled_nonneg y lo hi
  have hle := scaled_le_one x lo hi
  dsimp only
  unfold scaled at *
  split_ifs at * with hx hx' hy hy'
  all_goals first
    | assumption
    | linarith
    | exact div_le_div_of_nonneg_right (by linarith) (by linarith)

theorem deriveFloodProbability_nonneg (rainfall : ℚ) : 0 ≤ deriveFloodProbability rainfall := by
  unfold deriveFloodProbability
  split_ifs with hlow
  · rfl
  · exact le_min zero_le_one (div_nonneg (by linarith) (by norm_num))

theorem deriveFloodProbability_le_one (rainfall : ℚ) : deriveFloodProbability rainfall ≤ 1 := by
  unfold deriveFloodProbability
  split_ifs with hlow
  · norm_num
  · exact min_le_left _ _

theorem deriveFloodProbability_mono : Monotone deriveFloodProbability := by
  intro x y hxy
  have hnonneg := deriveFloodProbability_nonneg y
  unfold deriveFloodProbability at *
  split_ifs at * with hx hy
  · rfl
  · exact hnonneg
  · linarith
  · exact min_le_min le_rfl (div_le_div_of_nonneg_right hxy (by norm_num))

variable (request : RiskScoreRequest)

theorem rainCluster_le_one : rainCluster request ≤ 1 := by
  have hrain := scaled_le_one request.rainfall 5 40
  have hflood := deriveFloodProbability_le_one request.rainfall
  unfold rainCluster RiskService.SEVERITY_RAIN RiskService.SEVERITY_FLOOD
  exact max_le (by linarith) (by linarith)

theorem aqiCluster_le_one : aqiCluster request ≤ 1 := by
  have haqi := scaled_le_one request.aqi 70 200
  unfold aqiCluster RiskService.SEVERITY_AQI
  linarith

theorem tempCluster_le_one : RiskService.tempCluster request ≤ 1 := by
  have htemp := scaled_le_one request.temperature 36 45
  unfold RiskService.tempCluster RiskService.SEVERITY_TEMP
  linarith

theorem demandCluster_le_one : RiskService.demandCluster request ≤ 1 := by
  have hdemand := scaled_le_one request.demand_ratio 1 2
  unfold RiskService.demandCluster RiskService.pDemand
  linarith

theorem speedCluster_le_one : RiskService.speedCluster request ≤ 1 := by
  have hspeed := scaled_le_one (max 0 (25 - request.avg_speed_kmh.getD 0)) 5 20
  unfold RiskService.speedCluster
  linarith

theorem historyCluster_le_one : RiskService.historyCluster request ≤ 1 := by
  have hhistory : RiskService.pHistory request ≤ 1 := min_le_left _ _
  unfold RiskService.historyCluster
  linarith

theorem volatilityCluster_le_one : RiskService.volatilityCluster request ≤ 1 := by
  have hvolatility : RiskService.pVolatility request ≤ 1 := min_le_left _ _
  unfold RiskService.volatilityCluster
  linarith

theorem calculateRiskScore_mem (previous : Option ℚ) :
    0 ≤ (calculateRiskScore request previous).1.Lf ∧
      (calculateRiskScore request previous).1.Lf ≤ 1 := by
  constructor
  · have hzero := roundTo_mono 4 (le_max_left (0 : ℚ) (min 1 (smoothedLf request previous)))
    rwa [roundTo_zero] at hzero
  · have hone := roundTo_mono 4
      (max_le zero_le_one (min_le_left (1 : ℚ) (smoothedLf request previous)))
    rwa [roundTo_one] at hone

end Score

/-- No signal of `r'` is milder than that of `r`. A missing prior or speed counts as zero, as it
does in the score. -/
structure Milder (r r' : RiskScoreRequest) : Prop where
  rainfall : r.rainfall ≤ r'.rainfall
  temperature : r.temperature ≤ r'.temperature
  aqi : r.aqi ≤ r'.aqi
  demand_ratio : r.demand_ratio ≤ r'.demand_ratio
  history : r.historical_disruption_frequency.getD 0 ≤ r'.historical_disruption_frequency.getD 0
  volatility : r.zone_volatility.getD 0 ≤ r'.zone_volatility.getD 0
  speed : r'.avg_speed_kmh.getD 0 ≤ r.avg_speed_kmh.getD 0

section Order

variable {r r' : RiskScoreRequest}

theorem rainCluster_mono (h : r.rainfall ≤ r'.rainfall) : rainCluster r ≤ rainCluster r' := by
  apply max_le_max
  · exact mul_le_mul_of_nonneg_right (scaled_mono 5 40 h) (by norm_num [RiskService.SEVERITY_RAIN])
  · exact mul_le_mul_of_nonneg_right (deriveFloodProbability_mono h)
      (by norm_num [RiskService.SEVERITY_FLOOD])

theorem aqiCluster_mono (h : r.aqi ≤ r'.aqi) : aqiCluster r ≤ aqiCluster r' :=
  mul_le_mul_of_nonneg_right (scaled_mono 70 200 h) (by norm_num [RiskService.SEVERITY_AQI])

theorem tempCluster_mono (h : r.temperature ≤ r'.temperature) :
    RiskService.tempCluster r ≤ RiskService.tempCluster r' :=
  mul_le_mul_of_nonneg_right (scaled_mono 36 45 h) (by norm_num [RiskService.SEVERITY_TEMP])

theorem demandCluster_mono (h : r.demand_ratio ≤ r'.demand_ratio) :
    RiskService.demandCluster r ≤ RiskService.demandCluster r' :=
  mul_le_mul_of_nonneg_left (scaled_mono 1 2 h) (by norm_num)

theorem speedCluster_mono (h : r'.avg_speed_kmh.getD 0 ≤ r.avg_speed_kmh.getD 0) :
    RiskService.speedCluster r ≤ RiskService.speedCluster r' := by
  have hslow : max 0 (25 - r.avg_speed_kmh.getD 0) ≤ max 0 (25 - r'.avg_speed_kmh.getD 0) :=
    max_le_max le_rfl (sub_le_sub_left h 25)
  exact mul_le_mul_of_nonneg_left (scaled_mono 5 20 hslow) (by norm_num)

theorem historyCluster_mono
    (h : r.historical_disruption_frequency.getD 0 ≤ r'.historical_disruption_frequency.getD 0) :
    RiskService.historyCluster r ≤ RiskService.historyCluster r' :=
  mul_le_mul_of_nonneg_left (min_le_min le_rfl (max_le_max le_rfl h)) (by norm_num)

theorem volatilityCluster_mono (h : r.zone_volatility.getD 0 ≤ r'.zone_volatility.getD 0) :
    RiskService.volatilityCluster r ≤ RiskService.volatilityCluster r' :=
  mul_le_mul_of_nonneg_left (min_le_min le_rfl (max_le_max le_rfl h)) (by norm_num)

/-- One more factor of the product of complements. -/
theorem complement_mul_le {p p' c c' : ℚ} (hp : p' ≤ p) (hp' : 0 ≤ p') (hc : c ≤ c')
    (hc' : c' ≤ 1) : p' * (1 - c') ≤ p * (1 - c) ∧ 0 ≤ p' * (1 - c') := by
  have hcomplement : 0 ≤ 1 - c' := sub_nonneg.mpr hc'
  constructor
  · exact mul_le_mul hp (sub_le_sub_left hc 1) hcomplement (hp'.trans hp)
  · exact mul_nonneg hp' hcomplement

theorem Milder.currentLf_le (h : Milder r r') : currentLf r ≤ currentLf r' := by
  have hrain := sub_le_sub_left (rainCluster_mono h.rainfall) 1
  have hrain' := sub_nonneg.mpr (rainCluster_le_one r')
  obtain ⟨haqi, haqi'⟩ :=
    complement_mul_le hrain hrain' (aqiCluster_mono h.aqi) (aqiCluster_le_one r')
  obtain ⟨htemp, htemp'⟩ :=
    complement_mul_le haqi haqi' (tempCluster_mono h.temperature) (tempCluster_le_one r')
  obtain ⟨hdemand, hdemand'⟩ :=
    complement_mul_le htemp htemp' (demandCluster_mono h.demand_ratio) (demandCluster_le_one r')
  obtain ⟨hspeed, hspeed'⟩ :=
    complement_mul_le hdemand hdemand' (speedCluster_mono h.speed) (speedCluster_le_one r')
  obtain ⟨hhistory, hhistory'⟩ :=
    complement_mul_le hspeed hspeed' (historyCluster_mono h.history) (historyCluster_le_one r')
  obtain ⟨hall, -⟩ := complement_mul_le hhistory hhistory' (volatilityCluster_mono h.volatility)
    (volatilityCluster_le_one r')
  exact sub_le_sub_left hall 1

/-- Both scores before are absent, or the second is at least the first. -/
theorem Milder.smoothedLf_le (h : Milder r r') {previous previous' : Option ℚ}
    (hprevious : Option.Rel (· ≤ ·) previous previous') :
    smoothedLf r previous ≤ smoothedLf r' previous' := by
  have hcurrent := h.currentLf_le
  cases hprevious with
  | none =>
      rw [smoothedLf, smoothedLf, Option.getD_none, Option.getD_none]
      linarith
  | some hle =>
      rw [smoothedLf, smoothedLf, Option.getD_some, Option.getD_some]
      linarith

theorem Milder.calculateRiskScore_le (h : Milder r r') {previous previous' : Option ℚ}
    (hprevious : Option.Rel (· ≤ ·) previous previous') :
    (calculateRiskScore r previous).1.Lf ≤ (calculateRiskScore r' previous').1.Lf :=
  roundTo_mono 4 (max_le_max le_rfl (min_le_min le_rfl (h.smoothedLf_le hprevious)))

end Order

section Weather

variable (request : RiskScoreRequest) {rainfall aqi : ℚ}

theorem milder_weather (hrain : request.rainfall ≤ rainfall) (haqi : request.aqi ≤ aqi) :
    Milder request { request with rainfall, aqi } :=
  ⟨hrain, le_rfl, haqi, le_rfl, le_rfl, le_rfl, le_rfl⟩

/-- The score of worse weather, all else equal. -/
theorem calculateRiskScore_mono (previous : Option ℚ) (hrain : request.rainfall ≤ rainfall)
    (haqi : request.aqi ≤ aqi) : (calculateRiskScore request previous).1.Lf ≤
      (calculateRiskScore { request with rainfall, aqi } previous).1.Lf := by
  have hsame : Option.Rel (· ≤ ·) previous previous := by
    cases previous with
    | none => exact .none
    | some lf => exact .some le_rfl
  exact (milder_weather request hrain haqi).calculateRiskScore_le hsame

end Weather

/-! ## Histories -/

section Histories

/-- Which of the calls find a score before them that has not expired. -/
def previousFound : Option SmoothedScore → List (ℤ × RiskScoreRequest) → List Bool
  | _, [] => []
  | stored, (now, request) :: calls =>
      (getPreviousLf now stored).isSome :: previousFound (riskScoreCall stored now request).2 calls

/-- The second of two stores holds no lower score than the first. -/
def StoredLe (stored stored' : Option SmoothedScore) : Prop :=
  ∀ score ∈ stored, ∀ score' ∈ stored', score.lf ≤ score'.lf

variable {stored stored' : Option SmoothedScore} {now now' : ℤ} {r r' : RiskScoreRequest}

theorem getPreviousLf_rel (h : StoredLe stored stored')
    (hfound : (getPreviousLf now stored).isSome = (getPreviousLf now' stored').isSome) :
    Option.Rel (· ≤ ·) (getPreviousLf now stored) (getPreviousLf now' stored') := by
  cases hlf : getPreviousLf now stored with
  | none =>
      rw [hlf, Option.isSome_none, eq_comm, Option.isSome_eq_false_iff, Option.isNone_iff_eq_none]
        at hfound
      rw [hfound]
      exact .none
  | some lf =>
      rw [hlf, Option.isSome_some, eq_comm] at hfound
      obtain ⟨lf', hlf'⟩ := Option.isSome_iff_exists.mp hfound
      rw [hlf']
      obtain ⟨score, hscore, rfl⟩ := Option.map_eq_some_iff.mp hlf
      obtain ⟨score', hscore', rfl⟩ := Option.map_eq_some_iff.mp hlf'
      exact .some (h score (Option.mem_filter_iff.mp hscore).1 score'
        (Option.mem_filter_iff.mp hscore').1)

/-- One call each. -/
theorem riskScoreCall_le (h : StoredLe stored stored')
    (hfound : (getPreviousLf now stored).isSome = (getPreviousLf now' stored').isSome)
    (hle : Milder r r') :
    (riskScoreCall stored now r).1.Lf ≤ (riskScoreCall stored' now' r').1.Lf ∧
      StoredLe (riskScoreCall stored now r).2 (riskScoreCall stored' now' r').2 := by
  have hprevious := getPreviousLf_rel h hfound
  constructor
  · exact hle.calculateRiskScore_le hprevious
  · intro score hscore score' hscore'
    cases hscore
    cases hscore'
    exact hle.smoothedLf_le hprevious

theorem riskScoreHistory_le {calls calls' : List (ℤ × RiskScoreRequest)}
    (h : StoredLe stored stored')
    (hfound : previousFound stored calls = previousFound stored' calls')
    (hle : List.Forall₂ (fun call call' => Milder call.2 call'.2) calls calls') :
    List.Forall₂ (fun answer answer' => answer.Lf ≤ answer'.Lf) (riskScoreHistory stored calls)
      (riskScoreHistory stored' calls') := by
  induction hle generalizing stored stored' with
  | nil => exact .nil
  | cons hhead _ ih =>
      obtain ⟨hfirst, hrest⟩ := List.cons.inj hfound
      obtain ⟨hanswer, hstored⟩ := riskScoreCall_le h hfirst hhead
      exact .cons hanswer (ih hstored hrest)

theorem riskScoreHistory_mem {calls : List (ℤ × RiskScoreRequest)} :
    ∀ answer ∈ riskScoreHistory stored calls, answer.Lf ∈ Set.Icc (0 : ℚ) 1 := by
  induction calls generalizing stored with
  | nil => simp [riskScoreHistory]
  | cons call calls ih =>
      intro answer hanswer
      rcases List.mem_cons.mp hanswer with rfl | hrest
      · exact calculateRiskScore_mem _ _
      · exact ih answer hrest

/-- Two histories from one store, that find it expired at the same calls. -/
theorem sentinel (stored : Option SmoothedScore) (calls calls' : List (ℤ × RiskScoreRequest))
    (hfound : previousFound stored calls = previousFound stored calls')
    (hle : List.Forall₂ (fun call call' => Milder call.2 call'.2) calls calls') :
    List.Forall₂ (fun answer answer' => answer.Lf ≤ answer'.Lf) (riskScoreHistory stored calls)
        (riskScoreHistory stored calls') ∧
      ∀ answer ∈ riskScoreHistory stored calls ++ riskScoreHistory stored calls',
        answer.Lf ∈ Set.Icc (0 : ℚ) 1 := by
  have hsame : StoredLe stored stored := by
    intro score hscore score' hscore'
    rw [Option.mem_unique hscore hscore']
  constructor
  · exact riskScoreHistory_le hsame hfound hle
  · intro answer hanswer
    rcases List.mem_append.mp hanswer with hfirst | hsecond
    · exact riskScoreHistory_mem answer hfirst
    · exact riskScoreHistory_mem answer hsecond

def dryHour : RiskScoreRequest :=
  { rainfall := 3, temperature := 30, aqi := 90, demand_ratio := 1 }

def rainyHour : RiskScoreRequest := { dryHour with rainfall := 30 }

/-- Rain after a dry hour, and after rain; the score before is found in both. -/
theorem sentinel_rain :
    List.Forall₂ (fun answer answer' => answer.Lf ≤ answer'.Lf)
      (riskScoreHistory none [(0, dryHour), (600, rainyHour)])
      (riskScoreHistory none [(0, rainyHour), (900, rainyHour)]) := by
  have hdry : Milder dryHour rainyHour := by constructor <;> decide +kernel
  have hrain : Milder rainyHour rainyHour := by constructor <;> exact le_rfl
  exact (sentinel none [(0, dryHour), (600, rainyHour)] [(0, rainyHour), (900, rainyHour)]
    (by decide) (.cons hdry (.cons hrain .nil))).1

end Histories

end Aegis.Zones
