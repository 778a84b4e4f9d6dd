import Aegis.Model.Trigger
import Aegis.Verification.Payouts.ZoneGates

/-! # The two trigger engines

A claim is put to the trigger of the ML service or to that of the backend. Each reads the
record of the cell in its own way and has thresholds of its own. -/

namespace Aegis.Zones

open RedisState JsString Payouts

/-! ## The engine of the ML service -/

section Ml

/-- What the ML service wants of a record. -/
structure MlPayable (record : ZoneState) : Prop where
  severe : 7 / 10 < MlTriggerService.readLf record
  halted : toUpperCase (record.zone_state.getD "NORMAL") = "HALTED" ∨
    75 / 100 < MlTriggerService.readLf record ∧ record.zone_state ≠ some "DANGEROUS"

variable {record : ZoneState} {Lf : ℚ} {label : String}

theorem lt_clamp_iff {x c : ℚ} (hc : 0 ≤ c) (hc1 : c < 1) :
    c < RiskService.clamp x 0 1 ↔ c < x := by
  simp [RiskService.clamp, hc1, not_lt.mpr hc]

@[simp] theorem validate_zone_state (record : ZoneState) :
    (MlTriggerService.validate record).zone_state = record.zone_state := by
  unfold MlTriggerService.validate
  dsimp only
  split_ifs <;> rfl

/-- Clamping moves no score across a threshold. -/
theorem lt_readLf_validate_iff {c : ℚ} (hc : 0 ≤ c) (hc1 : c < 1) :
    c < MlTriggerService.readLf (MlTriggerService.validate record) ↔
      c < MlTriggerService.readLf record := by
  unfold MlTriggerService.validate
  dsimp only
  split_ifs with hrange
  · rfl
  · rw [← lt_clamp_iff (x := MlTriggerService.readLf record) hc hc1]
    generalize RiskService.clamp (MlTriggerService.readLf record) 0 1 = x
    by_cases hx : x = 0
    · simp [MlTriggerService.readLf, hx, Option.filter]
    · simp [MlTriggerService.readLf, hx, Option.filter]

theorem toUpperCase_reconciledState_iff :
    toUpperCase (MlTriggerService.reconciledState label Lf) = "HALTED" ↔
      toUpperCase label = "HALTED" ∨ 75 / 100 < Lf ∧ label ≠ "DANGEROUS" := by
  have hhalted : toUpperCase "HALTED" = "HALTED" := by decide
  unfold MlTriggerService.reconciledState
  split_ifs with hoverride
  · have hdangerous : label ≠ "DANGEROUS" := by
      intro heq
      exact hoverride.2 (by simp [heq])
    exact iff_of_true hhalted (.inr ⟨hoverride.1, hdangerous⟩)
  · constructor
    · exact .inl
    · rintro (h | ⟨hLf, hdangerous⟩)
      · exact h
      · have hkept : label ∈ ["HALTED", "DANGEROUS"] := by
          by_contra hnot
          exact hoverride ⟨hLf, hnot⟩
        simp only [List.mem_cons, List.not_mem_nil, or_false] at hkept
        rcases hkept with rfl | rfl
        · exact hhalted
        · exact absurd rfl hdangerous

theorem mlApproved_iff {now : ℤ} {redis : Redis} {request : MlTriggerService.TriggerRequest}
    (hread : getZoneState true now redis request.h3_cell = some record) :
    (MlTriggerService.evaluateTrigger true now redis request).decision = "APPROVED" ↔
      MlPayable record ∧ request.fraud_score < 7 / 10 := by
  have hdata : MlTriggerService.getZoneState true now redis request.h3_cell =
      MlTriggerService.validate record := by
    simp [MlTriggerService.getZoneState, hread]
  have hLf : ∀ {c : ℚ}, 0 ≤ c → c < 1 →
      (c < MlTriggerService.readLf (MlTriggerService.validate record) ↔
        c < MlTriggerService.readLf record) := lt_readLf_validate_iff
  have hdangerous : record.zone_state.getD "NORMAL" ≠ "DANGEROUS" ↔
      record.zone_state ≠ some "DANGEROUS" := by
    cases record.zone_state with
    | none => simp
    | some label => simp
  simp only [MlTriggerService.evaluateTrigger, hdata, validate_zone_state,
    MlTriggerService.TRIGGER_ZONE_HALT_STATE, toUpperCase_reconciledState_iff,
    MlTriggerService.TRIGGER_LF_THRESHOLD, MlTriggerService.TRIGGER_FRAUD_THRESHOLD,
    hLf (by norm_num : (0 : ℚ) ≤ 7 / 10) (by norm_num),
    hLf (by norm_num : (0 : ℚ) ≤ 75 / 100) (by norm_num), hdangerous]
  constructor
  · intro h
    split at h
    · rename_i hgates
      exact ⟨⟨hgates.2.1, hgates.1⟩, hgates.2.2⟩
    · exact absurd h (by decide)
  · rintro ⟨hpayable, hfraud⟩
    rw [if_pos ⟨hpayable.halted, hpayable.severe, hfraud⟩]

end Ml

/-! ## Both engines -/

/-- What the backend wants of a record. -/
structure Payable (record : ZoneState) : Prop where
  halted : toUpperCase (zoneLabel (some record)) = "HALTED"
  severe : 6 / 10 ≤ zoneLf (some record) 0

/-- A claim in the cell, put to both engines with one fraud score. -/
structure TriggerCase where
  cell : ZoneCell
  driverId : String
  fraudScore : ℚ
  latLngToCell : ℚ → ℚ → String
  now : ℤ
  monitored : ZoneState

namespace TriggerCase

variable (q : TriggerCase) (redis : Redis)

/-- The answer of the ML service. -/
def mlDecision : String :=
  (MlTriggerService.evaluateTrigger true q.now redis ⟨q.cell.h3Cell, q.fraudScore⟩).decision

/-- The answer of the backend. -/
def decision : TriggerService.TriggerDecision :=
  (TriggerService.evaluateTrigger q.latLngToCell ⟨q.now, true, q.monitored⟩ redis
    { driverId := q.driverId, h3Cell := some q.cell.h3Cell
      fraudScore := some (.fin q.fraudScore) }).decision

def EnginesAgree : Prop := q.mlDecision redis = "APPROVED" ↔ q.decision redis = .APPROVED

instance : Decidable (q.EnginesAgree redis) := inferInstanceAs (Decidable (_ ↔ _))

variable {q redis} {record : ZoneState}

theorem fraudGateOf_pass_iff {f : ℚ} :
    TriggerService.fraudGateOf (some (.fin f)) = .PASS ↔ f < 45 / 100 := by
  have hge : ∀ c, (JsNumber.fin f).geFin c = true ↔ c ≤ f := fun c => decide_eq_true_iff
  simp only [TriggerService.fraudGateOf, hge, TriggerService.TRIGGER_FRAUD_REJECT_THRESHOLD,
    TriggerService.TRIGGER_FRAUD_HOLD_THRESHOLD]
  split_ifs with hreject hhold
  · refine iff_of_false (by decide) ?_
    rw [not_lt]
    linarith
  · exact iff_of_false (by decide) (not_lt.mpr hhold)
  · exact iff_of_true rfl (not_le.mp hhold)

theorem decision_approved_iff (hread : getZoneState true q.now redis q.cell.h3Cell = some record) :
    q.decision redis = .APPROVED ↔ Payable record ∧ q.fraudScore < 45 / 100 := by
  rw [decision, evaluateTrigger_approved_iff q.latLngToCell rfl hread, fraudGateOf_pass_iff]
  constructor
  · rintro ⟨hlabel, hLf, hfraud⟩
    exact ⟨⟨hlabel, hLf⟩, hfraud⟩
  · rintro ⟨⟨hlabel, hLf⟩, hfraud⟩
    exact ⟨hlabel, hLf, hfraud⟩

/-- The engines agree on high fraud scores, on low ones where both want the record or neither
does, and in the band where only the backend holds, on records that the ML service refuses. -/
theorem enginesAgree_iff (hread : getZoneState true q.now redis q.cell.h3Cell = some record) :
    q.EnginesAgree redis ↔
      7 / 10 ≤ q.fraudScore ∨
      (MlPayable record ∧ Payable record ∧ q.fraudScore < 45 / 100) ∨
      (¬MlPayable record ∧ (¬Payable record ∨ 45 / 100 ≤ q.fraudScore)) := by
  have hml : q.mlDecision redis = "APPROVED" ↔ MlPayable record ∧ q.fraudScore < 7 / 10 :=
    mlApproved_iff hread
  rw [EnginesAgree, hml, decision_approved_iff hread]
  have horder : q.fraudScore < 45 / 100 → q.fraudScore < 7 / 10 := fun h => by linarith
  generalize MlPayable record = mlPayable
  generalize Payable record = payable
  rcases lt_or_ge q.fraudScore (45 / 100) with hlow | hlow
  · have hhigh := horder hlow
    by_cases hpayable : payable
    · simp [hlow, hhigh, hhigh.not_ge, hpayable]
    · simp [hlow, hhigh, hlow.not_ge, hhigh.not_ge, hpayable]
  · rcases lt_or_ge q.fraudScore (7 / 10) with hhigh | hhigh
    · simp [hlow, hhigh, hlow.not_gt, hhigh.not_ge]
    · simp [hlow.not_gt, hhigh, hhigh.not_gt]

end TriggerCase

namespace Engines

open TriggerCase

def q : TriggerCase where
  cell := ZoneGates.cell
  driverId := "u1"
  fraudScore := 0
  latLngToCell := fun _ _ => ""
  now := 0
  monitored := {}

/-- A fresh record of the cell. -/
def holding (record : ZoneState) : Redis where
  zones := setEx (fun _ => none) 0 ZONE_STATE_TTL q.cell.h3Cell record

theorem read_holding (record : ZoneState) :
    getZoneState true q.now (holding record) q.cell.h3Cell = some record := by
  simp [getZoneState, holding, RedisState.get, setEx, q, ZONE_STATE_TTL]

end Engines

open Engines in
theorem enginesAgree_halted :
    q.EnginesAgree (holding { Lf := some (8 / 10), zone_state := some "HALTED" }) :=
  (TriggerCase.enginesAgree_iff (read_holding _)).mpr
    (.inr (.inl ⟨⟨by decide +kernel, .inl (by decide)⟩, ⟨by decide, by decide +kernel⟩,
      by decide +kernel⟩))

open Engines in
/-- Each engine approves what the other one holds: a halted cell of moderate severity, a
flooded one, and a claim of medium fraud risk. -/
theorem not_enginesAgree :
    ¬q.EnginesAgree (holding { Lf := some (65 / 100), zone_state := some "HALTED" }) ∧
      ¬q.EnginesAgree (holding { Lf := some 1, zone_state := some "FLOODED" }) ∧
      ¬{ q with fraudScore := 1 / 2 }.EnginesAgree
        (holding { Lf := some (9 / 10), zone_state := some "HALTED" }) := by
  decide +kernel

end Aegis.Zones
