import Aegis.Library.JsString
import Aegis.Library.Number
import Aegis.Model.RedisState
import Aegis.Model.RiskService

/-! # The trigger service

`TriggerService.evaluateTrigger` under the default thresholds. Its audit log is write-only
and its failures are swallowed, so it is not modelled. -/

namespace Aegis.TriggerService

open RedisState JsString

def TRIGGER_APPROVAL_ZONE_STATES : List String := ["HALTED"]

def TRIGGER_LF_MIN_APPROVE : ℚ := 6 / 10

def TRIGGER_FRAUD_HOLD_THRESHOLD : ℚ := 45 / 100

def TRIGGER_FRAUD_REJECT_THRESHOLD : ℚ := 7 / 10

inductive TriggerDecision where
  | APPROVED
  | HOLD
  | REJECTED
  deriving DecidableEq, Repr

inductive FraudGate where
  | PASS
  | HOLD
  | REJECT
  deriving DecidableEq, Repr

structure ThresholdEvaluation where
  zoneGatePassed : Bool
  lfGatePassed : Bool
  fraudGate : FraudGate
  deriving DecidableEq, Repr

structure TriggerDecisionResult where
  decision : TriggerDecision
  Lf : ℚ
  zone_state : String
  reason : String
  h3_cell : Option String := none
  thresholdEvaluation : Option ThresholdEvaluation := none
  deriving DecidableEq, Repr

/-- `monitored` is the answer of the zone monitor, which always has one. -/
structure TriggerIo where
  now : ℤ
  redisUp : Bool
  monitored : ZoneState

structure TriggerParams where
  driverId : String
  h3Cell : Option String := none
  lat : Option ℚ := none
  lng : Option ℚ := none
  fraudScore : Option JsNumber := none
  deriving DecidableEq, Repr

variable (latLngToCell : ℚ → ℚ → String) (io : TriggerIo) (redis : Redis)

def resolveH3Cell (params : TriggerParams) : Option String :=
  match params.h3Cell.filter (· ≠ ""), params.lat, params.lng with
  | some h3Cell, _, _ => some h3Cell
  | none, some lat, some lng => some (latLngToCell lat lng)
  | none, _, _ => cellOf (getDriverState io.redisUp io.now redis params.driverId)

def fraudGateOf (fraudScore : Option JsNumber) : FraudGate :=
  match fraudScore with
  | none => .PASS
  | some score =>
      if score.geFin TRIGGER_FRAUD_REJECT_THRESHOLD then .REJECT
      else if score.geFin TRIGGER_FRAUD_HOLD_THRESHOLD then .HOLD
      else .PASS

/-- The gates in the order in which they decide. -/
def gateDecision (zoneStateLabel : String) (gates : ThresholdEvaluation) :
    TriggerDecision × String :=
  if zoneStateLabel = "DEGRADED" then (.HOLD, "ml-pipeline-degraded")
  else if gates.zoneGatePassed = false then
    (.HOLD, "zone-state-" ++ toLowerCase zoneStateLabel ++ "-not-in-approval-list")
  else if gates.lfGatePassed = false then (.HOLD, "lf-below-min-approve-0.6")
  else
    match gates.fraudGate with
    | .REJECT => (.REJECTED, "fraud-above-reject-threshold-0.7")
    | .HOLD => (.HOLD, "fraud-above-hold-threshold-0.45")
    | .PASS => (.APPROVED, "passed-all-thresholds")

def fallbackDecision (h3Cell : String) (fraudScore : Option JsNumber) : TriggerDecisionResult :=
  let zoneState := (getZoneState io.redisUp io.now redis h3Cell).getD io.monitored
  let Lf := zoneLf (some zoneState) 0
  let zoneStateLabel := toUpperCase (zoneLabel (some zoneState))
  let gates : ThresholdEvaluation :=
    { zoneGatePassed := TRIGGER_APPROVAL_ZONE_STATES.contains zoneStateLabel
      lfGatePassed := TRIGGER_LF_MIN_APPROVE ≤ Lf
      fraudGate := fraudGateOf fraudScore }
  let (decision, reason) := gateDecision zoneStateLabel gates
  { decision, Lf, zone_state := zoneStateLabel, reason, thresholdEvaluation := some gates }

def evaluateTrigger (params : TriggerParams) : TriggerDecisionResult :=
  match (resolveH3Cell latLngToCell io redis params).filter (· ≠ "") with
  | none => { decision := .HOLD, Lf := 0, zone_state := "UNKNOWN", reason := "missing-h3" }
  | some h3Cell =>
      { fallbackDecision io redis h3Cell params.fraudScore with h3_cell := some h3Cell }

end Aegis.TriggerService

/-! ## The trigger of the ML service

`trigger_service.py`. `str.upper` and `toUpperCase` are the same map. -/

namespace Aegis.MlTriggerService

open RedisState JsString

def TRIGGER_LF_THRESHOLD : ℚ := 7 / 10

def TRIGGER_FRAUD_THRESHOLD : ℚ := 7 / 10

def TRIGGER_ZONE_HALT_STATE : String := "HALTED"

structure TriggerRequest where
  h3_cell : String
  fraud_score : ℚ
  deriving DecidableEq, Repr

structure TriggerResponse where
  decision : String
  Lf : ℚ
  zone_state : String
  deriving DecidableEq, Repr

/-- `data.get("Lf") or data.get("lf_score", 0.0)`: a zero counts as missing. -/
def readLf (data : ZoneState) : ℚ := (data.Lf.filter (· ≠ 0)).getD (data.lf_score.getD 0)

/-- A score out of bounds is clamped in both fields. -/
def validate (data : ZoneState) : ZoneState :=
  let lf := readLf data
  if 0 ≤ lf ∧ lf ≤ 1 then data
  else { data with Lf := some (RiskService.clamp lf 0 1)
                   lf_score := some (RiskService.clamp lf 0 1) }

/-- Without a record every field takes its default. -/
def getZoneState (up : Bool) (now : ℤ) (redis : Redis) (h3_cell : String) : ZoneState :=
  ((RedisState.getZoneState up now redis h3_cell).map validate).getD {}

/-- A high score halts every zone that is neither halted nor dangerous already. -/
def reconciledState (zone_state : String) (Lf : ℚ) : String :=
  if 75 / 100 < Lf ∧ zone_state ∉ ["HALTED", "DANGEROUS"] then "HALTED" else zone_state

def evaluateTrigger (up : Bool) (now : ℤ) (redis : Redis) (request : TriggerRequest) :
    TriggerResponse :=
  let zone_data := getZoneState up now redis request.h3_cell
  let Lf := readLf zone_data
  let zone_state := reconciledState (zone_data.zone_state.getD "NORMAL") Lf
  let decision :=
    if toUpperCase zone_state = TRIGGER_ZONE_HALT_STATE ∧ TRIGGER_LF_THRESHOLD < Lf ∧
        request.fraud_score < TRIGGER_FRAUD_THRESHOLD then "APPROVED"
    else "HOLD / MANUAL REVIEW"
  ⟨decision, Lf, zone_state⟩

end Aegis.MlTriggerService
