import Aegis.Model.Trigger
import Aegis.Verification.Payouts.Authorisation

/-! # The three readers of a zone record

The scan for halted zones, the trigger and the settlement read the same record with three
lists of states. -/

namespace Aegis.Payouts

open Outcome RedisState PayoutService TriggerService JsString

/-- An H3 cell as it stands in the key `zone:{cell}`. -/
structure ZoneCell where
  h3Cell : String
  nonempty : h3Cell ≠ ""
  plain : ':' ∉ h3Cell.toList

/-! ## The scan -/

namespace ZoneCell

variable (cell : ZoneCell)

def key : String := "zone:" ++ cell.h3Cell

theorem isZoneKey_key : isZoneKey cell.key = true := by
  have hkey : cell.key.toList = ['z', 'o', 'n', 'e'] ++ ':' :: cell.h3Cell.toList := by
    simp [key]
  rw [isZoneKey, hkey, List.splitOn_append_cons_self_of_not_mem (by decide),
    List.splitOn_eq_singleton cell.plain]
  rfl

theorem cellOfKey_key : cellOfKey cell.key = cell.h3Cell := by
  simp [cellOfKey, key]

end ZoneCell

/-- The scan hands the cell to the orchestrator of claims. -/
def Dispatched (cell : ZoneCell) (now : ℤ) (redis : Redis) (keys : List String) : Prop :=
  cell.h3Cell ∈ (getAllHaltedZones true now redis keys).map Prod.fst

instance (cell : ZoneCell) (now : ℤ) (redis : Redis) (keys : List String) :
    Decidable (Dispatched cell now redis keys) :=
  inferInstanceAs (Decidable (_ ∈ _))

theorem isHaltedZone_iff (record : ZoneState) :
    isHaltedZone record = true ↔
      toUpperCase (zoneLabel (some record)) ∈ PARAMETRIC_TRIGGER_STATES := by
  have hunknown : toUpperCase "UNKNOWN" ∉ PARAMETRIC_TRIGGER_STATES := by decide
  cases hzone : record.zone_state with
  | some label => simp [isHaltedZone, scannedLabel, zoneLabel, hzone]
  | none =>
      cases hstate : record.state with
      | some label => simp [isHaltedZone, scannedLabel, zoneLabel, hzone, hstate]
      | none => simpa [isHaltedZone, scannedLabel, zoneLabel, hzone, hstate] using hunknown

theorem dispatched_iff {cell : ZoneCell} {now : ℤ} {redis : Redis} {keys : List String}
    {record : ZoneState} (hkey : cell.key ∈ keys)
    (hread : getZoneState true now redis cell.h3Cell = some record) :
    Dispatched cell now redis keys ↔
      toUpperCase (zoneLabel (some record)) ∈ PARAMETRIC_TRIGGER_STATES := by
  have hget : get redis.zones now cell.h3Cell = some record := hread
  rw [← isHaltedZone_iff]
  simp only [Dispatched, getAllHaltedZones, if_true, List.mem_map, List.mem_filterMap,
    List.mem_filter, Option.map_eq_some_iff, Option.filter_eq_some_iff]
  constructor
  · rintro ⟨_, ⟨key, -, state, ⟨hstate, hhalted⟩, rfl⟩, hcell⟩
    dsimp only at hcell
    rw [hcell, hget] at hstate
    cases hstate
    exact hhalted
  · intro hhalted
    refine ⟨(cell.h3Cell, record), ⟨cell.key, ⟨hkey, cell.isZoneKey_key⟩, record, ?_, ?_⟩, rfl⟩
    · rw [cell.cellOfKey_key]
      exact ⟨hget, hhalted⟩
    · rw [cell.cellOfKey_key]

/-! ## The trigger -/

theorem gateDecision_approved_iff (label : String) (gates : ThresholdEvaluation)
    (hzone : gates.zoneGatePassed = TRIGGER_APPROVAL_ZONE_STATES.contains label) :
    (gateDecision label gates).1 = .APPROVED ↔
      label = "HALTED" ∧ gates.lfGatePassed = true ∧ gates.fraudGate = .PASS := by
  obtain ⟨zone, lf, fraud⟩ := gates
  dsimp only at hzone
  subst hzone
  by_cases hlabel : label = "HALTED"
  · subst hlabel
    cases lf <;> cases fraud <;> decide
  · simp only [gateDecision, TRIGGER_APPROVAL_ZONE_STATES, List.contains_cons,
      List.contains_nil, Bool.or_false, beq_eq_false_iff_ne, ne_eq, hlabel, not_false_eq_true,
      if_true, false_and, iff_false]
    split <;> simp

/-- The trigger on the record of the cell, whatever the fraud score is. -/
theorem evaluateTrigger_approved_iff (latLngToCell : ℚ → ℚ → String) {io : TriggerIo}
    {redis : Redis} {params : TriggerParams} {cell : ZoneCell} {record : ZoneState}
    (hcell : params.h3Cell = some cell.h3Cell)
    (hread : getZoneState io.redisUp io.now redis cell.h3Cell = some record) :
    (evaluateTrigger latLngToCell io redis params).decision = .APPROVED ↔
      toUpperCase (zoneLabel (some record)) = "HALTED" ∧
        TRIGGER_LF_MIN_APPROVE ≤ zoneLf (some record) 0 ∧
        fraudGateOf params.fraudScore = .PASS := by
  have hresolve : resolveH3Cell latLngToCell io redis params = some cell.h3Cell := by
    simp [resolveH3Cell, hcell, Option.filter, cell.nonempty]
  have hdecision : (evaluateTrigger latLngToCell io redis params).decision =
      (fallbackDecision io redis cell.h3Cell params.fraudScore).decision := by
    simp [evaluateTrigger, hresolve, Option.filter, cell.nonempty]
  rw [hdecision]
  simp only [fallbackDecision, hread, Option.getD_some]
  rw [gateDecision_approved_iff _ _ rfl]
  simp

theorem approved_iff (latLngToCell : ℚ → ℚ → String) {io : TriggerIo} {redis : Redis}
    {params : TriggerParams} {cell : ZoneCell} {record : ZoneState}
    (hcell : params.h3Cell = some cell.h3Cell) (hfraud : params.fraudScore = none)
    (hread : getZoneState io.redisUp io.now redis cell.h3Cell = some record) :
    (evaluateTrigger latLngToCell io redis params).decision = .APPROVED ↔
      toUpperCase (zoneLabel (some record)) = "HALTED" ∧
        TRIGGER_LF_MIN_APPROVE ≤ zoneLf (some record) 0 := by
  rw [evaluateTrigger_approved_iff latLngToCell hcell hread, hfraud]
  simp [fraudGateOf]

/-! ## The settlement -/

section Settlement

variable {cfg : PayoutService.Config} {io : ProcessIo} {params : ProcessPayoutParams} {s : System}

/-- The state in which the record of the cell says `HALTED`. -/
def haltedAt (now : ℤ) (h3Cell : String) (s : System) : System :=
  { s with redis := setZoneState true now s.redis h3Cell { zone_state := some "HALTED" } }

/-- The zone gate is the last one, and it wants the label to the letter. -/
theorem checkGates_of_haltedAt {policy : Policy} {h3Cell : String}
    (h : checkGates cfg io params (haltedAt io.now h3Cell s) = .ok (policy, h3Cell)) :
    checkGates cfg io params s =
      if zoneLabel (getZoneState io.redisUp io.now s.redis h3Cell) = "HALTED" then
        .ok (policy, h3Cell)
      else .error (.badRequest "AEGIS_ERR_204: Zone is not halted") := by
  obtain ⟨policy', hpolicy, h⟩ := bind_eq_ok.mp h
  obtain ⟨_, howner, h⟩ := bind_eq_ok.mp h
  obtain ⟨_, hactive, h⟩ := bind_eq_ok.mp h
  obtain ⟨_, heligible, h⟩ := bind_eq_ok.mp h
  obtain ⟨cell, hcell, h⟩ := bind_eq_ok.mp h
  obtain ⟨policyZone, hzone, h⟩ := bind_eq_ok.mp h
  obtain ⟨_, hmatch, h⟩ := bind_eq_ok.mp h
  obtain ⟨_, -, h⟩ := bind_eq_ok.mp h
  cases h
  have hdb : (haltedAt io.now h3Cell s).db = s.db := rfl
  have hdrivers : getDriverState io.redisUp io.now (haltedAt io.now h3Cell s).redis =
      getDriverState io.redisUp io.now s.redis := rfl
  have hpolicies : getPolicyState io.redisUp io.now (haltedAt io.now h3Cell s).redis =
      getPolicyState io.redisUp io.now s.redis := rfl
  rw [hdb] at hpolicy heligible
  rw [hdrivers] at hcell
  rw [hpolicies] at hzone
  simp only [checkGates, hpolicy, howner, hactive, heligible, hcell, hzone, hmatch, ok_bind]
  by_cases hlabel : zoneLabel (getZoneState io.redisUp io.now s.redis h3Cell) = "HALTED"
  · simp [require, hlabel]
  · simp [require, hlabel]

theorem settled_iff {policy : Policy} {h3Cell : String} {record : ZoneState}
    (h : checkGates cfg io params (haltedAt io.now h3Cell s) = .ok (policy, h3Cell))
    (hread : getZoneState io.redisUp io.now s.redis h3Cell = some record) :
    (checkGates cfg io params s).isOk = true ↔ zoneLabel (some record) = "HALTED" := by
  rw [checkGates_of_haltedAt h, hread]
  by_cases hlabel : zoneLabel (some record) = "HALTED"
  · simp [hlabel, Except.isOk, Except.toBool]
  · simp [hlabel, Except.isOk, Except.toBool]

end Settlement

/-! ## The three together -/

/-- What the three services are asked about a cell. -/
structure ZoneRequests where
  keys : List String
  scannedAt : ℤ
  latLngToCell : ℚ → ℚ → String
  triggerIo : TriggerIo
  trigger : TriggerParams
  config : PayoutService.Config
  processIo : ProcessIo
  payout : ProcessPayoutParams

/-- All three find the record of the cell. No fraud score goes to the trigger, and the payout
is one that a `HALTED` record would let pass. -/
structure Consults (q : ZoneRequests) (cell : ZoneCell) (record : ZoneState) (s : System) :
    Prop where
  listed : cell.key ∈ q.keys
  scanned : getZoneState true q.scannedAt s.redis cell.h3Cell = some record
  claimed : q.trigger.h3Cell = some cell.h3Cell
  clean : q.trigger.fraudScore = none
  evaluated :
    getZoneState q.triggerIo.redisUp q.triggerIo.now s.redis cell.h3Cell = some record
  presented : ∃ policy, checkGates q.config q.processIo q.payout
    (haltedAt q.processIo.now cell.h3Cell s) = .ok (policy, cell.h3Cell)
  settled : getZoneState q.processIo.redisUp q.processIo.now s.redis cell.h3Cell = some record

/-- The cell is dispatched, approved and paid for, or none of these. -/
structure GatesAgree (q : ZoneRequests) (cell : ZoneCell) (s : System) : Prop where
  dispatched : Dispatched cell q.scannedAt s.redis q.keys ↔
    (evaluateTrigger q.latLngToCell q.triggerIo s.redis q.trigger).decision = .APPROVED
  approved : (evaluateTrigger q.latLngToCell q.triggerIo s.redis q.trigger).decision = .APPROVED ↔
    (checkGates q.config q.processIo q.payout s).isOk = true

/-- The gates agree on the label `HALTED` in capitals and on labels outside the list. -/
theorem gatesAgree_iff {q : ZoneRequests} {cell : ZoneCell} {record : ZoneState} {s : System}
    (h : Consults q cell record s) (hLf : TRIGGER_LF_MIN_APPROVE ≤ zoneLf (some record) 0) :
    GatesAgree q cell s ↔
      zoneLabel (some record) = "HALTED" ∨
        toUpperCase (zoneLabel (some record)) ∉ PARAMETRIC_TRIGGER_STATES := by
  obtain ⟨policy, hpresented⟩ := h.presented
  have hdispatched := dispatched_iff h.listed h.scanned
  have happroved := approved_iff q.latLngToCell h.claimed h.clean h.evaluated
  have hsettled := settled_iff hpresented h.settled
  simp only [hLf, and_true] at happroved
  have hhalted : toUpperCase "HALTED" = "HALTED" := by decide
  have hlisted : "HALTED" ∈ PARAMETRIC_TRIGGER_STATES := by decide
  constructor
  · rintro ⟨hscan, hpay⟩
    rw [hdispatched, happroved] at hscan
    rw [happroved, hsettled] at hpay
    by_cases hmem : toUpperCase (zoneLabel (some record)) ∈ PARAMETRIC_TRIGGER_STATES
    · exact .inl (hpay.mp (hscan.mp hmem))
    · exact .inr hmem
  · rintro (hlabel | hmem)
    · rw [hlabel, hhalted] at hdispatched happroved
      rw [hlabel] at hsettled
      exact ⟨by simp [hdispatched, happroved, hlisted], by simp [happroved, hsettled]⟩
    · have hupper : toUpperCase (zoneLabel (some record)) ≠ "HALTED" :=
        fun heq => hmem (heq ▸ hlisted)
      have hlabel : zoneLabel (some record) ≠ "HALTED" :=
        fun heq => hupper (by rw [heq, hhalted])
      exact ⟨by simp [hdispatched, happroved, hmem, hupper],
        by simp [happroved, hsettled, hupper, hlabel]⟩

/-! ## Two labels -/

namespace ZoneGates

open Payments.Sample Ungated

def cell : ZoneCell := ⟨"8860145b5dfffff", by decide, by decide⟩

/-- The zone of the driver's policy under the given label. -/
def labelled (label : String) : System where
  db := db
  redis :=
    { policies := setEx (fun _ => none) 7200000 POLICY_STATE_TTL "p1"
        { zone := some cell.h3Cell }
      zones := setEx (fun _ => none) 7200000 ZONE_STATE_TTL cell.h3Cell
        { Lf := some (8 / 10), zone_state := some label } }

def requests : ZoneRequests where
  keys := [cell.key]
  scannedAt := 7200000
  latLngToCell := fun _ _ => ""
  triggerIo := ⟨7200000, true, {}⟩
  trigger := { driverId := "u1", h3Cell := some cell.h3Cell }
  config := config
  processIo :=
    { now := 7200000
      readPolicy := true
      readEligibility := true
      redisUp := true
      readEvent := true
      eventId := "e2"
      createEvent := true
      readPayout := true
      settle := io
      redisPush := true }
  payout := { driverId := "u1", payoutAmount := some 400, h3Cell := some cell.h3Cell }

/-- Whatever the label was, it is overwritten. -/
theorem haltedAt_labelled (label : String) :
    haltedAt 7200000 cell.h3Cell (labelled label) =
      haltedAt 7200000 cell.h3Cell (labelled "HALTED") := by
  simp [haltedAt, labelled, setZoneState, setEx]

theorem consults (label : String) :
    Consults requests cell { Lf := some (8 / 10), zone_state := some label } (labelled label) where
  listed := by decide
  scanned := by simp [getZoneState, labelled, RedisState.get, setEx, requests, ZONE_STATE_TTL]
  claimed := rfl
  clean := rfl
  evaluated := by simp [getZoneState, labelled, RedisState.get, setEx, requests, ZONE_STATE_TTL]
  presented := by
    have hgates : checkGates config requests.processIo requests.payout
        (haltedAt 7200000 cell.h3Cell (labelled "HALTED")) = .ok (policy, cell.h3Cell) := by
      decide
    exact ⟨policy, haltedAt_labelled label ▸ hgates⟩
  settled := by simp [getZoneState, labelled, RedisState.get, setEx, requests, ZONE_STATE_TTL]

end ZoneGates

open ZoneGates in
theorem gatesAgree_halted : GatesAgree requests cell (labelled "HALTED") :=
  (gatesAgree_iff (consults "HALTED") (by decide +kernel)).mpr (.inl rfl)

open ZoneGates in
/-- A flooded cell is dispatched and not approved; one with `halted` in small letters is
approved and not paid for. -/
theorem not_gatesAgree :
    (∀ label, Consults requests cell { Lf := some (8 / 10), zone_state := some label }
        (labelled label)) ∧
      ¬GatesAgree requests cell (labelled "FLOODED") ∧
      ¬GatesAgree requests cell (labelled "halted") := by
  refine ⟨consults, ?_, ?_⟩
  · intro h
    have hscan : Dispatched cell 7200000 (labelled "FLOODED").redis requests.keys := by
      decide
    have happroved := h.dispatched.mp hscan
    revert happroved
    decide
  · intro h
    have hpaid := h.approved.mp (by decide +kernel)
    revert hpaid
    decide

end Aegis.Payouts
