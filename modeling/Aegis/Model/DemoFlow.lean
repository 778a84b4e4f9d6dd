import Aegis.Model.DriverLocation
import Aegis.Model.ZoneDrivers

/-! # The demo flow and the auto-claim orchestrator

`runDriverDemoTriggerFlow` with all of its stages, and `ClaimOrchestratorService`, which evaluates
the drivers of every halted zone. -/

namespace Aegis

open RedisState

/-- The stores of the claims, and the drivers of the zones. -/
structure Fleet where
  system : System
  roster : ZoneRoster

/-- The zone sets as a call of this instant finds them. -/
def Fleet.rosterAt (now : ℤ) (fleet : Fleet) : ZoneRoster := { fleet.roster with now }

namespace DemoFlow

open Outcome InsuranceService PayoutService
open Payments (storeDown)

/-! ## The demo flow -/

def disruptionType (scenario : DemoScenario) : String :=
  match scenario.code with
  | "TRAFFIC" => "CIVIC_SENSE"
  | "FLOOD" => "FLOOD"
  | _ => "RAIN"

def presetFraudScore (scenario : DemoScenario) : ℚ :=
  match scenario.code with
  | "TRAFFIC" => 29 / 100
  | "FLOOD" => 25 / 100
  | _ => 22 / 100

def minimumDemoGross (scenario : DemoScenario) : ℚ :=
  if scenario.code = "FLOOD" then 1500 else if scenario.code = "RAIN" then 1200 else 1000

structure DriverDemoTriggerDto extends DemoTriggerDto where
  fraudScore : Option ℚ := none
  deriving DecidableEq, Repr

/-- The clock and the first connection to Redis are those of the sensor check. -/
structure DemoIo where
  fraud : FraudService.FraudIo
  readPolicy : Bool
  monitored : ZoneState
  calculate : CalculateIo
  process : ProcessIo
  readSettled : Bool

inductive StageStatus where
  | PASSED
  | HOLD
  | BLOCKED
  | SKIPPED
  | COMPLETED
  | QUEUED_RETRY
  | FAILED
  deriving DecidableEq, Repr

structure ZoneStage where
  status : StageStatus
  state : String
  lfScore : ℚ
  reason : String
  deriving DecidableEq, Repr

structure FraudStage where
  status : StageStatus
  score : ℚ
  gate : TriggerService.FraudGate
  deriving DecidableEq, Repr

structure PayoutStage where
  status : StageStatus
  reason : String
  amount : ℚ := 0
  payoutId : Option String := none
  transactionId : Option String := none
  transferRail : Option String := none
  transferReference : Option String := none
  deriving DecidableEq, Repr

structure DemoResult where
  policyId : String
  h3Cell : String
  eventTimestamp : ℤ
  zone : ZoneStage
  fraud : FraudStage
  payout : PayoutStage
  deriving DecidableEq, Repr

variable (cfg : InsuranceService.Config) (io : DemoIo) (driverId : String)
  (dto : DriverDemoTriggerDto)

def demoFraudScore : ℚ :=
  dto.fraudScore.getD (presetFraudScore (resolveDemoScenario dto.scenario))

def eventTimestamp : ℤ := io.fraud.now / 1000

/-- The trigger is asked about the cell that was just written. -/
def demoTrigger (h3Cell : String) (redis : Redis) : TriggerService.TriggerDecisionResult :=
  TriggerService.evaluateTrigger cfg.latLngToCell
    ⟨io.fraud.now, io.fraud.redisUp, io.monitored⟩ redis
    { driverId, h3Cell := some h3Cell, fraudScore := some (.fin (demoFraudScore dto)) }

def fraudGate (trigger : TriggerService.TriggerDecisionResult) : TriggerService.FraudGate :=
  (trigger.thresholdEvaluation.map TriggerService.ThresholdEvaluation.fraudGate).getD .PASS

def zoneStage (trigger : TriggerService.TriggerDecisionResult) : ZoneStage where
  status :=
    if trigger.thresholdEvaluation.any TriggerService.ThresholdEvaluation.zoneGatePassed then
    .PASSED else .HOLD
  state := trigger.zone_state
  lfScore := trigger.Lf
  reason := trigger.reason

def fraudStage (trigger : TriggerService.TriggerDecisionResult) : FraudStage where
  status :=
    match fraudGate trigger with
    | .REJECT => .BLOCKED
    | .HOLD => .HOLD
    | .PASS => .PASSED
  score := demoFraudScore dto
  gate := fraudGate trigger

def canExecutePayout (trigger : TriggerService.TriggerDecisionResult) : Bool :=
  trigger.decision = .APPROVED && (fraudStage dto trigger).status = .PASSED

/-! ### The payout stage -/

def skipped : PayoutStage where
  status := .SKIPPED
  reason := "Not eligible after zone or fraud gate evaluation"

def failed (e : Exn) : PayoutStage where
  status := .FAILED
  reason := e.message

def payoutIdOf : ProcessPayoutResult → Option String
  | .existing payoutId .. => some payoutId
  | .settled _ _ _ payout => payout.payoutId
  | .retryQueued => none

def netAmountOf : ProcessPayoutResult → Option ℚ
  | .existing _ _ _ netAmount | .settled _ _ netAmount _ => some netAmount
  | .retryQueued => none

/-- The amount of the settled row, when it can be found. -/
def settledAmount (payoutAmount : ℚ) (result : ProcessPayoutResult) (db : Db) : Except Exn ℚ :=
  match truthy (payoutIdOf result) with
  | some payoutId => do
      require (io.readSettled = true) storeDown
      match db.payouts.findUnique (.id payoutId) with
      | some settled => pure ((settled.approvedPayout.or settled.estimatedLoss).getD payoutAmount)
      | none => pure ((netAmountOf result).getD payoutAmount)
  | none => pure ((netAmountOf result).getD payoutAmount)

def payoutStageOf (payoutAmount : ℚ) (result : ProcessPayoutResult) (db : Db) :
    Except Exn PayoutStage := do
  let amount ← if result.success then settledAmount io payoutAmount result db else pure payoutAmount
  pure {
    status := if result.success then .COMPLETED else .QUEUED_RETRY
    reason :=
      if result.success then "Payout processed through settlement pipeline"
      else "Gateway flow failed, queued in retry ledger"
    amount
    payoutId := payoutIdOf result
    transactionId := result.transactionId
    transferRail := (transferOf result).map Prod.fst
    transferReference := (transferOf result).map Prod.snd }

/-- The settlement that a demo asks for. -/
def demoPayout (policyId h3Cell : String) (payoutAmount : ℚ) : ProcessPayoutParams where
  driverId := driverId
  payoutAmount := some payoutAmount
  h3Cell := some h3Cell
  eventTimestamp := some (eventTimestamp io)
  policyId := some policyId
  disruptionType := some (disruptionType (resolveDemoScenario dto.scenario) ++ "_DEMO_" ++
    toString (eventTimestamp io))

/-- The body of the `try`. -/
def executePayout (policyId h3Cell : String) (s : System) : Except Exn PayoutStage × System :=
  let scenario := resolveDemoScenario dto.scenario
  match calculatePayout io.calculate s { driverId, Lf := some scenario.lfScore } with
  | .error e => (.error e, s)
  | .ok calculation =>
      let payoutAmount :=
        if 0 < calculation.payoutAmount then calculation.payoutAmount else minimumDemoGross scenario
      match processPayout cfg.payout io.process
          (demoPayout io driverId dto policyId h3Cell payoutAmount) s with
      | (.error e, s) => (.error e, s)
      | (.ok result, s) => (payoutStageOf io payoutAmount result s.db, s)

def payoutStage (policyId h3Cell : String) (trigger : TriggerService.TriggerDecisionResult)
    (s : System) : PayoutStage × System :=
  if canExecutePayout dto trigger then
    match executePayout cfg io driverId dto policyId h3Cell s with
    | (.error e, s) => (failed e, s)
    | (.ok stage, s) => (stage, s)
  else (skipped, s)

/-! ### The whole flow -/

def demoReading (policyId : String) (redis : Redis) : DemoReading where
  driverState := getDriverState io.fraud.redisUp io.fraud.now redis driverId
  policyState := getPolicyState io.fraud.redisUp io.fraud.now redis policyId

/-- The four writes of the flow. -/
def writeRecords (policyId : String) (read : DemoReading) (fleet : Fleet) : Fleet where
  system := { fleet.system with
    redis := demoWrites ⟨io.fraud.now, io.fraud.redisUp⟩ driverId policyId dto.toDemoTriggerDto read
      fleet.system.redis }
  roster := (fleet.rosterAt io.fraud.now).addDriverToZone io.fraud.redisUp
    (demoCell dto.toDemoTriggerDto read) driverId

/-- What follows the sensor check. -/
def runStages (policyId : String) (read : DemoReading) (fleet : Fleet) : DemoResult × Fleet :=
  let h3Cell := demoCell dto.toDemoTriggerDto read
  let fleet := writeRecords io driverId dto policyId read fleet
  let trigger := demoTrigger cfg io driverId dto h3Cell fleet.system.redis
  let (payout, system) := payoutStage cfg io driverId dto policyId h3Cell trigger fleet.system
  ({ policyId, h3Cell
     eventTimestamp := eventTimestamp io
     zone := zoneStage trigger
     fraud := fraudStage dto trigger
     payout },
    { fleet with system })

def runDriverDemoTriggerFlow (fleet : Fleet) : Except Exn DemoResult × Fleet :=
  if io.readPolicy then
    match activePolicy io.fraud.now fleet.system.db driverId with
    | none =>
        (.error (.badRequest "No active policy available for this driver to run demo flow"), fleet)
    | some policy =>
        let read := demoReading io driverId policy.id fleet.system.redis
        match demoCheck cfg.fraud io.fraud driverId dto.toDemoTriggerDto fleet.system with
        | (.error e, system) => (.error e, { fleet with system })
        | (.ok (), system) =>
            let (result, fleet) :=
              runStages cfg io driverId dto policy.id read { fleet with system }
            (.ok result, fleet)
  else (.error storeDown, fleet)

end DemoFlow

/-! ## The orchestrator -/

namespace ClaimOrchestratorService

open InsuranceService

/-- A claim, from whomever it comes, and what its evaluation meets. -/
structure Claim where
  driverId : String
  io : EvaluateIo
  dto : ProcessInsuranceRequestDto

variable (cfg : InsuranceService.Config)

def evaluate (s : System) (claim : Claim) : (String × Except Exn InsuranceResult) × System :=
  let (result, s) := processInsurance cfg claim.io claim.driverId claim.dto s
  ((claim.driverId, result), s)

/-- One claim after the other; a failed one does not stop the rest. -/
def evaluateAll : System → List Claim → List (String × Except Exn InsuranceResult) × System
  | s, [] => ([], s)
  | s, claim :: claims =>
      let (answer, s) := evaluate cfg s claim
      let (answers, s) := evaluateAll s claims
      (answer :: answers, s)

/-- `keys` is the answer to `KEYS zone:*`, `turn` the instant at which the turn of a zone comes. -/
structure ScanIo where
  now : ℤ
  redisUp : Bool
  keys : List String
  turn : String → ℤ
  rosterUp : String → Bool
  claim : String → String → EvaluateIo

variable (io : ScanIo)

def autoClaim (h3Cell : String) (timestamp : ℤ) (driverId : String) : Claim where
  driverId := driverId
  io := io.claim h3Cell driverId
  dto := { eventType := some "AUTO_EVAL", eventTimestamp := some timestamp }

def orchestrateZoneClaims (h3Cell : String) (eventTimestamp : Option ℤ) (fleet : Fleet) :
    List (String × Except Exn InsuranceResult) × Fleet :=
  let driversInZone := (fleet.rosterAt (io.turn h3Cell)).getZoneDrivers (io.rosterUp h3Cell) h3Cell
  let timestamp := eventTimestamp.getD (io.turn h3Cell / 1000)
  let (answers, system) :=
    evaluateAll cfg fleet.system (driversInZone.map (autoClaim io h3Cell timestamp))
  (answers, { fleet with system })

/-- The loop over the halted zones. -/
def orchestrateZones : List String → Fleet → List (String × Except Exn InsuranceResult) × Fleet
  | [], fleet => ([], fleet)
  | h3Cell :: cells, fleet =>
      let (answers, fleet) := orchestrateZoneClaims cfg io h3Cell none fleet
      let (rest, fleet) := orchestrateZones cells fleet
      (answers ++ rest, fleet)

def orchestrateAutoClaims (fleet : Fleet) : List (String × Except Exn InsuranceResult) × Fleet :=
  let haltedZones := getAllHaltedZones io.redisUp io.now fleet.system.redis io.keys
  orchestrateZones cfg io (haltedZones.map Prod.fst) fleet

end ClaimOrchestratorService

end Aegis
