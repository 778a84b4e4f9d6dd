import Aegis.Model.Insurance

/-! # The writers of a driver's record

The telemetry, the producer behind it and the demo flow. `computeFraudScore`, the fourth
writer, belongs to the analysis. -/

namespace Aegis

open RedisState

/-- What a write meets. -/
structure LocationIo where
  now : ℤ
  redisUp : Bool := true
  deriving DecidableEq, Repr

namespace KafkaProducerService

/-- The record of the driver; the rest of it stays. -/
def publishDriverLocation (latLngToCell : ℚ → ℚ → String) (io : LocationIo) (driverId : String)
    (lat lng : ℚ) (redis : Redis) : Redis :=
  let existing := (getDriverState io.redisUp io.now redis driverId).getD {}
  let last_location := existing.last_location.getD {}
  setDriverState io.redisUp io.now redis driverId { existing with
    last_location := some { last_location with
      lat := some lat
      lng := some lng
      h3_cell := some (latLngToCell lat lng) } }

end KafkaProducerService

namespace TelemetryService

def publishGpsTelemetry (latLngToCell : ℚ → ℚ → String) (io : LocationIo) (driverId : String)
    (lat lng : ℚ) (redis : Redis) : Redis :=
  let redis := setDriverState io.redisUp io.now redis driverId
    { last_location := some ⟨some lat, some lng, some (latLngToCell lat lng)⟩ }
  KafkaProducerService.publishDriverLocation latLngToCell io driverId lat lng redis

end TelemetryService

namespace InsuranceService

/-! ## The demo flow -/

open Outcome JsString FraudService PayoutService
open Payments (storeDown)

structure DemoScenario where
  code : String
  zoneState : String
  lfScore : ℚ
  lat : ℚ
  lng : ℚ
  deriving DecidableEq, Repr

def rain : DemoScenario := ⟨"RAIN", "HALTED", 82 / 100, 130827 / 10000, 802707 / 10000⟩

def resolveDemoScenario (scenario : Option String) : DemoScenario :=
  match toUpperCase (trim (scenario.getD "RAIN")) with
  | "TRAFFIC" => ⟨"TRAFFIC", "GRIDLOCK", 68 / 100, 130674 / 10000, 802376 / 10000⟩
  | "FLOOD" => ⟨"FLOOD", "FLOODED", 91 / 100, 130475 / 10000, 801652 / 10000⟩
  | _ => rain

structure DemoTriggerDto where
  scenario : Option String := none
  h3Cell : Option String := none
  accelerometerVariance : Option ℚ := none
  barometricPressureHpa : Option ℚ := none
  acousticMatchConfidence : Option ℚ := none
  deriving DecidableEq, Repr

/-- What the flow has read before it writes. -/
structure DemoReading where
  driverState : Option DriverState := none
  policyState : Option PolicyState := none
  deriving DecidableEq, Repr

def demoCell (dto : DemoTriggerDto) (read : DemoReading) : String :=
  ((dto.h3Cell.or (read.policyState.bind PolicyState.zone)).or (cellOf read.driverState)).getD
    "8860145b6fffffff"

/-- The records of the zone, the policy and the driver. -/
def demoWrites (io : LocationIo) (driverId policyId : String) (dto : DemoTriggerDto)
    (read : DemoReading) (redis : Redis) : Redis :=
  let scenario := resolveDemoScenario dto.scenario
  let h3Cell := demoCell dto read
  let redis := setZoneState io.redisUp io.now redis h3Cell
    { Lf := some scenario.lfScore
      lf_score := some scenario.lfScore
      zone_state := some scenario.zoneState
      state := some scenario.zoneState }
  let redis := setPolicyState io.redisUp io.now redis policyId { read.policyState.getD {} with
    zone := some h3Cell
    Lf := some scenario.lfScore
    zone_state := some scenario.zoneState }
  setDriverState io.redisUp io.now redis driverId { read.driverState.getD {} with
    last_location := some ⟨some scenario.lat, some scenario.lng, some h3Cell⟩ }

def demoFraudDto (dto : DemoTriggerDto) : AnalyzeFraudDto :=
  let scenario := resolveDemoScenario dto.scenario
  { gpsLatitude := scenario.lat
    gpsLongitude := scenario.lng
    eventType := some "DEMO_TRIGGER"
    accelerometerVariance := dto.accelerometerVariance
    barometricPressureHpa := dto.barometricPressureHpa
    acousticMatchConfidence := dto.acousticMatchConfidence }

/-- The check of the sensors, which is made when the request has a reading of one of them. -/
def demoCheck (cfg : FraudService.Config) (io : FraudIo) (driverId : String) (dto : DemoTriggerDto)
    (s : System) : Except Exn Unit × System :=
  if dto.accelerometerVariance.isSome || dto.barometricPressureHpa.isSome ||
      dto.acousticMatchConfidence.isSome then
    match computeFraudScore cfg io driverId (demoFraudDto dto) s with
    | (.error e, s) => (.error e, s)
    | (.ok _, s) => (.ok (), s)
  else (.ok (), s)

/-- `runDriverDemoTriggerFlow` as far as it writes records of its own. -/
def runDriverDemoTriggerFlow (cfg : FraudService.Config) (io : FraudIo) (readPolicy : Bool)
    (driverId : String) (dto : DemoTriggerDto) (s : System) : Except Exn Unit × System :=
  if readPolicy then
    match activePolicy io.now s.db driverId with
    | none =>
        (.error (.badRequest "No active policy available for this driver to run demo flow"), s)
    | some policy =>
        let read : DemoReading :=
          { driverState := getDriverState io.redisUp io.now s.redis driverId
            policyState := getPolicyState io.redisUp io.now s.redis policy.id }
        match demoCheck cfg io driverId dto s with
        | (.error e, s) => (.error e, s)
        | (.ok (), s) =>
            (.ok (), { s with
              redis := demoWrites ⟨io.now, io.redisUp⟩ driverId policy.id dto read s.redis })
  else (.error storeDown, s)

end InsuranceService

end Aegis
