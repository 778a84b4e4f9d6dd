import Aegis.Library.Bursts
import Aegis.Library.HalfEven

/-! # The telemetry of a cell

`kafka_consumer.py` of the feature service: the riders and the speeds that the messages leave in
Redis. The grid is a parameter; instants are in seconds. -/

namespace Aegis.KafkaConsumer

open Bursts HalfEven Sightings

/-- A message of the topic `driver_telemetry`. -/
structure Telemetry where
  lat : Option ℚ
  lon : Option ℚ := none
  lng : Option ℚ := none
  speed : ℚ := 0
  driverId : String := "unknown"
  deriving DecidableEq, Repr

structure Fix where
  lat : ℚ
  lon : ℚ
  speed : ℚ
  driver_id : String
  deriving DecidableEq, Repr

/-- A longitude of zero counts as missing, a place near the origin as no fix at all. -/
def validateTelemetry (payload : Telemetry) : Option Fix := do
  let lat ← payload.lat
  let lon ← (payload.lon.filter fun lon => lon ≠ 0).or payload.lng
  if ¬(-90 ≤ lat ∧ lat ≤ 90) then none
  else if ¬(-180 ≤ lon ∧ lon ≤ 180) then none
  else if |lat| < 1 / 10 ∧ |lon| < 1 / 10 then none
  else some ⟨lat, lon, if payload.speed < 0 then 0 else payload.speed, payload.driverId⟩

/-! ## The keys of a cell -/

structure SpeedHash where
  total_speed : ℚ
  count : ℕ
  avg_speed : ℚ
  deriving DecidableEq, Repr

/-- The keys `h3:speed:<cell>` and `h3:riders:<cell>`. -/
structure CellKeys where
  speeds : String → Option (Expiring SpeedHash) := fun _ => none
  riders : String → Option (Expiring (List String)) := fun _ => none

def KEY_TTL : ℤ := 300

/-- `HINCRBYFLOAT` and `HINCRBY`, and the average of both. -/
def addSpeed (hash : Option SpeedHash) (speed : ℚ) : SpeedHash :=
  let total := hash.elim 0 SpeedHash.total_speed + speed
  let count := hash.elim 0 SpeedHash.count + 1
  ⟨total, count, roundTo 4 (total / count)⟩

/-- `SADD`. -/
def addRider (set : Option (List String)) (driver_id : String) : List String :=
  insertOnce id (set.getD []) driver_id

def updateSpeed (now : ℤ) (h3_cell : String) (speed : ℚ) (keys : CellKeys) : CellKeys :=
  { keys with
    speeds := Function.update keys.speeds h3_cell
      (some ⟨addSpeed (live now (keys.speeds h3_cell)) speed, now + KEY_TTL⟩) }

def updateRiderCount (now : ℤ) (h3_cell driver_id : String) (keys : CellKeys) : CellKeys :=
  { keys with
    riders := Function.update keys.riders h3_cell
      (some ⟨addRider (live now (keys.riders h3_cell)) driver_id, now + KEY_TTL⟩) }

def getAvgSpeed (now : ℤ) (h3_cell : String) (keys : CellKeys) : ℚ :=
  (live now (keys.speeds h3_cell)).elim 0 SpeedHash.avg_speed

def getActiveRiderCount (now : ℤ) (h3_cell : String) (keys : CellKeys) : ℕ :=
  (live now (keys.riders h3_cell)).elim 0 List.length

/-- A message that arrives at `now`; one that is not valid is skipped. -/
def consume (latlng_to_cell : ℚ → ℚ → String) (keys : CellKeys) (message : ℤ × Telemetry) :
    CellKeys :=
  match validateTelemetry message.2 with
  | none => keys
  | some fix =>
      let h3_cell := latlng_to_cell fix.lat fix.lon
      updateSpeed message.1 h3_cell fix.speed
        (updateRiderCount message.1 h3_cell fix.driver_id keys)

/-! ## The trigger of the pipeline -/

/-- A task for `run_pipeline_from_kafka`, made at `now`. -/
structure PipelineTask where
  h3_cell : String
  lat : ℚ
  lng : ℚ
  now : ℚ
  deriving DecidableEq, Repr

/-- The keys, and the instants in `_last_trigger` on the monotonic clock. -/
structure Consumer where
  keys : CellKeys := {}
  last_trigger : String → Option ℚ := fun _ => none
  tasks : List PipelineTask := []

def maybeTriggerPipeline (TRIGGER_INTERVAL now : ℚ) (h3_cell : String) (lat lon : ℚ)
    (consumer : Consumer) : Consumer :=
  let last := (consumer.last_trigger h3_cell).getD 0
  if now - last < TRIGGER_INTERVAL then consumer
  else
    { consumer with
      last_trigger := Function.update consumer.last_trigger h3_cell (some now)
      tasks := consumer.tasks ++ [⟨h3_cell, lat, lon, now⟩] }

/-- A message with the time of the keys and that of the monotonic clock. -/
structure Arrival where
  time : ℤ
  monotonic : ℚ
  value : Telemetry
  deriving DecidableEq, Repr

/-- The body of the loop of `run_h3_kafka_consumer`. -/
def handleMessage (latlng_to_cell : ℚ → ℚ → String) (TRIGGER_INTERVAL : ℚ) (consumer : Consumer)
    (msg : Arrival) : Consumer :=
  match validateTelemetry msg.value with
  | none => consumer
  | some fix =>
      maybeTriggerPipeline TRIGGER_INTERVAL msg.monotonic (latlng_to_cell fix.lat fix.lon)
        fix.lat fix.lon
        { consumer with keys := consume latlng_to_cell consumer.keys (msg.time, msg.value) }

end Aegis.KafkaConsumer
