import Aegis.Library.JsString
import Aegis.Model.RedisState

/-! # Zone state updates

The two ends of the Kafka topic `zone_state_updates`: `zone_aggregator.py` of the grid event
service, and `zone-monitoring.service.ts` with the part of `kafka.module.ts` that wires it. -/

namespace Aegis.ZoneAggregator

open RedisState

/-- The active window: a dictionary whose values are sets. -/
structure ZoneRiders where
  cells : List String := []
  riders : String → List String := fun _ => []
  nodup : cells.Nodup := by simp

/-- The new cells come last. -/
def ZoneRiders.add (zone_riders : ZoneRiders) (h3_cell driver_id : String) : ZoneRiders where
  cells :=
    if h3_cell ∈ zone_riders.cells then zone_riders.cells else zone_riders.cells.concat h3_cell
  riders := Function.update zone_riders.riders h3_cell
    ((zone_riders.riders h3_cell).insert driver_id)
  nodup := by
    split
    · exact zone_riders.nodup
    · rename_i h
      exact zone_riders.nodup.concat h

structure StateChange where
  h3_cell : String
  old_state : String
  new_state : String
  lf_score : ℚ
  timestamp : ℚ
  deriving DecidableEq, Repr

/-- `kafka_producer` is whether there is one, `flush_task` whether the task still runs; the topic
holds what was published, `errors` the cells whose update was logged as failed. -/
structure Aggregator where
  zone_riders : ZoneRiders := {}
  zone_last_coords : String → Option (ℚ × ℚ) := fun _ => none
  zone_states : String → Option String := fun _ => none
  kafka_producer : Bool := false
  flush_task : Bool := true
  topic : List StateChange := []
  errors : List String := []
  redis : Redis := {}

def _DEFAULT_LAT : ℚ := 12.9716

def _DEFAULT_LNG : ℚ := 77.5946

structure PipelinePayload where
  lat : ℚ
  lng : ℚ
  Ew : ℚ := 8000
  Ct : ℚ := 6 / 10
  M : ℚ := 1 / 10
  active_orders : ℕ
  active_riders : ℕ
  demand_ratio : ℚ := 1
  deriving DecidableEq, Repr

/-- The fields of the answer that are read. -/
structure PipelineData where
  Lf : Option ℚ := none
  zone_state : Option String := none
  deriving DecidableEq, Repr

structure MlData where
  Lf : ℚ
  zone_state : String
  deriving DecidableEq, Repr

/-- What a flush meets: the library of cells, the pipeline, the broker and the Redis server. -/
structure FlushIo where
  now : ℤ
  centroid : String → Option (ℚ × ℚ) := fun _ => none
  pipeline : PipelinePayload → Option PipelineData
  producerStarts : Bool := true
  sends : String → Bool := fun _ => true
  redisUp : Bool := true

section Flush

variable (io : FlushIo) (s : Aggregator) (h3_cell : String)

def processPing (driver_id : String) (coords : Option (ℚ × ℚ)) : Aggregator :=
  { s with
    zone_riders := s.zone_riders.add h3_cell driver_id
    zone_last_coords :=
      match coords with
      | some coords => Function.update s.zone_last_coords h3_cell (some coords)
      | none => s.zone_last_coords }

def pipelinePayload (rider_count : ℕ) : PipelinePayload :=
  let (lat, lng) := ((s.zone_last_coords h3_cell).or (io.centroid h3_cell)).getD
    (_DEFAULT_LAT, _DEFAULT_LNG)
  { lat, lng, active_orders := rider_count, active_riders := rider_count }

def getMlZoneData (rider_count : ℕ) : Option MlData :=
  (io.pipeline (pipelinePayload io s h3_cell rider_count)).map fun data =>
    ⟨data.Lf.getD 0, data.zone_state.getD "NORMAL"⟩

/-- A producer that does not start ends the task; a failed send is logged. -/
def publishStateChange (old_state new_state : String) (lf : ℚ) : Aggregator :=
  if s.kafka_producer = false ∧ io.producerStarts = false then
    { s with kafka_producer := true, flush_task := false }
  else if io.sends h3_cell then
    { s with
      kafka_producer := true
      topic := s.topic ++ [⟨h3_cell, old_state, new_state, lf, io.now / 1000⟩] }
  else { s with kafka_producer := true, errors := s.errors ++ [h3_cell] }

/-- A cell without an answer is marked in Redis, and nothing is published. -/
def writeDegraded : Aggregator :=
  if io.redisUp then
    { s with
      redis := { s.redis with
        zones := setEx s.redis.zones io.now 300 h3_cell
          { Lf := some (1 / 2), zone_state := some "DEGRADED" } } }
  else s

def flushZone (ml_data : Option MlData) : Aggregator :=
  match ml_data with
  | none => writeDegraded io s h3_cell
  | some ml_data =>
      let old_state := (s.zone_states h3_cell).getD "NORMAL"
      if ml_data.zone_state ≠ old_state then
        publishStateChange io
          { s with
            zone_states := Function.update s.zone_states h3_cell (some ml_data.zone_state) }
          h3_cell old_state ml_data.zone_state ml_data.Lf
      else s

/-- The loop over the results ends with the task. -/
def flushZones (results : List (String × Option MlData)) : Aggregator :=
  results.foldl
    (fun s (h3_cell, ml_data) => if s.flush_task then flushZone io s h3_cell ml_data else s) s

/-- All cells are looked up before the first result is handled. -/
def flushResults : List (String × Option MlData) :=
  s.zone_riders.cells.map fun h3_cell =>
    (h3_cell, getMlZoneData io s h3_cell (s.zone_riders.riders h3_cell).length)

/-- One round of `_periodic_flush`. -/
def periodicFlush : Aggregator :=
  if s.flush_task then flushZones io { s with zone_riders := {} } (flushResults io s) else s

end Flush

inductive Event where
  | ping (h3_cell driver_id : String) (coords : Option (ℚ × ℚ))
  | flush (io : FlushIo)

def step (s : Aggregator) : Event → Aggregator
  | .ping h3_cell driver_id coords => processPing s h3_cell driver_id coords
  | .flush io => periodicFlush io s

end Aegis.ZoneAggregator

namespace Aegis.ZoneMonitoring

open JsString RedisState

structure ZoneStateUpdatePayload where
  h3_cell : Option String := none
  old_state : Option String := none
  new_state : Option String := none
  lf_score : Option ℚ := none
  aqi : Option ℚ := none
  timestamp : Option ℚ := none
  deriving DecidableEq, Repr

/-- The value of a message: missing, no JSON object, or a payload. -/
inductive Message where
  | empty
  | invalid
  | payload (payload : ZoneStateUpdatePayload)
  deriving DecidableEq, Repr

structure CachedZone where
  h3_cell : String
  state : String
  lf_score : ℚ
  timestamp : ℚ
  source : String := "kafka-zone-state-updates"
  deriving DecidableEq, Repr

structure Delivery where
  now : ℤ
  redisUp : Bool := true
  message : Message

/-- The consumer and the calls of `orchestrateZoneClaims` that it has made. -/
structure Consumer where
  zoneState : String → Option String := fun _ => none
  zoneCache : String → Option CachedZone := fun _ => none
  redis : Redis := {}
  dispatched : List (String × ℤ) := []

/-- `Math.floor(Date.now() / 1000)`. -/
def seconds (now : ℤ) : ℤ := now / 1000

/-- `payload.timestamp ? Math.floor(payload.timestamp) : Math.floor(Date.now() / 1000)`. -/
def eventTimestamp (now : ℤ) (payload : ZoneStateUpdatePayload) : ℤ :=
  match payload.timestamp.filter (· ≠ 0) with
  | some timestamp => ⌊timestamp⌋
  | none => seconds now

/-- The state that a message announces, which is `HALTED` above an AQI of 300. -/
def announced (payload : ZoneStateUpdatePayload) : String :=
  if payload.aqi.any fun aqi => 300 < aqi then "HALTED"
  else toUpperCase (payload.new_state.getD "")

section EachMessage

-- whether a `ClaimOrchestratorService` was injected
variable (claimOrchestrator : Bool)

/-- `newState || previousState || 'UNKNOWN'`. -/
def settle (newState previousState : String) : String :=
  if newState ≠ "" then newState else if previousState ≠ "" then previousState else "UNKNOWN"

def handlePayload (now : ℤ) (redisUp : Bool) (s : Consumer) (h3Cell : String)
    (payload : ZoneStateUpdatePayload) : Consumer :=
  let newState := announced payload
  let previousState := toUpperCase (((s.zoneState h3Cell).or payload.old_state).getD "")
  let state := settle newState previousState
  let s :=
    { s with
      zoneState := Function.update s.zoneState h3Cell (some state)
      zoneCache := Function.update s.zoneCache h3Cell
        (some
          { h3_cell := h3Cell, state, lf_score := payload.lf_score.getD 0
            timestamp := payload.timestamp.getD (seconds now) })
      redis := setZoneState redisUp now s.redis h3Cell
        { Lf := some (payload.lf_score.getD 0), zone_state := some state } }
  if newState = "HALTED" ∧ previousState ≠ "HALTED" then
    if claimOrchestrator then
      { s with dispatched := s.dispatched ++ [(h3Cell, eventTimestamp now payload)] }
    -- `ClaimOrchestratorService unavailable in Kafka context; skipping auto-claim dispatch`
    else s
  else s

def eachMessage (s : Consumer) (delivery : Delivery) : Consumer :=
  match delivery.message with
  | .empty | .invalid => s
  | .payload payload =>
      match payload.h3_cell.filter (· ≠ "") with
      | none => s
      | some h3Cell =>
          handlePayload claimOrchestrator delivery.now delivery.redisUp s h3Cell payload

end EachMessage

end Aegis.ZoneMonitoring

namespace Aegis.KafkaModule

def PRISMA_EXPORTS : List String := ["PrismaService"]

def STATE_EXPORTS : List String := ["RedisStateService"]

def CLIENTS_EXPORTS : List String := ["KAFKA_SERVICE"]

/-- What the global modules export. -/
def GLOBAL_EXPORTS : List String :=
  ["PrismaService", "TwilioService", "EmailService", "ConfigService"]

def PROVIDERS : List String :=
  ["KafkaAdminService", "KafkaProducerService", "KafkaReliableProducerService", "KafkaDlqService",
    "RedisFallbackQueueService", "ZoneMonitoringService"]

/-- A provider is injected from the module itself, its imports or the global modules. -/
def injectable (provider : String) : Bool :=
  provider ∈ PROVIDERS ++ PRISMA_EXPORTS ++ STATE_EXPORTS ++ CLIENTS_EXPORTS ++ GLOBAL_EXPORTS

/-- The optional argument of `ZoneMonitoringService`. -/
def claimOrchestrator : Bool := injectable "ClaimOrchestratorService"

end Aegis.KafkaModule
