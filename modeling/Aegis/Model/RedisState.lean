import Aegis.Library.JsString
import Aegis.Model.Payments
import Mathlib.Logic.Function.Basic

/-! # The Redis state

`RedisStateService`: records that expire and the payout retry queue. A record keeps the
fields that some service reads. Every operation takes the state of the connection; a
failed read gives `null` and a failed write is dropped, as in the service. -/

namespace Aegis.RedisState

/-- A value and the instant from which `get` no longer finds it. -/
structure Entry (α : Type) where
  value : α
  expiresAt : ℤ
  deriving DecidableEq, Repr

structure LastLocation where
  lat : Option ℚ := none
  lng : Option ℚ := none
  h3_cell : Option String := none
  deriving DecidableEq, Repr

structure DriverState where
  fraudScore : Option ℚ := none
  last_location : Option LastLocation := none
  deriving DecidableEq, Repr

structure ZoneState where
  Lf : Option ℚ := none
  lf_score : Option ℚ := none
  zone_state : Option String := none
  state : Option String := none
  deriving DecidableEq, Repr

structure PolicyState where
  plan : Option String := none
  Ct : Option ℚ := none
  Ew : Option ℚ := none
  Lf : Option ℚ := none
  premium : Option ℚ := none
  zone : Option String := none
  zone_state : Option String := none
  active : Option Bool := none
  cancelReason : Option String := none
  deriving DecidableEq, Repr

/-- A delayed job of the queue `fraud-review`, with its id `review_ttl_<userId>`. -/
structure ReviewJob where
  userId : String
  dueAt : ℤ
  deriving DecidableEq, Repr

/-- Records by key; the retry queue is listed from its head, where `lPush` inserts. -/
structure Redis where
  zones : String → Option (Entry ZoneState) := fun _ => none
  drivers : String → Option (Entry DriverState) := fun _ => none
  policies : String → Option (Entry PolicyState) := fun _ => none
  payoutRetryQueue : List PayoutRetry := []
  reviewJobs : List ReviewJob := []

instance : Inhabited Redis := ⟨{}⟩

def PARAMETRIC_TRIGGER_STATES : List String := ["HALTED", "FLOODED", "TOXIC_AQI", "GRIDLOCK"]

def ZONE_STATE_TTL : ℤ := 900

def DRIVER_STATE_TTL : ℤ := 900

def POLICY_STATE_TTL : ℤ := 900

section Records

variable {α : Type}

/-- `GET`: a record lives until its expiry. -/
def get (records : String → Option (Entry α)) (now : ℤ) (key : String) : Option α :=
  (records key).bind fun entry => if now < entry.expiresAt then some entry.value else none

/-- `SETEX`, with the time to live in seconds. -/
def setEx (records : String → Option (Entry α)) (now ttl : ℤ) (key : String) (value : α) :
    String → Option (Entry α) :=
  Function.update records key (some ⟨value, now + ttl * 1000⟩)

theorem get_setEx_self (records : String → Option (Entry α)) {now now' ttl : ℤ} (key : String)
    (value : α) (h : now' < now + ttl * 1000) :
    get (setEx records now ttl key value) now' key = some value := by
  simp [get, setEx, h]

theorem get_setEx_of_ne (records : String → Option (Entry α)) (now now' ttl : ℤ)
    {key key' : String} (value : α) (h : key' ≠ key) :
    get (setEx records now ttl key value) now' key' = get records now' key' := by
  simp [get, setEx, h]

end Records

/-! ## The operations of the service -/

section Operations

variable (up : Bool) (now : ℤ) (redis : Redis)

def getZoneState (h3Cell : String) : Option ZoneState :=
  if up then get redis.zones now h3Cell else none

def getDriverState (driverId : String) : Option DriverState :=
  if up then get redis.drivers now driverId else none

def getPolicyState (policyId : String) : Option PolicyState :=
  if up then get redis.policies now policyId else none

def setZoneState (h3Cell : String) (payload : ZoneState) : Redis :=
  if up then { redis with zones := setEx redis.zones now ZONE_STATE_TTL h3Cell payload } else redis

def setDriverState (driverId : String) (payload : DriverState) : Redis :=
  if up then { redis with drivers := setEx redis.drivers now DRIVER_STATE_TTL driverId payload }
  else redis

def setPolicyState (policyId : String) (payload : PolicyState) : Redis :=
  if up then { redis with policies := setEx redis.policies now POLICY_STATE_TTL policyId payload }
  else redis

def pushPayoutRetry (payload : PayoutRetry) : Redis :=
  if up then { redis with payoutRetryQueue := payload :: redis.payoutRetryQueue } else redis

/-- `rPop`: the entry at the tail of the list. -/
def popPayoutRetry : Option PayoutRetry × Redis :=
  if up then
    (redis.payoutRetryQueue.getLast?,
      { redis with payoutRetryQueue := redis.payoutRetryQueue.dropLast })
  else (none, redis)

end Operations

/-- `last_location?.h3_cell` of a driver record. -/
def cellOf (driverState : Option DriverState) : Option String :=
  driverState.bind fun d => d.last_location.bind LastLocation.h3_cell

/-- `zone_state ?? state ?? 'UNKNOWN'`. -/
def zoneLabel (zoneState : Option ZoneState) : String :=
  ((zoneState.bind ZoneState.zone_state).or (zoneState.bind ZoneState.state)).getD "UNKNOWN"

/-- `Number(Lf ?? lf_score ?? fallback)`. -/
def zoneLf (zoneState : Option ZoneState) (fallback : ℚ) : ℚ :=
  ((zoneState.bind ZoneState.Lf).or (zoneState.bind ZoneState.lf_score)).getD fallback

/-! ## The scan for halted zones -/

/-- `key.split(':').length === 2`. -/
def isZoneKey (key : String) : Bool := (key.toList.splitOn ':').length = 2

/-- `key.replace('zone:', '')` for a key that starts so. -/
def cellOfKey (key : String) : String := String.ofList (key.toList.drop 5)

/-- `zone_state?.toUpperCase() ?? state?.toUpperCase()`. -/
def scannedLabel (state : ZoneState) : Option String :=
  (state.zone_state.map JsString.toUpperCase).or (state.state.map JsString.toUpperCase)

def isHaltedZone (state : ZoneState) : Bool :=
  (scannedLabel state).any PARAMETRIC_TRIGGER_STATES.contains

/-- `keys` is the answer to `KEYS zone:*`; each of them is read in its turn. -/
def getAllHaltedZones (up : Bool) (now : ℤ) (redis : Redis) (keys : List String) :
    List (String × ZoneState) :=
  if up then
    (keys.filter isZoneKey).filterMap fun key =>
      ((get redis.zones now (cellOfKey key)).filter isHaltedZone).map fun state =>
        (cellOfKey key, state)
  else []

end Aegis.RedisState

namespace Aegis

/-- The store, the money that has left it, and the Redis state. -/
structure System extends Payments.World where
  redis : RedisState.Redis := {}

end Aegis
