import Aegis.Library.HalfEven
import Aegis.Model.FraudScoring
import Mathlib.Algebra.Order.Floor.Ring
import Mathlib.Data.List.Dedup

/-! # The fraud features

`extract_fraud_features` and the histories of users, devices and cells that it keeps. The
mathematical functions and the grid are parameters. -/

namespace Aegis.FraudFeatureService

open HalfEven

def CLAIMS_WINDOW_DAYS : ℤ := 30
def DEVICE_SWITCH_WINDOW_DAYS : ℤ := 7
def GPS_CONSISTENCY_WINDOW_HOURS : ℤ := 24

/-- The modules `math` and `h3`. -/
structure Geometry where
  radians : ℚ → ℚ
  sin : ℚ → ℚ
  cos : ℚ → ℚ
  sqrt : ℚ → ℚ
  atan2 : ℚ → ℚ → ℚ
  latlng_to_h3 : ℚ → ℚ → String
  h3_cell_center : String → ℚ × ℚ
  sqrt_nonneg : ∀ x, 0 ≤ sqrt x
  atan2_nonneg : ∀ y x, 0 ≤ y → 0 ≤ atan2 y x

def Geometry.haversineKm (geo : Geometry) (lat1 lng1 lat2 lng2 : ℚ) : ℚ :=
  let phi1 := geo.radians lat1
  let phi2 := geo.radians lat2
  let dphi := geo.radians (lat2 - lat1)
  let dlambda := geo.radians (lng2 - lng1)
  let a := geo.sin (dphi / 2) ^ 2 + geo.cos phi1 * geo.cos phi2 * geo.sin (dlambda / 2) ^ 2
  6371 * 2 * geo.atan2 (geo.sqrt a) (geo.sqrt (1 - a))

/-! ## The store -/

structure GpsPing where
  lat : ℚ
  lng : ℚ
  timestamp : ℤ
  deriving DecidableEq, Repr

structure DeviceEvent where
  device_id : String
  timestamp : ℤ
  deriving DecidableEq, Repr

structure ClaimEvent where
  amount : ℚ
  timestamp : ℤ
  deriving DecidableEq, Repr

structure UserRecord where
  created_at : ℤ
  devices : List DeviceEvent := []
  claims : List ClaimEvent := []
  gps_history : List GpsPing := []
  earnings : List ℚ := []
  deriving DecidableEq, Repr

structure DeviceRecord where
  users : List String := []
  high_share : Bool := false
  deriving DecidableEq, Repr

/-- A user seen in a cell. -/
structure Presence where
  user_id : String
  timestamp : ℤ
  deriving DecidableEq, Repr

structure ZoneRecord where
  active_riders : ℕ := 0
  claim_count : ℕ := 0
  burst_detected : Bool := false
  recent_users : List Presence := []
  deriving DecidableEq, Repr

/-- The keys `user:`, `device:`, `zone_fraud:` and `h3:…:active_users`. -/
structure Store where
  users : String → Option UserRecord := fun _ => none
  devices : String → Option DeviceRecord := fun _ => none
  zones : String → Option ZoneRecord := fun _ => none
  activeUsers : String → List Presence := fun _ => []

structure FraudFeatureRequest where
  user_id : String
  device_id : String
  lat : ℚ
  lng : ℚ
  timestamp : ℤ
  claim_amount : ℚ
  deriving DecidableEq, Repr

/-! ## What an event writes -/

def newUserRecord (created_at : ℤ) : UserRecord := { created_at }

/-- `xs[-n:]`. -/
def lastOf {α : Type} (n : ℕ) (xs : List α) : List α := xs.drop (xs.length - n)

namespace Store

def userOr (s : Store) (user_id : String) (ts : ℤ) : UserRecord :=
  (s.users user_id).getD (newUserRecord ts)

def setUser (s : Store) (user_id : String) (record : UserRecord) : Store :=
  { s with users := Function.update s.users user_id (some record) }

/-- The history keeps the last 500 pings. -/
def recordGpsPing (user_id : String) (lat lng : ℚ) (ts : ℤ) (s : Store) : Store :=
  let record := s.userOr user_id ts
  s.setUser user_id
    { record with gps_history := lastOf 500 (record.gps_history ++ [⟨lat, lng, ts⟩]) }

/-- A device is entered once, when the user first shows up on it. -/
def recordDevice (user_id device_id : String) (ts : ℤ) (s : Store) : Store :=
  let record := s.userOr user_id ts
  let known := record.devices.any fun d => d.device_id = device_id
  let s := s.setUser user_id
    { record with devices := if known then record.devices else record.devices ++ [⟨device_id, ts⟩] }
  let dev_record := (s.devices device_id).getD {}
  let users :=
    if user_id ∈ dev_record.users then dev_record.users else dev_record.users ++ [user_id]
  { s with devices := Function.update s.devices device_id (some ⟨users, 3 < users.length⟩) }

def recordZonePresence (h3_cell user_id : String) (ts : ℤ) (s : Store) : Store :=
  let record := (s.zones h3_cell).getD {}
  let kept := record.recent_users.filter fun u => ts - u.timestamp < 3600
  let recent := if kept.any fun u => u.user_id = user_id then kept else kept ++ [⟨user_id, ts⟩]
  let very_recent := recent.filter fun u => ts - u.timestamp < 60
  { s with zones := Function.update s.zones h3_cell (some
      { record with
        recent_users := recent
        active_riders := recent.length
        burst_detected := 5 ≤ very_recent.length }) }

def recordClaim (user_id : String) (amount : ℚ) (ts : ℤ) (s : Store) : Store :=
  let record := s.userOr user_id ts
  s.setUser user_id { record with claims := record.claims ++ [⟨amount, ts⟩] }

def recordZoneClaim (h3_cell : String) (s : Store) : Store :=
  let record := (s.zones h3_cell).getD {}
  { s with zones := Function.update s.zones h3_cell (some
      { record with claim_count := record.claim_count + 1 }) }

/-- The users of the last hour, the present one last. -/
def recordH3ActiveUser (h3_cell user_id : String) (ts : ℤ) (s : Store) : Store :=
  let users := (s.activeUsers h3_cell).filter fun u => ts - u.timestamp < 3600
  let users := (users.filter fun u => u.user_id ≠ user_id) ++ [⟨user_id, ts⟩]
  { s with activeUsers := Function.update s.activeUsers h3_cell users }

def claimsLast24h (s : Store) (user_id : String) (now_ts : ℤ) : ℕ :=
  (s.users user_id).elim 0 fun record =>
    (record.claims.filter fun c => now_ts - 86400 ≤ c.timestamp).length

/-- Step 2 and the active users of step 2b. -/
def recordEvent (geo : Geometry) (req : FraudFeatureRequest) (s : Store) : Store :=
  let h3_cell := geo.latlng_to_h3 req.lat req.lng
  let s := s.recordGpsPing req.user_id req.lat req.lng req.timestamp
  let s := s.recordDevice req.user_id req.device_id req.timestamp
  let s := s.recordZonePresence h3_cell req.user_id req.timestamp
  let s :=
    if 0 < req.claim_amount then
      (s.recordClaim req.user_id req.claim_amount req.timestamp).recordZoneClaim h3_cell
    else s
  s.recordH3ActiveUser h3_cell req.user_id req.timestamp

end Store

/-! ## Identity -/

def daysBetween (ts_earlier ts_later : ℤ) : ℚ := |(ts_later - ts_earlier : ℚ)| / 86400

def computeAccountAgeDays (user_record : Option UserRecord) (now_ts : ℤ) : ℤ :=
  user_record.elim 0 fun record => max 0 ⌊daysBetween record.created_at now_ts⌋

def computeDeviceUniqueness (device_record : Option DeviceRecord) : ℚ :=
  device_record.elim 1 fun record => roundTo 4 (1 / (record.users.length + 1))

def computeDeviceSwitchFrequency (user_record : Option UserRecord) (now_ts : ℤ) : ℚ :=
  user_record.elim 0 fun record =>
    let recent := record.devices.filter fun d =>
      now_ts - DEVICE_SWITCH_WINDOW_DAYS * 86400 ≤ d.timestamp
    (recent.map DeviceEvent.device_id).dedup.length

def computeIdentityFeatures (user_record : Option UserRecord) (device_record : Option DeviceRecord)
    (now_ts : ℤ) : FraudService.IdentityFeatures where
  account_age_days := computeAccountAgeDays user_record now_ts
  device_id_uniqueness := computeDeviceUniqueness device_record
  device_switch_frequency := computeDeviceSwitchFrequency user_record now_ts
  oauth_token_valid := false

/-! ## Location -/

/-- The present ping is the last of the history already; the one before it counts. -/
def previousPing (gps_history : List GpsPing) : Option GpsPing := gps_history.dropLast.getLast?

def computeGpsSpeed (geo : Geometry) (gps_history : List GpsPing) (lat lng : ℚ) (ts : ℤ) : ℚ :=
  (previousPing gps_history).elim 0 fun prev =>
    let dt_sec : ℚ := |(ts - prev.timestamp : ℚ)|
    if dt_sec ≤ 0 then 0
    else roundTo 2 (geo.haversineKm prev.lat prev.lng lat lng / dt_sec * 3600)

def computeGpsCellDistance (geo : Geometry) (gps_history : List GpsPing) (lat lng : ℚ) : ℚ :=
  (previousPing gps_history).elim 0 fun prev =>
    let current_cell := geo.latlng_to_h3 lat lng
    let prev_cell := geo.latlng_to_h3 prev.lat prev.lng
    if current_cell = prev_cell then 0
    else
      let cur := geo.h3_cell_center current_cell
      let prv := geo.h3_cell_center prev_cell
      roundTo 4 (geo.haversineKm prv.1 prv.2 cur.1 cur.2)

def computeH3ZoneConsistency (geo : Geometry) (gps_history : List GpsPing) (lat lng : ℚ)
    (now_ts : ℤ) : ℚ :=
  let recent := gps_history.filter fun ping =>
    now_ts - GPS_CONSISTENCY_WINDOW_HOURS * 3600 ≤ ping.timestamp
  if recent = [] then 1
  else
    let matching := recent.filter fun ping =>
      geo.latlng_to_h3 ping.lat ping.lng = geo.latlng_to_h3 lat lng
    roundTo 4 (matching.length / recent.length)

def computeHasHistoryInZone (geo : Geometry) (gps_history : List GpsPing) (lat lng : ℚ) : Bool :=
  gps_history.dropLast.any fun ping =>
    geo.latlng_to_h3 ping.lat ping.lng = geo.latlng_to_h3 lat lng

/-- The backend reads the first three. -/
structure LocationFeatures extends FraudService.LocationFeatures where
  has_history_in_zone : Bool
  h3_burst_detected : Bool
  telemetry_spoof_detected : Bool
  deriving DecidableEq, Repr

def computeLocationFeatures (geo : Geometry) (user_record : Option UserRecord)
    (zone_record : Option ZoneRecord) (lat lng : ℚ) (now_ts : ℤ) : LocationFeatures :=
  let gps_history := user_record.elim [] UserRecord.gps_history
  let gps_speed := computeGpsSpeed geo gps_history lat lng now_ts
  { gps_speed
    gps_cell_distance := computeGpsCellDistance geo gps_history lat lng
    h3_zone_consistency := computeH3ZoneConsistency geo gps_history lat lng now_ts
    has_history_in_zone := computeHasHistoryInZone geo gps_history lat lng
    h3_burst_detected := zone_record.elim false ZoneRecord.burst_detected
    telemetry_spoof_detected := 300 < gps_speed }

/-! ## Behaviour -/

def computeClaimsLast30d (user_record : Option UserRecord) (now_ts : ℤ) : ℕ :=
  user_record.elim 0 fun record =>
    (record.claims.filter fun c => now_ts - CLAIMS_WINDOW_DAYS * 86400 ≤ c.timestamp).length

/-- Days on which something with one of the time stamps falls into the window. -/
def activeDaySet (timestamps : List ℤ) (now_ts : ℤ) : List ℤ :=
  ((timestamps.filter fun ts => now_ts - CLAIMS_WINDOW_DAYS * 86400 ≤ ts).map (· / 86400)).dedup

def computeTriggerFrequency (user_record : Option UserRecord) (claims_last_30d : ℕ) (now_ts : ℤ) :
    ℚ :=
  user_record.elim 0 fun record =>
    if claims_last_30d = 0 then 0
    else
      let gps_days := activeDaySet (record.gps_history.map GpsPing.timestamp) now_ts
      let days :=
        if gps_days = [] then activeDaySet (record.claims.map ClaimEvent.timestamp) now_ts
        else gps_days
      roundTo 4 (claims_last_30d / max (days.length : ℚ) 1)

def computeEarningsDeviation (geo : Geometry) (user_record : Option UserRecord) : ℚ :=
  user_record.elim 0 fun record =>
    let earnings := record.earnings
    if earnings.length < 2 then 0
    else
      let mean_e : ℚ := earnings.sum / earnings.length
      if mean_e = 0 then 0
      else
        let squares : List ℚ := earnings.map fun e => (e - mean_e) ^ 2
        let variance := squares.sum / earnings.length
        min (roundTo 4 (geo.sqrt variance / mean_e)) 2

def computeZoneClaimRate (zone_record : Option ZoneRecord) : ℚ :=
  zone_record.elim 0 fun record =>
    roundTo 4 (record.claim_count / max 1 (record.active_riders : ℚ))

/-- The backend reads the first three. -/
structure BehaviorFeatures extends FraudService.BehaviorFeatures where
  zone_claim_rate : ℚ
  deriving DecidableEq, Repr

def computeBehaviorFeatures (geo : Geometry) (user_record : Option UserRecord)
    (zone_record : Option ZoneRecord) (now_ts : ℤ) : BehaviorFeatures :=
  let claims_last_30d := computeClaimsLast30d user_record now_ts
  { claims_last_30d
    trigger_frequency := computeTriggerFrequency user_record claims_last_30d now_ts
    earnings_pattern_deviation := computeEarningsDeviation geo user_record
    zone_claim_rate := computeZoneClaimRate zone_record }

/-! ## The response -/

structure FraudFeatureResponse where
  identity : FraudService.IdentityFeatures
  location : LocationFeatures
  behavior : BehaviorFeatures
  metaData : FraudService.MetaFeatures
  deriving DecidableEq, Repr

/-- What the backend reads of it. -/
def FraudFeatureResponse.received (r : FraudFeatureResponse) :
    FraudService.FraudFeatureResponse where
  identity := r.identity
  location := r.location.toLocationFeatures
  behavior := r.behavior.toBehaviorFeatures
  metaData := r.metaData

def extractFraudFeatures (geo : Geometry) (req : FraudFeatureRequest) (s : Store) :
    FraudFeatureResponse × Store :=
  let h3_cell := geo.latlng_to_h3 req.lat req.lng
  let s := s.recordEvent geo req
  let user_record := s.users req.user_id
  let device_record := s.devices req.device_id
  let zone_record := s.zones h3_cell
  let active := s.activeUsers h3_cell
  ({ identity := computeIdentityFeatures user_record device_record req.timestamp
     location := computeLocationFeatures geo user_record zone_record req.lat req.lng req.timestamp
     behavior := computeBehaviorFeatures geo user_record zone_record req.timestamp
     metaData :=
      { h3_cell
        timestamp := req.timestamp
        device_high_share := some (device_record.elim false DeviceRecord.high_share)
        device_user_count := some (device_record.elim [] DeviceRecord.users).length
        h3_burst_detected := some (1 < active.length)
        h3_active_count := some active.length
        claims_last_24h := some (s.claimsLast24h req.user_id req.timestamp) } },
    s)

/-! ## The store at the start -/

inductive BehaviorStoreMode where
  | production
  | baselinePrior (now : ℤ)

/-- `_init_baseline_prior_profiles`. -/
def baselinePriorUsers (now : ℤ) : String → Option UserRecord
  | "u123" => some
      { created_at := now - 45 * 86400
        devices := [⟨"d456", now - 45 * 86400⟩]
        claims := [⟨200, now - 28 * 86400⟩, ⟨350, now - 25 * 86400⟩, ⟨180, now - 20 * 86400⟩,
          ⟨450, now - 15 * 86400⟩, ⟨300, now - 8 * 86400⟩, ⟨800, now - 1 * 86400⟩]
        gps_history := [⟨129349 / 10000, 776241 / 10000, now - 3600⟩,
          ⟨129351 / 10000, 776243 / 10000, now - 1800⟩, ⟨129352 / 10000, 776245 / 10000, now - 300⟩]
        earnings := [850, 920, 780, 1050, 700, 960, 830, 890, 740, 1100] }
  | "u999" => some
      { created_at := now - 10 * 86400
        devices := [⟨"dAAA", now - 10 * 86400⟩, ⟨"dBBB", now - 7 * 86400⟩,
          ⟨"dCCC", now - 5 * 86400⟩, ⟨"dDDD", now - 3 * 86400⟩, ⟨"dEEE", now - 1 * 86400⟩]
        claims := [⟨900, now - 9 * 86400⟩, ⟨950, now - 8 * 86400⟩, ⟨980, now - 6 * 86400⟩,
          ⟨1000, now - 4 * 86400⟩, ⟨999, now - 2 * 86400⟩]
        gps_history := [⟨13, 7755 / 100, now - 600⟩, ⟨129352 / 10000, 776245 / 10000, now - 60⟩]
        earnings := [200, 1800, 150, 2000, 100, 1900, 120, 1950] }
  | "u001" => some
      { created_at := now - 1 * 86400
        devices := [⟨"dNEW", now - 1 * 86400⟩] }
  | _ => none

def baselinePriorDevices : String → Option DeviceRecord
  | "d456" => some { users := ["u123"] }
  | "dAAA" | "dBBB" | "dCCC" | "dDDD" | "dEEE" => some { users := ["u999"] }
  | "dNEW" => some { users := ["u001"] }
  | _ => none

def initBaselineBehaviorStore : BehaviorStoreMode → Store
  | .production => {}
  | .baselinePrior now => { users := baselinePriorUsers now, devices := baselinePriorDevices }

/-! ## The risk of a user

`GET /api/v1/risk/{user_id}`. -/

inductive RiskLabel where
  | LOW
  | MEDIUM
  | HIGH
  deriving DecidableEq, Repr

structure RiskScoreData where
  user_id : String
  risk_score : ℚ
  risk_label : RiskLabel
  account_age_days : ℤ
  claims_last_30d : ℕ
  distinct_devices_7d : ℕ
  device_high_share : Bool
  evaluated_at : ℤ
  deriving DecidableEq, Repr

structure RiskError where
  code : String
  message : String
  status : ℕ
  deriving DecidableEq, Repr

/-- What `strip` takes off a text. -/
def isWhitespace (c : Char) : Bool :=
  let n := c.toNat
  (9 ≤ n ∧ n ≤ 13) ∨ (28 ≤ n ∧ n ≤ 32) ∨ n = 0x85 ∨ n = 0xA0 ∨ n = 0x1680 ∨
    (0x2000 ≤ n ∧ n ≤ 0x200A) ∨ n = 0x2028 ∨ n = 0x2029 ∨ n = 0x202F ∨ n = 0x205F ∨ n = 0x3000

def riskScore (age_days : ℤ) (claims_last_30d distinct_devices : ℕ) (device_high_share : Bool) :
    ℚ :=
  let score : ℚ := if age_days < 7 then 1 / 4 else 0
  let score :=
    if 5 < claims_last_30d then score + 3 / 10
    else if 2 < claims_last_30d then score + 3 / 20
    else score
  let score := if 2 < distinct_devices then score + 1 / 4 else score
  let score := if device_high_share then score + 1 / 5 else score
  roundTo 4 (min score 1)

def riskLabel (score : ℚ) : RiskLabel :=
  if 7 / 10 ≤ score then .HIGH else if 35 / 100 ≤ score then .MEDIUM else .LOW

/-- The device entered last; an empty name counts as none. -/
def latestDeviceId (user_record : UserRecord) : Option String :=
  (user_record.devices.getLast?.map DeviceEvent.device_id).filter (· ≠ "")

def Store.deviceHighShare (s : Store) (user_record : UserRecord) : Bool :=
  (latestDeviceId user_record).any fun device_id =>
    (s.devices device_id).elim false DeviceRecord.high_share

/-- `_compute_risk`. -/
def computeRisk (s : Store) (user_id : String) (user_record : UserRecord) (now_ts : ℤ) :
    RiskScoreData :=
  let age_days := max 0 ((now_ts - user_record.created_at).tdiv 86400)
  let claims_last_30d :=
    (user_record.claims.filter fun c => now_ts - 30 * 86400 ≤ c.timestamp).length
  let distinct_devices :=
    ((user_record.devices.filter fun d => now_ts - 7 * 86400 ≤ d.timestamp).map
      DeviceEvent.device_id).dedup.length
  let device_high_share := s.deviceHighShare user_record
  let score := riskScore age_days claims_last_30d distinct_devices device_high_share
  { user_id
    risk_score := score
    risk_label := riskLabel score
    account_age_days := age_days
    claims_last_30d
    distinct_devices_7d := distinct_devices
    device_high_share
    evaluated_at := now_ts }

def getRiskScore (s : Store) (user_id : String) (now_ts : ℤ) : Except RiskError RiskScoreData :=
  if user_id.toList.all isWhitespace then
    .error ⟨"ERR_AUTH_INVALID_TOKEN", "user_id must be a non-empty string.", 400⟩
  else
    match s.users user_id with
    | none =>
        .error ⟨"ERR_DB_QUERY_FAILED",
          "No telemetry history found for user '" ++ user_id ++ "'.", 404⟩
    | some user_record => .ok (computeRisk s user_id user_record now_ts)

end Aegis.FraudFeatureService
