import Aegis.Library.Run
import Aegis.Model.FraudFeatures

/-! # Features that the scoring accepts

The bounds of the scoring request, read back to the histories from which the features are
computed. -/

namespace Aegis.FraudFeatureService

open HalfEven MlFraudService FraudService Run

/-! ## The law -/

section Histories

variable (geo : Geometry) (s : Store) (req : FraudFeatureRequest)

/-- What the store knows of the user when the event comes in. -/
def found : UserRecord := s.userOr req.user_id req.timestamp

/-- The claims of the last `window` seconds, the present one among them. -/
def recentClaims (window : ℤ) : ℕ :=
  ((found s req).claims.filter fun c => req.timestamp - window ≤ c.timestamp).length +
    if 0 < req.claim_amount then 1 else 0

def deviceKnown : Bool := (found s req).devices.any fun d => d.device_id = req.device_id

/-- The devices first used in the last seven days. -/
def recentDevices : ℕ :=
  (((found s req).devices.filter fun d => req.timestamp - 7 * 86400 ≤ d.timestamp).map
    DeviceEvent.device_id).dedup.length + if deviceKnown s req then 0 else 1

/-- The days of the last 500 pings that lie in the last thirty days. -/
def activeDays : ℕ :=
  (activeDaySet ((lastOf 499 (found s req).gps_history).map GpsPing.timestamp ++ [req.timestamp])
    req.timestamp).length

/-- All who have used the device, the present user among them. -/
def deviceUsers : ℕ :=
  let users := ((s.devices req.device_id).getD {}).users
  users.length + if req.user_id ∈ users then 0 else 1

/-- The histories stay below what the scoring service is prepared for. -/
structure Scoreable : Prop where
  tenure : |req.timestamp - (found s req).created_at| < 10001 * 86400
  devices : recentDevices s req ≤ 100
  speed : ∀ ping ∈ (found s req).gps_history.getLast?, ping.timestamp ≠ req.timestamp →
    geo.haversineKm ping.lat ping.lng req.lat req.lng /
      |(req.timestamp - ping.timestamp : ℚ)| * 3600 ≤ 500 + 1 / 200
  claims_last_30d : recentClaims s req (30 * 86400) ≤ 1000
  claims_last_24h : recentClaims s req 86400 ≤ 100
  claims_a_day : recentClaims s req (30 * 86400) ≤ 100 * activeDays s req
  sharers : deviceUsers s req ≤ 100

end Histories

def serve (geo : Geometry) (s : Store) (req : FraudFeatureRequest) : Store :=
  (extractFraudFeatures geo req s).2

/-! ## The request of the backend -/

/-- The features keep the bounds of the schema. -/
structure Within (r : FraudService.FraudFeatureResponse) : Prop where
  account_age_days : 0 ≤ r.identity.account_age_days ∧ r.identity.account_age_days ≤ 10000
  device_id_uniqueness : 0 ≤ r.identity.device_id_uniqueness ∧ r.identity.device_id_uniqueness ≤ 1
  device_switch_frequency :
    0 ≤ r.identity.device_switch_frequency ∧ r.identity.device_switch_frequency ≤ 100
  gps_speed : 0 ≤ r.location.gps_speed ∧ r.location.gps_speed ≤ 500
  h3_zone_consistency : 0 ≤ r.location.h3_zone_consistency ∧ r.location.h3_zone_consistency ≤ 1
  claims_last_30d : 0 ≤ r.behavior.claims_last_30d ∧ r.behavior.claims_last_30d ≤ 1000
  claims_last_24h :
    0 ≤ r.metaData.claims_last_24h.getD 0 ∧ r.metaData.claims_last_24h.getD 0 ≤ 100
  trigger_frequency : 0 ≤ r.behavior.trigger_frequency ∧ r.behavior.trigger_frequency ≤ 100
  earnings_pattern_deviation : 0 ≤ r.behavior.earnings_pattern_deviation ∧
    r.behavior.earnings_pattern_deviation ≤ 100
  device_user_count :
    1 ≤ r.metaData.device_user_count.getD 1 ∧ r.metaData.device_user_count.getD 1 ≤ 100
  whole : (r.metaData.device_user_count.getD 1).den = 1

theorem holds_iff (bound : FieldBound) (body : FraudScoreBody) :
    bound.holds body = true ↔ bound.ge ≤ bound.value body ∧ bound.value body ≤ bound.le := by
  simp [FieldBound.holds]

theorem invalidFields_eq_nil_iff (body : FraudScoreBody) :
    invalidFields body = [] ↔
      (∀ bound ∈ hybridBounds, bound.ge ≤ bound.value body ∧ bound.value body ≤ bound.le) ∧
        body.shared_driver_count_24h.den = 1 := by
  rw [invalidFields, List.append_eq_nil_iff, List.map_eq_nil_iff, List.filter_eq_nil_iff]
  refine and_congr (forall₂_congr fun bound _ => ?_) (by simp)
  rw [← holds_iff]
  simp

theorem parse_ok_iff (db : Db) (userId : String) (r : FraudService.FraudFeatureResponse)
    (dto : AnalyzeFraudDto) (token : Option String) :
    (∃ request, parseHybridRequest (hybridScoreBody db userId r dto token) = .ok request) ↔
      Within r := by
  have hvalid : (∃ request, parseHybridRequest (hybridScoreBody db userId r dto token) =
      .ok request) ↔ invalidFields (hybridScoreBody db userId r dto token) = [] := by
    unfold parseHybridRequest
    split <;> simp_all
  rw [hvalid, invalidFields_eq_nil_iff]
  simp only [hybridBounds, List.forall_mem_cons, List.not_mem_nil, IsEmpty.forall_iff,
    implies_true, and_true, hybridScoreBody]
  constructor
  · rintro ⟨⟨h₁, h₂, h₃, h₄, h₅, h₆, h₇, h₈, h₉, h₁₀⟩, h₁₁⟩
    exact ⟨h₁, h₂, h₃, h₄, h₅, h₆, h₇, h₈, h₉, h₁₀, h₁₁⟩
  · rintro ⟨h₁, h₂, h₃, h₄, h₅, h₆, h₇, h₈, h₉, h₁₀, h₁₁⟩
    exact ⟨⟨h₁, h₂, h₃, h₄, h₅, h₆, h₇, h₈, h₉, h₁₀⟩, h₁₁⟩

/-! ## The records after the event -/

theorem lastOf_append_singleton {α : Type} (n : ℕ) (xs : List α) (x : α) :
    lastOf (n + 1) (xs ++ [x]) = lastOf n xs ++ [x] := by
  unfold lastOf
  rw [List.length_append, List.length_singleton, Nat.add_sub_add_right,
    List.drop_append_of_le_length (Nat.sub_le _ _)]

theorem getLast?_lastOf {α : Type} {n : ℕ} (hn : n ≠ 0) (xs : List α) :
    (lastOf n xs).getLast? = xs.getLast? := by
  unfold lastOf
  rw [List.getLast?_drop]
  split
  · rename_i hlen
    have hempty : xs = [] := List.eq_nil_of_length_eq_zero (by omega)
    simp [hempty]
  · rfl

section Records

variable (geo : Geometry) (s : Store) (req : FraudFeatureRequest)

def present : GpsPing := ⟨req.lat, req.lng, req.timestamp⟩

/-- The user with the event in the histories. -/
def visited : UserRecord where
  created_at := (found s req).created_at
  devices :=
    if deviceKnown s req then (found s req).devices
    else (found s req).devices ++ [⟨req.device_id, req.timestamp⟩]
  claims :=
    if 0 < req.claim_amount then (found s req).claims ++ [⟨req.claim_amount, req.timestamp⟩]
    else (found s req).claims
  gps_history := lastOf 499 (found s req).gps_history ++ [present req]
  earnings := (found s req).earnings

theorem recordEvent_users :
    (s.recordEvent geo req).users = Function.update s.users req.user_id (some (visited s req)) := by
  unfold Store.recordEvent
  split
  · rename_i hamount
    simp [Store.recordH3ActiveUser, Store.recordZoneClaim, Store.recordClaim,
      Store.recordZonePresence, Store.recordDevice, Store.recordGpsPing, Store.setUser,
        Store.userOr,
      visited, found, deviceKnown, present, hamount, lastOf_append_singleton]
  · rename_i hamount
    simp [Store.recordH3ActiveUser, Store.recordZonePresence, Store.recordDevice,
      Store.recordGpsPing, Store.setUser, Store.userOr, visited, found, deviceKnown, present,
        hamount,
      lastOf_append_singleton]

theorem recordEvent_user : (s.recordEvent geo req).users req.user_id = some (visited s req) := by
  rw [recordEvent_users, Function.update_self]

/-- The users of the device with the present one. -/
def sharing : List String :=
  let users := ((s.devices req.device_id).getD {}).users
  if req.user_id ∈ users then users else users ++ [req.user_id]

theorem length_sharing : (sharing s req).length = deviceUsers s req := by
  unfold sharing deviceUsers
  dsimp only
  split <;> simp

theorem deviceUsers_pos : 0 < deviceUsers s req := by
  rw [← length_sharing, List.length_pos_iff_exists_mem]
  refine ⟨req.user_id, ?_⟩
  unfold sharing
  dsimp only
  split
  · assumption
  · simp

theorem recordEvent_device : (s.recordEvent geo req).devices req.device_id =
    some ⟨sharing s req, 3 < (sharing s req).length⟩ := by
  unfold Store.recordEvent
  dsimp only
  split
  · exact Function.update_self _ _ _
  · exact Function.update_self _ _ _

end Records

/-! ## The counts -/

section Counts

variable (s : Store) (req : FraudFeatureRequest)

theorem length_recent_claims {window : ℤ} (hwindow : 0 ≤ window) :
    ((visited s req).claims.filter fun c => req.timestamp - window ≤ c.timestamp).length =
      recentClaims s req window := by
  unfold visited recentClaims
  by_cases hamount : 0 < req.claim_amount
  · simp [hamount, List.filter_append, hwindow]
  · simp [hamount]

theorem length_recent_devices :
    (((visited s req).devices.filter fun d => req.timestamp - 7 * 86400 ≤ d.timestamp).map
      DeviceEvent.device_id).dedup.length = recentDevices s req := by
  unfold visited recentDevices
  cases hknown : deviceKnown s req with
  | true => simp
  | false =>
      rw [deviceKnown, List.any_eq_false] at hknown
      have hnew : req.device_id ∉ ((found s req).devices.filter fun d =>
          req.timestamp - 7 * 86400 ≤ d.timestamp).map DeviceEvent.device_id := by
        intro hmem
        obtain ⟨d, hd, hid⟩ := List.mem_map.mp hmem
        exact hknown d (List.mem_of_mem_filter hd) (by simp [hid])
      have hwindow : req.timestamp - 7 * 86400 ≤ req.timestamp := by omega
      simp only [Bool.false_eq_true, if_false, List.filter_append, List.map_append,
        List.filter_singleton, hwindow, decide_true, cond_true, List.map_singleton]
      rw [← List.card_toFinset, ← List.card_toFinset, List.toFinset_append, Finset.union_comm,
        List.toFinset_cons, List.toFinset_nil, insert_empty_eq, ← Finset.insert_eq,
        Finset.card_insert_of_notMem (by rwa [List.mem_toFinset])]

theorem length_active_days :
    (activeDaySet ((visited s req).gps_history.map GpsPing.timestamp) req.timestamp).length =
      activeDays s req := by
  simp [visited, activeDays, present]

theorem activeDays_pos : 0 < activeDays s req := by
  unfold activeDays
  rw [List.length_pos_iff_exists_mem]
  refine ⟨req.timestamp / 86400, ?_⟩
  simp [activeDaySet, CLAIMS_WINDOW_DAYS]

end Counts

/-! ## The bounds of each feature -/

section Bounds

variable {s : Store} {req : FraudFeatureRequest} {record : UserRecord}

theorem account_age_days_le_iff (record : UserRecord) (now_ts : ℤ) :
    (computeAccountAgeDays (some record) now_ts : ℚ) ≤ 10000 ↔
      |now_ts - record.created_at| < 10001 * 86400 := by
  have hfloor : computeAccountAgeDays (some record) now_ts ≤ 10000 ↔
      daysBetween record.created_at now_ts < 10001 := by
    simp only [computeAccountAgeDays, Option.elim_some, max_le_iff, Int.floor_le_iff]
    norm_num
  rw [show (10000 : ℚ) = ((10000 : ℤ) : ℚ) by norm_num, Int.cast_le, hfloor, daysBetween,
    div_lt_iff₀ (by norm_num)]
  exact_mod_cast Iff.rfl

theorem account_age_days_nonneg (record : UserRecord) (now_ts : ℤ) :
    0 ≤ computeAccountAgeDays (some record) now_ts := le_max_left _ _

theorem device_id_uniqueness_bounds (record : DeviceRecord) :
    0 ≤ computeDeviceUniqueness (some record) ∧ computeDeviceUniqueness (some record) ≤ 1 := by
  refine ⟨roundTo_nonneg 4 (by positivity), roundTo_le_one 4 ?_⟩
  have husers : (0 : ℚ) ≤ record.users.length := Nat.cast_nonneg _
  rw [div_le_one (by positivity)]
  linarith

theorem haversineKm_nonneg (geo : Geometry) (lat1 lng1 lat2 lng2 : ℚ) :
    0 ≤ geo.haversineKm lat1 lng1 lat2 lng2 :=
  mul_nonneg (by norm_num) (geo.atan2_nonneg _ _ (geo.sqrt_nonneg _))

theorem gps_speed_bounds_iff (geo : Geometry) (history : List GpsPing) (lat lng : ℚ) (ts : ℤ) :
    0 ≤ computeGpsSpeed geo history lat lng ts ∧ computeGpsSpeed geo history lat lng ts ≤ 500 ↔
      ∀ ping ∈ previousPing history, ping.timestamp ≠ ts →
        geo.haversineKm ping.lat ping.lng lat lng / |(ts - ping.timestamp : ℚ)| * 3600 ≤
          500 + 1 / 200 := by
  unfold computeGpsSpeed
  cases hprev : previousPing history with
  | none => simp
  | some ping =>
      simp only [Option.elim_some, Option.mem_some_iff, forall_eq']
      by_cases hts : ping.timestamp = ts
      · simp [hts]
      · have hdt : ¬|(ts - ping.timestamp : ℚ)| ≤ 0 := by
          rw [abs_nonpos_iff, sub_eq_zero, Int.cast_inj]
          exact fun h => hts h.symm
        have hspeed : 0 ≤ geo.haversineKm ping.lat ping.lng lat lng /
            |(ts - ping.timestamp : ℚ)| * 3600 :=
          mul_nonneg (div_nonneg (haversineKm_nonneg geo _ _ _ _) (abs_nonneg _)) (by norm_num)
        rw [if_neg hdt, and_iff_right (roundTo_nonneg 2 hspeed), forall_prop_of_true hts]
        rw [show (500 : ℚ) = ((500 : ℤ) : ℚ) by norm_num]
        exact roundTo_two_le_iff

theorem h3_zone_consistency_bounds (geo : Geometry) (history : List GpsPing) (lat lng : ℚ)
    (ts : ℤ) :
    0 ≤ computeH3ZoneConsistency geo history lat lng ts ∧
      computeH3ZoneConsistency geo history lat lng ts ≤ 1 := by
  unfold computeH3ZoneConsistency
  dsimp only
  split
  · norm_num
  · refine ⟨roundTo_nonneg 4 (by positivity),
      roundTo_le_one 4 (div_le_one_of_le₀ ?_ (by positivity))⟩
    exact_mod_cast List.length_filter_le _ _

theorem round_rate_le_iff {claims days : ℕ} (hclaims : claims ≤ 1000) (hdays : 0 < days) :
    roundTo 4 (claims / days : ℚ) ≤ 100 ↔ claims ≤ 100 * days := by
  have hpos : (0 : ℚ) < days := by exact_mod_cast hdays
  constructor
  · intro hround
    by_contra hmany
    have hfew : days ≤ 10 := by omega
    have hrate : (1001 / 10 : ℚ) ≤ claims / days := by
      rw [le_div_iff₀ hpos]
      have hmany' : (100 * days + 1 : ℚ) ≤ claims := by
        exact_mod_cast Nat.succ_le_of_lt (not_le.mp hmany)
      have hfew' : (days : ℚ) ≤ 10 := by exact_mod_cast hfew
      linarith
    have htenth : roundTo 4 (1001 / 10 : ℚ) = 1001 / 10 :=
      roundTo_of_intCast 4 (z := 1001000) (by norm_num)
    have hle := (roundTo_mono 4 hrate).trans hround
    rw [htenth] at hle
    norm_num at hle
  · intro hle
    have hrate : (claims / days : ℚ) ≤ (100 : ℕ) := by
      rw [div_le_iff₀ hpos]
      exact_mod_cast hle
    exact_mod_cast roundTo_le_of_le 4 hrate

theorem trigger_frequency_bounds_iff {record : UserRecord} {claims : ℕ} {now_ts : ℤ}
    (hclaims : claims ≤ 1000)
    (hactive : 0 < (activeDaySet (record.gps_history.map GpsPing.timestamp) now_ts).length) :
    0 ≤ computeTriggerFrequency (some record) claims now_ts ∧
        computeTriggerFrequency (some record) claims now_ts ≤ 100 ↔
      claims ≤ 100 * (activeDaySet (record.gps_history.map GpsPing.timestamp) now_ts).length := by
  set days := activeDaySet (record.gps_history.map GpsPing.timestamp) now_ts with hset
  have hne : days ≠ [] := List.ne_nil_of_length_pos hactive
  have hmax : max (days.length : ℚ) 1 = days.length := max_eq_left (by exact_mod_cast hactive)
  by_cases hzero : claims = 0
  · simp [computeTriggerFrequency, hzero]
  · have hfreq : computeTriggerFrequency (some record) claims now_ts =
        roundTo 4 (claims / days.length : ℚ) := by
      simp only [computeTriggerFrequency, Option.elim_some, if_neg hzero, ← hset, if_neg hne, hmax]
    rw [hfreq, and_iff_right (roundTo_nonneg 4 (by positivity)), round_rate_le_iff hclaims hactive]

theorem earnings_deviation_bounds (geo : Geometry) {record : UserRecord}
    (hearnings : ∀ e ∈ record.earnings, 0 ≤ e) :
    0 ≤ computeEarningsDeviation geo (some record) ∧
      computeEarningsDeviation geo (some record) ≤ 2 := by
  unfold computeEarningsDeviation
  dsimp only [Option.elim_some]
  split_ifs
  · norm_num
  · norm_num
  · refine ⟨le_min (roundTo_nonneg 4 (div_nonneg (geo.sqrt_nonneg _) ?_)) (by norm_num),
      min_le_right _ _⟩
    exact div_nonneg (List.sum_nonneg hearnings) (by positivity)

end Bounds

/-! ## Earnings -/

/-- No event writes earnings. -/
def Earned (s : Store) : Prop :=
  ∀ u, ∀ record ∈ s.users u, ∀ e ∈ record.earnings, 0 ≤ e

theorem earned_init (mode : BehaviorStoreMode) : Earned (initBaselineBehaviorStore mode) := by
  intro u record hrecord e he
  cases mode with
  | production => cases hrecord
  | baselinePrior now =>
      simp only [initBaselineBehaviorStore, baselinePriorUsers] at hrecord
      split at hrecord <;> cases hrecord
      · simp only [List.mem_cons, List.not_mem_nil, or_false] at he
        grind
      · simp only [List.mem_cons, List.not_mem_nil, or_false] at he
        grind
      · cases he

theorem Earned.visited {s : Store} (hs : Earned s) (req : FraudFeatureRequest) :
    ∀ e ∈ (visited s req).earnings, 0 ≤ e := by
  intro e he
  change e ∈ (found s req).earnings at he
  unfold found Store.userOr at he
  cases huser : s.users req.user_id with
  | none => simp [huser, newUserRecord] at he
  | some record =>
      rw [huser] at he
      exact hs req.user_id record huser e he

theorem Earned.serve {geo : Geometry} {s : Store} (hs : Earned s) (req : FraudFeatureRequest) :
    Earned (serve geo s req) := by
  intro u record hrecord e he
  change (s.recordEvent geo req).users u = some record at hrecord
  rw [recordEvent_users] at hrecord
  by_cases hu : u = req.user_id
  · subst hu
    rw [Function.update_self, Option.some.injEq] at hrecord
    exact hs.visited req e (hrecord ▸ he)
  · rw [Function.update_of_ne hu] at hrecord
    exact hs u record hrecord e he

/-! ## What is accepted -/

/-- The response, read from the record and the counts. -/
theorem received_eq (geo : Geometry) (s : Store) (req : FraudFeatureRequest) :
    ∃ high_share h3_burst_detected h3_active_count,
      (extractFraudFeatures geo req s).1.received =
        { identity :=
            { account_age_days := computeAccountAgeDays (some (visited s req)) req.timestamp
              device_id_uniqueness := computeDeviceUniqueness
                (some ⟨sharing s req, 3 < (sharing s req).length⟩)
              device_switch_frequency := recentDevices s req
              oauth_token_valid := false }
          location :=
            { gps_speed :=
                computeGpsSpeed geo (visited s req).gps_history req.lat req.lng req.timestamp
              gps_cell_distance :=
                computeGpsCellDistance geo (visited s req).gps_history req.lat req.lng
              h3_zone_consistency := computeH3ZoneConsistency geo (visited s req).gps_history
                req.lat req.lng req.timestamp }
          behavior :=
            { claims_last_30d := recentClaims s req (30 * 86400)
              trigger_frequency := computeTriggerFrequency (some (visited s req))
                (recentClaims s req (30 * 86400)) req.timestamp
              earnings_pattern_deviation := computeEarningsDeviation geo (some (visited s req)) }
          metaData :=
            { h3_cell := geo.latlng_to_h3 req.lat req.lng
              timestamp := req.timestamp
              device_high_share := high_share
              device_user_count := some (deviceUsers s req)
              h3_burst_detected
              h3_active_count
              claims_last_24h := some (recentClaims s req 86400) } } := by
  have huser := recordEvent_user geo s req
  have hdevice := recordEvent_device geo s req
  have hclaims : computeClaimsLast30d (some (visited s req)) req.timestamp =
      recentClaims s req (30 * 86400) := length_recent_claims s req (by decide)
  have hday : (s.recordEvent geo req).claimsLast24h req.user_id req.timestamp =
      recentClaims s req 86400 := by
    rw [Store.claimsLast24h, huser]
    exact length_recent_claims s req (by decide)
  have hdevices : computeDeviceSwitchFrequency (some (visited s req)) req.timestamp =
      recentDevices s req := by
    rw [← length_recent_devices]
    rfl
  let active := (s.recordEvent geo req).activeUsers (geo.latlng_to_h3 req.lat req.lng)
  refine ⟨some (3 < (sharing s req).length), some (1 < active.length), some active.length, ?_⟩
  simp only [active, extractFraudFeatures, FraudFeatureResponse.received, huser, hdevice,
    computeIdentityFeatures, hdevices, computeLocationFeatures, Option.elim_some,
    computeBehaviorFeatures, hclaims, hday, length_sharing]

theorem within_iff {geo : Geometry} {s : Store} (hs : Earned s) (req : FraudFeatureRequest) :
    Within (extractFraudFeatures geo req s).1.received ↔ Scoreable geo s req := by
  obtain ⟨high_share, burst, active, hreceived⟩ := received_eq geo s req
  have hage := account_age_days_le_iff (visited s req) req.timestamp
  rw [show (visited s req).created_at = (found s req).created_at from rfl] at hage
  have hspeed := gps_speed_bounds_iff geo (visited s req).gps_history req.lat req.lng req.timestamp
  have hprev : previousPing (visited s req).gps_history = (found s req).gps_history.getLast? := by
    simp [previousPing, visited, getLast?_lastOf]
  rw [hprev] at hspeed
  have hrate (hclaims : recentClaims s req (30 * 86400) ≤ 1000) :=
    @trigger_frequency_bounds_iff (visited s req) _ req.timestamp hclaims
      (by rw [length_active_days]; exact activeDays_pos s req)
  rw [length_active_days] at hrate
  rw [hreceived]
  constructor
  · intro h
    have hclaims : recentClaims s req (30 * 86400) ≤ 1000 :=
      Nat.cast_le_ofNat.mp h.claims_last_30d.2
    exact {
      tenure := hage.mp h.account_age_days.2
      devices := Nat.cast_le_ofNat.mp h.device_switch_frequency.2
      speed := hspeed.mp (by simpa only using h.gps_speed)
      claims_last_30d := hclaims
      claims_last_24h := Nat.cast_le_ofNat.mp h.claims_last_24h.2
      claims_a_day := (hrate hclaims).mp h.trigger_frequency
      sharers := Nat.cast_le_ofNat.mp h.device_user_count.2 }
  · intro h
    have hdeviation := earnings_deviation_bounds geo (hs.visited req)
    have hconsistency := h3_zone_consistency_bounds geo (visited s req).gps_history req.lat req.lng
      req.timestamp
    exact {
      account_age_days := ⟨Int.cast_nonneg (account_age_days_nonneg _ _), hage.mpr h.tenure⟩
      device_id_uniqueness := device_id_uniqueness_bounds _
      device_switch_frequency := ⟨Nat.cast_nonneg _, Nat.cast_le_ofNat.mpr h.devices⟩
      gps_speed := by simpa only using hspeed.mpr h.speed
      h3_zone_consistency := by simpa only using hconsistency
      claims_last_30d := ⟨Nat.cast_nonneg _, Nat.cast_le_ofNat.mpr h.claims_last_30d⟩
      claims_last_24h := ⟨Nat.cast_nonneg _, Nat.cast_le_ofNat.mpr h.claims_last_24h⟩
      trigger_frequency := (hrate h.claims_last_30d).mpr h.claims_a_day
      earnings_pattern_deviation := ⟨hdeviation.1, hdeviation.2.trans (by norm_num)⟩
      device_user_count :=
        ⟨Nat.one_le_cast.mpr (deviceUsers_pos s req), Nat.cast_le_ofNat.mpr h.sharers⟩
      whole := Rat.den_natCast _ }

/-- After any sequence of events the scoring takes the features of the next one if and only if
the histories are scoreable. -/
theorem accepted_iff (geo : Geometry) (mode : BehaviorStoreMode)
    (history : List FraudFeatureRequest) (req : FraudFeatureRequest) (db : Db) (userId : String)
    (dto : AnalyzeFraudDto) (token : Option String) :
    (∃ request, parseHybridRequest (hybridScoreBody db userId
      (extractFraudFeatures geo req
        (final (serve geo) (initBaselineBehaviorStore mode) history)).1.received dto token) =
        .ok request) ↔
      Scoreable geo (final (serve geo) (initBaselineBehaviorStore mode) history) req := by
  have hany : Along (serve geo) (fun _ _ => True) (initBaselineBehaviorStore mode) history :=
    along_of_forall (fun _ _ => trivial) _
  have hearned : Always (serve geo) Earned (initBaselineBehaviorStore mode) history :=
    always_of_step (fun s req hs _ => hs.serve req) (earned_init mode) hany
  rw [parse_ok_iff, within_iff hearned.last]

/-! ## A busy day -/

namespace Busy

/-- The functions at the arguments that occur when nobody moves. -/
def geo : Geometry where
  radians := id
  sin := id
  cos _ := 1
  sqrt x := max x 0
  atan2 y _ := max y 0
  latlng_to_h3 _ _ := "8860145b5dfffff"
  h3_cell_center _ := (129 / 10, 776 / 10)
  sqrt_nonneg x := le_max_right x 0
  atan2_nonneg y _ _ := le_max_right y 0

/-- A claim of one rupee. -/
def claim : FraudFeatureRequest where
  user_id := "u1"
  device_id := "d1"
  lat := 129 / 10
  lng := 776 / 10
  timestamp := 1711530000
  claim_amount := 1

def store : Store :=
  final (serve geo) (initBaselineBehaviorStore .production) (.replicate 100 claim)

end Busy

open Busy in
/-- The claim after a hundred others is refused for two of its counts. -/
theorem not_accepted :
    invalidFields (hybridScoreBody {} "u1" (extractFraudFeatures geo claim store).1.received
        { gpsLatitude := 129 / 10, gpsLongitude := 776 / 10, claimAmount := some 1 } none) =
      ["claims_last_24h", "trigger_frequency"] ∧
    (parseHybridRequest (hybridScoreBody {} "u1"
      (extractFraudFeatures geo claim store).1.received
        { gpsLatitude := 129 / 10, gpsLongitude := 776 / 10, claimAmount := some 1 } none)).isOk =
      false := by
  decide +kernel

end Aegis.FraudFeatureService
