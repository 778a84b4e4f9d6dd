import Aegis.Verification.Fraud.Scoreable

/-! # Impossible movement

The speed from the stored ping to the present one, and the flag at 300 km/h. Two pings of one
instant have no speed; any other pair is judged by the speed rounded to hundredths. -/

namespace Aegis.FraudFeatureService

open HalfEven

section Pings

variable (geo : Geometry) (s : Store) (req : FraudFeatureRequest) (ping : GpsPing)

/-- The location features with which the event is answered. -/
def answered : LocationFeatures := (extractFraudFeatures geo req s).1.location

/-- The ping that was stored last before the event. -/
def storedPing : Option GpsPing := (found s req).gps_history.getLast?

def distance : ℚ := geo.haversineKm ping.lat ping.lng req.lat req.lng

def timeDelta : ℚ := |(req.timestamp - ping.timestamp : ℚ)|

end Pings

section Speed

variable {geo : Geometry} {s : Store} {req : FraudFeatureRequest} {ping : GpsPing}

theorem answered_location : answered geo s req =
    computeLocationFeatures geo (some (visited s req))
      ((s.recordEvent geo req).zones (geo.latlng_to_h3 req.lat req.lng)) req.lat req.lng
      req.timestamp := by
  rw [answered, extractFraudFeatures]
  simp only [recordEvent_user]

theorem previousPing_visited : previousPing (visited s req).gps_history = storedPing s req := by
  simp [previousPing, visited, storedPing, getLast?_lastOf]

theorem answered_speed (h : storedPing s req = some ping) : (answered geo s req).gps_speed =
    if timeDelta req ping ≤ 0 then 0
    else roundTo 2 (distance geo req ping / timeDelta req ping * 3600) := by
  rw [answered_location]
  have hprev : previousPing (visited s req).gps_history = some ping := by
    rw [previousPing_visited, h]
  simp only [computeLocationFeatures, Option.elim_some, computeGpsSpeed, hprev]
  rfl

theorem answered_flag :
    (answered geo s req).telemetry_spoof_detected = true ↔
      300 < (answered geo s req).gps_speed := by
  rw [answered_location]
  simp only [computeLocationFeatures, decide_eq_true_eq]

theorem distance_nonneg : 0 ≤ distance geo req ping := haversineKm_nonneg geo _ _ _ _

/-- In a longer time the same way is no faster. -/
theorem roundTo_speed_antitone {d dt dt' : ℚ} (hd : 0 ≤ d) (hdt : 0 < dt) (hle : dt ≤ dt') :
    roundTo 2 (d / dt' * 3600) ≤ roundTo 2 (d / dt * 3600) := by
  have hspeed : d / dt' ≤ d / dt := div_le_div_of_nonneg_left hd hdt hle
  apply roundTo_mono 2
  linarith

theorem roundTo_speed_gt_iff {d dt : ℚ} (hdt : 0 < dt) :
    300 < roundTo 2 (d / dt * 3600) ↔ (300 + 1 / 200) * dt / 3600 < d := by
  have hround : roundTo 2 (d / dt * 3600) ≤ 300 ↔ d / dt * 3600 ≤ 300 + 1 / 200 := by
    exact_mod_cast roundTo_two_le_iff (K := ℚ) (n := 300)
  have hscale : 300 + 1 / 200 < d / dt * 3600 ↔ (300 + 1 / 200) * dt / 3600 < d := by
    rw [div_mul_eq_mul_div, lt_div_iff₀ hdt, div_lt_iff₀ (by norm_num)]
  rw [← not_le, hround, not_le, hscale]

theorem storedPing_retimed (timestamp : ℤ) (h : storedPing s req = some ping) :
    storedPing s { req with timestamp } = some ping := by
  rw [storedPing, found, Store.userOr] at *
  cases hrecord : s.users req.user_id with
  | none =>
      rw [hrecord] at h
      cases h
  | some record => rwa [hrecord] at h

end Speed

/-! ## The law -/

/-- The flag is exact for pings of two instants, up to the rounding; there is none for pings of
one instant; and the same way in less time, however little, is no slower. -/
structure MovementLaw (geo : Geometry) (s : Store) (req : FraudFeatureRequest) (ping : GpsPing) :
    Prop where
  flagged : (answered geo s req).telemetry_spoof_detected = true ↔
    0 < timeDelta req ping ∧ (300 + 1 / 200) * timeDelta req ping / 3600 < distance geo req ping
  standing : timeDelta req ping = 0 → (answered geo s req).gps_speed = 0
  faster : ∀ timestamp, 0 < timeDelta { req with timestamp } ping →
    timeDelta { req with timestamp } ping ≤ timeDelta req ping →
    (answered geo s req).gps_speed ≤ (answered geo s { req with timestamp }).gps_speed

theorem movement_law (geo : Geometry) (s : Store) (req : FraudFeatureRequest) (ping : GpsPing)
    (h : storedPing s req = some ping) : MovementLaw geo s req ping := by
  have hspeed : (answered geo s req).gps_speed = if timeDelta req ping ≤ 0 then 0
      else roundTo 2 (distance geo req ping / timeDelta req ping * 3600) := answered_speed h
  constructor
  case flagged =>
    rw [answered_flag, hspeed]
    by_cases hdt : timeDelta req ping ≤ 0
    · rw [if_pos hdt]
      exact iff_of_false (by norm_num) fun hflag => absurd hflag.1 (not_lt.mpr hdt)
    · rw [if_neg hdt, roundTo_speed_gt_iff (not_le.mp hdt), and_iff_right (not_le.mp hdt)]
  case standing =>
    intro hdt
    rw [hspeed, if_pos hdt.le]
  case faster =>
    intro timestamp hdt hle
    have hlate : ¬timeDelta req ping ≤ 0 := not_le.mpr (hdt.trans_le hle)
    have hspeed' : (answered geo s { req with timestamp }).gps_speed =
        if timeDelta { req with timestamp } ping ≤ 0 then 0
        else roundTo 2 (distance geo req ping / timeDelta { req with timestamp } ping * 3600) :=
      answered_speed (storedPing_retimed timestamp h)
    rw [hspeed, if_neg hlate, hspeed', if_neg (not_le.mpr hdt)]
    exact roundTo_speed_antitone distance_nonneg hdt hle

/-! ## A jump -/

namespace Jump

theorem max_zero_nonneg (x : ℚ) : 0 ≤ max x 0 := le_max_right x 0

theorem angle_nonneg (d : ℚ) : 0 ≤ |d| / (6371 * 2) := div_nonneg (abs_nonneg d) (by norm_num)

/-- All places are `d` kilometres apart. -/
def geo (d : ℚ) : Geometry where
  radians := id
  sin := id
  cos _ := 1
  sqrt x := max x 0
  atan2 _ _ := |d| / (6371 * 2)
  latlng_to_h3 _ _ := "8860145b4bfffff"
  h3_cell_center _ := (0, 0)
  sqrt_nonneg := max_zero_nonneg
  atan2_nonneg _ _ _ := angle_nonneg d

/-- Every distance occurs. -/
theorem distance_geo {d : ℚ} (hd : 0 ≤ d) (req : FraudFeatureRequest) (ping : GpsPing) :
    distance (geo d) req ping = d := by
  have hdistance : distance (geo d) req ping = 6371 * 2 * (|d| / (6371 * 2)) := rfl
  rw [hdistance, abs_of_nonneg hd, mul_div_cancel₀ d (by norm_num)]

def ping : GpsPing := ⟨13, 77, 0⟩

/-- One ping is stored, of the instant zero. -/
def store : Store where
  users := Function.update (fun _ => none) "u" (some { created_at := 0, gps_history := [ping] })

def event (timestamp : ℤ) : FraudFeatureRequest := ⟨"u", "d", 14, 77, timestamp, 0⟩

theorem storedPing_event (timestamp : ℤ) : storedPing store (event timestamp) = some ping := rfl

end Jump

/-- Eighty kilometres in two seconds. -/
theorem movement_law_jump :
    (answered (Jump.geo 80) Jump.store (Jump.event 2)).telemetry_spoof_detected = true :=
  (movement_law (Jump.geo 80) Jump.store (Jump.event 2) Jump.ping
    (Jump.storedPing_event 2)).flagged.mpr (by decide +kernel)

/-- A replay at the same instant is not flagged and slower than one after two seconds; and
300.004 kilometres in an hour are 300 of them. -/
theorem movement_unflagged :
    (answered (Jump.geo 80) Jump.store (Jump.event 0)).telemetry_spoof_detected = false ∧
      300 * timeDelta (Jump.event 0) Jump.ping / 3600 <
        distance (Jump.geo 80) (Jump.event 0) Jump.ping ∧
      (answered (Jump.geo 80) Jump.store (Jump.event 0)).gps_speed <
        (answered (Jump.geo 80) Jump.store (Jump.event 2)).gps_speed ∧
      (answered (Jump.geo (300004 / 1000)) Jump.store
        (Jump.event 3600)).telemetry_spoof_detected = false ∧
      300 * timeDelta (Jump.event 3600) Jump.ping / 3600 <
        distance (Jump.geo (300004 / 1000)) (Jump.event 3600) Jump.ping := by
  decide +kernel

end Aegis.FraudFeatureService
