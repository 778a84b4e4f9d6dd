import Aegis.Library.Sightings
import Aegis.Verification.Fraud.Scoreable

/-! # Riders present in a cell

Two lists of the users of the last hour are kept for each cell. The active users are refreshed
by every event; the zone record keeps the first sighting of a user for as long as it lasts. -/

namespace Aegis.FraudFeatureService

open Run Sightings

/-- The events in a cell. -/
def visits (geo : Geometry) (h3_cell : String) (history : List FraudFeatureRequest) :
    List Presence :=
  (history.filter fun req => geo.latlng_to_h3 req.lat req.lng = h3_cell).map
    fun req => ⟨req.user_id, req.timestamp⟩

/-- The users with an event in the cell in the last `w` seconds, the present one among them. -/
def riders (geo : Geometry) (history : List FraudFeatureRequest) (req : FraudFeatureRequest)
    (w : ℤ) : ℕ :=
  distinct Presence.user_id (within Presence.timestamp w req.timestamp
    (visits geo (geo.latlng_to_h3 req.lat req.lng) (history ++ [req])))

section Steps

variable {geo : Geometry} {s : Store} {req : FraudFeatureRequest} {h3_cell : String}

theorem serve_activeUsers : (serve geo s req).activeUsers =
    Function.update s.activeUsers (geo.latlng_to_h3 req.lat req.lng)
      (refresh Presence.user_id Presence.timestamp 3600
        (s.activeUsers (geo.latlng_to_h3 req.lat req.lng)) ⟨req.user_id, req.timestamp⟩) := by
  rw [serve, extractFraudFeatures, Store.recordEvent]
  dsimp only
  split <;> rfl

/-- The zone record of the cell but for its claims. -/
def tracked (s : Store) (h3_cell : String) : ℕ × Bool × List Presence :=
  let record := (s.zones h3_cell).getD {}
  (record.active_riders, record.burst_detected, record.recent_users)

theorem tracked_recordZonePresence (user_id : String) (ts : ℤ) (other : String) :
    tracked (s.recordZonePresence h3_cell user_id ts) other =
      if other = h3_cell then
        let recent := keepFirst Presence.user_id Presence.timestamp 3600 (tracked s h3_cell).2.2
          ⟨user_id, ts⟩
        (recent.length, decide (5 ≤ (within Presence.timestamp 60 ts recent).length), recent)
      else tracked s other := by
  by_cases hcell : other = h3_cell
  · subst hcell
    rw [if_pos rfl, tracked, Store.recordZonePresence]
    simp only [Function.update_self, Option.getD_some]
    rfl
  · rw [if_neg hcell, tracked, tracked, Store.recordZonePresence]
    simp only [Function.update_of_ne hcell]

theorem tracked_recordZoneClaim (other : String) :
    tracked (s.recordZoneClaim h3_cell) other = tracked s other := by
  by_cases hcell : other = h3_cell
  · subst hcell
    rw [tracked, tracked, Store.recordZoneClaim]
    simp only [Function.update_self, Option.getD_some]
  · rw [tracked, tracked, Store.recordZoneClaim]
    simp only [Function.update_of_ne hcell]

theorem tracked_serve (other : String) : tracked (serve geo s req) other =
    tracked (s.recordZonePresence (geo.latlng_to_h3 req.lat req.lng) req.user_id req.timestamp)
      other := by
  rw [serve, extractFraudFeatures, Store.recordEvent]
  dsimp only
  split
  · exact tracked_recordZoneClaim other
  · rfl

end Steps

/-! ## Runs -/

section Runs

variable {geo : Geometry} {h3_cell : String} {history : List FraudFeatureRequest}
  {req : FraudFeatureRequest}

theorem visits_append_singleton : visits geo h3_cell (history ++ [req]) =
    visits geo h3_cell history ++
      if geo.latlng_to_h3 req.lat req.lng = h3_cell then
        [⟨req.user_id, req.timestamp⟩] else [] := by
  rw [visits, visits, List.filter_append, List.map_append, List.filter_singleton]
  by_cases hcell : geo.latlng_to_h3 req.lat req.lng = h3_cell
  · simp [hcell]
  · simp [hcell]

theorem activeUsers_final (s : Store) (history : List FraudFeatureRequest) :
    (final (serve geo) s history).activeUsers h3_cell =
      (visits geo h3_cell history).foldl (refresh Presence.user_id Presence.timestamp 3600)
        (s.activeUsers h3_cell) := by
  have hserve (s : Store) (req : FraudFeatureRequest) : (serve geo s req).activeUsers h3_cell =
      if geo.latlng_to_h3 req.lat req.lng = h3_cell then
        refresh Presence.user_id Presence.timestamp 3600 (s.activeUsers h3_cell)
          ⟨req.user_id, req.timestamp⟩
      else s.activeUsers h3_cell := by
    rw [serve_activeUsers]
    by_cases hcell : geo.latlng_to_h3 req.lat req.lng = h3_cell
    · rw [if_pos hcell, hcell, Function.update_self]
    · rw [if_neg hcell, Function.update_of_ne (Ne.symm hcell)]
  exact final_map_filter (fun s => s.activeUsers h3_cell) hserve s history

theorem tracked_final (s : Store) (history : List FraudFeatureRequest) :
    (tracked (final (serve geo) s history) h3_cell).2.2 =
      (visits geo h3_cell history).foldl (keepFirst Presence.user_id Presence.timestamp 3600)
        (tracked s h3_cell).2.2 := by
  have hserve (s : Store) (req : FraudFeatureRequest) : (tracked (serve geo s req) h3_cell).2.2 =
      if geo.latlng_to_h3 req.lat req.lng = h3_cell then
        keepFirst Presence.user_id Presence.timestamp 3600 (tracked s h3_cell).2.2
          ⟨req.user_id, req.timestamp⟩
      else (tracked s h3_cell).2.2 := by
    rw [tracked_serve, tracked_recordZonePresence]
    by_cases hcell : geo.latlng_to_h3 req.lat req.lng = h3_cell
    · rw [if_pos hcell, if_pos hcell.symm, hcell]
    · rw [if_neg hcell, if_neg (Ne.symm hcell)]
  exact final_map_filter (fun s => (tracked s h3_cell).2.2) hserve s history

/-- The events of a cell, the present one last. -/
theorem visits_present : visits geo (geo.latlng_to_h3 req.lat req.lng) (history ++ [req]) =
    visits geo (geo.latlng_to_h3 req.lat req.lng) history ++ [⟨req.user_id, req.timestamp⟩] := by
  rw [visits_append_singleton, if_pos rfl]

/-- What the zone record counts after an event is what it keeps. -/
theorem tracked_present (s : Store) :
    let record :=
  tracked (final (serve geo) s (history ++ [req])) (geo.latlng_to_h3 req.lat req.lng)
    record.1 = record.2.2.length ∧
      record.2.1 = decide (5 ≤ (within Presence.timestamp 60 req.timestamp record.2.2).length) := by
  rw [final_append, final_cons, final_nil, tracked_serve, tracked_recordZonePresence, if_pos rfl]
  exact ⟨rfl, rfl⟩

theorem init_activeUsers (mode : BehaviorStoreMode) :
    (initBaselineBehaviorStore mode).activeUsers h3_cell = [] := by
  cases mode <;> rfl

theorem init_tracked (mode : BehaviorStoreMode) :
    (tracked (initBaselineBehaviorStore mode) h3_cell).2.2 = [] := by
  cases mode <;> rfl

end Runs

/-! ## The law -/

def Ordered (events : List FraudFeatureRequest) : Prop :=
  events.Pairwise fun earlier later => earlier.timestamp ≤ later.timestamp

/-- The user is not back in the cell within the hour, but for events of one instant. -/
def NoReturn (geo : Geometry) (earlier later : FraudFeatureRequest) : Prop :=
  geo.latlng_to_h3 earlier.lat earlier.lng = geo.latlng_to_h3 later.lat later.lng →
    earlier.user_id = later.user_id → later.timestamp - earlier.timestamp < 3600 →
      earlier.timestamp = later.timestamp

instance (events : List FraudFeatureRequest) : Decidable (Ordered events) :=
  inferInstanceAs (Decidable (events.Pairwise _))

instance (geo : Geometry) : DecidableRel (NoReturn geo) :=
  fun _ _ => inferInstanceAs (Decidable (_ → _))

/-- What the trackers show after the last event `req`. -/
structure PresenceLaw (geo : Geometry) (mode : BehaviorStoreMode)
    (history : List FraudFeatureRequest) (req : FraudFeatureRequest) : Prop where
  active_count :
    (extractFraudFeatures geo req
      (final (serve geo) (initBaselineBehaviorStore mode) history)).1.metaData.h3_active_count =
      some (riders geo history req 3600 : ℚ)
  active_riders :
    (tracked (final (serve geo) (initBaselineBehaviorStore mode) (history ++ [req]))
      (geo.latlng_to_h3 req.lat req.lng)).1 = riders geo history req 3600
  burst_detected :
    (tracked (final (serve geo) (initBaselineBehaviorStore mode) (history ++ [req]))
      (geo.latlng_to_h3 req.lat req.lng)).2.1 = true ↔ 5 ≤ riders geo history req 60

section Law

variable {geo : Geometry} {mode : BehaviorStoreMode} {history : List FraudFeatureRequest}
  {req : FraudFeatureRequest}

theorem visits_ordered (h : Ordered (history ++ [req])) :
    (visits geo (geo.latlng_to_h3 req.lat req.lng) history ++
      [(⟨req.user_id, req.timestamp⟩ : Presence)]).Pairwise
        fun e' e => e'.timestamp ≤ e.timestamp := by
  rw [← visits_present, visits, List.pairwise_map]
  exact h.filter _

theorem visits_fresh (h : (history ++ [req]).Pairwise (NoReturn geo)) :
    (visits geo (geo.latlng_to_h3 req.lat req.lng) history ++
      [(⟨req.user_id, req.timestamp⟩ : Presence)]).Pairwise
        (Fresh Presence.user_id Presence.timestamp 3600) := by
  rw [← visits_present, visits, List.pairwise_map]
  refine List.Pairwise.imp_of_mem ?_ (h.filter _)
  intro earlier later hearlier hlater hreturn huser htime
  have hcell : geo.latlng_to_h3 earlier.lat earlier.lng = geo.latlng_to_h3 later.lat later.lng := by
    rw [of_decide_eq_true (List.mem_filter.mp hearlier).2,
      of_decide_eq_true (List.mem_filter.mp hlater).2]
  exact hreturn hcell huser htime

theorem active_count_eq (h : Ordered (history ++ [req])) :
    (extractFraudFeatures geo req
      (final (serve geo) (initBaselineBehaviorStore mode) history)).1.metaData.h3_active_count =
      some (riders geo history req 3600 : ℚ) := by
  have hstore : (final (serve geo) (initBaselineBehaviorStore mode)
      (history ++ [req])).activeUsers (geo.latlng_to_h3 req.lat req.lng) = _ :=
    activeUsers_final (initBaselineBehaviorStore mode) (history ++ [req])
  rw [init_activeUsers, visits_present] at hstore
  have htracks : Tracks Presence.user_id Presence.timestamp 3600 req.timestamp _ _ :=
    tracks_refresh (by decide) (visits geo (geo.latlng_to_h3 req.lat req.lng) history) _
      (visits_ordered h)
  rw [← hstore, ← visits_present] at htracks
  rw [riders, ← htracks.length_eq, final_append]
  rfl

/-- Between returns the zone record is exact as well. -/
theorem presence_law (h : Ordered (history ++ [req]))
    (hfresh : (history ++ [req]).Pairwise (NoReturn geo)) : PresenceLaw geo mode history req := by
  have hstore : (tracked (final (serve geo) (initBaselineBehaviorStore mode) (history ++ [req]))
      (geo.latlng_to_h3 req.lat req.lng)).2.2 = _ :=
    tracked_final (initBaselineBehaviorStore mode) (history ++ [req])
  rw [init_tracked, visits_present] at hstore
  have htracks : Tracks Presence.user_id Presence.timestamp 3600 req.timestamp _ _ :=
    tracks_keepFirst (by decide) (visits geo (geo.latlng_to_h3 req.lat req.lng) history) _
      (visits_ordered h) (visits_fresh hfresh)
  rw [← hstore, ← visits_present] at htracks
  obtain ⟨hcount, hburst⟩ := tracked_present (initBaselineBehaviorStore mode)
  constructor
  case active_count => exact active_count_eq h
  case active_riders => rw [hcount, htracks.length_eq, riders]
  case burst_detected =>
    rw [hburst, htracks.length_within (by decide), riders]
    exact decide_eq_true_iff

/-- In every run the active users are counted right after each event; and in one without returns
both trackers are right after each. -/
theorem presence_run (geo : Geometry) (mode : BehaviorStoreMode)
    (events : List FraudFeatureRequest) (h : Ordered events) :
    (∀ history req rest, events = history ++ req :: rest →
      (extractFraudFeatures geo req
        (final (serve geo) (initBaselineBehaviorStore mode) history)).1.metaData.h3_active_count =
        some (riders geo history req 3600 : ℚ)) ∧
      (events.Pairwise (NoReturn geo) → ∀ history req rest, events = history ++ req :: rest →
        PresenceLaw geo mode history req) := by
  have hsplit : ∀ {R : FraudFeatureRequest → FraudFeatureRequest → Prop} {history req rest},
      (history ++ req :: rest).Pairwise R → (history ++ [req]).Pairwise R := by
    intro R history req rest hall
    rw [← List.singleton_append, ← List.append_assoc] at hall
    exact (List.pairwise_append.mp hall).1
  constructor
  · rintro history req rest rfl
    exact active_count_eq (hsplit h)
  · rintro hfresh history req rest rfl
    exact presence_law (hsplit h) (hsplit hfresh)

/-! ## A rider who stays -/

/-- A ping of a user. -/
def pingAt (user_id : String) (timestamp : ℤ) : FraudFeatureRequest :=
  ⟨user_id, "d", 13, 77, timestamp, 0⟩

theorem presence_run_pings :
    PresenceLaw Busy.geo .production [pingAt "u" 0, pingAt "v" 100] (pingAt "u" 3600) := by
  refine (presence_run Busy.geo .production [pingAt "u" 0, pingAt "v" 100, pingAt "u" 3600]
    ?_).2 ?_ [pingAt "u" 0, pingAt "v" 100] (pingAt "u" 3600) [] rfl
  · decide
  · decide

/-- The rider pings after 50 minutes and is dropped ten minutes later. -/
theorem presence_not_refreshed :
    Ordered [pingAt "u" 0, pingAt "u" 3000, pingAt "v" 3600] ∧
      (tracked (final (serve Busy.geo) (initBaselineBehaviorStore .production)
        [pingAt "u" 0, pingAt "u" 3000, pingAt "v" 3600]) (Busy.geo.latlng_to_h3 13 77)).1 <
        riders Busy.geo [pingAt "u" 0, pingAt "u" 3000] (pingAt "v" 3600) 3600 := by
  decide

end Law

end Aegis.FraudFeatureService
