import Aegis.Library.Run
import Aegis.Model.CellTelemetry

/-! # What the keys of a cell count

Each message re-arms the keys of its cell, so that they hold the traffic since the last pause of
five minutes: the last five minutes are part of it. -/

namespace Aegis.KafkaConsumer

open Bursts HalfEven Run Sightings

/-- A valid message in a cell. -/
structure Ping where
  driver_id : String
  speed : ℚ
  time : ℤ
  deriving DecidableEq, Repr

section Pings

variable (latlng_to_cell : ℚ → ℚ → String) (h3_cell : String)

def pingOf (message : ℤ × Telemetry) : Option Ping :=
  (validateTelemetry message.2).bind fun fix =>
    if latlng_to_cell fix.lat fix.lon = h3_cell then some ⟨fix.driver_id, fix.speed, message.1⟩
    else none

def pings (messages : List (ℤ × Telemetry)) : List Ping :=
  messages.filterMap (pingOf latlng_to_cell h3_cell)

/-- The pings since the last pause, if there is none now. -/
def traffic (now : ℤ) (messages : List (ℤ × Telemetry)) : List Ping :=
  unbroken Ping.time KEY_TTL now (pings latlng_to_cell h3_cell messages)

/-- The pings of the last five minutes. -/
def recent (now : ℤ) (messages : List (ℤ × Telemetry)) : List Ping :=
  within Ping.time KEY_TTL now (pings latlng_to_cell h3_cell messages)

end Pings

def meanSpeed (pings : List Ping) : ℚ := (pings.map Ping.speed).sum / pings.length

/-! ## The keys after a run -/

section Keys

variable {latlng_to_cell : ℚ → ℚ → String} {h3_cell : String}

def writeSpeed (hash : Option SpeedHash) (ping : Ping) : SpeedHash := addSpeed hash ping.speed

def writeRider (set : Option (List String)) (ping : Ping) : List String :=
  addRider set ping.driver_id

/-- What a burst leaves in the hash. -/
def speedHash (pings : List Ping) : SpeedHash :=
  ⟨(pings.map Ping.speed).sum, pings.length, roundTo 4 (meanSpeed pings)⟩

def riderSet (pings : List Ping) : List String :=
  (pings.map Ping.driver_id).foldl (insertOnce id) []

theorem holds_speedHash : Holds writeSpeed speedHash where
  first ping := by simp [writeSpeed, addSpeed, speedHash, meanSpeed]
  later b ping _ := by simp [writeSpeed, addSpeed, speedHash, meanSpeed]

theorem holds_riderSet : Holds writeRider riderSet where
  first _ := rfl
  later b ping _ := by simp [writeRider, addRider, riderSet]

theorem length_riderSet (pings : List Ping) :
    (riderSet pings).length = distinct Ping.driver_id pings := by
  rw [riderSet, length_foldl_insertOnce, distinct, distinct, List.map_id]

/-- A message re-arms both keys of its cell, and no other. -/
theorem consume_keys (latlng_to_cell : ℚ → ℚ → String) (h3_cell : String) (keys : CellKeys)
    (message : ℤ × Telemetry) :
    (consume latlng_to_cell keys message).speeds h3_cell =
        (pingOf latlng_to_cell h3_cell message).elim (keys.speeds h3_cell)
          (rearm Ping.time KEY_TTL writeSpeed (keys.speeds h3_cell)) ∧
      (consume latlng_to_cell keys message).riders h3_cell =
        (pingOf latlng_to_cell h3_cell message).elim (keys.riders h3_cell)
          (rearm Ping.time KEY_TTL writeRider (keys.riders h3_cell)) := by
  rw [consume, pingOf]
  cases validateTelemetry message.2 with
  | none => exact ⟨rfl, rfl⟩
  | some fix =>
      simp only [Option.bind_some]
      by_cases hcell : latlng_to_cell fix.lat fix.lon = h3_cell
      · subst hcell
        rw [if_pos rfl]
        exact ⟨Function.update_self _ _ _, Function.update_self _ _ _⟩
      · rw [if_neg hcell]
        exact ⟨Function.update_of_ne (Ne.symm hcell) _ _, Function.update_of_ne (Ne.symm hcell) _ _⟩

variable (now : ℤ) (messages : List (ℤ × Telemetry))

theorem getActiveRiderCount_eq :
    getActiveRiderCount now h3_cell (final (consume latlng_to_cell) {} messages) =
      distinct Ping.driver_id (traffic latlng_to_cell h3_cell now messages) := by
  have hstep (keys : CellKeys) (message : ℤ × Telemetry) :=
    consume_keys latlng_to_cell h3_cell keys message
  have hkey : (final (consume latlng_to_cell) {} messages).riders h3_cell =
      (pings latlng_to_cell h3_cell messages).foldl (rearm Ping.time KEY_TTL writeRider) none :=
    final_filterMap (fun keys => keys.riders h3_cell) (fun keys message => (hstep keys message).2)
      {} messages
  rw [getActiveRiderCount, hkey]
  exact elim_live_rearm holds_riderSet (distinct Ping.driver_id)
    (fun b _ => length_riderSet b) now _

theorem getAvgSpeed_eq :
    getAvgSpeed now h3_cell (final (consume latlng_to_cell) {} messages) =
      roundTo 4 (meanSpeed (traffic latlng_to_cell h3_cell now messages)) := by
  have hstep (keys : CellKeys) (message : ℤ × Telemetry) :=
    consume_keys latlng_to_cell h3_cell keys message
  have hkey : (final (consume latlng_to_cell) {} messages).speeds h3_cell =
      (pings latlng_to_cell h3_cell messages).foldl (rearm Ping.time KEY_TTL writeSpeed) none :=
    final_filterMap (fun keys => keys.speeds h3_cell) (fun keys message => (hstep keys message).1)
      {} messages
  have hnone : (0 : ℚ) = roundTo 4 (meanSpeed []) := by simp [meanSpeed]
  rw [getAvgSpeed, hkey, hnone]
  exact elim_live_rearm holds_speedHash (fun b => roundTo 4 (meanSpeed b)) (fun b _ => rfl) now _

end Keys

/-! ## The law -/

/-- The keys count the traffic since the last pause. The last five minutes are part of it; the
riders are those of the five minutes just when none of them has gone quiet, and both values are
where the traffic is not older. -/
structure TelemetryLaw (latlng_to_cell : ℚ → ℚ → String) (h3_cell : String) (now : ℤ)
    (messages : List (ℤ × Telemetry)) : Prop where
  riders : getActiveRiderCount now h3_cell (final (consume latlng_to_cell) {} messages) =
    distinct Ping.driver_id (traffic latlng_to_cell h3_cell now messages)
  speed : getAvgSpeed now h3_cell (final (consume latlng_to_cell) {} messages) =
    roundTo 4 (meanSpeed (traffic latlng_to_cell h3_cell now messages))
  part : recent latlng_to_cell h3_cell now messages =
    within Ping.time KEY_TTL now (traffic latlng_to_cell h3_cell now messages)
  active : getActiveRiderCount now h3_cell (final (consume latlng_to_cell) {} messages) =
      distinct Ping.driver_id (recent latlng_to_cell h3_cell now messages) ↔
    ∀ ping ∈ traffic latlng_to_cell h3_cell now messages,
      ∃ ping' ∈ recent latlng_to_cell h3_cell now messages, ping'.driver_id = ping.driver_id
  short : (∀ ping ∈ traffic latlng_to_cell h3_cell now messages, now - ping.time < KEY_TTL) →
    traffic latlng_to_cell h3_cell now messages = recent latlng_to_cell h3_cell now messages

section Law

variable {latlng_to_cell : ℚ → ℚ → String} {h3_cell : String} {now : ℤ}
  {messages : List (ℤ × Telemetry)}

theorem time_of_pingOf {message : ℤ × Telemetry} {ping : Ping}
    (h : pingOf latlng_to_cell h3_cell message = some ping) : ping.time = message.1 := by
  obtain ⟨fix, -, hfix⟩ := Option.bind_eq_some_iff.mp h
  split at hfix
  · cases hfix
    rfl
  · cases hfix

theorem pings_ordered (h : messages.Pairwise fun earlier later => earlier.1 ≤ later.1) :
    (pings latlng_to_cell h3_cell messages).Pairwise fun e' e => e'.time ≤ e.time := by
  rw [pings, List.pairwise_filterMap]
  refine h.imp ?_
  intro earlier later hle ping hping ping' hping'
  rw [time_of_pingOf hping, time_of_pingOf hping']
  exact hle

theorem pings_before (h : ∀ message ∈ messages, message.1 ≤ now) :
    ∀ ping ∈ pings latlng_to_cell h3_cell messages, ping.time ≤ now := by
  intro ping hping
  obtain ⟨message, hmessage, hping⟩ := List.mem_filterMap.mp hping
  rw [time_of_pingOf hping]
  exact h message hmessage

theorem telemetry_law (latlng_to_cell : ℚ → ℚ → String) (h3_cell : String) (now : ℤ)
    (messages : List (ℤ × Telemetry))
    (h : messages.Pairwise fun earlier later => earlier.1 ≤ later.1)
    (hnow : ∀ message ∈ messages, message.1 ≤ now) :
    TelemetryLaw latlng_to_cell h3_cell now messages := by
  have hpart : recent latlng_to_cell h3_cell now messages =
      within Ping.time KEY_TTL now (traffic latlng_to_cell h3_cell now messages) :=
    (within_unbroken (pings_ordered h) (pings_before hnow)).symm
  constructor
  case riders => exact getActiveRiderCount_eq now messages
  case speed => exact getAvgSpeed_eq now messages
  case part => exact hpart
  case active =>
    rw [getActiveRiderCount_eq, eq_comm]
    apply distinct_eq_iff_of_subset
    intro ping hping
    rw [hpart] at hping
    exact ⟨ping, (mem_within.mp hping).1, rfl⟩
  case short =>
    intro hshort
    rw [hpart, within, List.filter_eq_self.mpr]
    intro ping hping
    exact decide_eq_true (hshort ping hping)

/-- A message of a place in the cell. -/
def message (time : ℤ) (driverId : String) (speed : ℚ) : ℤ × Telemetry :=
  (time, { lat := some 13, lon := some 77, speed, driverId })

/-- Two riders within five minutes. -/
theorem telemetry_law_short :
    TelemetryLaw (fun _ _ => "c") "c" 300 [message 100 "a" 20, message 200 "b" 30] :=
  telemetry_law (fun _ _ => "c") "c" 300 [message 100 "a" 20, message 200 "b" 30]
    (by decide) (by decide)

/-- One rider leaves, another goes on. -/
def goingOn : List (ℤ × Telemetry) := [message 0 "a" 20, message 200 "b" 30, message 400 "b" 30]

/-- The rider who left 400 seconds ago is counted still, as is their speed. -/
theorem quiet_rider_counted :
    distinct Ping.driver_id (recent (fun _ _ => "c") "c" 400 goingOn) <
        getActiveRiderCount 400 "c" (final (consume fun _ _ => "c") {} goingOn) ∧
      getAvgSpeed 400 "c" (final (consume fun _ _ => "c") {} goingOn) <
        roundTo 4 (meanSpeed (recent (fun _ _ => "c") "c" 400 goingOn)) := by
  decide +kernel

end Law

end Aegis.KafkaConsumer
