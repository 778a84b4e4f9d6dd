import Aegis.Library.Run
import Aegis.Model.DriverLocation
import Aegis.Verification.Insurance.Frames

/-! # Position and cell

The score takes over the cell of the record and brings its own coordinates; the demo takes its
coordinates from the scenario and the cell from wherever there is one. -/

namespace Aegis.DriverLocation

open Run RedisState FraudService InsuranceService

variable (cfg : FraudService.Config)

/-! ## The law -/

/-- A location that has all three has the cell of its coordinates. -/
def Located (location : LastLocation) : Prop :=
  ∀ lat ∈ location.lat, ∀ lng ∈ location.lng, ∀ cell ∈ location.h3_cell,
    cell = cfg.latLngToCell lat lng

def Consistent (s : System) : Prop :=
  ∀ driver, ∀ entry ∈ s.redis.drivers driver, ∀ location ∈ entry.value.last_location,
    Located cfg location

/-- The writes of the three; `demo` comes after what the flow has read. -/
inductive LocationWrite where
  | gps (io : LocationIo) (driverId : String) (lat lng : ℚ)
  | score (io : FraudIo) (userId : String) (dto : AnalyzeFraudDto)
  | demo (io : LocationIo) (driverId policyId : String) (dto : DemoTriggerDto) (read : DemoReading)

def step (s : System) : LocationWrite → System
  | .gps io driverId lat lng =>
      { s with redis :=
        TelemetryService.publishGpsTelemetry cfg.latLngToCell io driverId lat lng s.redis }
  | .score io userId dto => (computeFraudScore cfg io userId dto s).2
  | .demo io driverId policyId dto read =>
      { s with redis := demoWrites io driverId policyId dto read s.redis }

/-- The cell that stays or is put in is that of the coordinates that come in. -/
def Placed (s : System) : LocationWrite → Prop
  | .gps .. => True
  | .score io userId dto =>
      io.redisUp = true → (∃ data, (analyzeFraud cfg io userId dto s).1 = .ok data) →
        ∀ cell ∈ cellOf (getDriverState true io.now s.redis userId),
          cell = cfg.latLngToCell dto.gpsLatitude dto.gpsLongitude
  | .demo io _ _ dto read =>
      let scenario := resolveDemoScenario dto.scenario
      io.redisUp = true → demoCell dto read = cfg.latLngToCell scenario.lat scenario.lng

/-! ## One write -/

section Writes

variable {cfg}

theorem consistent_setDriverState_iff {s : System} (h : Consistent cfg s) (up : Bool) (now : ℤ)
    (driverId : String) (payload : DriverState) {redis : Redis}
    (hdrivers : redis.drivers = s.redis.drivers) :
    Consistent cfg { s with redis := setDriverState up now redis driverId payload } ↔
      (up = true → ∀ location ∈ payload.last_location, Located cfg location) := by
  cases up with
  | false =>
      refine iff_of_true (fun driver entry hentry => ?_) (by simp)
      exact h driver entry (hdrivers ▸ hentry)
  | true =>
      constructor
      · intro hnext _ location hlocation
        exact hnext driverId ⟨payload, now + DRIVER_STATE_TTL * 1000⟩
          (Function.update_self _ _ _) location hlocation
      · intro hpayload driver entry hentry location hlocation
        change setEx redis.drivers now DRIVER_STATE_TTL driverId payload driver =
          some entry at hentry
        by_cases hdriver : driver = driverId
        · subst hdriver
          rw [setEx, Function.update_self, Option.some.injEq] at hentry
          subst hentry
          exact hpayload rfl location hlocation
        · rw [setEx, Function.update_of_ne hdriver, hdrivers] at hentry
          exact h driver entry hentry location hlocation

theorem consistent_gps {s : System} (h : Consistent cfg s) (io : LocationIo) (driverId : String)
    (lat lng : ℚ) : Consistent cfg (step cfg s (.gps io driverId lat lng)) := by
  have hlocated : Located cfg ⟨some lat, some lng, some (cfg.latLngToCell lat lng)⟩ := by
    simp [Located]
  let cached : DriverState :=
    { last_location := some ⟨some lat, some lng, some (cfg.latLngToCell lat lng)⟩ }
  have hcached : Consistent cfg
      { s with redis := setDriverState io.redisUp io.now s.redis driverId cached } := by
    refine (consistent_setDriverState_iff h _ _ _ _ rfl).mpr fun _ location hlocation => ?_
    cases hlocation
    exact hlocated
  refine (consistent_setDriverState_iff hcached _ _ _ _ rfl).mpr fun _ location hlocation => ?_
  cases hlocation
  exact hlocated

theorem drivers_setPolicyState (up : Bool) (now : ℤ) (redis : Redis) (policyId : String)
    (payload : PolicyState) :
    (setPolicyState up now redis policyId payload).drivers = redis.drivers := by
  cases up <;> rfl

theorem drivers_setZoneState (up : Bool) (now : ℤ) (redis : Redis) (h3Cell : String)
    (payload : ZoneState) :
    (setZoneState up now redis h3Cell payload).drivers = redis.drivers := by
  cases up <;> rfl

theorem consistent_demo_iff {s : System} (h : Consistent cfg s) (io : LocationIo)
    (driverId policyId : String) (dto : DemoTriggerDto) (read : DemoReading) :
    Consistent cfg (step cfg s (.demo io driverId policyId dto read)) ↔
      Placed cfg s (.demo io driverId policyId dto read) := by
  refine (consistent_setDriverState_iff h _ _ _ _ ?_).trans ?_
  · rw [drivers_setPolicyState, drivers_setZoneState]
  · simp [Located, Placed]

theorem drivers_queueReview {io : FraudIo} {userId : String} {riskScore : JsNumber}
    {redis redis' : Redis} (h : queueReview io userId riskScore redis = .ok redis') :
    redis'.drivers = redis.drivers := by
  obtain ⟨reviewJobs, rfl⟩ := queueReview_frame h
  rfl

theorem drivers_analyzeFraud (io : FraudIo) (userId : String) (dto : AnalyzeFraudDto)
    (s : System) : (analyzeFraud cfg io userId dto s).2.redis.drivers = s.redis.drivers := by
  unfold analyzeFraud
  split
  · rfl
  · split
    · rfl
    · split
      · rfl
      · dsimp only
        split
        · rfl
        · unfold scored
          split
          · rfl
          · split
            · rfl
            · rename_i hqueue
              split
              · exact drivers_queueReview hqueue
              · exact drivers_queueReview hqueue

theorem consistent_score_iff {s : System} (h : Consistent cfg s) (io : FraudIo) (userId : String)
    (dto : AnalyzeFraudDto) :
    Consistent cfg (step cfg s (.score io userId dto)) ↔ Placed cfg s (.score io userId dto) := by
  have hdrivers := @drivers_analyzeFraud cfg io userId dto s
  have hanalyzed : Consistent cfg (analyzeFraud cfg io userId dto s).2 := by
    intro driver entry hentry
    exact h driver entry (hdrivers ▸ hentry)
  simp only [step, computeFraudScore, Placed]
  cases hresult : analyzeFraud cfg io userId dto s with
  | mk result s' =>
      rw [hresult] at hdrivers hanalyzed
      dsimp only at hdrivers hanalyzed
      cases result with
      | error e => simpa using hanalyzed
      | ok data =>
          have hsame : getDriverState io.redisUp io.now s'.redis userId =
              getDriverState io.redisUp io.now s.redis userId := by
            simp only [getDriverState, hdrivers]
          refine (consistent_setDriverState_iff hanalyzed _ _ _ _ rfl).trans ?_
          rw [hsame]
          cases hup : io.redisUp with
          | false => simp
          | true =>
              cases getDriverState true io.now s.redis userId with
              | none => simp [Located, cellOf]
              | some record =>
                  cases hlast : record.last_location with
                  | none => simp [Located, cellOf, hlast]
                  | some location => simp [Located, cellOf, hlast]

end Writes

/-! ## Runs -/

theorem consistent_step_iff {s : System} (h : Consistent cfg s) (write : LocationWrite) :
    Consistent cfg (step cfg s write) ↔ Placed cfg s write := by
  cases write with
  | gps io driverId lat lng => exact iff_of_true (consistent_gps h io driverId lat lng) trivial
  | score io userId dto => exact consistent_score_iff h io userId dto
  | demo io driverId policyId dto read => exact consistent_demo_iff h io driverId policyId dto read

/-- From a store without drivers, the records stay consistent if and only if every write is
placed. -/
theorem always_consistent_iff (w : Payments.World) (writes : List LocationWrite) :
    Always (step cfg) (Consistent cfg) { toWorld := w } writes ↔
      Along (step cfg) (Placed cfg) { toWorld := w } writes := by
  refine always_iff_along (fun s write h => consistent_step_iff cfg h write) ?_
  intro driver entry hentry
  cases hentry

theorem demoCheck_run (io : FraudIo) (driverId : String) (dto : DemoTriggerDto) (s : System) :
    ∃ writes, (demoCheck cfg io driverId dto s).2 = final (step cfg) s writes := by
  unfold demoCheck
  split
  · refine ⟨[.score io driverId (demoFraudDto dto)], ?_⟩
    rw [final_cons, final_nil, step]
    split
    · rename_i hscore
      rw [hscore]
    · rename_i hscore
      rw [hscore]
  · exact ⟨[], rfl⟩

/-- The demo flow is a run of a score, if it asks for one, and of its own writes. -/
theorem runDriverDemoTriggerFlow_run (io : FraudIo) (readPolicy : Bool) (driverId : String)
    (dto : DemoTriggerDto) (s : System) :
    ∃ writes, (runDriverDemoTriggerFlow cfg io readPolicy driverId dto s).2 =
      final (step cfg) s writes := by
  unfold runDriverDemoTriggerFlow
  split
  · split
    · exact ⟨[], rfl⟩
    · rename_i policy hpolicy
      obtain ⟨writes, hwrites⟩ := demoCheck_run cfg io driverId dto s
      let read : DemoReading :=
        { driverState := getDriverState io.redisUp io.now s.redis driverId
          policyState := getPolicyState io.redisUp io.now s.redis policy.id }
      dsimp only
      split
      · rename_i hcheck
        rw [hcheck] at hwrites
        exact ⟨writes, hwrites⟩
      · rename_i hcheck
        rw [hcheck] at hwrites
        refine ⟨writes ++ [.demo ⟨io.now, io.redisUp⟩ driverId policy.id dto read], ?_⟩
        rw [final_append, ← hwrites]
        rfl
  · exact ⟨[], rfl⟩

/-! ## A driver who moves on -/

namespace Moved

/-- Two cells, to the south and to the north of a parallel. -/
def grid : FraudService.Config where
  latLngToCell lat _ := if lat < 13 then "8860145b5dfffff" else "8860145b6dfffff"
  sha256 := id
  nonFiniteColumn _ := false

def fraudIo : FraudIo where
  now := 60000
  scoring := ⟨none, none⟩
  readFingerprints := true
  readPayouts := true
  createFingerprint := true
  enqueue := true
  readUser := true
  readAnalysis := true
  analysisId := "fa1"
  writeAnalysis := true
  redisUp := true

def ping : LocationWrite := .gps ⟨0, true⟩ "u1" (129 / 10) (776 / 10)

/-- An analysis with the coordinates of the other cell. -/
def score : LocationWrite :=
  .score fraudIo "u1" { gpsLatitude := 131 / 10, gpsLongitude := 776 / 10 }

/-- A demo after the ping, in the driver's cell. -/
def demo : LocationWrite :=
  .demo ⟨60000, true⟩ "u1" "p1" {}
    { driverState := some
        { last_location := some ⟨some (129 / 10), some (776 / 10), some "8860145b5dfffff"⟩ } }

end Moved

open Moved in
theorem not_always_consistent :
    ¬Always (step grid) (Consistent grid) { toWorld := { db := {} } } [ping, score] ∧
      ¬Always (step grid) (Consistent grid) { toWorld := { db := {} } } [ping, demo] := by
  refine ⟨fun h => ?_, fun h => ?_⟩
  · have hcell := h.last "u1" _ rfl _ rfl _ rfl _ rfl "8860145b5dfffff" (by decide +kernel)
    exact absurd hcell (by decide +kernel)
  · have hcell := h.last "u1" _ rfl _ rfl _ rfl _ rfl "8860145b5dfffff" (by decide)
    exact absurd hcell (by decide +kernel)

end Aegis.DriverLocation
