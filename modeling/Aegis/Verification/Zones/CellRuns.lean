import Aegis.Library.Run
import Aegis.Verification.Zones.Writes

/-! # Runs of the pipeline for one cell

Every execution writes the record itself and schedules a post that writes it again whenever
it arrives. The state keeps, next to the record, when the score behind it was obtained and
what was computed last. -/

namespace Aegis.Zones

open RedisState CircuitBreaker PipelineService

/-- Each post on its way carries the time of the score that it repeats. -/
structure CellState where
  breaker : Breaker := {}
  redis : Redis := {}
  pending : List (ZonePost × Option ℤ) := []
  evidence : Option ℤ := none
  computed : Option (ℚ × String) := none

inductive CellEvent where
  | execute (io : PipelineIo) (request : PipelineRequest)
  | deliver (index : ℕ) (io : InternalStateController.PostIo)

namespace CellState

variable (h3_cell : String)

def pipeline (s : CellState) : PipelineState := ⟨s.breaker, s.redis, []⟩

@[simp] theorem pipeline_redis (s : CellState) : s.pipeline.redis = s.redis := rfl

@[simp] theorem pipeline_posts (s : CellState) : s.pipeline.posts = [] := rfl

/-- When the score that the execution writes was obtained, if it is one. -/
def scoreTime (io : PipelineIo) (s : CellState) : Option ℤ :=
  (admitted io).bind fun features =>
    if (checkParametricOverrides features (isGridlock io)).isSome then none
    else
      match origin io h3_cell features s.pipeline with
      | .scored _ => some io.now
      | .stored data => if data.Lf.isSome then s.evidence else none
      | .absent => none

def execute (io : PipelineIo) (request : PipelineRequest) (s : CellState) : CellState :=
  let after := (executePipelineCore {} io request h3_cell s.pipeline).2
  let scored := s.scoreTime h3_cell io
  { breaker := after.breaker
    redis := after.redis
    pending := s.pending ++ after.posts.map fun post => (post, scored)
    evidence := if after.posts = [] then s.evidence else scored
    computed := (after.posts.getLast?.map fun post => (post.Lf, post.zone_state)).or s.computed }

end CellState

/-- The backend accepts the post and stores it. -/
def reaches (io : InternalStateController.PostIo) (post : ZonePost) : Bool :=
  decide (io.internalKey = io.secret) && decide (post.h3_cell ≠ "") && io.redisUp

namespace CellState

variable (h3_cell : String)

def deliver (index : ℕ) (io : InternalStateController.PostIo) (s : CellState) : CellState :=
  match s.pending[index]? with
  | none => s
  | some (post, scored) =>
      { s with
        redis := InternalStateController.setZoneState io post s.redis
        pending := s.pending.eraseIdx index
        evidence := if reaches io post ∧ post.h3_cell = h3_cell then scored else s.evidence }

def step (s : CellState) : CellEvent → CellState
  | .execute io request => s.execute h3_cell io request
  | .deliver index io => s.deliver h3_cell index io

/-- The record as it is stored. -/
def record (s : CellState) : Option (Entry ZoneState) := s.redis.zones h3_cell

end CellState

/-! ## What a step does -/

section Steps

variable {h3_cell : String} {s : CellState}

theorem setZoneState_zones (io : InternalStateController.PostIo) (post : ZonePost)
    (redis : Redis) :
    (InternalStateController.setZoneState io post redis).zones =
      if reaches io post then setEx redis.zones io.now ZONE_STATE_TTL post.h3_cell
        { Lf := some post.Lf, zone_state := some post.zone_state }
      else redis.zones := by
  unfold InternalStateController.setZoneState reaches
  by_cases hkey : io.internalKey = io.secret
  · by_cases hcell : post.h3_cell = ""
    · simp [hcell]
    · cases hup : io.redisUp <;> simp [hkey, hcell, RedisState.setZoneState]
  · simp [hkey]

/-- An execution that reaches its write. -/
def writes (io : PipelineIo) : Bool := (admitted io).isSome && io.redisUp

/-- An execution changes nothing but the breaker, or it writes a zone. -/
inductive Executed (h3_cell : String) (io : PipelineIo) (s s' : CellState) : Prop where
  | idle (hwrites : writes io = false) (hrecord : s'.redis = s.redis)
      (hpending : s'.pending = s.pending) (hevidence : s'.evidence = s.evidence)
      (hcomputed : s'.computed = s.computed)
  | wrote (post : ZonePost) (hwrites : writes io = true) (hcell : post.h3_cell = h3_cell)
      (hrecord : s'.redis.zones = setEx s.redis.zones io.now REDIS_ZONE_TTL h3_cell
        { Lf := some post.Lf, lf_score := some post.Lf, zone_state := some post.zone_state })
      (hpending : s'.pending = s.pending ++ [(post, s.scoreTime h3_cell io)])
      (hevidence : s'.evidence = s.scoreTime h3_cell io)
      (hcomputed : s'.computed = some (post.Lf, post.zone_state))

theorem executed (h3_cell : String) (s : CellState) (io : PipelineIo) (request : PipelineRequest) :
    Executed h3_cell io s (s.execute h3_cell io request) := by
  obtain ⟨breaker, hstate⟩ := executePipelineCore_state io h3_cell request s.pipeline
  cases hadmitted : admitted io with
  | none =>
      rw [hadmitted] at hstate
      dsimp only at hstate
      refine .idle (by simp [writes, hadmitted]) ?_ ?_ ?_ ?_
      all_goals simp [CellState.execute, hstate]
  | some features =>
      rw [hadmitted] at hstate
      dsimp only at hstate
      generalize zoneOf features (isGridlock io)
        (origin io h3_cell features s.pipeline).Lf = zone at hstate
      cases hup : io.redisUp with
      | false =>
          rw [writeZoneToRedis, if_neg (by simp [hup])] at hstate
          refine .idle (by simp [writes, hup]) ?_ ?_ ?_ ?_
          all_goals simp [CellState.execute, hstate]
      | true =>
          rw [writeZoneToRedis, if_pos hup] at hstate
          refine .wrote ⟨h3_cell, zone.1, zone.2, features.rainfall, features.aqi, io.now / 1000⟩
            (by simp [writes, hadmitted, hup]) rfl ?_ ?_ ?_ ?_
          all_goals simp [CellState.execute, hstate]

theorem deliver_of_none {index : ℕ} {io : InternalStateController.PostIo}
    (h : s.pending[index]? = none) : s.deliver h3_cell index io = s := by
  simp [CellState.deliver, h]

theorem deliver_of_some (h3_cell : String) {index : ℕ} (io : InternalStateController.PostIo)
    {post : ZonePost} {scored : Option ℤ} (h : s.pending[index]? = some (post, scored)) :
    (s.deliver h3_cell index io).record h3_cell =
        (if reaches io post ∧ post.h3_cell = h3_cell then
          some ⟨{ Lf := some post.Lf, zone_state := some post.zone_state },
            io.now + ZONE_STATE_TTL * 1000⟩
        else s.record h3_cell) ∧
      (s.deliver h3_cell index io).evidence =
        (if reaches io post ∧ post.h3_cell = h3_cell then scored else s.evidence) ∧
      (s.deliver h3_cell index io).computed = s.computed := by
  refine ⟨?_, by simp [CellState.deliver, h], by simp [CellState.deliver, h]⟩
  simp only [CellState.record, CellState.deliver, h, setZoneState_zones]
  by_cases hreaches : reaches io post = true
  · by_cases hcell : post.h3_cell = h3_cell
    · simp [hreaches, hcell, setEx]
    · simp [hreaches, hcell, setEx, Function.update_of_ne (Ne.symm hcell)]
  · simp [hreaches]

end Steps

/-! ## A quiet cell -/

namespace Quiet

def cell : String := "8860145b5dfffff"

def features : FeatureResponse where
  rainfall := 10
  temperature := 25
  aqi := 80
  active_orders := 10
  active_riders := 10
  demand_ratio := 1
  sla_breach_rate := 0
  avg_delivery_delay_min := 0
  civic_alert := false
  is_fallback := true

/-- What an execution at the given instant meets, the answer of the ML service given. -/
def meets (now : ℤ) (answer : Option RiskAnswer) : PipelineIo where
  now := now
  features := some features
  risk := fun _ => answer
  pricing := fun _ => none

def request : PipelineRequest := { Ew := 8000 }

end Quiet

end Aegis.Zones
