import Aegis.Model.Pipeline

/-! # What an execution of the pipeline writes

An execution that is not cut short ends in one write of the zone record. Its loss fraction
is scored, read back from Redis, or zero; the premium has no part in it. -/

namespace Aegis.Zones

open RedisState CircuitBreaker PipelineService

/-- Where an execution has its loss fraction from. -/
inductive Origin where
  | scored (answer : RiskAnswer)
  | stored (data : ZoneState)
  | absent
  deriving DecidableEq, Repr

def Origin.Lf : Origin → ℚ
  | scored answer => answer.Lf
  | stored data => data.Lf.getD 0
  | absent => 0

section Execution

variable (io : PipelineIo) (h3_cell : String)

/-- The answer of the ML service, if it is asked and gives one. -/
def mlAnswer (features : FeatureResponse) (breaker : Breaker) : Option RiskAnswer :=
  if (allowRequest io.monotonic breaker).1 then io.risk (riskPayload io features) else none

def origin (features : FeatureResponse) (s : PipelineState) : Origin :=
  match mlAnswer io features s.breaker, fallbackFromRedis io h3_cell s.redis with
  | some answer, _ => .scored answer
  | none, some data => .stored data
  | none, none => .absent

/-- The features of an execution that is neither answered from the cache nor refused. -/
def admitted : Option FeatureResponse :=
  if io.cached.isSome then none
  else io.features.filter fun features => decide (admitFeatures {} features = .ok ())

/-- The loss fraction and the zone state of the record. -/
def zoneOf (features : FeatureResponse) (is_gridlock : Bool) (Lf : ℚ) : ℚ × String :=
  ((deriveZone features is_gridlock Lf 0).1, (deriveZone features is_gridlock Lf 0).2.2)

variable (request : PipelineRequest) (features : FeatureResponse) (s : PipelineState)

theorem deriveZone_eq_zoneOf (is_gridlock : Bool) (Lf premium : ℚ) :
    ∃ premium', deriveZone features is_gridlock Lf premium =
      ((zoneOf features is_gridlock Lf).1, premium', (zoneOf features is_gridlock Lf).2) := by
  unfold zoneOf deriveZone
  split
  · exact ⟨_, rfl⟩
  · exact ⟨_, rfl⟩

theorem assessRisk_origin :
    ∃ a breaker, assessRisk {} io h3_cell (riskPayload io features) s = (.ok a, breaker) ∧
      a.Lf = (origin io h3_cell features s).Lf := by
  unfold assessRisk origin mlAnswer
  cases hrequest : allowRequest io.monotonic s.breaker with
  | mk allowed breaker =>
      cases allowed with
      | true =>
          cases hrisk : io.risk (riskPayload io features) with
          | some answer => exact ⟨_, _, rfl, rfl⟩
          | none =>
              cases hstored : fallbackFromRedis io h3_cell s.redis with
              | some data => exact ⟨_, _, rfl, rfl⟩
              | none => exact ⟨_, _, rfl, rfl⟩
      | false =>
          cases hstored : fallbackFromRedis io h3_cell s.redis with
          | some data => exact ⟨_, _, rfl, rfl⟩
          | none => exact ⟨_, _, rfl, rfl⟩

theorem pricePremium_ok (payload : PricingPayload) (a : Assessment) (breaker : Breaker) :
    ∃ priced breaker', pricePremium {} io request payload a breaker = (.ok priced, breaker') := by
  unfold pricePremium
  split
  · exact ⟨_, _, rfl⟩
  · cases hrequest : allowRequest io.monotonic breaker with
    | mk allowed breaker =>
        cases allowed with
        | true =>
            cases hpricing : io.pricing payload with
            | some premium => exact ⟨_, _, rfl⟩
            | none => exact ⟨_, _, rfl⟩
        | false => exact ⟨_, _, rfl⟩

theorem scoreAndWrite_state :
    ∃ breaker, (scoreAndWrite {} io request h3_cell features s).2 =
      writeZoneToRedis io h3_cell
        (zoneOf features (isGridlock io) (origin io h3_cell features s).Lf).1
        (zoneOf features (isGridlock io) (origin io h3_cell features s).Lf).2
        features.rainfall features.aqi { s with breaker } := by
  obtain ⟨a, breaker, hassess, hLf⟩ := assessRisk_origin io h3_cell features s
  obtain ⟨⟨premium, reasons⟩, breaker', hprice⟩ :=
    pricePremium_ok io request (pricingPayload request features a.Lf) a breaker
  obtain ⟨premium', hderive⟩ := deriveZone_eq_zoneOf features (isGridlock io) a.Lf premium
  rw [← hLf]
  refine ⟨breaker', ?_⟩
  simp only [scoreAndWrite, hassess, hprice, hderive]

/-- The one step lemma: nothing is written, or the record and the post that repeats it. -/
theorem executePipelineCore_state :
    ∃ breaker, (executePipelineCore {} io request h3_cell s).2 =
      match admitted io with
      | none => s
      | some features => writeZoneToRedis io h3_cell
          (zoneOf features (isGridlock io) (origin io h3_cell features s).Lf).1
          (zoneOf features (isGridlock io) (origin io h3_cell features s).Lf).2
          features.rainfall features.aqi { s with breaker } := by
  unfold executePipelineCore admitted
  cases hcached : io.cached with
  | some response => exact ⟨s.breaker, rfl⟩
  | none =>
      cases hfeatures : io.features with
      | none => exact ⟨s.breaker, rfl⟩
      | some features =>
          cases hallowed : admitFeatures {} features with
          | error e => exact ⟨s.breaker, by simp [hallowed, Option.filter]⟩
          | ok admittedFeatures =>
              obtain ⟨breaker, hstate⟩ := scoreAndWrite_state io h3_cell request features s
              exact ⟨breaker, by simp [hallowed, Option.filter, hstate]⟩

end Execution

end Aegis.Zones
