import Aegis.Library.Run
import Aegis.Model.Coalescing
import Aegis.Verification.Zones.Features
import Aegis.Verification.Zones.Labels
import Aegis.Verification.Zones.Writes

/-! # What a fallback says

Outside the strict mode every answer of the pipeline declares a fallback, with or without the ML
service. The label of the record gets lost on all paths but one. -/

namespace Aegis.Zones

open RedisState CircuitBreaker PipelineService FeatureService

/-! ## Declarations -/

/-- The answer of an execution, if it has one. -/
def answered : Outcome Refusal → Option PipelineResponse
  | .result response | .timeout (.ok response) => some response
  | _ => none

def Declares (response : PipelineResponse) : Prop :=
  response.is_fallback = true ∧ response.fallback_reasons ≠ []

/-- Whatever is in the caches is marked as a fallback. -/
structure Marked (c : Caches) : Prop where
  features : ∀ h3_cell entry, c.features h3_cell = some entry → entry.features.is_fallback = true
  answers : ∀ key response, c.answers key = some response → Declares response

section Declarations

variable {io : PipelineIo} (request : PipelineRequest) (h3_cell : String) {s : PipelineState}

theorem executePipelineCore_admitted {features : FeatureResponse} (h : features ∈ admitted io) :
    executePipelineCore {} io request h3_cell s =
      scoreAndWrite {} io request h3_cell features s := by
  unfold admitted at h
  split at h
  · cases h
  · rename_i hcached
    rw [Option.mem_def, Option.filter_eq_some_iff, decide_eq_true_eq] at h
    obtain ⟨hfeatures, hgate⟩ := h
    have hnone : io.cached = none := Option.not_isSome_iff_eq_none.mp hcached
    simp only [executePipelineCore, hnone, hfeatures, hgate]

/-- The flags of an answer. -/
theorem scoreAndWrite_flags {features : FeatureResponse} {a : Assessment}
    {breaker breaker' : Breaker} {premium : ℚ} {reasons : List String}
    (hassess : assessRisk {} io h3_cell (riskPayload io features) s = (.ok a, breaker))
    (hprice : pricePremium {} io request (pricingPayload request features a.Lf) a breaker =
      (.ok (premium, reasons), breaker')) :
    ∃ response, (scoreAndWrite {} io request h3_cell features s).1 = .ok response ∧
      response.is_fallback = (a.used_fallback || features.is_fallback) ∧
      (response.fallback_reasons = [] ↔
        a.fallback_reasons = [] ∧ reasons = [] ∧ features.is_fallback = false) := by
  simp only [scoreAndWrite, hassess, hprice]
  refine ⟨_, rfl, rfl, ?_⟩
  rw [← List.length_eq_zero_iff, List.length_mergeSort, List.length_eq_zero_iff,
    List.dedup_eq_nil]
  cases features.is_fallback <;> simp

/-- Marked features are enough for an answer to be declared. -/
theorem declares_scoreAndWrite {features : FeatureResponse} {response : PipelineResponse}
    (hfeatures : features.is_fallback = true)
    (h : (scoreAndWrite {} io request h3_cell features s).1 = .ok response) :
    Declares response := by
  obtain ⟨a, breaker, hassess, -⟩ := assessRisk_origin io h3_cell features s
  obtain ⟨⟨premium, reasons⟩, breaker', hprice⟩ :=
    pricePremium_ok io request (pricingPayload request features a.Lf) a breaker
  obtain ⟨response', hresponse, hflag, hreasons⟩ :=
    scoreAndWrite_flags request h3_cell hassess hprice
  obtain rfl := Except.ok.inj (hresponse.symm.trans h)
  exact ⟨by rw [hflag, hfeatures, Bool.or_true],
    fun hempty => by simp [hreasons.mp hempty] at hfeatures⟩

/-- An answer from the cache, or one for marked features. -/
theorem declares_executePipelineCore {response : PipelineResponse}
    (hcached : ∀ cached ∈ io.cached, Declares cached)
    (hfeatures : ∀ features ∈ io.features, features.is_fallback = true)
    (h : (executePipelineCore {} io request h3_cell s).1 = .ok response) : Declares response := by
  unfold executePipelineCore at h
  cases hanswer : io.cached with
  | some cached =>
      rw [hanswer] at h
      obtain rfl := Except.ok.inj h
      exact hcached cached hanswer
  | none =>
      cases hvector : io.features with
      | none =>
          rw [hanswer, hvector] at h
          cases h
      | some features =>
          simp only [hanswer, hvector] at h
          cases hgate : admitFeatures {} features with
          | error e =>
              rw [hgate] at h
              cases h
          | ok _ =>
              rw [hgate] at h
              exact declares_scoreAndWrite request h3_cell (hfeatures features hvector) h

end Declarations

section Runs

variable {h3_to_latlng : String → ℚ × ℚ} {validate_h3_cell : String → Bool} {c : Caches}

theorem is_fallback_computeFeatures {h3_cell : String} {now : ℚ} {fetched : Fetched}
    {v : FeatureVector} (h : computeFeatures false h3_to_latlng h3_cell now fetched = .ok v) :
    v.is_fallback = true := by
  obtain rfl := Except.ok.inj h
  exact is_fallback_assemble ..

theorem Marked.setCached (h : Marked c) (clock : Clock) (h3_cell : String) {v : FeatureVector}
    (hv : v.is_fallback = true) :
    Marked { c with features := FeatureService.setCached clock h3_cell v c.features } := by
  refine ⟨fun cell entry hentry => ?_, h.answers⟩
  by_cases hcell : cell = h3_cell
  · subst hcell
    simp only [FeatureService.setCached, Function.update_self, Option.some.injEq] at hentry
    rw [← hentry]
    exact hv
  · simp only [FeatureService.setCached, Function.update_of_ne hcell] at hentry
    exact h.features cell entry hentry

/-- The vector is marked, whether it comes from memory or from the sources. -/
theorem Marked.getFeatures (h : Marked c) (r : PipelineRun) :
    (∀ v, (r.getFeatures false h3_to_latlng validate_h3_cell c).1 = .ok v → v.is_fallback = true) ∧
      Marked { c with features := (r.getFeatures false h3_to_latlng validate_h3_cell c).2 } := by
  simp only [PipelineRun.getFeatures, FeatureService.getFeatures]
  cases hlookup : lookupFeatures validate_h3_cell r.asked r.h3_cell c.features with
  | some answer =>
      refine ⟨?_, h⟩
      rintro v rfl
      rw [lookupFeatures] at hlookup
      split at hlookup
      · cases hlookup
      · obtain ⟨entry, hentry, hv⟩ := Option.map_eq_some_iff.mp hlookup
        cases hv
        exact h.features r.h3_cell entry (Option.filter_eq_some_iff.mp hentry).1
  | none =>
      cases hfresh : computeFeatures false h3_to_latlng r.h3_cell r.made.now r.fetched with
      | error e =>
          refine ⟨?_, h⟩
          rintro v ⟨⟩
      | ok v =>
          have hv := is_fallback_computeFeatures hfresh
          refine ⟨?_, h.setCached r.made r.h3_cell hv⟩
          rintro _ ⟨⟩
          exact hv

/-- What an execution answers and what it leaves under its key is declared. -/
theorem declares_awaitExecution {e : Surroundings} {request : PipelineRequest}
    {cache : PipelineCache} (hcache : ∀ key response, cache key = some response → Declares response)
    (hexecuted : ∀ response, (executePipelineCore e.cfg
      { e.io with cached := cache (shareKey request e.h3_cell) } request e.h3_cell e.state).1 =
        .ok response → Declares response) :
    (∀ response ∈ answered (awaitExecution e request cache).1, Declares response) ∧
      ∀ key response, (awaitExecution e request cache).2 key = some response →
        Declares response := by
  rw [awaitExecution]
  split
  · refine ⟨?_, hcache⟩
    rintro _ ⟨⟩
    exact ⟨rfl, List.cons_ne_nil _ _⟩
  · cases houtcome : (executePipelineCore e.cfg
        { e.io with cached := cache (shareKey request e.h3_cell) } request e.h3_cell e.state).1 with
    | error refusal =>
        have hrefused : executeCached e request cache = (.error refusal, cache) := by
          simp only [executeCached, houtcome]
          cases cache (shareKey request e.h3_cell) <;> rfl
        rw [hrefused]
        refine ⟨?_, hcache⟩
        rintro response ⟨⟩
    | ok response =>
        have hdeclares := hexecuted response houtcome
        cases hkey : cache (shareKey request e.h3_cell) with
        | some cached =>
            rw [hkey] at houtcome
            simp only [executeCached, hkey, houtcome]
            refine ⟨?_, hcache⟩
            rintro _ ⟨⟩
            exact hdeclares
        | none =>
            rw [hkey] at houtcome
            simp only [executeCached, hkey, houtcome]
            refine ⟨?_, fun key response' hentry => ?_⟩
            · rintro _ ⟨⟩
              exact hdeclares
            · by_cases hshare : key = shareKey request e.h3_cell
              · rw [hshare, Function.update_self] at hentry
                exact Option.some.inj hentry ▸ hdeclares
              · rw [Function.update_of_ne hshare] at hentry
                exact hcache key response' hentry

theorem Marked.awaited (h : Marked c) (r : PipelineRun) :
    (∀ response ∈ answered (r.awaited false h3_to_latlng validate_h3_cell c).1, Declares response) ∧
      ∀ key response, (r.awaited false h3_to_latlng validate_h3_cell c).2 key = some response →
        Declares response := by
  refine declares_awaitExecution h.answers fun response =>
    declares_executePipelineCore r.request r.h3_cell (fun cached => h.answers _ cached) ?_
  intro features hmem
  obtain ⟨v, hv, rfl⟩ := Option.map_eq_some_iff.mp hmem
  cases hanswer : (r.getFeatures false h3_to_latlng validate_h3_cell c).1 with
  | error e =>
      rw [hanswer] at hv
      cases hv
  | ok v' =>
      rw [hanswer] at hv
      obtain rfl := Option.some.inj hv
      exact (h.getFeatures r).1 v' hanswer

theorem Marked.feature (h : Marked c) (event : FeatureEvent) :
    Marked { c with features := c.features.step false h3_to_latlng event } := by
  cases event with
  | complete clock h3_cell fetched =>
      simp only [Cache.step]
      cases hfresh : computeFeatures false h3_to_latlng h3_cell clock.now fetched with
      | error e => exact h
      | ok v => exact h.setCached clock h3_cell (is_fallback_computeFeatures hfresh)
  | evict h3_cell =>
      refine ⟨fun cell entry hentry => ?_, h.answers⟩
      by_cases hcell : cell = h3_cell
      · simp [Cache.step, hcell] at hentry
      · simp only [Cache.step, Function.update_of_ne hcell] at hentry
        exact h.features cell entry hentry

theorem Marked.step (h : Marked c) (event : CacheEvent) :
    Marked (c.step false h3_to_latlng validate_h3_cell event) := by
  cases event with
  | run r =>
      refine ⟨fun h3_cell entry hentry => ?_, (h.awaited r).2⟩
      simp only [Caches.step] at hentry
      split at hentry
      · exact h.features h3_cell entry hentry
      · exact (h.getFeatures r).2.features h3_cell entry hentry
  | feature event => exact h.feature event
  | expire key =>
      refine ⟨h.features, fun key' response hresponse => ?_⟩
      by_cases hkey : key' = key
      · simp [Caches.step, hkey] at hresponse
      · simp only [Caches.step, Function.update_of_ne hkey] at hresponse
        exact h.answers key' response hresponse

/-- Every answer is declared, whatever `/risk-score`, `/pricing`, the breaker and Redis have done:
the vector behind it is marked, from the sources or from memory. -/
theorem always_declared (events : List CacheEvent) :
    Run.Along (Caches.step false h3_to_latlng validate_h3_cell)
      (fun c event => ∀ r, event = .run r →
        ∀ response ∈ answered (r.awaited false h3_to_latlng validate_h3_cell c).1,
          Declares response) {} events := by
  refine Run.along_of_step (fun c event (h : Marked c) (_ : True) => ⟨h.step event, ?_⟩) ⟨?_, ?_⟩
    (Run.along_of_forall (fun _ _ => trivial) _)
  · rintro r rfl
    exact (h.awaited r).1
  · rintro _ _ ⟨⟩
  · rintro _ _ ⟨⟩

end Runs

namespace Silent

/-- A dry day, all of it measured. -/
def features : FeatureResponse :=
  { timeoutFeatures with
    active_orders := 10, active_riders := 10, is_fallback := true, missing_features := [] }

/-- Five seconds after the breaker has opened. -/
def io : PipelineIo where
  now := 0
  monotonic := 5
  features := some features
  risk _ := none
  pricing _ := none

def state : PipelineState where
  breaker := ⟨.OPEN, 3, 0⟩

theorem features_admitted : features ∈ admitted io := by decide +kernel

end Silent

/-! ## The label of the record -/

/-- An execution that falls back on a record, with nothing in the features that would label
the cell anew. -/
structure DegradedRun where
  io : PipelineIo
  request : PipelineRequest
  h3_cell : String
  state : PipelineState
  features : FeatureResponse
  record : ZoneState
  Lf : ℚ
  zone_state : String
  admitted : features ∈ admitted io
  unlabelled : checkParametricOverrides features (isGridlock io) = none ∧
    features.civic_alert = false
  degraded : mlAnswer io features state.breaker = none
  stored : fallbackFromRedis io h3_cell state.redis = some record
  complete : record.Lf = some Lf ∧ record.zone_state = some zone_state

namespace DegradedRun

variable (r : DegradedRun)

def Keeps (response : PipelineResponse) : Prop :=
  response.Lf = r.Lf ∧ response.zone_state = r.zone_state

/-- The execution and the answer at the deadline both report the record. -/
def Reports : Prop :=
  (∃ response, (executePipelineCore {} r.io r.request r.h3_cell r.state).1 = .ok response ∧
      r.Keeps response) ∧
    r.Keeps (timeoutResponse r.io r.request r.h3_cell r.state.redis)

theorem keeps_timeout : r.Keeps (timeoutResponse r.io r.request r.h3_cell r.state.redis) := by
  simp [Keeps, timeoutResponse, r.stored, r.complete]

theorem origin_eq : origin r.io r.h3_cell r.features r.state = .stored r.record := by
  simp [origin, r.degraded, r.stored]

/-- Both routes through an execution derive the label from the stored loss fraction. -/
theorem execute_zone : ∃ response,
    (executePipelineCore {} r.io r.request r.h3_cell r.state).1 = .ok response ∧
      response.Lf = RiskService.clamp r.Lf 0 1 ∧
      response.zone_state = getZoneState false (RiskService.clamp r.Lf 0 1) := by
  rw [executePipelineCore_admitted r.request r.h3_cell r.admitted]
  obtain ⟨a, breaker, hassess, hLf⟩ := assessRisk_origin r.io r.h3_cell r.features r.state
  obtain ⟨⟨premium, reasons⟩, breaker', hprice⟩ :=
    pricePremium_ok r.io r.request (pricingPayload r.request r.features a.Lf) a breaker
  have hstored : a.Lf = r.Lf := by
    rw [hLf, r.origin_eq]
    simp [Origin.Lf, r.complete]
  have hlabel :=
    @deriveZone_label r.features (isGridlock r.io) a.Lf premium r.unlabelled.1 r.unlabelled.2
  have hclamp : (deriveZone r.features (isGridlock r.io) a.Lf premium).1 =
      RiskService.clamp r.Lf 0 1 := by
    simp only [deriveZone, r.unlabelled.1, sanityCheck, hstored]
  rw [hclamp] at hlabel
  simp only [scoreAndWrite, hassess, hprice]
  exact ⟨_, rfl, hclamp, hlabel⟩

theorem clamp_eq_self_iff {x : ℚ} : RiskService.clamp x 0 1 = x ↔ 0 ≤ x ∧ x ≤ 1 := by
  unfold RiskService.clamp
  constructor
  · intro h
    have hlo : 0 ≤ max 0 (min 1 x) := le_max_left _ _
    have hhi : max 0 (min 1 x) ≤ 1 := max_le zero_le_one (min_le_left _ _)
    exact ⟨h ▸ hlo, h ▸ hhi⟩
  · rintro ⟨hlo, hhi⟩
    rw [min_eq_right hhi, max_eq_right hlo]

/-- All three fallbacks report the record if and only if its label is that of its loss
fraction. -/
theorem reports_iff :
    r.Reports ↔ (0 ≤ r.Lf ∧ r.Lf ≤ 1) ∧ r.zone_state = getZoneState false r.Lf := by
  obtain ⟨response, hresponse, hLf, hlabel⟩ := r.execute_zone
  have hexecuted : r.Reports ↔ r.Keeps response := by
    rw [Reports, and_iff_left r.keeps_timeout]
    constructor
    · rintro ⟨response', hresponse', hkeeps⟩
      obtain rfl := Except.ok.inj (hresponse.symm.trans hresponse')
      exact hkeeps
    · exact fun hkeeps => ⟨response, hresponse, hkeeps⟩
  rw [hexecuted, Keeps, hLf, hlabel, clamp_eq_self_iff]
  refine and_congr_right fun hbounds => ?_
  rw [clamp_eq_self_iff.mpr hbounds, eq_comm]

end DegradedRun

namespace Silent

def flood : ZoneState where
  Lf := some 1
  zone_state := some "FLOODED"

/-- The flood is on record, and it has stopped raining. -/
def recorded : PipelineState :=
  { state with
    redis :=
      { zones := fun cell => if cell = "8860145b5dfffff" then some ⟨flood, 300000⟩ else none } }

theorem features_unlabelled :
    checkParametricOverrides features (isGridlock io) = none ∧ features.civic_alert = false := by
  decide

theorem recorded_degraded : mlAnswer io features recorded.breaker = none := by decide +kernel

theorem recorded_stored : fallbackFromRedis io "8860145b5dfffff" recorded.redis = some flood := by
  decide

def flooded : DegradedRun where
  io := io
  request := { Ew := 5000 }
  h3_cell := "8860145b5dfffff"
  state := recorded
  features := features
  record := flood
  Lf := 1
  zone_state := "FLOODED"
  admitted := features_admitted
  unlabelled := features_unlabelled
  degraded := recorded_degraded
  stored := recorded_stored
  complete := ⟨rfl, rfl⟩

end Silent

/-- The execution answers `HALTED`. -/
theorem not_reports : ¬Silent.flooded.Reports := by
  rintro ⟨⟨response, hresponse, -, hkept⟩, -⟩
  obtain ⟨response', hresponse', -, hlabel⟩ := Silent.flooded.execute_zone
  obtain rfl := Except.ok.inj (hresponse.symm.trans hresponse')
  exact absurd (hlabel.symm.trans hkept) (by decide +kernel)

end Aegis.Zones
