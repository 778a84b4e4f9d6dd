import Aegis.Library.Run
import Aegis.Model.Features

/-! # What the pipeline gets to know of a cell

How many of the quality features fell back decides on the refusal; the answers of the strict mode
are real, those from memory too. -/

namespace Aegis.FeatureService

open HalfEven PipelineService Run

/-! ## Counting the fallbacks -/

theorem mem_fallbackFeatures {ms : List Mark} {name : String} :
    name ∈ fallbackFeatures ms ↔ ∃ m ∈ ms, m.fallback = true ∧ m.name = name := by
  simp [fallbackFeatures, and_assoc]

theorem mem_missingFeatures {ms : List Mark} {name : String} :
    name ∈ missingFeatures ms ↔ ∃ m ∈ ms, m.missing = true ∧ m.name = name := by
  simp [missingFeatures, and_assoc]

@[simp] theorem demandRatio_name (f : Fetched) : (demandRatio f).2.name = "demand_ratio" := by
  rw [demandRatio]
  split_ifs <;> rfl

/-- Whether each of the quality features fell back. -/
def fell (f : Fetched) : List Bool :=
  [f.weather_data.is_fallback, f.aqi_data.is_fallback, (demandRatio f).2.fallback,
    f.civic_alert_data.is_fallback, f.active_riders ≤ 0 && f.platform_data.is_fallback,
    f.platform_data.is_fallback]

theorem fallbackHits_eq (names : List String) :
    fallbackHits names = (QUALITY_FEATURES.map fun name => decide (name ∈ names)).count true := by
  rw [fallbackHits, ← List.countP_eq_length_filter, List.count, List.countP_map]
  congr 1
  funext name
  simp

/-- The mark of the historical risk is none of a quality feature. -/
theorem fallbackHits_marks (f : Fetched) {risk : Mark} (hrisk : risk.name = "historical_risk") :
    fallbackHits (fallbackFeatures (marks f ++ [risk])) = (fell f).count true := by
  rw [fallbackHits_eq]
  congr 1
  simp only [QUALITY_FEATURES, fell, List.map_cons, List.map_nil, mem_fallbackFeatures, marks]
  by_cases hriders : f.active_riders ≤ 0
  · simp [hrisk, hriders]
  · simp [hrisk, hriders]

theorem count_fell_le (f : Fetched) : (fell f).count true ≤ 6 := List.count_le_length

/-- At three of six the rounded ratio is a half. -/
theorem half_le_ratio_iff {names : List String} (hsix : fallbackHits names ≤ 6) :
    MAX_FALLBACK_RATIO ≤ roundTo 3 (fallbackRatio names) ↔ 3 ≤ fallbackHits names := by
  have hall : ∀ hits < 7, MAX_FALLBACK_RATIO ≤
      roundTo 3 (min 1 ((hits : ℕ) / max QUALITY_FEATURES.length 1 : ℚ)) ↔ 3 ≤ hits := by
    decide +kernel
  exact hall _ (Nat.lt_succ_of_le hsix)

/-! ## The gate -/

theorem demandRatio_fallback {f : Fetched} (h : (demandRatio f).2.missing = true) :
    (demandRatio f).2.fallback = true := by
  rw [demandRatio] at h ⊢
  split_ifs at h ⊢
  rfl

section Missing

variable (f : Fetched) {risk : Mark} (hrisk : risk.missing = false)

include hrisk

theorem missing_subset :
    missingFeatures (marks f ++ [risk]) ⊆ ["active_orders", "active_riders", "demand_ratio"] := by
  intro name h
  rw [mem_missingFeatures] at h
  obtain ⟨m, hm, hmissing, rfl⟩ := h
  by_cases hriders : f.active_riders ≤ 0
  · simp only [marks, if_pos hriders, List.mem_append, List.mem_cons, List.not_mem_nil,
      or_false] at hm
    aesop
  · simp only [marks, if_neg hriders, List.mem_append, List.mem_cons, List.not_mem_nil,
      or_false] at hm
    aesop

theorem riders_missing (h : "active_riders" ∈ missingFeatures (marks f ++ [risk])) :
    f.active_riders ≤ 0 ∧ f.platform_data.is_fallback = true := by
  rw [mem_missingFeatures] at h
  by_cases hriders : f.active_riders ≤ 0
  · simp [marks, hriders, hrisk] at h
    exact ⟨hriders, h⟩
  · simp [marks, hriders, hrisk] at h

theorem demand_missing (h : "demand_ratio" ∈ missingFeatures (marks f ++ [risk])) :
    (demandRatio f).2.fallback = true := by
  rw [mem_missingFeatures] at h
  by_cases hriders : f.active_riders ≤ 0
  · simp [marks, hriders, hrisk] at h
    exact demandRatio_fallback h
  · simp [marks, hriders, hrisk] at h
    exact demandRatio_fallback h

/-- Where three features are missing, three of quality fell back. -/
theorem fell_of_missing (h : 3 ≤ (sortedSet (missingFeatures (marks f ++ [risk]))).length) :
    3 ≤ (fell f).count true := by
  have hnodup : (sortedSet (missingFeatures (marks f ++ [risk]))).Nodup :=
    (List.perm_insertionSort _ _).nodup_iff.mpr (List.nodup_dedup _)
  have hmem {name : String} : name ∈ sortedSet (missingFeatures (marks f ++ [risk])) ↔
      name ∈ missingFeatures (marks f ++ [risk]) := by
    rw [sortedSet, List.mem_insertionSort, List.mem_dedup]
  have hshort {l : List String}
      (hl : ∀ name ∈ missingFeatures (marks f ++ [risk]), name ∈ l) : 3 ≤ l.length :=
    h.trans (hnodup.subperm fun name hname => hl name (hmem.mp hname)).length_le
  have hall : ∀ name ∈ ["active_orders", "active_riders", "demand_ratio"],
      name ∈ missingFeatures (marks f ++ [risk]) := by
    intro name hname
    by_contra hnot
    have hfew : 3 ≤ (["active_orders", "active_riders", "demand_ratio"].erase name).length :=
      hshort fun other hother => (List.mem_erase_of_ne (by rintro rfl; exact hnot hother)).mpr
        (missing_subset f hrisk hother)
    rw [List.length_erase_of_mem hname] at hfew
    simp at hfew
  obtain ⟨hriders, hplatform⟩ := riders_missing f hrisk (hall _ (by simp))
  have hdemand := demand_missing f hrisk (hall _ (by simp))
  simp only [fell, List.count_cons, hriders, hplatform, hdemand, decide_true, Bool.and_self]
  simp only [BEq.rfl, if_true]
  omega

end Missing

/-- The marks without the strict mode. -/
def priorMark : Mark := ⟨"historical_risk", "calibrated_prior", true, false⟩

section Gate

variable (h3_to_latlng : String → ℚ × ℚ) (h3_cell : String) (now : ℚ) (f : Fetched)

/-- The test of the missing features adds nothing to that of the ratio. -/
theorem admitFeatures_iff :
    admitFeatures {} (assemble false h3_to_latlng h3_cell now f).toFeatureResponse =
        .error .insufficientFeatures ↔
      ¬(0 < f.active_orders ∧ 0 < f.active_riders) ∧ 3 ≤ (fell f).count true := by
  have hhits : fallbackHits (fallbackFeatures (marks f ++ [priorMark])) = (fell f).count true :=
    fallbackHits_marks f rfl
  have hratio : MAX_FALLBACK_RATIO ≤
      roundTo 3 (fallbackRatio (fallbackFeatures (marks f ++ [priorMark]))) ↔
        3 ≤ (fell f).count true := by
    rw [half_le_ratio_iff (hhits ▸ count_fell_le f), hhits]
  have hmissing := @fell_of_missing f priorMark rfl
  have hvector : admitFeatures {} (assemble false h3_to_latlng h3_cell now f).toFeatureResponse =
      if (roundTo 3 (fallbackRatio (fallbackFeatures (marks f ++ [priorMark]))) ≥
        MAX_FALLBACK_RATIO ∨
          3 ≤ (sortedSet (missingFeatures (marks f ++ [priorMark]))).length) ∧
          ¬(0 < f.active_orders ∧ 0 < f.active_riders) then .error .insufficientFeatures
      else .ok () := rfl
  rw [hvector]
  split
  · rename_i hrefused
    refine iff_of_true rfl ⟨hrefused.2, ?_⟩
    exact hrefused.1.elim hratio.mp hmissing
  · rename_i hadmitted
    refine iff_of_false (by simp) ?_
    rintro ⟨hsignal, hthree⟩
    exact hadmitted ⟨.inl (hratio.mpr hthree), hsignal⟩

end Gate

/-- Outside the strict mode the historical risk is a prior. -/
theorem is_fallback_assemble (h3_to_latlng : String → ℚ × ℚ) (h3_cell : String) (now : ℚ)
    (f : Fetched) : (assemble false h3_to_latlng h3_cell now f).is_fallback = true := by
  have hmem : "historical_risk" ∈ fallbackFeatures (marks f ++ [priorMark]) :=
    mem_fallbackFeatures.mpr ⟨priorMark, by simp, rfl, rfl⟩
  exact decide_eq_true (List.ne_nil_of_mem hmem)

/-- A request with the platform source as it is. -/
def Fetched.asking (f : Fetched) (api : Option PlatformAnswer) (prior : Prior) : Fetched :=
  { f with platform := some (fetchPlatformActivity api prior) }

/-- Outside the strict mode every vector counts as a fallback, for its historical risk alone. The
prior of the platform always has orders and riders, so nothing is refused while the platform is
down; while it answers, three of four sources must have failed and one of the counts be missing. -/
structure GateLaw (h3_to_latlng : String → ℚ × ℚ) (h3_cell : String) (now : ℚ) (f : Fetched)
    (api : Option PlatformAnswer) (prior : Prior) : Prop where
  marked : (assemble false h3_to_latlng h3_cell now (f.asking api prior)).is_fallback = true
  confidence : (assemble false h3_to_latlng h3_cell now (f.asking api prior)).confidence_score =
    roundTo 3 (1 - ((fell (f.asking api prior)).count true : ℚ) / 6)
  down : api = none →
    admitFeatures {} (assemble false h3_to_latlng h3_cell now
      (f.asking api prior)).toFeatureResponse = .ok ()
  answering : ∀ data, api = some data →
    (admitFeatures {} (assemble false h3_to_latlng h3_cell now
        (f.asking api prior)).toFeatureResponse = .error .insufficientFeatures ↔
      ¬(0 < data.active_orders ∧ (f.kafka_active_riders ≠ 0 ∨ 0 < data.active_riders)) ∧
        3 ≤ [f.weather_data.is_fallback, f.aqi_data.is_fallback, f.civic_alert_data.is_fallback,
          decide ((fetchPlatformActivity api prior).demand_ratio ≤ 0)].count true)

theorem admitFeatures_lax (v : FeatureResponse)
    (h : admitFeatures {} v ≠ .error .insufficientFeatures) : admitFeatures {} v = .ok () := by
  rw [admitFeatures, if_neg (by simp)] at h ⊢
  split_ifs at h ⊢ with hfew
  · exact absurd rfl h
  · rfl

theorem signal_of_prior (f : Fetched) (prior : Prior) :
    0 < (f.asking none prior).active_orders ∧ 0 < (f.asking none prior).active_riders := by
  have horders := prior.orders_bounds
  refine ⟨?_, ?_⟩
  · change 0 < prior.orders
    omega
  · rw [Fetched.active_riders]
    split
    · exact Int.natCast_pos.mpr (Nat.pos_of_ne_zero ‹_›)
    · exact lt_of_lt_of_le (by decide) (le_max_left 5 _)

theorem signal_iff {f : Fetched} {data : PlatformAnswer} {prior : Prior} :
    0 < (f.asking (some data) prior).active_orders ∧
        0 < (f.asking (some data) prior).active_riders ↔
      0 < data.active_orders ∧ (f.kafka_active_riders ≠ 0 ∨ 0 < data.active_riders) := by
  refine and_congr_right fun _ => ?_
  have hkafka : (f.asking (some data) prior).kafka_active_riders = f.kafka_active_riders := rfl
  rw [Fetched.active_riders, hkafka]
  by_cases hkafka : f.kafka_active_riders = 0
  · rw [if_neg (not_not.mpr hkafka), or_iff_right (not_not.mpr hkafka)]
    rfl
  · rw [if_pos hkafka]
    exact iff_of_true (Int.natCast_pos.mpr (Nat.pos_of_ne_zero hkafka)) (.inl hkafka)

/-- While the platform answers, the demand ratio is a default where the answer has none. -/
theorem count_fell_answered (f : Fetched) (data : PlatformAnswer) (prior : Prior)
    (hno : ¬(0 < (f.asking (some data) prior).active_orders ∧
      0 < (f.asking (some data) prior).active_riders)) :
    (fell (f.asking (some data) prior)).count true =
      [f.weather_data.is_fallback, f.aqi_data.is_fallback, f.civic_alert_data.is_fallback,
        decide ((fetchPlatformActivity (some data) prior).demand_ratio ≤ 0)].count true := by
  have hreal : (f.asking (some data) prior).platform_data.is_fallback = false := rfl
  have hdemand : (demandRatio (f.asking (some data) prior)).2.fallback =
      decide ((fetchPlatformActivity (some data) prior).demand_ratio ≤ 0) := by
    have hplatform : (f.asking (some data) prior).platform_data =
        fetchPlatformActivity (some data) prior := rfl
    rw [demandRatio, if_neg hno, hplatform]
    by_cases hraw : 0 < (fetchPlatformActivity (some data) prior).demand_ratio
    · rw [if_pos hraw, decide_eq_false hraw.not_ge]
      rfl
    · rw [if_neg hraw, decide_eq_true (not_lt.mp hraw)]
  have hweather : (f.asking (some data) prior).weather_data = f.weather_data := rfl
  have haqi : (f.asking (some data) prior).aqi_data = f.aqi_data := rfl
  have hcivic : (f.asking (some data) prior).civic_alert_data = f.civic_alert_data := rfl
  rw [fell, hreal, hdemand, hweather, haqi, hcivic, Bool.and_false]
  simp only [List.count_cons, List.count_nil]
  simp only [beq_iff_eq, Bool.false_eq_true, if_false]
  omega

theorem gate_law (h3_to_latlng : String → ℚ × ℚ) (h3_cell : String) (now : ℚ) (f : Fetched)
    (api : Option PlatformAnswer) (prior : Prior) :
    GateLaw h3_to_latlng h3_cell now f api prior := by
  have hgate := admitFeatures_iff h3_to_latlng h3_cell now (f.asking api prior)
  have hhits : fallbackHits (fallbackFeatures (marks (f.asking api prior) ++ [priorMark])) =
      (fell (f.asking api prior)).count true := fallbackHits_marks _ rfl
  constructor
  case marked => exact is_fallback_assemble ..
  case confidence =>
    have hsix : ((fell (f.asking api prior)).count true : ℚ) ≤ 6 := by
      exact_mod_cast count_fell_le _
    have hratio : fallbackRatio (fallbackFeatures (marks (f.asking api prior) ++ [priorMark])) =
        ((fell (f.asking api prior)).count true : ℚ) / 6 := by
      have hmax : ((max QUALITY_FEATURES.length 1 : ℕ) : ℚ) = 6 := by norm_num [QUALITY_FEATURES]
      rw [fallbackRatio, hhits, hmax, min_eq_right]
      linarith
    change roundTo 3 (max 0 (1 - fallbackRatio
      (fallbackFeatures (marks (f.asking api prior) ++ [priorMark])))) = _
    rw [hratio, max_eq_right]
    linarith
  case down =>
    rintro rfl
    exact admitFeatures_lax _ fun hrefused =>
      (hgate.mp hrefused).1 (signal_of_prior f prior)
  case answering =>
    rintro data rfl
    rw [hgate, signal_iff]
    refine and_congr_right fun hno => ?_
    rw [count_fell_answered f data prior (signal_iff.not.mpr hno)]

/-! ## The strict mode -/

/-- Nothing in the vector is a default, and the pipeline takes it. -/
structure Real (v : FeatureVector) : Prop where
  orders : 0 < v.active_orders
  riders : 0 < v.active_riders
  fallbacks : v.fallback_features = []
  missing : v.missing_features = []
  unmarked : v.is_fallback = false
  ratio : v.fallback_ratio = 0
  confidence : v.confidence_score = 1
  risk : v.historical_risk ≤ 1
  admitted : admitFeatures { STRICT_REALTIME := true } v.toFeatureResponse = .ok ()

theorem derivedRisk_le_one (demand delay sla : ℚ) : derivedRisk demand delay sla ≤ 1 := by
  apply roundTo_le_one
  have hdemand : min 1 (demand / 3) ≤ 1 := min_le_left _ _
  have hdelay : min 1 (delay / 60) ≤ 1 := min_le_left _ _
  have hsla : min 1 sla ≤ 1 := min_le_left _ _
  linarith

theorem fallbackRatio_nil : fallbackRatio [] = 0 := by
  simp [fallbackRatio, fallbackHits]

theorem admitFeatures_real {v : FeatureResponse} (hunmarked : v.is_fallback = false)
    (hratio : v.fallback_ratio = 0) (hmissing : v.missing_features = [])
    (hsignal : 0 < v.active_orders ∧ 0 < v.active_riders) :
    admitFeatures { STRICT_REALTIME := true } v = .ok () := by
  rw [admitFeatures, if_neg (by simp [hunmarked, hratio, hmissing]),
    if_neg fun hrefused => hrefused.2 hsignal]

theorem real_of_computeFeatures {h3_to_latlng : String → ℚ × ℚ} {h3_cell : String} {now : ℚ}
    {f : Fetched} {v : FeatureVector}
    (h : computeFeatures true h3_to_latlng h3_cell now f = .ok v) : Real v := by
  rw [computeFeatures, if_pos rfl] at h
  cases hstrict : strictRefusal f with
  | some e =>
      rw [hstrict] at h
      cases h
  | none =>
      rw [hstrict] at h
      cases h
      rw [strictRefusal] at hstrict
      split_ifs at hstrict with hmarks hplatform
      obtain ⟨hfallback, hmissing⟩ := not_or.mp hmarks
      obtain ⟨horders, hriders⟩ := not_or.mp hplatform
      set all := marks f ++ [(historicalRisk true f).2] with hall
      have hnone : fallbackFeatures all = [] := by
        have hsplit : fallbackFeatures all =
            fallbackFeatures (marks f) ++ fallbackFeatures [(historicalRisk true f).2] := by
          simp [hall, fallbackFeatures]
        rw [hsplit, not_not.mp hfallback]
        rfl
      have hnothing : missingFeatures all = [] := by
        have hsplit : missingFeatures all =
            missingFeatures (marks f) ++ missingFeatures [(historicalRisk true f).2] := by
          simp [hall, missingFeatures]
        rw [hsplit, not_not.mp hmissing]
        rfl
      have hunmarked : decide (fallbackFeatures all ≠ []) = false := by simp [hnone]
      have hratio : roundTo 3 (fallbackRatio (fallbackFeatures all)) = 0 := by
        rw [hnone, fallbackRatio_nil, roundTo_zero]
      have hempty : sortedSet (missingFeatures all) = [] := by
        rw [hnothing]
        rfl
      constructor
      case orders => exact not_le.mp horders
      case riders => exact not_le.mp hriders
      case fallbacks =>
        change sortedSet (fallbackFeatures all) = []
        rw [hnone]
        rfl
      case missing => exact hempty
      case unmarked => exact hunmarked
      case ratio => exact hratio
      case confidence =>
        change roundTo 3 (max 0 (1 - fallbackRatio (fallbackFeatures all))) = 1
        rw [hnone, fallbackRatio_nil, sub_zero, max_eq_right zero_le_one, roundTo_one]
      case risk => exact derivedRisk_le_one _ _ _
      case admitted =>
        refine admitFeatures_real ?_ ?_ ?_ ⟨not_le.mp horders, not_le.mp hriders⟩
        · exact hunmarked
        · exact hratio
        · exact hempty

theorem Real.cachedAnswer {cached : CacheEntry} (h : Real cached.features) (clock : Clock) :
    Real (cachedAnswer clock cached) :=
  ⟨h.orders, h.riders, h.fallbacks, h.missing, h.unmarked, h.ratio, h.confidence, h.risk,
    h.admitted⟩

/-! ## The cache -/

/-- The event writes or drops the entry of the cell. -/
def FeatureEvent.Touches (STRICT_REALTIME : Bool) (h3_to_latlng : String → ℚ × ℚ)
    (h3_cell : String) : FeatureEvent → Prop
  | complete clock cell fetched => cell = h3_cell ∧
      ∃ v, computeFeatures STRICT_REALTIME h3_to_latlng cell clock.now fetched = .ok v
  | evict cell => cell = h3_cell

section Cache

variable {STRICT_REALTIME : Bool} {h3_to_latlng : String → ℚ × ℚ} {h3_cell : String}

theorem step_of_not_touches {event : FeatureEvent}
    (h : ¬event.Touches STRICT_REALTIME h3_to_latlng h3_cell) (cache : Cache) :
    cache.step STRICT_REALTIME h3_to_latlng event h3_cell = cache h3_cell := by
  cases event with
  | evict cell => exact Function.update_of_ne (Ne.symm h) _ _
  | complete clock cell fetched =>
      rw [Cache.step]
      cases hv : computeFeatures STRICT_REALTIME h3_to_latlng cell clock.now fetched with
      | error e => rfl
      | ok v =>
          have hcell : h3_cell ≠ cell := by
            rintro rfl
            exact h ⟨rfl, v, hv⟩
          exact Function.update_of_ne hcell _ _

/-- The entry of a cell is what the last request left that was completed for it. -/
theorem entry_final {events : List FeatureEvent} {entry : CacheEntry}
    (h : final (Cache.step STRICT_REALTIME h3_to_latlng) (fun _ => none) events h3_cell =
      some entry) :
    ∃ before clock fetched after, events = before ++ .complete clock h3_cell fetched :: after ∧
      computeFeatures STRICT_REALTIME h3_to_latlng h3_cell clock.now fetched = .ok entry.features ∧
      entry.timestamp = clock.now ∧ entry.expires = clock.monotonic + CACHE_TTL_SECONDS ∧
      ∀ event ∈ after, ¬event.Touches STRICT_REALTIME h3_to_latlng h3_cell := by
  induction events using List.reverseRecOn with
  | nil => cases h
  | append_singleton events event ih =>
      rw [final_snoc] at h
      by_cases htouches : event.Touches STRICT_REALTIME h3_to_latlng h3_cell
      · cases event with
        | evict cell =>
            obtain rfl : cell = h3_cell := htouches
            rw [Cache.step, Function.update_self] at h
            cases h
        | complete clock cell fetched =>
            obtain ⟨rfl, v, hv⟩ := htouches
            simp only [Cache.step, hv, setCached, Function.update_self, Option.some.injEq] at h
            subst h
            exact ⟨events, clock, fetched, [], rfl, hv, rfl, rfl, by simp⟩
      · rw [step_of_not_touches htouches] at h
        obtain ⟨before, clock, fetched, after, rfl, hv, htime, hend, hafter⟩ := ih h
        refine ⟨before, clock, fetched, after ++ [event], by simp, hv, htime, hend, ?_⟩
        intro other hother
        rcases List.mem_append.mp hother with hold | hnew
        · exact hafter other hold
        · rw [List.mem_singleton.mp hnew]
          exact htouches

theorem lookup_final {validate_h3_cell : String → Bool} {events : List FeatureEvent} {clock : Clock}
    {v : FeatureVector}
    (h : lookupFeatures validate_h3_cell clock h3_cell
      (final (Cache.step STRICT_REALTIME h3_to_latlng) (fun _ => none) events) = some (.ok v)) :
    ∃ entry, final (Cache.step STRICT_REALTIME h3_to_latlng) (fun _ => none) events h3_cell =
        some entry ∧
      clock.monotonic < entry.expires ∧ v = cachedAnswer clock entry := by
  rw [lookupFeatures] at h
  split at h
  · cases h
  · obtain ⟨entry, hentry, hv⟩ := Option.map_eq_some_iff.mp h
    obtain ⟨hfound, hlive⟩ := Option.filter_eq_some_iff.mp hentry
    cases hv
    exact ⟨entry, hfound, of_decide_eq_true hlive, rfl⟩

end Cache

/-- An answer from memory is that of the last request that was completed for the cell, less than
the time to live ago, with its age and a note that it was cached. -/
theorem cached_answer (STRICT_REALTIME : Bool) (h3_to_latlng : String → ℚ × ℚ)
    (validate_h3_cell : String → Bool) (events : List FeatureEvent) (clock : Clock)
    (h3_cell : String) (v : FeatureVector)
    (h : lookupFeatures validate_h3_cell clock h3_cell
      (final (Cache.step STRICT_REALTIME h3_to_latlng) (fun _ => none) events) = some (.ok v)) :
    ∃ before made fetched after fresh,
      events = before ++ .complete made h3_cell fetched :: after ∧
      computeFeatures STRICT_REALTIME h3_to_latlng h3_cell made.now fetched = .ok fresh ∧
      (∀ event ∈ after, ¬event.Touches STRICT_REALTIME h3_to_latlng h3_cell) ∧
      clock.monotonic < made.monotonic + CACHE_TTL_SECONDS ∧
      v = { fresh with
        feature_age_seconds := roundTo 2 (max 0 (clock.now - made.now))
        feature_sources := fresh.feature_sources ++ [("cache", "memory")] } := by
  obtain ⟨entry, hentry, hlive, rfl⟩ := lookup_final h
  obtain ⟨before, made, fetched, after, hevents, hfresh, htime, hend, hafter⟩ := entry_final hentry
  refine ⟨before, made, fetched, after, entry.features, hevents, hfresh, hafter, hend ▸ hlive, ?_⟩
  rw [cachedAnswer, htime]

/-- A cell whose sources all answered, with twelve orders for three riders. -/
def liveSources : Fetched where
  weather := some ⟨2, 28, 70, false, "open-meteo"⟩
  aqi := some ⟨60, 20, 35, false, "openaq"⟩
  civic := some ⟨false, false, "newsdata"⟩
  platform := some ⟨12, 3, 4, 4, 1 / 10, 12, false, "platform_api"⟩

/-- Completed once, and asked for again a hundred seconds later. -/
def askedAgain : List FeatureEvent := [.complete ⟨1000, 50⟩ "cell" liveSources, .evict "other"]

theorem lookup_again :
    lookupFeatures (fun _ => true) ⟨1100, 150⟩ "cell"
        (final (Cache.step true fun _ => (13, 77)) (fun _ => none) askedAgain) =
      some (.ok (cachedAnswer ⟨1100, 150⟩
        ⟨assemble true (fun _ => (13, 77)) "cell" 1000 liveSources, 1000,
          50 + CACHE_TTL_SECONDS⟩)) := by
  have hstrict : strictRefusal liveSources = none := by decide
  have hfresh : computeFeatures true (fun _ => (13, 77)) "cell" 1000 liveSources =
      .ok (assemble true (fun _ => (13, 77)) "cell" 1000 liveSources) := by
    rw [computeFeatures, if_pos rfl, hstrict]
  have hlive : (150 : ℚ) < 50 + CACHE_TTL_SECONDS := by norm_num [CACHE_TTL_SECONDS]
  simp [lookupFeatures, askedAgain, Cache.step, hfresh, setCached, getCached, hlive]

theorem cached_answer_again :
    ∃ before made fetched after fresh,
      askedAgain = before ++ .complete made "cell" fetched :: after ∧
      computeFeatures true (fun _ => (13, 77)) "cell" made.now fetched = .ok fresh ∧
      (∀ event ∈ after, ¬event.Touches true (fun _ => (13, 77)) "cell") ∧
      150 < made.monotonic + CACHE_TTL_SECONDS := by
  obtain ⟨before, made, fetched, after, fresh, hevents, hfresh, hafter, hlive, -⟩ :=
    cached_answer true (fun _ => (13, 77)) (fun _ => true) askedAgain ⟨1100, 150⟩ "cell" _
      lookup_again
  exact ⟨before, made, fetched, after, fresh, hevents, hfresh, hafter, hlive⟩

/-- Whether it is fresh or from memory, an answer of the strict mode is real. -/
theorem strict_answers (h3_to_latlng : String → ℚ × ℚ) (validate_h3_cell : String → Bool)
    (events : List FeatureEvent) (clock : Clock) (h3_cell : String) (fetched : Fetched)
    (v : FeatureVector)
    (h : lookupFeatures validate_h3_cell clock h3_cell
        (final (Cache.step true h3_to_latlng) (fun _ => none) events) = some (.ok v) ∨
      computeFeatures true h3_to_latlng h3_cell clock.now fetched = .ok v) : Real v := by
  rcases h with hmemory | hfresh
  · obtain ⟨entry, hentry, -, rfl⟩ := lookup_final hmemory
    obtain ⟨before, made, asked, after, -, hfresh, -⟩ := entry_final hentry
    exact (real_of_computeFeatures hfresh).cachedAnswer clock
  · exact real_of_computeFeatures hfresh

theorem strict_answers_again :
    ∃ v, lookupFeatures (fun _ => true) ⟨1100, 150⟩ "cell"
        (final (Cache.step true fun _ => (13, 77)) (fun _ => none) askedAgain) = some (.ok v) ∧
      Real v :=
  ⟨_, lookup_again, strict_answers (fun _ => (13, 77)) (fun _ => true) askedAgain ⟨1100, 150⟩ "cell"
    liveSources _ (.inl lookup_again)⟩

end Aegis.FeatureService
