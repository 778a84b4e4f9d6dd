import Aegis.Library.HalfEven
import Aegis.Library.Loop
import Aegis.Model.Pipeline
import Mathlib.Data.List.Dedup
import Mathlib.Data.List.Sort

/-! # The feature vector of a cell

The sources of the feature service with the client they share, and what `feature_service.py` makes
of them. -/

/-! ## The air quality index

`aqi_service.py` of the feature service: the index of a concentration, and what is made of the
sensors around a place. -/

namespace Aegis.AqiService

open HalfEven

/-! ## The conversion -/

/-- A row of the table of the EPA: concentrations and the part of the index they span. -/
structure Breakpoint where
  c_lo : ℚ
  c_hi : ℚ
  i_lo : ℚ
  i_hi : ℚ
  deriving DecidableEq, Repr

def Breakpoint.index (b : Breakpoint) (c : ℚ) : ℚ :=
  roundTo 1 ((b.i_hi - b.i_lo) / (b.c_hi - b.c_lo) * (c - b.c_lo) + b.i_lo)

/-- The first row that spans the concentration; 500 without one. -/
def lookup : List Breakpoint → ℚ → ℚ
  | [], _ => 500
  | b :: bp, c => if b.c_lo ≤ c ∧ c ≤ b.c_hi then b.index c else lookup bp c

def pm25Breakpoints : List Breakpoint :=
  [⟨0, 12, 0, 50⟩,
    ⟨121 / 10, 354 / 10, 51, 100⟩,
    ⟨355 / 10, 554 / 10, 101, 150⟩,
    ⟨555 / 10, 1504 / 10, 151, 200⟩,
    ⟨1505 / 10, 2504 / 10, 201, 300⟩,
    ⟨2505 / 10, 3504 / 10, 301, 400⟩,
    ⟨3505 / 10, 5004 / 10, 401, 500⟩]

def pm10Breakpoints : List Breakpoint :=
  [⟨0, 54, 0, 50⟩,
    ⟨55, 154, 51, 100⟩,
    ⟨155, 254, 101, 150⟩,
    ⟨255, 354, 151, 200⟩,
    ⟨355, 424, 201, 300⟩,
    ⟨425, 504, 301, 400⟩,
    ⟨505, 604, 401, 500⟩]

def pm25ToAqi (c : ℚ) : ℚ := lookup pm25Breakpoints (roundTo 1 c)

def pm10ToAqi (c : ℚ) : ℚ := lookup pm10Breakpoints ⌊c⌋

/-! ## The sensors -/

def AQI_MAX_SENSORS_PER_TYPE : ℕ := 4

/-- The mean of the sensors that answer, of the first few. -/
def avgSensorType (sensors : List (Option ℚ)) : Option ℚ :=
  let values := (sensors.take AQI_MAX_SENSORS_PER_TYPE).filterMap id
  if values = [] then none else some (roundTo 2 (values.sum / values.length))

structure AqiData where
  aqi : ℚ
  pm25 : ℚ
  pm10 : ℚ
  is_fallback : Bool
  source : String
  deriving DecidableEq, Repr

def cpcbFallback : AqiData := ⟨80, 30, 45, true, "default"⟩

/-- Fine dust counts if there is any reading of it. -/
def aqiOfReadings (pm25 pm10 : Option ℚ) : Option AqiData :=
  match pm25, pm10 with
  | some pm25, pm10 =>
      some ⟨pm25ToAqi pm25, pm25, pm10.getD (roundTo 2 (pm25 * (15 / 10))), false, "openaq"⟩
  | none, some pm10 => some ⟨pm10ToAqi pm10, roundTo 2 (pm10 * (6 / 10)), pm10, false, "openaq"⟩
  | none, none => none

/-- What the search within a radius comes to. -/
inductive RadiusAnswer where
  | sensors (pm25 pm10 : List (Option ℚ))
  | timeout
  | failed
  deriving DecidableEq, Repr

/-- The radii of the progressive search, from the smallest on. -/
def fetchAqi : List RadiusAnswer → AqiData
  | [] => cpcbFallback
  | .sensors pm25 pm10 :: radii =>
      (aqiOfReadings (avgSensorType pm25) (avgSensorType pm10)).getD (fetchAqi radii)
  | .timeout :: radii => fetchAqi radii
  | .failed :: _ => cpcbFallback

end Aegis.AqiService

/-! ## The adaptive client

`AdaptiveAsyncClient` of `apiris_http.py`, which asks again while the answer comes too late. -/

namespace Aegis.ApirisHttp

structure Config where
  APIRIS_ADAPTIVE_RETRY_ENABLED : Bool := true
  APIRIS_ADAPTIVE_MAX_RETRIES : ℤ := 1
  APIRIS_RETRYABLE_STATUS_CODES : List ℤ := [408, 425, 429, 500, 502, 503, 504]
  APIRIS_BASE_BACKOFF_MS : ℤ := 250
  APIRIS_PREDICTED_LATENCY_MS : ℚ := 2000
  APIRIS_TIMEOUT_GROWTH_FACTOR : ℚ := 3 / 2
  APIRIS_MAX_TIMEOUT_SEC : ℚ := 20
  deriving DecidableEq, Repr

/-- `predicted_latency` is what `_extract_cad_metric` finds. -/
structure NormalizedResponse where
  status_code : ℤ
  predicted_latency : Option ℚ := none
  deriving DecidableEq, Repr

/-- How one request ends. -/
inductive Attempt where
  | response (response : NormalizedResponse)
  | timeout
  | failed
  deriving DecidableEq, Repr

/-- What the caller gets; the last is the error behind the loop. -/
inductive Result where
  | returned (response : NormalizedResponse)
  | timedOut
  | raised
  | exhausted
  deriving DecidableEq, Repr

/-- The variables of the loop, with the timeouts of the requests and the pauses between them. -/
structure Policy where
  attempt : ℕ := 0
  timeout : ℚ
  last_error : Bool := false
  requests : List ℚ := []
  sleeps : List ℚ := []
  result : Option Result := none
  deriving DecidableEq, Repr

section Client

variable (cfg : Config) (send : ℕ → ℚ → Attempt)

def retries : ℕ := (max 0 cfg.APIRIS_ADAPTIVE_MAX_RETRIES).toNat

def grown (timeout : ℚ) : ℚ :=
  min (timeout * cfg.APIRIS_TIMEOUT_GROWTH_FACTOR) cfg.APIRIS_MAX_TIMEOUT_SEC

def Policy.again (s : Policy) : Policy :=
  { s with
    attempt := s.attempt + 1
    timeout := grown cfg s.timeout
    sleeps := s.sleeps ++ [(cfg.APIRIS_BASE_BACKOFF_MS / 1000 : ℚ) * (s.attempt + 1)] }

/-- One turn of the loop; `send` is what comes back for an attempt with a timeout. -/
def turn (_ : ℕ) (s : Policy) : Loop.Flow Policy :=
  if retries cfg < s.attempt then .stop s
  else
    let outcome := send s.attempt s.timeout
    let s := { s with requests := s.requests ++ [s.timeout] }
    match outcome with
    | .response response =>
        if cfg.APIRIS_ADAPTIVE_RETRY_ENABLED = false ∨ retries cfg ≤ s.attempt then
          .stop { s with result := some (.returned response) }
        else if response.status_code ∉ cfg.APIRIS_RETRYABLE_STATUS_CODES then
          .stop { s with result := some (.returned response) }
        else if response.status_code ≠ 429 ∧
            ∀ predicted ∈ response.predicted_latency,
              predicted < cfg.APIRIS_PREDICTED_LATENCY_MS then
          .stop { s with result := some (.returned response) }
        else .next (s.again cfg)
    | .timeout =>
        if cfg.APIRIS_ADAPTIVE_RETRY_ENABLED = false ∨ retries cfg ≤ s.attempt then
          .stop { s with last_error := true, result := some .timedOut }
        else .next ({ s with last_error := true }.again cfg)
    | .failed => .stop { s with result := some .raised }

/-- The loop tests its condition once more than it may ask. -/
def requestWithPolicy (timeout : ℚ) : Result × Policy :=
  let s := Loop.run (turn cfg send) (List.range (retries cfg + 2))
    { timeout := max (1 / 10) (min timeout cfg.APIRIS_MAX_TIMEOUT_SEC) }
  (s.result.getD (if s.last_error then .timedOut else .exhausted), s)

end Client

end Aegis.ApirisHttp

/-! ## The feature service

What the sources give, what of it is marked as a fallback or as missing, and what is answered from
memory. -/

namespace Aegis.FeatureService

open AqiService HalfEven PipelineService

/-! ## Sources -/

structure WeatherData where
  rainfall : ℚ
  temperature : ℚ
  humidity : ℚ
  is_fallback : Bool
  source : String
  deriving DecidableEq, Repr

structure CivicAlertData where
  civic_alert : Bool
  is_fallback : Bool
  source : String
  deriving DecidableEq, Repr

structure PlatformData where
  active_orders : ℤ
  active_riders : ℤ
  demand_ratio : ℚ
  order_density : ℚ
  sla_breach_rate : ℚ
  avg_delivery_delay_min : ℚ
  is_fallback : Bool
  source : String
  deriving DecidableEq, Repr

def DEFAULT_DEMAND_RATIO : ℚ := 1 / 2

def defaultWeather : WeatherData := ⟨0, 30, 65, true, "default"⟩

def defaultCivicAlert : CivicAlertData := ⟨false, true, "default"⟩

def defaultPlatform : PlatformData := ⟨0, 0, DEFAULT_DEMAND_RATIO, 0, 0, 0, true, "default"⟩

/-- The answer of the platform's API; what it leaves out is 0, the density apart. -/
structure PlatformAnswer where
  active_orders : ℤ := 0
  active_riders : ℤ := 0
  demand_ratio : ℚ := 0
  order_density : Option ℚ := none
  sla_breach_rate : ℚ := 0
  avg_delivery_delay_min : ℚ := 0
  deriving DecidableEq, Repr

/-- The draws of a generator that is seeded with the zone. -/
structure Prior where
  orders : ℤ
  riderShare : ℚ
  sla_breach_rate : ℚ
  avg_delay : ℚ
  orders_bounds : 10 ≤ orders ∧ orders ≤ 200
  riderShare_bounds : 3 / 10 ≤ riderShare ∧ riderShare ≤ 8 / 10

/-- `none` when the API fails. -/
def fetchPlatformActivity (api : Option PlatformAnswer) (prior : Prior) : PlatformData :=
  match api with
  | some data =>
      let demand_ratio :=
        if data.demand_ratio ≤ 0 ∧ (data.active_orders ≠ 0 ∨ data.active_riders ≠ 0) then
          roundTo 4 (data.active_orders / max data.active_riders 1 : ℚ)
        else data.demand_ratio
      { active_orders := data.active_orders
        active_riders := data.active_riders
        demand_ratio
        order_density := data.order_density.getD demand_ratio
        sla_breach_rate := data.sla_breach_rate
        avg_delivery_delay_min := data.avg_delivery_delay_min
        is_fallback := false
        source := "platform_api" }
  | none =>
      let riders := max 5 ⌊prior.orders * prior.riderShare⌋
      let demand_ratio := roundTo 4 (prior.orders / max riders 1 : ℚ)
      { active_orders := prior.orders
        active_riders := riders
        demand_ratio
        order_density := demand_ratio
        sla_breach_rate := prior.sla_breach_rate
        avg_delivery_delay_min := prior.avg_delay
        is_fallback := true
        source := "calibrated_fallback_prior" }

/-- What a request gathers; a source that raised gives `none`. -/
structure Fetched where
  weather : Option WeatherData
  aqi : Option AqiData
  civic : Option CivicAlertData
  platform : Option PlatformData
  kafka_active_riders : ℕ := 0
  hour_of_day : ℕ := 0
  day_of_week : ℕ := 0
  month : ℕ := 1
  calibrated_prior : ℚ := 0
  deriving DecidableEq, Repr

namespace Fetched

variable (f : Fetched)

def weather_data : WeatherData := f.weather.getD defaultWeather

def aqi_data : AqiData := f.aqi.getD cpcbFallback

def civic_alert_data : CivicAlertData := f.civic.getD defaultCivicAlert

def platform_data : PlatformData := f.platform.getD defaultPlatform

def active_orders : ℤ := f.platform_data.active_orders

/-- The riders that telemetry counts come first. -/
def active_riders : ℤ :=
  if f.kafka_active_riders ≠ 0 then f.kafka_active_riders else f.platform_data.active_riders

end Fetched

/-! ## Marks -/

/-- A call of `_mark`. -/
structure Mark where
  name : String
  source : String
  fallback : Bool := false
  missing : Bool := false
  deriving DecidableEq, Repr

section Marks

variable (f : Fetched)

def demandRatio : ℚ × Mark :=
  let raw := f.platform_data.demand_ratio
  if 0 < f.active_orders ∧ 0 < f.active_riders then
    (roundTo 4 (f.active_orders / max f.active_riders 1 : ℚ),
      ⟨"demand_ratio", "kafka+platform", false, false⟩)
  else if 0 < raw then
    (roundTo 4 raw,
      ⟨"demand_ratio", f.platform_data.source, f.platform_data.is_fallback, false⟩)
  else .mk DEFAULT_DEMAND_RATIO ⟨"demand_ratio", "default", true, true⟩

def ridersSource : String :=
  if 0 < f.kafka_active_riders then "kafka" else f.platform_data.source

/-- The marks up to the strict check. Riders are marked only where there are none. -/
def marks : List Mark :=
  let weather (name : String) : Mark :=
    ⟨name, f.weather_data.source, f.weather_data.is_fallback, false⟩
  let aqi (name : String) : Mark := ⟨name, f.aqi_data.source, f.aqi_data.is_fallback, false⟩
  let platform (name : String) : Mark :=
    ⟨name, f.platform_data.source, f.platform_data.is_fallback, false⟩
  [weather "rainfall", weather "temperature", weather "humidity", aqi "aqi", aqi "pm25", aqi "pm10",
    ⟨"civic_alert", f.civic_alert_data.source, f.civic_alert_data.is_fallback, false⟩,
    { platform "active_orders" with missing := f.active_orders ≤ 0 }] ++
  (if f.active_riders ≤ 0 then
    [⟨"active_riders", ridersSource f, f.platform_data.is_fallback, f.platform_data.is_fallback⟩]
  else []) ++
  [(demandRatio f).2, platform "order_density", platform "sla_breach_rate",
    platform "avg_delivery_delay_min"]

end Marks

def fallbackFeatures (marks : List Mark) : List String := (marks.filter (·.fallback)).map (·.name)

def missingFeatures (marks : List Mark) : List String := (marks.filter (·.missing)).map (·.name)

/-- `sorted(set(names))`. -/
def sortedSet (names : List String) : List String := names.dedup.insertionSort (· ≤ ·)

/-! ## The vector -/

def QUALITY_FEATURES : List String :=
  ["rainfall", "aqi", "demand_ratio", "civic_alert", "active_riders", "active_orders"]

def fallbackHits (names : List String) : ℕ := (QUALITY_FEATURES.filter (· ∈ names)).length

def fallbackRatio (names : List String) : ℚ :=
  min 1 (fallbackHits names / max QUALITY_FEATURES.length 1 : ℚ)

def getSeason (month : ℕ) : ℕ :=
  if month = 12 ∨ month = 1 ∨ month = 2 then 0
  else if month = 3 ∨ month = 4 ∨ month = 5 then 1
  else if month = 6 ∨ month = 7 ∨ month = 8 ∨ month = 9 then 2
  else 3

/-- The whole answer; the fields that the pipeline goes by come first. -/
structure FeatureVector extends FeatureResponse where
  h3_cell : String
  latitude : ℚ
  longitude : ℚ
  humidity : ℚ
  pm25 : ℚ
  pm10 : ℚ
  order_density : ℚ
  hour_of_day : ℕ
  day_of_week : ℕ
  month : ℕ
  season : ℕ
  historical_risk : ℚ
  feature_timestamp : ℚ
  feature_age_seconds : ℚ := 0
  fallback_features : List String
  feature_sources : List (String × String)
  confidence_score : ℚ
  deriving DecidableEq, Repr

inductive FeatureError where
  | invalidCell (h3_cell : String)
  | realtimeOnly (fallbacks missing : List String)
  | platformUnavailable
  deriving DecidableEq, Repr

def FeatureError.status_code : FeatureError → ℕ
  | invalidCell _ => 422
  | realtimeOnly .. | platformUnavailable => 424

/-- `str` of a list of names. -/
def listText (names : List String) : String :=
  "[" ++ String.intercalate ", " (names.map fun name => "'" ++ name ++ "'") ++ "]"

def FeatureError.detail : FeatureError → String
  | invalidCell h3_cell => "Invalid H3 cell ID: '" ++ h3_cell ++ "'"
  | realtimeOnly fallbacks missing =>
      "Realtime-only mode: fallbacks=" ++ listText fallbacks ++ " missing=" ++ listText missing
  | platformUnavailable => "Realtime-only mode: platform activity unavailable"

def derivedRisk (demand_ratio avg_delivery_delay_min sla_breach_rate : ℚ) : ℚ :=
  roundTo 4 (4 / 10 * min 1 (demand_ratio / 3) + 3 / 10 * min 1 (avg_delivery_delay_min / 60) +
    3 / 10 * min 1 sla_breach_rate)

/-- The entries of `feature_sources`; that of the riders is made before that of the orders. -/
def featureSources (f : Fetched) (marks : List Mark) : List (String × String) :=
  let pair (m : Mark) := (m.name, m.source)
  (marks.take 7).map pair ++ [("active_riders", ridersSource f)] ++
    ((marks.drop 7).filter fun m => m.name ≠ "active_riders").map pair

section Vector

variable (STRICT_REALTIME : Bool) (h3_to_latlng : String → ℚ × ℚ)

/-- `none` where the strict mode has no objection. -/
def strictRefusal (f : Fetched) : Option FeatureError :=
  let fallback_features := fallbackFeatures (marks f)
  let missing_features := missingFeatures (marks f)
  if fallback_features ≠ [] ∨ missing_features ≠ [] then
    some (.realtimeOnly (sortedSet fallback_features) (sortedSet missing_features))
  else if f.active_orders ≤ 0 ∨ f.active_riders ≤ 0 then some .platformUnavailable
  else none

/-- The mark of the historical risk and its value. -/
def historicalRisk (f : Fetched) : ℚ × Mark :=
  if STRICT_REALTIME then
    (derivedRisk (demandRatio f).1 f.platform_data.avg_delivery_delay_min
      f.platform_data.sla_breach_rate, ⟨"historical_risk", "derived", false, false⟩)
  else (f.calibrated_prior, ⟨"historical_risk", "calibrated_prior", true, false⟩)

/-- Steps 5 to 7, at `now`. -/
def assemble (h3_cell : String) (now : ℚ) (f : Fetched) : FeatureVector :=
  let (lat, lng) := h3_to_latlng h3_cell
  let (historical_risk, riskMark) := historicalRisk STRICT_REALTIME f
  let all := marks f ++ [riskMark]
  let fallback_ratio := fallbackRatio (fallbackFeatures all)
  { rainfall := f.weather_data.rainfall
    temperature := f.weather_data.temperature
    humidity := f.weather_data.humidity
    aqi := f.aqi_data.aqi
    pm25 := f.aqi_data.pm25
    pm10 := f.aqi_data.pm10
    active_orders := f.active_orders
    active_riders := f.active_riders
    demand_ratio := (demandRatio f).1
    order_density := f.platform_data.order_density
    sla_breach_rate := f.platform_data.sla_breach_rate
    avg_delivery_delay_min := f.platform_data.avg_delivery_delay_min
    civic_alert := f.civic_alert_data.civic_alert
    hour_of_day := f.hour_of_day
    day_of_week := f.day_of_week
    month := f.month
    season := getSeason f.month
    historical_risk
    h3_cell
    latitude := roundTo 6 lat
    longitude := roundTo 6 lng
    feature_timestamp := now
    is_fallback := fallbackFeatures all ≠ []
    fallback_ratio := roundTo 3 fallback_ratio
    fallback_features := sortedSet (fallbackFeatures all)
    missing_features := sortedSet (missingFeatures all)
    feature_sources := featureSources f all
    confidence_score := roundTo 3 (max 0 (1 - fallback_ratio)) }

def computeFeatures (h3_cell : String) (now : ℚ) (f : Fetched) :
    Except FeatureError FeatureVector :=
  match if STRICT_REALTIME then strictRefusal f else none with
  | some e => .error e
  | none => .ok (assemble STRICT_REALTIME h3_to_latlng h3_cell now f)

end Vector

/-! ## The cache -/

def CACHE_TTL_SECONDS : ℚ := 300

/-- The time stamp is of the wall clock, the end of monotonic time. -/
structure CacheEntry where
  features : FeatureVector
  timestamp : ℚ
  expires : ℚ
  deriving DecidableEq, Repr

abbrev Cache := String → Option CacheEntry

/-- Both clocks at one moment. -/
structure Clock where
  now : ℚ
  monotonic : ℚ
  deriving DecidableEq, Repr

def getCached (clock : Clock) (h3_cell : String) (cache : Cache) : Option CacheEntry :=
  (cache h3_cell).filter fun entry => clock.monotonic < entry.expires

def setCached (clock : Clock) (h3_cell : String) (features : FeatureVector) (cache : Cache) :
    Cache :=
  Function.update cache h3_cell
    (some ⟨features, clock.now, clock.monotonic + CACHE_TTL_SECONDS⟩)

def cachedAnswer (clock : Clock) (cached : CacheEntry) : FeatureVector :=
  { cached.features with
    feature_age_seconds := roundTo 2 (max 0 (clock.now - cached.timestamp))
    feature_sources := cached.features.feature_sources ++ [("cache", "memory")] }

/-- The start of `get_features`: `none` when the sources must be asked. -/
def lookupFeatures (validate_h3_cell : String → Bool) (clock : Clock) (h3_cell : String)
    (cache : Cache) : Option (Except FeatureError FeatureVector) :=
  if validate_h3_cell h3_cell = false then some (.error (.invalidCell h3_cell))
  else (getCached clock h3_cell cache).map fun cached => .ok (cachedAnswer clock cached)

/-- `get_features`, asked at one moment and answered at another where the sources are needed. -/
def getFeatures (STRICT_REALTIME : Bool) (h3_to_latlng : String → ℚ × ℚ)
    (validate_h3_cell : String → Bool) (asked made : Clock) (h3_cell : String) (fetched : Fetched)
    (cache : Cache) : Except FeatureError FeatureVector × Cache :=
  match lookupFeatures validate_h3_cell asked h3_cell cache with
  | some answer => (answer, cache)
  | none =>
      match computeFeatures STRICT_REALTIME h3_to_latlng h3_cell made.now fetched with
      | .error e => (.error e, cache)
      | .ok features => (.ok features, setCached made h3_cell features cache)

/-- What moves the cache: a request whose sources have answered, and the loss of an entry to
others. -/
inductive FeatureEvent where
  | complete (clock : Clock) (h3_cell : String) (fetched : Fetched)
  | evict (h3_cell : String)
  deriving DecidableEq, Repr

def Cache.step (STRICT_REALTIME : Bool) (h3_to_latlng : String → ℚ × ℚ) (cache : Cache) :
    FeatureEvent → Cache
  | .complete clock h3_cell fetched =>
      match computeFeatures STRICT_REALTIME h3_to_latlng h3_cell clock.now fetched with
      | .error _ => cache
      | .ok features => setCached clock h3_cell features cache
  | .evict h3_cell => Function.update cache h3_cell none

end Aegis.FeatureService
