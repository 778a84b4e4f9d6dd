import Aegis.Library.Future
import Aegis.Model.Features
import Aegis.Model.Pricing
import Mathlib.Data.NNRat.Defs
import Mathlib.Logic.Function.Basic

/-! # Coalesced executions

`run_pipeline` for calls with one coalescing key. A call is a task, whose steps are what it does
between two awaits. It creates one future at most, so the future goes by the name of its creator. -/

namespace Aegis.PipelineService

/-- How `wait_for` ends for the leader: at the deadline with the fallback or the error met in
building it. -/
inductive Outcome (ε : Type) where
  | result (response : PipelineResponse)
  | timeout (fallback : Except ε PipelineResponse)
  | failed (error : ε)
  | cancelled
  deriving DecidableEq

/-- How a call leaves. -/
inductive Exit (ε : Type) where
  | returned (response : PipelineResponse)
  | raised (error : ε)
  | InvalidStateError
  | CancelledError
  deriving DecidableEq

/-- `mustCancel` is the cancellation that a waiter will meet when it wakes up. -/
inductive RunPhase (τ ε : Type) where
  | idle
  | waiting (creator : τ) (mustCancel : Bool)
  | leading
  | left (exit : Exit ε)
  deriving DecidableEq

/-- A `resume` before the future is done and a `finish` of a call that does not lead do not
happen. A leader meets its cancellation in `finish`. -/
inductive RunEvent (τ ε : Type) where
  | start (call : τ)
  | resume (call : τ)
  | finish (call : τ) (outcome : Outcome ε)
  | cancel (call : τ)
  deriving DecidableEq

def RunEvent.call {τ ε : Type} : RunEvent τ ε → τ
  | start call | resume call | finish call _ | cancel call => call

/-- The entry of the key, and the futures that were created for it. -/
structure Coalescer (τ ε : Type) where
  inflight : Option τ := none
  future : τ → Option (Future PipelineResponse ε) := fun _ => none
  phase : τ → RunPhase τ ε := fun _ => .idle

/-- The leader's way out of its `try`. -/
def complete {ε : Type} (outcome : Outcome ε) (fut : Future PipelineResponse ε) :
    Future PipelineResponse ε × Exit ε :=
  match outcome with
  | .result response =>
      match fut.setResult response with
      | some fut => (fut, .returned response)
      -- caught by `except Exception`, where `set_exception` raises it again
      | none => (fut, .InvalidStateError)
  | .timeout (.ok response) =>
      match fut.setResult response with
      | some fut => (fut, .returned response)
      | none => (fut, .InvalidStateError)
  | .timeout (.error error) => (fut, .raised error)
  | .failed error =>
      match fut.setException error with
      | some fut => (fut, .raised error)
      | none => (fut, .InvalidStateError)
  -- not an `Exception`
  | .cancelled => (fut, .CancelledError)

namespace Coalescer

variable {τ ε : Type} [DecidableEq τ] (s : Coalescer τ ε) (t : τ)

def goTo (phase : RunPhase τ ε) : Coalescer τ ε :=
  { s with phase := Function.update s.phase t phase }

def setFuture (fut : Future PipelineResponse ε) : Coalescer τ ε :=
  { s with future := Function.update s.future t (some fut) }

def leave (exit : Exit ε) : Coalescer τ ε := s.goTo t (.left exit)

/-- The entry is written whether or not there is one. -/
def lead : Coalescer τ ε :=
  { (s.setFuture t .pending).goTo t .leading with inflight := some t }

/-- `await _inflight[coalesce_key]`; after a failure the waiter runs the pipeline itself. -/
def await (creator : τ) : Coalescer τ ε :=
  match s.future creator with
  | none | some .pending => s.goTo t (.waiting creator false)
  | some (.result response) => s.leave t (.returned response)
  | some (.exception _) => s.lead t
  | some .cancelled => s.leave t .CancelledError

def start : Coalescer τ ε :=
  match s.phase t, s.inflight with
  | .idle, some creator => s.await t creator
  | .idle, none => s.lead t
  | _, _ => s

def resume : Coalescer τ ε :=
  match s.phase t with
  | .waiting creator false => s.await t creator
  | .waiting _ true => s.leave t .CancelledError
  | _ => s

/-- `finally` removes the entry, whoever's it is. -/
def finish (outcome : Outcome ε) : Coalescer τ ε :=
  match s.phase t, s.future t with
  | .leading, some fut =>
      let (fut, exit) := complete outcome fut
      { (s.setFuture t fut).leave t exit with inflight := none }
  | _, _ => s

/-- Cancelling a task cancels the future it awaits, unless that is done already. -/
def cancel : Coalescer τ ε :=
  match s.phase t with
  | .idle => s.leave t .CancelledError
  | .waiting creator _ =>
      match s.future creator with
      | some .pending => s.setFuture creator (Future.cancel .pending)
      | _ => s.goTo t (.waiting creator true)
  | _ => s

def step (event : RunEvent τ ε) : Coalescer τ ε :=
  match event with
  | .start t => s.start t
  | .resume t => s.resume t
  | .finish t outcome => s.finish t outcome
  | .cancel t => s.cancel t

end Coalescer

end Aegis.PipelineService

/-! ## Shared answers

The two keys under which `pipeline_service.py` shares an answer, the pipeline cache with them,
and the pricing route behind it. -/

namespace Aegis.PricingService

open PipelineService (PricingPayload)

/-- The bounds of `PricingRequest`. -/
def Accepted (request : PricingPayload) : Prop :=
  0 ≤ request.Ew ∧ (0 ≤ request.Lf ∧ request.Lf ≤ 1) ∧ (0 ≤ request.M ∧ request.M ≤ 1) ∧
    (∀ Ct ∈ request.Ct, 0 ≤ Ct ∧ Ct ≤ 1) ∧
    (0 ≤ request.demand_ratio ∧ request.demand_ratio ≤ 5) ∧
    0 ≤ request.zone_volatility ∧ request.zone_volatility ≤ 1

instance (request : PricingPayload) : Decidable (Accepted request) :=
  inferInstanceAs (Decidable (_ ∧ _ ∧ _ ∧ (∀ Ct ∈ _, _) ∧ _ ∧ _ ∧ _))

/-- `POST /pricing`, which answers `422` outside of the bounds. -/
def getPricing (up : Bool) (price_model : Option (ℚ → ℚ → ℚ → ℚ → Option ℚ))
    (request : PricingPayload) : Option ℚ :=
  if up ∧ Accepted request then some (calculatePremium price_model request).premium else none

end Aegis.PricingService

namespace Aegis.PipelineService

open RedisState

/-- The parts of `cache_key` and of `coalesce_key`, which are the same. -/
structure ShareKey where
  h3_cell : String
  Ew : ℚ
  Ct : Option ℚ
  M : ℚ
  deriving DecidableEq, Repr

def shareKey (request : PipelineRequest) (h3_cell : String) : ShareKey where
  h3_cell := h3_cell
  Ew := request.Ew
  Ct := request.Ct
  M := request.M

abbrev PipelineCache := ShareKey → Option PipelineResponse

/-- What the executions of one cell meet. The pipeline is `late` when it does not end before its
deadline. -/
structure Surroundings where
  cfg : Config := {}
  io : PipelineIo
  h3_cell : String
  state : PipelineState := {}
  late : Bool := false

section Execution

variable (e : Surroundings) (request : PipelineRequest)

/-- `_execute_pipeline_core` with the pipeline cache around it. -/
def executeCached (cache : PipelineCache) : Except Refusal PipelineResponse × PipelineCache :=
  let key := shareKey request e.h3_cell
  let outcome := (executePipelineCore e.cfg { e.io with cached := cache key } request e.h3_cell
    e.state).1
  match cache key, outcome with
  | none, .ok response => (outcome, Function.update cache key (some response))
  | _, _ => (outcome, cache)

/-- How `wait_for` ends for a leader, and the cache it leaves. -/
def awaitExecution (cache : PipelineCache) : Outcome Refusal × PipelineCache :=
  if e.late = true ∧ cache (shareKey request e.h3_cell) = none then
    (.timeout (.ok (timeoutResponse e.io request e.h3_cell e.state.redis)), cache)
  else
    match executeCached e request cache with
    | (.ok response, cache) => (.result response, cache)
    | (.error refusal, cache) => (.failed refusal, cache)

/-- The outcome of a run on its own. -/
def freshOutcome : Outcome Refusal := (awaitExecution e request fun _ => none).1

end Execution

/-! ## Executions behind the feature service -/

/-- The two caches that one execution leaves to the next. -/
structure Caches where
  features : FeatureService.Cache := fun _ => none
  answers : PipelineCache := fun _ => none

/-- What an execution and its feature service meet. What `io` has as its features and as cached
does not count. -/
structure PipelineRun where
  request : PipelineRequest
  h3_cell : String
  asked : FeatureService.Clock
  made : FeatureService.Clock
  fetched : FeatureService.Fetched
  io : PipelineIo
  state : PipelineState := {}
  late : Bool := false

section Runs

variable (STRICT_REALTIME : Bool) (h3_to_latlng : String → ℚ × ℚ)
  (validate_h3_cell : String → Bool)

namespace PipelineRun

variable (r : PipelineRun) (c : Caches)

def getFeatures : Except FeatureService.FeatureError FeatureService.FeatureVector ×
    FeatureService.Cache :=
  FeatureService.getFeatures STRICT_REALTIME h3_to_latlng validate_h3_cell r.asked r.made r.h3_cell
    r.fetched c.features

/-- The surroundings of the execution once the feature service has answered. -/
def surroundings : Surroundings where
  cfg := { STRICT_REALTIME }
  io := { r.io with
    features := (r.getFeatures STRICT_REALTIME h3_to_latlng validate_h3_cell c).1.toOption.map
      FeatureService.FeatureVector.toFeatureResponse }
  h3_cell := r.h3_cell
  state := r.state
  late := r.late

def awaited : Outcome Refusal × PipelineCache :=
  awaitExecution (r.surroundings STRICT_REALTIME h3_to_latlng validate_h3_cell c) r.request
    c.answers

end PipelineRun

/-- What moves the caches: executions, other requests for features, and the end of an answer's time
to live. -/
inductive CacheEvent where
  | run (run : PipelineRun)
  | feature (event : FeatureService.FeatureEvent)
  | expire (key : ShareKey)

/-- Behind a cached answer nothing is asked; what an execution past its deadline has cached is a
request of its own. -/
def Caches.step (c : Caches) : CacheEvent → Caches
  | .run r => {
      features :=
        if (c.answers (shareKey r.request r.h3_cell)).isSome ∨ r.late = true then c.features
        else (r.getFeatures STRICT_REALTIME h3_to_latlng validate_h3_cell c).2
      answers := (r.awaited STRICT_REALTIME h3_to_latlng validate_h3_cell c).2 }
  | .feature event => { c with features := c.features.step STRICT_REALTIME h3_to_latlng event }
  | .expire key => { c with answers := Function.update c.answers key none }

end Runs

/-! ## Calls that share -/

/-- A call that leads ends with what its pipeline gives, unless it is interrupted; `expire` is the
end of the entry's time to live. -/
inductive SharedEvent (τ : Type) where
  | start (call : τ)
  | resume (call : τ)
  | finish (call : τ)
  | interrupt (call : τ)
  | cancel (call : τ)
  | expire (key : ShareKey)
  deriving DecidableEq

structure SharedRun (τ : Type) where
  calls : Coalescer τ Refusal := {}
  cache : PipelineCache := fun _ => none

namespace SharedRun

variable {τ : Type} [DecidableEq τ] (e : Surroundings) (request : τ → PipelineRequest)

/-- Calls under one coalescing key. -/
def step (s : SharedRun τ) (event : SharedEvent τ) : SharedRun τ :=
  match event with
  | .start t => { s with calls := s.calls.start t }
  | .resume t => { s with calls := s.calls.resume t }
  | .finish t =>
      match s.calls.phase t with
      | .leading =>
          let (outcome, cache) := awaitExecution e (request t) s.cache
          { calls := s.calls.finish t outcome, cache }
      | _ => s
  | .interrupt t => { s with calls := s.calls.finish t .cancelled }
  | .cancel t => { s with calls := s.calls.cancel t }
  | .expire key => { s with cache := Function.update s.cache key none }

end SharedRun

end Aegis.PipelineService

/-! ## Overlapping calls through the breaker

Calls are numbered in the order in which they ask. Each asks once and reports at most once,
some time after it was let through. -/

namespace Aegis.CircuitBreaker

inductive CallEvent where
  | request (elapsed : ℚ≥0)
  | success (call : ℕ) (elapsed : ℚ≥0)
  | failure (call : ℕ) (elapsed : ℚ≥0)
  deriving DecidableEq

def CallEvent.elapsed : CallEvent → ℚ≥0
  | request elapsed | success _ elapsed | failure _ elapsed => elapsed

/-- `opened` has the instants of all openings, `openedAfter` the number of calls that had asked
at the last of them; `probes` were let through since and before the breaker has closed. -/
structure Guarded where
  clock : ℚ
  cb : Breaker := {}
  calls : ℕ := 0
  waiting : List ℕ := []
  opened : List ℚ := []
  openedAfter : ℕ := 0
  probes : List ℕ := []

namespace Guarded

def wait (elapsed : ℚ≥0) (s : Guarded) : Guarded := { s with clock := s.clock + elapsed }

def ask (s : Guarded) : Guarded :=
  let (allowed, cb) := allowRequest s.clock s.cb
  { s with
    cb
    calls := s.calls + 1
    waiting := if allowed then s.waiting ++ [s.calls] else s.waiting
    probes := if allowed && s.cb.state ≠ .CLOSED then s.probes ++ [s.calls] else s.probes }

def succeed (call : ℕ) (s : Guarded) : Guarded :=
  if call ∈ s.waiting then
    { s with cb := recordSuccess s.cb, waiting := s.waiting.filter (· ≠ call), probes := [] }
  else s

def fail (call : ℕ) (s : Guarded) : Guarded :=
  if call ∈ s.waiting then
    let cb := recordFailure s.clock s.cb
    let s' := { s with cb, waiting := s.waiting.filter (· ≠ call) }
    if s.cb.state ≠ .OPEN ∧ cb.state = .OPEN then
      { s' with opened := s.clock :: s.opened, openedAfter := s.calls, probes := [] }
    else s'
  else s

def step (s : Guarded) (event : CallEvent) : Guarded :=
  let s := s.wait event.elapsed
  match event with
  | .request _ => s.ask
  | .success call _ => s.succeed call
  | .failure call _ => s.fail call

end Guarded

end Aegis.CircuitBreaker
