import Aegis.Model.Coalescing
import Aegis.Verification.Zones.Coalescing
import Mathlib.Tactic.NormNum

/-! # Whose answer a call gets

The key of an answer leaves the platform out, which decides the coverage where the request does not
give one. Answers under one key agree exactly where the coverage does. -/

namespace Aegis.PipelineService

open Run PricingService RiskService

/-! ## What the platform decides -/

section Platform

variable (platform : Option String)

/-- A payload that the route takes has one premium for one coverage. -/
theorem getPricing_platform (up : Bool) (price_model : Option (ℚ → ℚ → ℚ → ℚ → Option ℚ))
    {payload : PricingPayload}
    (h : Accepted payload → resolveCt payload.platform payload.Ct = resolveCt platform payload.Ct) :
    getPricing up price_model { payload with platform } = getPricing up price_model payload := by
  by_cases hpayload : Accepted payload
  · have hpremium : unclippedPremium price_model { payload with platform } =
        unclippedPremium price_model payload := by
      simp only [unclippedPremium, h hpayload]
    simp only [getPricing, calculatePremium, hpremium]
    rfl
  · have hpayload' : ¬Accepted { payload with platform } := hpayload
    simp only [getPricing, hpayload, hpayload', and_false, if_false]

/-- The rest of an execution does not look at the platform. -/
theorem executePipelineCore_platform {cfg : Config} {io : PipelineIo} {request : PipelineRequest}
    {h3_cell : String} {s : PipelineState}
    (h : ∀ features Lf, io.pricing { pricingPayload request features Lf with platform } =
      io.pricing (pricingPayload request features Lf)) :
    executePipelineCore cfg io { request with platform } h3_cell s =
      executePipelineCore cfg io request h3_cell s := by
  have hprice : ∀ features (a : Assessment) breaker,
      pricePremium cfg io { request with platform }
          (pricingPayload { request with platform } features a.Lf) a breaker =
        pricePremium cfg io request (pricingPayload request features a.Lf) a breaker := by
    intro features a breaker
    have hpayload : pricingPayload { request with platform } features a.Lf =
        { pricingPayload request features a.Lf with platform } := rfl
    simp only [pricePremium, hpayload, h]
    rfl
  have hscore : ∀ features, scoreAndWrite cfg io { request with platform } h3_cell features s =
      scoreAndWrite cfg io request h3_cell features s := by
    intro features
    simp only [scoreAndWrite, hprice]
  simp only [executePipelineCore, hscore]

end Platform

/-! ## The law -/

section Law

variable {τ : Type} [DecidableEq τ]

/-- Calls with the same earnings, coverage and margin. -/
def requestOf (Ew : ℚ) (Ct : Option ℚ) (M : ℚ) (platform : τ → Option String) (t : τ) :
    PipelineRequest where
  Ew := Ew
  Ct := Ct
  M := M
  platform := platform t

/-- The answer agrees with the one that a run on its own would give. -/
def Computed (outcome : Outcome Refusal) (response : PipelineResponse) : Prop :=
  ∃ own, (outcome = .result own ∨ outcome = .timeout (.ok own)) ∧ response.Lf = own.Lf ∧
    response.zone_state = own.zone_state ∧ response.premium = own.premium

/-- Whoever has an answer has the one it would have computed. -/
def AsComputed (e : Surroundings) (request : τ → PipelineRequest) (s : SharedRun τ) : Prop :=
  ∀ t response, s.calls.phase t = .left (.returned response) →
    Computed (freshOutcome e (request t)) response

/-- The pricing route refuses the request, or the coverage of all platforms is the same. -/
def OneCoverage (Ew : ℚ) (Ct : Option ℚ) (M : ℚ) (platform : τ → Option String) : Prop :=
  (0 ≤ Ew ∧ (0 ≤ M ∧ M ≤ 1) ∧ ∀ ct ∈ Ct, 0 ≤ ct ∧ ct ≤ 1) →
    ∀ t t', resolveCt (platform t) Ct = resolveCt (platform t') Ct

end Law

/-! ## Where the answers come from -/

section Handing

variable {τ : Type} [DecidableEq τ] {Good : PipelineResponse → Prop}

omit [DecidableEq τ] in
/-- Every answer that waits in a future or was returned is a good one. -/
structure Handed (Good : PipelineResponse → Prop) (s : Coalescer τ Refusal) : Prop where
  future : ∀ t response, s.future t = some (.result response) → Good response
  left : ∀ t response, s.phase t = .left (.returned response) → Good response

variable {s : Coalescer τ Refusal} {t : τ}

theorem Handed.goTo (hs : Handed Good s) {phase : RunPhase τ Refusal}
    (hphase : ∀ response, phase = .left (.returned response) → Good response) :
    Handed Good (s.goTo t phase) where
  future := hs.future
  left := by
    intro t' response h
    by_cases heq : t' = t
    · subst heq
      rw [s.goTo_phase_self] at h
      exact hphase response h
    · rw [s.goTo_phase_of_ne t phase heq] at h
      exact hs.left t' response h

theorem Handed.setFuture (hs : Handed Good s) {fut : Future PipelineResponse Refusal}
    (hfut : ∀ response, fut = .result response → Good response) :
    Handed Good (s.setFuture t fut) where
  future := by
    intro t' response h
    by_cases heq : t' = t
    · subst heq
      rw [s.setFuture_future_self] at h
      exact hfut response (Option.some.inj h)
    · have hother : (s.setFuture t fut).future t' = s.future t' := Function.update_of_ne heq ..
      exact hs.future t' response (hother ▸ h)
  left := hs.left

omit [DecidableEq τ] in
theorem Handed.setInflight (hs : Handed Good s) (inflight : Option τ) :
    Handed Good { s with inflight } :=
  ⟨hs.future, hs.left⟩

theorem Handed.lead (hs : Handed Good s) : Handed Good (s.lead t) :=
  ((hs.setFuture (by simp)).goTo (by simp)).setInflight _

theorem Handed.await (hs : Handed Good s) (creator : τ) : Handed Good (s.await t creator) := by
  unfold Coalescer.await
  split
  · exact hs.goTo (by simp)
  · exact hs.goTo (by simp)
  · rename_i response hfut
    refine hs.goTo fun answer h => ?_
    simp only [RunPhase.left.injEq, Exit.returned.injEq] at h
    subst h
    exact hs.future creator response hfut
  · exact hs.lead
  · exact hs.goTo (by simp)

theorem Handed.start (hs : Handed Good s) : Handed Good (s.start t) := by
  unfold Coalescer.start
  split
  · exact hs.await _
  · exact hs.lead
  · exact hs

theorem Handed.resume (hs : Handed Good s) : Handed Good (s.resume t) := by
  unfold Coalescer.resume
  split
  · exact hs.await _
  · exact hs.goTo (by simp)
  · exact hs

theorem Handed.cancel (hs : Handed Good s) : Handed Good (s.cancel t) := by
  unfold Coalescer.cancel
  split
  · exact hs.goTo (by simp)
  · split
    · refine hs.setFuture fun response h => ?_
      cases h
    · exact hs.goTo (by simp)
  · exact hs

omit [DecidableEq τ] in
/-- A leader hands on the answer it returns. -/
theorem complete_good {outcome : Outcome Refusal} {fut : Future PipelineResponse Refusal}
    (houtcome : ∀ response, outcome = .result response ∨ outcome = .timeout (.ok response) →
      Good response) (hfut : ∀ response, fut = .result response → Good response) :
    (∀ response, (complete outcome fut).1 = .result response → Good response) ∧
      ∀ response, (complete outcome fut).2 = .returned response → Good response := by
  cases outcome with
  | result answer =>
      have hanswer : Good answer := houtcome answer (.inl rfl)
      cases fut <;> simp_all [complete, Future.setResult]
  | timeout fallback =>
      cases fallback with
      | ok answer =>
          have hanswer : Good answer := houtcome answer (.inr rfl)
          cases fut <;> simp_all [complete, Future.setResult]
      | error refusal => exact ⟨hfut, by simp [complete]⟩
  | failed refusal => cases fut <;> simp_all [complete, Future.setException]
  | cancelled => exact ⟨hfut, by simp [complete]⟩

theorem Handed.finish (hs : Handed Good s) {outcome : Outcome Refusal}
    (houtcome : ∀ response, outcome = .result response ∨ outcome = .timeout (.ok response) →
      Good response) : Handed Good (s.finish t outcome) := by
  unfold Coalescer.finish
  split
  · rename_i fut hphase hfut
    obtain ⟨hfuture, hexit⟩ :=
      complete_good houtcome fun response (h : fut = .result response) =>
        hs.future t response (h ▸ hfut)
    refine ((hs.setFuture hfuture).goTo ?_).setInflight _
    rintro response h
    exact hexit response (RunPhase.left.inj h)
  · exact hs

end Handing

/-- Whatever is stored or handed on is the answer of one outcome. -/
structure From {τ : Type} (key : ShareKey) (outcome : Outcome Refusal) (s : SharedRun τ) :
    Prop where
  cached : ∀ response, s.cache key = some response → outcome = .result response
  handed : Handed (fun response => outcome = .result response ∨ outcome = .timeout (.ok response))
    s.calls

section Steps

variable {τ : Type} [DecidableEq τ] {e : Surroundings} {request : τ → PipelineRequest}
  {outcome : Outcome Refusal} {key : ShareKey}

theorem awaitExecution_hit {r : PipelineRequest} {cache : PipelineCache}
    {response : PipelineResponse}
    (hhit : cache (shareKey r e.h3_cell) = some response) :
    awaitExecution e r cache = (.result response, cache) := by
  simp [awaitExecution, executeCached, executePipelineCore, hhit]

/-- A result is there for the next execution. -/
theorem awaitExecution_stored {r : PipelineRequest} {cache : PipelineCache}
    {response : PipelineResponse} (h : (awaitExecution e r cache).1 = .result response) :
    (awaitExecution e r cache).2 (shareKey r e.h3_cell) = some response := by
  cases hhit : cache (shareKey r e.h3_cell) with
  | some answer =>
      rw [awaitExecution_hit hhit] at h ⊢
      exact hhit.trans (congrArg some (Outcome.result.inj h))
  | none =>
      unfold awaitExecution at h ⊢
      split at h
      · cases h
      · rename_i hlate
        rw [if_neg hlate]
        simp only [executeCached, hhit] at h ⊢
        cases hrun :
          (executePipelineCore e.cfg { e.io with cached := none } r e.h3_cell e.state).1 with
        | ok answer =>
            rw [hrun] at h
            simp only [Function.update_self, Outcome.result.inj h]
        | error refusal =>
            rw [hrun] at h
            cases h

/-- An execution that finds the outcome's own answer in the cache, or none, ends as the outcome. -/
theorem awaitExecution_of_cached {r : PipelineRequest} {cache : PipelineCache}
    (hkey : shareKey r e.h3_cell = key) (houtcome : freshOutcome e r = outcome)
    (hcache : ∀ response, cache key = some response → outcome = .result response) :
    (awaitExecution e r cache).1 = outcome ∧
      ∀ response, (awaitExecution e r cache).2 key = some response →
        outcome = .result response := by
  subst hkey
  cases hhit : cache (shareKey r e.h3_cell) with
  | some response =>
      rw [awaitExecution_hit hhit]
      exact ⟨(hcache response hhit).symm, fun answer h => hcache answer h⟩
  | none =>
      unfold freshOutcome awaitExecution at houtcome
      unfold awaitExecution
      by_cases hlate : e.late = true
      · rw [if_pos ⟨hlate, rfl⟩] at houtcome
        rw [if_pos ⟨hlate, hhit⟩]
        exact ⟨houtcome, fun response h => hcache response h⟩
      · rw [if_neg (by simp [hlate])] at houtcome
        rw [if_neg (by simp [hlate])]
        simp only [executeCached, hhit] at houtcome ⊢
        cases hrun :
          (executePipelineCore e.cfg { e.io with cached := none } r e.h3_cell e.state).1 with
        | ok response =>
            rw [hrun] at houtcome
            refine ⟨houtcome, fun answer h => ?_⟩
            simp only [Function.update_self] at h
            obtain rfl := Option.some.inj h
            exact houtcome.symm
        | error refusal =>
            rw [hrun] at houtcome
            refine ⟨houtcome, fun answer h => ?_⟩
            simp only at h
            rw [hhit] at h
            cases h

theorem From.step (hkey : ∀ t, shareKey (request t) e.h3_cell = key)
    (houtcome : ∀ t, freshOutcome e (request t) = outcome) (s : SharedRun τ) (event : SharedEvent τ)
    (hs : From key outcome s) : From key outcome (s.step e request event) := by
  cases event with
  | start t => exact ⟨hs.cached, hs.handed.start⟩
  | resume t => exact ⟨hs.cached, hs.handed.resume⟩
  | cancel t => exact ⟨hs.cached, hs.handed.cancel⟩
  | interrupt t =>
      have hnothing : ∀ response, (.cancelled : Outcome Refusal) = .result response ∨
          (.cancelled : Outcome Refusal) = .timeout (.ok response) → outcome = .result response ∨
            outcome = .timeout (.ok response) := by simp
      exact ⟨hs.cached, hs.handed.finish hnothing⟩
  | finish t =>
      obtain ⟨hown, hcached⟩ := awaitExecution_of_cached (hkey t) (houtcome t) hs.cached
      simp only [SharedRun.step]
      split
      · refine ⟨hcached, hs.handed.finish fun response h => ?_⟩
        rwa [hown] at h
      · exact hs
  | expire other =>
      refine ⟨fun response h => hs.cached response ?_, hs.handed⟩
      by_cases heq : key = other
      · subst heq
        simp [SharedRun.step] at h
      · simpa [SharedRun.step, Function.update_of_ne heq] using h

omit [DecidableEq τ] in
theorem From.init : From key outcome ({} : SharedRun τ) :=
  ⟨by simp, by simp, by simp⟩

/-- Calls of one outcome share its answer. -/
theorem asComputed_of_outcome (hkey : ∀ t, shareKey (request t) e.h3_cell = key)
    (houtcome : ∀ t, freshOutcome e (request t) = outcome) (events : List (SharedEvent τ)) :
    AsComputed e request (final (SharedRun.step e request) {} events) := by
  intro t response hleft
  have hrun : From key outcome (final (SharedRun.step e request) {} events) :=
    (always_of_step
      (fun s event hs (_ : True) => From.step hkey houtcome s event hs) From.init
      (along_of_forall (fun _ _ => trivial) _)).last
  exact ⟨response, houtcome t ▸ hrun.handed.left t response hleft, rfl, rfl, rfl⟩

end Steps

/-! ## Two coverages, two premiums -/

namespace Priced

def features : FeatureResponse where
  rainfall := 0
  temperature := 25
  aqi := 50
  active_orders := 20
  active_riders := 10
  demand_ratio := 1
  sla_breach_rate := 0
  avg_delivery_delay_min := 0
  civic_alert := false
  is_fallback := true

/-- A model that asks for more at the coverage `ct`. -/
def priceModel (ct : ℚ) : Option (ℚ → ℚ → ℚ → ℚ → Option ℚ) :=
  some fun _ _ Ct _ => some (if Ct = ct then 100 else 60)

/-- A calm zone whose services all answer. -/
def surroundings (ct : ℚ) : Surroundings where
  io :=
    { now := 0, features := some features, risk := fun _ => some ⟨1 / 10, "LOW"⟩
      pricing := getPricing true (priceModel ct) }
  h3_cell := "8860145b5dfffff"

end Priced

section Separation

open Priced

variable {Ew M ct : ℚ} {Ct : Option ℚ} {platform : Option String}

theorem calculatePremium_priceModel (payload : PricingPayload) (hdemand : payload.demand_ratio = 1)
    (hvolatility : payload.zone_volatility = 0) :
    (calculatePremium (priceModel ct) payload).premium =
      if resolveCt payload.platform payload.Ct = ct then 100 else 60 := by
  have hmultiplier : zoneMultiplier 1 0 = 1 := by norm_num [zoneMultiplier, clamp]
  simp only [calculatePremium, unclippedPremium, priceModel, Option.bind_some, hdemand, hvolatility,
    hmultiplier, mul_one]
  split
  · have hclip : softClip 100 = 100 := by
      norm_num [softClip, clamp, PREMIUM_MIN_CLIPPING, PREMIUM_MAX_CLIPPING]
    rw [hclip]
    exact_mod_cast HalfEven.roundTo_natCast 2 (100 : ℕ) (K := ℚ)
  · have hclip : softClip 60 = 60 := by
      norm_num [softClip, clamp, PREMIUM_MIN_CLIPPING, PREMIUM_MAX_CLIPPING]
    rw [hclip]
    exact_mod_cast HalfEven.roundTo_natCast 2 (60 : ℕ) (K := ℚ)

theorem freshOutcome_of_ok {e : Surroundings} {request : PipelineRequest}
    {response : PipelineResponse} (hlate : e.late = false)
    (hrun : (executePipelineCore e.cfg { e.io with cached := none } request e.h3_cell e.state).1 =
      .ok response) : freshOutcome e request = .result response := by
  simp only [freshOutcome, awaitExecution, hlate, Bool.false_eq_true, false_and, if_false,
    executeCached, hrun]

theorem scoreAndWrite_premium {cfg : Config} {io : PipelineIo} {request : PipelineRequest}
    {h3_cell : String} {s : PipelineState} {features : FeatureResponse} {a : Assessment}
    {breaker breaker' : CircuitBreaker.Breaker} {premium : ℚ} {reasons : List String}
    (hassess : assessRisk cfg io h3_cell (riskPayload io features) s = (.ok a, breaker))
    (hprice : pricePremium cfg io request (pricingPayload request features a.Lf) a breaker =
      (.ok (premium, reasons), breaker')) :
    ∃ response, (scoreAndWrite cfg io request h3_cell features s).1 = .ok response ∧
      response.premium = (deriveZone features (isGridlock io) a.Lf premium).2.1 := by
  simp only [scoreAndWrite, hassess, hprice]
  exact ⟨_, rfl, rfl⟩

/-- The premium that the service computes for the coverage gets through. -/
theorem freshOutcome_priced (platform : Option String) (ct : ℚ)
    (h : 0 ≤ Ew ∧ (0 ≤ M ∧ M ≤ 1) ∧ ∀ ct ∈ Ct, 0 ≤ ct ∧ ct ≤ 1) :
    ∃ response, freshOutcome (surroundings ct) ⟨Ew, Ct, M, platform⟩ = .result response ∧
      response.premium = if resolveCt platform Ct = ct then 100 else 60 := by
  obtain ⟨hEw, hM, hCt⟩ := h
  have haccepted : Accepted (pricingPayload ⟨Ew, Ct, M, platform⟩ features (1 / 10)) := by
    refine ⟨hEw, ?_, hM, hCt, ?_, ?_⟩ <;> norm_num [pricingPayload, features, clamp]
  have hpremium : getPricing true (priceModel ct)
      (pricingPayload ⟨Ew, Ct, M, platform⟩ features (1 / 10)) =
        some (if resolveCt platform Ct = ct then 100 else 60) := by
    rw [getPricing, if_pos ⟨rfl, haccepted⟩, calculatePremium_priceModel]
    · rfl
    · norm_num [pricingPayload, features, clamp]
    · norm_num [pricingPayload, features, clamp]
  obtain ⟨p, hp⟩ : ∃ p, p = if resolveCt platform Ct = ct then (100 : ℚ) else 60 := ⟨_, rfl⟩
  have hclamp : clamp p MIN_PREMIUM MAX_PREMIUM = p := by
    subst hp
    split <;> norm_num [clamp, MIN_PREMIUM, MAX_PREMIUM]
  rw [← hp] at hpremium ⊢
  have hprice : pricePremium {} (surroundings ct).io ⟨Ew, Ct, M, platform⟩
      (pricingPayload ⟨Ew, Ct, M, platform⟩ features (1 / 10)) ⟨1 / 10, "LOW", false, []⟩ {} =
        (.ok (p, []), {}) := by
    simp only [pricePremium, surroundings, hpremium]
    rfl
  have hzone : (deriveZone features false (1 / 10) p).2.1 = p := by
    have hcalm : checkParametricOverrides features false = none := by
      norm_num [checkParametricOverrides, features]
    rw [deriveZone, hcalm]
    exact hclamp
  have hadmit : admitFeatures {} features = .ok () := by norm_num [admitFeatures, features]
  have hassess : assessRisk {} (surroundings ct).io "8860145b5dfffff"
      (riskPayload (surroundings ct).io features) {} = (.ok ⟨1 / 10, "LOW", false, []⟩, {}) := rfl
  obtain ⟨response, hresponse, hpremium⟩ := scoreAndWrite_premium hassess hprice
  refine ⟨response, ?_, hpremium.trans hzone⟩
  have hrun : (executePipelineCore {} { (surroundings ct).io with cached := none }
      ⟨Ew, Ct, M, platform⟩ "8860145b5dfffff" {}).1 = .ok response := by
    rw [← hresponse, executePipelineCore]
    simp only [surroundings, hadmit]
  exact freshOutcome_of_ok rfl hrun

end Separation

section Exact

open Priced

variable {τ : Type} [DecidableEq τ] {Ew M : ℚ} {Ct : Option ℚ} {platform : τ → Option String}

omit [DecidableEq τ] in
/-- Where no two coverages differ, a run on its own ends the same for all calls. -/
theorem OneCoverage.freshOutcome (h : OneCoverage Ew Ct M platform) {e : Surroundings} {up : Bool}
    {price_model : Option (ℚ → ℚ → ℚ → ℚ → Option ℚ)}
    (hpricing : e.io.pricing = getPricing up price_model) (t t' : τ) :
    PipelineService.freshOutcome e (requestOf Ew Ct M platform t) =
      PipelineService.freshOutcome e (requestOf Ew Ct M platform t') := by
  have hplatform : requestOf Ew Ct M platform t =
      { requestOf Ew Ct M platform t' with platform := platform t } := rfl
  have hrun : ∀ cached, executePipelineCore e.cfg { e.io with cached }
      (requestOf Ew Ct M platform t) e.h3_cell e.state =
        executePipelineCore e.cfg { e.io with cached } (requestOf Ew Ct M platform t') e.h3_cell
          e.state := by
    intro cached
    rw [hplatform]
    refine executePipelineCore_platform (platform t) fun features Lf => ?_
    rw [hpricing]
    refine getPricing_platform (platform t) up price_model fun haccepted => ?_
    obtain ⟨hEw, -, hM, hCt, -⟩ := haccepted
    exact h ⟨hEw, hM, hCt⟩ t' t
  simp only [PipelineService.freshOutcome, awaitExecution, executeCached, hrun]
  rfl

/-- A call that nobody else shares. -/
theorem final_alone {e : Surroundings} {request : τ → PipelineRequest} {s : SharedRun τ} {t : τ}
    (hidle : s.calls.phase t = .idle) (hfree : s.calls.inflight = none) :
    final (SharedRun.step e request) s [.start t, .finish t] =
      { calls := (s.calls.lead t).ended t
          (complete (awaitExecution e (request t) s.cache).1 .pending).1
          (complete (awaitExecution e (request t) s.cache).1 .pending).2
        cache := (awaitExecution e (request t) s.cache).2 } := by
  have hstart : s.step e request (.start t) = { s with calls := s.calls.lead t } := by
    simp only [SharedRun.step, Coalescer.start, hidle, hfree]
  rw [final_cons, final_cons, final_nil, hstart]
  simp only [SharedRun.step, Coalescer.finish,
    Coalescer.lead_phase_self, Coalescer.lead_future_self, Coalescer.ended]

/-- A call that starts after another has ended is served from the cache. -/
theorem final_cached {e : Surroundings} {request : τ → PipelineRequest} {t t' : τ} (ht : t ≠ t')
    (hkey : shareKey (request t') e.h3_cell = shareKey (request t) e.h3_cell)
    {response : PipelineResponse}
    (hfresh : PipelineService.freshOutcome e (request t) = .result response) :
    (final (SharedRun.step e request) {}
      ([.start t, .finish t] ++ [.start t', .finish t'])).calls.phase t' =
        .left (.returned response) := by
  rw [PipelineService.freshOutcome] at hfresh
  have hhit := awaitExecution_hit (r := request t') (hkey ▸ awaitExecution_stored hfresh)
  have hidle : ((({} : Coalescer τ Refusal).lead t).ended t
      (complete (.result response) .pending).1 (complete (.result response) .pending).2).phase t' =
        .idle := by
    rw [Coalescer.ended_phase_of_ne _ _ _ _ (Ne.symm ht),
      Coalescer.lead_phase_of_ne _ _ (Ne.symm ht)]
  rw [final_append, final_alone (s := {}) rfl rfl, hfresh, final_alone hidle rfl, hhit]
  exact Coalescer.ended_phase_self ..

/-- Answers are those that the calls would have computed, whatever the surroundings, the model and
the order of events, if and only if the platforms stand for one coverage. -/
theorem asComputed_iff_oneCoverage :
    (∀ e up price_model, e.io.pricing = getPricing up price_model → ∀ events : List (SharedEvent τ),
      AsComputed e (requestOf Ew Ct M platform)
        (final (SharedRun.step e (requestOf Ew Ct M platform)) {} events)) ↔
      OneCoverage Ew Ct M platform := by
  constructor
  · intro h hbounds t t'
    by_contra hne
    have ht : t ≠ t' := by
      rintro rfl
      exact hne rfl
    obtain ⟨response, hresponse, hpremium⟩ :=
      freshOutcome_priced (platform t) (resolveCt (platform t) Ct) hbounds
    obtain ⟨own, hown, hpremium'⟩ :=
      freshOutcome_priced (platform t') (resolveCt (platform t) Ct) hbounds
    rw [if_pos rfl] at hpremium
    rw [if_neg (Ne.symm hne)] at hpremium'
    obtain ⟨own', hown', -, -, heq⟩ := h (surroundings (resolveCt (platform t) Ct)) true
      (priceModel (resolveCt (platform t) Ct)) rfl
        ([.start t, .finish t] ++ [.start t', .finish t'])
      t' response (final_cached ht rfl hresponse)
    have hsame : own' = own := by
      rw [requestOf, hown] at hown'
      simpa [eq_comm] using hown'
    rw [hsame, hpremium, hpremium'] at heq
    norm_num at heq
  · intro h e up price_model hpricing events
    rcases isEmpty_or_nonempty τ with hempty | ⟨⟨t⟩⟩
    · exact fun t => hempty.elim t
    · have hkey : ∀ t, shareKey (requestOf Ew Ct M platform t) e.h3_cell = ⟨e.h3_cell, Ew, Ct, M⟩ :=
        fun _ => rfl
      exact asComputed_of_outcome hkey (fun t' => h.freshOutcome hpricing t' t) events

end Exact

namespace Priced

/-- A dangerous zone, priced by the formula. -/
def dangerous : Surroundings where
  io :=
    { now := 0, features := some features, risk := fun _ => some ⟨7 / 10, "HIGH"⟩
      pricing := getPricing true none }
  h3_cell := "8860145b5dfffff"

def riders : Bool → PipelineRequest :=
  requestOf 8000 none (1 / 10) fun second => if second then some "blinkit" else some "zepto"

def answer (premium : ℚ) : PipelineResponse where
  h3_cell := "8860145b5dfffff"
  features := features
  Lf := 7 / 10
  risk_level := "HIGH"
  zone_state := "DANGEROUS"
  Ew := 8000
  Ct := 6 / 10
  premium := premium
  is_fallback := true
  fallback_reasons := ["feature_fallbacks"]

theorem freshOutcome_zepto :
    freshOutcome dangerous (riders false) = .result (answer (5544 / 100)) := by
  decide +kernel

theorem freshOutcome_blinkit :
    freshOutcome dangerous (riders true) = .result (answer (6006 / 100)) := by
  decide +kernel

end Priced

open Priced in
/-- The second rider gets the premium of the first one's platform. -/
theorem not_asComputed :
    dangerous.io.pricing = getPricing true none ∧
      (final (SharedRun.step dangerous riders) {}
        [.start false, .finish false, .start true, .finish true]).calls.phase true =
          .left (.returned (answer (5544 / 100))) ∧
      freshOutcome dangerous (riders true) = .result (answer (6006 / 100)) ∧
      ¬AsComputed dangerous riders (final (SharedRun.step dangerous riders) {}
        [.start false, .finish false, .start true, .finish true]) := by
  have hserved := final_cached Bool.false_ne_true rfl freshOutcome_zepto
  refine ⟨rfl, hserved, freshOutcome_blinkit, fun h => ?_⟩
  obtain ⟨own, hown, -, -, hpremium⟩ := h true _ hserved
  rw [freshOutcome_blinkit] at hown
  obtain rfl : answer (6006 / 100) = own := by simpa using hown
  norm_num [answer] at hpremium

end Aegis.PipelineService
