import Aegis.Library.Run
import Aegis.Model.Coalescing

/-! # The breaker under overlapping calls

The breaker does not know which call reports. Results of calls that were let through before it
opened count like those of the probe, and a half-open breaker lets everybody through. -/

namespace Aegis.CircuitBreaker

open Run

/-! ## The law -/

/-- Whoever is let through waits for every opening to be over, alone until the breaker opens or
closes again, and only the probe closes it. -/
def Protocol (s : Guarded) : CallEvent → Prop
  | .request elapsed =>
      let now := s.clock + elapsed
      (allowRequest now s.cb).1 = true →
        (∀ t ∈ s.opened, t + CB_RECOVERY_TIMEOUT ≤ now) ∧ (s.cb.state ≠ .CLOSED → s.probes = [])
  | .success call _ => call ∈ s.waiting → s.cb.state ≠ .CLOSED → s.probes = [call]
  | .failure _ _ => True

/-- Nobody asks a half-open breaker, and no call from before the opening succeeds while the
breaker is not closed. -/
def Apart (s : Guarded) : CallEvent → Prop
  | .request _ => s.cb.state ≠ .HALF_OPEN
  | .success call _ => call ∈ s.waiting → s.cb.state ≠ .CLOSED → s.openedAfter ≤ call
  | .failure _ _ => True

/-- What holds as long as nobody gets in the way of the probe. -/
structure Sound (s : Guarded) : Prop where
  past : ∀ t ∈ s.opened, t ≤ s.clock
  recovered : s.cb.state ≠ .OPEN → ∀ t ∈ s.opened, t + CB_RECOVERY_TIMEOUT ≤ s.clock
  stamped : s.cb.state = .OPEN → ∀ t ∈ s.opened, t ≤ s.cb.lastOpenTime
  unprobed : s.cb.state = .OPEN → s.probes = []
  probed : s.cb.state = .HALF_OPEN → ∃ probe, s.probes = [probe]
  numbered : ∀ call ∈ s.waiting, call < s.calls
  before : s.openedAfter ≤ s.calls
  since : s.cb.state ≠ .CLOSED → ∀ call ∈ s.waiting, s.openedAfter ≤ call → call ∈ s.probes
  probes_since : ∀ probe ∈ s.probes, s.openedAfter ≤ probe

/-! ## The machine -/

section Machine

variable {now : ℚ} {cb : Breaker}

theorem allowRequest_closed (h : cb.state = .CLOSED) : allowRequest now cb = (true, cb) := by
  simp [allowRequest, h]

theorem allowRequest_half (h : cb.state = .HALF_OPEN) : allowRequest now cb = (true, cb) := by
  simp [allowRequest, h]

theorem allowRequest_open (h : cb.state = .OPEN) :
    allowRequest now cb =
      if CB_RECOVERY_TIMEOUT ≤ now - cb.lastOpenTime then (true, { cb with state := .HALF_OPEN })
      else (false, cb) := by
  simp [allowRequest, h]

/-- A failure opens the breaker now or leaves its state and its stamp. -/
theorem recordFailure_cases (now : ℚ) (cb : Breaker) :
    ((recordFailure now cb).state = .OPEN ∧ (recordFailure now cb).lastOpenTime = now) ∨
      (cb.state ≠ .HALF_OPEN ∧ (recordFailure now cb).state = cb.state ∧
        (recordFailure now cb).lastOpenTime = cb.lastOpenTime) := by
  unfold recordFailure
  dsimp only
  split_ifs with hopens
  · exact .inl ⟨rfl, rfl⟩
  · exact .inr ⟨fun h => hopens (.inl h), rfl, rfl⟩

end Machine

theorem Sound.init (start : ℚ) : Sound { clock := start } where
  past := by simp
  recovered := by simp
  stamped := by simp
  unprobed _ := rfl
  probed := nofun
  numbered := by simp
  before := le_rfl
  since h := absurd rfl h
  probes_since := by simp

/-! ## One step -/

section Steps

variable {s : Guarded}

theorem Sound.wait (hs : Sound s) (elapsed : ℚ≥0) : Sound (s.wait elapsed) where
  past t ht := (hs.past t ht).trans (le_add_of_nonneg_right elapsed.2)
  recovered hstate t ht := (hs.recovered hstate t ht).trans (le_add_of_nonneg_right elapsed.2)
  stamped := hs.stamped
  unprobed := hs.unprobed
  probed := hs.probed
  numbered := hs.numbered
  before := hs.before
  since := hs.since
  probes_since := hs.probes_since

theorem Sound.protocol_iff (hs : Sound s) (event : CallEvent) :
    Protocol s event ↔ Apart s event := by
  cases event with
  | request elapsed =>
      have hnow : s.clock ≤ s.clock + elapsed := le_add_of_nonneg_right elapsed.2
      simp only [Protocol, Apart]
      cases hstate : s.cb.state with
      | CLOSED =>
          refine iff_of_true (fun _ => ⟨fun t ht => ?_, fun h => absurd rfl h⟩) (by simp)
          exact (hs.recovered (by simp [hstate]) t ht).trans hnow
      | HALF_OPEN =>
          obtain ⟨probe, hprobe⟩ := hs.probed hstate
          refine iff_of_false (fun h => ?_) (by simp)
          have hnone := (h (by rw [allowRequest_half hstate])).2 (by simp)
          simp [hprobe] at hnone
      | OPEN =>
          refine iff_of_true (fun hallowed => ⟨?_, fun _ => hs.unprobed hstate⟩) (by simp)
          intro t ht
          rw [allowRequest_open hstate] at hallowed
          split at hallowed
          · rename_i helapsed
            have hstamp := hs.stamped hstate t ht
            linarith
          · cases hallowed
  | success call elapsed =>
      refine forall₂_congr fun hwaiting hstate => ?_
      constructor
      · intro hprobes
        exact hs.probes_since call (by simp [hprobes])
      · intro hlate
        have hmem := hs.since hstate call hwaiting hlate
        cases hcase : s.cb.state with
        | CLOSED => exact absurd hcase hstate
        | OPEN => simp [hs.unprobed hcase] at hmem
        | HALF_OPEN =>
            obtain ⟨probe, hprobe⟩ := hs.probed hcase
            rw [hprobe, List.mem_singleton] at hmem
            rw [hprobe, hmem]
  | failure call elapsed => exact Iff.rfl

theorem Sound.numbered_ask (hs : Sound s) :
    ∀ call ∈ s.waiting ++ [s.calls], call < s.calls + 1 := by
  intro call hcall
  rcases List.mem_append.mp hcall with hold | hnew
  · exact (hs.numbered call hold).trans (Nat.lt_succ_self _)
  · exact (List.mem_singleton.mp hnew).trans_lt (Nat.lt_succ_self _)

theorem Sound.ask_closed (hs : Sound s) (hstate : s.cb.state = .CLOSED) : Sound s.ask := by
  have hask : s.ask = { s with calls := s.calls + 1, waiting := s.waiting ++ [s.calls] } := by
    simp [Guarded.ask, allowRequest_closed hstate, hstate]
  rw [hask]
  exact
    { past := hs.past
      recovered := hs.recovered
      stamped := hs.stamped
      unprobed := hs.unprobed
      probed := hs.probed
      numbered := hs.numbered_ask
      before := hs.before.trans (Nat.le_succ _)
      since := fun h => absurd hstate h
      probes_since := hs.probes_since }

theorem Sound.ask_probe (hs : Sound s) (hstate : s.cb.state = .OPEN)
    (helapsed : CB_RECOVERY_TIMEOUT ≤ s.clock - s.cb.lastOpenTime) : Sound s.ask := by
  have hnone : s.probes = [] := hs.unprobed hstate
  have hask : s.ask = { s with
      cb := { s.cb with state := .HALF_OPEN }, calls := s.calls + 1,
      waiting := s.waiting ++ [s.calls], probes := [s.calls] } := by
    simp [Guarded.ask, allowRequest_open hstate, helapsed, hstate, hnone]
  rw [hask]
  exact
    { past := hs.past
      recovered := by
        intro _ t ht
        have hstamp := hs.stamped hstate t ht
        change t + CB_RECOVERY_TIMEOUT ≤ s.clock
        linarith
      stamped := nofun
      unprobed := nofun
      probed := fun _ => ⟨s.calls, rfl⟩
      numbered := hs.numbered_ask
      before := hs.before.trans (Nat.le_succ _)
      since := by
        intro _ call hcall hlate
        rcases List.mem_append.mp hcall with hold | hnew
        · -- an older call of this opening would already be a probe
          have hmem := hs.since (by simp [hstate]) call hold hlate
          simp [hnone] at hmem
        · exact hnew
      probes_since := fun probe hprobe => (List.mem_singleton.mp hprobe) ▸ hs.before }

theorem Sound.ask_denied (hs : Sound s) (hstate : s.cb.state = .OPEN)
    (helapsed : ¬ CB_RECOVERY_TIMEOUT ≤ s.clock - s.cb.lastOpenTime) : Sound s.ask := by
  have hask : s.ask = { s with calls := s.calls + 1 } := by
    simp [Guarded.ask, allowRequest_open hstate, helapsed]
  rw [hask]
  exact
    { past := hs.past
      recovered := hs.recovered
      stamped := hs.stamped
      unprobed := hs.unprobed
      probed := hs.probed
      numbered := fun call hcall => (hs.numbered call hcall).trans (Nat.lt_succ_self _)
      before := hs.before.trans (Nat.le_succ _)
      since := hs.since
      probes_since := hs.probes_since }

theorem Sound.ask (hs : Sound s) (hapart : s.cb.state ≠ .HALF_OPEN) : Sound s.ask := by
  cases hstate : s.cb.state with
  | CLOSED => exact hs.ask_closed hstate
  | HALF_OPEN => exact absurd hstate hapart
  | OPEN =>
      by_cases helapsed : CB_RECOVERY_TIMEOUT ≤ s.clock - s.cb.lastOpenTime
      · exact hs.ask_probe hstate helapsed
      · exact hs.ask_denied hstate helapsed

/-- Only the probe can close the breaker, so every opening is over by then. -/
theorem Sound.succeed (hs : Sound s) {call : ℕ}
    (hlate : call ∈ s.waiting → s.cb.state ≠ .CLOSED → s.openedAfter ≤ call) :
    Sound (s.succeed call) := by
  unfold Guarded.succeed
  split_ifs with hwaiting
  · have hclosed : s.cb.state ≠ .OPEN := by
      intro hstate
      have hmem := hs.since (by simp [hstate]) call hwaiting (hlate hwaiting (by simp [hstate]))
      simp [hs.unprobed hstate] at hmem
    exact
      { past := hs.past
        recovered := fun _ => hs.recovered hclosed
        stamped := nofun
        unprobed := fun _ => rfl
        probed := nofun
        numbered := fun call' hcall => hs.numbered call' (List.mem_of_mem_filter hcall)
        before := hs.before
        since := fun h => absurd rfl h
        probes_since := by simp }
  · exact hs

theorem Sound.fail_opens (hs : Sound s) {cb : Breaker} (hstate : cb.state = .OPEN)
    (hstamp : cb.lastOpenTime = s.clock) (call : ℕ) :
    Sound { s with
      cb, waiting := s.waiting.filter (· ≠ call),
      opened := s.clock :: s.opened, openedAfter := s.calls, probes := [] } where
  past := by simpa using hs.past
  recovered h := absurd hstate h
  stamped _ := by simpa [hstamp] using hs.past
  unprobed _ := rfl
  probed h := by simp [hstate] at h
  numbered call' hcall := hs.numbered call' (List.mem_of_mem_filter hcall)
  before := le_rfl
  since _ call' hcall hlate := by
    have hnumbered := hs.numbered call' (List.mem_of_mem_filter hcall)
    exact absurd hlate (by simpa using hnumbered)
  probes_since := by simp

/-- A failure that does not open the breaker: its state stays, its stamp may be renewed. -/
theorem Sound.fail_stays (hs : Sound s) {cb : Breaker} (hstate : cb.state = s.cb.state)
    (hstamp : cb.lastOpenTime = s.cb.lastOpenTime ∨ cb.lastOpenTime = s.clock) (call : ℕ) :
    Sound { s with cb, waiting := s.waiting.filter (· ≠ call) } where
  past := hs.past
  recovered h := hs.recovered (hstate ▸ h)
  stamped h t ht := by
    rcases hstamp with hkept | hrenewed
    · simpa [hkept] using hs.stamped (hstate ▸ h) t ht
    · simpa [hrenewed] using hs.past t ht
  unprobed h := hs.unprobed (hstate ▸ h)
  probed h := hs.probed (hstate ▸ h)
  numbered call' hcall := hs.numbered call' (List.mem_of_mem_filter hcall)
  before := hs.before
  since h call' hcall := hs.since (hstate ▸ h) call' (List.mem_of_mem_filter hcall)
  probes_since := hs.probes_since

theorem Sound.fail (hs : Sound s) (call : ℕ) : Sound (s.fail call) := by
  unfold Guarded.fail
  dsimp only
  split_ifs with hwaiting hopens
  · obtain ⟨-, hstamp⟩ | ⟨-, hsame, -⟩ := recordFailure_cases s.clock s.cb
    · exact hs.fail_opens hopens.2 hstamp call
    · exact absurd (hsame ▸ hopens.2) hopens.1
  · obtain ⟨hopen, hstamp⟩ | ⟨-, hsame, hstamp⟩ := recordFailure_cases s.clock s.cb
    · have hstate : s.cb.state = .OPEN := by
        by_contra h
        exact hopens ⟨h, hopen⟩
      exact hs.fail_stays (hopen.trans hstate.symm) (.inr hstamp) call
    · exact hs.fail_stays hsame (.inl hstamp) call
  · exact hs

theorem Sound.step (hs : Sound s) {event : CallEvent} (hok : Apart s event) :
    Sound (s.step event) := by
  cases event with
  | request elapsed => exact (hs.wait elapsed).ask hok
  | success call elapsed => exact (hs.wait elapsed).succeed hok
  | failure call elapsed => exact (hs.wait elapsed).fail call

end Steps

/-- From a fresh breaker the protocol is kept if and only if nobody gets in the way of a probe. -/
theorem protocol_iff_apart (start : ℚ) (events : List CallEvent) :
    Along Guarded.step Protocol { clock := start } events ↔
      Along Guarded.step Apart { clock := start } events := by
  exact along_iff_of_inv (fun s event hs => hs.protocol_iff event)
    (fun s event hs hok => hs.step hok) (Sound.init start)

namespace Overlapping

instance (s : Guarded) : ∀ event, Decidable (Protocol s event)
  | .request _ => inferInstanceAs (Decidable (_ → _ ∧ (_ → _)))
  | .success _ _ => inferInstanceAs (Decidable (_ → _ → _))
  | .failure _ _ => .isTrue trivial

/-- Three failures open the breaker, and the fourth call succeeds a second later. -/
def lateSuccess : List CallEvent :=
  [.request 0, .request 0, .request 0, .request 0, .failure 0 0, .failure 1 0, .failure 2 0,
    .success 3 1, .request 0]

/-- Two calls after the recovery time. -/
def twoProbes : List CallEvent :=
  [.request 0, .request 0, .request 0, .failure 0 0, .failure 1 0, .failure 2 0, .request 30,
    .request 0]

end Overlapping

open Overlapping in
/-- The late success closes the breaker, which then lets a call through one second after it has
opened; and the half-open breaker lets a second call through beside the probe. -/
theorem not_protocol :
    (¬ Along Guarded.step Protocol { clock := 0 } lateSuccess ∧
      (allowRequest 1 (final Guarded.step { clock := 0 } lateSuccess).cb).1 = true) ∧
    ¬ Along Guarded.step Protocol { clock := 0 } twoProbes := by
  refine ⟨⟨?_, ?_⟩, ?_⟩
  · decide
  · decide
  · decide +kernel

/-! ## An execution of the pipeline -/

/-- The breaker after a call that reports before anybody else asks. -/
def served (now : ℚ) (cb : Breaker) (answered : Bool) : Breaker :=
  let (allowed, cb) := allowRequest now cb
  if allowed then if answered then recordSuccess cb else recordFailure now cb else cb

namespace Guarded

/-- The events of such a call. -/
def servedAlone (s : Guarded) (answered : Bool) : List CallEvent :=
  if (allowRequest s.clock s.cb).1 then
    [.request 0, if answered then .success s.calls 0 else .failure s.calls 0]
  else [.request 0]

variable (s : Guarded)

@[simp] theorem wait_zero : s.wait 0 = s := by simp [wait]

@[simp] theorem ask_clock : s.ask.clock = s.clock := rfl

@[simp] theorem ask_cb : s.ask.cb = (allowRequest s.clock s.cb).2 := rfl

@[simp] theorem ask_openedAfter : s.ask.openedAfter = s.openedAfter := rfl

theorem mem_ask_waiting (hallowed : (allowRequest s.clock s.cb).1 = true) :
    s.calls ∈ s.ask.waiting := by
  simp [ask, hallowed]

variable {s}

theorem succeed_report {call : ℕ} (hwaiting : call ∈ s.waiting) :
    (s.succeed call).clock = s.clock ∧ (s.succeed call).cb = recordSuccess s.cb := by
  rw [succeed, if_pos hwaiting]
  exact ⟨rfl, rfl⟩

theorem fail_report {call : ℕ} (hwaiting : call ∈ s.waiting) :
    (s.fail call).clock = s.clock ∧ (s.fail call).cb = recordFailure s.clock s.cb := by
  rw [fail, if_pos hwaiting]
  dsimp only
  split_ifs
  · exact ⟨rfl, rfl⟩
  · exact ⟨rfl, rfl⟩

variable (s)

theorem final_servedAlone (answered : Bool) :
    (final step s (s.servedAlone answered)).clock = s.clock ∧
      (final step s (s.servedAlone answered)).cb = served s.clock s.cb answered := by
  by_cases hallowed : (allowRequest s.clock s.cb).1 = true
  · have hwaiting := s.mem_ask_waiting hallowed
    cases answered with
    | true =>
        simpa [servedAlone, served, hallowed, step, CallEvent.elapsed] using
          succeed_report hwaiting
    | false =>
        simpa [servedAlone, served, hallowed, step, CallEvent.elapsed] using fail_report hwaiting
  · simp [servedAlone, served, hallowed, step, CallEvent.elapsed]

end Guarded

theorem served_state {now : ℚ} {cb : Breaker} (hstate : cb.state ≠ .HALF_OPEN) (answered : Bool) :
    (served now cb answered).state ≠ .HALF_OPEN := by
  unfold served
  dsimp only
  split_ifs with hallowed
  · simp [recordSuccess]
  · obtain ⟨hopen, -⟩ | ⟨hhalf, hsame, -⟩ := recordFailure_cases now (allowRequest now cb).2
    · simp [hopen]
    · exact hsame ▸ hhalf
  · cases hcase : cb.state with
    | CLOSED => simp [allowRequest_closed hcase, hcase]
    | HALF_OPEN => exact absurd hcase hstate
    | OPEN =>
        rw [allowRequest_open hcase] at hallowed ⊢
        split
        · rename_i helapsed
          simp [helapsed] at hallowed
        · simp [hcase]

theorem Sound.servedAlone {s : Guarded} (hs : Sound s) (hstate : s.cb.state ≠ .HALF_OPEN)
    (answered : Bool) : Along Guarded.step Apart s (s.servedAlone answered) := by
  unfold Guarded.servedAlone
  split
  · refine ⟨hstate, ?_, trivial⟩
    cases answered with
    | true => exact fun _ _ => hs.before
    | false => trivial
  · exact ⟨hstate, trivial⟩

/-- What a run that keeps the protocol leaves, without any waiting, to the next caller. -/
def Serves (s : Guarded) (cb : Breaker) : Prop :=
  ∃ events, Along Guarded.step Apart s events ∧
    (final Guarded.step s events).clock = s.clock ∧ (final Guarded.step s events).cb = cb ∧
    cb.state ≠ .HALF_OPEN

theorem Serves.refl {s : Guarded} (hstate : s.cb.state ≠ .HALF_OPEN) : Serves s s.cb :=
  ⟨[], trivial, rfl, rfl, hstate⟩

theorem Sound.serves_served {s : Guarded} (hs : Sound s) {cb : Breaker} (h : Serves s cb)
    (answered : Bool) : Serves s (served s.clock cb answered) := by
  obtain ⟨events, happart, hclock, hcb, hstate⟩ := h
  have hfinal : Sound (final Guarded.step s events) :=
    (always_of_step (fun _ _ hs hok => hs.step hok) hs happart).last
  obtain ⟨hclock', hcb'⟩ := (final Guarded.step s events).final_servedAlone answered
  rw [hclock] at hclock'
  rw [hclock, hcb] at hcb'
  refine ⟨events ++ (final Guarded.step s events).servedAlone answered, ?_, ?_, ?_,
    served_state hstate answered⟩
  · exact along_append.mpr ⟨happart, hfinal.servedAlone (hcb ▸ hstate) answered⟩
  · rw [final_append, hclock']
  · rw [final_append, hcb']

section Execution

open PipelineService
open RiskService (RiskScoreRequest)

variable (cfg : Config) (io : PipelineIo) (request : PipelineRequest) (h3_cell : String)
  {s : Guarded}

@[simp] theorem writeZoneToRedis_breaker (Lf : ℚ) (zone_state : String) (rainfall aqi : ℚ)
    (state : PipelineState) :
    (writeZoneToRedis io h3_cell Lf zone_state rainfall aqi state).breaker = state.breaker := by
  unfold writeZoneToRedis
  split <;> rfl

theorem assessRisk_served (payload : RiskScoreRequest) (state : PipelineState) :
    (assessRisk cfg io h3_cell payload state).2 =
      served io.monotonic state.breaker (io.risk payload).isSome := by
  unfold assessRisk served
  cases hrequest : allowRequest io.monotonic state.breaker with
  | mk allowed breaker =>
      cases allowed with
      | true =>
          cases hrisk : io.risk payload with
          | some answer => simp
          | none => cases hstored : fallbackFromRedis io h3_cell state.redis <;> simp [apply_ite]
      | false => cases hstored : fallbackFromRedis io h3_cell state.redis <;> simp [apply_ite]

theorem pricePremium_served (payload : PricingPayload) (a : Assessment) (breaker : Breaker) :
    (pricePremium cfg io request payload a breaker).2 =
      if a.used_fallback then breaker
      else served io.monotonic breaker (io.pricing payload).isSome := by
  unfold pricePremium served
  split
  · simp [apply_ite]
  · cases hrequest : allowRequest io.monotonic breaker with
    | mk allowed breaker =>
        cases allowed with
        | true => cases hpricing : io.pricing payload <;> simp [apply_ite]
        | false => simp

theorem scoreAndWrite_serves (hs : Sound s) {state : PipelineState}
    (hclock : s.clock = io.monotonic) (hcb : s.cb = state.breaker)
    (hstate : s.cb.state ≠ .HALF_OPEN)
    (features : FeatureResponse) :
    Serves s (scoreAndWrite cfg io request h3_cell features state).2.breaker := by
  have hrisk : Serves s (assessRisk cfg io h3_cell (riskPayload io features) state).2 := by
    rw [assessRisk_served, ← hclock, ← hcb]
    exact hs.serves_served (.refl hstate) _
  unfold scoreAndWrite
  split
  · rename_i breaker hassess
    rw [hassess] at hrisk
    exact hrisk
  · rename_i a breaker hassess
    rw [hassess] at hrisk
    have hprice : Serves s
        (pricePremium cfg io request (pricingPayload request features a.Lf) a breaker).2 := by
      rw [pricePremium_served, ← hclock]
      split
      · exact hrisk
      · exact hs.serves_served hrisk _
    split
    · rename_i breaker' hpriced
      rw [hpriced] at hprice
      exact hprice
    · rename_i premium reasons breaker' hpriced
      rw [hpriced] at hprice
      simpa using hprice

/-- An execution that nobody overlaps keeps the protocol. -/
theorem executePipelineCore_serves (hs : Sound s) {state : PipelineState}
    (hclock : s.clock = io.monotonic) (hcb : s.cb = state.breaker)
    (hstate : s.cb.state ≠ .HALF_OPEN) :
    Serves s (executePipelineCore cfg io request h3_cell state).2.breaker := by
  have hidle : Serves s state.breaker := hcb ▸ .refl hstate
  unfold executePipelineCore
  split
  · exact hidle
  · exact hidle
  · split
    · exact hidle
    · exact scoreAndWrite_serves cfg io request h3_cell hs hclock hcb hstate _

end Execution

end Aegis.CircuitBreaker
