import Aegis.Model.Features

/-! # How often the adaptive client asks

A request is followed by another while its outcome is one to be retried, with timeouts and pauses
that depend on its number alone. The caller gets the outcome of the last. -/

namespace Aegis.ApirisHttp

open Loop

section Requests

variable (cfg : Config)

/-- A timeout, a throttled request, or a retryable status with a forecast of high latency. -/
def Retryable : Attempt → Prop
  | .response response => response.status_code ∈ cfg.APIRIS_RETRYABLE_STATUS_CODES ∧
      (response.status_code = 429 ∨
        ∃ predicted ∈ response.predicted_latency, cfg.APIRIS_PREDICTED_LATENCY_MS ≤ predicted)
  | .timeout => True
  | .failed => False

def resultOf : Attempt → Result
  | .response response => .returned response
  | .timeout => .timedOut
  | .failed => .raised

/-- The timeout of the request with a number, from 0 on. -/
def timeoutAt (timeout : ℚ) (k : ℕ) : ℚ :=
  (grown cfg)^[k] (max (1 / 10) (min timeout cfg.APIRIS_MAX_TIMEOUT_SEC))

/-- The pause after the request with a number. -/
def pauseAt (k : ℕ) : ℚ := (cfg.APIRIS_BASE_BACKOFF_MS / 1000 : ℚ) * (k + 1)

variable {cfg} {send : ℕ → ℚ → Attempt} {i : ℕ} {s s' : Policy}

theorem not_retryable_of_calm {response : NormalizedResponse}
    (hcalm : response.status_code ≠ 429 ∧
      ∀ predicted ∈ response.predicted_latency, predicted < cfg.APIRIS_PREDICTED_LATENCY_MS) :
    ¬Retryable cfg (.response response) := by
  rintro ⟨-, hthrottled | ⟨predicted, hpredicted, hhigh⟩⟩
  · exact hcalm.1 hthrottled
  · exact absurd (hcalm.2 predicted hpredicted) hhigh.not_gt

theorem retryable_of_not_calm {response : NormalizedResponse}
    (hstatus : response.status_code ∈ cfg.APIRIS_RETRYABLE_STATUS_CODES)
    (hcalm : ¬(response.status_code ≠ 429 ∧
      ∀ predicted ∈ response.predicted_latency, predicted < cfg.APIRIS_PREDICTED_LATENCY_MS)) :
    Retryable cfg (.response response) := by
  refine ⟨hstatus, ?_⟩
  by_contra hnone
  obtain ⟨hthrottled, hlow⟩ := not_or.mp hnone
  exact hcalm ⟨hthrottled, fun predicted hpredicted =>
    lt_of_not_ge fun hhigh => hlow ⟨predicted, hpredicted, hhigh⟩⟩

/-- A turn that goes on has met an outcome to be retried. -/
theorem turn_next (h : turn cfg send i s = .next s') :
    (cfg.APIRIS_ADAPTIVE_RETRY_ENABLED = true ∧ s.attempt < retries cfg ∧
        Retryable cfg (send s.attempt s.timeout)) ∧
      s'.attempt = s.attempt + 1 ∧ s'.timeout = grown cfg s.timeout ∧
      s'.requests = s.requests ++ [s.timeout] ∧
        s'.sleeps = s.sleeps ++ [pauseAt cfg s.attempt] := by
  rw [turn] at h
  split at h
  · cases h
  · simp only at h
    cases houtcome : send s.attempt s.timeout with
    | failed =>
        rw [houtcome] at h
        cases h
    | timeout =>
        rw [houtcome] at h
        simp only at h
        split at h
        · cases h
        · rename_i hmore
          obtain ⟨henabled, hleft⟩ := not_or.mp hmore
          cases h
          exact ⟨⟨Bool.eq_true_of_not_eq_false henabled, not_le.mp hleft, trivial⟩, rfl, rfl, rfl,
            rfl⟩
    | response response =>
        rw [houtcome] at h
        simp only at h
        split at h
        · cases h
        · rename_i hmore
          obtain ⟨henabled, hleft⟩ := not_or.mp hmore
          split at h
          · cases h
          · rename_i hstatus
            split at h
            · cases h
            · rename_i hcalm
              cases h
              exact ⟨⟨Bool.eq_true_of_not_eq_false henabled, not_le.mp hleft,
                retryable_of_not_calm (not_not.mp hstatus) hcalm⟩, rfl, rfl, rfl, rfl⟩

/-- A turn that ends the loop gives the outcome of its request. -/
theorem turn_stop (hleft : s.attempt ≤ retries cfg) (h : turn cfg send i s = .stop s') :
    (s.attempt = retries cfg ∨ cfg.APIRIS_ADAPTIVE_RETRY_ENABLED = false ∨
        ¬Retryable cfg (send s.attempt s.timeout)) ∧
      s'.requests = s.requests ++ [s.timeout] ∧ s'.sleeps = s.sleeps ∧
      s'.result = some (resultOf (send s.attempt s.timeout)) := by
  have hend (hmore : cfg.APIRIS_ADAPTIVE_RETRY_ENABLED = false ∨ retries cfg ≤ s.attempt)
      {p : Prop} : s.attempt = retries cfg ∨ cfg.APIRIS_ADAPTIVE_RETRY_ENABLED = false ∨ p :=
    hmore.elim (fun hoff => .inr (.inl hoff)) fun hlast => .inl (le_antisymm hleft hlast)
  rw [turn, if_neg hleft.not_gt] at h
  simp only at h
  cases houtcome : send s.attempt s.timeout with
  | failed =>
      rw [houtcome] at h
      cases h
      exact ⟨.inr (.inr id), rfl, rfl, rfl⟩
  | timeout =>
      rw [houtcome] at h
      simp only at h
      split at h
      · rename_i hmore
        cases h
        exact ⟨hend hmore, rfl, rfl, rfl⟩
      · cases h
  | response response =>
      rw [houtcome] at h
      simp only at h
      split at h
      · rename_i hmore
        cases h
        exact ⟨hend hmore, rfl, rfl, rfl⟩
      · split at h
        · rename_i hstatus
          cases h
          exact ⟨.inr (.inr fun hretry => hstatus hretry.1), rfl, rfl, rfl⟩
        · split at h
          · rename_i hcalm
            cases h
            exact ⟨.inr (.inr (not_retryable_of_calm hcalm)), rfl, rfl, rfl⟩
          · cases h

end Requests

/-! ## The loop -/

/-- The call has made `n + 1` requests and has the outcome of the last. -/
structure Asked (cfg : Config) (send : ℕ → ℚ → Attempt) (timeout : ℚ) (s : Policy) (n : ℕ) :
    Prop where
  bound : n ≤ retries cfg
  requests : s.requests = (List.range (n + 1)).map (timeoutAt cfg timeout)
  sleeps : s.sleeps = (List.range n).map (pauseAt cfg)
  earlier : ∀ k < n, cfg.APIRIS_ADAPTIVE_RETRY_ENABLED = true ∧
    Retryable cfg (send k (timeoutAt cfg timeout k))
  last : n = retries cfg ∨ cfg.APIRIS_ADAPTIVE_RETRY_ENABLED = false ∨
    ¬Retryable cfg (send n (timeoutAt cfg timeout n))
  result : s.result = some (resultOf (send n (timeoutAt cfg timeout n)))

/-- Before a turn, with the turns left. -/
structure Asking (cfg : Config) (send : ℕ → ℚ → Attempt) (timeout : ℚ) (turns : List ℕ)
    (s : Policy) : Prop where
  left : s.attempt ≤ retries cfg
  enough : retries cfg + 2 ≤ turns.length + s.attempt
  timeout_eq : s.timeout = timeoutAt cfg timeout s.attempt
  requests : s.requests = (List.range s.attempt).map (timeoutAt cfg timeout)
  sleeps : s.sleeps = (List.range s.attempt).map (pauseAt cfg)
  earlier : ∀ k < s.attempt, cfg.APIRIS_ADAPTIVE_RETRY_ENABLED = true ∧
    Retryable cfg (send k (timeoutAt cfg timeout k))

theorem Asking.next {cfg : Config} {send : ℕ → ℚ → Attempt} {timeout : ℚ} {i : ℕ} {turns : List ℕ}
    {s s' : Policy} (h : Asking cfg send timeout (i :: turns) s)
    (hturn : turn cfg send i s = .next s') : Asking cfg send timeout turns s' := by
  obtain ⟨⟨henabled, hleft, hretry⟩, hattempt, htimeout, hrequests, hsleeps⟩ := turn_next hturn
  have henough := h.enough
  constructor
  case left => omega
  case enough =>
    rw [List.length_cons] at henough
    omega
  case timeout_eq =>
    rw [htimeout, hattempt, h.timeout_eq, timeoutAt, timeoutAt, Function.iterate_succ_apply']
  case requests =>
    rw [hrequests, hattempt, List.range_succ, List.map_append, h.requests, h.timeout_eq]
    rfl
  case sleeps =>
    rw [hsleeps, hattempt, List.range_succ, List.map_append, h.sleeps]
    rfl
  case earlier =>
    intro k hk
    rw [hattempt] at hk
    rcases Nat.lt_succ_iff_lt_or_eq.mp hk with hbefore | rfl
    · exact h.earlier k hbefore
    · exact ⟨henabled, h.timeout_eq ▸ hretry⟩

theorem Asking.stop {cfg : Config} {send : ℕ → ℚ → Attempt} {timeout : ℚ} {i : ℕ} {turns : List ℕ}
    {s s' : Policy} (h : Asking cfg send timeout (i :: turns) s)
    (hturn : turn cfg send i s = .stop s') : Asked cfg send timeout s' s.attempt := by
  obtain ⟨hlast, hrequests, hsleeps, hresult⟩ := turn_stop h.left hturn
  rw [h.timeout_eq] at hlast hrequests hresult
  constructor
  case bound => exact h.left
  case requests =>
    rw [hrequests, List.range_succ, List.map_append, h.requests]
    rfl
  case sleeps => rw [hsleeps, h.sleeps]
  case earlier => exact h.earlier
  case last => exact hlast
  case result => exact hresult

def Done (cfg : Config) (send : ℕ → ℚ → Attempt) (timeout : ℚ) (s : Policy) : Prop :=
  ∃ n, Asked cfg send timeout s n

theorem timeoutAt_le (cfg : Config) (timeout : ℚ) (k : ℕ) :
    timeoutAt cfg timeout k ≤ max (1 / 10) cfg.APIRIS_MAX_TIMEOUT_SEC := by
  cases k with
  | zero => exact max_le_max le_rfl (min_le_right _ _)
  | succ k =>
      rw [timeoutAt, Function.iterate_succ_apply', grown]
      exact (min_le_right _ _).trans (le_max_right _ _)

/-- Every call comes to the outcome of its last request; the error behind the loop is never
raised, and no request has a longer timeout than the configuration allows. -/
theorem request_law (cfg : Config) (send : ℕ → ℚ → Attempt) (timeout : ℚ) :
    ∃ n, Asked cfg send timeout (requestWithPolicy cfg send timeout).2 n ∧
      (requestWithPolicy cfg send timeout).1 = resultOf (send n (timeoutAt cfg timeout n)) ∧
      ∀ t ∈ (requestWithPolicy cfg send timeout).2.requests,
        t ≤ max (1 / 10) cfg.APIRIS_MAX_TIMEOUT_SEC := by
  have hstart : Asking cfg send timeout (List.range (retries cfg + 2))
      { timeout := max (1 / 10) (min timeout cfg.APIRIS_MAX_TIMEOUT_SEC) } :=
    ⟨Nat.zero_le _, by simp, rfl, rfl, rfl, fun k hk => absurd hk (Nat.not_lt_zero k)⟩
  have hdone : Done cfg send timeout (requestWithPolicy cfg send timeout).2 := by
    refine run_remaining (Asking cfg send timeout) ?_ ?_ ?_ hstart
      (turns_of_forall (fun _ _ => trivial) _ _)
    · intro s h
      have henough := h.enough
      have hleft := h.left
      rw [List.length_nil] at henough
      omega
    · intro i turns s s' h _ hturn
      exact h.next hturn
    · intro i turns s s' h _ hturn
      exact ⟨s.attempt, h.stop hturn⟩
  obtain ⟨n, hasked⟩ := hdone
  refine ⟨n, hasked, ?_, ?_⟩
  · exact congrArg (fun result : Option Result => result.getD _) hasked.result
  · intro t ht
    rw [hasked.requests] at ht
    obtain ⟨k, -, rfl⟩ := List.mem_map.mp ht
    exact timeoutAt_le cfg timeout k

/-- Without a forecast, a server that fails is not asked again; one that throttles is. -/
example : (requestWithPolicy {} (fun _ _ => .response ⟨503, none⟩) 8).2.requests = [8] ∧
    (requestWithPolicy {} (fun _ _ => .response ⟨429, none⟩) 8).2.requests = [8, 12] := by
  decide +kernel

end Aegis.ApirisHttp
