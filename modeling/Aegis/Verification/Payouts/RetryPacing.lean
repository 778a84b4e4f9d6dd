import Aegis.Verification.Payouts.RetryQueue

/-! # The pace of the retries

A run pops the queue into which it puts failed entries back. The entries queued before the
run come first, so it meets its own only when a turn is left after them. -/

namespace Aegis.PayoutService

open RedisState Payments

section Pace

variable (cfg : Config)

namespace Turn

variable (t : Turn)

/-- The settlement fails and its entry is queued again. -/
def putsBack : Bool :=
  !t.settles cfg && decide (t.attempts < PAYOUT_RETRY_MAX_ATTEMPTS) && t.io.redisPush

/-- The dead letter of a last attempt cannot be written, which ends the run. -/
def aborts : Bool :=
  !t.settles cfg && decide (PAYOUT_RETRY_MAX_ATTEMPTS ≤ t.attempts) && !t.io.createDlq

end Turn

variable (io : ℕ → RetryIo) (s : System)

/-- Each entry is attempted at most once, with the count it had before the run. -/
structure PacedRun : Prop where
  once : claimsOf (fun _ => true) (batch cfg io s) ≤ queued s
  counted : ∀ t ∈ batch cfg io s, t.entry ∈ s.redis.payoutRetryQueue

/-- The turns of the entries that were queued before the run. -/
def firstTurns : List Turn := turns cfg io 0 s.redis.payoutRetryQueue.length s

/-- The batch ends with the old entries, the run breaks off by then, or none comes back. -/
def Unmet : Prop :=
  PAYOUT_RETRY_BATCH_SIZE ≤ s.redis.payoutRetryQueue.length ∨
    (∃ k ≤ s.redis.payoutRetryQueue.length, (io k).redisPop = false) ∨
    (∃ t ∈ firstTurns cfg io s, t.aborts cfg = true) ∨
    ∀ t ∈ firstTurns cfg io s, t.putsBack cfg = false

end Pace

section Turns

variable {cfg : Config} {io : ℕ → RetryIo} {s : System} {processed fuel : ℕ}

/-! ## One turn -/

variable (cfg) in
theorem Turn.isOk_retryEntry (t : Turn) :
    (retryEntry cfg t.io t.processed t.entry t.system).1.isOk = !t.aborts cfg := by
  rw [retryEntry, Turn.aborts, Turn.settles, Turn.attempts]
  cases processParametricPayout cfg.toConfig t.io.settle (dtoOfRetry t.io t.processed t.entry)
      t.system.toWorld with
  | mk result world =>
      cases result with
      | ok payout => rfl
      | error e =>
          by_cases hlast : PAYOUT_RETRY_MAX_ATTEMPTS ≤ t.entry.attempts.getD 0 + 1
          · cases hwritten : t.io.createDlq <;> simp [hlast, Except.isOk, Except.toBool]
          · simp [hlast, Except.isOk, Except.toBool]

/-- A turn leaves the queue it popped from, with its entry at the back if it comes back. -/
theorem Turn.after_queue (t : Turn) :
    (t.after cfg).redis.payoutRetryQueue =
      if t.putsBack cfg then
        { t.entry with attempts := some t.attempts } :: t.system.redis.payoutRetryQueue
      else t.system.redis.payoutRetryQueue := by
  rw [Turn.after, retryEntry, Turn.putsBack, Turn.settles, Turn.attempts]
  cases processParametricPayout cfg.toConfig t.io.settle (dtoOfRetry t.io t.processed t.entry)
      t.system.toWorld with
  | mk result world =>
      cases result with
      | ok payout => rfl
      | error e =>
          by_cases hlast : PAYOUT_RETRY_MAX_ATTEMPTS ≤ t.entry.attempts.getD 0 + 1
          · cases hwritten : t.io.createDlq <;> simp [hlast, Except.isOk, Except.toBool]
          · cases hpushed : t.io.redisPush <;>
              simp [hlast, not_le.mp hlast, pushPayoutRetry, Except.isOk, Except.toBool]

/-- The turn that pops `entry` and leaves `queue`. -/
def turnOf (io : RetryIo) (processed : ℕ) (entry : PayoutRetry) (queue : List PayoutRetry)
    (s : System) : Turn :=
  ⟨io, processed, entry, { s with redis := { s.redis with payoutRetryQueue := queue } }⟩

theorem turns_of_pop {queue : List PayoutRetry} {entry : PayoutRetry}
    (hpop : (io processed).redisPop = true) (hqueue : s.redis.payoutRetryQueue = queue ++ [entry]) :
    turns cfg io processed (fuel + 1) s =
      turnOf (io processed) (processed + 1) entry queue s ::
        if (turnOf (io processed) (processed + 1) entry queue s).aborts cfg then []
        else turns cfg io (processed + 1) fuel
          ((turnOf (io processed) (processed + 1) entry queue s).after cfg) := by
  have hpopped : popPayoutRetry (io processed).redisPop s.redis =
      (some entry, { s.redis with payoutRetryQueue := queue }) := by
    simp [popPayoutRetry, hpop, hqueue]
  have hok := (turnOf (io processed) (processed + 1) entry queue s).isOk_retryEntry cfg
  rw [turns, hpopped]
  dsimp only
  rw [Turn.after]
  cases hentry : retryEntry cfg (io processed) (processed + 1) entry
      { s with redis := { s.redis with payoutRetryQueue := queue } } with
  | mk result after =>
      simp only [turnOf, hentry] at hok ⊢
      cases result with
      | error e =>
          simp only [Except.isOk, Except.toBool, Bool.false_eq, Bool.not_eq_false'] at hok
          rw [if_pos hok]
      | ok _ =>
          simp only [Except.isOk, Except.toBool, Bool.true_eq, Bool.not_eq_true'] at hok
          rw [hok]
          rfl

theorem turns_of_not_pop (hpop : (io processed).redisPop = false) :
    turns cfg io processed fuel s = [] := by
  cases fuel with
  | zero => rfl
  | succ fuel => simp [turns, popPayoutRetry, hpop]

theorem turns_of_empty (hqueue : s.redis.payoutRetryQueue = []) :
    turns cfg io processed fuel s = [] := by
  cases fuel with
  | zero => rfl
  | succ fuel =>
      cases hpop : (io processed).redisPop with
      | false => exact turns_of_not_pop hpop
      | true => simp [turns, popPayoutRetry, hpop, hqueue]

/-! ## The turns of a run -/

variable (cfg) in
/-- In the middle of a run the queue is what came back in front of what was there. -/
theorem after_append (t : Turn) {back old : List PayoutRetry}
    (hqueue : t.system.redis.payoutRetryQueue = back ++ old) :
    ∃ back', (t.after cfg).redis.payoutRetryQueue = back' ++ old ∧
      (back' = [] ↔ back = [] ∧ t.putsBack cfg = false) := by
  rw [t.after_queue, hqueue]
  cases t.putsBack cfg with
  | false => exact ⟨back, rfl, by simp⟩
  | true => exact ⟨{ t.entry with attempts := some t.attempts } :: back, rfl, by simp⟩

/-- As long as old entries are left, they are the ones that are popped. -/
theorem entries_prefix {back old : List PayoutRetry}
    (hqueue : s.redis.payoutRetryQueue = back ++ old) (hfuel : fuel ≤ old.length) :
    (turns cfg io processed fuel s).map Turn.entry <+: old.reverse := by
  induction fuel generalizing processed s back old with
  | zero => exact List.nil_prefix
  | succ fuel ih =>
      cases hpop : (io processed).redisPop with
      | false =>
          rw [turns_of_not_pop hpop]
          exact List.nil_prefix
      | true =>
          rcases List.eq_nil_or_concat' old with rfl | ⟨old, entry, rfl⟩
          · simp at hfuel
          · rw [← List.append_assoc] at hqueue
            rw [turns_of_pop hpop hqueue, List.reverse_append, List.map_cons]
            refine List.prefix_cons_inj _ |>.mpr ?_
            split
            · exact List.nil_prefix
            · obtain ⟨back', hafter, -⟩ := after_append cfg
                (turnOf (io processed) (processed + 1) entry (back ++ old) s) rfl
              exact ih hafter (by simpa using hfuel)

variable (cfg io s processed) in
theorem turns_take {shorter : ℕ} (h : shorter ≤ fuel) :
    turns cfg io processed shorter s = (turns cfg io processed fuel s).take shorter := by
  induction shorter generalizing processed s fuel with
  | zero => simp [turns]
  | succ shorter ih =>
      obtain ⟨fuel, rfl⟩ := Nat.exists_eq_add_of_le' h
      rw [← Nat.add_assoc]
      cases hpop : (io processed).redisPop with
      | false => simp [turns_of_not_pop hpop]
      | true =>
          rcases List.eq_nil_or_concat' s.redis.payoutRetryQueue with hqueue | ⟨queue, entry,
            hqueue⟩
          · simp [turns_of_empty hqueue]
          · rw [turns_of_pop hpop hqueue, turns_of_pop hpop hqueue, List.take_succ_cons]
            split
            · simp
            · rw [ih _ _ (Nat.le_add_left shorter fuel)]

/-- A run takes more turns than there are old entries exactly when one of them has come back
and the run gets so far. -/
theorem length_turns_le_iff {back old : List PayoutRetry}
    (hqueue : s.redis.payoutRetryQueue = back ++ old) :
    (turns cfg io processed fuel s).length ≤ old.length ↔
      fuel ≤ old.length ∨ (∃ k ≤ old.length, (io (processed + k)).redisPop = false) ∨
        (∃ t ∈ turns cfg io processed old.length s, t.aborts cfg = true) ∨
        (back = [] ∧ ∀ t ∈ turns cfg io processed old.length s, t.putsBack cfg = false) := by
  induction old using List.reverseRecOn generalizing processed fuel s back with
  | nil =>
      rw [List.append_nil] at hqueue
      have hnone : turns cfg io processed 0 s = [] := rfl
      simp only [List.length_nil, Nat.le_zero, exists_eq_left, Nat.add_zero, hnone,
        List.not_mem_nil, false_and, exists_false, false_or, IsEmpty.forall_iff, implies_true,
        and_true, List.length_eq_zero_iff]
      cases fuel with
      | zero => simp [hnone]
      | succ fuel =>
          cases hpop : (io processed).redisPop with
          | false => simp [turns_of_not_pop hpop]
          | true =>
              rcases List.eq_nil_or_concat' back with rfl | ⟨queue, entry, rfl⟩
              · simp [turns_of_empty hqueue]
              · simp [turns_of_pop hpop hqueue]
  | append_singleton old entry ih =>
      rw [← List.append_assoc] at hqueue
      simp only [List.length_append, List.length_singleton]
      cases hpop : (io processed).redisPop with
      | false =>
          have hbroken : ∃ k ≤ old.length + 1, (io (processed + k)).redisPop = false :=
            ⟨0, Nat.zero_le _, hpop⟩
          simp [turns_of_not_pop hpop, hbroken]
      | true =>
          cases fuel with
          | zero => simp [turns]
          | succ fuel =>
              obtain ⟨back', hafter, hback⟩ := after_append cfg
                (turnOf (io processed) (processed + 1) entry (back ++ old) s) rfl
              have hnext := @ih _ (processed + 1) fuel _ hafter
              have hbreaks : (∃ k ≤ old.length + 1, (io (processed + k)).redisPop = false) ↔
                  ∃ k ≤ old.length, (io (processed + 1 + k)).redisPop = false := by
                constructor
                · rintro ⟨k, hk, hfails⟩
                  cases k with
                  | zero => exact absurd (hpop.symm.trans hfails) (by decide)
                  | succ k => exact ⟨k, Nat.le_of_succ_le_succ hk, by rwa [Nat.add_right_comm]⟩
                · rintro ⟨k, hk, hfails⟩
                  exact ⟨k + 1, Nat.succ_le_succ hk, by rwa [Nat.add_right_comm] at hfails⟩
              rw [turns_of_pop hpop hqueue, turns_of_pop hpop hqueue, hbreaks]
              by_cases haborts :
                  (turnOf (io processed) (processed + 1) entry (back ++ old) s).aborts cfg = true
              · simp [haborts]
              · simp only [haborts, Bool.false_eq_true, if_false, List.length_cons,
                  Nat.add_le_add_iff_right, List.mem_cons, exists_eq_or_imp, forall_eq_or_imp,
                  hnext, hback, false_or, and_assoc]

/-! ## The whole run -/

variable (cfg io s)

theorem card_claimsOf (ts : List Turn) : (claimsOf (fun _ => true) ts).card = ts.length := by
  simp [claimsOf]

/-- The first entries are attempted as they were queued. -/
theorem firstTurns_start (fuel : ℕ) (h : fuel ≤ s.redis.payoutRetryQueue.length) :
    (turns cfg io 0 fuel s).map Turn.entry <+: s.redis.payoutRetryQueue.reverse :=
  entries_prefix (List.nil_append _).symm h

theorem pacedRun_of_start {ts : List Turn} (hbatch : batch cfg io s = ts)
    (h : ts.map Turn.entry <+: s.redis.payoutRetryQueue.reverse) : PacedRun cfg io s := by
  rw [← hbatch] at h
  constructor
  · have hclaims := (h.map claimOf).sublist.subperm
    rw [List.map_reverse, List.map_map] at hclaims
    have hqueued := hclaims.trans (List.reverse_perm _).subperm
    simpa [claimsOf, queued, Function.comp_def] using hqueued
  · intro t ht
    have hmem := h.subset (List.mem_map_of_mem ht)
    exact List.mem_reverse.mp hmem

theorem pacedRun_iff_length :
    PacedRun cfg io s ↔ (batch cfg io s).length ≤ s.redis.payoutRetryQueue.length := by
  constructor
  · intro h
    have hcard := Multiset.card_le_card h.once
    rw [card_claimsOf] at hcard
    simpa [queued] using hcard
  · intro h
    rcases le_total PAYOUT_RETRY_BATCH_SIZE s.redis.payoutRetryQueue.length with hbatch | hbatch
    · exact pacedRun_of_start cfg io s rfl (firstTurns_start cfg io s _ hbatch)
    · have htake := turns_take cfg io s 0 hbatch
      exact pacedRun_of_start cfg io s (htake.trans (List.take_of_length_le h)).symm
        (firstTurns_start cfg io s _ le_rfl)

/-- A run attempts every entry at most once exactly when it never meets one that it has put
back itself. -/
theorem pacedRun_iff (cfg : Config) (io : ℕ → RetryIo) (s : System) :
    PacedRun cfg io s ↔ Unmet cfg io s := by
  rw [pacedRun_iff_length, batch, length_turns_le_iff (List.nil_append _).symm]
  simp [Unmet, firstTurns]

end Turns

/-! ## One entry in the queue -/

open Payouts Payouts.Ungated Dropped in
/-- The gateway turns the only entry down; it comes back and is met five times. -/
theorem not_pacedRun_single :
    ¬PacedRun config (fun _ => { refusing with redisPush := true }) system := by
  rw [pacedRun_iff_length]
  decide

end Aegis.PayoutService
