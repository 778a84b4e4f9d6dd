import Aegis.Verification.Payments.Booked
import Aegis.Verification.Payouts.Frames
import Aegis.Verification.Payouts.Processing
import Mathlib.Algebra.Order.Group.Multiset
import Mathlib.Tactic.Abel

/-! # The payout retry queue

Entries leave the queue before they are settled and come back, or are given up, after a
failure. Every entry is accounted for, turn by turn. -/

namespace Aegis.Payments

/-- A settlement writes no dead letter. -/
theorem processParametricPayout_kafkaDLQ (cfg : Config) (io : Io) (dto : ParametricPayoutDto)
    (w : World) : (processParametricPayout cfg io dto w).2.db.kafkaDLQ = w.db.kafkaDLQ :=
  (processParametricPayout_settlement cfg io dto w).kafkaDLQ

end Aegis.Payments

namespace Aegis.PayoutService

open RedisState Payments

/-! ## Where an entry can be -/

/-- An entry without its count of attempts. -/
def claimOf (entry : PayoutRetry) : PayoutRetry := { entry with attempts := none }

def queued (s : System) : Multiset PayoutRetry := (s.redis.payoutRetryQueue.map claimOf : List _)

/-- The entry of a dead letter of the retry queue. -/
def exhaustedClaim (letter : KafkaDLQ) : Option PayoutRetry :=
  match letter.payload with
  | .payoutRetry entry =>
      if letter.topic = "PAYOUT_RETRY_EXHAUSTED" then some (claimOf entry) else none
  | .verifiedPayment .. => none

def exhausted (db : Db) : Multiset PayoutRetry := (db.kafkaDLQ.filterMap exhaustedClaim : List _)

/-- The entries that are queued or recorded as given up. -/
def held (s : System) : Multiset PayoutRetry := queued s + exhausted s.db

section Turns

variable (cfg : Config)

/-- One turn of the loop: an entry and the system it was popped from. -/
structure Turn where
  io : RetryIo
  processed : ℕ
  entry : PayoutRetry
  system : System

namespace Turn

variable (t : Turn)

def attempts : ℕ := t.entry.attempts.getD 0 + 1

/-- The turn's settlement returns success. -/
def settles : Bool :=
  (processParametricPayout cfg.toConfig t.io.settle (dtoOfRetry t.io t.processed t.entry)
    t.system.toWorld).1.isOk

/-- What follows a failed settlement goes through: the dead letter after the last attempt,
the push before. -/
def recorded : Bool :=
  if PAYOUT_RETRY_MAX_ATTEMPTS ≤ t.attempts then t.io.createDlq else t.io.redisPush

def loses : Bool := !t.settles cfg && !t.recorded

def after : System := (retryEntry cfg t.io t.processed t.entry t.system).2

end Turn

/-- The turns of a run with `fuel` turns left. -/
def turns (io : ℕ → RetryIo) (processed : ℕ) : ℕ → System → List Turn
  | 0, _ => []
  | fuel + 1, s =>
      match popPayoutRetry (io processed).redisPop s.redis with
      | (none, _) => []
      | (some entry, redis) =>
          ⟨io processed, processed + 1, entry, { s with redis }⟩ ::
            match retryEntry cfg (io processed) (processed + 1) entry { s with redis } with
            | (.error _, _) => []
            | (.ok _, s) => turns io (processed + 1) fuel s

def claimsOf (p : Turn → Bool) (ts : List Turn) : Multiset PayoutRetry :=
  ((ts.filter p).map fun t => claimOf t.entry : List _)

def settledIn : List Turn → Multiset PayoutRetry := claimsOf (Turn.settles cfg)

/-- The entries whose settlement failed without being recorded. -/
def lostIn : List Turn → Multiset PayoutRetry := claimsOf (Turn.loses cfg)

variable {cfg}

@[simp] theorem claimsOf_nil (p : Turn → Bool) : claimsOf p [] = 0 := rfl

theorem claimsOf_cons (p : Turn → Bool) (t : Turn) (ts : List Turn) :
    claimsOf p (t :: ts) = (if p t then {claimOf t.entry} else 0) + claimsOf p ts := by
  by_cases h : p t = true
  · simp [claimsOf, h]
  · simp [claimsOf, h]

theorem claimsOf_eq_zero {p : Turn → Bool} {ts : List Turn} :
    claimsOf p ts = 0 ↔ ∀ t ∈ ts, p t = false := by
  rw [claimsOf, Multiset.coe_eq_zero, List.map_eq_nil_iff, List.filter_eq_nil_iff]
  simp

/-! ## One turn -/

theorem queued_push (up : Bool) (s : System) (entry : PayoutRetry) :
    queued { s with redis := pushPayoutRetry up s.redis entry } =
      (if up then {claimOf entry} else 0) + queued s := by
  cases up with
  | true => simp [queued, pushPayoutRetry]
  | false => simp [queued, pushPayoutRetry]

/-- A popped entry was queued. -/
theorem queued_pop {up : Bool} {s : System} {entry : PayoutRetry} {redis : Redis}
    (h : popPayoutRetry up s.redis = (some entry, redis)) :
    queued s = {claimOf entry} + queued { s with redis } := by
  cases up with
  | false => cases h
  | true =>
      simp only [popPayoutRetry, if_true, Prod.mk.injEq] at h
      obtain ⟨hlast, rfl⟩ := h
      have hsplit : s.redis.payoutRetryQueue.dropLast ++ [entry] = s.redis.payoutRetryQueue :=
        List.dropLast_append_getLast? entry hlast
      rw [queued, ← hsplit]
      simp [queued]

theorem queued_pop_none {up : Bool} {s : System} {redis : Redis}
    (h : popPayoutRetry up s.redis = (none, redis)) : queued { s with redis } = queued s := by
  cases up with
  | false =>
      cases h
      rfl
  | true =>
      simp only [popPayoutRetry, if_true, Prod.mk.injEq] at h
      obtain ⟨hlast, rfl⟩ := h
      have hempty : s.redis.payoutRetryQueue = [] := List.getLast?_eq_none_iff.mp hlast
      simp [queued, hempty]

theorem exhausted_deadLetter (db : Db) (entry : PayoutRetry) (attempts : ℕ) (e : Exn) :
    exhausted { db with kafkaDLQ := db.kafkaDLQ ++ [deadLetter entry attempts e] } =
      {claimOf entry} + exhausted db := by
  have hletter : exhaustedClaim (deadLetter entry attempts e) = some (claimOf entry) := rfl
  rw [exhausted, List.filterMap_append, ← Multiset.coe_add, add_comm]
  simp [exhausted, hletter]

/-- A failed settlement's entry is held again exactly when that is recorded. -/
theorem held_after_failure (t : Turn) {e : Exn} {world : World}
    (h : processParametricPayout cfg.toConfig t.io.settle (dtoOfRetry t.io t.processed t.entry)
      t.system.toWorld = (.error e, world)) :
    held (t.after cfg) = (if t.recorded then {claimOf t.entry} else 0) + held t.system := by
  have hletters : world.db.kafkaDLQ = t.system.db.kafkaDLQ := by
    rw [← processParametricPayout_kafkaDLQ cfg.toConfig t.io.settle
      (dtoOfRetry t.io t.processed t.entry) t.system.toWorld, h]
  have hsame : exhausted world.db = exhausted t.system.db := by rw [exhausted, hletters, exhausted]
  rw [Turn.after, retryEntry, h]
  by_cases hlast : PAYOUT_RETRY_MAX_ATTEMPTS ≤ t.attempts
  · have hlast' : PAYOUT_RETRY_MAX_ATTEMPTS ≤ t.entry.attempts.getD 0 + 1 := hlast
    have hrecorded : t.recorded = t.io.createDlq := if_pos hlast
    simp only [if_pos hlast', hrecorded]
    cases t.io.createDlq with
    | true =>
        simp only [held, if_true, exhausted_deadLetter, hsame]
        exact add_left_comm _ _ _
    | false =>
        simp only [held, hsame, Bool.false_eq_true, if_false, zero_add]
        rfl
  · have hlast' : ¬PAYOUT_RETRY_MAX_ATTEMPTS ≤ t.entry.attempts.getD 0 + 1 := hlast
    have hrecorded : t.recorded = t.io.redisPush := if_neg hlast
    simp only [if_neg hlast', hrecorded, held, hsame]
    rw [← add_assoc]
    refine congrArg (· + exhausted t.system.db) ?_
    exact queued_push t.io.redisPush { t.system with toWorld := world } _

variable (cfg) in
/-- After a turn its entry is settled, held or lost; nothing else has moved. -/
theorem turn_accounts (t : Turn) :
    {claimOf t.entry} + held t.system =
      settledIn cfg [t] + lostIn cfg [t] + held (t.after cfg) := by
  rw [settledIn, lostIn, claimsOf_cons, claimsOf_cons, claimsOf_nil, claimsOf_nil]
  cases hcall :
    processParametricPayout cfg.toConfig t.io.settle (dtoOfRetry t.io t.processed t.entry)
      t.system.toWorld with
  | mk result world =>
      cases result with
      | ok payout =>
          have hsettles : t.settles cfg = true := by rw [Turn.settles, hcall]; rfl
          have hletters : world.db.kafkaDLQ = t.system.db.kafkaDLQ := by
            rw [← processParametricPayout_kafkaDLQ cfg.toConfig t.io.settle
              (dtoOfRetry t.io t.processed t.entry) t.system.toWorld, hcall]
          have hheld : held (t.after cfg) = held t.system := by
            rw [Turn.after, retryEntry, hcall]
            simp only [held, exhausted, hletters]
            rfl
          simp [Turn.loses, hsettles, hheld]
      | error e =>
          have hsettles : t.settles cfg = false := by rw [Turn.settles, hcall]; rfl
          rw [held_after_failure t hcall]
          cases hrecorded : t.recorded with
          | true => simp [Turn.loses, hsettles, hrecorded]
          | false => simp [Turn.loses, hsettles, hrecorded]

/-! ## One run of the queue -/

/-- What the queue and the dead letters held before a run is settled, held or lost after it. -/
theorem retryLoop_accounts (cfg : Config) (io : ℕ → RetryIo) (processed fuel : ℕ) (s : System) :
    held s = settledIn cfg (turns cfg io processed fuel s) +
      lostIn cfg (turns cfg io processed fuel s) + held (retryLoop cfg io processed fuel s).2 := by
  induction fuel generalizing processed s with
  | zero => simp [turns, retryLoop, settledIn, lostIn]
  | succ fuel ih =>
      rw [turns, retryLoop]
      cases hpop : popPayoutRetry (io processed).redisPop s.redis with
      | mk entry redis =>
          cases entry with
          | none =>
              have hqueued := queued_pop_none hpop
              simp [settledIn, lostIn, held, hqueued]
          | some entry =>
              have hturn := turn_accounts cfg ⟨io processed, processed + 1, entry, { s with redis }⟩
              have hheld : held s = {claimOf entry} + held { s with redis } := by
                rw [held, held, queued_pop hpop, add_assoc]
              rw [hheld, hturn]
              dsimp only
              cases hentry : retryEntry cfg (io processed) (processed + 1) entry
                  { s with redis } with
              | mk result s' =>
                  have hafter : Turn.after cfg ⟨io processed, processed + 1, entry,
                      { s with redis }⟩ = s' := congrArg Prod.snd hentry
                  rw [hafter]
                  cases result with
                  | error e => rfl
                  | ok _ =>
                      rw [ih (processed + 1) s']
                      simp only [settledIn, lostIn, claimsOf_cons, claimsOf_nil, add_zero]
                      abel

/-! ## Runs -/

/-- The system with a record of every entry that was pushed and of those that were settled. -/
structure Book extends System where
  pushed : Multiset PayoutRetry
  settled : Multiset PayoutRetry

/-- At the start everything pushed so far is still held. -/
def Book.opened (s : System) : Book := ⟨s, held s, 0⟩

inductive QueueOp where
  | processPayout (io : ProcessIo) (params : ProcessPayoutParams)
  | retryQueue (io : ℕ → RetryIo)

variable (cfg)

def batch (io : ℕ → RetryIo) (s : System) : List Turn := turns cfg io 0 PAYOUT_RETRY_BATCH_SIZE s

def handle (b : Book) : QueueOp → Book
  | .processPayout io params =>
      let s := (PayoutService.processPayout cfg io params b.toSystem).2
      ⟨s, b.pushed + (queued s - queued b.toSystem), b.settled⟩
  | .retryQueue io =>
      ⟨(processPayoutRetryQueue cfg io b.toSystem).2, b.pushed,
        b.settled + settledIn cfg (batch cfg io b.toSystem)⟩

/-- Every entry ever pushed is settled, queued or recorded as given up. -/
def NoneLost (b : Book) : Prop := b.pushed ≤ b.settled + held b.toSystem

/-- In a run of the queue the failure of a settlement never goes unrecorded. -/
def FailuresRecorded (b : Book) : QueueOp → Prop
  | .processPayout .. => True
  | .retryQueue io => ∀ t ∈ batch cfg io b.toSystem, t.settles cfg = true ∨ t.recorded = true

/-- The entries that an operation loses. -/
def lostBy (b : Book) : QueueOp → Multiset PayoutRetry
  | .processPayout .. => 0
  | .retryQueue io => lostIn cfg (batch cfg io b.toSystem)

variable {cfg}

/-- A payout call writes no dead letter and takes nothing off the queue. -/
theorem processPayout_held (cfg : Config) (io : ProcessIo) (params : ProcessPayoutParams)
    (s : System) :
    queued s ≤ queued (PayoutService.processPayout cfg io params s).2 ∧
      exhausted (PayoutService.processPayout cfg io params s).2.db = exhausted s.db := by
  have hcases := processPayout_cases cfg io params s
  generalize (PayoutService.processPayout cfg io params s).1 = result at hcases
  generalize (PayoutService.processPayout cfg io params s).2 = s' at hcases ⊢
  cases hcases with
  | refused e db events stopped =>
      obtain ⟨disruptionEvents, rfl⟩ := events.frame
      exact ⟨le_rfl, rfl⟩
  | existing policy h3Cell disruption db row identified found =>
      obtain ⟨⟨disruptionEvents, rfl⟩, -⟩ := findOrCreateEvent_spec identified.event
      exact ⟨le_rfl, rfl⟩
  | handed policy h3Cell disruption db identified free =>
      obtain ⟨⟨disruptionEvents, rfl⟩, -⟩ := findOrCreateEvent_spec identified.event
      have hletters := processParametricPayout_kafkaDLQ cfg.toConfig io.settle
        (settlementOf io params policy h3Cell disruption)
        { s.toWorld with db := { s.db with disruptionEvents } }
      rw [settleOrQueue]
      split
      · rename_i hcall
        rw [hcall] at hletters
        exact ⟨le_rfl, by rw [exhausted, exhausted, hletters]⟩
      · rename_i world hcall
        rw [hcall] at hletters
        refine ⟨?_, by rw [exhausted, exhausted, hletters]⟩
        have hpush := queued_push io.redisPush { s with toWorld := world }
          (retryOf (settlementOf io params policy h3Cell disruption))
        exact (Multiset.le_add_left _ _).trans hpush.ge

variable (cfg) in
/-- The book balances up to what the operation loses. -/
theorem handle_accounts {b : Book} (h : b.pushed = b.settled + held b.toSystem) (op : QueueOp) :
    (handle cfg b op).pushed = (handle cfg b op).settled + held (handle cfg b op).toSystem +
      lostBy cfg b op := by
  cases op with
  | processPayout io params =>
      obtain ⟨hle, hletters⟩ := processPayout_held cfg io params b.toSystem
      obtain ⟨added, hadded⟩ := Multiset.le_iff_exists_add.mp hle
      simp only [handle, lostBy, held, hletters, hadded, h, add_tsub_cancel_left]
      abel
  | retryQueue io =>
      have hrun := retryLoop_accounts cfg io 0 PAYOUT_RETRY_BATCH_SIZE b.toSystem
      simp only [handle, lostBy, batch, processPayoutRetryQueue, h]
      rw [hrun]
      abel

theorem lostBy_eq_zero {b : Book} {op : QueueOp} :
    lostBy cfg b op = 0 ↔ FailuresRecorded cfg b op := by
  cases op with
  | processPayout io params => simp [lostBy, FailuresRecorded]
  | retryQueue io =>
      rw [lostBy, lostIn, claimsOf_eq_zero, FailuresRecorded]
      refine forall₂_congr fun t _ => ?_
      simp [Turn.loses, or_iff_not_imp_left]

theorem not_noneLost_of_card {b : Book}
    (h : (b.settled + held b.toSystem).card < b.pushed.card) : ¬NoneLost b := by
  intro hle
  have hcard := Multiset.card_le_card hle
  omega

/-- An operation that loses an entry leaves it in none of the three places. -/
theorem not_noneLost {b : Book} {lost : Multiset PayoutRetry}
    (h : b.pushed = b.settled + held b.toSystem + lost) (hlost : lost ≠ 0) : ¬NoneLost b := by
  have hpos := Multiset.card_pos.mpr hlost
  apply not_noneLost_of_card
  rw [h, Multiset.card_add _ lost]
  omega

/-- No entry is ever lost exactly when every run of the queue records its failures. -/
theorem always_noneLost_iff (cfg : Config) (s : System) (ops : List QueueOp) :
    Run.Always (handle cfg) NoneLost (Book.opened s) ops ↔
      Run.Along (handle cfg) (FailuresRecorded cfg) (Book.opened s) ops := by
  have hopened : (Book.opened s).pushed = (Book.opened s).settled + held (Book.opened s).toSystem :=
    (zero_add _).symm
  generalize Book.opened s = b at hopened ⊢
  induction ops generalizing b with
  | nil => simp [NoneLost, hopened]
  | cons op ops ih =>
      have hstep := handle_accounts cfg hopened op
      by_cases hlost : lostBy cfg b op = 0
      · rw [hlost, add_zero] at hstep
        have hnow : NoneLost b := hopened.le
        rw [Run.always_cons, Run.along_cons, ← lostBy_eq_zero]
        exact and_congr (iff_of_true hnow hlost) (ih (handle cfg b op) hstep)
      · have hbroken := not_noneLost hstep hlost
        rw [Run.always_cons, Run.along_cons, ← lostBy_eq_zero]
        constructor
        · rintro ⟨-, hrest⟩
          exact absurd hrest.initial hbroken
        · rintro ⟨hzero, -⟩
          exact absurd hzero hlost

end Turns

/-! ## Failures that leave no trace -/

namespace Dropped

open Payouts Payouts.Ungated

/-- Every settlement is turned down by the gateway, and Redis fails at the push. -/
def refusing : RetryIo :=
  { callIo.retry noon with
    settle := { Payments.Sample.ioRefused with payoutId := "po2" }
    redisPush := false }

/-- The gateway turns the settlement down, and the dead letter cannot be written. -/
def unwritable : RetryIo := { refusing with redisPush := true, createDlq := false }

/-- The queue of `system`, its entry having been tried four times. -/
def lastAttempt : System :=
  { system with redis := { payoutRetryQueue := [{ entry with attempts := some 4 }] } }

end Dropped

open Dropped Payouts.Ungated in
/-- An entry whose push fails is gone, and so is one whose dead letter cannot be written. -/
theorem not_always_noneLost :
    ¬Run.Always (handle config) NoneLost (Book.opened system) [.retryQueue fun _ => refusing] ∧
      ¬Run.Always (handle config) NoneLost (Book.opened lastAttempt)
        [.retryQueue fun _ => unwritable] := by
  constructor
  · rintro ⟨-, hlost⟩
    exact not_noneLost_of_card (by decide) hlost
  · rintro ⟨-, hlost⟩
    exact not_noneLost_of_card (by decide) hlost

end Aegis.PayoutService
