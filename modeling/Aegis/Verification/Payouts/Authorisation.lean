import Aegis.Verification.Payments.Payable
import Aegis.Verification.Payments.Retry
import Aegis.Verification.Payouts.Requests

/-! # The parametric rule and the entry points

The gates stand in `processPayout`; the other callers of the settlement are compared with
them request by request. -/

namespace Aegis.Payouts

open Outcome RedisState Payments PayoutService PayoutEndpoints

/-! ## The property -/

/-- The parametric rule for a settlement request: the driver's policy is in force, the driver
is eligible, and the policy's zone is the cell of the claim and halted. -/
structure AuthorisedBy (cfg : PayoutService.Config) (moment : Moment) (s : System)
    (dto : ParametricPayoutDto) (policy : Policy) : Prop where
  found : s.db.policies.findUnique dto.policyId = some policy
  owner : policy.userId = dto.userId
  active : policy.status = .ACTIVE
  started : policy.startDate ≤ moment.now
  unexpired : moment.now < policy.endDate
  eligible :
    (Eligibility.assertDriverPolicyEligibility cfg.eligibility true moment.now s.db dto.userId
    (some policy.planType)).isOk = true
  zone : (getPolicyState moment.redisUp moment.now s.redis policy.id).bind PolicyState.zone =
    some dto.h3Cell
  halted : zoneLabel (getZoneState moment.redisUp moment.now s.redis dto.h3Cell) = "HALTED"

def Authorised (cfg : PayoutService.Config) (moment : Moment) (s : System)
    (dto : ParametricPayoutDto) : Prop :=
  ∃ policy, AuthorisedBy cfg moment s dto policy

/-- Whatever the other operations do, the request moves money only under the rule. -/
def Safe (cfg : PayoutService.Config) (moment : Moment) (s : System) (r : Request) : Prop :=
  ∀ io, (serve cfg moment io s r).transfers ≠ s.transfers →
    ∃ dto s', settles cfg moment io s r = some (dto, s') ∧ Authorised cfg moment s dto

/-! ## The gates of `processPayout` -/

section Gates

variable {cfg : PayoutService.Config} {io : ProcessIo} {params : ProcessPayoutParams} {s : System}

theorem truthy_eq_some {v : Option String} {x : String} (h : truthy v = some x) : v = some x := by
  unfold truthy at h
  exact (Option.filter_eq_some_iff.mp h).1

theorem activePolicy_spec {now : ℤ} {db : Db} {driverId : String} {policy : Policy}
    (h : activePolicy now db driverId = some policy) :
    db.policies.findUnique policy.id = some policy ∧ policy.userId = driverId ∧
      policy.status = .ACTIVE ∧ policy.startDate ≤ now ∧ now < policy.endDate := by
  obtain ⟨hmem, hp⟩ := Table.findFirstDesc_eq_some h
  simp only [Bool.and_eq_true, decide_eq_true_eq] at hp
  obtain ⟨⟨⟨huser, hactive⟩, hstart⟩, hend⟩ := hp
  refine ⟨(db.policies.findUnique_eq_some _ _).mpr ⟨hmem, ?_⟩, huser, hactive, hstart, hend⟩
  simp [Policy.keys]

theorem selectPolicy_spec {db : Db} {policy : Policy} (h : selectPolicy io params db = .ok policy) :
    db.policies.findUnique policy.id = some policy ∧ policy.startDate ≤ io.now := by
  obtain ⟨_, -, h⟩ := bind_eq_ok.mp h
  split at h
  · obtain ⟨found, hfound, h⟩ := bind_eq_ok.mp h
    obtain ⟨_, hstart, h⟩ := bind_eq_ok.mp h
    cases h
    have hfind := orThrow_eq_ok.mp hfound
    have hid := Table.key_of_findUnique hfind
    simp only [Policy.keys, List.mem_singleton] at hid
    exact ⟨hid ▸ hfind, require_eq_ok.mp hstart⟩
  · obtain ⟨hfind, -, -, hstart, -⟩ := activePolicy_spec (orThrow_eq_ok.mp h)
    exact ⟨hfind, hstart⟩

theorem eligible_of_readable {env : Eligibility.Env} {readable : Bool} {now : ℤ} {db : Db}
    {userId : String} {planKey : Option String} {standing : Eligibility.Standing}
    (h : Eligibility.assertDriverPolicyEligibility env readable now db userId planKey =
      .ok standing) :
    (Eligibility.assertDriverPolicyEligibility env true now db userId planKey).isOk = true := by
  cases readable with
  | true => exact isOk_iff.mpr ⟨standing, h⟩
  | false =>
      obtain ⟨_, hreadable, -⟩ := bind_eq_ok.mp h
      exact absurd (require_eq_ok.mp hreadable) (by simp)

/-- What has passed the gates meets the rule, whatever event it is about. -/
theorem checkGates_authorised {policy : Policy} {h3Cell : String} {disruption : DisruptionEvent}
    (h : checkGates cfg io params s = .ok (policy, h3Cell)) :
    Authorised cfg ⟨io.now, io.redisUp⟩ s (settlementOf io params policy h3Cell disruption) := by
  obtain ⟨policy', hpolicy, h⟩ := bind_eq_ok.mp h
  obtain ⟨_, howner, h⟩ := bind_eq_ok.mp h
  obtain ⟨_, hactive, h⟩ := bind_eq_ok.mp h
  obtain ⟨_, heligible, h⟩ := bind_eq_ok.mp h
  obtain ⟨cell, -, h⟩ := bind_eq_ok.mp h
  obtain ⟨policyZone, hzone, h⟩ := bind_eq_ok.mp h
  obtain ⟨_, hmatch, h⟩ := bind_eq_ok.mp h
  obtain ⟨_, hhalted, h⟩ := bind_eq_ok.mp h
  cases h
  have hcell := require_eq_ok.mp hmatch
  subst hcell
  obtain ⟨hfound, hstart⟩ := selectPolicy_spec hpolicy
  obtain ⟨hstatus, hend⟩ := require_eq_ok.mp hactive
  exact ⟨policy, hfound, require_eq_ok.mp howner, hstatus, hstart, hend,
    eligible_of_readable heligible, truthy_eq_some (orThrow_eq_ok.mp hzone),
    require_eq_ok.mp hhalted⟩

end Gates

/-! ## All entry points -/

section Requests

variable (cfg : PayoutService.Config) (moment : Moment) (s : System)

/-- The settlements that the request leads to meet the rule wherever the settlement's own
checks let them pass. `processPayout` sees to that itself. -/
def Gated : Request → Prop
  | .processPayout _ => True
  | r => ∀ io dto s', settles cfg moment io s r = some (dto, s') →
      Payable cfg.toConfig dto s'.db → Authorised cfg moment s dto

variable {cfg moment s}

theorem processPayout_authorised {io : CallIo} {params : ProcessPayoutParams}
    {dto : ParametricPayoutDto} {s' : System}
    (h : settles cfg moment io s (.processPayout params) = some (dto, s')) :
    Authorised cfg moment s dto := by
  simp only [settles, settlesProcess] at h
  split at h
  · cases h
  · rename_i hgates
    split at h
    · cases h
    · split at h
      · cases h
        exact checkGates_authorised hgates
      · cases h

/-- The settlement does not depend on how the gateway will answer. -/
theorem settles_settle (io : CallIo) (settle : Payments.Io) (r : Request) :
    settles cfg moment { io with settle } s r = settles cfg moment io s r := by
  cases r <;> rfl

/-- Settlements leave earlier transfers in place. -/
theorem settles_transfers {io : CallIo} {r : Request} {dto : ParametricPayoutDto} {s' : System}
    (h : settles cfg moment io s r = some (dto, s')) : s'.transfers = s.transfers := by
  obtain ⟨_, _, rfl⟩ := settles_left h
  rfl

/-- A request that moves money has led to a payable settlement. -/
theorem payable_of_serve {io : CallIo} {r : Request}
    (h : (serve cfg moment io s r).transfers ≠ s.transfers) :
    ∃ dto s', settles cfg moment io s r = some (dto, s') ∧ Payable cfg.toConfig dto s'.db := by
  rw [serve_transfers] at h
  cases hsettles : settles cfg moment io s r with
  | none =>
      rw [hsettles] at h
      exact absurd rfl h
  | some settlement =>
      obtain ⟨dto, s'⟩ := settlement
      rw [hsettles] at h
      dsimp only at h
      rw [← settles_transfers hsettles] at h
      exact ⟨dto, s', rfl, payable_of_transfers h⟩

/-- A request whose settlement is payable moves money when nothing fails. -/
theorem exists_serve_of_payable {io : CallIo} {r : Request} {dto : ParametricPayoutDto}
    {s' : System} (h : settles cfg moment io s r = some (dto, s'))
    (hpayable : Payable cfg.toConfig dto s'.db) :
    ∃ io', settles cfg moment io' s r = some (dto, s') ∧
      (serve cfg moment io' s r).transfers ≠ s.transfers := by
  have hworld : Payable cfg.toConfig dto s'.toWorld.db := hpayable
  obtain ⟨settle, hsettle⟩ := hworld.exists_transfers
  have hsame : settles cfg moment { io with settle } s r = some (dto, s') := by
    rw [settles_settle, h]
  refine ⟨{ io with settle }, hsame, ?_⟩
  rw [serve_transfers, hsame, ← settles_transfers h]
  exact hsettle

/-- A request is safe exactly when its settlement, wherever it is payable, meets the rule. -/
theorem safe_iff (r : Request) : Safe cfg moment s r ↔ Gated cfg moment s r := by
  constructor
  · intro hsafe
    have hgated : ∀ io dto s', settles cfg moment io s r = some (dto, s') →
        Payable cfg.toConfig dto s'.db → Authorised cfg moment s dto := by
      intro io dto s' hsettles hpayable
      obtain ⟨io', hsame, hmoved⟩ := exists_serve_of_payable hsettles hpayable
      obtain ⟨dto', s'', hsettles', hauthorised⟩ := hsafe io' hmoved
      rw [hsame, Option.some.injEq, Prod.mk.injEq] at hsettles'
      rw [hsettles'.1]
      exact hauthorised
    cases r with
    | processPayout params => trivial
    | _ => exact hgated
  · intro hgated io hmoved
    obtain ⟨dto, s', hsettles, hpayable⟩ := payable_of_serve hmoved
    refine ⟨dto, s', hsettles, ?_⟩
    cases r with
    | processPayout params => exact processPayout_authorised hsettles
    | _ => exact hgated io dto s' hsettles hpayable

end Requests

/-! ## Requests outside the rule -/

namespace Ungated

open Payments.Sample

def config : PayoutService.Config where
  toConfig := cfg
  eligibility := {}

def row : Payout where
  id := "po1"
  policyId := "p1"
  disruptionEventId := "e1"
  status := .PROCESSING
  estimatedLoss := some 850
  approvedPayout := some 800
  transactionId := none
  paymentMethod := none
  processingTime := none
  bankReference := none
  transferredAt := none
  createdAt := 0

def entry : PayoutRetry where
  driverId := "u1"
  policyId := "p1"
  disruptionEventId := "e1"
  h3Cell := "8860145b5dfffff"
  approvedPayout := some 800
  eventTimestamp := some 7200
  attempts := none

/-- A policy in force, an open payout row and a queued retry, but no zone in Redis. -/
def system : System where
  db := { db with payouts := .singleton row }
  redis := { payoutRetryQueue := [entry] }

def noon : Moment := ⟨7200000, true⟩

def callIo : CallIo where
  readPolicy := true
  readEligibility := true
  readEvent := true
  eventId := "e2"
  createEvent := true
  readPayout := true
  readClaim := true
  redisPush := true
  createDlq := true
  settle := { io with payoutId := "po2" }

def driver : Principal := ⟨"u1", .DRIVER⟩

def body : ParametricPayoutRequest where
  policyId := "p1"
  disruptionEventId := "e1"
  eventTimestamp := 7200
  h3Cell := "8860145b5dfffff"
  approvedPayout := 800
  nonneg := by norm_num

theorem not_authorised (dto : ParametricPayoutDto) : ¬ Authorised config noon system dto := by
  rintro ⟨policy, h⟩
  exact absurd h.zone (by simp [getPolicyState, RedisState.get, noon, system])

/-- Here a request is unsafe as soon as it moves money. -/
theorem not_safe {r : Request}
    (hmoved : (serve config noon callIo system r).transfers ≠ system.transfers) :
    ¬ Safe config noon system r := by
  intro h
  obtain ⟨dto, s', -, hauthorised⟩ := h callIo hmoved
  exact not_authorised dto hauthorised

end Ungated

open Ungated in
/-- Without a zone for the policy, four of the five entry points pay all the same. -/
theorem not_safe_ungated :
    ¬ Safe config noon system (.parametricPayout driver body) ∧
      ¬ Safe config noon system (.demoClaim driver none) ∧
      ¬ Safe config noon system (.initiate driver ⟨none, "po1"⟩) ∧
      ¬ Safe config noon system (.retry 0) :=
  ⟨not_safe (by decide), not_safe (by decide), not_safe (by decide),
    not_safe (by decide)⟩

end Aegis.Payouts
