import Aegis.Library.TableParts
import Aegis.Library.Unwinding
import Aegis.Model.DemoFlow

/-! # What a driver's demos leave alone

Two stores are alike when they differ in nothing but the rows and records of one driver and in the
zone records of the cells that the driver's demos have written. -/

namespace Aegis.DemoFlow

open Outcome RedisState

/-- The driver of the demos with the ids of the driver's rows, drawn or derived, and the instants at
which a cell's record may be one that a demo wrote. -/
structure Names where
  driver : String
  policy : String → Bool
  event : String → Bool
  payout : String → Bool
  claimCase : String → Bool
  key : String → Bool
  cell : String → ℤ → Bool

namespace Names

variable (N : Names)

def analysisIndex (userId : String) : Bool := userId = N.driver

def payoutIndex : PayoutIndex → Bool
  | .id id => N.payout id
  | .policyId_disruptionEventId policyId _ => N.policy policyId

def claimCaseIndex : ClaimCaseIndex → Bool
  | .id id => N.claimCase id
  | .policyId_disruptionEventId policyId _ => N.policy policyId
  | .payoutId payoutId => N.payout payoutId

def keyIndex : PayoutIdempotencyIndex → Bool
  | .id id => N.key id
  | .userId_h3Cell_eventTimestamp userId _ _ => userId = N.driver

end Names

/-- The zone states that let a claim through, and so the event types that a claim asks for. -/
def IsTriggerState (zoneState : String) : Prop :=
  PARAMETRIC_TRIGGER_STATES.contains (JsString.toUpperCase zoneState) = true

/-- A settlement draws on the liquidity pool. -/
def DrawsPool (env : Gateway.Env) : Prop :=
  env.hasSourceAccount = false ∧ env.isRazorpayTestMode = true

instance (env : Gateway.Env) : Decidable (DrawsPool env) := inferInstanceAs (Decidable (_ ∧ _))

variable (cfg : Payments.Config) (N : Names)

/-- The names are those of the driver's rows and of no others, and nobody else's payout is for an
event of the demos, which no claim asks for. -/
structure Fits (db : Db) : Prop where
  policies : ∀ p ∈ db.policies.rows, N.policy p.id = decide (p.userId = N.driver)
  digests : ∀ p ∈ db.policies.rows, ∀ disruptionEventId eventTimestamp,
    N.key (Idempotency.buildKey cfg.sha256 (Idempotency.claimIdOf p.id disruptionEventId)
      eventTimestamp) = N.policy p.id
  analyses : db.fraudAnalyses.DividedBy N.analysisIndex
  events : ∀ e ∈ db.disruptionEvents.rows, N.event e.id = true → ¬IsTriggerState e.type
  payouts : db.payouts.DividedBy N.payoutIndex
  references : ∀ p ∈ db.payouts.rows, N.policy p.policyId = false →
    N.event p.disruptionEventId = false
  claimCases : db.claimCases.DividedBy N.claimCaseIndex
  keys : db.payoutIdempotencyKeys.DividedBy N.keyIndex

/-- Two stores that differ in the driver's rows only. -/
structure DbView (a b : Db) : Prop where
  left : Fits cfg N a
  right : Fits cfg N b
  users : a.users = b.users
  kycProfiles : a.kycProfiles = b.kycProfiles
  kycPayoutSetups : a.kycPayoutSetups = b.kycPayoutSetups
  claimFingerprints : a.claimFingerprints = b.claimFingerprints
  weeklyPlans : a.weeklyPlans = b.weeklyPlans
  policies : a.policies = b.policies
  analyses : Table.Alike N.analysisIndex a.fraudAnalyses b.fraudAnalyses
  events : Table.Alike N.event a.disruptionEvents b.disruptionEvents
  payouts : Table.Alike N.payoutIndex a.payouts b.payouts
  claimCases : Table.Alike N.claimCaseIndex a.claimCases b.claimCases
  keys : Table.Alike N.keyIndex a.payoutIdempotencyKeys b.payoutIdempotencyKeys
  settings : DrawsPool cfg.env → a.systemSettings = b.systemSettings

variable {cfg N}

theorem dividedBy_events (t : Table DisruptionEvent.keys) : t.DividedBy N.event := by
  intro e _ k hk l hl
  simp only [DisruptionEvent.keys, List.mem_singleton] at hk hl
  rw [hk, hl]

theorem Fits.view {db : Db} (h : Fits cfg N db) : DbView cfg N db db where
  left := h
  right := h
  users := rfl
  kycProfiles := rfl
  kycPayoutSetups := rfl
  claimFingerprints := rfl
  weeklyPlans := rfl
  policies := rfl
  analyses := .refl h.analyses
  events := .refl (dividedBy_events _)
  payouts := .refl h.payouts
  claimCases := .refl h.claimCases
  keys := .refl h.keys
  settings _ := rfl

theorem DbView.symm {a b : Db} (h : DbView cfg N a b) : DbView cfg N b a where
  left := h.right
  right := h.left
  users := h.users.symm
  kycProfiles := h.kycProfiles.symm
  kycPayoutSetups := h.kycPayoutSetups.symm
  claimFingerprints := h.claimFingerprints.symm
  weeklyPlans := h.weeklyPlans.symm
  policies := h.policies.symm
  analyses := h.analyses.symm
  events := h.events.symm
  payouts := h.payouts.symm
  claimCases := h.claimCases.symm
  keys := h.keys.symm
  settings hpool := (h.settings hpool).symm

theorem DbView.trans {a b c : Db} (h : DbView cfg N a b) (h' : DbView cfg N b c) :
    DbView cfg N a c where
  left := h.left
  right := h'.right
  users := h.users.trans h'.users
  kycProfiles := h.kycProfiles.trans h'.kycProfiles
  kycPayoutSetups := h.kycPayoutSetups.trans h'.kycPayoutSetups
  claimFingerprints := h.claimFingerprints.trans h'.claimFingerprints
  weeklyPlans := h.weeklyPlans.trans h'.weeklyPlans
  policies := h.policies.trans h'.policies
  analyses := h.analyses.trans h'.analyses
  events := h.events.trans h'.events
  payouts := h.payouts.trans h'.payouts
  claimCases := h.claimCases.trans h'.claimCases
  keys := h.keys.trans h'.keys
  settings hpool := (h.settings hpool).trans (h'.settings hpool)

/-! ## Redis and the zone sets -/

section Redis

variable (N)

/-- Two Redis states that differ in the driver's records and in the demos' zone records only. -/
structure RedisView (a b : Redis) : Prop where
  zones : ∀ h3Cell now, N.cell h3Cell now = false →
    RedisState.get a.zones now h3Cell = RedisState.get b.zones now h3Cell
  drivers : ∀ driverId, driverId ≠ N.driver → a.drivers driverId = b.drivers driverId
  policies : ∀ policyId, N.policy policyId = false → a.policies policyId = b.policies policyId

/-- The members of a zone other than the driver. -/
def othersIn (now : ℤ) (h3Cell : String) (roster : ZoneRoster) : List String :=
  (sMembers roster.drivers now h3Cell).filter fun driverId => driverId ≠ N.driver

/-- The zone sets of the cells that are not marked list the same drivers otherwise. -/
def RosterView (a b : ZoneRoster) : Prop :=
  ∀ now h3Cell, N.cell h3Cell now = false → othersIn N now h3Cell a = othersIn N now h3Cell b

/-- A record that is written at this instant, and the one that it replaces, live in marked
instants only. -/
structure Marked (now : ℤ) (h3Cell : String) {α : Type} (replaced : Option (Entry α)) : Prop where
  written : ∀ now' < now + ZONE_STATE_TTL * 1000, N.cell h3Cell now' = true
  replaced : ∀ entry ∈ replaced, ∀ now' < entry.expiresAt, N.cell h3Cell now' = true

variable {N} {a b c : Redis}

theorem RedisView.refl (a : Redis) : RedisView N a a :=
  ⟨fun _ _ _ => rfl, fun _ _ => rfl, fun _ _ => rfl⟩

theorem RedisView.symm (h : RedisView N a b) : RedisView N b a :=
  ⟨fun cell now hcell => (h.zones cell now hcell).symm, fun d hd => (h.drivers d hd).symm,
    fun p hp => (h.policies p hp).symm⟩

theorem RedisView.trans (h : RedisView N a b) (h' : RedisView N b c) : RedisView N a c :=
  ⟨fun cell now hcell => (h.zones cell now hcell).trans (h'.zones cell now hcell),
    fun d hd => (h.drivers d hd).trans (h'.drivers d hd),
    fun p hp => (h.policies p hp).trans (h'.policies p hp)⟩

theorem RedisView.getDriverState (h : RedisView N a b) {driverId : String}
    (hd : driverId ≠ N.driver) (up : Bool) (now : ℤ) :
    getDriverState up now a driverId = getDriverState up now b driverId := by
  simp only [RedisState.getDriverState, RedisState.get, h.drivers driverId hd]

theorem RedisView.getPolicyState (h : RedisView N a b) {policyId : String}
    (hp : N.policy policyId = false) (up : Bool) (now : ℤ) :
    getPolicyState up now a policyId = getPolicyState up now b policyId := by
  simp only [RedisState.getPolicyState, RedisState.get, h.policies policyId hp]

theorem RedisView.getZoneState (h : RedisView N a b) {up : Bool} {now : ℤ} {h3Cell : String}
    (hcell : up = true → N.cell h3Cell now = false) :
    getZoneState up now a h3Cell = getZoneState up now b h3Cell := by
  cases up with
  | false => rfl
  | true => simp only [RedisState.getZoneState, if_true, h.zones h3Cell now (hcell rfl)]

/-- Both sides write the same record. -/
theorem RedisView.setDriverState (h : RedisView N a b) (up : Bool) (now : ℤ) (driverId : String)
    (payload : DriverState) :
    RedisView N (setDriverState up now a driverId payload)
      (setDriverState up now b driverId payload) := by
  cases up with
  | false => exact h
  | true =>
      refine ⟨h.zones, fun d hd => ?_, h.policies⟩
      by_cases hdriver : d = driverId
      · simp [RedisState.setDriverState, setEx, hdriver]
      · simp [RedisState.setDriverState, setEx, hdriver, h.drivers d hd]

theorem RedisView.setPolicyState (h : RedisView N a b) (up : Bool) (now : ℤ) (policyId : String)
    (payload : PolicyState) :
    RedisView N (setPolicyState up now a policyId payload)
      (setPolicyState up now b policyId payload) := by
  cases up with
  | false => exact h
  | true =>
      refine ⟨h.zones, h.drivers, fun p hp => ?_⟩
      by_cases hpolicy : p = policyId
      · simp [RedisState.setPolicyState, setEx, hpolicy]
      · simp [RedisState.setPolicyState, setEx, hpolicy, h.policies p hp]

/-- The driver's own records. -/
theorem RedisView.setDriverState_own (up : Bool) (now : ℤ) (payload : DriverState) :
    RedisView N a (RedisState.setDriverState up now a N.driver payload) := by
  cases up with
  | false => exact .refl a
  | true =>
      refine ⟨fun _ _ _ => rfl, fun d hd => ?_, fun _ _ => rfl⟩
      simp [RedisState.setDriverState, setEx, hd]

theorem RedisView.setPolicyState_own {policyId : String} (hp : N.policy policyId = true) (up : Bool)
    (now : ℤ) (payload : PolicyState) :
    RedisView N a (RedisState.setPolicyState up now a policyId payload) := by
  cases up with
  | false => exact .refl a
  | true =>
      refine ⟨fun _ _ _ => rfl, fun _ _ => rfl, fun p hp' => ?_⟩
      have hne : p ≠ policyId := fun heq => by rw [heq, hp] at hp'; cases hp'
      simp [RedisState.setPolicyState, setEx, hne]

/-- Unmarked, the instant is one at which both records have expired. -/
theorem Marked.expired {now now' : ℤ} {h3Cell : String} {α : Type} {replaced : Option (Entry α)}
    (h : Marked N now h3Cell replaced) (hcell : N.cell h3Cell now' = false) :
    ¬now' < now + ZONE_STATE_TTL * 1000 ∧ ∀ entry ∈ replaced, ¬now' < entry.expiresAt := by
  constructor
  · intro hlt
    rw [h.written now' hlt] at hcell
    cases hcell
  · intro entry hentry hlt
    rw [h.replaced entry hentry now' hlt] at hcell
    cases hcell

theorem get_eq_none_of_expired {α : Type} {cache : String → Option (Entry α)} {now : ℤ}
    {key : String} (h : ∀ entry ∈ cache key, ¬now < entry.expiresAt) :
    RedisState.get cache now key = none := by
  rw [RedisState.get, Option.bind_eq_none_iff]
  exact fun entry hentry => if_neg (h entry hentry)

/-- A zone record under a marked cell. -/
theorem RedisView.setZoneState_own {up : Bool} {now : ℤ} {h3Cell : String} (payload : ZoneState)
    (hmarked : Marked N now h3Cell (a.zones h3Cell)) :
    RedisView N a (RedisState.setZoneState up now a h3Cell payload) := by
  cases up with
  | false => exact .refl a
  | true =>
      refine ⟨fun cell now' hcell => ?_, fun _ _ => rfl, fun _ _ => rfl⟩
      by_cases hne : cell = h3Cell
      · subst hne
        obtain ⟨hlate, hreplaced⟩ := hmarked.expired hcell
        rw [get_eq_none_of_expired hreplaced]
        simp [RedisState.setZoneState, RedisState.get, setEx, hlate]
      · simp [RedisState.setZoneState, RedisState.get, setEx, hne]

/-! ### The zone sets -/

variable {r r' r'' : ZoneRoster}

theorem RosterView.refl (r : ZoneRoster) : RosterView N r r := fun _ _ _ => rfl

theorem RosterView.symm (h : RosterView N r r') : RosterView N r' r :=
  fun now h3Cell hcell => (h now h3Cell hcell).symm

theorem RosterView.trans (h : RosterView N r r') (h' : RosterView N r' r'') : RosterView N r r'' :=
  fun now h3Cell hcell => (h now h3Cell hcell).trans (h' now h3Cell hcell)

/-- The zone that the driver leaves keeps its other members. -/
theorem others_sRem (sets : String → Option (Entry (List String))) (zone : String) (now : ℤ)
    (h3Cell : String) :
    (sMembers (sRem sets zone N.driver) now h3Cell).filter (fun d => d ≠ N.driver) =
      (sMembers sets now h3Cell).filter fun d => d ≠ N.driver := by
  by_cases hzone : h3Cell = zone
  · subst hzone
    cases hentry : sets h3Cell with
    | none => simp [sMembers, RedisState.get, sRem, hentry]
    | some entry =>
        by_cases hlive : now < entry.expiresAt
        · simp [sMembers, RedisState.get, sRem, hentry, hlive, List.filter_filter]
        · simp [sMembers, RedisState.get, sRem, hentry, hlive]
  · simp [sMembers, RedisState.get, sRem, hzone]

/-- The driver joins the drivers of a marked cell. -/
theorem RosterView.addDriverToZone_own {up : Bool} {h3Cell : String}
    (hmarked : Marked N r.now h3Cell (r.drivers h3Cell)) :
    RosterView N r (r.addDriverToZone up h3Cell N.driver) := by
  cases up with
  | false => exact .refl r
  | true =>
      intro now cell hcell
      by_cases hne : cell = h3Cell
      · subst hne
        obtain ⟨hlate, hreplaced⟩ := hmarked.expired hcell
        have hafter : RedisState.get (r.addDriverToZone true cell N.driver).drivers now cell =
            none := by
          have hlate' : ¬now < r.now + ZONE_DRIVER_TTL * 1000 := hlate
          simp [ZoneRoster.addDriverToZone, sAdd, RedisState.get, setEx, hlate']
        rw [othersIn, othersIn, sMembers, sMembers, hafter, get_eq_none_of_expired hreplaced]
      · have hother : ∀ sets, sMembers (sAdd sets r.now ZONE_DRIVER_TTL h3Cell N.driver) now cell =
            sMembers sets now cell := by
          intro sets
          rw [sMembers, sMembers, sAdd, get_setEx_of_ne _ _ _ _ _ hne]
        unfold othersIn ZoneRoster.addDriverToZone
        rw [if_pos rfl, hother]
        cases r.leftZone h3Cell N.driver with
        | none => rfl
        | some zone => exact (others_sRem _ _ _ _).symm

end Redis

/-! ## The whole state -/

section Fleet

variable (cfg N)

structure SystemView (a b : System) : Prop where
  db : DbView cfg N a.db b.db
  redis : RedisView N a.redis b.redis

structure FleetView (a b : Fleet) : Prop where
  system : SystemView cfg N a.system b.system
  roster : RosterView N a.roster b.roster

variable {cfg N}

theorem SystemView.symm {a b : System} (h : SystemView cfg N a b) : SystemView cfg N b a :=
  ⟨h.db.symm, h.redis.symm⟩

theorem SystemView.trans {a b c : System} (h : SystemView cfg N a b) (h' : SystemView cfg N b c) :
    SystemView cfg N a c := ⟨h.db.trans h'.db, h.redis.trans h'.redis⟩

theorem Fits.systemView {s : System} (h : Fits cfg N s.db) : SystemView cfg N s s :=
  ⟨h.view, .refl _⟩

theorem FleetView.symm {a b : Fleet} (h : FleetView cfg N a b) : FleetView cfg N b a :=
  ⟨h.system.symm, h.roster.symm⟩

theorem FleetView.trans {a b c : Fleet} (h : FleetView cfg N a b) (h' : FleetView cfg N b c) :
    FleetView cfg N a c := ⟨h.system.trans h'.system, h.roster.trans h'.roster⟩

theorem Fits.fleetView {fleet : Fleet} (h : Fits cfg N fleet.system.db) :
    FleetView cfg N fleet fleet := ⟨h.systemView, .refl _⟩

end Fleet

end Aegis.DemoFlow
