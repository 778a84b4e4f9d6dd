import Aegis.Verification.Demo.Flow

/-! # Demos and the other drivers

Runs of claims and scans between which a driver makes demos, beside the same runs without them. -/

namespace Aegis.DemoFlow

open Outcome RedisState InsuranceService ClaimOrchestratorService Unwinding

variable {cfg : InsuranceService.Config} {N : Names}

/-! ## Claims one after the other -/

section Claims

variable {s t : System} {claims claims' : List Claim}

/-- The claim of another driver reads no record of a demo; one of the driver comes to nothing. -/
structure SafeClaim (cfg : InsuranceService.Config) (N : Names) (s : System) (claim : Claim) :
    Prop where
  others : claim.driverId ≠ N.driver → OfOther N claim ∧ ReadsApart cfg N claim s.redis
  own : claim.driverId = N.driver → refused cfg claim s = true ∧
    ∀ lat lng, FraudService.isClaimEvent (fraudDto claim.dto lat lng) = false

def isOthers (driverId : String) (claim : Claim) : Bool := claim.driverId ≠ driverId

/-- What drivers other than this one are answered. -/
def answersOfOthers (driverId : String) (answers : List (String × Except Exn InsuranceResult)) :
    List (String × Except Exn InsuranceResult) :=
  answers.filter fun answer => answer.1 ≠ driverId

theorem evaluate_own (h : Fits cfg.payout.toConfig N s.db) {claim : Claim}
    (hdriver : claim.driverId = N.driver) (hsafe : SafeClaim cfg N s claim) :
    SystemView cfg.payout.toConfig N s (evaluate cfg s claim).2 :=
  processInsurance_own h hdriver (hsafe.own hdriver).1 (hsafe.own hdriver).2

theorem evaluate_laws : Laws (evaluate cfg) (isOthers N.driver) (SystemView cfg.payout.toConfig N)
    (fun _ _ => True) (SafeClaim cfg N) where
  hidden s t claim h hsafe hown :=
    h.trans (evaluate_own h.db.right (by simpa [isOthers] using hown) hsafe)
  shown s t claim h _ hsafe hothers := by
    obtain ⟨hother, hreads⟩ := hsafe.others (by simpa [isOthers] using hothers)
    obtain ⟨hanswer, hview⟩ := processInsurance_view h hother hreads
    exact ⟨congrArg (Prod.mk claim.driverId) hanswer, hview⟩

theorem evaluateAll_snd (s : System) (claims : List Claim) :
    (evaluateAll cfg s claims).2 = Run.final (next (evaluate cfg)) s claims := by
  induction claims generalizing s with
  | nil => rfl
  | cons claim claims ih => exact ih _

theorem answersOfOthers_evaluateAll (driverId : String) (s : System) (claims : List Claim) :
    answersOfOthers driverId (evaluateAll cfg s claims).1 =
      answers (evaluate cfg) (isOthers driverId) s claims := by
  induction claims generalizing s with
  | nil => rfl
  | cons claim claims ih =>
      have hrest := ih (next (evaluate cfg) s claim)
      have hdriver : (evaluate cfg s claim).1.1 = claim.driverId := rfl
      by_cases hother : claim.driverId = driverId
      · simpa [evaluateAll, answersOfOthers, answers, isOthers, next, hdriver, hother] using hrest
      · simpa [evaluateAll, answersOfOthers, answers, isOthers, next, hdriver, hother] using hrest

/-- Two lists with the same claims of other drivers. -/
theorem evaluateAll_view (h : SystemView cfg.payout.toConfig N s t)
    (hsame : claims.filter (isOthers N.driver) = claims'.filter (isOthers N.driver))
    (hs : Run.Along (next (evaluate cfg)) (SafeClaim cfg N) s claims)
    (ht : Run.Along (next (evaluate cfg)) (SafeClaim cfg N) t claims') :
    answersOfOthers N.driver (evaluateAll cfg s claims).1 =
        answersOfOthers N.driver (evaluateAll cfg t claims').1 ∧
      SystemView cfg.payout.toConfig N (evaluateAll cfg s claims).2
        (evaluateAll cfg t claims').2 := by
  have hfree : ∀ {x : System} {list : List Claim},
      Run.Along (next (evaluate cfg)) (fun _ _ => True) x list :=
    Run.along_of_forall (fun _ _ => trivial) _
  obtain ⟨hanswers, hview⟩ := evaluate_laws.run h.db.left.systemView hfree hs
  obtain ⟨hanswers', hview'⟩ := evaluate_laws.run h hfree ht
  rw [hsame] at hanswers hview
  rw [answersOfOthers_evaluateAll, answersOfOthers_evaluateAll, evaluateAll_snd, evaluateAll_snd]
  exact ⟨hanswers.symm.trans hanswers', hview.symm.trans hview'⟩

end Claims

/-! ## The zones of a scan -/

section Zones

variable {io : ScanIo} {h3Cell : String} {timestamp : Option ℤ} {s t : Fleet}

/-- The claims that are evaluated for a zone. -/
def zoneClaims (io : ScanIo) (h3Cell : String) (timestamp : Option ℤ) (fleet : Fleet) :
    List Claim :=
  ((fleet.rosterAt (io.turn h3Cell)).getZoneDrivers (io.rosterUp h3Cell) h3Cell).map
    (autoClaim io h3Cell (timestamp.getD (io.turn h3Cell / 1000)))

/-- The list of the zone is none that a demo may have written, and its claims are safe. -/
def SafeZone (cfg : InsuranceService.Config) (N : Names) (io : ScanIo) (timestamp : Option ℤ)
    (fleet : Fleet) (h3Cell : String) : Prop :=
  ¬Reads N (io.rosterUp h3Cell) (io.turn h3Cell) h3Cell ∧
    Run.Along (next (evaluate cfg)) (SafeClaim cfg N) fleet.system
      (zoneClaims io h3Cell timestamp fleet)

theorem zoneClaims_view (h : RosterView N s.roster t.roster)
    (hcell : ¬Reads N (io.rosterUp h3Cell) (io.turn h3Cell) h3Cell) :
    (zoneClaims io h3Cell timestamp s).filter (isOthers N.driver) =
      (zoneClaims io h3Cell timestamp t).filter (isOthers N.driver) := by
  unfold zoneClaims
  rw [List.filter_map, List.filter_map]
  cases hup : io.rosterUp h3Cell with
  | false => rfl
  | true =>
      rw [hup] at hcell
      exact congrArg (List.map _) (h _ h3Cell (not_reads.mp hcell rfl))

theorem orchestrateZoneClaims_view (h : FleetView cfg.payout.toConfig N s t)
    (hs : SafeZone cfg N io timestamp s h3Cell) (ht : SafeZone cfg N io timestamp t h3Cell) :
    answersOfOthers N.driver (orchestrateZoneClaims cfg io h3Cell timestamp s).1 =
        answersOfOthers N.driver (orchestrateZoneClaims cfg io h3Cell timestamp t).1 ∧
      FleetView cfg.payout.toConfig N (orchestrateZoneClaims cfg io h3Cell timestamp s).2
        (orchestrateZoneClaims cfg io h3Cell timestamp t).2 := by
  obtain ⟨hanswers, hview⟩ :=
    evaluateAll_view h.system (zoneClaims_view h.roster hs.1) hs.2 ht.2
  exact ⟨hanswers, hview, h.roster⟩

/-- What the turn of a zone leaves behind. -/
def afterZone (cfg : InsuranceService.Config) (io : ScanIo) (fleet : Fleet) (h3Cell : String) :
    Fleet := (orchestrateZoneClaims cfg io h3Cell none fleet).2

theorem orchestrateZones_view {cells : List String} (h : FleetView cfg.payout.toConfig N s t)
    (hs : Run.Along (afterZone cfg io) (SafeZone cfg N io none) s cells)
    (ht : Run.Along (afterZone cfg io) (SafeZone cfg N io none) t cells) :
    answersOfOthers N.driver (orchestrateZones cfg io cells s).1 =
        answersOfOthers N.driver (orchestrateZones cfg io cells t).1 ∧
      FleetView cfg.payout.toConfig N (orchestrateZones cfg io cells s).2
        (orchestrateZones cfg io cells t).2 := by
  induction cells generalizing s t with
  | nil => exact ⟨rfl, h⟩
  | cons h3Cell cells ih =>
      obtain ⟨hanswers, hview⟩ := orchestrateZoneClaims_view h hs.1 ht.1
      obtain ⟨hrest, hfinal⟩ := ih hview hs.2 ht.2
      refine ⟨?_, hfinal⟩
      simp only [orchestrateZones, answersOfOthers, List.filter_append] at hanswers hrest ⊢
      rw [hanswers, hrest]

/-- The zone records that the scan reads are none that a demo may have written, and the zones that
it finds halted are safe. -/
def SafeScan (cfg : InsuranceService.Config) (N : Names) (io : ScanIo) (fleet : Fleet) : Prop :=
  (∀ key ∈ io.keys, isZoneKey key = true → ¬Reads N io.redisUp io.now (cellOfKey key)) ∧
    Run.Along (afterZone cfg io) (SafeZone cfg N io none) fleet
      ((getAllHaltedZones io.redisUp io.now fleet.system.redis io.keys).map Prod.fst)

theorem getAllHaltedZones_view {a b : Redis} (h : RedisView N a b)
    (hkeys : ∀ key ∈ io.keys, isZoneKey key = true → ¬Reads N io.redisUp io.now (cellOfKey key)) :
    getAllHaltedZones io.redisUp io.now a io.keys =
      getAllHaltedZones io.redisUp io.now b io.keys := by
  unfold getAllHaltedZones
  split
  · rename_i hup
    refine List.filterMap_congr fun key hkey => ?_
    obtain ⟨hmem, hzone⟩ := List.mem_filter.mp hkey
    rw [h.zones (cellOfKey key) io.now (not_reads.mp (hkeys key hmem hzone) hup)]
  · rfl

theorem orchestrateAutoClaims_view (h : FleetView cfg.payout.toConfig N s t)
    (hs : SafeScan cfg N io s) (ht : SafeScan cfg N io t) :
    answersOfOthers N.driver (orchestrateAutoClaims cfg io s).1 =
        answersOfOthers N.driver (orchestrateAutoClaims cfg io t).1 ∧
      FleetView cfg.payout.toConfig N (orchestrateAutoClaims cfg io s).2
        (orchestrateAutoClaims cfg io t).2 := by
  have hzones : getAllHaltedZones io.redisUp io.now s.system.redis io.keys =
      getAllHaltedZones io.redisUp io.now t.system.redis io.keys :=
    getAllHaltedZones_view h.system.redis hs.1
  unfold orchestrateAutoClaims
  rw [hzones]
  exact orchestrateZones_view h (hzones ▸ hs.2) ht.2

end Zones

/-! ## Runs -/

/-- What the drivers and the clock bring about: a demo of the one driver, a claim of any, the
evaluation of one zone and the scan for the halted ones. -/
inductive Act where
  | demo (io : DemoIo) (dto : DriverDemoTriggerDto)
  | claim (claim : Claim)
  | zone (io : ScanIo) (h3Cell : String) (eventTimestamp : Option ℤ)
  | scan (io : ScanIo)

namespace Act

def isDemo : Act → Bool
  | .demo .. => true
  | _ => false

end Act

/-- The answers to the other drivers, and the state that the act leaves behind. -/
def act (cfg : InsuranceService.Config) (driverId : String) (fleet : Fleet) :
    Act → List (String × Except Exn InsuranceResult) × Fleet
  | .demo io dto => ([], (runDriverDemoTriggerFlow cfg io driverId dto fleet).2)
  | .claim claim =>
      let (answers, system) := evaluateAll cfg fleet.system [claim]
      (answersOfOthers driverId answers, { fleet with system })
  | .zone io h3Cell eventTimestamp =>
      let (answers, fleet) := orchestrateZoneClaims cfg io h3Cell eventTimestamp fleet
      (answersOfOthers driverId answers, fleet)
  | .scan io =>
      let (answers, fleet) := orchestrateAutoClaims cfg io fleet
      (answersOfOthers driverId answers, fleet)

/-- The act meets no record of a demo but where it makes one itself. -/
def SafeAct (cfg : InsuranceService.Config) (N : Names) (fleet : Fleet) : Act → Prop
  | .demo io dto => Contained cfg N io dto fleet
  | .claim claim => SafeClaim cfg N fleet.system claim
  | .zone io h3Cell eventTimestamp => SafeZone cfg N io eventTimestamp fleet h3Cell
  | .scan io => SafeScan cfg N io fleet

theorem act_laws : Laws (act cfg N.driver) (fun a => !a.isDemo) (FleetView cfg.payout.toConfig N)
    (SafeAct cfg N) (SafeAct cfg N) where
  hidden s t a h hsafe hdemo := by
    cases a with
    | demo io dto => exact h.trans (runDriverDemoTriggerFlow_own h.system.db.right hsafe)
    | claim | zone | scan => cases hdemo
  shown s t a h hfree hsafe hdemo := by
    cases a with
    | demo => cases hdemo
    | claim claim =>
        have hs : Run.Along (next (evaluate cfg)) (SafeClaim cfg N) s.system [claim] :=
          ⟨hfree, trivial⟩
        have ht : Run.Along (next (evaluate cfg)) (SafeClaim cfg N) t.system [claim] :=
          ⟨hsafe, trivial⟩
        obtain ⟨hanswers, hview⟩ := evaluateAll_view h.system rfl hs ht
        exact ⟨hanswers, hview, h.roster⟩
    | zone io h3Cell eventTimestamp => exact orchestrateZoneClaims_view h hfree hsafe
    | scan io => exact orchestrateAutoClaims_view h hfree hsafe

/-- The other drivers are answered as if the driver had made no demos. -/
def Unseen (cfg : InsuranceService.Config) (driverId : String) (fleet : Fleet) (acts : List Act) :
    Prop :=
  answers (act cfg driverId) (fun a => !a.isDemo) fleet (acts.filter fun a => !a.isDemo) =
    answers (act cfg driverId) (fun a => !a.isDemo) fleet acts

theorem demos_unseen {fleet : Fleet} {acts : List Act}
    (h : Fits cfg.payout.toConfig N fleet.system.db)
    (hwithout : Run.Along (next (act cfg N.driver)) (SafeAct cfg N) fleet
      (acts.filter fun a => !a.isDemo))
    (hwith : Run.Along (next (act cfg N.driver)) (SafeAct cfg N) fleet acts) :
    Unseen cfg N.driver fleet acts := (act_laws.run h.fleetView hwithout hwith).1

namespace Sample

open Cleared

def cell : String := "8860145b5dfffff"

def elsewhere : String := "8860145b59fffff"

/-- Two drivers with a policy each. -/
def db : Db where
  users := ⟨[driver, { driver with id := "u2", email := "rider@mail.in" }], by decide⟩
  kycPayoutSetups :=
    ⟨[Payments.Sample.payoutSetup, { Payments.Sample.payoutSetup with userId := "u2" }], by decide⟩
  policies := ⟨[policy, { policy with id := "p2", userId := "u2" }], by decide⟩

def fleet (zones : String → Option (Entry ZoneState)) : Fleet where
  system :=
    { db
      redis := { (store cell).redis with zones } }
  roster := { now }

/-- The first driver claims from `cell`. -/
def claim : Claim := ⟨"u1", evaluateIo silent, {}⟩

/-- The second driver makes a demo. -/
def demo (h3Cell : String) : Act :=
  .demo
    { fraud := FraudService.smooth silent
      readPolicy := true
      monitored := {}
      calculate := (evaluateIo silent).calculate
      process := { (evaluateIo silent).process with
        eventId := "e3"
        settle := { Payments.Sample.io with payoutId := "po3", claimCaseId := "cc3" } }
      readSettled := true }
    { h3Cell := some h3Cell }

def names : Names where
  driver := "u2"
  policy id := id = "p2"
  event id := id = "e3"
  payout id := id = "po3"
  claimCase id := id = "cc3"
  key id := id.toList.take 2 = ['p', '2']
  cell h3Cell now' := h3Cell = elsewhere && now' < now + ZONE_STATE_TTL * 1000

theorem fits_names : Fits services.payout.toConfig names db where
  policies := by decide
  digests := by
    intro p hp disruptionEventId eventTimestamp
    simp only [db, List.mem_cons, List.not_mem_nil, or_false] at hp
    rcases hp with rfl | rfl
    · simp [names, services, Payments.Sample.cfg, Idempotency.buildKey, Idempotency.claimIdOf,
        policy, Payments.Sample.policy]
    · simp [names, services, Payments.Sample.cfg, Idempotency.buildKey, Idempotency.claimIdOf]
  analyses := by intro r hr; cases hr
  events := by intro r hr; cases hr
  payouts := by intro r hr; cases hr
  references := by intro r hr; cases hr
  claimCases := by intro r hr; cases hr
  keys := by intro r hr; cases hr

theorem marked_elsewhere {α : Type} : Marked names now elsewhere (none : Option (Entry α)) where
  written now' hlt := by simp [names, hlt]
  replaced _ hentry := by cases hentry

theorem contained_elsewhere (zones : String → Option (Entry ZoneState))
    (hzones : zones elsewhere = none) :
    SafeAct services names (fleet zones) (demo elsewhere) where
  zone policy _ := by
    have hcell : (fleet zones).system.redis.zones elsewhere = none := hzones
    exact hcell ▸ marked_elsewhere
  listed _ _ := marked_elsewhere
  pool := by decide
  event := by decide
  draws := ⟨by decide, by decide⟩

theorem other_claim : OfOther names claim where
  driver := by decide
  event := by decide
  draws := ⟨by decide, by decide⟩

/-- The claim looks at the record of its own cell, which has a loss. -/
theorem safe_claim {s : System}
    (hplace : position services claim.io "u1" {} s.redis = ⟨some 13, some 80, some cell⟩)
    (hloss : zoneLossFraction services claim.io "u1" {} s.redis ≠ 0) :
    SafeClaim services names s claim where
  others _ := by
    refine ⟨other_claim, ?_, fun hzero => absurd hzero hloss⟩
    intro h3Cell hcell
    have hposition : position services claim.io claim.driverId claim.dto s.redis =
      ⟨some 13, some 80, some cell⟩ := hplace
    rw [hposition] at hcell
    cases hcell
    exact ⟨by decide, by decide⟩
  own hdriver := absurd hdriver (by decide)

end Sample

open Sample in
theorem demos_unseen_elsewhere :
    Unseen Cleared.services "u2" (fleet (Cleared.store cell).redis.zones)
      [demo elsewhere, .claim claim] := by
  refine demos_unseen (N := names) fits_names ⟨?_, trivial⟩ ⟨?_, ?_, trivial⟩
  · exact safe_claim (by decide +kernel) (by decide +kernel)
  · exact contained_elsewhere _ (by decide)
  · exact safe_claim (by decide +kernel) (by decide +kernel)

open Sample in
/-- A demo under the cell of the other driver gets the claim of that driver paid. -/
theorem not_demos_unseen :
    ¬ Unseen Cleared.services "u2" (fleet fun _ => none) [demo cell, .claim claim] := by
  intro h
  have hpaid := congrArg (List.map fun answers => answers.map fun answer =>
    answer.2.toOption.map InsuranceResult.payout) h
  revert hpaid
  decide +kernel

end Aegis.DemoFlow
