import Aegis.Library.Run
import Aegis.Verification.Insurance.Records
import Aegis.Verification.Payouts.Authorisation

/-! # The zone of a sold policy

Runs of the sales and claim operations against a clock that lets records expire. -/

namespace Aegis.InsuranceService

open Outcome RedisState PayoutService

/-! ## Runs -/

structure Services where
  insurance : Config
  orders : Payments.OrderConfig

/-- The system and its clock, with the zone that each policy was sold with. -/
structure Ledger extends System where
  now : ℤ
  sold : String → Option String := fun _ => none

inductive Op where
  | tick (elapsed : ℕ)
  | enrollPolicy (io : EnrollIo) (driverId plan : String)
  | createOrder (io : Payments.CreateOrderIo) (userId weeklyPlanId : String)
  | verifyPayment (io : Payments.VerifyIo) (userId : String) (dto : Payments.VerifyPaymentDto)
  | renewPolicy (io : RenewIo) (driverId : String)
  | cancelPolicy (io : CancelIo) (driverId : String) (reason : Option String)
  | processInsurance (io : EvaluateIo) (driverId : String) (dto : ProcessInsuranceRequestDto)

section Clock

variable (now : ℤ)

/-! A call reads the clock of the run, and its Redis operations succeed. -/

def EnrollIo.clocked (io : EnrollIo) : EnrollIo := { io with now, redisUp := true }

def premiumClocked (io : PremiumService.PremiumIo) : PremiumService.PremiumIo :=
  { io with now, redisUp := true }

def RenewIo.clocked (io : RenewIo) : RenewIo :=
  { io with now, premium := premiumClocked now io.premium, enroll := io.enroll.clocked now }

def EvaluateIo.clocked (io : EvaluateIo) : EvaluateIo :=
  { io with
    now
    redisUp := true
    fraud := { io.fraud with now, redisUp := true }
    calculate := { io.calculate with now, redisUp := true }
    process := { io.process with now, redisUp := true, redisPush := true } }

end Clock

section Run

variable (cfg : Services)

def serve (s : Ledger) : Op → System
  | .tick _ => s.toSystem
  | .enrollPolicy io driverId plan =>
      (enrollPolicy cfg.insurance (io.clocked s.now) driverId plan s.toSystem).2
  | .createOrder io userId weeklyPlanId =>
      (Payments.createOrder cfg.orders { io with premium := premiumClocked s.now io.premium } userId
        weeklyPlanId s.toSystem).2
  | .verifyPayment io userId dto =>
      { s.toSystem with
        db := (Payments.verifyPayment cfg.orders { io with now := s.now } userId dto s.db).2 }
  | .renewPolicy io driverId =>
      (renewPolicy cfg.insurance (io.clocked s.now) driverId s.toSystem).2
  | .cancelPolicy io driverId reason =>
      (cancelPolicy { io with now := s.now, redisUp := true } driverId reason s.toSystem).2
  | .processInsurance io driverId dto =>
      (processInsurance cfg.insurance (io.clocked s.now) driverId dto s.toSystem).2

def elapsed : Op → ℕ
  | .tick elapsed => elapsed
  | _ => 0

/-- A policy that was not there before is sold with the zone its record now has. -/
def soldAfter (s : Ledger) (after : System) (policyId : String) : Option String :=
  if (s.db.policies.findUnique policyId).isSome then s.sold policyId
  else zoneIn after.redis s.now policyId

def step (s : Ledger) (op : Op) : Ledger where
  toSystem := serve cfg s op
  now := s.now + elapsed op
  sold := soldAfter s (serve cfg s op)

/-- The record of the policy lives and has the zone the policy was sold with. -/
def CarriesZone (s : Ledger) (p : Policy) : Prop :=
  (truthy (zoneIn s.redis s.now p.id)).isSome = true ∧ s.sold p.id = zoneIn s.redis s.now p.id

instance (s : Ledger) (p : Policy) : Decidable (CarriesZone s p) :=
  inferInstanceAs (Decidable (_ ∧ _))

/-- Every policy in force has its zone. -/
def Covered (s : Ledger) : Prop := ∀ p ∈ s.db.policies.rows, InForce s.now p → CarriesZone s p

instance (s : Ledger) : Decidable (Covered s) :=
  inferInstanceAs (Decidable (∀ p ∈ s.db.policies.rows, InForce s.now p → CarriesZone s p))

/-- So has every policy that is still to begin. -/
def Kept (s : Ledger) : Prop := ∀ p ∈ s.db.policies.rows, Unended s.now p → CarriesZone s p

instance (s : Ledger) : Decidable (Kept s) :=
  inferInstanceAs (Decidable (∀ p ∈ s.db.policies.rows, Unended s.now p → CarriesZone s p))

theorem Kept.covered {s : Ledger} (h : Kept s) : Covered s :=
  fun p hp hforce => h p hp hforce.1

/-- No record of a policy that is sold and not over expires, every enrolment is paid into
the pool, and no policy is issued by a verified payment or the renewal of a weekly plan. -/
def Recorded (s : Ledger) : Op → Prop
  | .tick elapsed => ∀ p ∈ s.db.policies.rows, Unended (s.now + elapsed) p →
      (getPolicyState true (s.now + elapsed) s.redis p.id).isSome = true
  | .enrollPolicy io driverId plan =>
      EnrolmentCollected cfg.insurance (io.clocked s.now) driverId plan s.toSystem
  | .verifyPayment io userId dto =>
      ¬Issues cfg.orders { io with now := s.now } userId dto s.db
  | .renewPolicy io driverId =>
      RenewalCarries cfg.insurance (io.clocked s.now) driverId s.toSystem
  | .createOrder .. | .cancelPolicy .. | .processInsurance .. => True

instance (s : Ledger) : ∀ op, Decidable (Recorded cfg s op)
  | .tick _ => inferInstanceAs (Decidable (∀ p ∈ s.db.policies.rows, _))
  | .enrollPolicy .. => inferInstanceAs (Decidable (EnrolmentCollected ..))
  | .verifyPayment .. => inferInstanceAs (Decidable (¬Issues ..))
  | .renewPolicy .. => inferInstanceAs (Decidable (RenewalCarries ..))
  | .createOrder .. | .cancelPolicy .. | .processInsurance .. => .isTrue trivial

variable {cfg}

theorem kept_of_carries {s : Ledger} {op : Op} (hs : Kept s) (hop : elapsed op = 0)
    (hcarries : Carries s.now s.toSystem (serve cfg s op)) : Kept (step cfg s op) := by
  have hnow : (step cfg s op).now = s.now := by simp [step, hop]
  intro p hp hunended
  rw [hnow] at hunended
  have hzone : zoneIn (step cfg s op).redis (step cfg s op).now p.id =
      zoneIn (serve cfg s op).redis s.now p.id := by rw [hnow]; rfl
  rw [CarriesZone, hzone]
  change _ ∧ soldAfter s (serve cfg s op) p.id = _
  rcases hcarries p hp hunended with ⟨hold, hsame⟩ | ⟨hnew, hnonempty⟩
  · have hfound : s.db.policies.findUnique p.id = some p :=
      (Table.findUnique_eq_some _ _ _).mpr ⟨hold, by simp [Policy.keys]⟩
    rw [soldAfter, hfound, hsame]
    exact hs p hold hunended
  · rw [soldAfter, hnew]
    exact ⟨hnonempty, rfl⟩

theorem getPolicyState_earlier {redis : Redis} {now : ℤ} {elapsed : ℕ} {policyId : String}
    (h : (getPolicyState true (now + elapsed) redis policyId).isSome = true) :
    getPolicyState true (now + elapsed) redis policyId =
      getPolicyState true now redis policyId := by
  simp only [getPolicyState, if_true, RedisState.get] at h ⊢
  cases hentry : redis.policies policyId with
  | none => rfl
  | some entry =>
      rw [hentry] at h
      by_cases hlive : now + elapsed < entry.expiresAt
      · have hearlier : now < entry.expiresAt := by omega
        simp [hlive, hearlier]
      · simp [hlive] at h

theorem tick_kept {s : Ledger} {elapsed : ℕ} (hs : Kept s)
    (halive : Recorded cfg s (.tick elapsed)) : Kept (step cfg s (.tick elapsed)) := by
  intro p hp hunended
  have hearlier : Unended s.now p := ⟨hunended.1, by
    have hlater : s.now + elapsed < p.endDate := hunended.2
    omega⟩
  have hfound : s.db.policies.findUnique p.id = some p :=
    (Table.findUnique_eq_some _ _ _).mpr ⟨hp, by simp [Policy.keys]⟩
  have hzone : zoneIn s.redis (s.now + elapsed) p.id = zoneIn s.redis s.now p.id := by
    rw [zoneIn, getPolicyState_earlier (halive p hp hunended), zoneIn]
  change (truthy (zoneIn s.redis (s.now + elapsed) p.id)).isSome = true ∧
    soldAfter s s.toSystem p.id = zoneIn s.redis (s.now + elapsed) p.id
  rw [hzone, soldAfter, hfound]
  exact hs p hp hearlier

theorem step_kept {s : Ledger} {op : Op} (hs : Kept s) (hop : Recorded cfg s op) :
    Kept (step cfg s op) := by
  cases op with
  | tick elapsed => exact tick_kept hs hop
  | enrollPolicy io driverId plan => exact kept_of_carries hs rfl (enrollPolicy_carries rfl hop)
  | createOrder io userId weeklyPlanId =>
      exact kept_of_carries hs rfl (carries_of_same (createOrder_policies _ _ _ _ _))
  | verifyPayment io userId dto =>
      refine kept_of_carries hs rfl (carries_of_mem (fun p hp hunended => ?_) fun _ => rfl)
      exact verifyPayment_mem hop hp hunended
  | renewPolicy io driverId => exact kept_of_carries hs rfl (renewPolicy_carries rfl rfl hop)
  | cancelPolicy io driverId reason =>
      exact kept_of_carries hs rfl (cancelPolicy_carries rfl driverId reason s.toSystem)
  | processInsurance io driverId dto =>
      exact kept_of_carries hs rfl (processInsurance_carries rfl driverId dto s.toSystem)

/-! ## Claims on a covered policy -/

/-- No claim on a policy in force is refused for want of the policy's zone: `processPayout`
does not miss it, and `processInsurance` matches the claim with the zone that was sold. -/
structure ZoneAtHand (cfg : Config) (s : Ledger) : Prop where
  processPayout : ∀ (io : ProcessIo) params, io.now = s.now → io.redisUp = true →
    checkGates cfg.payout io params s.toSystem ≠ .error policyZoneNotSet
  processInsurance : ∀ (io : EvaluateIo) driverId dto policy Ct,
    PremiumService.unendedPolicy s.now s.db driverId = some policy → policy.startDate ≤ s.now →
      ∃ zone, s.sold policy.id = some zone ∧
        truthy (evidenceOf cfg (io.clocked s.now) driverId dto policy Ct s.toSystem).policyZone =
          some zone

theorem eligibility_ne {env : Eligibility.Env} {readable : Bool} {now : ℤ} {db : Db}
    {userId message : String} {planKey : Option String} :
    Eligibility.assertDriverPolicyEligibility env readable now db userId planKey ≠
      .error (.badRequest message) := by
  intro h
  rcases bind_eq_error.mp h with h | ⟨_, -, h⟩
  · simp at h
  rcases bind_eq_error.mp h with h | ⟨user, -, h⟩
  · simp at h
  rcases bind_eq_error.mp h with h | ⟨_, -, h⟩
  · simp at h
  split at h
  · split at h
    · cases h
    · rcases bind_eq_error.mp h with h | ⟨_, -, h⟩
      · simp at h
      rcases bind_eq_error.mp h with h | ⟨_, -, h⟩
      · simp at h
      rcases bind_eq_error.mp h with h | ⟨_, -, h⟩
      · simp at h
      · cases h
  · cases h

theorem selectPolicy_ne {io : ProcessIo} {params : ProcessPayoutParams} {db : Db} :
    selectPolicy io params db ≠ .error policyZoneNotSet := by
  intro h
  rcases bind_eq_error.mp h with h | ⟨_, -, h⟩
  · simp [policyZoneNotSet, Payments.storeDown] at h
  split at h
  · rcases bind_eq_error.mp h with h | ⟨policy, -, h⟩
    · simp [policyZoneNotSet, policyNotFound] at h
    rcases bind_eq_error.mp h with h | ⟨_, -, h⟩
    · simp [policyZoneNotSet, policyNotFound] at h
    · cases h
  · simp [policyZoneNotSet, policyNotFound] at h

theorem Covered.processPayout {s : Ledger} (h : Covered s) {config : PayoutService.Config}
    {io : ProcessIo} {params : ProcessPayoutParams} (hnow : io.now = s.now)
    (hup : io.redisUp = true) :
    checkGates config io params s.toSystem ≠ .error policyZoneNotSet := by
  intro hgates
  rcases bind_eq_error.mp hgates with hselect | ⟨policy, hselect, hgates⟩
  · exact selectPolicy_ne hselect
  rcases bind_eq_error.mp hgates with howner | ⟨_, -, hgates⟩
  · simp [policyZoneNotSet] at howner
  rcases bind_eq_error.mp hgates with hactive | ⟨_, hactive, hgates⟩
  · simp [policyZoneNotSet] at hactive
  rcases bind_eq_error.mp hgates with heligible | ⟨_, -, hgates⟩
  · exact eligibility_ne heligible
  rcases bind_eq_error.mp hgates with hcell | ⟨h3Cell, -, hgates⟩
  · simp [policyZoneNotSet] at hcell
  rcases bind_eq_error.mp hgates with hzone | ⟨policyZone, -, hgates⟩
  · obtain ⟨hfound, hstart⟩ := Payouts.selectPolicy_spec hselect
    obtain ⟨hstatus, hend⟩ := require_eq_ok.mp hactive
    rw [hnow] at hstart hend
    have hcarries := h policy (Table.mem_of_findUnique hfound) ⟨⟨hstatus, hend⟩, hstart⟩
    have hnone := (orThrow_eq_error.mp hzone).1
    rw [hup, hnow] at hnone
    have hsome := hcarries.1
    rw [zoneIn, hnone] at hsome
    cases hsome
  rcases bind_eq_error.mp hgates with hmatch | ⟨_, -, hgates⟩
  · simp [policyZoneNotSet] at hmatch
  rcases bind_eq_error.mp hgates with hhalted | ⟨_, -, hgates⟩
  · simp [policyZoneNotSet] at hhalted
  · cases hgates

theorem Covered.processInsurance {s : Ledger} (h : Covered s) {config : Config}
    (io : EvaluateIo) (driverId : String) (dto : ProcessInsuranceRequestDto) {policy : Policy}
    (Ct : ℚ) (hpolicy : PremiumService.unendedPolicy s.now s.db driverId = some policy)
    (hstart : policy.startDate ≤ s.now) :
    ∃ zone, s.sold policy.id = some zone ∧
      truthy (evidenceOf config (io.clocked s.now) driverId dto policy Ct s.toSystem).policyZone =
        some zone := by
  obtain ⟨hmem, hquery⟩ := Table.findFirstDesc_eq_some hpolicy
  simp only [Bool.and_eq_true, decide_eq_true_eq] at hquery
  obtain ⟨hsome, hsold⟩ := h policy hmem ⟨⟨hquery.1.2, hquery.2⟩, hstart⟩
  obtain ⟨zone, hzone⟩ := Option.isSome_iff_exists.mp hsome
  obtain ⟨hfound, -⟩ := Option.filter_eq_some_iff.mp hzone
  have htouched : zoneIn (touchPolicyState (io.clocked s.now) policy Ct s.redis) s.now policy.id =
      zoneIn s.redis s.now policy.id := zoneIn_touchPolicyState rfl policy Ct s.redis policy.id
  refine ⟨zone, hsold.trans hfound, ?_⟩
  have hkept : (evidenceOf config (io.clocked s.now) driverId dto policy Ct s.toSystem).policyZone =
      zoneIn (touchPolicyState (io.clocked s.now) policy Ct s.redis) s.now policy.id :=
    zoneIn_congr (readFraud_frame _ _).policies.records s.now policy.id
  rw [hkept, htouched, hzone]

theorem Covered.zoneAtHand {s : Ledger} (h : Covered s) (config : Config) :
    ZoneAtHand config s :=
  ⟨fun _ _ hnow hup => h.processPayout hnow hup,
    fun io driverId dto _ Ct hpolicy hstart =>
      h.processInsurance io driverId dto Ct hpolicy hstart⟩

theorem always_covered {s : Ledger} {ops : List Op} (hs : Kept s)
    (hops : Run.Along (step cfg) (Recorded cfg) s ops) :
    Run.Always (step cfg) (fun s => Covered s ∧ ZoneAtHand cfg.insurance s) s ops :=
  (Run.always_of_step (fun _ _ => step_kept) hs hops).mono fun _ hkept =>
    ⟨hkept.covered, hkept.covered.zoneAtHand cfg.insurance⟩

end Run

/-! ## A sale and its record -/

namespace Sale

open Payments.Sample

def cell : String := "8860145b5dfffff"

def plan : WeeklyPlan where
  id := "wp1"
  key := "STANDARD"
  name := "Standard"
  price := 29
  maxPayout := 1000
  durationDays := 7
  eligibleDisruptionTypes := ["RAIN"]

def services : Services where
  insurance :=
    { payout := { toConfig := cfg, eligibility := {} }
      latLngToCell := fun _ _ => cell
      nonFiniteColumn := fun _ => false }
  orders :=
    { razorpayKeyId := some "rzp_live_1"
      razorpayKeySecret := some "secret"
      hmacSha256 := fun _ body => body }

/-- A driver who was just seen, without a policy. -/
def start : Ledger where
  db := { users := .singleton user, weeklyPlans := .singleton plan }
  redis :=
    { drivers := setEx (fun _ => none) 0 DRIVER_STATE_TTL "u1"
        { last_location := some ⟨some 13, some 80, some cell⟩ } }
  now := 0

def profile : DriverProfile := { weeklyEarningsTotal := some 7000 }

def enrollIo : EnrollIo where
  now := 0
  readUser := true
  readEligibility := true
  readSums := true
  profile := some profile
  redisUp := true
  pipeline := none
  gridZone := none
  endOld := true
  policyId := "p1"
  createPolicy := true
  pool := .available

def orderIo : Payments.CreateOrderIo where
  readPlan := true
  premium :=
    { now := 0
      profileOf := fun _ => some profile
      readUser := true
      readPlan := true
      readPolicy := true
      redisUp := true
      readKyc := true
      risk := none
      fallbackLf := none }
  gateway := some ⟨"order_1", some "INR"⟩
  orderId := "ro1"
  createOrder := true

def verifyIo : Payments.VerifyIo where
  now := 0
  readOrder := true
  readPolicy := true
  markInvalid := true
  policyId := "p1"
  transaction := true
  pool := .available
  commit := true
  markFailed := true
  createDlq := true

def claimIo : EvaluateIo where
  now := 0
  profile := some profile
  readPolicy := true
  readEligibility := true
  redisUp := true
  fraud :=
    { now := 0
      scoring := ⟨none, none⟩
      readFingerprints := true
      readPayouts := true
      createFingerprint := true
      enqueue := true
      readUser := true
      readAnalysis := true
      analysisId := "fa1"
      writeAnalysis := true
      redisUp := true }
  monitored := {}
  calculate := ⟨0, true, true, profile⟩
  process :=
    { now := 0
      readPolicy := true
      readEligibility := true
      redisUp := true
      readEvent := true
      eventId := "e1"
      createEvent := true
      readPayout := true
      settle := io
      redisPush := true }

/-- A policy in force whose record was just written. -/
def insured : Ledger where
  db := { users := .singleton user, weeklyPlans := .singleton plan, policies := .singleton policy }
  redis := { policies := setEx (fun _ => none) 0 POLICY_STATE_TTL "p1" { zone := some cell } }
  now := 0
  sold := fun _ => some cell

def enrolment : Op := .enrollPolicy enrollIo "u1" "STANDARD"

def purchase : List Op :=
  [.createOrder orderIo "u1" "wp1",
    .verifyPayment verifyIo "u1" ⟨"order_1", "pay_1", "order_1|pay_1"⟩]

end Sale

open Sale in
/-- A claim every ten minutes keeps the record. -/
theorem always_covered_insured :
    Run.Always (step services) (fun s => Covered s ∧ ZoneAtHand services.insurance s) insured
      [.tick 600000, .processInsurance claimIo "u1" {}, .tick 600000] :=
  always_covered (by decide) (by decide)

open Sale in
/-- A policy bought at the checkout never has a record; the record of an enrolment is gone
long before the cooling-off day is over. -/
theorem not_always_covered :
    ¬ Run.Always (step services) Covered start purchase ∧
      ¬ Run.Always (step services) Covered start [enrolment, .tick 86400000] := by
  have hpurchase : ¬ Covered (Run.final (step services) start purchase) := by decide +kernel
  have henrolment : ¬ Covered (Run.final (step services) start [enrolment, .tick 86400000]) := by
    decide +kernel
  exact ⟨fun h => hpurchase h.last, fun h => henrolment h.last⟩

end Aegis.InsuranceService
