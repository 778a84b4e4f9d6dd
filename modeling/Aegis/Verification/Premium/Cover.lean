import Aegis.Model.Premium
import Aegis.Verification.Payouts.Authorisation

/-! # Priced cover and paid cover

The premium and the payout of a policy each look up a coverage factor of their own. -/

namespace Aegis.PremiumService

open Outcome RedisState PayoutService

/-! ## The factors of the tiers -/

theorem ctForPlan_none : ctForPlan none = none := rfl

theorem ctForPlan_cases {plan : Option String} {Ct : ℚ} (h : ctForPlan plan = some Ct) :
    Ct = 4 / 10 ∨ Ct = 6 / 10 ∨ Ct = 7 / 10 ∨ Ct = 8 / 10 := by
  obtain ⟨tier, -, hlookup⟩ := Option.bind_eq_some_iff.mp h
  obtain ⟨before, after, hmem, -⟩ := List.lookup_eq_some_iff.mp hlookup
  have hfactor : Ct ∈ PLAN_CT.map Prod.snd := by simp [hmem]
  simpa [PLAN_CT] using hfactor

/-! ## The quotation -/

section Quotation

variable {io : PremiumIo} {s : System} {driverId : String} {planId : Option String}
  {quote : WeeklyPremium} {redis : Redis}

/-- What a weekly premium is made of, for the driver's profile and the coverage looked up. -/
structure Quotes (profile : DriverProfile) (coverage : Option ℚ) (Lf : ℚ) (quote : WeeklyPremium) :
    Prop where
  active_days : quote.active_days = resolveActiveDays profile
  Ew : quote.Ew = resolveEarningsWithNewDriverFallback profile (resolveActiveDays profile)
  Lf : quote.Lf = Lf
  Ct : quote.Ct = safeCt coverage (resolveActiveDays profile)
  premium : quote.premium = applyPremiumBounds (computeRawWeeklyPremium quote.Ew quote.Lf quote.Ct)
    (resolveTierCap quote.Ct) (resolveTierFloor quote.Ct)

theorem calculateWeeklyPremium_spec
    (h : calculateWeeklyPremium io s driverId planId = .ok (quote, redis)) :
    ∃ id profile coverage h3Cell, resolveProfileDriver io s.db driverId = .ok (id, profile) ∧
      resolveCoverage io s.db driverId planId = .ok coverage ∧
      resolveCell io s driverId id = .ok h3Cell ∧
      Quotes profile coverage (resolveLf io s.redis h3Cell).1 quote := by
  obtain ⟨⟨id, profile⟩, hprofile, h⟩ := bind_eq_ok.mp h
  obtain ⟨coverage, hcoverage, h⟩ := bind_eq_ok.mp h
  obtain ⟨h3Cell, hcell, h⟩ := bind_eq_ok.mp h
  cases h
  exact ⟨id, profile, coverage, h3Cell, hprofile, hcoverage, hcell, rfl, rfl, rfl, rfl, rfl⟩

/-- Outside the lowest tier the factor survives only if the driver works five days. -/
theorem safeCt_eq_iff {coverage : Option ℚ} {activeDays : ℕ} {Ct : ℚ} (hCt : Ct ≠ 5 / 10) :
    safeCt coverage activeDays = Ct ↔
      activeDays < 5 ∧ Ct = 4 / 10 ∨ 5 ≤ activeDays ∧ coverage = some Ct := by
  by_cases hdays : activeDays < 5
  · simp [safeCt, hdays, Nat.not_le.mpr hdays, eq_comm]
  · have hdays' : 5 ≤ activeDays := Nat.not_lt.mp hdays
    cases coverage with
    | none => simpa [safeCt, hdays] using Ne.symm hCt
    | some factor => simp [safeCt, hdays, hdays']

end Quotation

/-! ## The property -/

/-- The plan key under which a policy is priced: that of its weekly plan, and for a policy
without one that of the driver's newest unended policy. -/
def pricedKey (now : ℤ) (db : Db) (policy : Policy) : Option String :=
  match truthy policy.weeklyPlanId with
  | some planId => (db.weeklyPlans.findUnique (.id planId)).map WeeklyPlan.key
  | none => (unendedPolicy now db policy.userId).map (PlansService.planKeyOf db)

theorem resolveCoverage_spec {io : PremiumIo} {db : Db} {policy : Policy} {coverage : Option ℚ}
    (h : resolveCoverage io db policy.userId policy.weeklyPlanId = .ok coverage) :
    coverage = ctForPlan (pricedKey io.now db policy) := by
  rw [resolveCoverage] at h
  rw [pricedKey]
  cases hplan : truthy policy.weeklyPlanId with
  | some planId =>
      rw [hplan] at h
      obtain ⟨_, -, h⟩ := bind_eq_ok.mp h
      cases h
      rfl
  | none =>
      rw [hplan] at h
      obtain ⟨_, -, h⟩ := bind_eq_ok.mp h
      cases h
      cases hunended : unendedPolicy io.now db policy.userId with
      | none => simp [resolveCtForDriver, hunended, ctForPlan_none]
      | some newest => simp [resolveCtForDriver, hunended]

/-- The policy is priced as the driver's profile and its plan tier have it. -/
structure PricedAsPaid (io : PremiumIo) (db : Db) (profile : DriverProfile) (policy : Policy) :
    Prop where
  idle : resolveActiveDays profile < 5 → ctForPlan (some policy.planType) = some (4 / 10)
  active : 5 ≤ resolveActiveDays profile →
    ctForPlan (pricedKey io.now db policy) = ctForPlan (some policy.planType)

theorem calculatePayout_Ct {io : CalculateIo} {s : System} {params : CalculateParams}
    {policy : Policy} {calculation : PayoutCalculation}
    (hpolicy : activePolicy io.now s.db params.driverId = some policy)
    (h : calculatePayout io s params = .ok calculation) :
    ctForPlan (some policy.planType) = some calculation.Ct := by
  obtain ⟨_, -, h⟩ := bind_eq_ok.mp h
  obtain ⟨found, hfound, h⟩ := bind_eq_ok.mp h
  obtain ⟨Ct, hCt, h⟩ := bind_eq_ok.mp h
  cases h
  cases hpolicy.symm.trans (orThrow_eq_ok.mp hfound)
  exact orThrow_eq_ok.mp hCt

/-- The factors agree for idle drivers of the lowest tier, and for active drivers whose policy
is priced under a plan of its own tier. -/
theorem quote_Ct_eq_iff {pricing : PremiumIo} {paying : CalculateIo} {s : System}
    {params : CalculateParams} {policy : Policy} {id : String} {profile : DriverProfile}
    {quote : WeeklyPremium} {redis : Redis} {calculation : PayoutCalculation}
    (hpolicy : activePolicy paying.now s.db params.driverId = some policy)
    (hprofile : resolveProfileDriver pricing s.db policy.userId = .ok (id, profile))
    (hquote : calculateWeeklyPremium pricing s policy.userId policy.weeklyPlanId =
      .ok (quote, redis))
    (hcalculation : calculatePayout paying s params = .ok calculation) :
    quote.Ct = calculation.Ct ↔ PricedAsPaid pricing s.db profile policy := by
  have hCt := calculatePayout_Ct hpolicy hcalculation
  have hhalf : calculation.Ct ≠ 5 / 10 := by
    rcases ctForPlan_cases hCt with h | h | h | h
    · norm_num [h]
    · norm_num [h]
    · norm_num [h]
    · norm_num [h]
  obtain ⟨_, _, coverage, _, hprofile', hcoverage, -, hquotes⟩ := calculateWeeklyPremium_spec hquote
  cases hprofile.symm.trans hprofile'
  rw [hquotes.Ct, safeCt_eq_iff hhalf, resolveCoverage_spec hcoverage, ← hCt]
  by_cases hdays : resolveActiveDays profile < 5
  · have hfew : ¬5 ≤ resolveActiveDays profile := Nat.not_le.mpr hdays
    constructor
    · rintro (⟨-, h⟩ | ⟨h, -⟩)
      · exact ⟨fun _ => by rw [hCt, h], fun h => absurd h hfew⟩
      · exact absurd h hfew
    · intro h
      have hlowest := h.idle hdays
      rw [hCt, Option.some.injEq] at hlowest
      exact .inl ⟨hdays, hlowest⟩
  · have hmany : 5 ≤ resolveActiveDays profile := Nat.not_lt.mp hdays
    constructor
    · rintro (⟨h, -⟩ | ⟨-, h⟩)
      · exact absurd h hdays
      · exact ⟨fun h => absurd h hdays, fun _ => h⟩
    · intro h
      exact .inr ⟨hmany, h.active hmany⟩

/-! ## A driver with four and with five active days -/

namespace Cover

def now : ℤ := 7200000

def plan : WeeklyPlan where
  id := "wp1"
  key := "STANDARD"
  name := "Standard"
  price := 35
  maxPayout := 1000
  durationDays := 7
  eligibleDisruptionTypes := []

def policy : Policy := { Payments.Sample.policy with weeklyPlanId := some "wp1" }

def store : System where
  db := { Payments.Sample.db with
    policies := .singleton policy
    weeklyPlans := .singleton plan }

def profile (days : ℕ) : DriverProfile where
  weeklyEarningsTotal := some 7000
  dailyBreakdown := List.replicate days { hoursWorked := some 8 }

def pricing (days : ℕ) : PremiumIo where
  now := now
  profileOf := fun _ => some (profile days)
  readUser := true
  readPlan := true
  readPolicy := true
  redisUp := true
  readKyc := true
  risk := some ⟨3 / 10, some "NORMAL"⟩
  fallbackLf := none

def paying (days : ℕ) : CalculateIo := ⟨now, true, true, profile days⟩

def quoted (days : ℕ) : Option ℚ :=
  ((calculateWeeklyPremium (pricing days) store "u1" policy.weeklyPlanId).toOption).map
    fun quotation => quotation.1.Ct

def paid (days : ℕ) : Option ℚ :=
  ((calculatePayout (paying days) store ⟨"u1", none, none, none⟩).toOption).map
    PayoutCalculation.Ct

end Cover

open Cover in
theorem quote_Ct_eq_active :
    ∃ quote redis calculation,
      calculateWeeklyPremium (pricing 5) store "u1" policy.weeklyPlanId = .ok (quote, redis) ∧
        calculatePayout (paying 5) store ⟨"u1", none, none, none⟩ = .ok calculation ∧
        quote.Ct = calculation.Ct := by
  obtain ⟨⟨quote, redis⟩, hquote⟩ := isOk_iff.mp
    (by decide :
      (calculateWeeklyPremium (pricing 5) store "u1" policy.weeklyPlanId).isOk = true)
  obtain ⟨calculation, hcalculation⟩ := isOk_iff.mp
    (by decide : (calculatePayout (paying 5) store ⟨"u1", none, none, none⟩).isOk = true)
  have hprofile : resolveProfileDriver (pricing 5) store.db policy.userId = .ok ("u1", profile 5) :=
    rfl
  have hpolicy : activePolicy (paying 5).now store.db "u1" = some policy := by decide
  exact ⟨quote, redis, calculation, hquote, hcalculation,
    (quote_Ct_eq_iff hpolicy hprofile hquote hcalculation).mpr
      ⟨by decide +kernel, by decide +kernel⟩⟩

open Cover in
/-- With four active days the standard tier is priced at 0.4 and paid at 0.6. -/
theorem quote_Ct_ne_idle : quoted 4 = some (4 / 10) ∧ Cover.paid 4 = some (6 / 10) := by
  constructor
  · decide +kernel
  · decide +kernel

end Aegis.PremiumService
