import Aegis.Model.Orders
import Aegis.Model.Trigger

/-! # Quotes and claims

A quote for a cell without a loss fraction stores the answer of the risk service under the key
that the claims read. -/

namespace Aegis.Quotes

open Outcome RedisState JsString PremiumService TriggerService PayoutService

/-! ## The law -/

section Law

variable (latLngToCell : ℚ → ℚ → String) (monitored : String → ZoneState) (up : Bool) (now : ℤ)

/-- The trigger for a request, with the monitor's answer for the cell that it resolves. -/
def decisionOf (redis : Redis) (params : TriggerParams) : TriggerDecision :=
  let cell := (resolveH3Cell latLngToCell ⟨now, up, {}⟩ redis params).getD ""
  (evaluateTrigger latLngToCell ⟨now, up, monitored cell⟩ redis params).decision

/-- The zone check of `processPayout`. -/
def zoneHalted (redis : Redis) (h3Cell : String) : Bool :=
  zoneLabel (getZoneState up now redis h3Cell) = "HALTED"

structure Unchanged (redis redis' : Redis) : Prop where
  decision : ∀ params, decisionOf latLngToCell monitored up now redis' params =
    decisionOf latLngToCell monitored up now redis params
  zone : ∀ h3Cell, zoneHalted up now redis' h3Cell = zoneHalted up now redis h3Cell

/-- What the gates of the trigger ask of a record. -/
def payable (zoneState : ZoneState) : Bool :=
  toUpperCase (zoneLabel (some zoneState)) = "HALTED" &&
    TRIGGER_LF_MIN_APPROVE ≤ zoneLf (some zoneState) 0

end Law

section Quote

variable (io : PremiumIo) (s : System) (driverId : String) (planId : Option String)

/-- The store after the call. -/
def quoted : Redis :=
  match calculateWeeklyPremium io s driverId planId with
  | .ok (_, redis) => redis
  | .error _ => s.redis

/-- The cell for which the call prices, if it gets that far. -/
def pricedCell : Option String := do
  let (profileDriverId, _) ← (resolveProfileDriver io s.db driverId).toOption
  let _ ← (resolveCoverage io s.db driverId planId).toOption
  (resolveCell io s driverId profileDriverId).toOption

/-- The cell has its loss fraction, or the record that the answer makes counts with the claims
as what they find now. -/
def Harmless (monitored : String → ZoneState) : Prop :=
  io.redisUp = true → ∀ cell ∈ pricedCell io s driverId planId,
    let found := getZoneState true io.now s.redis cell
    let answer := resolveLfFromMlService io
    let record : ZoneState := { Lf := some answer.lf_score, zone_state := answer.zone_state }
    (found.bind ZoneState.Lf).or (found.bind ZoneState.lf_score) = none →
      payable record = payable (found.getD (monitored cell)) ∧
        (zoneLabel (some record) = "HALTED" ↔ zoneLabel found = "HALTED")

end Quote

/-! ## What the trigger reads -/

section Trigger

variable (latLngToCell : ℚ → ℚ → String) {io : TriggerIo} {redis redis' : Redis}

theorem fallbackDecision_eq (h3Cell : String) (fraudScore : Option JsNumber) :
    (fallbackDecision io redis h3Cell fraudScore).decision =
      if payable ((getZoneState io.redisUp io.now redis h3Cell).getD io.monitored) then
        match fraudGateOf fraudScore with
        | .REJECT => .REJECTED
        | .HOLD => .HOLD
        | .PASS => .APPROVED
      else .HOLD := by
  set zoneState := (getZoneState io.redisUp io.now redis h3Cell).getD io.monitored with hzone
  simp only [fallbackDecision, ← hzone, gateDecision, payable, TRIGGER_APPROVAL_ZONE_STATES]
  by_cases hlabel : toUpperCase (zoneLabel (some zoneState)) = "HALTED"
  · by_cases hLf : TRIGGER_LF_MIN_APPROVE ≤ zoneLf (some zoneState) 0
    · cases fraudGateOf fraudScore <;> simp [hlabel, hLf]
    · simp [hlabel, hLf]
  · by_cases hdegraded : toUpperCase (zoneLabel (some zoneState)) = "DEGRADED"
    · simp [hdegraded]
    · simp [hlabel, hdegraded]

theorem evaluateTrigger_decision (params : TriggerParams) :
    (evaluateTrigger latLngToCell io redis params).decision =
      ((resolveH3Cell latLngToCell io redis params).filter (· ≠ "")).elim .HOLD
        fun cell => (fallbackDecision io redis cell params.fraudScore).decision := by
  unfold evaluateTrigger
  cases (resolveH3Cell latLngToCell io redis params).filter (· ≠ "") with
  | none => rfl
  | some cell => rfl

/-- The trigger on a resolved cell. -/
theorem decisionOf_eq (monitored : String → ZoneState) (up : Bool) (now : ℤ) (redis : Redis)
    (params : TriggerParams) :
    decisionOf latLngToCell monitored up now redis params =
      ((resolveH3Cell latLngToCell ⟨now, up, {}⟩ redis params).filter (· ≠ "")).elim .HOLD
        fun cell => (fallbackDecision ⟨now, up, monitored cell⟩ redis cell
          params.fraudScore).decision := by
  have hresolve (zoneState : ZoneState) :
      resolveH3Cell latLngToCell ⟨now, up, zoneState⟩ redis params =
        resolveH3Cell latLngToCell ⟨now, up, {}⟩ redis params := rfl
  rw [decisionOf, evaluateTrigger_decision, hresolve]
  cases resolveH3Cell latLngToCell ⟨now, up, {}⟩ redis params with
  | none => simp
  | some cell =>
      by_cases hcell : cell = ""
      · simp [Option.filter, hcell]
      · simp [Option.filter, hcell]

end Trigger

/-! ## One write -/

section Write

variable {latLngToCell : ℚ → ℚ → String} {monitored : String → ZoneState} {now : ℤ} {redis : Redis}
  {cell : String} {record : ZoneState}

theorem getZoneState_write (c : String) :
    getZoneState true now (setZoneState true now redis cell record) c =
      if c = cell then some record else getZoneState true now redis c := by
  split
  · rename_i hc
    subst hc
    exact get_setEx_self _ _ _ (by rw [ZONE_STATE_TTL]; omega)
  · rename_i hc
    exact get_setEx_of_ne _ _ _ _ _ hc

theorem unchanged_write_iff (hcell : cell ≠ "") :
    Unchanged latLngToCell monitored true now redis (setZoneState true now redis cell record) ↔
      payable record = payable ((getZoneState true now redis cell).getD (monitored cell)) ∧
        (zoneLabel (some record) = "HALTED" ↔
          zoneLabel (getZoneState true now redis cell) = "HALTED") := by
  constructor
  · intro h
    constructor
    · have hdecision := h.decision { driverId := "", h3Cell := some cell }
      simp only [decisionOf_eq, resolveH3Cell, Option.filter, hcell, decide_true, ne_eq,
        not_false_eq_true, if_true, Option.elim_some, fallbackDecision_eq, getZoneState_write,
        Option.getD_some, fraudGateOf] at hdecision
      cases hrecord : payable record <;>
        cases hfound : payable ((getZoneState true now redis cell).getD (monitored cell)) <;>
          simp [hrecord, hfound] at hdecision ⊢
    · simpa [zoneHalted, getZoneState_write] using h.zone cell
  · rintro ⟨hpayable, hlabel⟩
    refine ⟨fun params => ?_, fun c => ?_⟩
    · have hresolve : resolveH3Cell latLngToCell ⟨now, true, {}⟩
          (setZoneState true now redis cell record) params =
            resolveH3Cell latLngToCell ⟨now, true, {}⟩ redis params := rfl
      rw [decisionOf_eq, decisionOf_eq, hresolve]
      cases (resolveH3Cell latLngToCell ⟨now, true, {}⟩ redis params).filter (· ≠ "") with
      | none => simp
      | some c =>
          simp only [Option.elim_some, fallbackDecision_eq, getZoneState_write]
          by_cases hc : c = cell
          · subst hc
            rw [if_pos rfl, Option.getD_some, hpayable]
          · rw [if_neg hc]
    · unfold zoneHalted
      rw [getZoneState_write]
      by_cases hc : c = cell
      · subst hc
        rw [if_pos rfl]
        exact decide_eq_decide.mpr hlabel
      · rw [if_neg hc]

end Write

/-! ## The call -/

section Call

variable {io : PremiumIo} {s : System} {driverId : String} {planId : Option String}

theorem Unchanged.refl (latLngToCell : ℚ → ℚ → String) (monitored : String → ZoneState)
    (up : Bool) (now : ℤ) (redis : Redis) : Unchanged latLngToCell monitored up now redis redis :=
  ⟨fun _ => rfl, fun _ => rfl⟩

/-- Only the loss fraction of the priced cell is stored. -/
theorem quoted_eq : quoted io s driverId planId =
    (pricedCell io s driverId planId).elim s.redis fun cell => (resolveLf io s.redis cell).2 := by
  unfold quoted pricedCell
  cases hprofile : resolveProfileDriver io s.db driverId with
  | error e => simp [calculateWeeklyPremium, hprofile, Except.toOption]
  | ok found =>
      cases hcoverage : resolveCoverage io s.db driverId planId with
      | error e => simp [calculateWeeklyPremium, hprofile, hcoverage, Except.toOption]
      | ok coverage =>
          cases hcell : resolveCell io s driverId found.1 with
          | error e => simp [calculateWeeklyPremium, hprofile, hcoverage, hcell, Except.toOption]
          | ok cell => simp [calculateWeeklyPremium, hprofile, hcoverage, hcell, Except.toOption]

theorem cityCell_nonempty (city : String) :
    (cityToH3.lookup city).getD "8861892433fffff" ≠ "" := by
  cases hlookup : cityToH3.lookup city with
  | none => decide
  | some cell =>
      obtain ⟨before, after, hcities, -⟩ := List.lookup_eq_some_iff.mp hlookup
      have hcell : cell ∈ cityToH3.map Prod.snd := by simp [hcities]
      rintro rfl
      exact absurd hcell (by decide)

theorem resolveCell_nonempty {id cell : String} (h : resolveCell io s driverId id = .ok cell) :
    cell ≠ "" := by
  unfold resolveCell at h
  split at h
  · rename_i found hfound
    cases h
    simp only [truthy, Option.filter_eq_some_iff, decide_eq_true_eq] at hfound
    exact hfound.2
  · obtain ⟨_, -, h⟩ := bind_eq_ok.mp h
    have hcity := cityCell_nonempty (trim (toLowerCase
      (((s.db.kycPersonalDetails.findUnique driverId).map KYCPersonalDetails.city).getD "")))
    exact fun hempty => hcity ((Except.ok.inj h).trans hempty)

theorem pricedCell_nonempty {cell : String} (h : pricedCell io s driverId planId = some cell) :
    cell ≠ "" := by
  obtain ⟨⟨id, profile⟩, -, h⟩ := Option.bind_eq_some_iff.mp h
  obtain ⟨coverage, -, h⟩ := Option.bind_eq_some_iff.mp h
  cases hcell : resolveCell io s driverId id with
  | error e => simp [hcell, Except.toOption] at h
  | ok found =>
      simp only [hcell, Except.toOption, Option.some.injEq] at h
      exact h ▸ resolveCell_nonempty hcell

end Call

/-- A quote leaves the claims as they were if and only if it writes nothing or what it writes is
harmless. -/
theorem unchanged_iff (latLngToCell : ℚ → ℚ → String) (monitored : String → ZoneState)
    (io : PremiumIo) (s : System) (driverId : String) (planId : Option String) :
    Unchanged latLngToCell monitored io.redisUp io.now s.redis (quoted io s driverId planId) ↔
      Harmless io s driverId planId monitored := by
  rw [quoted_eq]
  unfold Harmless
  cases hcell : pricedCell io s driverId planId with
  | none => simpa using Unchanged.refl latLngToCell monitored io.redisUp io.now s.redis
  | some cell =>
      simp only [Option.elim_some, Option.mem_some_iff, forall_eq', resolveLf]
      cases hup : io.redisUp with
      | false =>
          refine iff_of_true ?_ (by simp)
          cases ((getZoneState false io.now s.redis cell).bind ZoneState.Lf).or
            ((getZoneState false io.now s.redis cell).bind ZoneState.lf_score) with
          | none => exact Unchanged.refl latLngToCell monitored false io.now s.redis
          | some Lf => exact Unchanged.refl latLngToCell monitored false io.now s.redis
      | true =>
          cases hLf : ((getZoneState true io.now s.redis cell).bind ZoneState.Lf).or
            ((getZoneState true io.now s.redis cell).bind ZoneState.lf_score) with
          | some Lf =>
              refine iff_of_true (Unchanged.refl latLngToCell monitored true io.now s.redis) ?_
              simp
          | none => simpa using unchanged_write_iff (pricedCell_nonempty hcell)

/-! ## The callers and the payout -/

theorem orderAmount_redis (io : Payments.CreateOrderIo) (userId weeklyPlanId : String) (s : System)
    (plan : WeeklyPlan) :
    (Payments.orderAmount io userId weeklyPlanId s plan).2 =
      quoted io.premium s userId (some weeklyPlanId) := by
  unfold Payments.orderAmount quoted
  cases calculateWeeklyPremium io.premium s userId (some weeklyPlanId) with
  | error e => rfl
  | ok quote => rfl

theorem quoted_frame (io : PremiumIo) (s : System) (driverId : String) (planId : Option String) :
    ∃ zones, quoted io s driverId planId = { s.redis with zones } := by
  rw [quoted_eq]
  cases pricedCell io s driverId planId with
  | none => exact ⟨_, rfl⟩
  | some cell =>
      simp only [Option.elim_some, resolveLf]
      split
      · exact ⟨_, rfl⟩
      · unfold setZoneState
        split
        · exact ⟨_, rfl⟩
        · exact ⟨_, rfl⟩

/-- Where the zone checks are unchanged, all gates of a payout are. -/
theorem checkGates_quoted {latLngToCell : ℚ → ℚ → String} {monitored : String → ZoneState}
    {io : PremiumIo} {s : System} {driverId : String} {planId : Option String}
    (h : Unchanged latLngToCell monitored io.redisUp io.now s.redis (quoted io s driverId planId))
    (cfg : PayoutService.Config) (pay : ProcessIo) (params : ProcessPayoutParams)
    (hup : pay.redisUp = io.redisUp) (hnow : pay.now = io.now) :
    checkGates cfg pay params { s with redis := quoted io s driverId planId } =
      checkGates cfg pay params s := by
  obtain ⟨zones, hquoted⟩ := quoted_frame io s driverId planId
  have hhalted (cell : String) :
      (zoneLabel (getZoneState pay.redisUp pay.now (quoted io s driverId planId) cell) = "HALTED") =
        (zoneLabel (getZoneState pay.redisUp pay.now s.redis cell) = "HALTED") := by
    rw [hup, hnow]
    simpa [zoneHalted] using h.zone cell
  simp only [checkGates, hhalted]
  rw [hquoted]
  rfl

/-! ## A halted cell that Redis has lost -/

namespace Lost

def profile : DriverProfile where
  weeklyEarningsTotal := some 7000

/-- A quote that the risk service leaves without an answer, or answers with a score. -/
def pricing (risk : Option RiskScoreResponse) : PremiumIo where
  now := 0
  profileOf _ := some profile
  readUser := true
  readPlan := true
  readPolicy := true
  redisUp := true
  readKyc := true
  risk := risk
  fallbackLf := none

def monitored (label : String) (Lf : ℚ) (_ : String) : ZoneState where
  lf_score := some Lf
  state := some label

def claim : TriggerParams where
  driverId := "u1"
  h3Cell := some "8861892433fffff"

end Lost

open Lost in
/-- The fallback score takes an approval away, and a severe score grants one. -/
theorem not_unchanged :
    ¬Unchanged (fun _ _ => "") (monitored "HALTED" (9 / 10)) true 0 {}
        (quoted (pricing none) { db := {} } "u1" none) ∧
      ¬Unchanged (fun _ _ => "") (monitored "NORMAL" (1 / 10)) true 0 {}
        (quoted (pricing (some ⟨8 / 10, some "HALTED"⟩)) { db := {} } "u1" none) := by
  refine ⟨fun h => ?_, fun h => ?_⟩
  · exact absurd (h.decision claim) (by decide +kernel)
  · exact absurd (h.zone "8861892433fffff") (by decide)

end Aegis.Quotes
