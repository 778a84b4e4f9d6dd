import Aegis.Verification.Demo.Payouts
import Aegis.Verification.Insurance.FailClosed
import Aegis.Verification.Zones.Positions

/-! # Claims beside the demos

A claim of another driver that reads no zone record of a demo is answered alike in two states that
differ in what is the driver's only. A refused claim of the driver leaves such a state behind. -/

namespace Aegis.DemoFlow

open Outcome RedisState PayoutService InsuranceService ClaimOrchestratorService

variable {cfg : InsuranceService.Config} {N : Names} {s t : System}

/-- A record that a demo may have written is read. -/
def Reads (N : Names) (up : Bool) (now : ℤ) (h3Cell : String) : Prop :=
  up = true ∧ N.cell h3Cell now = true

instance (N : Names) (up : Bool) (now : ℤ) (h3Cell : String) :
    Decidable (Reads N up now h3Cell) :=
  inferInstanceAs (Decidable (_ ∧ _))

theorem not_reads {up : Bool} {now : ℤ} {h3Cell : String} :
    ¬Reads N up now h3Cell ↔ (up = true → N.cell h3Cell now = false) := by
  simp [Reads]

/-- The cell of a driver's record, expired or not. -/
def recordedCell (redis : Redis) (driverId : String) : Option String :=
  (redis.drivers driverId).bind fun entry => cellOf (some entry.value)

/-- The claim reads no zone record of a demo: neither that of the place it is made at nor, where
there is no loss, that of the recorded cell. -/
structure ReadsApart (cfg : InsuranceService.Config) (N : Names) (claim : Claim) (redis : Redis) :
    Prop where
  place : ∀ h3Cell ∈ truthy (position cfg claim.io claim.driverId claim.dto redis).h3Cell,
    ¬Reads N claim.io.redisUp claim.io.now h3Cell ∧
      ¬Reads N claim.io.process.redisUp claim.io.process.now h3Cell
  recorded : zoneLossFraction cfg claim.io claim.driverId claim.dto redis = 0 →
    ∀ h3Cell ∈ recordedCell redis claim.driverId,
      ¬Reads N claim.io.calculate.redisUp claim.io.calculate.now h3Cell

/-- The claim is another driver's, and so are the ids drawn for it. -/
structure OfOther (N : Names) (claim : Claim) : Prop where
  driver : claim.driverId ≠ N.driver
  event : N.event claim.io.process.eventId = false
  draws : DrawsApart N claim.io.process.settle

/-! ## The place -/

section Place

variable {io : EvaluateIo} {driverId : String} {dto : ProcessInsuranceRequestDto} {a b : Redis}

theorem position_view (h : RedisView N a b) (hdriver : driverId ≠ N.driver) :
    position cfg io driverId dto a = position cfg io driverId dto b := by
  rw [position, position, h.getDriverState hdriver]

theorem position_of_drivers (h : a.drivers = b.drivers) :
    position cfg io driverId dto a = position cfg io driverId dto b := by
  simp only [position, getDriverState, h]

/-- The cell is that of the coordinates, or else that of the driver's record. -/
def Placed (cfg : InsuranceService.Config) (io : EvaluateIo) (driverId : String) (redis : Redis)
    (place : Position) : Prop :=
  (∃ lat lng, place = ⟨some lat, some lng, some (cfg.latLngToCell lat lng)⟩) ∨
    (place.lat = none ∨ place.lng = none) ∧
      place.h3Cell = cellOf (getDriverState io.redisUp io.now redis driverId)

theorem placed_position (redis : Redis) :
    Placed cfg io driverId redis (position cfg io driverId dto redis) := by
  have hlast : ∀ state : Option DriverState, (lastLocation state).h3_cell = cellOf state := by
    intro state
    rcases state with _ | ⟨-, _ | _⟩ <;> rfl
  unfold Placed position
  generalize getDriverState io.redisUp io.now redis driverId = state
  rcases dto.lat with _ | lat <;> rcases dto.lng with _ | lng
  all_goals
    dsimp only
    rcases hlat : (lastLocation state).lat with _ | lat' <;>
      rcases hlng : (lastLocation state).lng with _ | lng' <;> simp [hlast]

/-- The trigger is asked about the place of the claim. -/
theorem Placed.resolveH3Cell {place : Position} (h : Placed cfg io driverId a place)
    (monitored : ZoneState) (fraudScore : Option JsNumber) :
    (TriggerService.resolveH3Cell cfg.latLngToCell ⟨io.now, io.redisUp, monitored⟩ a
      ⟨driverId, place.h3Cell, place.lat, place.lng, fraudScore⟩).filter (· ≠ "") =
      truthy place.h3Cell := by
  unfold TriggerService.resolveH3Cell truthy
  rcases h with ⟨lat, lng, rfl⟩ | ⟨hmissing, hcell⟩
  · by_cases hempty : cfg.latLngToCell lat lng = ""
    · simp [Option.filter, hempty]
    · simp [Option.filter, hempty]
  · dsimp only
    rw [← hcell]
    cases hfilter : place.h3Cell.filter (· ≠ "") with
    | some h3Cell => simpa using Option.filter_eq_some_iff.mp hfilter |>.2
    | none =>
        rcases hmissing with hlat | hlng
        · rw [hlat]
          exact hfilter
        · rw [hlng]
          cases place.lat <;> exact hfilter

end Place

/-! ## The evidence -/

section Evidence

variable {io : EvaluateIo} {driverId : String} {dto : ProcessInsuranceRequestDto} {policy : Policy}

theorem evaluateTrigger_view {a b : Redis} (h : RedisView N a b) (hdriver : driverId ≠ N.driver)
    {latLngToCell : ℚ → ℚ → String} {tio : TriggerService.TriggerIo} {place : Position}
    {fraudScore : Option JsNumber}
    (hcell : ∀ h3Cell ∈ (TriggerService.resolveH3Cell latLngToCell tio b
      ⟨driverId, place.h3Cell, place.lat, place.lng, fraudScore⟩).filter (· ≠ ""),
      tio.redisUp = true → N.cell h3Cell tio.now = false) :
    TriggerService.evaluateTrigger latLngToCell tio a
        ⟨driverId, place.h3Cell, place.lat, place.lng, fraudScore⟩ =
      TriggerService.evaluateTrigger latLngToCell tio b
        ⟨driverId, place.h3Cell, place.lat, place.lng, fraudScore⟩ := by
  have hresolve : TriggerService.resolveH3Cell latLngToCell tio a
        ⟨driverId, place.h3Cell, place.lat, place.lng, fraudScore⟩ =
      TriggerService.resolveH3Cell latLngToCell tio b
        ⟨driverId, place.h3Cell, place.lat, place.lng, fraudScore⟩ := by
    simp only [TriggerService.resolveH3Cell, h.getDriverState hdriver]
  unfold TriggerService.evaluateTrigger
  rw [hresolve]
  cases hfound : (TriggerService.resolveH3Cell latLngToCell tio b
      ⟨driverId, place.h3Cell, place.lat, place.lng, fraudScore⟩).filter (· ≠ "") with
  | none => rfl
  | some h3Cell =>
      simp only [TriggerService.fallbackDecision, h.getZoneState (hcell h3Cell hfound)]

theorem readFraud_view (h : SystemView cfg.payout.toConfig N s t) (hdriver : driverId ≠ N.driver)
    (place : Position) :
    Twins (SystemView cfg.payout.toConfig N) (readFraud cfg io driverId dto place s)
      (readFraud cfg io driverId dto place t) := by
  unfold readFraud
  split
  · rename_i lat lng _ _
    have hscore : Twins (SystemView cfg.payout.toConfig N)
        (FraudService.computeFraudScore cfg.fraud io.fraud driverId (fraudDto dto lat lng) s)
        (FraudService.computeFraudScore cfg.fraud io.fraud driverId (fraudDto dto lat lng) t) :=
      computeFraudScore_view h hdriver
    generalize FraudService.computeFraudScore cfg.fraud io.fraud driverId (fraudDto dto lat lng) s =
      outcome at hscore
    generalize FraudService.computeFraudScore cfg.fraud io.fraud driverId (fraudDto dto lat lng) t =
      outcome' at hscore
    obtain ⟨result, s'⟩ := outcome
    obtain ⟨result', t'⟩ := outcome'
    obtain ⟨hresult, hview⟩ := hscore
    cases hresult
    cases result with
    | error e => exact ⟨rfl, hview⟩
    | ok score => exact ⟨rfl, hview⟩
  · rw [h.redis.getDriverState hdriver]
    exact ⟨rfl, h⟩

/-- Without coordinates nothing is written. -/
theorem placed_after {place : Position} (h : Placed cfg io driverId s.redis place) :
    Placed cfg io driverId (readFraud cfg io driverId dto place s).2.redis place := by
  rcases h with hplaced | ⟨hmissing, hcell⟩
  · exact .inl hplaced
  · refine .inr ⟨hmissing, ?_⟩
    rw [hcell]
    unfold readFraud
    split
    · rename_i lat lng hlat hlng
      simp [hlat, hlng] at hmissing
    · rfl

theorem gatherEvidence_view (h : SystemView cfg.payout.toConfig N s t)
    (hdriver : driverId ≠ N.driver) (hpolicy : N.policy policy.id = false)
    (hcell : ∀ h3Cell ∈ truthy (position cfg io driverId dto t.redis).h3Cell,
      ¬Reads N io.redisUp io.now h3Cell) :
    Twins (SystemView cfg.payout.toConfig N) (gatherEvidence cfg io driverId dto policy s)
      (gatherEvidence cfg io driverId dto policy t) := by
  have hplace : position cfg io driverId dto s.redis = position cfg io driverId dto t.redis :=
    position_view h.redis hdriver
  have hplaced : Placed cfg io driverId t.redis (position cfg io driverId dto t.redis) :=
    placed_position t.redis
  unfold gatherEvidence
  rw [hplace]
  generalize position cfg io driverId dto t.redis = place at hcell hplaced
  have hzone : ((truthy place.h3Cell).bind fun cell =>
        getZoneState io.redisUp io.now s.redis cell) =
      (truthy place.h3Cell).bind fun cell => getZoneState io.redisUp io.now t.redis cell := by
    cases hfound : truthy place.h3Cell with
    | none => rfl
    | some h3Cell => exact h.redis.getZoneState (not_reads.mp (hcell h3Cell hfound))
  have hread : Twins (SystemView cfg.payout.toConfig N) (readFraud cfg io driverId dto place s)
      (readFraud cfg io driverId dto place t) := readFraud_view h hdriver place
  obtain ⟨hfraud, hview⟩ := hread
  have hafter : Placed cfg io driverId (readFraud cfg io driverId dto place t).2.redis place :=
    placed_after hplaced
  dsimp only
  rw [hzone, hfraud]
  generalize readFraud cfg io driverId dto place s = outcome at hfraud hview
  generalize readFraud cfg io driverId dto place t = outcome' at hfraud hview hafter
  obtain ⟨fraud, t'⟩ := outcome'
  refine ⟨?_, hview⟩
  have htrigger : ∀ fraudScore, ∀ h3Cell ∈ (TriggerService.resolveH3Cell cfg.latLngToCell
      ⟨io.now, io.redisUp, io.monitored⟩ t'.redis
      ⟨driverId, place.h3Cell, place.lat, place.lng, fraudScore⟩).filter (· ≠ ""),
      io.redisUp = true → N.cell h3Cell io.now = false := by
    intro fraudScore h3Cell hfound
    rw [hafter.resolveH3Cell] at hfound
    exact not_reads.mp (hcell h3Cell hfound)
  rw [evaluateTrigger_view hview.redis hdriver (htrigger _), hview.redis.getPolicyState hpolicy]

/-! ## The recorded cell -/

theorem recordedCell_of_state {redis : Redis} {up : Bool} {now : ℤ} {h3Cell : String}
    (h : cellOf (getDriverState up now redis driverId) = some h3Cell) :
    recordedCell redis driverId = some h3Cell := by
  unfold getDriverState RedisState.get at h
  unfold recordedCell
  cases up with
  | false => cases h
  | true =>
      cases hentry : redis.drivers driverId with
      | none => simp [hentry, cellOf] at h
      | some entry =>
          simp only [hentry, if_true, Option.bind_some] at h ⊢
          split at h
          · exact h
          · cases h

/-- A score keeps the cell of the record, if it keeps it at all. -/
theorem recordedCell_readFraud {place : Position} {h3Cell : String}
    (h : recordedCell (readFraud cfg io driverId dto place s).2.redis driverId = some h3Cell) :
    recordedCell s.redis driverId = some h3Cell := by
  have hkept : ∀ {x : System}, x.redis.drivers = s.redis.drivers →
      recordedCell x.redis driverId = recordedCell s.redis driverId := by
    intro x hx
    rw [recordedCell, recordedCell, hx]
  unfold readFraud at h
  split at h
  · rename_i lat lng _ _
    have hdrivers := @DriverLocation.drivers_analyzeFraud cfg.fraud io.fraud driverId
      (fraudDto dto lat lng) s
    unfold FraudService.computeFraudScore at h
    generalize FraudService.analyzeFraud cfg.fraud io.fraud driverId (fraudDto dto lat lng) s =
      outcome at hdrivers h
    obtain ⟨result, x⟩ := outcome
    cases result with
    | error e => exact (hkept hdrivers).symm.trans h
    | ok data =>
        dsimp only at h hdrivers
        rw [← hkept hdrivers]
        cases hup : io.fraud.redisUp with
        | false => simpa [hup, setDriverState] using h
        | true =>
            have hcell : cellOf (getDriverState true io.fraud.now x.redis driverId) =
                some h3Cell := by
              rw [← h, hup]
              generalize getDriverState true io.fraud.now x.redis driverId = state
              rcases state with _ | ⟨-, _ | _⟩ <;>
                simp [recordedCell, setDriverState, setEx, cellOf]
            exact recordedCell_of_state hcell
  · exact h

end Evidence

/-! ## A claim of another driver -/

section Others

variable {claim : Claim} {policy : Policy}

theorem touchPolicyState_drivers (io : EvaluateIo) (policy : Policy) (Ct : ℚ) (redis : Redis) :
    (touchPolicyState io policy Ct redis).drivers = redis.drivers :=
  DriverLocation.drivers_setPolicyState _ _ _ _ _

theorem touchPolicyState_zones (io : EvaluateIo) (policy : Policy) (Ct : ℚ) (redis : Redis) :
    (touchPolicyState io policy Ct redis).zones = redis.zones := by
  unfold touchPolicyState setPolicyState
  cases io.redisUp <;> rfl

theorem zoneLossFraction_of_records {io : EvaluateIo} {driverId : String}
    {dto : ProcessInsuranceRequestDto} {a b : Redis} (hdrivers : a.drivers = b.drivers)
    (hzones : a.zones = b.zones) :
    zoneLossFraction cfg io driverId dto a = zoneLossFraction cfg io driverId dto b := by
  rw [zoneLossFraction, zoneLossFraction, position_of_drivers hdrivers]
  simp only [getZoneState, hzones]

/-- The condition looks at the records of the zones and of the driver. -/
theorem ReadsApart.of_records {a b : Redis} (h : ReadsApart cfg N claim a)
    (hdrivers : b.drivers = a.drivers) (hzones : b.zones = a.zones) : ReadsApart cfg N claim b where
  place := by
    rw [position_of_drivers hdrivers]
    exact h.place
  recorded hzero h3Cell hrecorded := by
    rw [zoneLossFraction_of_records hdrivers hzones] at hzero
    rw [Option.mem_def, recordedCell, hdrivers] at hrecorded
    exact h.recorded hzero h3Cell hrecorded

theorem zoneLossFraction_view (h : SystemView cfg.payout.toConfig N s t) (hother : OfOther N claim)
    (hreads : ReadsApart cfg N claim t.redis) :
    zoneLossFraction cfg claim.io claim.driverId claim.dto s.redis =
      zoneLossFraction cfg claim.io claim.driverId claim.dto t.redis := by
  rw [zoneLossFraction, zoneLossFraction, position_view h.redis hother.driver]
  cases hplace : truthy (position cfg claim.io claim.driverId claim.dto t.redis).h3Cell with
  | none => rfl
  | some h3Cell =>
      simp only [Option.bind_some,
        h.redis.getZoneState (not_reads.mp (hreads.place h3Cell hplace).1)]

theorem payClaim_view (h : SystemView cfg.payout.toConfig N s t) (hother : OfOther N claim)
    {Ew Lf Ct : ℚ} {e : Evidence} {h3Cell : String} (hplace : truthy e.h3Cell = some h3Cell)
    (htrigger : IsTriggerState e.zoneState)
    (hcell : ¬Reads N claim.io.process.redisUp claim.io.process.now h3Cell)
    (hrecorded : Lf = 0 → ∀ cell ∈ cellOf (getDriverState claim.io.calculate.redisUp
      claim.io.calculate.now t.redis claim.driverId),
      ¬Reads N claim.io.calculate.redisUp claim.io.calculate.now cell) :
    Twins (SystemView cfg.payout.toConfig N)
      (payClaim cfg claim.io claim.driverId claim.dto policy Ew Lf Ct e s)
      (payClaim cfg claim.io claim.driverId claim.dto policy Ew Lf Ct e t) := by
  have hcalculate :
      calculatePayout claim.io.calculate s ⟨claim.driverId, some Ew, some Lf, some Ct⟩ =
      calculatePayout claim.io.calculate t ⟨claim.driverId, some Ew, some Lf, some Ct⟩ :=
    calculatePayout_view h hother.driver fun hzero cell hmem =>
      not_reads.mp (hrecorded hzero cell hmem)
  unfold payClaim
  rw [hcalculate]
  cases calculatePayout claim.io.calculate t ⟨claim.driverId, some Ew, some Lf, some Ct⟩ with
  | error e => exact ⟨rfl, h⟩
  | ok calculation =>
      dsimp only
      have hcellOf : e.h3Cell = some h3Cell := (Option.filter_eq_some_iff.mp hplace).1
      have hpaid : ∀ params : ProcessPayoutParams, params.driverId = claim.driverId →
          params.h3Cell = e.h3Cell → params.disruptionType = some e.zoneState →
          Twins (SystemView cfg.payout.toConfig N)
            (processPayout cfg.payout claim.io.process params s)
            (processPayout cfg.payout claim.io.process params t) := by
        intro params hdriver hh3Cell htype
        refine processPayout_view h (hdriver ▸ hother.driver) ?_ ?_ hother.event hother.draws
        · intro cell hmem
          rw [hh3Cell, hcellOf, Option.some_or, ← hcellOf, hplace] at hmem
          cases hmem
          exact not_reads.mp hcell
        · rw [eventType, htype]
          exact htrigger
      obtain ⟨hresult, hview⟩ := hpaid
        { driverId := claim.driverId
          payoutAmount := some calculation.payoutAmount
          h3Cell := e.h3Cell
          eventTimestamp := some (InsuranceService.eventTimestamp claim.io claim.dto)
          policyId := some policy.id
          disruptionType := some e.zoneState } rfl rfl rfl
      generalize processPayout cfg.payout claim.io.process _ s = outcome at hresult hview
      generalize processPayout cfg.payout claim.io.process _ t = outcome' at hresult hview
      obtain ⟨result, s'⟩ := outcome
      obtain ⟨result', t'⟩ := outcome'
      cases hresult
      cases result with
      | error e => exact ⟨rfl, hview⟩
      | ok result => exact ⟨rfl, hview⟩

theorem evaluateClaim_view (h : SystemView cfg.payout.toConfig N s t) (hother : OfOther N claim)
    (hreads : ReadsApart cfg N claim t.redis) (hpolicy : N.policy policy.id = false)
    (planKey : String) (Ew Ct : ℚ) :
    Twins (SystemView cfg.payout.toConfig N)
      (evaluateClaim cfg claim.io claim.driverId claim.dto policy planKey Ew Ct s)
      (evaluateClaim cfg claim.io claim.driverId claim.dto policy planKey Ew Ct t) := by
  have htouched : SystemView cfg.payout.toConfig N
      { s with redis := touchPolicyState claim.io policy Ct s.redis }
      { t with redis := touchPolicyState claim.io policy Ct t.redis } := by
    refine ⟨h.db, ?_⟩
    unfold touchPolicyState
    rw [h.redis.getPolicyState hpolicy]
    exact h.redis.setPolicyState _ _ _ _
  have hreads' : ReadsApart cfg N claim (touchPolicyState claim.io policy Ct t.redis) :=
    hreads.of_records (touchPolicyState_drivers ..) (touchPolicyState_zones ..)
  unfold evaluateClaim
  generalize ({ s with redis := touchPolicyState claim.io policy Ct s.redis } : System) = s'
    at htouched
  generalize ht : ({ t with redis := touchPolicyState claim.io policy Ct t.redis } : System) = t'
    at htouched
  have hredis : t'.redis = touchPolicyState claim.io policy Ct t.redis := by rw [← ht]
  rw [← hredis] at hreads'
  dsimp only
  rw [zoneLossFraction_view htouched hother hreads']
  have hevidence : Twins (SystemView cfg.payout.toConfig N)
      (gatherEvidence cfg claim.io claim.driverId claim.dto policy s')
      (gatherEvidence cfg claim.io claim.driverId claim.dto policy t') :=
    gatherEvidence_view htouched hother.driver hpolicy
      fun h3Cell hmem => (hreads'.place h3Cell hmem).1
  have hplace : (gatherEvidence cfg claim.io claim.driverId claim.dto policy t').1.h3Cell =
      (position cfg claim.io claim.driverId claim.dto t'.redis).h3Cell := rfl
  have hrecord : ∀ h3Cell, recordedCell
      (gatherEvidence cfg claim.io claim.driverId claim.dto policy t').2.redis claim.driverId =
        some h3Cell → recordedCell t'.redis claim.driverId = some h3Cell :=
    fun h3Cell hrecorded => recordedCell_readFraud hrecorded
  obtain ⟨hsame, hview⟩ := hevidence
  generalize gatherEvidence cfg claim.io claim.driverId claim.dto policy s' = outcome at hsame hview
  generalize gatherEvidence cfg claim.io claim.driverId claim.dto policy t' = outcome'
    at hsame hview hplace hrecord
  obtain ⟨e, x⟩ := outcome
  obtain ⟨e', y⟩ := outcome'
  cases hsame
  dsimp only at hplace hrecord hview ⊢
  cases hrefusal : refusal e with
  | some decision => exact ⟨rfl, hview⟩
  | none =>
      obtain ⟨h3Cell, score, hcell, htrigger, -⟩ := refusal_eq_none.mp hrefusal
      have hpaid : Twins (SystemView cfg.payout.toConfig N)
          (payClaim cfg claim.io claim.driverId claim.dto policy Ew
            (zoneLossFraction cfg claim.io claim.driverId claim.dto t'.redis) Ct e x)
          (payClaim cfg claim.io claim.driverId claim.dto policy Ew
            (zoneLossFraction cfg claim.io claim.driverId claim.dto t'.redis) Ct e y) := by
        refine payClaim_view hview hother hcell htrigger ?_ fun hzero cell hmem => ?_
        · exact (hreads'.place h3Cell (by rw [← hplace]; exact hcell)).2
        · exact hreads'.recorded hzero cell (hrecord cell (recordedCell_of_state hmem))
      obtain ⟨hresult, hafter⟩ := hpaid
      generalize payClaim cfg claim.io claim.driverId claim.dto policy Ew _ Ct e x = paid
        at hresult hafter
      generalize payClaim cfg claim.io claim.driverId claim.dto policy Ew _ Ct e y = paid'
        at hresult hafter
      obtain ⟨result, x'⟩ := paid
      obtain ⟨result', y'⟩ := paid'
      cases hresult
      cases result with
      | error error => exact ⟨rfl, hafter⟩
      | ok result => exact ⟨rfl, hafter⟩

theorem claimedPolicy_view {a b : Db} (h : DbView cfg.payout.toConfig N a b) (io : EvaluateIo)
    (driverId : String) : claimedPolicy io driverId a = claimedPolicy io driverId b := by
  rw [claimedPolicy, claimedPolicy, PremiumService.unendedPolicy, PremiumService.unendedPolicy,
    h.policies]

theorem planKeyOf_view {a b : Db} (h : DbView cfg.payout.toConfig N a b) (policy : Policy) :
    PlansService.planKeyOf a policy = PlansService.planKeyOf b policy := by
  rw [PlansService.planKeyOf, PlansService.planKeyOf, PlansService.weeklyPlanOf,
    PlansService.weeklyPlanOf, h.weeklyPlans]

theorem owner_of_claimedPolicy {io : EvaluateIo} {driverId : String} {db : Db} {Ew : ℚ}
    (h : claimedPolicy io driverId db = .ok (Ew, some policy)) :
    db.policies.findUnique policy.id = some policy ∧ policy.userId = driverId := by
  obtain ⟨_, -, h⟩ := bind_eq_ok.mp h
  obtain ⟨_, -, h⟩ := bind_eq_ok.mp h
  simp only [pure_eq, Except.ok.injEq, Prod.mk.injEq] at h
  obtain ⟨hmem, hquery⟩ := Table.findFirstDesc_eq_some h.2
  simp only [Bool.and_eq_true, decide_eq_true_eq] at hquery
  exact ⟨(db.policies.findUnique_eq_some _ _).mpr ⟨hmem, by simp [Policy.keys]⟩, hquery.1.1⟩

/-- The claim is answered alike. -/
theorem processInsurance_view (h : SystemView cfg.payout.toConfig N s t) (hother : OfOther N claim)
    (hreads : ReadsApart cfg N claim t.redis) :
    Twins (SystemView cfg.payout.toConfig N)
      (processInsurance cfg claim.io claim.driverId claim.dto s)
      (processInsurance cfg claim.io claim.driverId claim.dto t) := by
  unfold processInsurance
  rw [claimedPolicy_view h.db]
  cases hclaimed : claimedPolicy claim.io claim.driverId t.db with
  | error e => exact ⟨rfl, h⟩
  | ok claimed =>
      obtain ⟨Ew, _ | policy⟩ := claimed
      · exact ⟨rfl, h⟩
      · dsimp only
        obtain ⟨hfound, howner⟩ := owner_of_claimedPolicy hclaimed
        have hpolicy : N.policy policy.id = false := by
          rw [h.db.right.policy_of_found hfound, howner, decide_eq_false hother.driver]
        rw [planKeyOf_view h.db, eligibility_view h.db]
        cases Eligibility.assertDriverPolicyEligibility cfg.payout.eligibility
            claim.io.readEligibility claim.io.now t.db claim.driverId
            (some (PlansService.planKeyOf t.db policy)) with
        | error e => exact ⟨rfl, h⟩
        | ok standing =>
            dsimp only
            cases ctForPlan (some (PlansService.planKeyOf t.db policy)) with
            | none => exact ⟨rfl, h⟩
            | some Ct => exact evaluateClaim_view h hother hreads hpolicy _ Ew Ct

end Others

/-! ## A refused claim of the driver -/

section Own

variable {io : EvaluateIo} {dto : ProcessInsuranceRequestDto} {policy : Policy}

/-- The claim comes to no payout. -/
def refused (cfg : InsuranceService.Config) (claim : Claim) (s : System) : Bool :=
  match claimedPolicy claim.io claim.driverId s.db with
  | .ok (_, some policy) =>
      match ctForPlan (some (PlansService.planKeyOf s.db policy)) with
      | some Ct =>
          (refusal (gatherEvidence cfg claim.io claim.driverId claim.dto policy
            { s with redis := touchPolicyState claim.io policy Ct s.redis }).1).isSome
      | none => true
  | _ => true

theorem readFraud_own (h : Fits cfg.payout.toConfig N s.db) (place : Position)
    (hevent : ∀ lat lng, FraudService.isClaimEvent (fraudDto dto lat lng) = false) :
    SystemView cfg.payout.toConfig N s (readFraud cfg io N.driver dto place s).2 := by
  unfold readFraud
  split
  · rename_i lat lng _ _
    have hscore : SystemView cfg.payout.toConfig N s
        (FraudService.computeFraudScore cfg.fraud io.fraud N.driver (fraudDto dto lat lng) s).2 :=
      computeFraudScore_own h (hevent lat lng)
    split
    · rename_i hresult
      rw [hresult] at hscore
      exact hscore
    · rename_i hresult
      rw [hresult] at hscore
      exact hscore
  · exact ⟨h.view, .refl _⟩

theorem processInsurance_own {claim : Claim} (h : Fits cfg.payout.toConfig N s.db)
    (hdriver : claim.driverId = N.driver) (hrefused : refused cfg claim s = true)
    (hevent : ∀ lat lng, FraudService.isClaimEvent (fraudDto claim.dto lat lng) = false) :
    SystemView cfg.payout.toConfig N s
      (processInsurance cfg claim.io claim.driverId claim.dto s).2 := by
  have hsame : SystemView cfg.payout.toConfig N s s := ⟨h.view, .refl _⟩
  unfold refused at hrefused
  unfold processInsurance
  cases hclaimed : claimedPolicy claim.io claim.driverId s.db with
  | error e => exact hsame
  | ok claimed =>
      obtain ⟨Ew, _ | policy⟩ := claimed
      · exact hsame
      · rw [hclaimed] at hrefused
        dsimp only at hrefused ⊢
        split
        · exact hsame
        · cases hCt : ctForPlan (some (PlansService.planKeyOf s.db policy)) with
          | none => exact hsame
          | some Ct =>
              rw [hCt] at hrefused
              dsimp only at hrefused ⊢
              obtain ⟨hfound, howner⟩ := owner_of_claimedPolicy hclaimed
              have hpolicy : N.policy policy.id = true := by
                rw [h.policy_of_found hfound, howner, decide_eq_true hdriver]
              have htouched : SystemView cfg.payout.toConfig N s
                  { s with redis := touchPolicyState claim.io policy Ct s.redis } :=
                ⟨h.view, .setPolicyState_own hpolicy _ _ _⟩
              obtain ⟨decision, hdecision⟩ := Option.isSome_iff_exists.mp hrefused
              unfold evaluateClaim
              dsimp only
              rw [hdecision]
              refine htouched.trans ?_
              rw [hdriver]
              exact readFraud_own htouched.db.right _ hevent

end Own

end Aegis.DemoFlow
