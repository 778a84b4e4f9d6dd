import Aegis.Verification.Demo.Claims

/-! # One demo

All that a demo writes is the driver's, but for the records of the cell. -/

namespace Aegis.DemoFlow

open Outcome RedisState PayoutService InsuranceService

variable {cfg : InsuranceService.Config} {N : Names} {io : DemoIo} {dto : DriverDemoTriggerDto}
  {s : System} {fleet before : Fleet}

/-- The cell that a demo writes to. -/
def cellOfDemo (io : DemoIo) (driverId : String) (dto : DriverDemoTriggerDto) (policy : Policy)
    (redis : Redis) : String :=
  demoCell dto.toDemoTriggerDto (demoReading io driverId policy.id redis)

/-- The cell is marked as long as a record of the demo lives in it, the ids drawn are names, and
no money of the pool is asked for. -/
structure Contained (cfg : InsuranceService.Config) (N : Names) (io : DemoIo)
    (dto : DriverDemoTriggerDto) (fleet : Fleet) : Prop where
  zone : ∀ policy ∈ activePolicy io.fraud.now fleet.system.db N.driver,
    Marked N io.fraud.now (cellOfDemo io N.driver dto policy fleet.system.redis)
      (fleet.system.redis.zones (cellOfDemo io N.driver dto policy fleet.system.redis))
  listed : ∀ policy ∈ activePolicy io.fraud.now fleet.system.db N.driver,
    Marked N io.fraud.now (cellOfDemo io N.driver dto policy fleet.system.redis)
      (fleet.roster.drivers (cellOfDemo io N.driver dto policy fleet.system.redis))
  pool : DrawsPool cfg.payout.toConfig.env →
    TriggerService.fraudGateOf (some (.fin (demoFraudScore dto))) ≠ .PASS
  event : N.event io.process.eventId = true
  draws : DrawsNames N io.process.settle

theorem demoCheck_own (h : Fits cfg.payout.toConfig N s.db) (fraud : FraudService.FraudIo)
    (dto : DemoTriggerDto) :
    SystemView cfg.payout.toConfig N s (demoCheck cfg.fraud fraud N.driver dto s).2 ∧
      OnlyScoring s (demoCheck cfg.fraud fraud N.driver dto s).2 := by
  have hclaim : FraudService.isClaimEvent (demoFraudDto dto) = false := by
    have hlabel : JsString.includes (JsString.toUpperCase "DEMO_TRIGGER") "CLAIM" = false := by
      decide
    simp [FraudService.isClaimEvent, demoFraudDto, hlabel]
  have hscore : SystemView cfg.payout.toConfig N s (FraudService.computeFraudScore cfg.fraud fraud
      N.driver (demoFraudDto dto) s).2 := computeFraudScore_own h hclaim
  have hframe : OnlyScoring s (FraudService.computeFraudScore cfg.fraud fraud N.driver
      (demoFraudDto dto) s).2 := FraudService.computeFraudScore_frame s
  unfold demoCheck
  split
  · split
    · rename_i hresult
      rw [hresult] at hscore hframe
      exact ⟨hscore, hframe⟩
    · rename_i hresult
      rw [hresult] at hscore hframe
      exact ⟨hscore, hframe⟩
  · exact ⟨h.systemView, .refl s⟩

theorem demoWrites_own {redis : Redis} {policyId : String} {read : DemoReading} {now : ℤ}
    {up : Bool} {dto : DemoTriggerDto} (hpolicy : N.policy policyId = true)
    (hzone : Marked N now (demoCell dto read) (redis.zones (demoCell dto read))) :
    RedisView N redis (demoWrites ⟨now, up⟩ N.driver policyId dto read redis) :=
  ((RedisView.setZoneState_own _ hzone).trans (.setPolicyState_own hpolicy up now _)).trans
    (.setDriverState_own up now _)

theorem not_isTriggerState_of_mem {s : String} (h : 'M' ∈ (JsString.toUpperCase s).toList) :
    ¬IsTriggerState s := by
  have hnone : ∀ label ∈ PARAMETRIC_TRIGGER_STATES, 'M' ∉ label.toList := by decide
  intro htrigger
  exact hnone _ (List.contains_iff_mem.mp htrigger) h

/-- No claim asks for the event type of a demo. -/
theorem not_isTriggerState_demo (policyId h3Cell : String) (payoutAmount : ℚ) :
    ¬IsTriggerState (eventType (demoPayout io N.driver dto policyId h3Cell payoutAmount)) := by
  refine not_isTriggerState_of_mem ?_
  have hupper : JsString.upperChar 'M' = ['M'] := by decide
  simp [eventType, demoPayout, JsString.toUpperCase, hupper]

theorem fraudGateOf_of_canExecutePayout {h3Cell : String} {redis : Redis}
    (h : canExecutePayout dto (demoTrigger cfg io N.driver dto h3Cell redis) = true) :
    TriggerService.fraudGateOf (some (.fin (demoFraudScore dto))) = .PASS := by
  simp only [canExecutePayout, Bool.and_eq_true, decide_eq_true_eq] at h
  obtain ⟨happroved, hpassed⟩ := h
  have hgate : fraudGate (demoTrigger cfg io N.driver dto h3Cell redis) = .PASS := by
    unfold fraudStage at hpassed
    dsimp only at hpassed
    split at hpassed
    · cases hpassed
    · cases hpassed
    · assumption
  unfold demoTrigger TriggerService.evaluateTrigger at happroved hgate
  split at happroved
  · cases happroved
  · rename_i hfound
    rw [hfound] at hgate
    exact hgate

theorem payoutStage_own (h : Fits cfg.payout.toConfig N s.db) (hio : Contained cfg N io dto fleet)
    (policyId h3Cell : String) (redis : Redis) :
    SystemView cfg.payout.toConfig N s (payoutStage cfg io N.driver dto policyId h3Cell
      (demoTrigger cfg io N.driver dto h3Cell redis) s).2 := by
  unfold payoutStage
  split
  · rename_i hexecute
    have hpool : ¬DrawsPool cfg.payout.toConfig.env :=
      fun hpool => hio.pool hpool (fraudGateOf_of_canExecutePayout hexecute)
    have hpaid : ∀ payoutAmount, SystemView cfg.payout.toConfig N s
        (processPayout cfg.payout io.process
          (demoPayout io N.driver dto policyId h3Cell payoutAmount) s).2 :=
      fun payoutAmount => processPayout_own h rfl hpool
        (not_isTriggerState_demo policyId h3Cell payoutAmount) hio.event hio.draws
    have hexecuted : SystemView cfg.payout.toConfig N s
        (executePayout cfg io N.driver dto policyId h3Cell s).2 := by
      unfold executePayout
      dsimp only
      split
      · exact h.systemView
      · rename_i calculation _
        specialize hpaid (if 0 < calculation.payoutAmount then calculation.payoutAmount else
          minimumDemoGross (resolveDemoScenario dto.scenario))
        split
        · rename_i hresult
          rw [hresult] at hpaid
          exact hpaid
        · rename_i hresult
          rw [hresult] at hpaid
          exact hpaid
    split
    · rename_i hresult
      rw [hresult] at hexecuted
      exact hexecuted
    · rename_i hresult
      rw [hresult] at hexecuted
      exact hexecuted
  · exact h.systemView

theorem runStages_own (h : Fits cfg.payout.toConfig N fleet.system.db)
    (hio : Contained cfg N io dto before) {policy : Policy} (hpolicy : N.policy policy.id = true)
    {read : DemoReading}
    (hzone : Marked N io.fraud.now (demoCell dto.toDemoTriggerDto read)
      (fleet.system.redis.zones (demoCell dto.toDemoTriggerDto read)))
    (hlisted : Marked N io.fraud.now (demoCell dto.toDemoTriggerDto read)
      (fleet.roster.drivers (demoCell dto.toDemoTriggerDto read))) :
    FleetView cfg.payout.toConfig N fleet
      (runStages cfg io N.driver dto policy.id read fleet).2 := by
  have hjoined : RosterView N (fleet.rosterAt io.fraud.now)
      (writeRecords io N.driver dto policy.id read fleet).roster :=
    RosterView.addDriverToZone_own hlisted
  have hwritten : FleetView cfg.payout.toConfig N fleet
      (writeRecords io N.driver dto policy.id read fleet) :=
    ⟨⟨h.view, demoWrites_own hpolicy hzone⟩, hjoined⟩
  refine hwritten.trans ⟨?_, .refl _⟩
  exact payoutStage_own hwritten.system.db.right hio _ _ _

/-- A demo leaves a state behind that differs in what is the driver's only. -/
theorem runDriverDemoTriggerFlow_own (h : Fits cfg.payout.toConfig N fleet.system.db)
    (hio : Contained cfg N io dto fleet) :
    FleetView cfg.payout.toConfig N fleet
      (runDriverDemoTriggerFlow cfg io N.driver dto fleet).2 := by
  unfold runDriverDemoTriggerFlow
  split
  · split
    · exact h.fleetView
    · rename_i policy hactive
      have hpolicy : N.policy policy.id = true := by
        obtain ⟨hmem, hquery⟩ := Table.findFirstDesc_eq_some hactive
        simp only [Bool.and_eq_true, decide_eq_true_eq] at hquery
        rw [h.policies policy hmem, decide_eq_true hquery.1.1.1]
      obtain ⟨hchecked, honly⟩ := demoCheck_own h io.fraud dto.toDemoTriggerDto
      dsimp only
      split
      · rename_i hresult
        rw [hresult] at hchecked
        exact ⟨hchecked, .refl _⟩
      · rename_i system hresult
        rw [hresult] at hchecked honly
        have hzones : system.redis.zones = fleet.system.redis.zones := by
          obtain ⟨_, _, _, _, rfl⟩ := honly
          rfl
        have hstages : FleetView cfg.payout.toConfig N { fleet with system }
            (runStages cfg io N.driver dto policy.id
              (demoReading io N.driver policy.id fleet.system.redis) { fleet with system }).2 := by
          refine runStages_own hchecked.db.right hio hpolicy ?_ (hio.listed policy hactive)
          dsimp only
          rw [hzones]
          exact hio.zone policy hactive
        have hbefore : FleetView cfg.payout.toConfig N fleet { fleet with system } :=
          ⟨hchecked, .refl _⟩
        exact hbefore.trans hstages
  · exact h.fleetView

end Aegis.DemoFlow
