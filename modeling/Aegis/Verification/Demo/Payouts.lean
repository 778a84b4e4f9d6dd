import Aegis.Verification.Demo.Scoring
import Aegis.Verification.Demo.Settlements
import Aegis.Verification.Payouts.Processing

/-! # Payout calls beside the demos -/

namespace Aegis.DemoFlow

open Outcome RedisState PayoutService

variable {cfg : PayoutService.Config} {N : Names} {params : ProcessPayoutParams} {a b : Db}
  {s t : System}

theorem activePolicy_view (h : DbView cfg.toConfig N a b) (now : ℤ) (driverId : String) :
    activePolicy now a driverId = activePolicy now b driverId := by
  rw [activePolicy, activePolicy, h.policies]

theorem eligibility_view (h : DbView cfg.toConfig N a b) (env : Eligibility.Env) (readable : Bool)
    (now : ℤ) (userId : String) (planKey : Option String) :
    Eligibility.assertDriverPolicyEligibility env readable now a userId planKey =
      Eligibility.assertDriverPolicyEligibility env readable now b userId planKey := by
  rw [Eligibility.assertDriverPolicyEligibility, Eligibility.assertDriverPolicyEligibility, h.users,
    h.kycProfiles, h.kycPayoutSetups]

/-! ## A payout of another driver -/

section Others

theorem calculatePayout_view (h : SystemView cfg.toConfig N s t) {io : CalculateIo}
    {params : CalculateParams} (hdriver : params.driverId ≠ N.driver)
    (hcell : params.Lf.getD 0 = 0 → ∀ h3Cell ∈
      cellOf (getDriverState io.redisUp io.now t.redis params.driverId),
      io.redisUp = true → N.cell h3Cell io.now = false) :
    calculatePayout io s params = calculatePayout io t params := by
  have hLf : params.Lf.getD 0 = 0 →
      driverLf io s.redis params.driverId = driverLf io t.redis params.driverId := by
    intro hzero
    rw [driverLf, driverLf, h.redis.getDriverState hdriver]
    cases hfound : cellOf (getDriverState io.redisUp io.now t.redis params.driverId) with
    | none => rfl
    | some h3Cell =>
        dsimp only
        rw [h.redis.getZoneState (hcell hzero h3Cell hfound)]
  unfold calculatePayout
  rw [activePolicy_view h.db]
  by_cases hzero : params.Lf.getD 0 = 0
  · simp only [hzero, if_true, hLf hzero]
  · simp only [hzero, if_false]

variable {io : ProcessIo}

/-- The zone record that the gates read is not one of the demos. -/
def GatesApart (N : Names) (io : ProcessIo) (params : ProcessPayoutParams) (redis : Redis) : Prop :=
  ∀ h3Cell ∈ truthy (params.h3Cell.or
      (cellOf (getDriverState io.redisUp io.now redis params.driverId))),
    io.redisUp = true → N.cell h3Cell io.now = false

theorem selectPolicy_view (h : DbView cfg.toConfig N a b) :
    selectPolicy io params a = selectPolicy io params b := by
  rw [selectPolicy, selectPolicy, activePolicy_view h, h.policies]

theorem checkGates_view (h : SystemView cfg.toConfig N s t) (hdriver : params.driverId ≠ N.driver)
    (hcell : GatesApart N io params t.redis) :
    checkGates cfg io params s = checkGates cfg io params t := by
  unfold checkGates
  rw [selectPolicy_view h.db]
  cases hselected : selectPolicy io params t.db with
  | error e => rfl
  | ok policy =>
      simp only [ok_bind]
      by_cases howner : policy.userId = params.driverId
      · have hfound := (Payouts.selectPolicy_spec hselected).1
        have hpolicy : N.policy policy.id = false := by
          rw [h.db.right.policy_of_found hfound, howner, decide_eq_false hdriver]
        rw [eligibility_view h.db, h.redis.getDriverState hdriver, h.redis.getPolicyState hpolicy]
        cases hplace : truthy (params.h3Cell.or
            (cellOf (getDriverState io.redisUp io.now t.redis params.driverId))) with
        | none => rfl
        | some h3Cell =>
            simp only [orThrow, ok_bind]
            rw [h.redis.getZoneState (hcell h3Cell hplace)]
      · simp [require, howner]

theorem Fits.policy_of_checkGates {policy : Policy} {h3Cell : String}
    (h : Fits cfg.toConfig N s.db) (hgates : checkGates cfg io params s = .ok (policy, h3Cell)) :
    N.policy policy.id = decide (params.driverId = N.driver) := by
  obtain ⟨policy', hselected, hgates⟩ := bind_eq_ok.mp hgates
  obtain ⟨_, howner, hgates⟩ := bind_eq_ok.mp hgates
  obtain ⟨_, -, hgates⟩ := bind_eq_ok.mp hgates
  obtain ⟨_, -, hgates⟩ := bind_eq_ok.mp hgates
  obtain ⟨_, -, hgates⟩ := bind_eq_ok.mp hgates
  obtain ⟨_, -, hgates⟩ := bind_eq_ok.mp hgates
  obtain ⟨_, -, hgates⟩ := bind_eq_ok.mp hgates
  obtain ⟨_, -, hgates⟩ := bind_eq_ok.mp hgates
  cases hgates
  rw [h.policy_of_found (Payouts.selectPolicy_spec hselected).1, require_eq_ok.mp howner]

/-- The event that a claim is paid for is not one of the demos. -/
theorem findOrCreateEvent_view (h : DbView cfg.toConfig N a b)
    (htype : IsTriggerState (eventType params)) (hid : N.event io.eventId = false) :
    Rel (fun x y => x.1 = y.1 ∧ N.event x.1.id = false ∧ DbView cfg.toConfig N x.2 y.2)
      (findOrCreateEvent io params a) (findOrCreateEvent io params b) := by
  have hvisible : ∀ {db : Db}, Fits cfg.toConfig N db → ∀ e ∈ db.disruptionEvents.rows,
      (e.type = eventType params && io.now - 3600 * 1000 ≤ e.occurredAt) = true →
        N.event e.id = false := by
    intro db hdb e he hquery
    simp only [Bool.and_eq_true, decide_eq_true_eq] at hquery
    cases hname : N.event e.id with
    | false => rfl
    | true => exact absurd (hquery.1 ▸ htype) (hdb.events e he hname)
  refine Rel.require_bind fun _ => ?_
  rw [← h.events.findFirstDesc DisruptionEvent.occurredAt fun e he hquery k hk => ?_]
  · split
    · rename_i disruption hfound
      obtain ⟨hmem, hquery⟩ := Table.findFirstDesc_eq_some hfound
      exact .ok ⟨rfl, hvisible h.left disruption hmem hquery, h⟩
    · refine Rel.require_bind fun _ => ?_
      have hnew : ∀ k ∈ (newEvent io params).keys, N.event k = false := by
        simpa [DisruptionEvent.keys, newEvent] using hid
      have hfits : ∀ {t t' : Table DisruptionEvent.keys}, t.create (newEvent io params) = some t' →
          (∀ e ∈ t.rows, N.event e.id = true → ¬IsTriggerState e.type) →
          ∀ e ∈ t'.rows, N.event e.id = true → ¬IsTriggerState e.type := by
        intro t t' hcreate ht e he
        rcases (Table.mem_create hcreate).mp he with he | rfl
        · exact ht e he
        · exact fun hname => absurd (hid.symm.trans hname) (by simp)
      have hcreate := h.events.create hnew
      generalize hleft : a.disruptionEvents.create (newEvent io params) = left at hcreate
      generalize hright : b.disruptionEvents.create (newEvent io params) = right at hcreate
      cases hcreate with
      | none => exact .error _
      | some hevents =>
          exact .ok ⟨rfl, hid, { h with
            left := { h.left with events := hfits hleft h.left.events }
            right := { h.right with events := hfits hright h.right.events }
            events := hevents }⟩
  · have hkey : k = e.id := by simpa [DisruptionEvent.keys] using hk
    rw [hkey]
    rcases he with he | he
    · exact hvisible h.left e he hquery
    · exact hvisible h.right e he hquery

theorem redisView_pushPayoutRetry {x y : Redis} (h : RedisView N x y) (up : Bool)
    (payload : PayoutRetry) :
    RedisView N (pushPayoutRetry up x payload) (pushPayoutRetry up y payload) := by
  cases up with
  | false => exact h
  | true => exact ⟨h.zones, h.drivers, h.policies⟩

theorem settleOrQueue_view (h : SystemView cfg.toConfig N s t) {policy : Policy}
    {dto : Payments.ParametricPayoutDto} (hdto : ForOther N dto) (hio : DrawsApart N io.settle) :
    Twins (SystemView cfg.toConfig N) (settleOrQueue cfg io params policy dto s)
      (settleOrQueue cfg io params policy dto t) := by
  have hworld : WorldView cfg.toConfig N s.toWorld t.toWorld := h.db
  have hsettled := processParametricPayout_view hworld hdto hio
  unfold settleOrQueue
  generalize Payments.processParametricPayout cfg.toConfig io.settle dto s.toWorld = x at hsettled
  generalize Payments.processParametricPayout cfg.toConfig io.settle dto t.toWorld = y at hsettled
  obtain ⟨result, world⟩ := x
  obtain ⟨result', world'⟩ := y
  obtain ⟨hresult, hdb⟩ := hsettled
  cases hresult
  cases result with
  | error e => exact ⟨rfl, hdb, redisView_pushPayoutRetry h.redis _ _⟩
  | ok payout => exact ⟨rfl, hdb, h.redis⟩

/-- A payout of another driver has the same outcome in both states. -/
theorem processPayout_view (h : SystemView cfg.toConfig N s t)
    (hdriver : params.driverId ≠ N.driver) (hcell : GatesApart N io params t.redis)
    (htype : IsTriggerState (eventType params)) (hid : N.event io.eventId = false)
    (hio : DrawsApart N io.settle) :
    Twins (SystemView cfg.toConfig N) (processPayout cfg io params s)
      (processPayout cfg io params t) := by
  unfold processPayout
  rw [checkGates_view h hdriver hcell]
  cases hgates : checkGates cfg io params t with
  | error e => exact ⟨rfl, h⟩
  | ok passed =>
      obtain ⟨policy, h3Cell⟩ := passed
      dsimp only
      have hevent : Rel (fun x y => x.1 = y.1 ∧ N.event x.1.id = false ∧
          DbView cfg.toConfig N x.2 y.2) (findOrCreateEvent io params s.db)
          (findOrCreateEvent io params t.db) := findOrCreateEvent_view h.db htype hid
      generalize findOrCreateEvent io params s.db = x at hevent
      generalize findOrCreateEvent io params t.db = y at hevent
      cases hevent with
      | error e => exact ⟨rfl, h⟩
      | @ok x y hfound =>
          obtain ⟨disruption, db⟩ := x
          obtain ⟨disruption', db'⟩ := y
          obtain ⟨hdisruption, hname, hdb⟩ := hfound
          cases hdisruption
          have hsystem : SystemView cfg.toConfig N { s with db } { t with db := db' } :=
            ⟨hdb, h.redis⟩
          have hpolicy : N.policy policy.id = false := by
            rw [h.db.right.policy_of_checkGates hgates, decide_eq_false hdriver]
          dsimp only
          cases io.readPayout with
          | false => exact ⟨rfl, hsystem⟩
          | true =>
              have hindex : N.payoutIndex (.policyId_disruptionEventId policy.id disruption.id) =
                  false := hpolicy
              rw [if_pos rfl, if_pos rfl, hdb.payouts.findUnique hindex]
              generalize db'.payouts.findUnique (.policyId_disruptionEventId policy.id
                disruption.id) = row
              cases row with
              | some existingPayout => exact ⟨rfl, hsystem⟩
              | none =>
                  have hdto : ForOther N (settlementOf io params policy h3Cell disruption) :=
                    ⟨hdriver, hpolicy, hname⟩
                  have hsettled : Twins (SystemView cfg.toConfig N)
                      (settleOrQueue cfg io params policy _ { s with db })
                      (settleOrQueue cfg io params policy _ { t with db := db' }) :=
                    settleOrQueue_view hsystem hdto hio
                  exact ⟨congrArg Except.ok hsettled.1, hsettled.2⟩

end Others

/-! ## A payout of the driver -/

section Own

variable {io : ProcessIo}

theorem findOrCreateEvent_own (h : Fits cfg.toConfig N a)
    (htype : ¬IsTriggerState (eventType params)) (hid : N.event io.eventId = true)
    {disruption : DisruptionEvent} (hfound : findOrCreateEvent io params a = .ok (disruption, b)) :
    DbView cfg.toConfig N a b := by
  obtain ⟨_, -, hfound⟩ := bind_eq_ok.mp hfound
  split at hfound
  · cases hfound
    exact h.view
  · obtain ⟨_, -, hfound⟩ := bind_eq_ok.mp hfound
    obtain ⟨disruptionEvents, hcreate, hfound⟩ := bind_eq_ok.mp hfound
    cases hfound
    have hcreate := orThrow_eq_ok.mp hcreate
    have hevents : Table.Alike N.event a.disruptionEvents disruptionEvents := by
      refine (dividedBy_events _).create_inside (List.mem_singleton_self _) ?_ hcreate
      simpa [DisruptionEvent.keys, newEvent] using hid
    refine { h.view with right := { h with events := fun e he => ?_ }, events := hevents }
    rcases (Table.mem_create hcreate).mp he with he | rfl
    · exact h.events e he
    · exact fun _ => htype

theorem settleOrQueue_own (h : Fits cfg.toConfig N s.db) (hpool : ¬DrawsPool cfg.env)
    {policy : Policy} {dto : Payments.ParametricPayoutDto} (hdto : ForDriver N dto)
    (hio : DrawsNames N io.settle) :
    SystemView cfg.toConfig N s (settleOrQueue cfg io params policy dto s).2 := by
  have hworld : Fits cfg.toConfig N s.toWorld.db := h
  have hsettled : WorldView cfg.toConfig N s.toWorld
      (Payments.processParametricPayout cfg.toConfig io.settle dto s.toWorld).2 :=
    processParametricPayout_own hworld hpool hdto hio
  unfold settleOrQueue
  generalize Payments.processParametricPayout cfg.toConfig io.settle dto s.toWorld = x at hsettled
  obtain ⟨result, world⟩ := x
  cases result with
  | ok payout => exact ⟨hsettled, .refl _⟩
  | error e =>
      refine ⟨hsettled, ?_⟩
      cases io.redisPush with
      | false => exact .refl _
      | true => exact ⟨fun _ _ _ => rfl, fun _ _ => rfl, fun _ _ => rfl⟩

/-- A payout of the driver for an event that no claim asks for. -/
theorem processPayout_own (h : Fits cfg.toConfig N s.db) (hdriver : params.driverId = N.driver)
    (hpool : ¬DrawsPool cfg.env) (htype : ¬IsTriggerState (eventType params))
    (hid : N.event io.eventId = true) (hio : DrawsNames N io.settle) :
    SystemView cfg.toConfig N s (processPayout cfg io params s).2 := by
  have hcases := processPayout_cases cfg io params s
  generalize (processPayout cfg io params s).1 = result at hcases
  generalize (processPayout cfg io params s).2 = s' at hcases
  have hfound : ∀ {policy h3Cell disruption db},
      Identified cfg io params s policy h3Cell disruption db → DbView cfg.toConfig N s.db db :=
    fun identified => findOrCreateEvent_own h htype hid identified.event
  cases hcases with
  | refused e db events stopped =>
      rcases events with rfl | ⟨disruption, hevent⟩
      · exact ⟨h.view, .refl _⟩
      · exact ⟨findOrCreateEvent_own h htype hid hevent, .refl _⟩
  | existing policy h3Cell disruption db row identified found => exact ⟨hfound identified, .refl _⟩
  | handed policy h3Cell disruption db identified free =>
      have hview : SystemView cfg.toConfig N s { s with db } := ⟨hfound identified, .refl _⟩
      refine hview.trans (settleOrQueue_own hview.db.right hpool ⟨hdriver, ?_⟩ hio)
      exact (h.policy_of_checkGates identified.gates).trans (decide_eq_true hdriver)

end Own

end Aegis.DemoFlow
