import Aegis.Verification.Insurance.PayoutCalls
import Aegis.Verification.Payments.Booked
import Aegis.Verification.Payouts.Amounts

/-! # Success that is reported

`processPayout` reports success for any row it finds and for any key in state `SUCCESS`;
the row of the claim is compared with the report. -/

namespace Aegis

open Outcome Payments PayoutService

/-! ## One payout call -/

namespace PayoutService

section Call

variable (cfg : Config) (io : ProcessIo) (params : ProcessPayoutParams) (s : System)

/-- Whenever the call returns success, the row of its policy and event is approved. -/
def SuccessIsPaid : Prop :=
  ∀ result, (processPayout cfg io params s).1 = .ok result → result.success = true →
    ∃ policy h3Cell disruption db, Identified cfg io params s policy h3Cell disruption db ∧
      RowApproved policy.id disruption.id (processPayout cfg io params s).2.db

/-- The settlement would answer from a key in state `SUCCESS`. -/
def FindsSettledKey (dto : ParametricPayoutDto) (db : Db) : Prop :=
  io.settle.preTx = true ∧
    ∃ k, findIdempotencyKey cfg.toConfig dto db = .ok (some k) ∧ k.payoutState = .SUCCESS

/-- What the call finds for its policy and event: a row that is not approved, or no row but
a settled key. -/
def FindsUnpaid : Prop :=
  ∃ policy h3Cell disruption db, Identified cfg io params s policy h3Cell disruption db ∧
    ((∃ row, rowOf db policy.id disruption.id = some row ∧ row.status ≠ .APPROVED) ∨
      (rowOf db policy.id disruption.id = none ∧
        FindsSettledKey cfg io (settlementOf io params policy h3Cell disruption) db))

variable {cfg io params s}

/-- A settled key answers the settlement of an owned policy, whatever the row. -/
theorem processParametricPayout_cached {cfg : Payments.Config} {io : Payments.Io}
    {dto : ParametricPayoutDto} {w : World} {k : PayoutIdempotencyKey} (hpre : io.preTx = true)
    (howner : OwnsPolicy dto w.db) (hfound : findIdempotencyKey cfg dto w.db = .ok (some k))
    (hsuccess : k.payoutState = .SUCCESS) :
    processParametricPayout cfg io dto w = (.ok (cachedResult k.payoutId k.id), w) := by
  have hcheck := checkPolicy_eq_ok.mpr howner
  simp [processParametricPayout, preTx, hpre, preGateway, hcheck, hfound, hsuccess]

theorem preTx_of_ok {cfg : Payments.Config} {io : Payments.Io} {dto : ParametricPayoutDto}
    {w : World} {result : PayoutResult}
    (h : (processParametricPayout cfg io dto w).1 = .ok result) :
    io.preTx = true := by
  by_contra hpre
  simp [processParametricPayout, preTx, hpre] at h

theorem settleOrQueue_success {policy : Policy} {dto : ParametricPayoutDto}
    (h : (settleOrQueue cfg io params policy dto s).1.success = true) :
    ∃ result, (processParametricPayout cfg.toConfig io.settle dto s.toWorld).1 = .ok result ∧
      (settleOrQueue cfg io params policy dto s).2.db =
        (processParametricPayout cfg.toConfig io.settle dto s.toWorld).2.db := by
  rw [settleOrQueue] at h ⊢
  split at h
  · rename_i result world hcall
    rw [hcall]
    exact ⟨result, rfl, rfl⟩
  · cases h

/-- A settlement that succeeds approves the row, unless it is answered from a settled key. -/
theorem rowApproved_of_ok {dto : ParametricPayoutDto} {w : World} {result : PayoutResult}
    (hok : (processParametricPayout cfg.toConfig io.settle dto w).1 = .ok result)
    (hkey : ¬FindsSettledKey cfg io dto w.db) :
    RowApproved dto.policyId dto.disruptionEventId
      (processParametricPayout cfg.toConfig io.settle dto w).2.db := by
  have hpre := preTx_of_ok hok
  have hcases := processParametricPayout_cases cfg.toConfig io.settle dto w
  rw [hok] at hcases
  generalize (processParametricPayout cfg.toConfig io.settle dto w).2 = w' at hcases ⊢
  cases hcases with
  | cached k owner found success => exact absurd ⟨hpre, k, found, success⟩ hkey
  | settled p executed db' admitted rail after => exact ⟨_, after.row, rfl⟩

/-- Success is truthful exactly when the call does not find its claim unpaid. -/
theorem successIsPaid_iff : SuccessIsPaid cfg io params s ↔ ¬FindsUnpaid cfg io params s := by
  constructor
  · rintro hpaid ⟨policy, h3Cell, disruption, db, hidentified, hfound⟩
    rcases hfound with ⟨row, hrow, hstatus⟩ | ⟨hfree, hpre, k, hfound, hsuccess⟩
    · have hcall := processPayout_existing hidentified hrow
      obtain ⟨policy', h3Cell', disruption', db', hidentified', row', hrow', happroved⟩ :=
        hpaid _ (congrArg Prod.fst hcall) rfl
      obtain ⟨rfl, -, rfl, rfl⟩ := hidentified.unique hidentified'
      rw [hcall] at hrow'
      cases hrow.symm.trans hrow'
      exact hstatus happroved
    · have hcached : processParametricPayout cfg.toConfig io.settle
          (settlementOf io params policy h3Cell disruption) { s with db }.toWorld =
          (.ok (cachedResult k.payoutId k.id), { s with db }.toWorld) :=
        processParametricPayout_cached hpre hidentified.owner hfound hsuccess
      have hcall := processPayout_handed hidentified hfree
      simp only [settleOrQueue, hcached] at hcall
      obtain ⟨policy', h3Cell', disruption', db', hidentified', row', hrow', -⟩ :=
        hpaid _ (congrArg Prod.fst hcall) rfl
      obtain ⟨rfl, -, rfl, rfl⟩ := hidentified.unique hidentified'
      rw [hcall] at hrow'
      cases hfree.symm.trans hrow'
  · intro hfinds result hresult hsuccess
    have hcases := processPayout_cases cfg io params s
    rw [hresult] at hcases
    generalize (processPayout cfg io params s).2 = s' at hcases ⊢
    cases hcases with
    | existing policy h3Cell disruption db row identified found =>
        refine ⟨policy, h3Cell, disruption, db, identified, row, found, ?_⟩
        by_contra hstatus
        exact hfinds ⟨policy, h3Cell, disruption, db, identified, .inl ⟨row, found, hstatus⟩⟩
    | handed policy h3Cell disruption db identified free =>
        refine ⟨policy, h3Cell, disruption, db, identified, ?_⟩
        obtain ⟨payout, hok, hdb⟩ := settleOrQueue_success hsuccess
        rw [hdb]
        exact rowApproved_of_ok hok fun hkey =>
          hfinds ⟨policy, h3Cell, disruption, db, identified, .inr ⟨free, hkey⟩⟩

end Call

end PayoutService

/-! ## Runs -/

namespace InsuranceService

/-- Payouts, runs of the retry queue, and claims. -/
inductive PayoutOp where
  | processPayout (io : ProcessIo) (params : ProcessPayoutParams)
  | retryQueue (io : ℕ → RetryIo)
  | processInsurance (io : EvaluateIo) (driverId : String) (dto : ProcessInsuranceRequestDto)

section Runs

variable (cfg : Config)

def perform (s : System) : PayoutOp → System
  | .processPayout io params => (PayoutService.processPayout cfg.payout io params s).2
  | .retryQueue io => (processPayoutRetryQueue cfg.payout io s).2
  | .processInsurance io driverId dto =>
      (InsuranceService.processInsurance cfg io driverId dto s).2

/-- Reported success means an approved row: for a claim, that of the payout call it makes. -/
def TruthfulReport (s : System) : PayoutOp → Prop
  | .processPayout io params => SuccessIsPaid cfg.payout io params s
  | .retryQueue _ => True
  | .processInsurance io driverId dto =>
      ∀ report, (InsuranceService.processInsurance cfg io driverId dto s).1 = .ok report →
        report.decision = .APPROVED →
        ∃ params s' policy h3Cell disruption db,
          payoutCall cfg io driverId dto s = some (params, s') ∧
          Identified cfg.payout io.process params s' policy h3Cell disruption db ∧
          RowApproved policy.id disruption.id
            (InsuranceService.processInsurance cfg io driverId dto s).2.db

/-- No payout call of the operation finds its claim unpaid. -/
def FindsPaid (s : System) : PayoutOp → Prop
  | .processPayout io params => ¬FindsUnpaid cfg.payout io params s
  | .retryQueue _ => True
  | .processInsurance io driverId dto =>
      ∀ params s', payoutCall cfg io driverId dto s = some (params, s') →
        ¬FindsUnpaid cfg.payout io.process params s'

variable {cfg}

theorem truthfulReport_iff (s : System) (op : PayoutOp) :
    TruthfulReport cfg s op ↔ FindsPaid cfg s op := by
  cases op with
  | processPayout io params => exact successIsPaid_iff
  | retryQueue io => exact Iff.rfl
  | processInsurance io driverId dto =>
      constructor
      · intro h params s' hcall
        have hreports := processInsurance_reports hcall
        refine successIsPaid_iff.mp fun result hresult hsuccess => ?_
        obtain ⟨report, hreport, -, hdecision⟩ := hreports.ok result hresult
        rw [hsuccess] at hdecision
        obtain ⟨params', s'', policy, h3Cell, disruption, db, hcall', hidentified, hrow⟩ :=
          h report hreport hdecision
        cases hcall.symm.trans hcall'
        rw [hreports.state] at hrow
        exact ⟨policy, h3Cell, disruption, db, hidentified, hrow⟩
      · intro h report hreport happroved
        obtain ⟨params, s', hcall⟩ := payoutCall_of_approved hreport happroved
        have hreports := processInsurance_reports hcall
        cases hprocess : (PayoutService.processPayout cfg.payout io.process params s').1 with
        | error e =>
            rw [hreports.error e hprocess] at hreport
            cases hreport
        | ok result =>
            obtain ⟨report', hreport', -, hdecision⟩ := hreports.ok result hprocess
            cases hreport.symm.trans hreport'
            have hsuccess : result.success = true := by
              by_contra hno
              rw [happroved, if_neg hno] at hdecision
              cases hdecision
            obtain ⟨policy, h3Cell, disruption, db, hidentified, hrow⟩ :=
              successIsPaid_iff.mpr (h params s' hcall) result hprocess hsuccess
            refine ⟨params, s', policy, h3Cell, disruption, db, hcall, hidentified, ?_⟩
            rw [hreports.state]
            exact hrow

/-- Along every run reports are truthful exactly when no payout call finds its claim unpaid. -/
theorem along_truthfulReport_iff (cfg : Config) (s : System) (ops : List PayoutOp) :
    Run.Along (perform cfg) (TruthfulReport cfg) s ops ↔
      Run.Along (perform cfg) (FindsPaid cfg) s ops := by
  constructor
  · intro h
    exact h.mono fun s op => (truthfulReport_iff s op).mp
  · intro h
    exact h.mono fun s op => (truthfulReport_iff s op).mpr

end Runs

/-! ## A retried claim -/

namespace Retried

open Payouts Payouts.Ungated Payouts.Priced

def services : Config where
  payout := config
  latLngToCell := fun _ _ => "8860145b5dfffff"
  nonFiniteColumn := fun _ => false

def params : ProcessPayoutParams := { driverId := "u1", payoutAmount := some 400 }

/-- The gateway turns the payout down. -/
def ioRefused : ProcessIo :=
  { callIo.process noon with settle := { Payments.Sample.ioRefused with payoutId := "po2" } }

end Retried

open Retried Payouts.Ungated Payouts.Priced in
/-- The claim that the gateway turned down is reported as paid when it is made again. -/
theorem not_along_truthfulReport :
    ¬Run.Along (perform services) (TruthfulReport services) halted
      [.processPayout ioRefused params, .processPayout (callIo.process noon) params] := by
  rintro ⟨-, h, -⟩
  have hsecond : (PayoutService.processPayout services.payout (callIo.process noon) params
      (perform services halted (.processPayout ioRefused params))).1 =
      .ok (.existing "po2" none 400 200) := by
    decide +kernel
  obtain ⟨policy, h3Cell, disruption, db, -, row, hrow, happroved⟩ := h _ hsecond rfl
  have hunpaid : ∀ row ∈ (PayoutService.processPayout services.payout (callIo.process noon) params
      (perform services halted (.processPayout ioRefused params))).2.db.payouts.rows,
      row.status ≠ .APPROVED := by
    decide
  exact hunpaid row (Table.mem_of_findUnique hrow) happroved

end InsuranceService

end Aegis
