import Aegis.Model.Dashboards
import Aegis.Verification.Billing.WeeksPaid
import Aegis.Verification.Payouts.Frames
import Aegis.Verification.Payouts.PhantomApprovals
import Aegis.Verification.Portfolio.Premiums

/-! # The loss ratio

What the sale gate compares and the dashboards report is the sum of every amount in the ledger
over the premiums of the policies. It is the ratio of approved payouts to collected premiums as
long as no amount stands in the ledger unapproved and the policies tell what was collected. -/

namespace Aegis.Portfolio

open Outcome Number Payments PlansService Payouts
open PremiumService (Books BillingConfig BillingIo billingRun)

/-! ## The property -/

section Ratio

variable (b : Books)

/-- The amounts of the payouts that are approved. -/
def approvedPayouts (db : Db) : ℚ :=
  ((db.payouts.rows.filter fun p => p.status = .APPROVED).map fun p => p.approvedPayout.getD 0).sum

/-- The amounts of the other payouts. -/
def unapprovedPayouts (db : Db) : ℚ :=
  ((db.payouts.rows.filter fun p => ¬p.status = .APPROVED).map fun p =>
    p.approvedPayout.getD 0).sum

/-- Approved payouts over premiums collected. -/
def documentedRatio : ℚ :=
  if 0 < premiumsCollected b then approvedPayouts b.db / premiumsCollected b else 0

/-- The sale gate and the dashboards go by the documented ratio; one dashboard rounds it. -/
structure Documented : Prop where
  gate : InsuranceService.lossRatio b.db = documentedRatio b
  report : ∀ readSums answer, CanonicalDashboardController.lossRatio readSums b.db = .ok answer →
    answer.lossRatio = toFixed4 (documentedRatio b)
  summary : ∀ read answer, AdminService.getDashboardSummary read b.db = .ok answer →
    answer.lossRatio = documentedRatio b ∧ answer.benefitCostRatio = documentedRatio b ∧
      answer.lossRatioPercent = (mathRound (documentedRatio b * 10000) : ℚ) / 100

/-- The unapproved amounts are to the approved ones as the premiums that are booked and not
collected to those that are collected. -/
def Offset : Prop :=
  if 0 < bookedPremiums b.db then
    if 0 < premiumsCollected b then
      unapprovedPayouts b.db * premiumsCollected b =
        approvedPayouts b.db * (bookedPremiums b.db - premiumsCollected b)
    else approvedPayouts b.db + unapprovedPayouts b.db = 0
  else 0 < premiumsCollected b → approvedPayouts b.db = 0

/-- Every payout with an amount is approved. -/
def AllApproved (db : Db) : Prop :=
  ∀ r ∈ db.payouts.rows, r.status ≠ .APPROVED → r.approvedPayout.getD 0 = 0

/-- Every payout with an amount is approved, and the policies tell what was collected. -/
structure Accounted : Prop where
  payouts : AllApproved b.db
  premiums : bookedPremiums b.db = premiumsCollected b

variable {b}

theorem approvedPayouts_add_unapprovedPayouts (db : Db) :
    approvedPayouts db + unapprovedPayouts db =
      (db.payouts.rows.map fun p => p.approvedPayout.getD 0).sum :=
  List.sum_map_filter_add_sum_map_filter_not (fun p : Payout => p.status = .APPROVED) _ _

theorem lossRatio_eq (db : Db) : InsuranceService.lossRatio db =
    if 0 < bookedPremiums db then (approvedPayouts db + unapprovedPayouts db) / bookedPremiums db
    else 0 := by
  rw [approvedPayouts_add_unapprovedPayouts]
  rfl

/-- The dashboards divide the sums that the gate divides. -/
theorem documented_iff : Documented b ↔ InsuranceService.lossRatio b.db = documentedRatio b := by
  constructor
  · intro h
    exact h.gate
  · intro h
    refine ⟨h, ?_, ?_⟩
    · intro readSums answer hanswer
      obtain ⟨_, -, hanswer⟩ := bind_eq_ok.mp hanswer
      cases hanswer
      rw [← h]
      rfl
    · intro read answer hanswer
      obtain ⟨_, -, hanswer⟩ := bind_eq_ok.mp hanswer
      cases hanswer
      rw [← h]
      exact ⟨rfl, rfl, rfl⟩

theorem documented_iff_offset : Documented b ↔ Offset b := by
  rw [documented_iff, lossRatio_eq, documentedRatio, Offset]
  by_cases hbooked : 0 < bookedPremiums b.db
  · by_cases hcollected : 0 < premiumsCollected b
    · simp only [hbooked, hcollected, if_true]
      rw [div_eq_div_iff hbooked.ne' hcollected.ne']
      constructor <;> intro h <;> linarith
    · simp only [hbooked, hcollected, if_true, if_false]
      rw [div_eq_zero_iff, or_iff_left hbooked.ne']
  · by_cases hcollected : 0 < premiumsCollected b
    · simp only [hbooked, hcollected, if_true, if_false, forall_const]
      rw [eq_comm, div_eq_zero_iff, or_iff_left hcollected.ne']
    · simp only [hbooked, hcollected, if_false, false_imp_iff]

theorem Accounted.documented (h : Accounted b) : Documented b := by
  have hnone : unapprovedPayouts b.db = 0 := by
    refine List.sum_eq_zero fun amount hamount => ?_
    obtain ⟨r, hr, rfl⟩ := List.mem_map.mp hamount
    obtain ⟨hmem, hstatus⟩ := List.mem_filter.mp hr
    exact h.payouts r hmem (of_decide_eq_true hstatus)
  rw [documented_iff, lossRatio_eq, documentedRatio, hnone, h.premiums, add_zero]

end Ratio

/-! ## The operations -/

structure Config where
  services : InsuranceService.Services
  billing : BillingConfig

def Config.plans (cfg : Config) : PlansService.Config :=
  ⟨cfg.services.insurance.payout.eligibility, cfg.services.insurance.latLngToCell⟩

inductive Op where
  | sale (now : ℤ) (call : InsuranceService.Call)
  | runRecurringBilling (io : BillingIo)
  | payout (moment : Moment) (io : CallIo) (request : Request)
  | getPurchasedPolicies (io : PurchasedIo) (userId : String)

section Steps

variable (cfg : Config)

def step (b : Books) : Op → Books
  | .sale now call => { b with toSystem := call.serve cfg.services now b.toSystem }
  | .runRecurringBilling io => billingRun cfg.billing b io
  | .payout moment io request =>
      { b with toSystem := serve cfg.services.insurance.payout moment io b.toSystem request }
  | .getPurchasedPolicies io userId =>
      { b with db := (PlansService.getPurchasedPolicies cfg.plans io userId b.db).2 }

/-- The call locks its row and fails, and there is an amount in the row. -/
def LeavesAmount (cfg : Payments.Config) (io : Payments.Io) (dto : ParametricPayoutDto)
    (w : World) : Prop :=
  (preTx cfg io dto w.db).isOk = true ∧ (processParametricPayout cfg io dto w).1.isOk = false ∧
    (lockedRow io dto w.db).approvedPayout.getD 0 ≠ 0

instance (cfg : Payments.Config) (io : Payments.Io) (dto : ParametricPayoutDto) (w : World) :
    Decidable (LeavesAmount cfg io dto w) := inferInstanceAs (Decidable (_ ∧ _))

/-- The page would create the row of the pair in progress, with an amount. -/
def Postpones (cfg : PlansService.Config) (io : PurchasedIo) (userId : String) (w : World)
    (policy : Policy) (disruption : DisruptionEvent) : Prop :=
  Resolves cfg io userId w.db policy disruption ∧ rowOf w.db policy.id disruption.id = none ∧
    shouldBeApproved cfg (io.resolve policy.id) w.db userId = false ∧
      PlansService.approvedPayout w.db policy disruption ≠ 0

instance (cfg : PlansService.Config) (io : PurchasedIo) (userId : String) (w : World)
    (policy : Policy) (disruption : DisruptionEvent) :
    Decidable (Postpones cfg io userId w policy disruption) := inferInstanceAs (Decidable (_ ∧ _))

/-- No policy is sold at a premium without an order, no invoice is collected, no settlement fails
with an amount in its row and no page read creates an amount in progress. -/
def KeepsAccount (b : Books) : Op → Prop
  | .sale now call => premiumOf (soldWithoutOrder cfg.services now b.toSystem call) = 0
  | .runRecurringBilling io => CollectsNothing cfg.billing io b
  | .payout moment io request =>
      ∀ settlement ∈ settles cfg.services.insurance.payout moment io b.toSystem request,
        ¬LeavesAmount cfg.services.insurance.payout.toConfig io.settle settlement.1
          settlement.2.toWorld
  | .getPurchasedPolicies io userId =>
      ∀ disruption ∈ latestDisruptionOf io.now b.db, ∀ policy ∈ b.db.policies.rows,
        policy.userId = userId → policy.status = .ACTIVE → io.now < policy.endDate →
          ¬Postpones cfg.plans io userId b.toWorld policy disruption

instance (b : Books) (op : Op) : Decidable (KeepsAccount cfg b op) := by
  cases op <;> dsimp only [KeepsAccount] <;> infer_instance

end Steps

/-! ## The ledger -/

section Ledger

variable {w : World}

/-- After a settlement only the claim's own row can be a new one. -/
theorem AllApproved.claimAfter {cfg : Payments.Config} {dto : ParametricPayoutDto} {db db' : Db}
    {key : PayoutIdempotencyKey} {row : Payout} (h : AllApproved db)
    (hafter : ClaimAfter cfg dto db db' key row)
    (hrow : row.status ≠ .APPROVED → row.approvedPayout.getD 0 = 0) : AllApproved db' := by
  intro r hr hstatus
  by_cases hclaim : dto.payoutIndex ∈ r.keys
  · obtain rfl : r = row := Table.eq_of_findUnique hafter.row hr hclaim
    exact hrow hstatus
  · exact h r ((hafter.others.rows r hclaim).mp hr) hstatus

theorem AllApproved.processParametricPayout {cfg : Payments.Config} {io : Payments.Io}
    {dto : ParametricPayoutDto} (h : AllApproved w.db) (hnot : ¬LeavesAmount cfg io dto w) :
    AllApproved (Payments.processParametricPayout cfg io dto w).2.db := by
  have hcases := processParametricPayout_cases cfg io dto w
  cases hpre : preTx cfg io dto w.db with
  | error e =>
      rw [Payments.processParametricPayout, hpre]
      exact h
  | ok pre =>
      rw [LeavesAmount, hpre] at hnot
      revert hcases hnot
      generalize Payments.processParametricPayout cfg io dto w = outcome
      obtain ⟨result, w'⟩ := outcome
      intro hcases hnot
      cases hcases with
      | refused e => exact h
      | cached k howner hfound hsuccess => exact h
      | settled p executed db' hadmitted hrail hafter =>
          exact h.claimAfter hafter fun hstatus => absurd rfl hstatus
      | failed e railResult executed db' hadmitted hrail hcause hafter =>
          have hzero : (lockedRow io dto w.db).approvedPayout.getD 0 = 0 := by
            by_contra hsome
            exact hnot ⟨rfl, rfl, hsome⟩
          refine h.claimAfter hafter fun _ => ?_
          unfold failedRow
          split
          · exact hzero
          · exact hzero

/-- A settlement is all that a request does to the payouts. -/
theorem AllApproved.serve {cfg : PayoutService.Config} {moment : Moment} {io : CallIo} {s : System}
    {request : Request} (h : AllApproved s.db)
    (hnot : ∀ settlement ∈ settles cfg moment io s request,
      ¬LeavesAmount cfg.toConfig io.settle settlement.1 settlement.2.toWorld) :
    AllApproved (Payouts.serve cfg moment io s request).db := by
  have hleft := serve_left cfg moment io s request
  cases hsettles : settles cfg moment io s request with
  | none =>
      rw [hsettles] at hleft
      obtain ⟨_, _, hserve⟩ := hleft
      rw [hserve]
      exact h
  | some settlement =>
      obtain ⟨dto, s'⟩ := settlement
      rw [hsettles] at hleft
      obtain ⟨_, _, hserve⟩ := hleft
      have hbefore : AllApproved s'.db := by
        obtain ⟨_, _, rfl⟩ := settles_left hsettles
        exact h
      rw [hserve]
      exact hbefore.processParametricPayout (w := s'.toWorld) (hnot (dto, s') hsettles)

/-! ### The page -/

variable {cfg : PlansService.Config} {io : PurchasedIo} {userId : String} {policy : Policy}
  {disruption : DisruptionEvent} {w' : World}

theorem AllApproved.resolved (h : AllApproved w.db)
    (hok : ¬Postpones cfg io userId w policy disruption)
    (hresolves : Resolves cfg io userId w.db policy disruption)
    (hresolved : Resolved cfg io userId w policy disruption w') : AllApproved w'.db := by
  cases hresolved with
  | kept => exact h
  | created payouts hnone hcreate =>
      intro r hr hstatus
      rcases (Table.mem_create hcreate).mp hr with hold | rfl
      · exact h r hold hstatus
      · cases hdecision : shouldBeApproved cfg (io.resolve policy.id) w.db userId with
        | true =>
            rw [hdecision] at hstatus
            exact absurd rfl hstatus
        | false =>
            by_contra hamount
            exact hok ⟨hresolves, hnone, hdecision, hamount⟩
  | credited r hrow hprocessing happroved =>
      intro p hp hstatus
      obtain ⟨p', hp', rfl⟩ := Table.mem_update.mp hp
      by_cases hid : PayoutIndex.id r.id ∈ p'.keys
      · rw [if_pos hid] at hstatus
        exact absurd rfl hstatus
      · rw [if_neg hid] at hstatus ⊢
        exact h p' hp' hstatus

/-- A resolution makes no row disappear, so it leaves no pair to be postponed that was not. -/
theorem not_postpones_of_resolved {policy' : Policy}
    (hresolved : Resolved cfg io userId w policy disruption w')
    (hok : ¬Postpones cfg io userId w policy' disruption) :
    ¬Postpones cfg io userId w' policy' disruption := by
  rintro ⟨hresolves, hnone, hdecision, hamount⟩
  have hresolves' := hresolved.resolves_iff.mp hresolves
  cases hresolved with
  | kept => exact hok ⟨hresolves', hnone, hdecision, hamount⟩
  | created payouts _ hcreate =>
      refine hok ⟨hresolves', ?_, hdecision, hamount⟩
      rw [rowOf, Table.findUnique_create hcreate] at hnone
      split at hnone
      · cases hnone
      · exact hnone
  | credited r _ _ _ =>
      refine hok ⟨hresolves', ?_, hdecision, hamount⟩
      rw [rowOf, Table.findUnique_update, Option.map_eq_none_iff] at hnone
      exact hnone

theorem AllApproved.getPurchasedPolicies (h : AllApproved w.db)
    (hok : ∀ disruption ∈ latestDisruptionOf io.now w.db, ∀ policy ∈ w.db.policies.rows,
      policy.userId = userId → policy.status = .ACTIVE → io.now < policy.endDate →
        ¬Postpones cfg io userId w policy disruption) :
    AllApproved (PlansService.getPurchasedPolicies cfg io userId w.db).2 :=
  getPurchasedPolicies_keeps (I := fun w => AllApproved w.db)
    (C := fun w policy disruption => ¬Postpones cfg io userId w policy disruption)
    (fun _ _ _ _ hw hturn hresolves hresolved =>
      ⟨hw.resolved hturn hresolves hresolved, fun _ => not_postpones_of_resolved hresolved⟩)
    h hok

/-- The page writes payouts only. -/
theorem getPurchasedPolicies_payouts (cfg : PlansService.Config) (io : PurchasedIo)
    (userId : String) (w : World) :
    ∃ payouts, (PlansService.getPurchasedPolicies cfg io userId w.db).2 = { w.db with payouts } :=
  getPurchasedPolicies_keeps (w := w)
    (I := fun w' => ∃ payouts, w'.db = { w.db with payouts }) (C := fun _ _ _ => True)
    (fun w₁ _ _ _ hw _ _ hresolved => by
      obtain ⟨payouts, hdb⟩ := hw
      refine ⟨?_, fun _ _ => trivial⟩
      cases hresolved with
      | kept => exact ⟨payouts, hdb⟩
      | created payouts' hnone hcreate => exact ⟨payouts', by rw [hdb]⟩
      | credited r hrow hprocessing happroved => exact ⟨_, by rw [hdb]⟩)
    ⟨_, rfl⟩ fun _ _ _ _ _ _ _ => trivial

end Ledger

/-! ## Runs -/

section Runs

variable {cfg : Config} {b : Books}

/-- Every step keeps the account. -/
theorem Accounted.step (h : Accounted b) {op : Op} (hop : KeepsAccount cfg b op) :
    Accounted (Portfolio.step cfg b op) := by
  cases op with
  | sale now call =>
      have hgrows := serve_grows cfg.services now b.toSystem call
      obtain ⟨_, _, _, _, _, hframe⟩ := call.serve_frame cfg.services now b.toSystem
      rw [show premiumOf _ = 0 from hop, Grows, add_zero] at hgrows
      constructor
      · simp only [Portfolio.step, hframe]
        exact h.payouts
      · have hpremiums := h.premiums
        simp only [Portfolio.step, premiumsCollected, recurringPremiums] at hpremiums ⊢
        linarith
  | runRecurringBilling io =>
      obtain ⟨systemSettings, hdb⟩ := billingRun_onlyPool cfg.billing io b
      have hrecurring := recurringPremiums_billingRun hop
      constructor
      · simp only [Portfolio.step, hdb]
        exact h.payouts
      · simp only [Portfolio.step, premiumsCollected, hrecurring, hdb]
        exact h.premiums
  | payout moment io request =>
      obtain ⟨_, _, _, _, _, _, hframe⟩ :=
        serve_frame cfg.services.insurance.payout moment io b.toSystem request
      refine ⟨AllApproved.serve h.payouts hop, ?_⟩
      simp only [Portfolio.step, premiumsCollected, hframe]
      exact h.premiums
  | getPurchasedPolicies io userId =>
      obtain ⟨_, hframe⟩ := getPurchasedPolicies_payouts cfg.plans io userId b.toWorld
      refine ⟨AllApproved.getPurchasedPolicies h.payouts hop, ?_⟩
      simp only [Portfolio.step, premiumsCollected, hframe]
      exact h.premiums

end Runs

/-- The ratio is the documented one exactly in the states in which what is unapproved offsets
what is booked and not collected, and so throughout every run whose steps keep the account. -/
theorem documented_accounted (cfg : Config) :
    (∀ b, Documented b ↔ Offset b) ∧
      ∀ b ops, Accounted b → Run.Along (step cfg) (KeepsAccount cfg) b ops →
        Run.Always (step cfg) Documented b ops := by
  refine ⟨fun b => documented_iff_offset, fun b ops hb hops => ?_⟩
  have hrun : Run.Always (step cfg) Accounted b ops :=
    Run.always_of_step (fun _ _ h hop => h.step hop) hb hops
  exact hrun.mono fun _ h => h.documented

namespace FirstSale

open InsuranceService.Sale Payouts.Sample

def config : Config := ⟨services, {}⟩

/-- A driver without a policy, and a disruption. -/
def books : Books where
  db :=
    { users := .singleton Payments.Sample.user
      weeklyPlans := .singleton InsuranceService.Sale.plan
      disruptionEvents := Payments.Sample.db.disruptionEvents
      fraudAnalyses := .singleton analysis }

def purchase : List Op :=
  [.sale 0 (.createOrder orderIo "u1" "wp1"),
    .sale 0 (.verifyPayment verifyIo "u1" ⟨"order_1", "pay_1", "order_1|pay_1"⟩)]

def openPage (trigger : TriggerReply) : Op := .getPurchasedPolicies (purchasedIo trigger) "u1"

/-- A day after the sale. -/
def billing : Op := .runRecurringBilling (PremiumService.FirstWeek.run 86400000)

theorem books_accounted : Accounted books := by
  constructor
  · intro r hr
    cases hr
  · decide +kernel

end FirstSale

open FirstSale in
/-- A plan is bought, and a page read approves a payout under it. -/
theorem documented_accounted_purchase :
    Run.Always (step config) Documented books
      (purchase ++ [openPage (.answered (some "APPROVED"))]) :=
  (documented_accounted config).2 books _ books_accounted (by decide +kernel)

open FirstSale in
/-- A payout in progress counts as approved, and a premium collected by an invoice counts as
nothing. -/
theorem not_documented :
    ¬Run.Always (step config) Documented books (purchase ++ [openPage .unavailable]) ∧
      ¬Run.Always (step config) Documented books
        (purchase ++ [openPage (.answered (some "APPROVED")), billing]) := by
  have hprogress : ¬InsuranceService.lossRatio (Run.final (step config) books
      (purchase ++ [openPage .unavailable])).db = documentedRatio (Run.final (step config) books
        (purchase ++ [openPage .unavailable])) := by decide +kernel
  have hinvoice : ¬InsuranceService.lossRatio (Run.final (step config) books
      (purchase ++ [openPage (.answered (some "APPROVED")), billing])).db =
        documentedRatio (Run.final (step config) books
          (purchase ++ [openPage (.answered (some "APPROVED")), billing])) := by decide +kernel
  exact ⟨fun h => hprogress h.last.gate, fun h => hinvoice h.last.gate⟩

end Aegis.Portfolio
