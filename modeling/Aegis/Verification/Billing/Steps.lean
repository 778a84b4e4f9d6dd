import Aegis.Library.Run
import Aegis.Model.ConcurrentBilling
import Aegis.Verification.Billing.Charges
import Mathlib.Logic.Relation

/-! # What billing writes

A run bills one policy after the other. All it writes to the billing tables are new mandates,
new invoices and charges of invoices, each of the policy that is billed. A step of a run that
others overlap makes one of these writes at most. -/

namespace Aegis.PremiumService

open Outcome Gateway LiquidityPool
open Payments (storeDown)

/-! ## The writes -/

/-- A change of an invoice that leaves its mandate and sets its status. -/
structure Sets (status : PremiumInvoiceStatus) (f : RowUpdate PremiumInvoice.keys) : Prop where
  mandateId : ∀ i, (f.apply i).mandateId = i.mandateId
  status : ∀ i, (f.apply i).status = status

/-- A change of a mandate that leaves it with its policy. -/
def KeepsPolicy (g : RowUpdate BillingMandate.keys) : Prop :=
  ∀ m, (g.apply m).policyId = m.policyId

/-- The tables that billing only reads, and the billing tables but the attempts. -/
structure SameTables (b b' : Books) : Prop where
  policies : b'.db.policies = b.db.policies
  razorpayOrders : b'.db.razorpayOrders = b.db.razorpayOrders
  billingMandates : b'.billingMandates = b.billingMandates
  premiumInvoices : b'.premiumInvoices = b.premiumInvoices
  premiumLedgerEntries : b'.premiumLedgerEntries = b.premiumLedgerEntries

/-- An unsettled invoice of the policy. -/
structure Open (policy : Policy) (b : Books) (i : PremiumInvoice) : Prop where
  found : b.premiumInvoices.findUnique (.id i.id) = some i
  own : i.policyId = policy.id
  unsettled : PremiumInvoiceStatus.isSettled i.status = false

/-- One write of the billing of a policy. -/
inductive BillStep (policy : Policy) (now : ℤ) (b : Books) : Books → Prop
  | quiet (b' : Books) (same : SameTables b b') : BillStep policy now b b'
  | mandate (m : BillingMandate) (own : m.policyId = policy.id) (b' : Books)
      (created : b.billingMandates.create m = some b'.billingMandates)
      (same : SameTables { b with billingMandates := b'.billingMandates } b') :
      BillStep policy now b b'
  | invoice (i : PremiumInvoice) (m : BillingMandate) (own : i.policyId = policy.id)
      (pending : i.status = .PENDING)
      (cycle : i.billingCycleStart =
        (resolveCycleWindow policy.startDate now).billingCycleStart)
      (mandateId : i.mandateId = some m.id)
      (mandate : b.billingMandates.findUnique m.id = some m) (ours : m.policyId = policy.id)
      (b' : Books) (created : b.premiumInvoices.create i = some b'.premiumInvoices)
      (same : SameTables { b with premiumInvoices := b'.premiumInvoices } b') :
      BillStep policy now b b'
  | unpaid (i : PremiumInvoice) (isOpen : Open policy b i) (status : PremiumInvoiceStatus)
      (refused : status ≠ .PAID) (f : RowUpdate PremiumInvoice.keys)
      (g : RowUpdate BillingMandate.keys) (sets : Sets status f) (keeps : KeepsPolicy g)
        (b' : Books)
      (same : SameTables { b with
        premiumInvoices := b.premiumInvoices.update (.id i.id) f
        billingMandates := mandatesAfter i.mandateId g b.billingMandates } b') :
      BillStep policy now b b'
  | paid (i : PremiumInvoice) (isOpen : Open policy b i) (correlationId : String)
      (f : RowUpdate PremiumInvoice.keys) (g : RowUpdate BillingMandate.keys)
      (sets : Sets .PAID f) (keeps : KeepsPolicy g) (b' : Books)
      (same : SameTables { b with
        premiumInvoices := b.premiumInvoices.update (.id i.id) f
        billingMandates := mandatesAfter i.mandateId g b.billingMandates
        premiumLedgerEntries := b.premiumLedgerEntries ++ [creditOf correlationId i] } b') :
      BillStep policy now b b'

/-- Some writes of the billing of a policy, one after the other. -/
abbrev BillSteps (policy : Policy) (now : ℤ) : Books → Books → Prop :=
  Relation.ReflTransGen (BillStep policy now)

section Writes

variable {policy : Policy} {now : ℤ} {b b' : Books}

theorem SameTables.refl (b : Books) : SameTables b b := ⟨rfl, rfl, rfl, rfl, rfl⟩

theorem BillSteps.quiet (same : SameTables b b') : BillSteps policy now b b' :=
  .single (.quiet b' same)

theorem keepsPolicy_keep : KeepsPolicy .keep := fun _ => rfl

theorem mandatesAfter_keep (mandateId : Option String) (mandates : Table BillingMandate.keys) :
    mandatesAfter mandateId .keep mandates = mandates := by
  cases mandateId with
  | none => rfl
  | some mandateId => exact mandates.update_keep mandateId

/-! ## The parts of the billing of a policy -/

/-- The mandate that is found or created is one of the policy's. -/
theorem ensureBillingMandate_steps {io : PolicyIo} {mandate : BillingMandate}
    (h : ensureBillingMandate io now policy b = .ok (mandate, b')) :
    BillSteps policy now b b' ∧ b'.billingMandates.findUnique mandate.id = some mandate ∧
      mandate.policyId = policy.id := by
  obtain ⟨_, -, h⟩ := bind_eq_ok.mp h
  cases hexisting : existingMandate policy.id b with
  | some existing =>
      simp only [hexisting] at h
      cases h
      obtain ⟨hmem, hmatch⟩ := Table.findFirstDesc_eq_some hexisting
      simp only [Bool.and_eq_true, decide_eq_true_eq] at hmatch
      exact ⟨.refl, (Table.findUnique_eq_some _ _ _).mpr ⟨hmem, by simp [BillingMandate.keys]⟩,
        hmatch.1⟩
  | none =>
      simp only [hexisting] at h
      obtain ⟨_, -, h⟩ := bind_eq_ok.mp h
      obtain ⟨mandates, hcreate, h⟩ := bind_eq_ok.mp h
      cases h
      have hcreated := orThrow_eq_ok.mp hcreate
      refine ⟨.single (.mandate _ rfl _ hcreated (.refl _)), ?_, rfl⟩
      rw [Table.findUnique_create hcreated, if_pos (by simp [BillingMandate.keys])]

/-! ### The invoice of the cycle -/

theorem priceCycle_eq_ok {io : PolicyIo} {quote : WeeklyPremium}
    (h : priceCycle io policy b = .ok (quote, b')) :
    ∃ redis, calculateWeeklyPremium io.premium b.toSystem policy.userId policy.weeklyPlanId =
      .ok (quote, redis) ∧ b' = { b with redis } := by
  obtain ⟨⟨weekly, redis⟩, hweekly, h⟩ := bind_eq_ok.mp h
  cases h
  exact ⟨redis, hweekly, rfl⟩

theorem createInvoice_eq_ok {io : PolicyIo} {correlationId mandateId : String} {premium : ℚ}
    {invoice : PremiumInvoice}
    (h : createInvoice io now correlationId policy mandateId premium b = .ok (invoice, b')) :
    ∃ premiumInvoices, b.premiumInvoices.create
        (newInvoice io now correlationId policy mandateId premium) = some premiumInvoices ∧
      invoice = newInvoice io now correlationId policy mandateId premium ∧
      b' = { b with premiumInvoices } := by
  obtain ⟨_, -, h⟩ := bind_eq_ok.mp h
  obtain ⟨premiumInvoices, hinvoices, h⟩ := bind_eq_ok.mp h
  cases h
  exact ⟨premiumInvoices, orThrow_eq_ok.mp hinvoices, rfl, rfl⟩

/-- What `ensureCycleInvoice` comes to, and the books it leaves. -/
inductive CycleCases (io : PolicyIo) (now : ℤ) (correlationId : String) (policy : Policy)
    (mandateId : String) (b : Books) : Except Exn PremiumInvoice → Books → Prop
  | refused (e : Exn) : CycleCases io now correlationId policy mandateId b (.error e) b
  | existing (invoice : PremiumInvoice) (found : cycleInvoice now policy b = some invoice) :
      CycleCases io now correlationId policy mandateId b (.ok invoice) b
  | unmade (e : Exn) (redis : RedisState.Redis) :
      CycleCases io now correlationId policy mandateId b (.error e) { b with redis }
  | made (quote : WeeklyPremium) (redis : RedisState.Redis)
      (premiumInvoices : Table PremiumInvoice.keys)
      (priced : calculateWeeklyPremium io.premium b.toSystem policy.userId policy.weeklyPlanId =
        .ok (quote, redis))
      (created : b.premiumInvoices.create
        (newInvoice io now correlationId policy mandateId quote.premium) = some premiumInvoices) :
      CycleCases io now correlationId policy mandateId b
        (.ok (newInvoice io now correlationId policy mandateId quote.premium))
        { b with redis, premiumInvoices }

theorem ensureCycleInvoice_cases (io : PolicyIo) (now : ℤ) (correlationId : String)
    (policy : Policy) (mandateId : String) (b : Books) :
    CycleCases io now correlationId policy mandateId b
      (ensureCycleInvoice io now correlationId policy mandateId b).1
      (ensureCycleInvoice io now correlationId policy mandateId b).2 := by
  rw [ensureCycleInvoice]
  by_cases hread : io.readInvoice = true
  · simp only [hread, if_true]
    cases hinvoice : cycleInvoice now policy b with
    | some invoice => exact .existing invoice hinvoice
    | none =>
        cases hprice : priceCycle io policy b with
        | error e => exact .refused e
        | ok priced =>
            obtain ⟨quote, b₁⟩ := priced
            obtain ⟨redis, hquote, rfl⟩ := priceCycle_eq_ok hprice
            cases hcreate :
                createInvoice io now correlationId policy mandateId quote.premium
                  { b with redis } with
            | error e =>
                simp only [hcreate]
                exact .unmade e redis
            | ok created =>
                obtain ⟨invoice, b₂⟩ := created
                obtain ⟨premiumInvoices, hcreated, rfl, rfl⟩ := createInvoice_eq_ok hcreate
                simp only [hcreate]
                exact .made quote redis premiumInvoices hquote hcreated
  · simp only [hread]
    exact .refused Payments.storeDown

/-- The invoice of the cycle that is found or created is one of the policy's. -/
theorem ensureCycleInvoice_steps {io : PolicyIo} {correlationId : String}
    {mandate : BillingMandate} {result : Except Exn PremiumInvoice}
    (hfound : b.billingMandates.findUnique mandate.id = some mandate)
    (hours : mandate.policyId = policy.id)
    (h : ensureCycleInvoice io now correlationId policy mandate.id b = (result, b')) :
    BillSteps policy now b b' ∧ ∀ i, result = .ok i →
      b'.premiumInvoices.findUnique (.id i.id) = some i ∧ i.policyId = policy.id := by
  have hcases := ensureCycleInvoice_cases io now correlationId policy mandate.id b
  rw [h] at hcases
  have hquiet : ∀ redis, BillSteps policy now b { b with redis } := fun _ =>
    .quiet ⟨rfl, rfl, rfl, rfl, rfl⟩
  cases hcases with
  | refused e => exact ⟨.refl, fun i hi => by cases hi⟩
  | existing invoice found =>
      refine ⟨.refl, ?_⟩
      intro i hi
      cases hi
      refine ⟨Table.findUnique_of_findUnique found (PremiumInvoice.id_mem_keys_iff.mpr rfl), ?_⟩
      have hkey := Table.key_of_findUnique found
      exact (PremiumInvoice.cycle_mem_keys_iff.mp hkey).1.symm
  | unmade e redis => exact ⟨hquiet redis, fun i hi => by cases hi⟩
  | made quote redis premiumInvoices priced created =>
      have hpriced : ({ b with redis } : Books).billingMandates.findUnique mandate.id =
          some mandate := hfound
      refine ⟨(hquiet redis).tail
        (.invoice _ mandate rfl rfl rfl rfl hpriced hours _ created (.refl _)), ?_⟩
      intro i hi
      cases hi
      refine ⟨?_, rfl⟩
      rw [Table.findUnique_create created, if_pos (PremiumInvoice.id_mem_keys_iff.mpr rfl)]

/-- The charge of an invoice of the policy. -/
theorem processInvoiceCharge_steps {cfg : BillingConfig} {io : ChargeIo} {correlationId : String}
    {i : PremiumInvoice} (hfound : b.premiumInvoices.findUnique (.id i.id) = some i)
    (hown : i.policyId = policy.id) :
    BillSteps policy now b (processInvoiceCharge cfg io correlationId i.id b).2 := by
  have hcharged : ∀ c, Due i.id b c → c.invoice = i ∧ Open policy b i := by
    intro c hdue
    obtain ⟨invoice, hinvoice, hc⟩ := Option.map_eq_some_iff.mp hdue.found
    rw [hfound] at hinvoice
    cases hinvoice
    have hinvoice : c.invoice = i := by rw [← hc]
    exact ⟨hinvoice, hfound, hown, hinvoice ▸ hdue.unsettled⟩
  have hcases := processInvoiceCharge_cases cfg io correlationId i.id b
  generalize (processInvoiceCharge cfg io correlationId i.id b).1 = result at hcases
  generalize (processInvoiceCharge cfg io correlationId i.id b).2 = b' at hcases
  cases hcases with
  | skipped result quiet => exact .refl
  | halted e attempts quiet => exact .quiet ⟨rfl, rfl, rfl, rfl, rfl⟩
  | settled c attempts executed gatewayReference injection systemSettings due reached committed
      injected =>
      obtain ⟨rfl, hopen⟩ := hcharged c due
      exact .single (.paid c.invoice hopen correlationId
        ((processing correlationId).andThen (PremiumService.paid io c.invoice.amountDue))
          (charged io)
        ⟨fun _ => rfl, fun _ => rfl⟩ (fun _ => rfl) _
        ⟨rfl, rfl, rfl, Table.update_update _ _ _ _, rfl⟩)
  | failed c attempts executed e systemSettings due pool =>
      obtain ⟨rfl, hopen⟩ := hcharged c due
      exact .single (.unpaid c.invoice hopen .FAILED (by decide)
        ((processing correlationId).andThen (PremiumService.unpaid correlationId e))
          (chargeFailed io)
        ⟨fun _ => rfl, fun _ => rfl⟩ (fun _ => rfl) _
        ⟨rfl, rfl, rfl, Table.update_update _ _ _ _, rfl⟩)
  | stuck c attempts executed e systemSettings due pool =>
      obtain ⟨rfl, hopen⟩ := hcharged c due
      exact .single (.unpaid c.invoice hopen .PROCESSING (by decide)
        (processing correlationId) .keep
        ⟨fun _ => rfl, fun _ => rfl⟩ keepsPolicy_keep _
        ⟨rfl, rfl, (mandatesAfter_keep _ _).symm, rfl, rfl⟩)

theorem billPolicy_steps (cfg : BillingConfig) (io : PolicyIo) (now : ℤ) (correlationId : String)
    (policy : Policy) (b : Books) :
    BillSteps policy now b (billPolicy cfg io now correlationId policy b).2 := by
  unfold billPolicy
  cases hmandate : ensureBillingMandate io now policy b with
  | error e => exact .refl
  | ok ensured =>
      obtain ⟨mandate, b₁⟩ := ensured
      obtain ⟨hsteps, hfound, hours⟩ := ensureBillingMandate_steps hmandate
      dsimp only
      split
      · exact hsteps
      · split
        · exact hsteps
        · rcases hinvoice : ensureCycleInvoice io now correlationId policy mandate.id b₁ with
            ⟨e | invoice, b₂⟩
          · exact hsteps.trans (ensureCycleInvoice_steps hfound hours hinvoice).1
          · obtain ⟨hensured, hown⟩ := ensureCycleInvoice_steps hfound hours hinvoice
            obtain ⟨hfound', hown'⟩ := hown invoice rfl
            dsimp only
            split
            · exact hsteps.trans hensured
            · exact (hsteps.trans hensured).trans (processInvoiceCharge_steps hfound' hown')

end Writes

/-! ## Whole runs -/

/-- A run and what it leaves. -/
def billingRun (cfg : BillingConfig) (b : Books) (io : BillingIo) : Books :=
  (runRecurringBilling cfg io b).2

section Runs

variable {cfg : BillingConfig} {io : BillingIo} {b b' : Books}

theorem BillSteps.preserves {P : Books → Prop} {policy : Policy} {now : ℤ}
    (h : BillSteps policy now b b') (hb : P b)
    (hstep : ∀ b b', P b → BillStep policy now b b' → P b') : P b' := by
  induction h with
  | refl => exact hb
  | tail _ hlast ih => exact hstep _ _ ih hlast

/-- What the billing of each policy keeps, the billing of all keeps. -/
theorem billPolicies_keeps {P : Books → Prop} {policies : List Policy} (hb : P b)
    (hkeeps : ∀ policy ∈ policies, ∀ b, P b →
      P (billPolicy cfg (io.policy policy.id) io.now io.correlationId policy b).2) :
    P (billPolicies cfg io policies b).2 := by
  induction policies generalizing b with
  | nil => exact hb
  | cons policy policies ih =>
      exact ih (hkeeps policy (by simp) b hb) fun q hq => hkeeps q (List.mem_cons_of_mem _ hq)

/-- What every write keeps, the billing of all policies keeps. -/
theorem billPolicies_preserves {P : Books → Prop} {policies : List Policy} (hb : P b)
    (hstep : ∀ policy ∈ policies, ∀ b b', P b → BillStep policy io.now b b' → P b') :
    P (billPolicies cfg io policies b).2 :=
  billPolicies_keeps hb fun policy hpolicy b hb =>
    (billPolicy_steps cfg (io.policy policy.id) io.now io.correlationId policy b).preserves hb
      (hstep policy hpolicy)

theorem billingRun_preserves {P : Books → Prop} (hb : P b)
    (hstep : ∀ policy ∈ billablePolicies io.now b.db, ∀ b b', P b →
      BillStep policy io.now b b' → P b') : P (billingRun cfg b io) := by
  unfold billingRun runRecurringBilling
  split
  · exact billPolicies_preserves hb hstep
  · exact hb

theorem BillStep.policies {policy : Policy} {now : ℤ} (h : BillStep policy now b b') :
    b'.db.policies = b.db.policies := by
  cases h with
  | quiet _ same => exact same.policies
  | mandate m own _ created same => exact same.policies
  | invoice i m own pending cycle mandateId mandate ours _ created same => exact same.policies
  | unpaid i isOpen status refused f g sets keeps _ same => exact same.policies
  | paid i isOpen correlationId f g sets keeps _ same => exact same.policies

/-- Billing writes no policy. -/
theorem billingRun_policies : (billingRun cfg b io).db.policies = b.db.policies :=
  billingRun_preserves (P := fun b' => b'.db.policies = b.db.policies) rfl
    fun _ _ _ _ hb hstep => hstep.policies.trans hb

end Runs

/-! ## A step between two awaits -/

/-- The invoice that a step of a charge is about. -/
def atHand : PolicyPc → Option Chargeable
  | .counting c | .attempting c _ | .marking c _ | .debiting c _ _ _ _ | .settling c _ _
  | .failing c _ => some c
  | _ => none

/-- The invoice that was debited and is about to be booked. -/
def owed : PolicyPc → Option Chargeable
  | .settling c false _ => some c
  | _ => none

/-- An executed debit whose execution the code gets to know. -/
def Answers : Reply (Option String) → Prop
  | .answered _ | .garbled _ _ => True
  | _ => False

instance : (r : Reply (Option String)) → Decidable (Answers r)
  | .answered _ | .garbled _ _ => .isTrue trivial
  | .unreachable _ | .lost _ _ | .refused _ _ | .failed _ _ _ => .isFalse id

/-- Nothing is written but mandates, the pool and Redis. -/
structure Untouched (b b' : Books) : Prop where
  policies : b'.db.policies = b.db.policies
  invoices : b'.premiumInvoices = b.premiumInvoices
  attempts : b'.premiumChargeAttempts = b.premiumChargeAttempts
  ledger : b'.premiumLedgerEntries = b.premiumLedgerEntries
  debits : b'.debits = b.debits

theorem Untouched.refl (b : Books) : Untouched b b := ⟨rfl, rfl, rfl, rfl, rfl⟩

/-- What a POST that comes to no settlement has executed. -/
inductive Unanswered (d : Debit) (replies : List (Reply (Option String))) : List Debit → Prop
  | nothing : Unanswered d replies []
  | executed (r : Reply (Option String)) (first : replies.head? = some r)
      (executed : r.executed.isSome = true) (unanswered : ¬Answers r) : Unanswered d replies [d]

/-- What one step of the billing of a policy comes to. -/
inductive PolicyMove (cfg : BillingConfig) (io : PolicyIo) (now : ℤ) (correlationId : String)
    (policy : Policy) (b : Books) : PolicyPc → PolicyPc → Books → Prop
  | away (pc pc' : PolicyPc) (b' : Books) (before : owed pc = none) (after : atHand pc' = none)
      (untouched : Untouched b b') :
      PolicyMove cfg io now correlationId policy b pc pc' b'
  | invoiced (mandateId : String) (premium : ℚ) (pc' : PolicyPc)
      (premiumInvoices : Table PremiumInvoice.keys) (after : atHand pc' = none)
      (created : b.premiumInvoices.create
        (newInvoice io now correlationId policy mandateId premium) = some premiumInvoices) :
      PolicyMove cfg io now correlationId policy b (.newInvoice mandateId premium) pc'
        { b with premiumInvoices }
  | read (invoiceId : String) (c : Chargeable) (reads : io.charge.readInvoice = true)
      (due : Due invoiceId b c) :
      PolicyMove cfg io now correlationId policy b (.charging invoiceId) (.counting c) b
  | numbered (c : Chargeable) (n : ℕ) :
      PolicyMove cfg io now correlationId policy b (.counting c) (.attempting c n) b
  | attempted (c : Chargeable) (n : ℕ) (premiumChargeAttempts : Table PremiumChargeAttempt.keys)
      (created : b.premiumChargeAttempts.create
        (startedAttempt io.charge correlationId c.invoice.id n) = some premiumChargeAttempts) :
      PolicyMove cfg io now correlationId policy b (.attempting c n) (.marking c n)
        { b with premiumChargeAttempts }
  | marked (c : Chargeable) (n : ℕ) :
      PolicyMove cfg io now correlationId policy b (.marking c n) (afterMarking cfg io c n)
        { b with premiumInvoices :=
            b.premiumInvoices.update (.id c.invoice.id) (processing correlationId) }
  | retried (c : Chargeable) (n : ℕ) (providerMandateId : String) (retries : ℕ)
      (replies rest : List (Reply (Option String))) (executed : List Debit)
      (unanswered : Unanswered (debitOf correlationId c providerMandateId n) replies executed) :
      PolicyMove cfg io now correlationId policy b
        (.debiting c n providerMandateId (retries + 1) replies)
        (.debiting c n providerMandateId retries rest) { b with debits := b.debits ++ executed }
  | refused (c : Chargeable) (n : ℕ) (providerMandateId : String) (retries : ℕ)
      (replies : List (Reply (Option String))) (e : Exn) (executed : List Debit)
      (unanswered : Unanswered (debitOf correlationId c providerMandateId n) replies executed) :
      PolicyMove cfg io now correlationId policy b (.debiting c n providerMandateId retries replies)
        (.failing c e) { b with debits := b.debits ++ executed }
  | debited (c : Chargeable) (n : ℕ) (providerMandateId : String) (retries : ℕ)
      (replies : List (Reply (Option String))) (gatewayReference : String) :
      PolicyMove cfg io now correlationId policy b (.debiting c n providerMandateId retries replies)
        (.settling c false gatewayReference)
        { b with debits := b.debits ++ [debitOf correlationId c providerMandateId n] }
  | settled (c : Chargeable) (isProvisioned : Bool) (gatewayReference : String)
      (systemSettings : Settings) :
      PolicyMove cfg io now correlationId policy b (.settling c isProvisioned gatewayReference)
        .finished ((settledBooks io.charge correlationId c.invoice gatewayReference b).withSettings
          systemSettings)
  | unsettled (c : Chargeable) (isProvisioned : Bool) (gatewayReference : String) (e : Exn)
      (systemSettings : Settings)
      (failed : settleInvoice io.charge correlationId c.invoice gatewayReference b =
        (.error e, b.withSettings systemSettings)) :
      PolicyMove cfg io now correlationId policy b (.settling c isProvisioned gatewayReference)
        (.failing c e) (b.withSettings systemSettings)
  | failed (c : Chargeable) (e : Exn) :
      PolicyMove cfg io now correlationId policy b (.failing c e) .finished
        (failedBooks io.charge correlationId c.invoice e b)

section Moves

variable {cfg : BillingConfig} {io : PolicyIo} {now : ℤ} {correlationId : String}
  {policy : Policy} {b : Books}

theorem PolicyMove.idle {pc pc' : PolicyPc} (before : owed pc = none) (after : atHand pc' = none) :
    PolicyMove cfg io now correlationId policy b pc pc' b :=
  .away pc pc' b before after (.refl b)

theorem atHand_afterMandate (mandate : BillingMandate) :
    atHand (afterMandate now mandate) = none := by
  rw [afterMandate]
  split
  · rfl
  · split <;> rfl

theorem atHand_afterInvoice (invoice : PremiumInvoice) : atHand (afterInvoice invoice) = none := by
  rw [afterInvoice]
  split <;> rfl

/-- The settlement books the invoice, or leaves all but the pool as it is. -/
theorem settleInvoice_cases (io : ChargeIo) (correlationId : String) (invoice : PremiumInvoice)
    (gatewayReference : String) (b : Books) :
    (∃ e settings, settleInvoice io correlationId invoice gatewayReference b =
        (.error e, b.withSettings settings)) ∨
      ∃ settings, settleInvoice io correlationId invoice gatewayReference b =
        (.ok (), (settledBooks io correlationId invoice gatewayReference b).withSettings
          settings) := by
  rw [settleInvoice]
  cases htx : settleTx io correlationId invoice gatewayReference b with
  | error e => exact .inl ⟨e, b.db.systemSettings, rfl⟩
  | ok settled =>
      cases hpool : injectPremium io.pool b.db.systemSettings invoice.amountDue with
      | error e => exact .inl ⟨e, b.db.systemSettings, rfl⟩
      | ok injected =>
          by_cases hcommit : io.commit = true
          · exact .inr ⟨injected.2, by simp [hcommit, settleTx_eq_ok htx]⟩
          · exact .inl ⟨storeDown, injected.2, by simp [hcommit]⟩

/-! ### On the way to an invoice -/

theorem move_start :
    PolicyMove cfg io now correlationId policy b .start
      (policyStep cfg io now correlationId policy .start b).1
      (policyStep cfg io now correlationId policy .start b).2 := by
  by_cases hread : io.readMandate = true
  · cases hmandate : existingMandate policy.id b with
    | some mandate =>
        simp only [policyStep, hread, hmandate, if_true]
        exact .idle rfl (atHand_afterMandate mandate)
    | none =>
        simp only [policyStep, hread, hmandate, if_true]
        exact .idle rfl rfl
  · simp only [policyStep, hread]
    exact .idle rfl rfl

theorem move_newMandate :
    PolicyMove cfg io now correlationId policy b .newMandate
      (policyStep cfg io now correlationId policy .newMandate b).1
      (policyStep cfg io now correlationId policy .newMandate b).2 := by
  cases hcreate : createMandate io now policy b with
  | error e =>
      simp only [policyStep, hcreate]
      exact .idle rfl rfl
  | ok created =>
      simp only [policyStep, hcreate]
      obtain ⟨_, -, hcreate⟩ := bind_eq_ok.mp hcreate
      obtain ⟨mandates, -, hcreate⟩ := bind_eq_ok.mp hcreate
      cases hcreate
      exact .away _ _ _ rfl (atHand_afterMandate _) ⟨rfl, rfl, rfl, rfl, rfl⟩

theorem move_invoicing (mandateId : String) :
    PolicyMove cfg io now correlationId policy b (.invoicing mandateId)
      (policyStep cfg io now correlationId policy (.invoicing mandateId) b).1
      (policyStep cfg io now correlationId policy (.invoicing mandateId) b).2 := by
  by_cases hread : io.readInvoice = true
  · cases hinvoice : cycleInvoice now policy b with
    | some invoice =>
        simp only [policyStep, hread, hinvoice, if_true]
        exact .idle rfl (atHand_afterInvoice invoice)
    | none =>
        simp only [policyStep, hread, hinvoice, if_true]
        exact .idle rfl rfl
  · simp only [policyStep, hread]
    exact .idle rfl rfl

theorem move_pricing (mandateId : String) :
    PolicyMove cfg io now correlationId policy b (.pricing mandateId)
      (policyStep cfg io now correlationId policy (.pricing mandateId) b).1
      (policyStep cfg io now correlationId policy (.pricing mandateId) b).2 := by
  cases hprice : priceCycle io policy b with
  | error e =>
      simp only [policyStep, hprice]
      exact .idle rfl rfl
  | ok priced =>
      simp only [policyStep, hprice]
      obtain ⟨redis, -, hbooks⟩ := priceCycle_eq_ok hprice
      rw [hbooks]
      exact .away _ _ _ rfl rfl ⟨rfl, rfl, rfl, rfl, rfl⟩

theorem move_newInvoice (mandateId : String) (premium : ℚ) :
    PolicyMove cfg io now correlationId policy b (.newInvoice mandateId premium)
      (policyStep cfg io now correlationId policy (.newInvoice mandateId premium) b).1
      (policyStep cfg io now correlationId policy (.newInvoice mandateId premium) b).2 := by
  cases hcreate : createInvoice io now correlationId policy mandateId premium b with
  | error e =>
      simp only [policyStep, hcreate]
      exact .idle rfl rfl
  | ok created =>
      simp only [policyStep, hcreate]
      obtain ⟨invoices, hcreated, -, hbooks⟩ := createInvoice_eq_ok hcreate
      rw [hbooks]
      exact .invoiced mandateId premium _ invoices (atHand_afterInvoice _) hcreated

/-! ### The charge -/

theorem move_charging (invoiceId : String) :
    PolicyMove cfg io now correlationId policy b (.charging invoiceId)
      (policyStep cfg io now correlationId policy (.charging invoiceId) b).1
      (policyStep cfg io now correlationId policy (.charging invoiceId) b).2 := by
  by_cases hread : io.charge.readInvoice = true
  · cases hfound : findChargeable invoiceId b with
    | none =>
        simp only [policyStep, hread, hfound, if_true]
        exact .idle rfl rfl
    | some c =>
        by_cases hsettled : PremiumInvoiceStatus.isSettled c.invoice.status = true
        · simp only [policyStep, hread, hfound, hsettled, if_true]
          exact .idle rfl rfl
        · simp only [policyStep, hread, hfound, hsettled, if_true]
          exact .read invoiceId c hread ⟨hfound, Bool.not_eq_true _ ▸ hsettled⟩
  · simp only [policyStep, hread]
    exact .idle rfl rfl

theorem move_counting (c : Chargeable) :
    PolicyMove cfg io now correlationId policy b (.counting c)
      (policyStep cfg io now correlationId policy (.counting c) b).1
      (policyStep cfg io now correlationId policy (.counting c) b).2 := by
  by_cases hcount : io.charge.countAttempts = true
  · simp only [policyStep, hcount, if_true]
    exact .numbered c _
  · simp only [policyStep, hcount]
    exact .idle rfl rfl

theorem move_attempting (c : Chargeable) (n : ℕ) :
    PolicyMove cfg io now correlationId policy b (.attempting c n)
      (policyStep cfg io now correlationId policy (.attempting c n) b).1
      (policyStep cfg io now correlationId policy (.attempting c n) b).2 := by
  cases hcreate : createAttempt io.charge correlationId c.invoice.id n b with
  | error e =>
      simp only [policyStep, hcreate]
      exact .idle rfl rfl
  | ok b' =>
      simp only [policyStep, hcreate]
      obtain ⟨_, -, hcreate⟩ := bind_eq_ok.mp hcreate
      obtain ⟨attempts, hattempts, hcreate⟩ := bind_eq_ok.mp hcreate
      cases hcreate
      exact .attempted c n attempts (orThrow_eq_ok.mp hattempts)

theorem move_marking (c : Chargeable) (n : ℕ) :
    PolicyMove cfg io now correlationId policy b (.marking c n)
      (policyStep cfg io now correlationId policy (.marking c n) b).1
      (policyStep cfg io now correlationId policy (.marking c n) b).2 := by
  cases hmark : markProcessing io.charge correlationId c.invoice.id b with
  | error e =>
      simp only [policyStep, hmark]
      exact .idle rfl rfl
  | ok b' =>
      simp only [policyStep, hmark]
      obtain ⟨_, -, hmark⟩ := bind_eq_ok.mp hmark
      cases hmark
      exact .marked c n

/-- A POST that throws is repeated, or the charge fails. -/
theorem move_afterPost {c : Chargeable} {n : ℕ} {providerMandateId : String}
    {replies : List (Reply (Option String))} {executed : List Debit}
    (unanswered : Unanswered (debitOf correlationId c providerMandateId n) replies executed)
    (rest : List (Reply (Option String))) (e : Exn) (retries : ℕ) :
    PolicyMove cfg io now correlationId policy b (.debiting c n providerMandateId retries replies)
      (afterPost io c n providerMandateId rest (.error e) retries)
      { b with debits := b.debits ++ executed } := by
  cases retries with
  | zero => exact .refused c n providerMandateId 0 replies e executed unanswered
  | succ retries => exact .retried c n providerMandateId retries replies rest executed unanswered

theorem move_debiting (c : Chargeable) (n : ℕ) (providerMandateId : String) (retries : ℕ)
    (replies : List (Reply (Option String))) :
    PolicyMove cfg io now correlationId policy b (.debiting c n providerMandateId retries replies)
      (policyStep cfg io now correlationId policy
        (.debiting c n providerMandateId retries replies) b).1
      (policyStep cfg io now correlationId policy
        (.debiting c n providerMandateId retries replies) b).2 := by
  cases replies with
  | nil => exact move_afterPost .nothing [] (.error "fetch failed") retries
  | cons r replies =>
      cases r with
      | unreachable message => exact move_afterPost .nothing replies (.error message) retries
      | lost done message =>
          exact move_afterPost (.executed _ rfl rfl id) replies (.error message) retries
      | refused status text => exact .refused c n _ retries _ _ [] .nothing
      | failed done status text => exact .refused c n _ retries _ _ _ (.executed _ rfl rfl id)
      | garbled done message => exact .debited c n _ retries _ _
      | answered done => exact .debited c n _ retries _ _

theorem move_settling (c : Chargeable) (isProvisioned : Bool) (gatewayReference : String) :
    PolicyMove cfg io now correlationId policy b (.settling c isProvisioned gatewayReference)
      (policyStep cfg io now correlationId policy
        (.settling c isProvisioned gatewayReference) b).1
      (policyStep cfg io now correlationId policy
        (.settling c isProvisioned gatewayReference) b).2 := by
  rcases settleInvoice_cases io.charge correlationId c.invoice gatewayReference b with
    ⟨e, settings, hsettle⟩ | ⟨settings, hsettle⟩
  · simp only [policyStep, hsettle]
    exact .unsettled c isProvisioned gatewayReference e settings hsettle
  · simp only [policyStep, hsettle]
    exact .settled c isProvisioned gatewayReference settings

theorem move_failing (c : Chargeable) (e : Exn) :
    PolicyMove cfg io now correlationId policy b (.failing c e)
      (policyStep cfg io now correlationId policy (.failing c e) b).1
      (policyStep cfg io now correlationId policy (.failing c e) b).2 := by
  cases hfail : failInvoice io.charge correlationId c.invoice e b with
  | error e' =>
      simp only [policyStep, hfail]
      exact .idle rfl rfl
  | ok b' =>
      simp only [policyStep, hfail]
      rw [failInvoice_eq_ok hfail]
      exact .failed c e

theorem policyStep_move (cfg : BillingConfig) (io : PolicyIo) (now : ℤ) (correlationId : String)
    (policy : Policy) (pc : PolicyPc) (b : Books) :
    PolicyMove cfg io now correlationId policy b pc
      (policyStep cfg io now correlationId policy pc b).1
      (policyStep cfg io now correlationId policy pc b).2 := by
  cases pc with
  | start => exact move_start
  | newMandate => exact move_newMandate
  | invoicing mandateId => exact move_invoicing mandateId
  | pricing mandateId => exact move_pricing mandateId
  | newInvoice mandateId premium => exact move_newInvoice mandateId premium
  | charging invoiceId => exact move_charging invoiceId
  | counting c => exact move_counting c
  | attempting c n => exact move_attempting c n
  | marking c n => exact move_marking c n
  | debiting c n providerMandateId retries replies =>
      exact move_debiting c n providerMandateId retries replies
  | settling c isProvisioned gatewayReference =>
      exact move_settling c isProvisioned gatewayReference
  | failing c e => exact move_failing c e
  | finished => exact .idle rfl rfl

end Moves

end Aegis.PremiumService
