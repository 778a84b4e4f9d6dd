import Aegis.Verification.Billing.Steps
import Aegis.Verification.Premium.Cover

/-! # Retries of a failed premium

The failure branch of a charge sets a time for the next attempt and the mandate to FAILED;
a run looks at the time of ACTIVE mandates only. -/

namespace Aegis.PremiumService

open Outcome

/-! ## The property -/

/-- The invoices of the policy that a run attempts to charge. -/
def attempted (cfg : BillingConfig) (b : Books) (io : BillingIo) (policyId : String) :
    List String :=
  match (runRecurringBilling cfg io b).1 with
  | .error _ => []
  | .ok billed => billed.filterMap fun (id, outcome) =>
      match outcome with
      | .attempted invoiceId _ => if id = policyId then some invoiceId else none
      | _ => none

/-- The invoices refer to mandates of their own policies. -/
def Own (b : Books) : Prop :=
  ∀ i ∈ b.premiumInvoices.rows, ∀ id ∈ i.mandateId, ∃ m,
    b.billingMandates.findUnique id = some m ∧ m.policyId = i.policyId

/-- Every read of the run on its way to the charge goes through. -/
structure Readable (io : BillingIo) (policyId : String) : Prop where
  policies : io.readPolicies = true
  mandate : (io.policy policyId).readMandate = true
  invoice : (io.policy policyId).readInvoice = true

/-! ## What the billing of other policies leaves alone -/

section Frame

variable {policy : Policy} {now : ℤ} {b b' : Books} {policyId : String}

theorem policyId_apply (f : RowUpdate PremiumInvoice.keys) (i : PremiumInvoice) :
    (f.apply i).policyId = i.policyId := by
  have hkeys := f.keys_apply i
  simp only [PremiumInvoice.keys, List.cons.injEq, PremiumInvoiceIndex.id.injEq,
    PremiumInvoiceIndex.policyId_billingCycleStart.injEq] at hkeys
  exact hkeys.2.1.1

theorem findUnique_mandatesAfter (mandateId : Option String) {g : RowUpdate BillingMandate.keys}
    {mandates : Table BillingMandate.keys} {id : String} {m : BillingMandate}
    (hkeeps : KeepsPolicy g) (hfound : mandates.findUnique id = some m) :
    ∃ m', (mandatesAfter mandateId g mandates).findUnique id = some m' ∧
      m'.policyId = m.policyId := by
  cases mandateId with
  | none => exact ⟨m, hfound, rfl⟩
  | some mandateId =>
      refine ⟨_, by rw [mandatesAfter, Table.findUnique_update, hfound]; rfl, ?_⟩
      dsimp only
      split
      · exact hkeeps m
      · rfl

/-- A charge leaves the mandates with their policies and the invoices with their mandates. -/
theorem Own.charged {i : PremiumInvoice} {status : PremiumInvoiceStatus}
    {f : RowUpdate PremiumInvoice.keys} {g : RowUpdate BillingMandate.keys} (h : Own b)
    (hsets : Sets status f) (hkeeps : KeepsPolicy g)
    (hinvoices : b'.premiumInvoices = b.premiumInvoices.update (.id i.id) f)
    (hmandates : b'.billingMandates = mandatesAfter i.mandateId g b.billingMandates) : Own b' := by
  intro r hr id hid
  rw [hinvoices, Table.mem_update] at hr
  obtain ⟨r₀, hr₀, rfl⟩ := hr
  have hsame : (if PremiumInvoiceIndex.id i.id ∈ r₀.keys then f.apply r₀ else r₀).mandateId =
      r₀.mandateId ∧
      (if PremiumInvoiceIndex.id i.id ∈ r₀.keys then f.apply r₀ else r₀).policyId =
        r₀.policyId := by
    split
    · exact ⟨hsets.mandateId r₀, policyId_apply f r₀⟩
    · exact ⟨rfl, rfl⟩
  rw [hsame.1] at hid
  obtain ⟨m, hm, hpolicy⟩ := h r₀ hr₀ id hid
  obtain ⟨m', hm', hpolicy'⟩ := findUnique_mandatesAfter i.mandateId hkeeps hm
  exact ⟨m', hmandates ▸ hm', by rw [hpolicy', hpolicy, hsame.2]⟩

theorem Own.step (h : Own b) (hstep : BillStep policy now b b') : Own b' := by
  cases hstep with
  | quiet _ same =>
      simpa only [Own, same.premiumInvoices, same.billingMandates] using h
  | mandate m own _ created same =>
      intro i hi id hid
      rw [same.premiumInvoices] at hi
      obtain ⟨m', hm', hpolicy⟩ := h i hi id hid
      exact ⟨m', Table.findUnique_create_of_some created hm', hpolicy⟩
  | invoice i m own pending cycle mandateId mandate ours _ created same =>
      intro r hr id hid
      rw [same.billingMandates]
      rcases (Table.mem_create created).mp hr with hold | rfl
      · exact h r hold id hid
      · rw [mandateId] at hid
        cases hid
        exact ⟨m, mandate, ours.trans own.symm⟩
  | unpaid i isOpen status refused f g sets keeps _ same =>
      exact h.charged sets keeps same.premiumInvoices same.billingMandates
  | paid i isOpen correlationId f g sets keeps _ same =>
      exact h.charged sets keeps same.premiumInvoices same.billingMandates

/-- The mandate and the invoices of a policy as they were. -/
structure SameBill (policyId : String) (b b' : Books) : Prop where
  mandate : existingMandate policyId b' = existingMandate policyId b
  invoice : ∀ cycleStart,
    b'.premiumInvoices.findUnique (.policyId_billingCycleStart policyId cycleStart) =
      b.premiumInvoices.findUnique (.policyId_billingCycleStart policyId cycleStart)

theorem SameBill.refl (policyId : String) (b : Books) : SameBill policyId b b :=
  ⟨rfl, fun _ => rfl⟩

theorem SameBill.trans {b'' : Books} (h : SameBill policyId b b') (h' : SameBill policyId b' b'') :
    SameBill policyId b b'' :=
  ⟨h'.mandate.trans h.mandate, fun cycleStart =>
    (h'.invoice cycleStart).trans (h.invoice cycleStart)⟩

/-- A charge of another policy's invoice. -/
theorem SameBill.charged {i : PremiumInvoice} {f : RowUpdate PremiumInvoice.keys}
    {g : RowUpdate BillingMandate.keys} (hown : Own b) (hopen : Open policy b i)
    (hne : policy.id ≠ policyId) (hkeeps : KeepsPolicy g)
    (hinvoices : b'.premiumInvoices = b.premiumInvoices.update (.id i.id) f)
    (hmandates : b'.billingMandates = mandatesAfter i.mandateId g b.billingMandates) :
    SameBill policyId b b' := by
  have hother : i.policyId ≠ policyId := hopen.own ▸ hne
  constructor
  · rw [existingMandate, existingMandate, hmandates]
    cases hid : i.mandateId with
    | none => rfl
    | some mandateId =>
        obtain ⟨m, hm, hpolicy⟩ := hown i (Table.mem_of_findUnique hopen.found) mandateId hid
        refine Table.findFirstDesc_update_of_not _ fun r hr hkey => ?_
        obtain rfl : r = m := Table.eq_of_findUnique hm hr hkey
        have hforeign : r.policyId ≠ policyId := hpolicy ▸ hother
        simp [hforeign, hkeeps r]
  · intro cycleStart
    rw [hinvoices]
    refine Table.findUnique_update_of_notMem fun r hr hkey => ?_
    obtain rfl : r = i := Table.eq_of_findUnique hopen.found (Table.mem_of_findUnique hr) hkey
    have hmine := Table.key_of_findUnique hr
    exact hother (PremiumInvoice.cycle_mem_keys_iff.mp hmine).1.symm

theorem BillStep.sameBill (hown : Own b) (h : BillStep policy now b b')
    (hne : policy.id ≠ policyId) : SameBill policyId b b' := by
  cases h with
  | quiet _ same =>
      exact ⟨by rw [existingMandate, existingMandate, same.billingMandates],
        fun _ => by rw [same.premiumInvoices]⟩
  | mandate m own _ created same =>
      refine ⟨?_, fun _ => by rw [same.premiumInvoices]⟩
      exact Table.findFirstDesc_create_of_not _ created (by simp [own, hne])
  | invoice i m own pending cycle mandateId mandate ours _ created same =>
      refine ⟨by rw [existingMandate, existingMandate, same.billingMandates], fun cycleStart => ?_⟩
      rw [Table.findUnique_create created, if_neg]
      simp [own, Ne.symm hne]
  | unpaid i isOpen status refused f g sets keeps _ same =>
      exact .charged hown isOpen hne keeps same.premiumInvoices same.billingMandates
  | paid i isOpen correlationId f g sets keeps _ same =>
      exact .charged hown isOpen hne keeps same.premiumInvoices same.billingMandates

/-- The billing of other policies. -/
theorem billPolicies_sameBill {cfg : BillingConfig} {io : BillingIo} {policies : List Policy}
    (hown : Own b) (hne : ∀ q ∈ policies, q.id ≠ policyId) :
    Own (billPolicies cfg io policies b).2 ∧
      SameBill policyId b (billPolicies cfg io policies b).2 := by
  refine billPolicies_preserves (P := fun b' => Own b' ∧ SameBill policyId b b')
    ⟨hown, .refl policyId b⟩ fun q hq b₁ b₂ h hstep => ?_
  exact ⟨h.1.step hstep, h.2.trans (hstep.sameBill h.1 (hne q hq))⟩

end Frame

/-! ## A run and one of its policies -/

section Run

variable {cfg : BillingConfig} {io : BillingIo} {b : Books} {p : Policy}

theorem billPolicies_append (before after : List Policy) (b : Books) :
    (billPolicies cfg io (before ++ after) b).1 =
      (billPolicies cfg io before b).1 ++
        (billPolicies cfg io after (billPolicies cfg io before b).2).1 := by
  induction before generalizing b with
  | nil => rfl
  | cons policy before ih => simp only [List.cons_append, billPolicies, ih]

theorem billPolicies_ids {policies : List Policy} {id : String} {outcome : Billed}
    (h : (id, outcome) ∈ (billPolicies cfg io policies b).1) : ∃ q ∈ policies, q.id = id := by
  induction policies generalizing b with
  | nil => cases h
  | cons policy policies ih =>
      rcases List.mem_cons.mp h with h | h
      · cases h
        exact ⟨policy, by simp, rfl⟩
      · obtain ⟨q, hq, hid⟩ := ih h
        exact ⟨q, List.mem_cons_of_mem _ hq, hid⟩

/-- The policies before and after a policy in the list have other ids. -/
theorem billablePolicies_split {now : ℤ} {db : Db} (hp : p ∈ billablePolicies now db) :
    ∃ before after, billablePolicies now db = before ++ p :: after ∧
      (∀ q ∈ before, q.id ≠ p.id) ∧ ∀ q ∈ after, q.id ≠ p.id := by
  have hdistinct : (billablePolicies now db).Pairwise fun q r => q.id ≠ r.id := by
    refine (db.policies.unique.imp fun {q r} h hid => ?_).filter _
    exact h q.id (by simp [Policy.keys]) (by simp [Policy.keys, hid])
  obtain ⟨before, after, hsplit⟩ := List.append_of_mem hp
  rw [hsplit] at hdistinct
  obtain ⟨-, htail, hcross⟩ := List.pairwise_append.mp hdistinct
  refine ⟨before, after, hsplit, fun q hq => hcross q hq p (by simp), ?_⟩
  exact fun q hq => ((List.pairwise_cons.mp htail).1 q hq).symm

/-- What a run says of a policy is what its billing gives where the mandate and the invoices are
as at the start of the run. -/
theorem mem_attempted (hown : Own b) (hreads : io.readPolicies = true)
    (hp : p ∈ billablePolicies io.now b.db) :
    ∃ b', SameBill p.id b b' ∧ ∀ invoiceId, invoiceId ∈ attempted cfg b io p.id ↔
      ∃ result, (billPolicy cfg (io.policy p.id) io.now io.correlationId p b').1 =
        .attempted invoiceId result := by
  obtain ⟨before, after, hsplit, hbefore, hafter⟩ := billablePolicies_split hp
  refine ⟨(billPolicies cfg io before b).2, (billPolicies_sameBill hown hbefore).2, ?_⟩
  intro invoiceId
  have hbilled : (runRecurringBilling cfg io b).1 =
      .ok ((billPolicies cfg io before b).1 ++
        (billPolicies cfg io (p :: after) (billPolicies cfg io before b).2).1) := by
    simp only [runRecurringBilling, hreads, if_true, hsplit, billPolicies_append]
  simp only [attempted, hbilled, List.mem_filterMap]
  constructor
  · rintro ⟨⟨id, outcome⟩, hmem, hattempt⟩
    split at hattempt
    · rename_i found result houtcome
      split at hattempt
      · rename_i hid
        cases hattempt
        subst hid
        cases houtcome
        rcases List.mem_append.mp hmem with h | h
        · obtain ⟨q, hq, hqp⟩ := billPolicies_ids h
          exact absurd hqp (hbefore q hq)
        · rcases List.mem_cons.mp h with h | h
          · exact ⟨result, (Prod.mk.inj h).2.symm⟩
          · obtain ⟨q, hq, hqp⟩ := billPolicies_ids h
            exact absurd hqp (hafter q hq)
      · cases hattempt
    · cases hattempt
  · rintro ⟨result, hresult⟩
    refine ⟨(p.id, .attempted invoiceId result), List.mem_append_right _ ?_, by simp⟩
    rw [← hresult]
    exact List.mem_cons_self

theorem ensureBillingMandate_existing {io : PolicyIo} {now : ℤ} {mandate : BillingMandate}
    (hmandate : existingMandate p.id b = some mandate) :
    ensureBillingMandate io now p b =
      if io.readMandate = true then .ok (mandate, b) else .error Payments.storeDown := by
  by_cases hread : io.readMandate = true
  · simp [ensureBillingMandate, require, hread, hmandate]
  · simp [ensureBillingMandate, require, hread]

/-- An unpaid invoice is attempted where its mandate is due and ACTIVE. -/
theorem billPolicy_attempted_iff {io : PolicyIo} {now : ℤ} {correlationId : String}
    {mandate : BillingMandate} {invoice : PremiumInvoice}
    (hmandate : existingMandate p.id b = some mandate) (hdue : mandate.nextChargeAt ≤ now)
    (hinvoice : cycleInvoice now p b = some invoice)
    (hunpaid : PremiumInvoiceStatus.isSettled invoice.status = false) :
    (∃ result, (billPolicy cfg io now correlationId p b).1 = .attempted invoice.id result) ↔
      mandate.status = .ACTIVE ∧ io.readMandate = true ∧ io.readInvoice = true := by
  rw [billPolicy, ensureBillingMandate_existing hmandate]
  by_cases hread : io.readMandate = true
  · by_cases hactive : mandate.status = .ACTIVE
    · by_cases hread' : io.readInvoice = true
      · simp [hread, hactive, not_lt.mpr hdue, ensureCycleInvoice, hread', hinvoice, hunpaid]
      · simp [hread, hactive, not_lt.mpr hdue, ensureCycleInvoice, hread']
    · simp [hread, hactive]
  · simp [hread]

/-- In every state that runs of billing come to, an unpaid invoice whose mandate is due is
attempted if and only if the mandate is ACTIVE and the reads of the run go through. -/
theorem attempted_iff {b₀ : Books} (hown : Own b₀) (runs : List BillingIo)
    (hb : b = Run.final (billingRun cfg) b₀ runs) {mandate : BillingMandate}
    {invoice : PremiumInvoice} (hp : p ∈ billablePolicies io.now b.db)
    (hinvoice : cycleInvoice io.now p b = some invoice)
    (hunpaid : PremiumInvoiceStatus.isSettled invoice.status = false)
    (hmandate : existingMandate p.id b = some mandate) (hdue : mandate.nextChargeAt ≤ io.now) :
    invoice.id ∈ attempted cfg b io p.id ↔ mandate.status = .ACTIVE ∧ Readable io p.id := by
  have hkept : Run.Always (billingRun cfg) Own b₀ runs :=
    Run.always_of_step (fun b io hb _ => billingRun_preserves hb fun _ _ _ _ hb hstep =>
      hb.step hstep)
      hown (Run.along_of_forall (fun _ _ => trivial) b₀)
  have hown' : Own b := hb ▸ hkept.last
  by_cases hreads : io.readPolicies = true
  · obtain ⟨b', hsame, hiff⟩ := mem_attempted hown' hreads hp
    have hinvoice' : cycleInvoice io.now p b' = some invoice := (hsame.invoice _).trans hinvoice
    rw [hiff, billPolicy_attempted_iff (hsame.mandate.trans hmandate) hdue hinvoice' hunpaid]
    constructor
    · rintro ⟨hactive, hread, hread'⟩
      exact ⟨hactive, hreads, hread, hread'⟩
    · rintro ⟨hactive, -, hread, hread'⟩
      exact ⟨hactive, hread, hread'⟩
  · have hnone : attempted cfg b io p.id = [] := by simp [attempted, runRecurringBilling, hreads]
    rw [hnone]
    constructor
    · intro h
      cases h
    · rintro ⟨-, h⟩
      exact absurd h.policies hreads

/-- A mandate that is not ACTIVE stays as it is: no later run attempts an invoice of its policy. -/
theorem always_inactive {mandate : BillingMandate} (hown : Own b)
    (hmandate : existingMandate p.id b = some mandate) (hinactive : mandate.status ≠ .ACTIVE)
    (runs : List BillingIo) :
    Run.Always (billingRun cfg) (fun b => existingMandate p.id b = some mandate) b runs := by
  have hpolicy : ∀ io now correlationId q b, Own b ∧ existingMandate p.id b = some mandate →
      Own (billPolicy cfg io now correlationId q b).2 ∧
        existingMandate p.id (billPolicy cfg io now correlationId q b).2 = some mandate := by
    intro io now correlationId q b hb
    by_cases hq : q.id = p.id
    · have hexisting : existingMandate q.id b = some mandate := hq ▸ hb.2
      rw [billPolicy, ensureBillingMandate_existing hexisting]
      by_cases hread : io.readMandate = true
      · simpa [hread, hinactive] using hb
      · simpa [hread] using hb
    · refine (billPolicy_steps cfg io now correlationId q b).preserves
        (P := fun b => Own b ∧ existingMandate p.id b = some mandate) hb fun b b' h hstep => ?_
      exact ⟨h.1.step hstep, (hstep.sameBill h.1 hq).mandate.trans h.2⟩
  have hstep : ∀ b io, Own b ∧ existingMandate p.id b = some mandate → True →
      Own (billingRun cfg b io) ∧ existingMandate p.id (billingRun cfg b io) = some mandate := by
    intro b io hb _
    unfold billingRun runRecurringBilling
    split
    · exact billPolicies_keeps (P := fun b => Own b ∧ existingMandate p.id b = some mandate) hb
        fun q _ b hb => hpolicy _ _ _ q b hb
    · exact hb
  exact (Run.always_of_step hstep ⟨hown, hmandate⟩
    (Run.along_of_forall (fun _ _ => trivial) b)).mono fun _ h => h.2

end Run

/-! ## A debit that is declined -/

namespace Declined

open Rows

def config : BillingConfig where
  debitWebhookUrl := some "https://debits.example"

/-- A policy for a week, with a mandate for live debits. -/
def policy : Policy := { Cover.policy with endDate := 604800000 }

def books : Books where
  db := { Cover.store.db with policies := .singleton policy }
  billingMandates := .singleton { mandate with providerMandateId := some "token_1" }

def run (now : ℤ) (attemptId : String) (reply : Gateway.Reply (Option String)) : BillingIo where
  now := now
  runId := attemptId
  readPolicies := true
  policy := fun _ =>
    { readMandate := true
      mandateId := "m2"
      createMandate := true
      readInvoice := true
      premium := Cover.pricing 5
      invoiceId := "i1"
      createInvoice := true
      charge := { chargeIo with now, attemptId, replies := [reply] } }

/-- The first run is declined, and the second comes a day and an hour later. -/
def declined : BillingIo := run 3600000 "a1" (.refused 402 "insufficient funds")

def retried : BillingIo := run 93600000 "a2" (.answered (some "rec_2"))

/-- The first run is declined and cannot record it. -/
def stalled : BillingIo :=
  { declined with
    policy := fun id =>
      { declined.policy id with charge := { (declined.policy id).charge with failTx := false } } }

/-- The invoice of the week as it is billed. -/
def billed : PremiumInvoice :=
  { invoice with
    amountDue := 25
    status := .PROCESSING
    dueAt := 3600000
    correlationId := some "recurring_a1" }

end Declined

open Rows Declined in
theorem attempted_stalled :
    "i1" ∈ attempted config (billingRun config books stalled) retried "p1" := by
  have hown : Own books := by
    intro i hi
    cases hi
  have hmandate : existingMandate policy.id (billingRun config books stalled) =
      some { mandate with providerMandateId := some "token_1" } := by decide
  exact (attempted_iff hown [stalled] rfl (by decide : policy ∈ billablePolicies retried.now
    (billingRun config books stalled).db) (by decide +kernel : _ = some billed) rfl hmandate
    (by decide)).mpr ⟨rfl, rfl, rfl, rfl⟩

open Rows Declined in
/-- The declined invoice is unpaid and its mandate is due, and yet the run leaves it out. -/
theorem not_attempted_declined :
    policy ∈ billablePolicies retried.now (billingRun config books declined).db ∧
      (cycleInvoice retried.now policy (billingRun config books declined)).map
        (fun i => (i.id, i.status)) = some ("i1", .FAILED) ∧
      (existingMandate "p1" (billingRun config books declined)).map
        (fun m => (m.status, m.nextChargeAt)) = some (.FAILED, 90000000) ∧
      90000000 ≤ retried.now ∧
      "i1" ∉ attempted config (billingRun config books declined) retried "p1" := by
  refine ⟨by decide, by decide, by decide, by decide, by decide⟩

end Aegis.PremiumService
