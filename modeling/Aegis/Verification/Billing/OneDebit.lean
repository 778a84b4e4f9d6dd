import Aegis.Verification.Billing.PoolCredits
import Aegis.Verification.Billing.Retries
import Mathlib.Data.Fintype.Basic

/-! # One debit for an invoice

Overlapping runs of billing, any of which may crash. A charge reads its invoice once and debits it
later, so what decides is whether another run is at work on the invoice when it is read, and
whether a debit that was executed is booked. -/

namespace Aegis.PremiumService.Cron

open Outcome Gateway LiquidityPool

variable {τ : Type}

/-! ## The property -/

def debitsFor (b : Books) (id : String) : List Debit := b.debits.filter fun d => d.invoiceId = id

def creditsFor (b : Books) (id : String) : List PremiumLedgerEntry :=
  b.premiumLedgerEntries.filter fun e => e.direction = "CREDIT" ∧ e.invoiceId = id

def settles : BillingPc → Option Chargeable
  | .billing _ _ pc => owed pc
  | _ => none

/-- An invoice is debited at most once; one that was debited is PAID with one credit, or a run is
about to book it. -/
def DebitedOnce (s : Cron τ) : Prop :=
  ∀ id, (debitsFor s.books id).length ≤ 1 ∧
    (debitsFor s.books id ≠ [] →
      (∃ t, ∃ c ∈ settles (s.pc t), c.invoice.id = id) ∨
        Paid s.books id ∧ (creditsFor s.books id).length = 1)

/-- An invoice with a credit is one that the read of a charge turns away. -/
def CreditsSettled (b : Books) : Prop :=
  ∀ id, creditsFor b id ≠ [] → ∃ status,
    (b.premiumInvoices.findUnique (.id id)).map PremiumInvoice.status = some status ∧
      PremiumInvoiceStatus.isSettled status = true

/-! ## The condition -/

/-- The invoice that a run has at hand, from its read of it to the end of its charge. -/
def holds : BillingPc → Option Chargeable
  | .billing _ _ pc => atHand pc
  | _ => none

/-- No run has the invoice at hand. -/
def Free (s : Cron τ) (invoiceId : String) : Prop :=
  ∀ t, ∀ c ∈ holds (s.pc t), c.invoice.id ≠ invoiceId

/-- The settlement goes through and commits. -/
structure GoesThrough (io : ChargeIo) (invoice : PremiumInvoice) (b : Books) : Prop where
  statements : io.settleTx = true
  mandate : ∀ id ∈ invoice.mandateId, (b.billingMandates.findUnique id).isSome = true
  pool : io.pool = .available ∨ io.pool = .tableMissing
  commit : io.commit = true

/-- An unsettled invoice is read for its charge only while no run has it at hand, an executed debit
is answered, and a debit is booked. -/
def Careful (s : Cron τ) (io : PolicyIo) : PolicyPc → Prop
  | .charging invoiceId => io.charge.readInvoice = true →
      ∀ c ∈ findChargeable invoiceId s.books,
        PremiumInvoiceStatus.isSettled c.invoice.status = false → Free s invoiceId
  | .debiting _ _ _ _ replies => ∀ r ∈ replies.head?, r.executed.isSome = true → Answers r
  | .settling c false _ => GoesThrough io.charge c.invoice s.books
  | _ => True

instance (io : ChargeIo) (invoice : PremiumInvoice) (b : Books) :
    Decidable (GoesThrough io invoice b) :=
  decidable_of_iff (io.settleTx = true ∧
      (∀ id ∈ invoice.mandateId, (b.billingMandates.findUnique id).isSome = true) ∧
      (io.pool = .available ∨ io.pool = .tableMissing) ∧ io.commit = true)
    ⟨fun ⟨h₁, h₂, h₃, h₄⟩ => ⟨h₁, h₂, h₃, h₄⟩, fun ⟨h₁, h₂, h₃, h₄⟩ => ⟨h₁, h₂, h₃, h₄⟩⟩

instance [Fintype τ] (s : Cron τ) (invoiceId : String) : Decidable (Free s invoiceId) :=
  inferInstanceAs (Decidable (∀ t, ∀ c ∈ holds (s.pc t), c.invoice.id ≠ invoiceId))

instance [Fintype τ] (s : Cron τ) (io : PolicyIo) (pc : PolicyPc) :
    Decidable (Careful s io pc) := by
  unfold Careful
  split <;> infer_instance

/-- Every step is careful, and no run crashes between a debit and its settlement. -/
def Timely (runs : τ → BillingIo) (s : Cron τ) : CronEvent τ → Prop
  | .run t =>
      match s.pc t with
      | .billing policy _ pc => Careful s ((runs t).policy policy.id) pc
      | _ => True
  | .crash t => settles (s.pc t) = none

instance [Fintype τ] (runs : τ → BillingIo) (s : Cron τ) :
    (e : CronEvent τ) → Decidable (Timely runs s e)
  | .run t => by
      unfold Timely
      dsimp only
      split <;> infer_instance
  | .crash t => inferInstanceAs (Decidable (settles (s.pc t) = none))

/-! ## What the statements leave alone -/

/-- The invoice is there. -/
def Known (b : Books) (id : String) : Prop := (b.premiumInvoices.findUnique (.id id)).isSome = true

def statusOf (b : Books) (id : String) : Option PremiumInvoiceStatus :=
  (b.premiumInvoices.findUnique (.id id)).map PremiumInvoice.status

/-- All but the status of the invoice at hand stays as it is. -/
structure Leaves (held : Option Chargeable) (b b' : Books) : Prop where
  debits : b'.debits = b.debits
  ledger : b'.premiumLedgerEntries = b.premiumLedgerEntries
  known : ∀ id, Known b id → Known b' id
  status : ∀ id, (∀ c ∈ held, c.invoice.id ≠ id) → Known b id → statusOf b' id = statusOf b id

section Statements

variable {b b' : Books} {io : ChargeIo} {correlationId : String} {held : Option Chargeable}

theorem known_of_statusOf {id : String} {status : PremiumInvoiceStatus}
    (h : statusOf b id = some status) : Known b id := by
  obtain ⟨i, hi, -⟩ := Option.map_eq_some_iff.mp h
  rw [Known, hi]
  rfl

theorem Leaves.of_same (hdebits : b'.debits = b.debits)
    (hinvoices : b'.premiumInvoices = b.premiumInvoices)
    (hledger : b'.premiumLedgerEntries = b.premiumLedgerEntries) : Leaves held b b' where
  debits := hdebits
  ledger := hledger
  known id h := by rwa [Known, hinvoices]
  status id _ _ := by rw [statusOf, hinvoices, statusOf]

theorem Leaves.refl (b : Books) : Leaves held b b := .of_same rfl rfl rfl

theorem Leaves.created {i : PremiumInvoice} {invoices : Table PremiumInvoice.keys}
    (h : b.premiumInvoices.create i = some invoices) :
    Leaves held b { b with premiumInvoices := invoices } := by
  refine ⟨rfl, rfl, fun id hknown => ?_, fun id _ hknown => ?_⟩
  · obtain ⟨r, hr⟩ := Option.isSome_iff_exists.mp hknown
    rw [Known, Table.findUnique_create_of_some h hr]
    rfl
  · obtain ⟨r, hr⟩ := Option.isSome_iff_exists.mp hknown
    rw [statusOf, Table.findUnique_create_of_some h hr, statusOf, hr]

theorem known_update {i id : String} {f : RowUpdate PremiumInvoice.keys}
    (hinvoices : b'.premiumInvoices = b.premiumInvoices.update (.id i) f) :
    Known b' id ↔ Known b id := by
  rw [Known, hinvoices, Table.findUnique_update, Option.isSome_map, Known]

theorem statusOf_update_of_ne {i id : String} {f : RowUpdate PremiumInvoice.keys}
    (hinvoices : b'.premiumInvoices = b.premiumInvoices.update (.id i) f) (hne : id ≠ i) :
    statusOf b' id = statusOf b id := by
  rw [statusOf, hinvoices, findUnique_id_update, if_neg hne, statusOf]

/-- A write of the invoice at hand. -/
theorem Leaves.updated {c : Chargeable} {f : RowUpdate PremiumInvoice.keys}
    (hdebits : b'.debits = b.debits) (hledger : b'.premiumLedgerEntries = b.premiumLedgerEntries)
    (hinvoices : b'.premiumInvoices = b.premiumInvoices.update (.id c.invoice.id) f) :
    Leaves (some c) b b' :=
  ⟨hdebits, hledger, fun _ => (known_update hinvoices).mpr,
    fun _ hne _ => statusOf_update_of_ne hinvoices (hne c rfl).symm⟩

theorem creditsFor_settled (invoice : PremiumInvoice) (gatewayReference : String)
    (settings : Settings) (id : String) :
    creditsFor
        ((settledBooks io correlationId invoice gatewayReference b).withSettings settings) id =
      creditsFor b id ++ if invoice.id = id then [creditOf correlationId invoice] else [] := by
  by_cases hid : invoice.id = id
  · simp [creditsFor, settledBooks, Books.withSettings, creditOf, List.filter_append, hid]
  · simp [creditsFor, settledBooks, Books.withSettings, creditOf, List.filter_append, hid]

theorem GoesThrough.settleInvoice {invoice : PremiumInvoice} (h : GoesThrough io invoice b)
    (correlationId gatewayReference : String) :
    ∃ settings, settleInvoice io correlationId invoice gatewayReference b =
      (.ok (), (settledBooks io correlationId invoice gatewayReference b).withSettings
        settings) := by
  have htx : settleTx io correlationId invoice gatewayReference b =
      .ok (settledBooks io correlationId invoice gatewayReference b) := by
    have hmandate := h.mandate
    cases hid : invoice.mandateId with
    | none =>
        simp [settleTx, require, h.statements, updateMandate, settledBooks, hid, mandatesAfter]
    | some id =>
        simp [settleTx, require, h.statements, updateMandate, settledBooks, hid, mandatesAfter,
          hmandate id hid]
  obtain ⟨injected, hpool⟩ : ∃ injected,
      injectPremium io.pool b.db.systemSettings invoice.amountDue = .ok injected := by
    cases hpool : injectPremium io.pool b.db.systemSettings invoice.amountDue with
    | ok injected => exact ⟨injected, rfl⟩
    | error e =>
        rcases h.pool with hup | hmissing
        · exact absurd hup (not_available_of_error hpool)
        · simp [injectPremium, hmissing] at hpool
  exact ⟨injected.2, by simp [PremiumService.settleInvoice, htx, hpool, h.commit]⟩

theorem debitsFor_append {d : Debit} {invoiceId : String} (hown : d.invoiceId = invoiceId)
    (id : String) : debitsFor { b with debits := b.debits ++ [d] } id =
      debitsFor b id ++ if invoiceId = id then [d] else [] := by
  by_cases hid : invoiceId = id
  · simp [debitsFor, List.filter_append, hown, hid]
  · simp [debitsFor, List.filter_append, hown, hid]

end Statements

/-! ## Where a run stands -/

theorem atHand_of_owed {pc : PolicyPc} {c : Chargeable} (h : c ∈ owed pc) : c ∈ atHand pc := by
  cases pc with
  | settling c isProvisioned gatewayReference => cases isProvisioned <;> simp_all [owed, atHand]
  | _ => cases h

theorem holds_of_settles {pc : BillingPc} {c : Chargeable} (h : c ∈ settles pc) : c ∈ holds pc := by
  cases pc with
  | billing policy policies pc => exact atHand_of_owed h
  | _ => cases h

theorem settles_eq_none {pc : BillingPc} (h : holds pc = none) : settles pc = none := by
  rw [Option.eq_none_iff_forall_not_mem] at h ⊢
  exact fun c hc => h c (holds_of_settles hc)

theorem settles_inPolicy (policy : Policy) (policies : List Policy) (pc : PolicyPc) :
    settles (inPolicy policy policies pc) = owed pc := by
  cases pc with
  | finished => cases policies <;> rfl
  | _ => rfl

theorem holds_inPolicy (policy : Policy) (policies : List Policy) (pc : PolicyPc) :
    holds (inPolicy policy policies pc) = atHand pc := by
  cases pc with
  | finished => cases policies <;> rfl
  | _ => rfl

theorem holds_nextPolicy (policies : List Policy) : holds (nextPolicy policies) = none := by
  cases policies with
  | nil => rfl
  | cons policy policies => rfl

theorem afterMarking_spec (cfg : BillingConfig) (io : PolicyIo) (c : Chargeable) (n : ℕ) :
    atHand (afterMarking cfg io c n) = some c ∧ owed (afterMarking cfg io c n) = none := by
  rw [afterMarking]
  split
  · exact ⟨rfl, rfl⟩
  · exact ⟨rfl, rfl⟩
  · exact ⟨rfl, rfl⟩

/-! ## The invariant -/

/-- An invoice is with a single run, which found it without a credit and has not debited it unless
it owes the credit. One that was debited is with its run until it is PAID. -/
structure Inv (s : Cron τ) : Prop where
  known : ∀ t, ∀ c ∈ holds (s.pc t), Known s.books c.invoice.id
  alone : ∀ t t' c c', c ∈ holds (s.pc t) → c' ∈ holds (s.pc t') →
    c.invoice.id = c'.invoice.id → t = t'
  uncredited : ∀ t, ∀ c ∈ holds (s.pc t), creditsFor s.books c.invoice.id = []
  undebited : ∀ t, ∀ c ∈ holds (s.pc t), settles (s.pc t) = none →
    debitsFor s.books c.invoice.id = []
  single : ∀ id, (debitsFor s.books id).length ≤ 1
  booked : ∀ id, debitsFor s.books id ≠ [] →
    (∃ t, ∃ c ∈ settles (s.pc t), c.invoice.id = id) ∨
      Paid s.books id ∧ (creditsFor s.books id).length = 1
  credited : CreditsSettled s.books

theorem Inv.debitedOnce {s : Cron τ} (h : Inv s) : DebitedOnce s :=
  fun id => ⟨h.single id, h.booked id⟩

theorem inv_start {b : Books} (h : DebitedOnce (⟨b, fun _ => .start⟩ : Cron τ))
    (hcredits : CreditsSettled b) : Inv (⟨b, fun _ => .start⟩ : Cron τ) where
  known t c hc := by cases hc
  alone t t' c c' hc := by cases hc
  uncredited t c hc := by cases hc
  undebited t c hc := by cases hc
  single id := (h id).1
  booked id := (h id).2
  credited := hcredits

section Invariant

variable [DecidableEq τ] {s : Cron τ} {t : τ}

/-- Between places that owe nothing. -/
theorem settles_update {pc : BillingPc} (hbefore : settles (s.pc t) = none)
    (hafter : settles pc = none) (t' : τ) :
    settles (Function.update s.pc t pc t') = settles (s.pc t') := by
  by_cases heq : t' = t
  · rw [heq, Function.update_self, hbefore, hafter]
  · rw [Function.update_of_ne heq]

/-- A move of a run that comes to no debit and books nothing. -/
theorem Inv.left {b : Books} {pc : BillingPc} (h : Inv s) (hbefore : settles (s.pc t) = none)
    (hafter : settles pc = none) (hpc : ∀ c ∈ holds pc, c ∈ holds (s.pc t))
    (hleaves : Leaves (holds (s.pc t)) s.books b) : Inv ({ s with books := b }.goTo t pc) := by
  have hdebits : ∀ id, debitsFor b id = debitsFor s.books id :=
    fun id => by rw [debitsFor, hleaves.debits, debitsFor]
  have hcredits : ∀ id, creditsFor b id = creditsFor s.books id :=
    fun id => by rw [creditsFor, hleaves.ledger, creditsFor]
  have hsettles := settles_update hbefore hafter
  have hholds : ∀ t', ∀ c ∈ holds (Function.update s.pc t pc t'), c ∈ holds (s.pc t') := by
    intro t' c hc
    by_cases heq : t' = t
    · rw [heq, Function.update_self] at hc
      exact heq ▸ hpc c hc
    · rwa [Function.update_of_ne heq] at hc
  refine ⟨fun t' c hc => hleaves.known _ (h.known t' c (hholds t' c hc)),
    fun t₁ t₂ c₁ c₂ hc₁ hc₂ => h.alone t₁ t₂ c₁ c₂ (hholds t₁ c₁ hc₁) (hholds t₂ c₂ hc₂),
    fun t' c hc => ?_, fun t' c hc hnone => ?_, fun id => ?_, fun id hid => ?_, fun id hid => ?_⟩
  · exact (hcredits _).trans (h.uncredited t' c (hholds t' c hc))
  · exact (hdebits _).trans (h.undebited t' c (hholds t' c hc) ((hsettles t').symm.trans hnone))
  · simpa only [goTo, hdebits] using h.single id
  · simp only [goTo, hdebits] at hid
    simp only [goTo, hsettles, hcredits]
    refine (h.booked id hid).imp_right fun ⟨hpaid, hone⟩ => ⟨?_, hone⟩
    -- the invoice at hand was not debited
    refine (hleaves.status id (fun c hc heq => hid ?_) (known_of_statusOf hpaid)).trans hpaid
    exact heq ▸ h.undebited t c hc hbefore
  · simp only [goTo, hcredits] at hid
    obtain ⟨status, hstatus, hsettled⟩ := h.credited id hid
    refine ⟨status, ?_, hsettled⟩
    refine (hleaves.status id (fun c hc heq => hid ?_) (known_of_statusOf hstatus)).trans hstatus
    exact heq ▸ h.uncredited t c hc

/-- The read turns a paid invoice away, so what it goes on with has no credit; and as no run has
the invoice at hand, it has no debit either. -/
theorem Inv.read {invoiceId : String} {c : Chargeable} {pc : BillingPc} (h : Inv s)
    (hdue : Due invoiceId s.books c) (hfree : Free s invoiceId) (hbefore : settles (s.pc t) = none)
    (hafter : settles pc = none) (hpc : holds pc = some c) : Inv (s.goTo t pc) := by
  obtain ⟨invoice, hinvoice, rfl⟩ := Option.map_eq_some_iff.mp hdue.found
  have hid : invoiceId = invoice.id :=
    PremiumInvoice.id_mem_keys_iff.mp (Table.key_of_findUnique hinvoice)
  rw [hid] at hfree hinvoice
  have huncredited : creditsFor s.books invoice.id = [] := by
    by_contra hcredited
    obtain ⟨status, hstatus, hsettled⟩ := h.credited invoice.id hcredited
    rw [hinvoice] at hstatus
    cases hstatus
    exact absurd (hsettled.symm.trans hdue.unsettled) Bool.noConfusion
  have hundebited : debitsFor s.books invoice.id = [] := by
    by_contra hdebited
    rcases h.booked invoice.id hdebited with ⟨t', c', hc', heq⟩ | ⟨-, hone⟩
    · exact hfree t' c' (holds_of_settles hc') heq
    · rw [huncredited] at hone
      cases hone
  have hsettles := settles_update hbefore hafter
  have hholds : ∀ t', ∀ c' ∈ holds (Function.update s.pc t pc t'),
      t' = t ∧ c'.invoice = invoice ∨ c' ∈ holds (s.pc t') := by
    intro t' c' hc'
    by_cases heq : t' = t
    · rw [heq, Function.update_self, hpc] at hc'
      cases hc'
      exact .inl ⟨heq, rfl⟩
    · rw [Function.update_of_ne heq] at hc'
      exact .inr hc'
  refine ⟨fun t' c' hc' => ?_, fun t₁ t₂ c₁ c₂ hc₁ hc₂ heq => ?_, fun t' c' hc' => ?_,
    fun t' c' hc' hnone => ?_, h.single, fun id hdebited => ?_, h.credited⟩
  · rcases hholds t' c' hc' with ⟨-, hsame⟩ | hold
    · rw [hsame, Known]
      exact Option.isSome_iff_exists.mpr ⟨invoice, hinvoice⟩
    · exact h.known t' c' hold
  · rcases hholds t₁ c₁ hc₁ with ⟨rfl, hsame₁⟩ | hold₁
    · rcases hholds t₂ c₂ hc₂ with ⟨rfl, -⟩ | hold₂
      · rfl
      · exact absurd (heq.symm.trans (congrArg _ hsame₁)) (hfree t₂ c₂ hold₂)
    · rcases hholds t₂ c₂ hc₂ with ⟨rfl, hsame₂⟩ | hold₂
      · exact absurd (heq.trans (congrArg _ hsame₂)) (hfree t₁ c₁ hold₁)
      · exact h.alone t₁ t₂ c₁ c₂ hold₁ hold₂ heq
  · rcases hholds t' c' hc' with ⟨-, hsame⟩ | hold
    · rw [hsame]
      exact huncredited
    · exact h.uncredited t' c' hold
  · rcases hholds t' c' hc' with ⟨-, hsame⟩ | hold
    · rw [hsame]
      exact hundebited
    · exact h.undebited t' c' hold ((hsettles t').symm.trans hnone)
  · simpa only [goTo, hsettles] using h.booked id hdebited

/-- A run debits the invoice at hand and owes its credit from then on. -/
theorem Inv.debited {pc : BillingPc} {c : Chargeable} {d : Debit} (h : Inv s)
    (hheld : holds (s.pc t) = some c) (hbefore : settles (s.pc t) = none)
    (hafter : settles pc = some c) (hpc : holds pc = some c) (hown : d.invoiceId = c.invoice.id) :
    Inv ({ s with books := { s.books with debits := s.books.debits ++ [d] } }.goTo t pc) := by
  have hundebited : debitsFor s.books c.invoice.id = [] := h.undebited t c hheld hbefore
  have hholds : ∀ t', holds (Function.update s.pc t pc t') = holds (s.pc t') := by
    intro t'
    by_cases heq : t' = t
    · rw [heq, Function.update_self, hpc, hheld]
    · rw [Function.update_of_ne heq]
  refine ⟨fun t' c' hc' => h.known t' c' (hholds t' ▸ hc'),
    fun t₁ t₂ c₁ c₂ hc₁ hc₂ => h.alone t₁ t₂ c₁ c₂ (hholds t₁ ▸ hc₁) (hholds t₂ ▸ hc₂),
    fun t' c' hc' => h.uncredited t' c' (hholds t' ▸ hc'), fun t' c' hc' hnone => ?_, fun id => ?_,
    fun id hid => ?_, h.credited⟩
  · simp only [goTo] at hc' hnone
    have hne : t' ≠ t := by
      rintro rfl
      rw [Function.update_self, hafter] at hnone
      cases hnone
    rw [Function.update_of_ne hne] at hc' hnone
    have hother : c.invoice.id ≠ c'.invoice.id :=
      fun heq => hne (h.alone t' t c' c hc' hheld heq.symm)
    simp only [goTo, debitsFor_append hown, if_neg hother, List.append_nil]
    exact h.undebited t' c' hc' hnone
  · simp only [goTo, debitsFor_append hown]
    by_cases hid : c.invoice.id = id
    · simp [← hid, hundebited]
    · simpa [hid] using h.single id
  · simp only [goTo, debitsFor_append hown] at hid ⊢
    by_cases hc : c.invoice.id = id
    · exact .inl ⟨t, c, by rw [Function.update_self, hafter]; rfl, hc⟩
    · rw [if_neg hc, List.append_nil] at hid
      refine (h.booked id hid).imp_left ?_
      rintro ⟨t', c', hc', hid'⟩
      have hne : t' ≠ t := by
        rintro rfl
        rw [hbefore] at hc'
        cases hc'
      exact ⟨t', c', by rwa [Function.update_of_ne hne], hid'⟩

/-- A run books the invoice at hand and lets go of it. -/
theorem Inv.settled {pc : BillingPc} {c : Chargeable} {io : ChargeIo}
    {correlationId gatewayReference : String} {settings : Settings} (h : Inv s)
    (hheld : holds (s.pc t) = some c) (hpc : holds pc = none) :
    Inv ({ s with
      books := ((settledBooks io correlationId c.invoice gatewayReference s.books).withSettings
        settings) }.goTo t pc) := by
  have hpaid : Paid ((settledBooks io correlationId c.invoice gatewayReference s.books).withSettings
      settings) c.invoice.id := by
    obtain ⟨i, hi⟩ := Option.isSome_iff_exists.mp (h.known t c hheld)
    have hrow : ((s.books.premiumInvoices.update (.id c.invoice.id)
        (paid io c.invoice.amountDue)).findUnique (.id c.invoice.id)).map
          PremiumInvoice.status = some .PAID := by
      rw [Table.findUnique_update_self, hi]
      rfl
    exact hrow
  have hother : ∀ t' c', c' ∈ holds (Function.update s.pc t pc t') →
      t' ≠ t ∧ c' ∈ holds (s.pc t') ∧ c.invoice.id ≠ c'.invoice.id := by
    intro t' c' hc'
    by_cases heq : t' = t
    · rw [heq, Function.update_self, hpc] at hc'
      cases hc'
    · rw [Function.update_of_ne heq] at hc'
      exact ⟨heq, hc', fun hid => heq (h.alone t' t c' c hc' hheld hid.symm)⟩
  refine ⟨fun t' c' hc' => (known_update rfl).mpr (h.known t' c' (hother t' c' hc').2.1),
    fun t₁ t₂ c₁ c₂ hc₁ hc₂ => h.alone t₁ t₂ c₁ c₂ (hother t₁ c₁ hc₁).2.1 (hother t₂ c₂ hc₂).2.1,
    fun t' c' hc' => ?_, fun t' c' hc' hnone => ?_, h.single, fun id hid => ?_, fun id hid => ?_⟩
  · obtain ⟨-, hold, hne⟩ := hother t' c' hc'
    simp only [goTo, creditsFor_settled, if_neg hne, List.append_nil]
    exact h.uncredited t' c' hold
  · obtain ⟨hne, hold, -⟩ := hother t' c' hc'
    simp only [goTo, Function.update_of_ne hne] at hnone
    exact h.undebited t' c' hold hnone
  · by_cases hc : c.invoice.id = id
    · refine .inr ⟨hc ▸ hpaid, ?_⟩
      simp only [goTo, creditsFor_settled, ← hc, h.uncredited t c hheld]
      rfl
    · rcases h.booked id hid with ⟨t', c', hc', hid'⟩ | ⟨hpaid', hone⟩
      · have hne : t' ≠ t := by
          rintro rfl
          have hsame := holds_of_settles hc'
          rw [hheld] at hsame
          cases hsame
          exact hc hid'
        exact .inl ⟨t', c', by simpa only [goTo, Function.update_of_ne hne] using hc', hid'⟩
      · refine .inr ⟨(statusOf_update_of_ne rfl (Ne.symm hc)).trans hpaid', ?_⟩
        simpa only [goTo, creditsFor_settled, if_neg hc, List.append_nil] using hone
  · by_cases hc : c.invoice.id = id
    · exact ⟨.PAID, hc ▸ hpaid, rfl⟩
    · simp only [goTo, creditsFor_settled, if_neg hc, List.append_nil] at hid
      obtain ⟨status, hstatus, hsettled⟩ := h.credited id hid
      exact ⟨status, (statusOf_update_of_ne rfl (Ne.symm hc)).trans hstatus, hsettled⟩

/-! ## Every step -/

variable {cfg : BillingConfig} {runs : τ → BillingIo}

/-- A POST that comes to no settlement has executed nothing. -/
theorem unexecuted {d : Debit} {replies : List (Reply (Option String))} {executed : List Debit}
    (h : Unanswered d replies executed)
    (hanswers : ∀ r ∈ replies.head?, r.executed.isSome = true → Answers r) : executed = [] := by
  cases h with
  | nothing => rfl
  | executed r first executed unanswered => exact absurd (hanswers r first executed) unanswered

theorem Inv.policyStep {policy : Policy} {policies : List Policy} {pc pc' : PolicyPc} {b : Books}
    {io : PolicyIo} {now : ℤ} {correlationId : String} (h : Inv s)
    (hpc : s.pc t = .billing policy policies pc) (hcareful : Careful s io pc)
    (hmove : PolicyMove cfg io now correlationId policy s.books pc pc' b) :
    Inv ({ s with books := b }.goTo t (inPolicy policy policies pc')) := by
  have hsettles : settles (s.pc t) = owed pc := by rw [hpc, settles]
  have hholds : holds (s.pc t) = atHand pc := by rw [hpc, holds]
  -- a step on with the invoice at hand
  have hon : ∀ {c}, atHand pc = some c → owed pc = none → atHand pc' = some c → owed pc' = none →
      Leaves (some c) s.books b →
        Inv ({ s with books := b }.goTo t (inPolicy policy policies pc')) := by
    intro c hold hbefore hnew hafter hleaves
    refine h.left (hsettles.trans hbefore) ((settles_inPolicy ..).trans hafter) ?_ ?_
    · rw [holds_inPolicy, hnew, hholds, hold]
      exact fun _ hc => hc
    · rwa [hholds, hold]
  -- a step to a place without an invoice
  have haway : owed pc = none → atHand pc' = none → Leaves (atHand pc) s.books b →
      Inv ({ s with books := b }.goTo t (inPolicy policy policies pc')) := by
    intro hbefore hnone hleaves
    have hnew := (holds_inPolicy policy policies pc').trans hnone
    refine h.left (hsettles.trans hbefore) (settles_eq_none hnew) ?_ (hholds ▸ hleaves)
    rw [hnew]
    rintro c ⟨⟩
  cases hmove with
  | away _ _ _ before after untouched =>
      exact haway before after (.of_same untouched.debits untouched.invoices untouched.ledger)
  | invoiced mandateId premium _ invoices after created => exact haway rfl after (.created created)
  | read invoiceId c reads due =>
      exact h.read due (hcareful reads c due.found due.unsettled) (hsettles.trans rfl)
        (settles_inPolicy ..) (holds_inPolicy ..)
  | numbered c n => exact hon rfl rfl rfl rfl (.refl _)
  | attempted c n attempts created => exact hon rfl rfl rfl rfl (.of_same rfl rfl rfl)
  | marked c n =>
      obtain ⟨hnew, hafter⟩ := afterMarking_spec cfg io c n
      exact hon rfl rfl hnew hafter (.updated rfl rfl rfl)
  | retried c n providerMandateId retries replies rest executed unanswered =>
      obtain rfl := unexecuted unanswered hcareful
      exact hon rfl rfl rfl rfl (.of_same (List.append_nil _) rfl rfl)
  | refused c n providerMandateId retries replies e executed unanswered =>
      obtain rfl := unexecuted unanswered hcareful
      exact hon rfl rfl rfl rfl (.of_same (List.append_nil _) rfl rfl)
  | debited c n providerMandateId retries replies gatewayReference =>
      exact h.debited (c := c) hholds hsettles (settles_inPolicy ..) (holds_inPolicy ..) rfl
  | settled c isProvisioned gatewayReference settings =>
      exact h.settled (c := c) hholds (holds_inPolicy policy policies .finished)
  | unsettled c isProvisioned gatewayReference e settings failed =>
      cases isProvisioned with
      | false =>
          obtain ⟨_, hsettle⟩ := GoesThrough.settleInvoice hcareful correlationId gatewayReference
          rw [failed] at hsettle
          cases hsettle
      | true => exact hon rfl rfl rfl rfl (.of_same rfl rfl rfl)
  | failed c e => exact haway rfl rfl (.updated rfl rfl rfl)

theorem Inv.runStep (h : Inv s) (htimely : Timely runs s (.run t)) :
    Inv (runStep cfg (runs t) s t) := by
  rw [Cron.runStep]
  cases hpc : s.pc t with
  | start =>
      have hbefore : settles (s.pc t) = none := by rw [hpc]; rfl
      by_cases hread : (runs t).readPolicies = true
      · simp only [hread, if_true]
        have hnone := holds_nextPolicy (billablePolicies (runs t).now s.books.db)
        exact h.left hbefore (settles_eq_none hnone) (by simp [hnone]) (.refl s.books)
      · simp only [hread]
        exact h.left hbefore rfl (fun c hc => by cases hc) (.refl s.books)
  | billing policy policies pc =>
      have hcareful : Careful s ((runs t).policy policy.id) pc := by
        simpa only [Timely, hpc] using htimely
      exact h.policyStep hpc hcareful (policyStep_move ..)
  | done => exact h

theorem Inv.step {e : CronEvent τ} (h : Inv s) (htimely : Timely runs s e) :
    Inv (step cfg runs s e) := by
  cases e with
  | run t => exact h.runStep htimely
  | crash t => exact h.left htimely rfl (fun c hc => by cases hc) (.refl s.books)

/-- However the runs overlap and crash: as long as an unpaid invoice is read for its charge only
while no other run is charging it, every executed debit is answered, and no run fails or crashes
between a debit and its settlement, every invoice is debited at most once and booked if it was. -/
theorem always_debitedOnce (cfg : BillingConfig) (runs : τ → BillingIo) {b : Books}
    (hb : DebitedOnce (⟨b, fun _ => .start⟩ : Cron τ)) (hcredits : CreditsSettled b)
    (events : List (CronEvent τ))
    (h : Run.Along (Cron.step cfg runs) (Timely runs) ⟨b, fun _ => .start⟩ events) :
    Run.Always (Cron.step cfg runs) DebitedOnce ⟨b, fun _ => .start⟩ events :=
  (Run.always_of_step (fun _ _ hs htimely => hs.step htimely) (inv_start hb hcredits) h).mono
    fun _ => Inv.debitedOnce

end Invariant

/-! ## Overlapping runs and one invoice -/

namespace Incidents

open Declined

def booksBefore (n : ℕ) : Cron (Fin n) := ⟨Declined.books, fun _ => .start⟩

theorem debitedOnce_before (n : ℕ) : DebitedOnce (booksBefore n) :=
  fun _ => ⟨Nat.zero_le 1, fun hdebited => absurd rfl hdebited⟩

theorem creditsSettled_before : CreditsSettled Declined.books :=
  fun _ hcredited => absurd rfl hcredited

/-- A run an hour after the policy starts. -/
def hourly (attemptId : String) (replies : List (Reply (Option String))) (commit : Bool) :
    BillingIo :=
  { run 3600000 attemptId (.answered none) with
    policy := fun id =>
      { (run 3600000 attemptId (.answered none)).policy id with
        charge := { Rows.chargeIo with attemptId, replies, commit } } }

/-- The first POST of the first run does not reach the gateway. -/
def careful : Fin 3 → BillingIo
  | 0 => hourly "a1" [.unreachable "ECONNREFUSED", .answered (some "rec_1")] true
  | 1 => hourly "a2" [.answered (some "rec_2")] true
  | 2 => hourly "a3" [.answered (some "rec_3")] true

/-- The second run reads the invoice before it is PAID and again afterwards; the third crashes. -/
def schedule : List (CronEvent (Fin 3)) :=
  List.replicate 11 (.run 0) ++ [.run 1, .run 1, .run 1, .run 2, .crash 2, .run 0, .run 1]

/-- The response to the first POST is lost. -/
def lost : Fin 2 → BillingIo
  | 0 => hourly "a1" [.lost (some "rec_1") "ETIMEDOUT", .answered (some "rec_2")] true
  | 1 => hourly "a2" [.answered (some "rec_3")] true

/-- The settlement of the first run does not commit. -/
def uncommitted : Fin 2 → BillingIo
  | 0 => hourly "a1" [.answered (some "rec_1")] false
  | 1 => hourly "a2" [.answered (some "rec_2")] true

/-- All replies arrive and all transactions commit. -/
def prompt : Fin 2 → BillingIo
  | 0 => hourly "a1" [.answered (some "rec_1")] true
  | 1 => hourly "a2" [.answered (some "rec_2")] true

/-- Both runs read the invoice before either debits it. -/
def overlap : List (CronEvent (Fin 2)) :=
  List.replicate 6 (.run 0) ++ List.replicate 4 (.run 1) ++ List.replicate 6 (.run 0) ++
    List.replicate 5 (.run 1)

/-- What an invoice that was debited in vain looks like. -/
theorem not_debitedOnce_of_unbooked {s : Cron (Fin 2)} {id : String}
    (hdebited : debitsFor s.books id ≠ []) (hnone : ∀ t, settles (s.pc t) = none)
    (hunpaid : ¬Paid s.books id) : ¬DebitedOnce s := by
  intro h
  rcases (h id).2 hdebited with ⟨t, c, hc, -⟩ | ⟨hpaid, -⟩
  · rw [hnone t] at hc
    cases hc
  · exact hunpaid hpaid

theorem not_debitedOnce_of_twice {s : Cron (Fin 2)} {id : String}
    (htwice : (debitsFor s.books id).length = 2) : ¬DebitedOnce s := by
  intro h
  have honce := (h id).1
  omega

end Incidents

open Incidents Declined in
/-- The invoice is debited once and booked once by the end. -/
theorem always_debitedOnce_careful :
    Run.Always (step config careful) DebitedOnce (booksBefore 3) schedule ∧
      (debitsFor (Run.final (step config careful) (booksBefore 3) schedule).books "i1").length = 1 ∧
      Paid (Run.final (step config careful) (booksBefore 3) schedule).books "i1" :=
  ⟨always_debitedOnce config careful (debitedOnce_before 3) creditsSettled_before schedule
      (by decide),
    by decide, by decide⟩

open Incidents Declined in
/-- A lost response is followed by a second debit, and so is a read of the invoice by a second
run; after a settlement that does not commit, or a crash before it, nothing is booked. -/
theorem not_always_debitedOnce :
    ¬Run.Always (step config lost) DebitedOnce (booksBefore 2) (List.replicate 12 (.run 0)) ∧
      ¬Run.Always (step config prompt) DebitedOnce (booksBefore 2) overlap ∧
      ¬Run.Always (step config uncommitted) DebitedOnce (booksBefore 2)
        (List.replicate 12 (.run 0)) ∧
      ¬Run.Always (step config prompt) DebitedOnce (booksBefore 2)
        (List.replicate 10 (.run 0) ++ [.crash 0]) := by
  refine ⟨fun h => ?_, fun h => ?_, fun h => ?_, fun h => ?_⟩
  · exact not_debitedOnce_of_twice (by decide : (debitsFor _ "i1").length = 2) h.last
  · exact not_debitedOnce_of_twice (by decide : (debitsFor _ "i1").length = 2) h.last
  · exact not_debitedOnce_of_unbooked (by decide : debitsFor _ "i1" ≠ [])
      (by decide) (by decide) h.last
  · exact not_debitedOnce_of_unbooked (by decide : debitsFor _ "i1" ≠ [])
      (by decide) (by decide) h.last

end Aegis.PremiumService.Cron
