import Aegis.Library.TableParts
import Aegis.Verification.Billing.OneDebit

/-! # The ledger of overlapping runs

However the runs overlap, fail and crash, a credit of the ledger stands for an attempt that
succeeded, and a live one for a debit. The attempt of a charge is its run's own: no other run
writes to it. -/

namespace Aegis.PremiumService.Cron

open Outcome Gateway LiquidityPool

variable {τ : Type}

/-! ## The audit -/

def credits (b : Books) (id : String) : ℕ :=
  b.premiumLedgerEntries.countP fun e => e.invoiceId = id

/-- What an attempt counts for an invoice. -/
def success (id : String) (a : PremiumChargeAttempt) : ℕ :=
  if a.invoiceId = id ∧ a.status = .SUCCESS then 1 else 0

def successes (b : Books) (id : String) : ℕ := b.premiumChargeAttempts.total (success id)

/-- The gateway executed a debit in the attempt. -/
def Debited (b : Books) (a : PremiumChargeAttempt) : Prop :=
  ∃ d ∈ b.debits, d.invoiceId = a.invoiceId ∧ d.attemptNumber = a.attemptNumber ∧
    a.correlationId = some d.correlationId

/-- Credits and debits are those of an invoice, to its amount. An invoice has a credit for each
attempt that succeeded, and of its amount is paid all if it has one and nothing if it has none. -/
structure Audited (cfg : BillingConfig) (b : Books) : Prop where
  entries : ∀ e ∈ b.premiumLedgerEntries, ∃ i,
    b.premiumInvoices.findUnique (.id e.invoiceId) = some i ∧ e.direction = "CREDIT" ∧
      e.userId = i.userId ∧ e.policyId = i.policyId ∧ e.amount = i.amountDue
  debits : ∀ d ∈ b.debits, ∃ i,
    b.premiumInvoices.findUnique (.id d.invoiceId) = some i ∧
      d.userId = i.userId ∧ d.policyId = i.policyId ∧ d.amountRupees = i.amountDue
  counted : ∀ id, credits b id = successes b id
  collected : isSet cfg.debitWebhookUrl = true →
    ∀ a ∈ b.premiumChargeAttempts.rows, a.status = .SUCCESS → Debited b a
  booked : ∀ i ∈ b.premiumInvoices.rows, 0 < credits b i.id → i.amountPaid = some i.amountDue
  unbooked : ∀ i ∈ b.premiumInvoices.rows, credits b i.id = 0 →
    i.amountPaid = some 0 ∧ i.status ≠ .PAID

/-! ## What a statement writes -/

/-- The same bill, whatever has become of it. -/
structure SameDue (i j : PremiumInvoice) : Prop where
  id : j.id = i.id
  userId : j.userId = i.userId
  policyId : j.policyId = i.policyId
  amountDue : j.amountDue = i.amountDue

theorem SameDue.refl (i : PremiumInvoice) : SameDue i i := ⟨rfl, rfl, rfl, rfl⟩

theorem SameDue.trans {i j k : PremiumInvoice} (h : SameDue i j) (h' : SameDue j k) :
    SameDue i k :=
  ⟨h'.id.trans h.id, h'.userId.trans h.userId, h'.policyId.trans h.policyId,
    h'.amountDue.trans h.amountDue⟩

/-- The bill that was read is in the table. -/
def Held (b : Books) (c : Chargeable) : Prop :=
  ∃ i, b.premiumInvoices.findUnique (.id c.invoice.id) = some i ∧ SameDue c.invoice i

/-- The attempt is as it was started. -/
def Attempted (io : ChargeIo) (correlationId : String) (b : Books) (c : Chargeable) (n : ℕ) :
    Prop :=
  b.premiumChargeAttempts.findUnique io.attemptId =
    some (startedAttempt io correlationId c.invoice.id n)

/-- What a statement may write, by a run that owns this attempt. -/
inductive Effect (cfg : BillingConfig) (own : Option String) (b : Books) : Books → Prop
  | quiet (b' : Books) (untouched : Untouched b b') : Effect cfg own b b'
  | invoice (i : PremiumInvoice) (invoices : Table PremiumInvoice.keys)
      (created : b.premiumInvoices.create i = some invoices) (unpaid : i.amountPaid = some 0)
      (pending : i.status = .PENDING) : Effect cfg own b { b with premiumInvoices := invoices }
  | attempt (a : PremiumChargeAttempt) (attempts : Table PremiumChargeAttempt.keys)
      (created : b.premiumChargeAttempts.create a = some attempts) (started : a.status = .STARTED) :
      Effect cfg own b { b with premiumChargeAttempts := attempts }
  | marked (id correlationId : String) : Effect cfg own b { b with
      premiumInvoices := b.premiumInvoices.update (.id id) (processing correlationId) }
  | debited (correlationId : String) (c : Chargeable) (providerMandateId : String) (n : ℕ)
      (held : Held b c) : Effect cfg own b { b with
        debits := b.debits ++ [debitOf correlationId c providerMandateId n] }
  | settled (io : ChargeIo) (correlationId : String) (c : Chargeable) (n : ℕ)
      (gatewayReference : String) (systemSettings : Settings) (owned : io.attemptId ∈ own)
      (held : Held b c) (attempted : Attempted io correlationId b c n)
      (collected : isSet cfg.debitWebhookUrl = true →
        Debited b (startedAttempt io correlationId c.invoice.id n)) :
      Effect cfg own b
        ((settledBooks io correlationId c.invoice gatewayReference b).withSettings systemSettings)
  | failed (io : ChargeIo) (correlationId : String) (c : Chargeable) (n : ℕ) (e : Exn)
      (owned : io.attemptId ∈ own) (attempted : Attempted io correlationId b c n) :
      Effect cfg own b (failedBooks io correlationId c.invoice e b)

def KeepsBills (t t' : Table PremiumInvoice.keys) : Prop :=
  ∀ id i, t.findUnique (.id id) = some i → ∃ i', t'.findUnique (.id id) = some i' ∧ SameDue i i'

/-- What the runs rely on: the bills stay, and so do the attempt and the debits. -/
structure Keeps (attemptId : String) (b b' : Books) : Prop where
  bills : KeepsBills b.premiumInvoices b'.premiumInvoices
  attempt : ∀ a, b.premiumChargeAttempts.findUnique attemptId = some a →
    b'.premiumChargeAttempts.findUnique attemptId = some a
  debits : ∀ d ∈ b.debits, d ∈ b'.debits

section Writes

variable {cfg : BillingConfig} {own : Option String} {b b' : Books} {attemptId : String}

theorem keepsBills_refl (t : Table PremiumInvoice.keys) : KeepsBills t t :=
  fun _ i hi => ⟨i, hi, .refl i⟩

theorem keepsBills_update {t : Table PremiumInvoice.keys} {id : String}
    {f : RowUpdate PremiumInvoice.keys} (hf : ∀ i, SameDue i (f.apply i)) :
    KeepsBills t (t.update (.id id) f) := by
  intro k i hi
  rw [findUnique_id_update, hi]
  split
  · exact ⟨f.apply i, rfl, hf i⟩
  · exact ⟨i, rfl, .refl i⟩

theorem keepsBills_create {t t' : Table PremiumInvoice.keys} {i : PremiumInvoice}
    (h : t.create i = some t') : KeepsBills t t' :=
  fun _ j hj => ⟨j, Table.findUnique_create_of_some h hj, .refl j⟩

theorem attempt_update_of_ne {t : Table PremiumChargeAttempt.keys} {id k : String}
    {f : RowUpdate PremiumChargeAttempt.keys} (hne : id ≠ k) :
    (t.update k f).findUnique id = t.findUnique id := by
  refine Table.findUnique_update_of_notMem fun a ha hk => hne ?_
  have hid := Table.key_of_findUnique ha
  simp only [PremiumChargeAttempt.keys, List.mem_singleton] at hid hk
  rw [hid, hk]

theorem Effect.bills (h : Effect cfg own b b') :
    KeepsBills b.premiumInvoices b'.premiumInvoices := by
  cases h with
  | quiet b' untouched =>
      rw [untouched.invoices]
      exact keepsBills_refl _
  | invoice i invoices created unpaid pending => exact keepsBills_create created
  | attempt a attempts created started => exact keepsBills_refl _
  | marked id correlationId => exact keepsBills_update fun i => ⟨rfl, rfl, rfl, rfl⟩
  | debited correlationId c providerMandateId n held => exact keepsBills_refl _
  | settled io correlationId c n gatewayReference systemSettings owned held attempted collected =>
      exact keepsBills_update fun i => ⟨rfl, rfl, rfl, rfl⟩
  | failed io correlationId c n e owned attempted =>
      exact keepsBills_update fun i => ⟨rfl, rfl, rfl, rfl⟩

/-- The others keep what the owner of another attempt relies on. -/
theorem Effect.keeps (h : Effect cfg own b b') (hne : attemptId ∉ own) : Keeps attemptId b b' := by
  have hother {id : String} (hid : id ∈ own) : attemptId ≠ id := fun heq => hne (heq ▸ hid)
  refine ⟨h.bills, ?_, ?_⟩
  · cases h with
    | quiet b' untouched =>
        intro a ha
        rw [untouched.attempts, ha]
    | attempt a attempts created started =>
        exact fun a ha => Table.findUnique_create_of_some created ha
    | settled io correlationId c n gatewayReference systemSettings owned held attempted collected =>
        exact fun a ha => (attempt_update_of_ne (hother owned)).trans ha
    | failed io correlationId c n e owned attempted =>
        exact fun a ha => (attempt_update_of_ne (hother owned)).trans ha
    | _ => exact fun a ha => ha
  · cases h with
    | quiet b' untouched =>
        intro d hd
        rwa [untouched.debits]
    | debited correlationId c providerMandateId n held =>
        exact fun d hd => List.mem_append_left _ hd
    | _ => exact fun d hd => hd

theorem Held.of_keeps {c : Chargeable} (h : Held b c) (hkeeps : Keeps attemptId b b') :
    Held b' c := by
  obtain ⟨i, hi, hbill⟩ := h
  obtain ⟨i', hi', hbill'⟩ := hkeeps.bills _ i hi
  exact ⟨i', hi', hbill.trans hbill'⟩

theorem Debited.mono {a : PremiumChargeAttempt} (h : Debited b a)
    (hdebits : ∀ d ∈ b.debits, d ∈ b'.debits) : Debited b' a := by
  obtain ⟨d, hd, hof⟩ := h
  exact ⟨d, hdebits d hd, hof⟩

/-- The ledger only grows. -/
theorem Effect.ledger (h : Effect cfg own b b') :
    b.premiumLedgerEntries <+: b'.premiumLedgerEntries := by
  cases h with
  | quiet b' untouched =>
      simp only [untouched.ledger, List.prefix_rfl]
  | settled io correlationId c n gatewayReference systemSettings owned held attempted collected =>
      exact List.prefix_append _ _
  | _ => exact List.prefix_rfl

end Writes

/-! ## The audit after a statement -/

section Audit

variable {cfg : BillingConfig} {own : Option String} {b b' : Books}

theorem audited_of_unbilled (hinvoices : b.premiumInvoices.rows = [])
    (hattempts : b.premiumChargeAttempts.rows = []) (hledger : b.premiumLedgerEntries = [])
    (hdebits : b.debits = []) : Audited cfg b where
  entries e he := by simp [hledger] at he
  debits d hd := by simp [hdebits] at hd
  counted id := by simp [credits, successes, Table.total, hledger, hattempts]
  collected _ a ha := by simp [hattempts] at ha
  booked i hi := by simp [hinvoices] at hi
  unbooked i hi := by simp [hinvoices] at hi

/-- The audit reads four tables. -/
theorem Audited.of_untouched (h : Audited cfg b) (hsame : Untouched b b') : Audited cfg b' := by
  obtain ⟨-, hinvoices, hattempts, hledger, hdebits⟩ := hsame
  constructor
  case entries => simpa only [hinvoices, hledger] using h.entries
  case debits => simpa only [hinvoices, hdebits] using h.debits
  case counted => simpa only [credits, successes, hledger, hattempts] using h.counted
  case collected => simpa only [Debited, hattempts, hdebits] using h.collected
  case booked => simpa only [credits, hinvoices, hledger] using h.booked
  case unbooked => simpa only [credits, hinvoices, hledger] using h.unbooked

/-- A credit or a debit follows its bill. -/
theorem exists_bill {t t' : Table PremiumInvoice.keys} {id userId policyId : String} {amount : ℚ}
    (hkept : KeepsBills t t')
    (h : ∃ i, t.findUnique (.id id) = some i ∧
      userId = i.userId ∧ policyId = i.policyId ∧ amount = i.amountDue) :
    ∃ i, t'.findUnique (.id id) = some i ∧
      userId = i.userId ∧ policyId = i.policyId ∧ amount = i.amountDue := by
  obtain ⟨i, hi, huser, hpolicy, hamount⟩ := h
  obtain ⟨i', hi', hbill⟩ := hkept id i hi
  exact ⟨i', hi', huser.trans hbill.userId.symm, hpolicy.trans hbill.policyId.symm,
    hamount.trans hbill.amountDue.symm⟩

/-- An invoice that is not there has no credit. -/
theorem Audited.credits_eq_zero (h : Audited cfg b) {id : String}
    (hnone : b.premiumInvoices.findUnique (.id id) = none) : credits b id = 0 := by
  rw [credits, List.countP_eq_zero]
  intro e he hid
  obtain ⟨i, hi, -⟩ := h.entries e he
  rw [of_decide_eq_true hid, hnone] at hi
  cases hi

/-- A row as it was but for its status, which is not set to PAID. -/
structure PaysNothing (i j : PremiumInvoice) : Prop where
  bill : SameDue i j
  amountPaid : j.amountPaid = i.amountPaid
  status : j.status = i.status ∨ j.status ≠ .PAID

/-- A change of the invoices that pays for none of them. -/
theorem Audited.invoices (h : Audited cfg b) {invoices : Table PremiumInvoice.keys}
    (hkept : KeepsBills b.premiumInvoices invoices)
    (hrows : ∀ j ∈ invoices.rows, (∃ i ∈ b.premiumInvoices.rows, PaysNothing i j) ∨
      credits b j.id = 0 ∧ j.amountPaid = some 0 ∧ j.status ≠ .PAID) :
    Audited cfg { b with premiumInvoices := invoices } := by
  constructor
  case entries =>
    intro e he
    obtain ⟨i, hi, hcredit, hof⟩ := h.entries e he
    obtain ⟨i', hi', hof'⟩ := exists_bill hkept ⟨i, hi, hof⟩
    exact ⟨i', hi', hcredit, hof'⟩
  case debits => exact fun d hd => exists_bill hkept (h.debits d hd)
  case counted => exact h.counted
  case collected => exact h.collected
  case booked =>
    intro j hj hcredits
    change 0 < credits b j.id at hcredits
    rcases hrows j hj with ⟨i, hi, hsame⟩ | ⟨hnone, -⟩
    · rw [hsame.amountPaid, hsame.bill.amountDue]
      exact h.booked i hi (hsame.bill.id ▸ hcredits)
    · omega
  case unbooked =>
    intro j hj hcredits
    change credits b j.id = 0 at hcredits
    rcases hrows j hj with ⟨i, hi, hsame⟩ | ⟨-, hnew⟩
    · obtain ⟨hpaid, hstatus⟩ := h.unbooked i hi (hsame.bill.id ▸ hcredits)
      exact ⟨hsame.amountPaid.trans hpaid, hsame.status.elim (fun heq => heq ▸ hstatus) id⟩
    · exact hnew

theorem Audited.created (h : Audited cfg b) {i : PremiumInvoice}
    {invoices : Table PremiumInvoice.keys} (hcreate : b.premiumInvoices.create i = some invoices)
    (hunpaid : i.amountPaid = some 0) (hpending : i.status = .PENDING) :
    Audited cfg { b with premiumInvoices := invoices } := by
  refine h.invoices (keepsBills_create hcreate) fun j hj => ?_
  rcases (Table.mem_create hcreate).mp hj with hold | rfl
  · exact .inl ⟨j, hold, .refl j, rfl, .inl rfl⟩
  · refine .inr ⟨?_, hunpaid, by rw [hpending]; decide⟩
    refine h.credits_eq_zero ((Table.findUnique_eq_none _ _).mpr fun r hr hkey => ?_)
    exact (Table.create_eq_some hcreate).1 r hr _ hkey (PremiumInvoice.id_mem_keys_iff.mpr rfl)

theorem Audited.updated (h : Audited cfg b) {id : String} {f : RowUpdate PremiumInvoice.keys}
    (hf : ∀ i, PaysNothing i (f.apply i)) :
    Audited cfg { b with premiumInvoices := b.premiumInvoices.update (.id id) f } := by
  refine h.invoices (keepsBills_update fun i => (hf i).bill) fun j hj => ?_
  obtain ⟨i, hi, rfl⟩ := Table.mem_update.mp hj
  refine .inl ⟨i, hi, ?_⟩
  split
  · exact hf i
  · exact ⟨.refl i, rfl, .inl rfl⟩

/-- A change of the attempts that leaves the successes. -/
theorem Audited.attempts (h : Audited cfg b) {attempts : Table PremiumChargeAttempt.keys}
    (hsuccesses : ∀ id, attempts.total (success id) = successes b id)
    (hrows : ∀ a ∈ attempts.rows, a.status = .SUCCESS → a ∈ b.premiumChargeAttempts.rows) :
    Audited cfg { b with premiumChargeAttempts := attempts } where
  entries := h.entries
  debits := h.debits
  counted id := (h.counted id).trans (hsuccesses id).symm
  collected hlive a ha hsuccess := h.collected hlive a (hrows a ha hsuccess) hsuccess
  booked := h.booked
  unbooked := h.unbooked

theorem Audited.debited (h : Audited cfg b) {c : Chargeable} (hheld : Held b c)
    (correlationId providerMandateId : String) (n : ℕ) :
    Audited cfg { b with debits := b.debits ++ [debitOf correlationId c providerMandateId n] } where
  entries := h.entries
  debits d hd := by
    rcases List.mem_append.mp hd with hold | hnew
    · exact h.debits d hold
    · obtain ⟨i, hi, hbill⟩ := hheld
      obtain rfl := List.mem_singleton.mp hnew
      exact ⟨i, hi, hbill.userId.symm, hbill.policyId.symm, hbill.amountDue.symm⟩
  counted := h.counted
  collected hlive a ha hsuccess :=
    (h.collected hlive a ha hsuccess).mono fun d hd => List.mem_append_left _ hd
  booked := h.booked
  unbooked := h.unbooked

/-- An attempt that is written is the one that was started. -/
theorem mem_update_attempt {t : Table PremiumChargeAttempt.keys} {k : String}
    {a s : PremiumChargeAttempt} {f : RowUpdate PremiumChargeAttempt.keys}
    (h : t.findUnique k = some a) (hs : s ∈ (t.update k f).rows) : s = f.apply a ∨ s ∈ t.rows := by
  obtain ⟨r, hr, rfl⟩ := Table.mem_update.mp hs
  split
  · exact .inl (by rw [Table.eq_of_findUnique h hr ‹_›])
  · exact .inr hr

theorem successes_update {k : String} {a : PremiumChargeAttempt}
    (h : b.premiumChargeAttempts.findUnique k = some a) (f : RowUpdate PremiumChargeAttempt.keys)
    (id : String) : (b.premiumChargeAttempts.update k f).total (success id) + success id a =
      successes b id + success id (f.apply a) := Table.total_update h

theorem success_started (io : ChargeIo) (correlationId invoiceId : String) (n : ℕ) (id : String) :
    success id (startedAttempt io correlationId invoiceId n) = 0 := by
  simp [success, startedAttempt]

theorem Audited.failed (h : Audited cfg b) {io : ChargeIo} {correlationId : String}
    {c : Chargeable} {n : ℕ} (hattempted : Attempted io correlationId b c n) (e : Exn) :
    Audited cfg (failedBooks io correlationId c.invoice e b) := by
  have hattempts : Audited cfg { b with
      premiumChargeAttempts := b.premiumChargeAttempts.update io.attemptId (attemptFailed e) } := by
    refine h.attempts (fun id => ?_) fun a ha hsuccess => ?_
    · have hnone : success id ((attemptFailed e).apply
          (startedAttempt io correlationId c.invoice.id n)) = 0 := by simp [success, attemptFailed]
      have htotal := successes_update hattempted (attemptFailed e) id
      rwa [success_started, hnone] at htotal
    · rcases mem_update_attempt hattempted ha with rfl | hold
      · cases hsuccess
      · exact hold
  have hinvoices := @Audited.updated cfg _ hattempts c.invoice.id (unpaid correlationId e)
    fun i => ⟨⟨rfl, rfl, rfl, rfl⟩, rfl, .inr (by simp [unpaid])⟩
  exact hinvoices.of_untouched ⟨rfl, rfl, rfl, rfl, rfl⟩

theorem credits_settled {io : ChargeIo} {correlationId gatewayReference : String}
    {invoice : PremiumInvoice} {systemSettings : Settings} (id : String) :
    credits ((settledBooks io correlationId invoice gatewayReference b).withSettings
      systemSettings) id = credits b id + if invoice.id = id then 1 else 0 := by
  simp [credits, settledBooks, Books.withSettings, creditOf, List.countP_append,
    List.countP_singleton]

theorem Audited.settled (h : Audited cfg b) {io : ChargeIo} {correlationId : String}
    {c : Chargeable} {n : ℕ} (hheld : Held b c) (hattempted : Attempted io correlationId b c n)
    (hcollected : isSet cfg.debitWebhookUrl = true →
      Debited b (startedAttempt io correlationId c.invoice.id n))
    (gatewayReference : String) (systemSettings : Settings) :
    Audited cfg ((settledBooks io correlationId c.invoice gatewayReference b).withSettings
      systemSettings) := by
  have hkept : KeepsBills b.premiumInvoices
      (b.premiumInvoices.update (.id c.invoice.id) (paid io c.invoice.amountDue)) :=
    keepsBills_update fun i => ⟨rfl, rfl, rfl, rfl⟩
  obtain ⟨i, hi, hbill⟩ := hheld
  constructor
  case entries =>
    intro e he
    rcases List.mem_append.mp he with hold | hnew
    · obtain ⟨j, hj, hcredit, hof⟩ := h.entries e hold
      obtain ⟨j', hj', hof'⟩ := exists_bill hkept ⟨j, hj, hof⟩
      exact ⟨j', hj', hcredit, hof'⟩
    · obtain rfl := List.mem_singleton.mp hnew
      obtain ⟨i', hi', hof⟩ := exists_bill hkept
        ⟨i, hi, hbill.userId.symm, hbill.policyId.symm, hbill.amountDue.symm⟩
      exact ⟨i', hi', rfl, hof⟩
  case debits => exact fun d hd => exists_bill hkept (h.debits d hd)
  case counted =>
    intro id
    have hone : success id ((succeeded gatewayReference).apply
        (startedAttempt io correlationId c.invoice.id n)) = if c.invoice.id = id then 1 else 0 := by
      simp [success, startedAttempt, succeeded]
    have htotal := successes_update hattempted (succeeded gatewayReference) id
    rw [hone, success_started, Nat.add_zero] at htotal
    rw [credits_settled, h.counted, ← htotal]
    rfl
  case collected =>
    intro hlive a ha hsuccess
    rcases mem_update_attempt hattempted ha with rfl | hold
    · exact hcollected hlive
    · exact h.collected hlive a hold hsuccess
  case booked =>
    intro j hj hcredits
    obtain ⟨r, hr, rfl⟩ := Table.mem_update.mp hj
    rw [credits_settled] at hcredits
    by_cases hkey : PremiumInvoiceIndex.id c.invoice.id ∈ r.keys
    · rw [if_pos hkey]
      obtain rfl := Table.eq_of_findUnique hi hr hkey
      exact congrArg some hbill.amountDue.symm
    · have hne : c.invoice.id ≠ r.id := fun heq => hkey (PremiumInvoice.id_mem_keys_iff.mpr heq)
      rw [if_neg hkey, if_neg hne] at hcredits
      rw [if_neg hkey]
      exact h.booked r hr hcredits
  case unbooked =>
    intro j hj hcredits
    obtain ⟨r, hr, rfl⟩ := Table.mem_update.mp hj
    rw [credits_settled] at hcredits
    by_cases hkey : PremiumInvoiceIndex.id c.invoice.id ∈ r.keys
    · have hsame : c.invoice.id = ((paid io c.invoice.amountDue).apply r).id :=
        PremiumInvoice.id_mem_keys_iff.mp hkey
      rw [if_pos hkey, if_pos hsame] at hcredits
      omega
    · rw [if_neg hkey] at hcredits ⊢
      exact h.unbooked r hr (by omega)

theorem Effect.audited (h : Effect cfg own b b') (haudited : Audited cfg b) : Audited cfg b' := by
  cases h with
  | quiet b' untouched => exact haudited.of_untouched untouched
  | invoice i invoices created unpaid pending => exact haudited.created created unpaid pending
  | attempt a attempts created started =>
      refine haudited.attempts (fun id => ?_) fun s hs hsuccess => ?_
      · rw [Table.total_create created, success, if_neg (by simp [started]), Nat.add_zero,
          successes]
      · rcases (Table.mem_create created).mp hs with hold | rfl
        · exact hold
        · rw [started] at hsuccess
          cases hsuccess
  | marked id correlationId =>
      exact haudited.updated fun i => ⟨⟨rfl, rfl, rfl, rfl⟩, rfl, .inr (by simp [processing])⟩
  | debited correlationId c providerMandateId n held =>
      exact haudited.debited held correlationId providerMandateId n
  | settled io correlationId c n gatewayReference systemSettings owned held attempted collected =>
      exact haudited.settled held attempted collected gatewayReference systemSettings
  | failed io correlationId c n e owned attempted => exact haudited.failed attempted e

end Audit

/-! ## Where a run stands -/

/-- The charge for which an attempt was started. -/
def charging : PolicyPc → Option Chargeable
  | .marking c _ | .debiting c _ _ _ _ | .settling c _ _ | .failing c _ => some c
  | _ => none

/-- The attempt that the run has to itself. -/
def own (io : PolicyIo) (pc : PolicyPc) : Option String :=
  (charging pc).map fun _ => io.charge.attemptId

/-- What a run relies on: its bill, its attempt, and before the settlement of a live debit that
debit. -/
def Standing (cfg : BillingConfig) (io : PolicyIo) (correlationId : String) (b : Books) :
    PolicyPc → Prop
  | .counting c | .attempting c _ => Held b c
  | .marking c n | .debiting c n _ _ _ => Held b c ∧ Attempted io.charge correlationId b c n
  | .settling c _ _ => Held b c ∧ ∃ n, Attempted io.charge correlationId b c n ∧
      (isSet cfg.debitWebhookUrl = true →
        Debited b (startedAttempt io.charge correlationId c.invoice.id n))
  | .failing c _ => Held b c ∧ ∃ n, Attempted io.charge correlationId b c n
  | _ => True

/-- What one step comes to. -/
structure Stands (cfg : BillingConfig) (io : PolicyIo) (correlationId : String) (b : Books)
    (pc pc' : PolicyPc) (b' : Books) : Prop where
  effect : Effect cfg (own io pc) b b'
  standing : Standing cfg io correlationId b' pc'
  fresh : ∀ id ∈ own io pc', id ∈ own io pc ∨ b.premiumChargeAttempts.findUnique id = none

section Steps

variable {cfg : BillingConfig} {io : PolicyIo} {now : ℤ} {correlationId : String}
  {pc pc' : PolicyPc} {b b' : Books} {c : Chargeable}

theorem Standing.of_keeps (h : Standing cfg io correlationId b pc)
    (hkeeps : Keeps io.charge.attemptId b b') : Standing cfg io correlationId b' pc := by
  cases pc with
  | counting c => exact h.of_keeps hkeeps
  | attempting c n => exact h.of_keeps hkeeps
  | marking c n => exact ⟨h.1.of_keeps hkeeps, hkeeps.attempt _ h.2⟩
  | debiting c n providerMandateId retries replies =>
      exact ⟨h.1.of_keeps hkeeps, hkeeps.attempt _ h.2⟩
  | settling c isProvisioned gatewayReference =>
      obtain ⟨hheld, n, hattempted, hcollected⟩ := h
      exact ⟨hheld.of_keeps hkeeps, n, hkeeps.attempt _ hattempted,
        fun hlive => (hcollected hlive).mono hkeeps.debits⟩
  | failing c e =>
      obtain ⟨hheld, n, hattempted⟩ := h
      exact ⟨hheld.of_keeps hkeeps, n, hkeeps.attempt _ hattempted⟩
  | _ => trivial

/-- Without an invoice at hand a run relies on nothing. -/
theorem standing_of_atHand (hpc : atHand pc = none) :
    Standing cfg io correlationId b pc ∧ own io pc = none := by
  cases pc with
  | counting c | attempting c n | marking c n | debiting c n providerMandateId retries replies
  | settling c isProvisioned gatewayReference | failing c e => cases hpc
  | _ => exact ⟨trivial, rfl⟩

/-- A step to a place where no invoice is at hand. -/
theorem Stands.away (hpc : atHand pc' = none) (heffect : Effect cfg (own io pc) b b') :
    Stands cfg io correlationId b pc pc' b' := by
  obtain ⟨hstanding, hown⟩ := standing_of_atHand hpc
  exact ⟨heffect, hstanding, fun id hid => by cases hown ▸ hid⟩

/-- A step on with the same charge. -/
theorem Stands.on (hpc : charging pc = some c) (hpc' : charging pc' = some c)
    (heffect : Effect cfg (own io pc) b b') (hstanding : Standing cfg io correlationId b' pc') :
    Stands cfg io correlationId b pc pc' b' := by
  refine ⟨heffect, hstanding, fun id hid => .inl ?_⟩
  rwa [own, hpc, ← hpc', ← own]

/-- The attempt that is started is the run's own, and was no one's before. -/
theorem stands_attempted {n : ℕ} {attempts : Table PremiumChargeAttempt.keys}
    (h : Standing cfg io correlationId b (.attempting c n))
    (hcreated : b.premiumChargeAttempts.create
      (startedAttempt io.charge correlationId c.invoice.id n) = some attempts) :
    Stands cfg io correlationId b (.attempting c n) (.marking c n)
      { b with premiumChargeAttempts := attempts } := by
  have hkey : io.charge.attemptId ∈ PremiumChargeAttempt.keys
      (startedAttempt io.charge correlationId c.invoice.id n) := List.mem_singleton_self _
  refine ⟨.attempt _ attempts hcreated rfl, ⟨h, ?_⟩, fun id hid => ?_⟩
  · rw [Attempted, Table.findUnique_create hcreated, if_pos hkey]
  · cases hid
    exact .inr ((Table.findUnique_eq_none _ _).mpr fun a ha hk =>
      (Table.create_eq_some hcreated).1 a ha _ hk hkey)

/-- Only without a webhook is a debit staged. -/
theorem stands_marked {n : ℕ} (h : Standing cfg io correlationId b (.marking c n)) :
    Stands cfg io correlationId b (.marking c n) (afterMarking cfg io c n)
      { b with premiumInvoices :=
          b.premiumInvoices.update (.id c.invoice.id) (processing correlationId) } := by
  have heffect : Effect cfg (own io (.marking c n)) b _ := .marked c.invoice.id correlationId
  have hheld : Held { b with premiumInvoices :=
      b.premiumInvoices.update (.id c.invoice.id) (processing correlationId) } c := by
    obtain ⟨i, hi, hbill⟩ := h.1
    obtain ⟨i', hi', hbill'⟩ := keepsBills_update (f := processing correlationId)
      (fun i => ⟨rfl, rfl, rfl, rfl⟩) _ i hi
    exact ⟨i', hi', hbill.trans hbill'⟩
  rw [afterMarking]
  cases hroute : debitRoute cfg io.charge c n with
  | error e => exact .on rfl rfl heffect ⟨hheld, n, h.2⟩
  | ok route =>
      cases route with
      | live providerMandateId => exact .on rfl rfl heffect ⟨hheld, h.2⟩
      | staged gatewayReference =>
          refine .on rfl rfl heffect ⟨hheld, n, h.2, fun hlive => ?_⟩
          rw [debitRoute, if_pos hlive] at hroute
          split at hroute <;> cases hroute

/-- A POST that comes to no settlement debits the bill at most. -/
theorem effect_unanswered {own : Option String} {n : ℕ} {providerMandateId : String}
    {replies : List (Reply (Option String))} {executed : List Debit} (hheld : Held b c)
    (h : Unanswered (debitOf correlationId c providerMandateId n) replies executed) :
    Effect cfg own b { b with debits := b.debits ++ executed } := by
  cases h with
  | nothing => exact .quiet _ ⟨rfl, rfl, rfl, rfl, List.append_nil _⟩
  | executed r first executed unanswered =>
      exact .debited correlationId c providerMandateId n hheld

theorem stands {policy : Policy} (h : Standing cfg io correlationId b pc)
    (hmove : PolicyMove cfg io now correlationId policy b pc pc' b') :
    Stands cfg io correlationId b pc pc' b' := by
  cases hmove with
  | away _ _ _ before after untouched => exact .away after (.quiet _ untouched)
  | invoiced mandateId premium _ invoices after created =>
      exact .away after (.invoice _ invoices created rfl rfl)
  | read invoiceId c reads due =>
      obtain ⟨invoice, hinvoice, rfl⟩ := Option.map_eq_some_iff.mp due.found
      have hid := Table.findUnique_of_findUnique hinvoice (PremiumInvoice.id_mem_keys_iff.mpr rfl)
      exact ⟨.quiet b (.refl b), ⟨invoice, hid, .refl invoice⟩, fun id hid => by cases hid⟩
  | numbered c n => exact ⟨.quiet b (.refl b), h, fun id hid => by cases hid⟩
  | attempted c n attempts created => exact stands_attempted h created
  | marked c n => exact stands_marked h
  | retried c n providerMandateId retries replies rest executed unanswered =>
      obtain ⟨hheld, hattempted⟩ := h
      exact .on rfl rfl (effect_unanswered hheld unanswered) ⟨hheld, hattempted⟩
  | refused c n providerMandateId retries replies e executed unanswered =>
      obtain ⟨hheld, hattempted⟩ := h
      exact .on rfl rfl (effect_unanswered hheld unanswered) ⟨hheld, n, hattempted⟩
  | debited c n providerMandateId retries replies gatewayReference =>
      obtain ⟨hheld, hattempted⟩ := h
      refine .on rfl rfl (.debited correlationId c providerMandateId n hheld)
        ⟨hheld, n, hattempted, fun _ => ?_⟩
      exact ⟨_, List.mem_append_right _ (List.mem_singleton_self _), rfl, rfl, rfl⟩
  | settled c isProvisioned gatewayReference settings =>
      obtain ⟨hheld, n, hattempted, hcollected⟩ := h
      exact .away rfl (.settled io.charge correlationId c n gatewayReference settings rfl hheld
        hattempted hcollected)
  | unsettled c isProvisioned gatewayReference e settings failed =>
      obtain ⟨hheld, n, hattempted, -⟩ := h
      exact .on rfl rfl (.quiet _ ⟨rfl, rfl, rfl, rfl, rfl⟩) ⟨hheld, n, hattempted⟩
  | failed c e =>
      obtain ⟨-, n, hattempted⟩ := h
      exact .away rfl (.failed io.charge correlationId c n e rfl hattempted)

end Steps

/-! ## The runs -/

/-- The attempt that a run of the job has to itself. -/
def owns (io : BillingIo) : BillingPc → Option String
  | .billing policy _ pc => own (io.policy policy.id) pc
  | _ => none

def StandsAt (cfg : BillingConfig) (io : BillingIo) (b : Books) : BillingPc → Prop
  | .billing policy _ pc => Standing cfg (io.policy policy.id) io.correlationId b pc
  | _ => True

/-- The books are audited, every run stands where it should, and no two own one attempt. -/
structure Trail (cfg : BillingConfig) (runs : τ → BillingIo) (s : Cron τ) : Prop where
  audited : Audited cfg s.books
  standing : ∀ t, StandsAt cfg (runs t) s.books (s.pc t)
  alone : ∀ t t' id, id ∈ owns (runs t) (s.pc t) → id ∈ owns (runs t') (s.pc t') → t = t'

section Runs

variable [DecidableEq τ] {cfg : BillingConfig} {runs : τ → BillingIo} {s : Cron τ} {t : τ}

theorem StandsAt.of_keeps {io : BillingIo} {pc : BillingPc} {b b' : Books}
    (h : StandsAt cfg io b pc) (hkeeps : ∀ id ∈ owns io pc, Keeps id b b')
    (hbills : KeepsBills b.premiumInvoices b'.premiumInvoices) : StandsAt cfg io b' pc := by
  cases pc with
  | billing policy policies pc =>
      cases hcharging : charging pc with
      | some c => exact Standing.of_keeps h (hkeeps _ (by rw [owns, own, hcharging]; rfl))
      | none =>
          cases pc with
          | counting c | attempting c n =>
              obtain ⟨i, hi, hbill⟩ := h
              obtain ⟨i', hi', hbill'⟩ := hbills _ i hi
              exact ⟨i', hi', hbill.trans hbill'⟩
          | marking c n | debiting c n providerMandateId retries replies
          | settling c isProvisioned gatewayReference | failing c e => cases hcharging
          | _ => trivial
  | _ => trivial

theorem owns_inPolicy (io : BillingIo) (policy : Policy) (policies : List Policy) (pc : PolicyPc) :
    owns io (inPolicy policy policies pc) = own (io.policy policy.id) pc := by
  cases pc with
  | finished => cases policies <;> rfl
  | _ => rfl

theorem standsAt_inPolicy {io : BillingIo} {policy : Policy} {policies : List Policy}
    {pc : PolicyPc} {b : Books}
    (h : Standing cfg (io.policy policy.id) io.correlationId b pc) :
    StandsAt cfg io b (inPolicy policy policies pc) := by
  cases pc with
  | finished => cases policies <;> trivial
  | _ => exact h

/-- What a run owns is in the table. -/
theorem StandsAt.found {io : BillingIo} {pc : BillingPc} {b : Books} (h : StandsAt cfg io b pc)
    {id : String} (hid : id ∈ owns io pc) : (b.premiumChargeAttempts.findUnique id).isSome := by
  cases pc with
  | billing policy policies pc =>
      have hsome {c : Chargeable} {n : ℕ}
          (hattempted : Attempted (io.policy policy.id).charge io.correlationId b c n)
          (hown : id = (io.policy policy.id).charge.attemptId) :
          (b.premiumChargeAttempts.findUnique id).isSome := by
        rw [hown, hattempted]
        rfl
      cases pc with
      | marking c n => exact hsome h.2 (Option.some.inj hid).symm
      | debiting c n providerMandateId retries replies => exact hsome h.2 (Option.some.inj hid).symm
      | settling c isProvisioned gatewayReference =>
          obtain ⟨-, n, hattempted, -⟩ := h
          exact hsome hattempted (Option.some.inj hid).symm
      | failing c e =>
          obtain ⟨-, n, hattempted⟩ := h
          exact hsome hattempted (Option.some.inj hid).symm
      | _ => cases hid
  | _ => cases hid

/-- A step of one run, seen by all. -/
theorem Trail.move {pc : BillingPc} {b : Books} (h : Trail cfg runs s)
    (heffect : Effect cfg (owns (runs t) (s.pc t)) s.books b)
    (hstanding : StandsAt cfg (runs t) b pc)
    (hfresh : ∀ id ∈ owns (runs t) pc, id ∈ owns (runs t) (s.pc t) ∨
      s.books.premiumChargeAttempts.findUnique id = none) :
    Trail cfg runs ({ s with books := b }.goTo t pc) := by
  have howner : ∀ t' id, id ∈ owns (runs t) pc → id ∈ owns (runs t') (s.pc t') → t' = t := by
    intro t' id hid hid'
    rcases hfresh id hid with hold | hnone
    · exact h.alone t' t id hid' hold
    · have hfound := (h.standing t').found hid'
      rw [hnone] at hfound
      cases hfound
  refine ⟨heffect.audited h.audited, fun t' => ?_, fun t₁ t₂ id h₁ h₂ => ?_⟩
  · simp only [goTo]
    by_cases heq : t' = t
    · rw [heq, Function.update_self]
      exact hstanding
    · rw [Function.update_of_ne heq]
      refine (h.standing t').of_keeps (fun id hid => heffect.keeps fun hown => ?_) heffect.bills
      exact heq (h.alone t' t id hid hown)
  · simp only [goTo] at h₁ h₂
    by_cases heq₁ : t₁ = t
    · by_cases heq₂ : t₂ = t
      · rw [heq₁, heq₂]
      · rw [heq₁, Function.update_self] at h₁
        rw [Function.update_of_ne heq₂] at h₂
        exact absurd (howner t₂ id h₁ h₂) heq₂
    · rw [Function.update_of_ne heq₁] at h₁
      by_cases heq₂ : t₂ = t
      · rw [heq₂, Function.update_self] at h₂
        exact absurd (howner t₁ id h₂ h₁) heq₁
      · rw [Function.update_of_ne heq₂] at h₂
        exact h.alone t₁ t₂ id h₁ h₂

/-- A run that leaves the books as they are and owns nothing afterwards. -/
theorem Trail.leave {pc : BillingPc} (h : Trail cfg runs s)
    (hstanding : StandsAt cfg (runs t) s.books pc) (hnone : owns (runs t) pc = none) :
    Trail cfg runs (s.goTo t pc) :=
  h.move (.quiet s.books (.refl s.books)) hstanding fun id hid => by cases hnone ▸ hid

theorem standsAt_nextPolicy (io : BillingIo) (b : Books) (policies : List Policy) :
    StandsAt cfg io b (nextPolicy policies) ∧ owns io (nextPolicy policies) = none := by
  cases policies with
  | nil => exact ⟨trivial, rfl⟩
  | cons policy policies => exact ⟨trivial, rfl⟩

theorem Trail.runStep (h : Trail cfg runs s) : Trail cfg runs (Cron.runStep cfg (runs t) s t) := by
  rw [Cron.runStep]
  cases hpc : s.pc t with
  | start =>
      dsimp only
      split
      · obtain ⟨hstanding, hnone⟩ := @standsAt_nextPolicy cfg (runs t) s.books
          (billablePolicies (runs t).now s.books.db)
        exact h.leave hstanding hnone
      · exact h.leave trivial rfl
  | billing policy policies pc =>
      have hbefore := h.standing t
      rw [hpc] at hbefore
      obtain ⟨heffect, hstanding, hfresh⟩ := stands hbefore (policyStep_move ..)
      have howns : owns (runs t) (s.pc t) = own ((runs t).policy policy.id) pc := by rw [hpc, owns]
      refine h.move ?_ (standsAt_inPolicy hstanding) fun id hid => ?_
      · rwa [howns]
      · rw [owns_inPolicy] at hid
        rw [howns]
        exact hfresh id hid
  | done => exact h

theorem Trail.step (h : Trail cfg runs s) (e : CronEvent τ) :
    Trail cfg runs (Cron.step cfg runs s e) := by
  cases e with
  | run t => exact h.runStep
  | crash t => exact h.leave trivial rfl

/-- No step takes anything from the ledger. -/
theorem Trail.ledger (h : Trail cfg runs s) (e : CronEvent τ) :
    s.books.premiumLedgerEntries <+: (Cron.step cfg runs s e).books.premiumLedgerEntries := by
  cases e with
  | run t =>
      rw [Cron.step, Cron.runStep]
      have hbefore := h.standing t
      cases hpc : s.pc t with
      | start =>
          dsimp only
          split <;> exact List.prefix_rfl
      | billing policy policies pc =>
          rw [hpc] at hbefore
          exact (stands hbefore (policyStep_move ..)).effect.ledger
      | done => exact List.prefix_rfl
  | crash t => exact List.prefix_rfl

theorem Trail.ledger_final (h : Trail cfg runs s) (events : List (CronEvent τ)) :
    s.books.premiumLedgerEntries <+:
      (Run.final (Cron.step cfg runs) s events).books.premiumLedgerEntries := by
  induction events generalizing s with
  | nil => exact List.prefix_rfl
  | cons e events ih => exact (h.ledger e).trans (ih (h.step e))

theorem Trail.always (h : Trail cfg runs s) (events : List (CronEvent τ)) :
    Run.Always (Cron.step cfg runs) (Trail cfg runs) s events :=
  Run.always_of_step (fun _ e hs _ => hs.step e) h (Run.along_of_forall (fun _ _ => trivial) s)

omit [DecidableEq τ] in
theorem trail_start {b : Books} (hb : Audited cfg b) :
    Trail cfg runs (⟨b, fun _ => .start⟩ : Cron τ) where
  audited := hb
  standing _ := trivial
  alone t t' id hid := by cases hid

end Runs

/-- However runs overlap, fail and crash, the books stay audited, and the ledger is only added
to. -/
theorem always_audited {τ : Type} [DecidableEq τ] (cfg : BillingConfig) (runs : τ → BillingIo)
    (b : Books) (hb : Audited cfg b) (events : List (CronEvent τ)) :
    Run.Always (Cron.step cfg runs) (fun s => Audited cfg s.books) ⟨b, fun _ => .start⟩ events ∧
      ∀ earlier later, events = earlier ++ later →
        (Run.final (Cron.step cfg runs) ⟨b, fun _ => .start⟩ earlier).books.premiumLedgerEntries <+:
          (Run.final (Cron.step cfg runs) ⟨b, fun _ => .start⟩
            events).books.premiumLedgerEntries := by
  have hstart : Trail cfg runs (⟨b, fun _ => .start⟩ : Cron τ) := trail_start hb
  refine ⟨(hstart.always events).mono fun s hs => hs.audited, ?_⟩
  rintro earlier later rfl
  rw [Run.final_append]
  exact (hstart.always earlier).last.ledger_final later

open Incidents Declined in
/-- Both of the runs that overlap debit the invoice, and the ledger has two credits for it. -/
theorem always_audited_overlap :
    Run.Always (step config prompt) (fun s => Audited config s.books) (booksBefore 2) overlap ∧
      credits (Run.final (step config prompt) (booksBefore 2) overlap).books "i1" = 2 := by
  have hb : Audited config Declined.books := audited_of_unbilled rfl rfl rfl rfl
  exact ⟨(always_audited config prompt Declined.books hb overlap).1, by decide⟩

end Aegis.PremiumService.Cron
