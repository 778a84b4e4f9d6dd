import Aegis.Verification.Billing.Retries
import Aegis.Verification.Payments.Issuing
import Aegis.Verification.Payments.OnePolicy

/-! # The weeks of a policy that is bought

The order pays for the first week of a policy. A billing run asks the invoices alone what is
paid, and a policy that was just bought has none. -/

namespace Aegis.PremiumService

open Outcome
open Payments (verifyPayment VerifyPaymentDto markOrder)

/-! ## The property -/

/-- The order of the purchase is paid. -/
def orderPaid (dto : VerifyPaymentDto) (db : Db) : Bool :=
  (db.razorpayOrders.findUnique (.razorpayOrderId dto.razorpay_order_id)).any fun o =>
    o.status = .SUCCESS

/-- The entry credits the week `k` of the policy. -/
def pays (p : Policy) (k : ℕ) (b : Books) (e : PremiumLedgerEntry) : Bool :=
  e.direction = "CREDIT" && (b.premiumInvoices.findUnique (.id e.invoiceId)).any fun i =>
    i.policyId = p.id && i.billingCycleStart = p.startDate + k * MS_PER_WEEK

/-- How often the premium of a week was collected. The order pays for the first one. -/
def collections (dto : VerifyPaymentDto) (p : Policy) (b : Books) (k : ℕ) : ℕ :=
  (if k = 0 ∧ orderPaid dto b.db then 1 else 0) + b.premiumLedgerEntries.countP (pays p k b)

def WeeksPaidOnce (dto : VerifyPaymentDto) (p : Policy) (b : Books) : Prop :=
  ∀ k, collections dto p b k ≤ 1

/-- The foreign keys of the invoices and of the ledger. -/
structure Referenced (b : Books) : Prop where
  policies : ∀ i ∈ b.premiumInvoices.rows, (b.db.policies.findUnique i.policyId).isSome
  invoices : ∀ e ∈ b.premiumLedgerEntries, (b.premiumInvoices.findUnique (.id e.invoiceId)).isSome

/-- A run in the first week of the policy collects the premium of that week. -/
def Debited (cfg : BillingConfig) (p : Policy) (b : Books) (io : BillingIo) : Prop :=
  io.now < p.startDate + MS_PER_WEEK →
    ∃ i, cycleInvoice io.now p (billingRun cfg b io) = some i ∧ i.status = .PAID

/-! ## The books of a policy -/

section Books

variable {dto : VerifyPaymentDto} {p policy : Policy} {now : ℤ} {b b' : Books}

/-- The policy is there and its order paid, and the ledger has an entry for each of its invoices
that is PAID and for no other. -/
structure Kept (dto : VerifyPaymentDto) (p : Policy) (b : Books) : Prop where
  policy : p ∈ b.db.policies.rows
  order : orderPaid dto b.db = true
  entries : ∀ e ∈ b.premiumLedgerEntries, ∃ i,
    b.premiumInvoices.findUnique (.id e.invoiceId) = some i ∧ (i.policyId = p.id → i.status = .PAID)
  once : ∀ id i, b.premiumInvoices.findUnique (.id id) = some i → i.policyId = p.id →
    b.premiumLedgerEntries.countP (fun e => e.invoiceId = id) ≤ 1
  credited : ∀ id i, b.premiumInvoices.findUnique (.id id) = some i → i.policyId = p.id →
    i.status = .PAID → ∃ e ∈ b.premiumLedgerEntries, e.direction = "CREDIT" ∧ e.invoiceId = id

theorem Kept.congr (h : Kept dto p b) (same : SameTables b b') : Kept dto p b' := by
  obtain ⟨hpolicy, horder, hentries, honce, hcredited⟩ := h
  constructor
  · rwa [same.policies]
  · rwa [orderPaid, same.razorpayOrders]
  · rwa [same.premiumLedgerEntries, same.premiumInvoices]
  · rwa [same.premiumLedgerEntries, same.premiumInvoices]
  · rwa [same.premiumLedgerEntries, same.premiumInvoices]

/-- An unsettled invoice of the policy has no entry. -/
theorem Kept.no_entry {i : PremiumInvoice} (h : Kept dto p b) (hopen : Open policy b i)
    (hp : i.policyId = p.id) {e : PremiumLedgerEntry} (he : e ∈ b.premiumLedgerEntries) :
    e.invoiceId ≠ i.id := by
  intro hid
  obtain ⟨r, hr, hpaid⟩ := h.entries e he
  rw [hid, hopen.found] at hr
  cases hr
  have hunsettled := hopen.unsettled
  simp [PremiumInvoiceStatus.isSettled, hpaid hp] at hunsettled

theorem findUnique_charged {i r : PremiumInvoice} {id : String} {f : RowUpdate PremiumInvoice.keys}
    (hopen : Open policy b i)
    (hr : (b.premiumInvoices.update (.id i.id) f).findUnique (.id id) = some r) :
    (id = i.id ∧ r = f.apply i) ∨ (id ≠ i.id ∧ b.premiumInvoices.findUnique (.id id) = some r) := by
  rw [findUnique_id_update] at hr
  by_cases hid : id = i.id
  · rw [if_pos hid, hid, hopen.found] at hr
    cases hr
    exact .inl ⟨hid, rfl⟩
  · rw [if_neg hid] at hr
    exact .inr ⟨hid, hr⟩

theorem exists_charged {i r : PremiumInvoice} {id : String} {f : RowUpdate PremiumInvoice.keys}
    (hr : b.premiumInvoices.findUnique (.id id) = some r) :
    ∃ r', (b.premiumInvoices.update (.id i.id) f).findUnique (.id id) = some r' ∧
      (r' = r ∧ id ≠ i.id ∨ r' = f.apply r ∧ id = i.id) := by
  rw [findUnique_id_update, hr]
  by_cases hid : id = i.id
  · exact ⟨f.apply r, if_pos hid, .inr ⟨rfl, hid⟩⟩
  · exact ⟨r, if_neg hid, .inl ⟨rfl, hid⟩⟩

/-- The invoice that a run creates. -/
theorem Kept.invoice {i : PremiumInvoice} {invoices : Table PremiumInvoice.keys}
    (h : Kept dto p b) (hpending : i.status = .PENDING)
    (hcreated : b.premiumInvoices.create i = some invoices) :
    Kept dto p { b with premiumInvoices := invoices } := by
  have hfresh : b.premiumLedgerEntries.countP (fun e => e.invoiceId = i.id) = 0 := by
    refine List.countP_eq_zero.mpr fun e he hid => ?_
    obtain ⟨r, hr, -⟩ := h.entries e he
    have hkey : PremiumInvoiceIndex.id e.invoiceId ∈ i.keys := by
      simpa using hid
    exact (Table.create_eq_some hcreated).1 r (Table.mem_of_findUnique hr) _
      (Table.key_of_findUnique hr) hkey
  have hnew : ∀ id r, invoices.findUnique (.id id) = some r →
      (id = i.id ∧ r = i) ∨ b.premiumInvoices.findUnique (.id id) = some r := by
    intro id r hr
    rw [Table.findUnique_create hcreated] at hr
    split at hr
    · rename_i hkey
      cases hr
      exact .inl ⟨PremiumInvoice.id_mem_keys_iff.mp hkey, rfl⟩
    · exact .inr hr
  refine ⟨h.policy, h.order, ?_, ?_, ?_⟩
  · intro e he
    obtain ⟨r, hr, hpaid⟩ := h.entries e he
    exact ⟨r, Table.findUnique_create_of_some hcreated hr, hpaid⟩
  · intro id r hr hp
    rcases hnew id r hr with ⟨rfl, rfl⟩ | hold
    · exact hfresh.le.trans (Nat.zero_le 1)
    · exact h.once id r hold hp
  · intro id r hr hp hpaid
    rcases hnew id r hr with ⟨rfl, rfl⟩ | hold
    · rw [hpending] at hpaid
      cases hpaid
    · exact h.credited id r hold hp hpaid

/-- A charge that leaves its invoice unpaid. -/
theorem Kept.unpaid {i : PremiumInvoice} {status : PremiumInvoiceStatus}
    {f : RowUpdate PremiumInvoice.keys} {mandates : Table BillingMandate.keys}
    (h : Kept dto p b) (hopen : Open policy b i) (hrefused : status ≠ .PAID)
    (hsets : Sets status f) :
    Kept dto p { b with
      premiumInvoices := b.premiumInvoices.update (.id i.id) f
      billingMandates := mandates } := by
  refine ⟨h.policy, h.order, ?_, ?_, ?_⟩
  · intro e he
    obtain ⟨r, hr, hpaid⟩ := h.entries e he
    obtain ⟨r', hr', ⟨rfl, -⟩ | ⟨rfl, hid⟩⟩ := exists_charged (i := i) (f := f) hr
    · exact ⟨r', hr', hpaid⟩
    · refine ⟨f.apply r, hr', fun hp => ?_⟩
      rw [hid, hopen.found] at hr
      cases hr
      rw [policyId_apply] at hp
      exact absurd hid (h.no_entry hopen hp he)
  · intro id r hr hp
    rcases findUnique_charged hopen hr with ⟨rfl, rfl⟩ | ⟨-, hold⟩
    · exact h.once i.id i hopen.found (by rwa [policyId_apply] at hp)
    · exact h.once id r hold hp
  · intro id r hr hp hpaid
    rcases findUnique_charged hopen hr with ⟨rfl, rfl⟩ | ⟨-, hold⟩
    · exact absurd ((hsets.status i).symm.trans hpaid) hrefused
    · exact h.credited id r hold hp hpaid

/-- A charge that collects its invoice. -/
theorem Kept.paid {i : PremiumInvoice} {f : RowUpdate PremiumInvoice.keys}
    {mandates : Table BillingMandate.keys} (h : Kept dto p b) (hopen : Open policy b i)
    (hsets : Sets .PAID f) (correlationId : String) :
    Kept dto p { b with
      premiumInvoices := b.premiumInvoices.update (.id i.id) f
      billingMandates := mandates
      premiumLedgerEntries := b.premiumLedgerEntries ++ [creditOf correlationId i] } := by
  refine ⟨h.policy, h.order, ?_, ?_, ?_⟩
  · intro e he
    rcases List.mem_append.mp he with he | he
    · obtain ⟨r, hr, hpaid⟩ := h.entries e he
      obtain ⟨r', hr', ⟨rfl, -⟩ | ⟨rfl, -⟩⟩ := exists_charged (i := i) (f := f) hr
      · exact ⟨r', hr', hpaid⟩
      · exact ⟨f.apply r, hr', fun _ => hsets.status r⟩
    · obtain rfl := List.mem_singleton.mp he
      obtain ⟨r', hr', ⟨rfl, hne⟩ | ⟨rfl, -⟩⟩ := exists_charged (i := i) (f := f) hopen.found
      · exact absurd rfl hne
      · exact ⟨f.apply i, hr', fun _ => hsets.status i⟩
  · intro id r hr hp
    rw [List.countP_append]
    rcases findUnique_charged hopen hr with ⟨rfl, rfl⟩ | ⟨hne, hold⟩
    · rw [policyId_apply] at hp
      have hnone : b.premiumLedgerEntries.countP (fun e => e.invoiceId = i.id) = 0 :=
        List.countP_eq_zero.mpr fun e he hid => h.no_entry hopen hp he (of_decide_eq_true hid)
      simp [hnone, creditOf]
    · have hother : (creditOf correlationId i).invoiceId ≠ id := Ne.symm hne
      simpa [hother] using h.once id r hold hp
  · intro id r hr hp hpaid
    rcases findUnique_charged hopen hr with ⟨rfl, rfl⟩ | ⟨-, hold⟩
    · exact ⟨creditOf correlationId i, by simp, rfl, rfl⟩
    · obtain ⟨e, he, hcredit⟩ := h.credited id r hold hp hpaid
      exact ⟨e, List.mem_append_left _ he, hcredit⟩

theorem Kept.step (h : Kept dto p b) (hstep : BillStep policy now b b') : Kept dto p b' := by
  cases hstep with
  | quiet _ same => exact h.congr same
  | mandate m own _ created same =>
      have hbooks : Kept dto p { b with billingMandates := b'.billingMandates } :=
        ⟨h.policy, h.order, h.entries, h.once, h.credited⟩
      exact hbooks.congr same
  | invoice i m own pending cycle mandateId mandate ours _ created same =>
      exact (h.invoice pending created).congr same
  | unpaid i isOpen status refused f g sets keeps _ same =>
      exact (h.unpaid isOpen refused sets).congr same
  | paid i isOpen correlationId f g sets keeps _ same =>
      exact (h.paid isOpen sets correlationId).congr same

/-! ## What is collected for a week -/

/-- The entries of a week are those of its invoice. -/
theorem pays_iff {k : ℕ} {e : PremiumLedgerEntry} : pays p k b e = true ↔ e.direction = "CREDIT" ∧
    ∃ i, b.premiumInvoices.findUnique (.id e.invoiceId) = some i ∧ i.policyId = p.id ∧
      i.billingCycleStart = p.startDate + k * MS_PER_WEEK := by
  simp [pays, Option.any_eq_true]

theorem findUnique_week {i : PremiumInvoice} {id : String} {cycleStart : ℤ}
    (hi : b.premiumInvoices.findUnique (.id id) = some i) (hp : i.policyId = p.id)
    (hstart : i.billingCycleStart = cycleStart) :
    b.premiumInvoices.findUnique (.policyId_billingCycleStart p.id cycleStart) = some i ∧
      i.id = id := by
  have hid := PremiumInvoice.id_mem_keys_iff.mp (Table.key_of_findUnique hi)
  exact ⟨Table.findUnique_of_findUnique hi (by simp [hp, hstart]), hid.symm⟩

/-- The ledger credits a week once at most. -/
theorem Kept.countP_pays_le (h : Kept dto p b) (k : ℕ) :
    b.premiumLedgerEntries.countP (pays p k b) ≤ 1 := by
  cases hweek : b.premiumInvoices.findUnique
      (.policyId_billingCycleStart p.id (p.startDate + k * MS_PER_WEEK)) with
  | none =>
      have hnone : b.premiumLedgerEntries.countP (pays p k b) = 0 := by
        refine List.countP_eq_zero.mpr fun e _ hpays => ?_
        obtain ⟨-, i, hi, hp, hstart⟩ := pays_iff.mp hpays
        rw [(findUnique_week hi hp hstart).1] at hweek
        cases hweek
      omega
  | some i =>
      have hkey := PremiumInvoice.cycle_mem_keys_iff.mp (Table.key_of_findUnique hweek)
      have hfound : b.premiumInvoices.findUnique (.id i.id) = some i :=
        Table.findUnique_of_findUnique hweek (by simp)
      refine le_trans (List.countP_mono_left fun e _ hpays => ?_)
        (h.once i.id i hfound hkey.1.symm)
      obtain ⟨-, j, hj, hp, hstart⟩ := pays_iff.mp hpays
      obtain ⟨hj', hid⟩ := findUnique_week hj hp hstart
      rw [hweek] at hj'
      cases hj'
      exact decide_eq_true hid.symm

/-- No week is paid twice as long as the invoice of the first one is not PAID. -/
theorem Kept.weeksPaidOnce_iff (h : Kept dto p b) : WeeksPaidOnce dto p b ↔
    ∀ i, b.premiumInvoices.findUnique (.policyId_billingCycleStart p.id p.startDate) = some i →
      i.status ≠ .PAID := by
  constructor
  · intro honce i hi hpaid
    have hkey := PremiumInvoice.cycle_mem_keys_iff.mp (Table.key_of_findUnique hi)
    have hfound : b.premiumInvoices.findUnique (.id i.id) = some i :=
      Table.findUnique_of_findUnique hi (by simp)
    obtain ⟨e, he, hcredit, hid⟩ := h.credited i.id i hfound hkey.1.symm hpaid
    have hpays : pays p 0 b e = true :=
      pays_iff.mpr ⟨hcredit, i, hid ▸ hfound, hkey.1.symm, by simp [hkey.2]⟩
    have hcredited : 0 < b.premiumLedgerEntries.countP (pays p 0 b) :=
      List.countP_pos_iff.mpr ⟨e, he, hpays⟩
    have hfirst := honce 0
    simp only [collections, h.order, and_self, if_true] at hfirst
    omega
  · intro hunpaid k
    rw [collections]
    by_cases hk : k = 0
    · have hnone : b.premiumLedgerEntries.countP (pays p k b) = 0 := by
        refine List.countP_eq_zero.mpr fun e he hpays => ?_
        obtain ⟨-, i, hi, hp, hstart⟩ := pays_iff.mp hpays
        obtain ⟨r, hr, hpaid⟩ := h.entries e he
        rw [hi] at hr
        cases hr
        exact hunpaid i (findUnique_week hi hp (by simpa [hk] using hstart)).1 (hpaid hp)
      split <;> omega
    · have hledger := h.countP_pays_le k
      rw [if_neg fun hfirst => hk hfirst.1]
      omega

/-! ## The first week -/

/-- The first week of the policy has no invoice. -/
def Uninvoiced (p : Policy) (b : Books) : Prop :=
  b.premiumInvoices.findUnique (.policyId_billingCycleStart p.id p.startDate) = none

theorem resolveCycleWindow_first {startDate now : ℤ} (h : now < startDate + MS_PER_WEEK) :
    (resolveCycleWindow startDate now).billingCycleStart = startDate := by
  have hweek : 0 < MS_PER_WEEK := by decide
  have hindex : max 0 (now - startDate) / MS_PER_WEEK = 0 :=
    Int.ediv_eq_zero_of_lt (le_max_left _ _) (by omega)
  simp [resolveCycleWindow, hindex]

theorem resolveCycleWindow_later {startDate now : ℤ} (h : startDate + MS_PER_WEEK ≤ now) :
    (resolveCycleWindow startDate now).billingCycleStart ≠ startDate := by
  have hweek : 0 < MS_PER_WEEK := by decide
  have hindex : 1 ≤ max 0 (now - startDate) / MS_PER_WEEK :=
    (Int.le_ediv_iff_mul_le hweek).mpr (by omega)
  have hlater : 0 < max 0 (now - startDate) / MS_PER_WEEK * MS_PER_WEEK :=
    Int.mul_pos (by omega) hweek
  simp only [resolveCycleWindow]
  omega

theorem Kept.uninvoiced_step (h : Kept dto p b) (hnone : Uninvoiced p b)
    (hpolicy : policy.id = p.id → policy = p) (hlate : p.startDate + MS_PER_WEEK ≤ now)
    (hstep : BillStep policy now b b') : Uninvoiced p b' := by
  have hcharged : ∀ (i : PremiumInvoice) (f : RowUpdate PremiumInvoice.keys),
      (b.premiumInvoices.update (.id i.id) f).findUnique
        (.policyId_billingCycleStart p.id p.startDate) = none := by
    intro i f
    rw [Table.findUnique_update, hnone, Option.map_none]
  cases hstep with
  | quiet _ same => rwa [Uninvoiced, same.premiumInvoices]
  | mandate m own _ created same => rwa [Uninvoiced, same.premiumInvoices]
  | invoice i m own pending cycle mandateId mandate ours _ created same =>
      rw [Uninvoiced, Table.findUnique_create created, if_neg, hnone]
      intro hkey
      obtain ⟨hmine, hstart⟩ := PremiumInvoice.cycle_mem_keys_iff.mp hkey
      obtain rfl := hpolicy (own.symm.trans hmine.symm)
      exact resolveCycleWindow_later hlate (cycle.symm.trans hstart.symm)
  | unpaid i isOpen status refused f g sets keeps _ same =>
      rw [Uninvoiced, same.premiumInvoices]
      exact hcharged i f
  | paid i isOpen correlationId f g sets keeps _ same =>
      rw [Uninvoiced, same.premiumInvoices]
      exact hcharged i f

theorem Kept.weeksPaidOnce (h : Kept dto p b) (hnone : Uninvoiced p b) : WeeksPaidOnce dto p b := by
  refine h.weeksPaidOnce_iff.mpr fun i hi => ?_
  rw [hnone] at hi
  cases hi

end Books

/-! ## Runs of billing -/

section Runs

variable {cfg : BillingConfig} {io : BillingIo} {dto : VerifyPaymentDto} {p : Policy} {b : Books}

theorem Kept.billingRun (h : Kept dto p b) : Kept dto p (billingRun cfg b io) :=
  billingRun_preserves h fun _ _ _ _ hb hstep => hb.step hstep

/-- A run after the first week does not invoice it. -/
theorem Kept.billingRun_uninvoiced (h : Kept dto p b) (hnone : Uninvoiced p b)
    (hlate : p.startDate + MS_PER_WEEK ≤ io.now) :
    Uninvoiced p (PremiumService.billingRun cfg b io) := by
  have hpolicy : ∀ policy ∈ billablePolicies io.now b.db, policy.id = p.id → policy = p := by
    intro policy hmem hid
    exact Table.eq_of_mem_keys (k := p.id) (List.mem_of_mem_filter hmem) h.policy
      (by simp [Policy.keys, hid]) (by simp [Policy.keys])
  refine (billingRun_preserves (P := fun b => Kept dto p b ∧ Uninvoiced p b) ⟨h, hnone⟩
    fun policy hmem b b' hb hstep => ?_).2
  exact ⟨hb.1.step hstep, hb.1.uninvoiced_step hb.2 (hpolicy policy hmem) hlate hstep⟩

theorem Kept.always_iff (h : Kept dto p b) (hnone : Uninvoiced p b) {runs : List BillingIo}
    (hdebits : Run.Along (PremiumService.billingRun cfg) (Debited cfg p) b runs) :
    Run.Always (PremiumService.billingRun cfg) (WeeksPaidOnce dto p) b runs ↔
      ∀ io ∈ runs, p.startDate + MS_PER_WEEK ≤ io.now := by
  induction runs generalizing b with
  | nil => simpa using h.weeksPaidOnce hnone
  | cons io runs ih =>
      rw [Run.always_cons, and_iff_right (h.weeksPaidOnce hnone), List.forall_mem_cons]
      by_cases hlate : p.startDate + MS_PER_WEEK ≤ io.now
      · rw [and_iff_right hlate]
        exact ih h.billingRun (h.billingRun_uninvoiced hnone hlate) hdebits.2
      · have hfirst : io.now < p.startDate + MS_PER_WEEK := not_le.mp hlate
        obtain ⟨i, hi, hpaid⟩ := hdebits.1 hfirst
        rw [cycleInvoice, resolveCycleWindow_first hfirst] at hi
        constructor
        · intro halways
          exact absurd hpaid (h.billingRun.weeksPaidOnce_iff.mp halways.initial i hi)
        · rintro ⟨hlate', -⟩
          exact absurd hlate' hlate

end Runs

/-! ## The sale -/

section Sale

variable {cfg : Payments.OrderConfig} {io : Payments.VerifyIo} {userId : String}
  {dto : VerifyPaymentDto} {p : Policy} {db db' : Db}

theorem orderPaid_markOrder {order : RazorpayOrder}
    (horder : db.razorpayOrders.findUnique (.razorpayOrderId dto.razorpay_order_id) = some order) :
    orderPaid dto (markOrder dto order .SUCCESS db) = true := by
  simp [orderPaid, markOrder, Table.findUnique_update, horder, Payments.settleOrder]

/-- A verification that sells a policy leaves its order paid. -/
theorem verifyPayment_sold (h : verifyPayment cfg io userId dto db = (.ok (some p), db'))
    (hnew : db.policies.findUnique p.id = none) :
    p ∈ db'.policies.rows ∧ orderPaid dto db' = true := by
  have hcases := Payments.verifyPayment_cases cfg io userId dto db
  obtain ⟨hresult, rfl⟩ := Prod.ext_iff.mp h
  generalize (verifyPayment cfg io userId dto db).1 = result at hcases hresult
  generalize (verifyPayment cfg io userId dto db).2 = db' at hcases ⊢
  cases hcases with
  | refused e => cases hresult
  | verified order =>
      obtain ⟨_, -, hverified⟩ := bind_eq_ok.mp hresult
      obtain ⟨hmem, -⟩ := Table.findFirstDesc_eq_some (Except.ok.inj hverified)
      exact absurd (by simp [Policy.keys]) ((Table.findUnique_eq_none _ _).mp hnew p hmem)
  | invalid order e => cases hresult
  | failed order plan e => cases hresult
  | lost order plan => cases hresult
  | issued order plan policies reached transaction commit created =>
      cases hresult
      constructor
      · rw [Payments.replenish_policies]
        exact (Table.mem_create created).mpr (.inr rfl)
      · rw [orderPaid, Payments.replenish_orders]
        exact orderPaid_markOrder (Payments.ownOrder_spec reached.own)

end Sale

/-! ## A purchase and the runs after it -/

/-- After the purchase of a policy, as far as the runs of its first week collect what they bill,
no week is paid twice if and only if there is no such run. -/
theorem always_weeksPaidOnce_iff {orders : Payments.OrderConfig} {io : Payments.VerifyIo}
    {userId : String} {dto : VerifyPaymentDto} {p : Policy} {b : Books} {db : Db}
    (hrefs : Referenced b) (hnew : b.db.policies.findUnique p.id = none)
    (hsold : verifyPayment orders io userId dto b.db = (.ok (some p), db))
    {cfg : BillingConfig} {runs : List BillingIo}
    (hdebits : Run.Along (billingRun cfg) (Debited cfg p) { b with db } runs) :
    Run.Always (billingRun cfg) (WeeksPaidOnce dto p) { b with db } runs ↔
      ∀ io ∈ runs, p.startDate + MS_PER_WEEK ≤ io.now := by
  obtain ⟨hpolicy, horder⟩ := verifyPayment_sold hsold hnew
  have hforeign : ∀ i ∈ b.premiumInvoices.rows, i.policyId ≠ p.id := by
    intro i hi hp
    have hsome := hrefs.policies i hi
    rw [hp, hnew] at hsome
    cases hsome
  have hfound : ∀ id i, b.premiumInvoices.findUnique (.id id) = some i → i.policyId ≠ p.id :=
    fun id i hi => hforeign i (Table.mem_of_findUnique hi)
  have hkept : Kept dto p { b with db } := by
    refine ⟨hpolicy, horder, ?_, ?_, ?_⟩
    · intro e he
      obtain ⟨i, hi⟩ := Option.isSome_iff_exists.mp (hrefs.invoices e he)
      exact ⟨i, hi, fun hp => absurd hp (hfound e.invoiceId i hi)⟩
    · intro id i hi hp
      exact absurd hp (hfound id i hi)
    · intro id i hi hp
      exact absurd hp (hfound id i hi)
  refine hkept.always_iff ?_ hdebits
  refine (Table.findUnique_eq_none _ _).mpr fun i hi hkey => ?_
  exact hforeign i hi (PremiumInvoice.cycle_mem_keys_iff.mp hkey).1.symm

namespace FirstWeek

open Payments.Checkout

/-- A plan of four weeks. -/
def plan : WeeklyPlan := { Race.plan with durationDays := 28 }

def shop : Db := { Race.shop with weeklyPlans := .singleton plan }

def books : Books where
  db := shop

def dto : VerifyPaymentDto := ⟨"order_1", "pay_1", "order_1|pay_1"⟩

def bought : Policy := Payments.weeklyPolicy 7200000 "p1" "u1" plan 79

def sold : Books :=
  { books with db := (verifyPayment Race.shopConfig (Race.verifyIo "p1") "u1" dto shop).2 }

theorem sale : verifyPayment Race.shopConfig (Race.verifyIo "p1") "u1" dto books.db =
    (.ok (some bought), sold.db) := by
  have hbought : (verifyPayment Race.shopConfig (Race.verifyIo "p1") "u1" dto shop).1 =
      .ok (some bought) := by decide +kernel
  exact Prod.ext hbought rfl

/-- A staged debit; every operation goes through. -/
def run (now : ℤ) : BillingIo where
  now := now
  runId := "r1"
  readPolicies := true
  policy := fun _ =>
    { readMandate := true
      mandateId := "m1"
      createMandate := true
      readInvoice := true
      premium := { Cover.pricing 5 with now }
      invoiceId := "i1"
      createInvoice := true
      charge := { Rows.chargeIo with now, replies := [] } }

/-- An hour after the sale. -/
def hour : BillingIo := run 10800000

/-- A week after the sale. -/
def week : BillingIo := run 612000000

theorem referenced : Referenced books := by
  constructor
  · intro i hi
    cases hi
  · intro e he
    cases he

end FirstWeek

open FirstWeek in
/-- The run a week after the sale collects the second week. -/
theorem always_weeksPaidOnce_week :
    Run.Always (billingRun {}) (WeeksPaidOnce dto bought) sold [week] ∧
      collections dto bought (billingRun {} sold week) 0 = 1 ∧
      collections dto bought (billingRun {} sold week) 1 = 1 := by
  have hlate : ∀ io ∈ [week], bought.startDate + MS_PER_WEEK ≤ io.now := by decide
  have hdebits : Run.Along (billingRun {}) (Debited {} bought) sold [week] :=
    ⟨fun hfirst => absurd (hlate week (by simp)) (not_le.mpr hfirst), trivial⟩
  exact ⟨(always_weeksPaidOnce_iff referenced rfl sale hdebits).mpr hlate, by decide,
    by decide⟩

open FirstWeek in
/-- An hour after the sale the first week, which the order pays for, is billed and collected. -/
theorem not_always_weeksPaidOnce_hour :
    verifyPayment Payments.Checkout.Race.shopConfig (Payments.Checkout.Race.verifyIo "p1") "u1" dto
        books.db = (.ok (some bought), sold.db) ∧
      bought.startDate ≤ hour.now ∧ hour.now < bought.endDate ∧ Debited {} bought sold hour ∧
      ¬Run.Always (billingRun {}) (WeeksPaidOnce dto bought) sold [hour] := by
  have htwice : collections dto bought (billingRun {} sold hour) 0 = 2 := by decide
  have hpaid : (cycleInvoice hour.now bought (billingRun {} sold hour)).any
      (fun i => i.status = .PAID) = true := by decide
  refine ⟨sale, by decide, by decide, fun _ => ?_, ?_⟩
  · obtain ⟨i, hi, hstatus⟩ := (Option.any_eq_true _ _).mp hpaid
    exact ⟨i, hi, of_decide_eq_true hstatus⟩
  · intro halways
    have honce := halways.last 0
    rw [Run.final_cons, Run.final_nil, htwice] at honce
    omega

end Aegis.PremiumService
