import Aegis.Verification.Billing.OneDebit

/-! # The cycles of a policy

An invoice is for one week of its policy, counted from the start of the policy, and is made in
that week. The weeks follow each other without overlap, so the unique key on the start of a cycle
leaves one invoice for each. -/

namespace Aegis.PremiumService.Cron

open Outcome LiquidityPool

variable {τ : Type}

/-! ## The property -/

/-- The time is one that the invoice is for. -/
def During (i : PremiumInvoice) (time : ℤ) : Prop :=
  i.billingCycleStart ≤ time ∧ time < i.billingCycleEnd

/-- The invoice is for the cycle `k` of the policy and was made in that cycle. -/
structure OfCycle (policy : Policy) (k : ℕ) (i : PremiumInvoice) : Prop where
  own : i.policyId = policy.id
  starts : i.billingCycleStart = policy.startDate + k * MS_PER_WEEK
  ends : i.billingCycleEnd = policy.startDate + (k + 1) * MS_PER_WEEK
  made : During i i.dueAt

/-- Every invoice is for a cycle of a policy of the table. -/
def InCycles (b : Books) : Prop :=
  ∀ i ∈ b.premiumInvoices.rows, ∃ policy ∈ b.db.policies.rows, ∃ k : ℕ, OfCycle policy k i

/-- The invoices lie in the weeks of their policies, those that are new at the time of a run, and
no two share a week. -/
structure Tiled (runs : τ → BillingIo) (before b : Books) : Prop where
  inCycles : InCycles b
  dated : ∀ i ∈ b.premiumInvoices.rows, before.premiumInvoices.findUnique (.id i.id) = none →
    ∃ t, i.dueAt = (runs t).now
  disjoint : ∀ i ∈ b.premiumInvoices.rows, ∀ j ∈ b.premiumInvoices.rows, i.policyId = j.policyId →
    i ≠ j → ∀ time, During i time → ¬During j time
  single : ∀ policy k, ∀ i ∈ b.premiumInvoices.rows, ∀ j ∈ b.premiumInvoices.rows,
    OfCycle policy k i → OfCycle policy k j → i = j

/-! ## The weeks of a policy -/

theorem MS_PER_WEEK_pos : 0 < MS_PER_WEEK := by decide

/-- The window of a time from the start on is the week that the time is in. -/
theorem resolveCycleWindow_spec {startDate now : ℤ} (h : startDate ≤ now) :
    ∃ k : ℕ, resolveCycleWindow startDate now =
        ⟨startDate + k * MS_PER_WEEK, startDate + (k + 1) * MS_PER_WEEK⟩ ∧
      startDate + k * MS_PER_WEEK ≤ now ∧ now < startDate + (k + 1) * MS_PER_WEEK := by
  have helapsed : max 0 (now - startDate) = now - startDate := max_eq_right (by omega)
  have hindex : 0 ≤ (now - startDate) / MS_PER_WEEK :=
    Int.ediv_nonneg (by omega) MS_PER_WEEK_pos.le
  have hk : (((now - startDate) / MS_PER_WEEK).toNat : ℤ) = (now - startDate) / MS_PER_WEEK :=
    Int.toNat_of_nonneg hindex
  have hle := Int.ediv_mul_le (now - startDate) MS_PER_WEEK_pos.ne'
  have hlt := Int.lt_ediv_add_one_mul_self (now - startDate) MS_PER_WEEK_pos
  refine ⟨((now - startDate) / MS_PER_WEEK).toNat, ?_, ?_, ?_⟩
  · simp only [resolveCycleWindow, helapsed, hk, CycleWindow.mk.injEq, true_and]
    ring
  · rw [hk]
    omega
  · rw [hk]
    omega

/-- A time is in one week of a policy alone. -/
theorem OfCycle.cycle_eq {policy : Policy} {k l : ℕ} {i j : PremiumInvoice} {time : ℤ}
    (hi : OfCycle policy k i) (hj : OfCycle policy l j) (htime : During i time)
    (htime' : During j time) : k = l := by
  obtain ⟨hstart, hend⟩ := htime
  obtain ⟨hstart', hend'⟩ := htime'
  rw [hi.starts] at hstart
  rw [hi.ends] at hend
  rw [hj.starts] at hstart'
  rw [hj.ends] at hend'
  simp only [MS_PER_WEEK] at hstart hend hstart' hend'
  omega

/-- The unique key leaves one invoice for a week. -/
theorem OfCycle.eq {policy : Policy} {k : ℕ} {i j : PremiumInvoice} {t : Table PremiumInvoice.keys}
    (hi : OfCycle policy k i) (hj : OfCycle policy k j) (hmem : i ∈ t.rows) (hmem' : j ∈ t.rows) :
    i = j := by
  have hsame : j.policyId = i.policyId := hj.own.trans hi.own.symm
  have hstart : j.billingCycleStart = i.billingCycleStart := hj.starts.trans hi.starts.symm
  refine Table.eq_of_mem_keys (k := .policyId_billingCycleStart i.policyId i.billingCycleStart)
    hmem hmem' (by simp) ?_
  simp [hsame, hstart]

theorem policy_eq {t : Table Policy.keys} {p q : Policy} (hp : p ∈ t.rows) (hq : q ∈ t.rows)
    (hid : p.id = q.id) : p = q :=
  Table.eq_of_mem_keys (k := p.id) hp hq (by simp [Policy.keys]) (by simp [Policy.keys, hid])

theorem InCycles.tiled {runs : τ → BillingIo} {before b : Books} (h : InCycles b)
    (hdated : ∀ i ∈ b.premiumInvoices.rows, before.premiumInvoices.findUnique (.id i.id) = none →
      ∃ t, i.dueAt = (runs t).now) : Tiled runs before b where
  inCycles := h
  dated := hdated
  disjoint i hi j hj hown hne := by
    obtain ⟨p, hp, k, hik⟩ := h i hi
    obtain ⟨q, hq, l, hjl⟩ := h j hj
    obtain rfl : p = q := policy_eq hp hq (by rw [← hik.own, ← hjl.own, hown])
    intro time htime htime'
    obtain rfl := hik.cycle_eq hjl htime htime'
    exact hne (hik.eq hjl hi hj)
  single policy k i hi j hj hik hjk := hik.eq hjk hi hj

/-! ## What billing writes to the invoices -/

/-- A change of an invoice that leaves its times alone; its keys stay anyway. -/
structure KeepsTimes (f : RowUpdate PremiumInvoice.keys) : Prop where
  billingCycleEnd : ∀ i, (f.apply i).billingCycleEnd = i.billingCycleEnd
  dueAt : ∀ i, (f.apply i).dueAt = i.dueAt

/-- One write of the billing of a policy to the invoices. -/
inductive InvoiceWrite (policy : Policy) (now : ℤ) (t : Table PremiumInvoice.keys) :
    Table PremiumInvoice.keys → Prop
  | none : InvoiceWrite policy now t t
  | changed (id : String) (f : RowUpdate PremiumInvoice.keys) (keeps : KeepsTimes f) :
      InvoiceWrite policy now t (t.update (.id id) f)
  | created (io : PolicyIo) (correlationId mandateId : String) (premium : ℚ)
      (t' : Table PremiumInvoice.keys)
      (create : t.create (newInvoice io now correlationId policy mandateId premium) = some t') :
      InvoiceWrite policy now t t'

/-- What a step of the billing of a policy does to the policies and to the invoices. -/
structure Wrote (policy : Policy) (now : ℤ) (b b' : Books) : Prop where
  policies : b'.db.policies = b.db.policies
  invoices : InvoiceWrite policy now b.premiumInvoices b'.premiumInvoices

section Steps

variable {cfg : BillingConfig} {io : PolicyIo} {now : ℤ} {correlationId : String}
  {policy : Policy} {b b' : Books}

theorem Wrote.of_same (hpolicies : b'.db.policies = b.db.policies)
    (hinvoices : b'.premiumInvoices = b.premiumInvoices) : Wrote policy now b b' :=
  ⟨hpolicies, hinvoices ▸ .none⟩

theorem keepsTimes_processing (correlationId : String) : KeepsTimes (processing correlationId) :=
  ⟨fun _ => rfl, fun _ => rfl⟩

theorem keepsTimes_paid (io : ChargeIo) (amountDue : ℚ) : KeepsTimes (paid io amountDue) :=
  ⟨fun _ => rfl, fun _ => rfl⟩

theorem keepsTimes_unpaid (correlationId : String) (e : Exn) :
    KeepsTimes (unpaid correlationId e) :=
  ⟨fun _ => rfl, fun _ => rfl⟩

theorem wrote_of_move {pc pc' : PolicyPc}
    (h : PolicyMove cfg io now correlationId policy b pc pc' b') : Wrote policy now b b' := by
  cases h with
  | away _ _ _ before after untouched => exact .of_same untouched.policies untouched.invoices
  | invoiced mandateId premium _ invoices after created =>
      exact ⟨rfl, .created io correlationId mandateId premium invoices created⟩
  | marked c n => exact ⟨rfl, .changed c.invoice.id _ (keepsTimes_processing correlationId)⟩
  | settled c isProvisioned gatewayReference settings =>
      exact ⟨rfl, .changed c.invoice.id _ (keepsTimes_paid io.charge c.invoice.amountDue)⟩
  | failed c e => exact ⟨rfl, .changed c.invoice.id _ (keepsTimes_unpaid correlationId e)⟩
  | _ => exact .of_same rfl rfl

end Steps

/-! ## The invariant -/

/-- The policies that a run bills or has still to bill. -/
def toBill : BillingPc → List Policy
  | .billing policy policies _ => policy :: policies
  | _ => []

/-- The runs bill policies of the table that have started by then, and the invoices made so far
are dated and lie in their weeks. -/
structure Cycled (runs : τ → BillingIo) (before : Books) (s : Cron τ) : Prop where
  started : ∀ t, ∀ policy ∈ toBill (s.pc t),
    policy ∈ s.books.db.policies.rows ∧ policy.startDate ≤ (runs t).now
  inCycles : InCycles s.books
  dated : ∀ i ∈ s.books.premiumInvoices.rows,
    before.premiumInvoices.findUnique (.id i.id) = none → ∃ t, i.dueAt = (runs t).now

theorem Cycled.tiled {runs : τ → BillingIo} {before : Books} {s : Cron τ}
    (h : Cycled runs before s) : Tiled runs before s.books := h.inCycles.tiled h.dated

theorem cycled_start {b : Books} (runs : τ → BillingIo) (h : InCycles b) :
    Cycled runs b (⟨b, fun _ => .start⟩ : Cron τ) where
  started t policy hpolicy := by cases hpolicy
  inCycles := h
  dated i hi hnone := absurd (by simp) ((Table.findUnique_eq_none _ _).mp hnone i hi)

theorem toBill_nextPolicy (policies : List Policy) : toBill (nextPolicy policies) = policies := by
  cases policies with
  | nil => rfl
  | cons policy policies => rfl

theorem toBill_inPolicy {p policy : Policy} {policies : List Policy} {pc : PolicyPc}
    (h : p ∈ toBill (inPolicy policy policies pc)) : p ∈ policy :: policies := by
  cases pc with
  | finished =>
      rw [inPolicy, toBill_nextPolicy] at h
      exact List.mem_cons_of_mem policy h
  | _ => exact h

theorem times_apply {f : RowUpdate PremiumInvoice.keys} (hf : KeepsTimes f) (i : PremiumInvoice) :
    (f.apply i).id = i.id ∧ (f.apply i).policyId = i.policyId ∧
      (f.apply i).billingCycleStart = i.billingCycleStart ∧
      (f.apply i).billingCycleEnd = i.billingCycleEnd ∧ (f.apply i).dueAt = i.dueAt := by
  have hkeys := f.keys_apply i
  simp only [PremiumInvoice.keys, List.cons.injEq, PremiumInvoiceIndex.id.injEq,
    PremiumInvoiceIndex.policyId_billingCycleStart.injEq, and_true] at hkeys
  exact ⟨hkeys.1, hkeys.2.1, hkeys.2.2, hf.billingCycleEnd i, hf.dueAt i⟩

/-- An invoice of the next books is one of these, perhaps changed, or the new one. -/
theorem InvoiceWrite.cases_mem {policy : Policy} {now : ℤ} {t t' : Table PremiumInvoice.keys}
    (h : InvoiceWrite policy now t t') {i : PremiumInvoice} (hi : i ∈ t'.rows) :
    (∃ j ∈ t.rows, i.id = j.id ∧ i.policyId = j.policyId ∧
        i.billingCycleStart = j.billingCycleStart ∧ i.billingCycleEnd = j.billingCycleEnd ∧
        i.dueAt = j.dueAt) ∨
      i.policyId = policy.id ∧
        i.billingCycleStart = (resolveCycleWindow policy.startDate now).billingCycleStart ∧
        i.billingCycleEnd = (resolveCycleWindow policy.startDate now).billingCycleEnd ∧
        i.dueAt = now := by
  cases h with
  | none => exact .inl ⟨i, hi, rfl, rfl, rfl, rfl, rfl⟩
  | changed id f keeps =>
      obtain ⟨j, hj, rfl⟩ := Table.mem_update.mp hi
      refine .inl ⟨j, hj, ?_⟩
      split
      · exact times_apply keeps j
      · exact ⟨rfl, rfl, rfl, rfl, rfl⟩
  | created io correlationId mandateId premium _ create =>
      rcases (Table.mem_create create).mp hi with hi | rfl
      · exact .inl ⟨i, hi, rfl, rfl, rfl, rfl, rfl⟩
      · exact .inr ⟨rfl, rfl, rfl, rfl⟩

section Invariant

variable {runs : τ → BillingIo} {before : Books} {s : Cron τ} {t : τ}

theorem inCycle_resolved {policy : Policy} {now : ℤ} {i : PremiumInvoice}
    (h : policy.startDate ≤ now) (hown : i.policyId = policy.id)
    (hstart : i.billingCycleStart = (resolveCycleWindow policy.startDate now).billingCycleStart)
    (hend : i.billingCycleEnd = (resolveCycleWindow policy.startDate now).billingCycleEnd)
    (hdue : i.dueAt = now) : ∃ k : ℕ, OfCycle policy k i := by
  obtain ⟨k, hwindow, hinside⟩ := resolveCycleWindow_spec h
  rw [hwindow] at hstart hend
  refine ⟨k, hown, hstart, hend, ?_⟩
  rw [During, hstart, hend, hdue]
  exact hinside

theorem Cycled.write {policy : Policy} {b : Books} (h : Cycled runs before s)
    (hpolicy : policy ∈ s.books.db.policies.rows) (hstarted : policy.startDate ≤ (runs t).now)
    (hwrote : Wrote policy (runs t).now s.books b) : Cycled runs before { s with books := b } where
  started t' p hp := by
    rw [hwrote.policies]
    exact h.started t' p hp
  inCycles i hi := by
    rw [hwrote.policies]
    rcases hwrote.invoices.cases_mem hi with
      ⟨j, hj, -, hown, hstart, hend, hdue⟩ | ⟨hown, hstart, hend, hdue⟩
    · obtain ⟨p, hp, k, hcycle⟩ := h.inCycles j hj
      refine ⟨p, hp, k, hown.trans hcycle.own, hstart.trans hcycle.starts,
        hend.trans hcycle.ends, ?_⟩
      rw [During, hstart, hend, hdue]
      exact hcycle.made
    · exact ⟨policy, hpolicy, inCycle_resolved hstarted hown hstart hend hdue⟩
  dated i hi hnone := by
    rcases hwrote.invoices.cases_mem hi with ⟨j, hj, hid, -, -, -, hdue⟩ | ⟨-, -, -, hdue⟩
    · rw [hdue]
      exact h.dated j hj (hid ▸ hnone)
    · exact ⟨t, hdue⟩

variable [DecidableEq τ]

/-- A run moves to a place with no further policies. -/
theorem Cycled.goTo {pc : BillingPc} (h : Cycled runs before s)
    (hpc : ∀ policy ∈ toBill pc,
      policy ∈ s.books.db.policies.rows ∧ policy.startDate ≤ (runs t).now) :
    Cycled runs before (s.goTo t pc) where
  started t' policy hpolicy := by
    by_cases heq : t' = t
    · subst heq
      simp only [Cron.goTo, Function.update_self] at hpolicy
      exact hpc policy hpolicy
    · simp only [Cron.goTo, Function.update_of_ne heq] at hpolicy
      exact h.started t' policy hpolicy
  inCycles := h.inCycles
  dated := h.dated

/-- A policy that is read for billing has started. -/
theorem started_of_billable {now : ℤ} {db : Db} {policy : Policy}
    (h : policy ∈ billablePolicies now db) :
    policy ∈ db.policies.rows ∧ policy.startDate ≤ now := by
  obtain ⟨hmem, hfilter⟩ := List.mem_filter.mp h
  simp only [Bool.and_eq_true, decide_eq_true_eq] at hfilter
  exact ⟨hmem, hfilter.1.2⟩

theorem Cycled.runStep (cfg : BillingConfig) (h : Cycled runs before s) :
    Cycled runs before (runStep cfg (runs t) s t) := by
  unfold Cron.runStep
  split
  · split
    · refine h.goTo fun policy hpolicy => ?_
      rw [toBill_nextPolicy] at hpolicy
      exact started_of_billable hpolicy
    · exact h.goTo (by simp [toBill])
  · next policy policies pc hpc =>
    have hbill : ∀ p ∈ policy :: policies,
        p ∈ s.books.db.policies.rows ∧ p.startDate ≤ (runs t).now := by
      intro p hp
      exact h.started t p (by rwa [hpc])
    obtain ⟨hmem, hstarted⟩ := hbill policy List.mem_cons_self
    have hwrote := wrote_of_move (policyStep_move cfg ((runs t).policy policy.id) (runs t).now
      (runs t).correlationId policy pc s.books)
    refine (h.write hmem hstarted hwrote).goTo fun p hp => ?_
    simp only [hwrote.policies]
    exact hbill p (toBill_inPolicy hp)
  · exact h

theorem Cycled.step (cfg : BillingConfig) (e : CronEvent τ) (h : Cycled runs before s) :
    Cycled runs before (step cfg runs s e) := by
  cases e with
  | run t => exact h.runStep cfg
  | crash t => exact h.goTo (by simp [toBill])

/-- Whatever runs of billing overlap, the invoices tile the terms of their policies. -/
theorem always_tiled (cfg : BillingConfig) (runs : τ → BillingIo) (b : Books)
    (events : List (CronEvent τ)) (h : InCycles b) :
    Run.Always (Cron.step cfg runs) (fun s => Tiled runs b s.books) ⟨b, fun _ => .start⟩ events :=
  (Run.always_of_step (fun _ e hs _ => hs.step cfg e) (cycled_start runs h)
    (Run.along_of_forall (fun _ _ => trivial) _)).mono fun _ hs => hs.tiled

end Invariant

/-! ## Two weeks of a policy -/

namespace Terms

open Rows Declined

def policy : Policy := { Cover.policy with endDate := 2 * MS_PER_WEEK }

def books : Books :=
  { Declined.books with db := { Cover.store.db with policies := .singleton policy } }

def invoicedAs (invoiceId attemptId : String) (now : ℤ) : BillingIo :=
  { run now attemptId (.answered (some attemptId)) with
    policy := fun id =>
      { (run now attemptId (.answered (some attemptId))).policy id with invoiceId } }

/-- Two runs in the first hour and one in the first hour of the second week. -/
inductive Hour where
  | first
  | same
  | nextWeek
  deriving DecidableEq

def runs : Hour → BillingIo
  | .first => invoicedAs "i1" "a1" 3600000
  | .same => invoicedAs "i2" "a2" 3600000
  | .nextWeek => invoicedAs "i3" "a3" 608400000

/-- Both of the early runs find no invoice of the week and price it before either makes one. -/
def schedule : List (CronEvent Hour) :=
  List.replicate 4 (.run .first) ++ List.replicate 4 (.run .same) ++
    List.replicate 7 (.run .first) ++ [.run .same] ++ List.replicate 11 (.run .nextWeek)

theorem inCycles_books : InCycles books := by
  intro i hi
  cases hi

end Terms

/-- The second of the early runs makes no invoice, the late one makes that of the second week. -/
theorem always_tiled_terms :
    Run.Always (step Declined.config Terms.runs) (fun s => Tiled Terms.runs Terms.books s.books)
        ⟨Terms.books, fun _ => .start⟩ Terms.schedule ∧
      (Run.final (step Declined.config Terms.runs) ⟨Terms.books, fun _ => .start⟩
        Terms.schedule).books.premiumInvoices.rows.map PremiumInvoice.id = ["i1", "i3"] ∧
      (Run.final (step Declined.config Terms.runs) ⟨Terms.books, fun _ => .start⟩
        Terms.schedule).books.premiumInvoices.rows.map PremiumInvoice.billingCycleStart =
          [0, MS_PER_WEEK] :=
  ⟨always_tiled Declined.config Terms.runs Terms.books Terms.schedule Terms.inCycles_books,
    by decide, by decide⟩

end Aegis.PremiumService.Cron
