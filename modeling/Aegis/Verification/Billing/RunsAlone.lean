import Aegis.Library.Run
import Aegis.Model.ConcurrentBilling
import Aegis.Verification.Billing.Steps

/-! # A billing run by itself

The steps of a run that no other overlaps come to what `runRecurringBilling` leaves. -/

namespace Aegis.PremiumService

open Outcome Gateway

/-! ## The steps of a policy -/

section Policy

variable (cfg : BillingConfig) (io : PolicyIo) (now : ℤ) (correlationId : String)
  (policy : Policy)

/-- The steps from `pc` on come to the books `b'`. -/
inductive Ends : PolicyPc → Books → Books → Prop where
  | finished (b : Books) : Ends .finished b b
  | step (pc : PolicyPc) (b b' : Books)
      (rest : Ends (policyStep cfg io now correlationId policy pc b).1
        (policyStep cfg io now correlationId policy pc b).2 b') : Ends pc b b'

/-- The catch block after a debit or a settlement that came to `outcome`. -/
def caught (c : Chargeable) (outcome : Except Exn Unit × Books) : Books :=
  match outcome with
  | (.ok _, b) => b
  | (.error e, b) =>
      match failInvoice io.charge correlationId c.invoice e b with
      | .error _ => b
      | .ok b => b

variable {cfg io now correlationId policy} {pc : PolicyPc} {b b' : Books}

theorem Ends.of_step {pc' : PolicyPc} {b₁ : Books}
    (hstep : policyStep cfg io now correlationId policy pc b = (pc', b₁))
    (h : Ends cfg io now correlationId policy pc' b₁ b') :
    Ends cfg io now correlationId policy pc b b' := by
  refine .step pc b b' ?_
  rw [hstep]
  exact h

theorem chargeInvoice_snd (c : Chargeable) (n : ℕ) (b : Books) :
    (chargeInvoice cfg io.charge correlationId c n b).2 =
      caught io correlationId c (collectInvoice cfg io.charge correlationId c n b) := by
  rw [chargeInvoice]
  rcases collectInvoice cfg io.charge correlationId c n b with ⟨e | _, b'⟩
  · simp only [caught]
    cases failInvoice io.charge correlationId c.invoice e b' with
    | error e' => rfl
    | ok failed => rfl
  · rfl

theorem ends_failing (c : Chargeable) (e : Exn) (b : Books) :
    Ends cfg io now correlationId policy (.failing c e) b
      (caught io correlationId c (.error e, b)) := by
  cases hfail : failInvoice io.charge correlationId c.invoice e b with
  | error e' =>
      have hcaught : caught io correlationId c (.error e, b) = b := by simp only [caught, hfail]
      rw [hcaught]
      exact .of_step (by rw [policyStep, hfail]) (.finished b)
  | ok failed =>
      have hcaught : caught io correlationId c (.error e, b) = failed := by
        simp only [caught, hfail]
      rw [hcaught]
      exact .of_step (by rw [policyStep, hfail]) (.finished failed)

theorem ends_settling (c : Chargeable) (isProvisioned : Bool) (gatewayReference : String)
    (b : Books) :
    Ends cfg io now correlationId policy (.settling c isProvisioned gatewayReference) b
      (caught io correlationId c
        (settleInvoice io.charge correlationId c.invoice gatewayReference b)) := by
  rcases hsettle : settleInvoice io.charge correlationId c.invoice gatewayReference b with
    ⟨e | _, settled⟩
  · exact .of_step (by rw [policyStep, hsettle]) (ends_failing c e settled)
  · exact .of_step (by rw [policyStep, hsettle]) (.finished settled)

/-! ### The debit -/

/-- What was executed before comes first. -/
theorem withRetry_fetchPost_executed {α : Type} (retries : ℕ) (replies : List (Reply α))
    (executed : List α) :
    withRetry fetchPost retries ⟨replies, executed⟩ =
      ((withRetry fetchPost retries ⟨replies, []⟩).1,
        ⟨(withRetry fetchPost retries ⟨replies, []⟩).2.replies,
          executed ++ (withRetry fetchPost retries ⟨replies, []⟩).2.executed⟩) := by
  induction retries generalizing replies executed with
  | zero => cases replies <;> simp [withRetry, fetchPost]
  | succ retries ih =>
      cases replies with
      | nil =>
          have hnil := ih [] executed
          simpa [withRetry, fetchPost] using hnil
      | cons r replies =>
          cases hresponse : r.response with
          | ok response => simp [withRetry, fetchPost, hresponse]
          | error e =>
              simp only [withRetry, fetchPost, hresponse, List.nil_append]
              rw [ih replies (executed ++ r.executed.toList), ih replies r.executed.toList]
              simp

/-- The books once the POSTs of a debit are over. -/
def executing (correlationId : String) (c : Chargeable) (n : ℕ) (providerMandateId : String)
    (wire : Wire (Option String)) (b : Books) : Books :=
  { b with
    debits := b.debits ++
      wire.executed.map fun _ => debitOf correlationId c providerMandateId n }

/-- The debit and its settlement, `b` being the books before the POSTs. -/
def collecting (io : PolicyIo) (correlationId : String) (c : Chargeable) (n : ℕ)
    (providerMandateId : String) (b : Books)
    (posted : Except Exn (Response (Option String)) × Wire (Option String)) :
    Except Exn Unit × Books :=
  let b := executing correlationId c n providerMandateId posted.2 b
  match posted.1 >>= readReference io.charge.now with
  | .error e => (.error e, b)
  | .ok gatewayReference => settleInvoice io.charge correlationId c.invoice gatewayReference b

/-- The last POST was answered. -/
theorem ends_posted {c : Chargeable} {n : ℕ} {providerMandateId : String} {retries : ℕ}
    {replies : List (Reply (Option String))} {response : Response (Option String)}
    {wire : Wire (Option String)} (hpost : fetchPost ⟨replies, []⟩ = (.ok response, wire))
    (b : Books) :
    Ends cfg io now correlationId policy (.debiting c n providerMandateId retries replies) b
      (caught io correlationId c
        (collecting io correlationId c n providerMandateId b (.ok response, wire))) := by
  cases href : readReference io.charge.now response with
  | error e =>
      have houtcome : collecting io correlationId c n providerMandateId b (.ok response, wire) =
          (.error e, executing correlationId c n providerMandateId wire b) := by
        simp only [collecting, ok_bind, href]
      rw [houtcome]
      exact .of_step (by simp only [policyStep, hpost, afterPost, href]; rfl) (ends_failing c e _)
  | ok gatewayReference =>
      have houtcome : collecting io correlationId c n providerMandateId b (.ok response, wire) =
          settleInvoice io.charge correlationId c.invoice gatewayReference
            (executing correlationId c n providerMandateId wire b) := by
        simp only [collecting, ok_bind, href]
      rw [houtcome]
      exact .of_step (by simp only [policyStep, hpost, afterPost, href]; rfl)
        (ends_settling c false gatewayReference _)

theorem ends_debiting (c : Chargeable) (n : ℕ) (providerMandateId : String) (retries : ℕ)
    (replies : List (Reply (Option String))) (b : Books) :
    Ends cfg io now correlationId policy (.debiting c n providerMandateId retries replies) b
      (caught io correlationId c (collecting io correlationId c n providerMandateId b
        (withRetry fetchPost retries ⟨replies, []⟩))) := by
  induction retries generalizing replies b with
  | zero =>
      rcases hpost : fetchPost ⟨replies, []⟩ with ⟨e | response, wire⟩
      · rw [withRetry, hpost]
        exact .of_step (by simp only [policyStep, hpost, afterPost]; rfl) (ends_failing c e _)
      · rw [withRetry, hpost]
        exact ends_posted hpost b
  | succ retries ih =>
      rcases hpost : fetchPost ⟨replies, []⟩ with ⟨e | response, wire⟩
      · -- what the first POST executed is in the books by the time of the second
        have hretried : collecting io correlationId c n providerMandateId b
            (withRetry fetchPost (retries + 1) ⟨replies, []⟩) =
              collecting io correlationId c n providerMandateId
                (executing correlationId c n providerMandateId wire b)
                (withRetry fetchPost retries ⟨wire.replies, []⟩) := by
          rw [withRetry, hpost]
          simp only
          rw [withRetry_fetchPost_executed retries wire.replies wire.executed]
          simp only [collecting, executing, List.map_append, List.append_assoc]
        rw [hretried]
        exact .of_step (by simp only [policyStep, hpost, afterPost]; rfl) (ih wire.replies _)
      · rw [withRetry, hpost]
        exact ends_posted hpost b

/-! ### The charge and the way to it -/

theorem ends_marked (c : Chargeable) (n : ℕ) (b : Books) :
    Ends cfg io now correlationId policy (afterMarking cfg io c n) b
      (caught io correlationId c (collectInvoice cfg io.charge correlationId c n b)) := by
  have hnone : ({ b with debits := b.debits ++ [] } : Books) = b := by rw [List.append_nil]
  rw [afterMarking, collectInvoice, executeRecurringDebit]
  rcases hroute : debitRoute cfg io.charge c n with e | providerMandateId | gatewayReference
  · simp only [hnone]
    exact ends_failing c e b
  · exact ends_debiting c n providerMandateId 2 io.charge.replies b
  · simp only [hnone]
    exact ends_settling c true gatewayReference b

theorem ends_started (cfg : BillingConfig) (io : PolicyIo) (now : ℤ) (correlationId : String)
    (policy : Policy) (c : Chargeable) (b : Books) :
    Ends cfg io now correlationId policy (.counting c) b
      (match startAttempt io.charge correlationId c.invoice.id b with
      | (.error _, b) => b
      | (.ok n, b) => (chargeInvoice cfg io.charge correlationId c n b).2) := by
  rw [startAttempt]
  by_cases hcount : io.charge.countAttempts = true
  · simp only [hcount, if_true]
    refine .of_step (by simp only [policyStep, hcount, if_true]; rfl) ?_
    generalize attemptCount c.invoice.id b + 1 = n
    cases hcreate : createAttempt io.charge correlationId c.invoice.id n b with
    | error e =>
        simp only
        exact .of_step (by simp only [policyStep, hcreate]) (.finished b)
    | ok created =>
        simp only
        refine .of_step (by simp only [policyStep, hcreate]; rfl) ?_
        cases hmark : markProcessing io.charge correlationId c.invoice.id created with
        | error e =>
            simp only
            exact .of_step (by simp only [policyStep, hmark]) (.finished created)
        | ok marked =>
            simp only [chargeInvoice_snd]
            exact .of_step (by simp only [policyStep, hmark]) (ends_marked c n marked)
  · simp only [hcount]
    exact .of_step (by simp only [policyStep, hcount]; rfl) (.finished b)

theorem ends_charging (invoiceId : String) (b : Books) :
    Ends cfg io now correlationId policy (.charging invoiceId) b
      (processInvoiceCharge cfg io.charge correlationId invoiceId b).2 := by
  rw [processInvoiceCharge]
  by_cases hread : io.charge.readInvoice = true
  · simp only [hread, if_true]
    cases hfound : findChargeable invoiceId b with
    | none => exact .of_step (by simp only [policyStep, hread, hfound, if_true]) (.finished b)
    | some c =>
        cases hsettled : PremiumInvoiceStatus.isSettled c.invoice.status with
        | true =>
            simp only [hsettled, if_true]
            exact .of_step (by simp only [policyStep, hread, hfound, hsettled, if_true])
              (.finished b)
        | false =>
            obtain rfl := Due.id_eq ⟨hfound, hsettled⟩
            have hstarted := ends_started cfg io now correlationId policy c b
            refine .of_step (by simp only [policyStep, hread, hfound, hsettled, if_true]; rfl) ?_
            rcases hstart : startAttempt io.charge correlationId c.invoice.id b with ⟨e | n, b₁⟩
            · simpa [hstart, hsettled] using hstarted
            · simpa [hstart, hsettled] using hstarted
  · simp only [hread]
    exact .of_step (by simp only [policyStep, hread]; rfl) (.finished b)

theorem ends_invoiced (invoice : PremiumInvoice) (b : Books) :
    Ends cfg io now correlationId policy (afterInvoice invoice) b
      (if PremiumInvoiceStatus.isSettled invoice.status then b
        else (processInvoiceCharge cfg io.charge correlationId invoice.id b).2) := by
  rw [afterInvoice]
  by_cases hsettled : PremiumInvoiceStatus.isSettled invoice.status = true
  · rw [if_pos hsettled, if_pos hsettled]
    exact .finished b
  · rw [if_neg hsettled, if_neg hsettled]
    exact ends_charging invoice.id b

theorem ends_invoicing (mandateId : String) (b : Books) :
    Ends cfg io now correlationId policy (.invoicing mandateId) b
      (match ensureCycleInvoice io now correlationId policy mandateId b with
      | (.error _, b) => b
      | (.ok invoice, b) => if PremiumInvoiceStatus.isSettled invoice.status then b
          else (processInvoiceCharge cfg io.charge correlationId invoice.id b).2) := by
  rw [ensureCycleInvoice]
  by_cases hread : io.readInvoice = true
  · simp only [hread, if_true]
    cases hinvoice : cycleInvoice now policy b with
    | some invoice =>
        exact .of_step (by simp only [policyStep, hread, hinvoice, if_true])
          (ends_invoiced invoice b)
    | none =>
        refine .of_step (by simp only [policyStep, hread, hinvoice, if_true]; rfl) ?_
        cases hprice : priceCycle io policy b with
        | error e => exact .of_step (by simp only [policyStep, hprice]) (.finished b)
        | ok priced =>
            obtain ⟨premium, b₁⟩ := priced
            refine .of_step (by simp only [policyStep, hprice]; rfl) ?_
            cases hcreate :
              createInvoice io now correlationId policy mandateId premium.premium b₁ with
            | error e =>
                simp only [hcreate]
                exact .of_step (by simp only [policyStep, hcreate]) (.finished b₁)
            | ok created =>
                obtain ⟨invoice, b₂⟩ := created
                simp only [hcreate]
                exact .of_step (by simp only [policyStep, hcreate]) (ends_invoiced invoice b₂)
  · simp only [hread]
    exact .of_step (by simp only [policyStep, hread]; rfl) (.finished b)

theorem ends_mandated (mandate : BillingMandate) (b : Books) :
    Ends cfg io now correlationId policy (afterMandate now mandate) b
      (if mandate.status ≠ .ACTIVE then b
        else if now < mandate.nextChargeAt then b
        else match ensureCycleInvoice io now correlationId policy mandate.id b with
          | (.error _, b) => b
          | (.ok invoice, b) => if PremiumInvoiceStatus.isSettled invoice.status then b
              else (processInvoiceCharge cfg io.charge correlationId invoice.id b).2) := by
  rw [afterMandate]
  split
  · exact .finished b
  · split
    · exact .finished b
    · exact ends_invoicing mandate.id b

theorem billPolicy_snd {mandate : BillingMandate}
    (h : ensureBillingMandate io now policy b = .ok (mandate, b')) :
    (billPolicy cfg io now correlationId policy b).2 =
      if mandate.status ≠ .ACTIVE then b'
      else if now < mandate.nextChargeAt then b'
      else match ensureCycleInvoice io now correlationId policy mandate.id b' with
        | (.error _, b) => b
        | (.ok invoice, b) => if PremiumInvoiceStatus.isSettled invoice.status then b
            else (processInvoiceCharge cfg io.charge correlationId invoice.id b).2 := by
  rw [billPolicy, h]
  simp only
  split
  · rfl
  · split
    · rfl
    · rcases ensureCycleInvoice io now correlationId policy mandate.id b' with ⟨e | invoice, b₂⟩
      · rfl
      · simp only
        split <;> rfl

/-- The steps of a policy come to what its billing leaves. -/
theorem ends_start (b : Books) :
    Ends cfg io now correlationId policy .start b
      (billPolicy cfg io now correlationId policy b).2 := by
  by_cases hread : io.readMandate = true
  · cases hmandate : existingMandate policy.id b with
    | some mandate =>
        have hensure : ensureBillingMandate io now policy b = .ok (mandate, b) := by
          simp [ensureBillingMandate, require, hread, hmandate]
        rw [billPolicy_snd hensure]
        exact .of_step (by simp only [policyStep, hread, hmandate, if_true])
          (ends_mandated mandate b)
    | none =>
        have hensure : ensureBillingMandate io now policy b = createMandate io now policy b := by
          simp [ensureBillingMandate, require, hread, hmandate]
        refine .of_step (by simp only [policyStep, hread, hmandate, if_true]; rfl) ?_
        cases hcreate : createMandate io now policy b with
        | error e =>
            rw [billPolicy, hensure, hcreate]
            exact .of_step (by simp only [policyStep, hcreate]) (.finished b)
        | ok created =>
            obtain ⟨mandate, b₁⟩ := created
            rw [billPolicy_snd (hensure.trans hcreate)]
            exact .of_step (by simp only [policyStep, hcreate]) (ends_mandated mandate b₁)
  · have hensure : ensureBillingMandate io now policy b = .error Payments.storeDown := by
      simp [ensureBillingMandate, require, hread]
    rw [billPolicy, hensure]
    exact .of_step (by simp only [policyStep, hread]; rfl) (.finished b)

/-- A policy that is finished leaves the books as they are. -/
theorem Ends.books_eq (hpc : pc = .finished)
    (h : Ends cfg io now correlationId policy pc b b') : b' = b := by
  induction h with
  | finished b => rfl
  | step pc b b' rest ih =>
      subst hpc
      exact ih rfl

end Policy

/-! ## The steps of a run -/

namespace Cron

variable {τ : Type} [DecidableEq τ] {cfg : BillingConfig} {runs : τ → BillingIo} {t : τ}

theorem inPolicy_of_ne {pc : PolicyPc} (h : pc ≠ .finished) (policy : Policy)
    (policies : List Policy) : inPolicy policy policies pc = .billing policy policies pc := by
  cases pc with
  | finished => exact absurd rfl h
  | _ => rfl

/-- The steps of a policy, taken by a run, end at the next policy. -/
theorem final_policy {policy : Policy} {policies : List Policy} {pc : PolicyPc} {b b' : Books}
    (h : Ends cfg ((runs t).policy policy.id) (runs t).now (runs t).correlationId policy pc b b')
    (s : Cron τ) (hbooks : s.books = b) (hpc : s.pc t = .billing policy policies pc) :
    ∃ n, Run.final (step cfg runs) s (List.replicate n (.run t)) =
      { s with books := b' }.goTo t (nextPolicy policies) := by
  induction h generalizing s with
  | finished b =>
      refine ⟨1, ?_⟩
      subst hbooks
      simp [step, runStep, hpc, inPolicy]
  | step pc b b' rest ih =>
      subst hbooks
      have hstep : step cfg runs s (.run t) =
          { s with books := (policyStep cfg ((runs t).policy policy.id) (runs t).now
              (runs t).correlationId policy pc s.books).2 }.goTo t
            (inPolicy policy policies (policyStep cfg ((runs t).policy policy.id) (runs t).now
              (runs t).correlationId policy pc s.books).1) := by
        simp only [step, runStep, hpc]
      generalize (policyStep cfg ((runs t).policy policy.id) (runs t).now (runs t).correlationId
        policy pc s.books).1 = pc₁ at hstep rest ih
      generalize (policyStep cfg ((runs t).policy policy.id) (runs t).now (runs t).correlationId
        policy pc s.books).2 = b₁ at hstep rest ih
      by_cases hfinished : pc₁ = .finished
      · obtain rfl := rest.books_eq hfinished
        subst hfinished
        exact ⟨1, hstep⟩
      · rw [inPolicy_of_ne hfinished] at hstep
        obtain ⟨n, hn⟩ := ih (step cfg runs s (.run t)) (by rw [hstep]; rfl)
          (by rw [hstep]; exact Function.update_self ..)
        refine ⟨n + 1, ?_⟩
        rw [List.replicate_succ, Run.final_cons, hn, hstep]
        simp [goTo]

theorem final_policies (cfg : BillingConfig) (runs : τ → BillingIo) (t : τ)
    (policies : List Policy) (s : Cron τ) (hpc : s.pc t = nextPolicy policies) :
    ∃ n, Run.final (step cfg runs) s (List.replicate n (.run t)) =
      { s with books := (billPolicies cfg (runs t) policies s.books).2 }.goTo t .done := by
  induction policies generalizing s with
  | nil =>
      refine ⟨0, ?_⟩
      have hdone : Function.update s.pc t .done = s.pc := by
        rw [← show s.pc t = .done from hpc, Function.update_eq_self]
      simp [goTo, billPolicies, hdone]
  | cons policy policies ih =>
      obtain ⟨n, hn⟩ := final_policy (ends_start s.books) s rfl hpc
      obtain ⟨m, hm⟩ := ih _ (congrArg (fun s => s.pc t) hn |>.trans (Function.update_self ..))
      refine ⟨n + m, ?_⟩
      rw [List.replicate_add, Run.final_append, hm, hn]
      simp [goTo, billPolicies]

/-- A run that no other overlaps leaves what `runRecurringBilling` says. -/
theorem final_alone (s : Cron τ) (hpc : s.pc t = .start) :
    ∃ n, Run.final (step cfg runs) s (List.replicate n (.run t)) =
      { s with books := billingRun cfg s.books (runs t) }.goTo t .done := by
  by_cases hread : (runs t).readPolicies = true
  · have hstep : step cfg runs s (.run t) =
        s.goTo t (nextPolicy (billablePolicies (runs t).now s.books.db)) := by
      simp only [step, runStep, hpc, hread, if_true]
    obtain ⟨n, hn⟩ := final_policies cfg runs t
      (billablePolicies (runs t).now s.books.db) (step cfg runs s (.run t))
      (by rw [hstep]; exact Function.update_self ..)
    refine ⟨n + 1, ?_⟩
    rw [List.replicate_succ, Run.final_cons, hn, hstep]
    simp [goTo, billingRun, runRecurringBilling, hread]
  · refine ⟨1, ?_⟩
    simp [step, runStep, hpc, hread, billingRun, runRecurringBilling]

end Cron

end Aegis.PremiumService
