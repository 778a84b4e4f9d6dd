import Aegis.Model.Dashboards
import Aegis.Verification.Payouts.Frames
import Aegis.Verification.Payouts.PhantomApprovals

/-! # The balance of the wallet

The wallet looks for a status that no writer of the ledger ever sets, so it shows nothing of
what was transferred. -/

namespace Aegis.WalletService

open Outcome RedisState Payments PlansService PayoutEndpoints Payouts

section Balance

variable (userId : String)

/-- The row was paid out to the driver. -/
def transferred (p : Payout) : Bool := p.status == .APPROVED && p.transferredAt.isSome

def inFlight (p : Payout) : Bool := p.status == .PROCESSING

/-- The amounts of the user's rows that satisfy `q`. -/
def total (db : Db) (q : Payout → Bool) : ℚ :=
  ((db.payouts.rows.filter fun p => ofUser db userId p && q p).map
    fun p => p.approvedPayout.getD 0).sum

/-- Whenever the wallet answers, its balance is what was transferred and its pending amount
what is in flight. -/
def Balanced (s : System) : Prop :=
  ∀ io e, getEarnings io s.db userId = .ok e →
    e.balance = total userId s.db transferred ∧ e.pending = total userId s.db inFlight

/-- No row of the user carries a date of transfer. -/
def NothingTransferred (s : System) : Prop :=
  ∀ p ∈ s.db.payouts.rows, ofUser s.db userId p = true → p.transferredAt = none

variable (cfg : Payouts.Config)

/-- The settlement of a claim under one of the user's policies goes through. -/
def Settles (io : Payments.Io) (dto : ParametricPayoutDto) (s : System) : Prop :=
  (s.db.policies.findUnique dto.policyId).map Policy.userId = some userId ∧
    (processParametricPayout cfg.payments io dto s.toWorld).1.isOk = true

/-- The step transfers nothing to the user: no settlement for one of the user's policies goes
through, and no administrator approves one of the user's rows. -/
def TransfersNothing (s : System) : Op → Prop
  | .processParametricPayout io dto => ¬Settles userId cfg io dto s
  | .getPurchasedPolicies .. => True
  | .approve io claimId =>
      io.readClaim = true → io.writeClaim = true →
        ∀ p, s.db.payouts.findUnique (.id claimId) = some p → ofUser s.db userId p = false
  | .initiate io user dto =>
      ∀ request, prepareInitiate io user dto s = .ok request →
        ¬Settles userId cfg io.settle request s

end Balance

/-! ## One state -/

section State

variable {userId : String} {s : System}

theorem sumOf_transferred (db : Db) (userId : String) : sumOf db userId "TRANSFERRED" = 0 := by
  have hnone : ∀ p : Payout, (p.status.text == "TRANSFERRED") = false := by
    intro p
    cases p.status <;> rfl
  simp [sumOf, hnone]

theorem sumOf_processing (db : Db) (userId : String) :
    sumOf db userId "PROCESSING" = total userId db inFlight := by
  have hsame : ∀ p : Payout, (p.status.text == "PROCESSING") = inFlight p := by
    intro p
    rw [inFlight]
    cases p.status <;> rfl
  simp only [sumOf, total, hsame]

/-- The wallet is balanced exactly where what was transferred adds up to nothing. -/
theorem balanced_iff : Balanced userId s ↔ total userId s.db transferred = 0 := by
  constructor
  · intro h
    have hread := (h ⟨true, true⟩ _ rfl).1
    rw [← hread]
    exact sumOf_transferred s.db userId
  · intro h io e he
    obtain ⟨_, -, he⟩ := bind_eq_ok.mp he
    obtain ⟨_, -, he⟩ := bind_eq_ok.mp he
    cases he
    exact ⟨(sumOf_transferred s.db userId).trans h.symm, sumOf_processing s.db userId⟩

theorem NothingTransferred.balanced (h : NothingTransferred userId s) : Balanced userId s := by
  rw [balanced_iff, total]
  have hnone : (s.db.payouts.rows.filter fun p => ofUser s.db userId p && transferred p) = [] := by
    rw [List.filter_eq_nil_iff]
    intro p hp hq
    obtain ⟨hown, htransferred⟩ := Bool.and_eq_true_iff.mp hq
    simp [transferred, h p hp hown] at htransferred
  rw [hnone]
  rfl

end State

/-! ## The writers -/

section Writers

variable {userId : String} {cfg : Payouts.Config} {s : System}

theorem ofUser_congr {db db' : Db} (h : db'.policies = db.policies) (p : Payout) :
    ofUser db' userId p = ofUser db userId p := by
  rw [ofUser, ofUser, h]

/-- After a settlement only the claim's own row can be a new one. -/
theorem NothingTransferred.claimAfter (h : NothingTransferred userId s) {dto : ParametricPayoutDto}
    {w : World} {key : PayoutIdempotencyKey} {row : Payout}
    (hafter : ClaimAfter cfg.payments dto s.db w.db key row)
    (hpolicies : w.db.policies = s.db.policies)
    (hrow : ofUser s.db userId row = true → row.transferredAt = none) :
    NothingTransferred userId { s with toWorld := w } := by
  intro r hr hown
  rw [ofUser_congr hpolicies] at hown
  by_cases hclaim : dto.payoutIndex ∈ r.keys
  · obtain rfl : r = row := Table.eq_of_findUnique hafter.row hr hclaim
    exact hrow hown
  · exact h r ((hafter.others.rows r hclaim).mp hr) hown

theorem lockedRow_transferredAt (h : NothingTransferred userId s) (io : Payments.Io)
    (dto : ParametricPayoutDto) (hown : ofUser s.db userId (lockedRow io dto s.db) = true) :
    (lockedRow io dto s.db).transferredAt = none := by
  unfold lockedRow at hown ⊢
  cases hfound : rowOf s.db dto.policyId dto.disruptionEventId with
  | none => rfl
  | some r =>
      rw [hfound] at hown
      exact h r (Table.mem_of_findUnique hfound) hown

theorem NothingTransferred.settleIn (h : NothingTransferred userId s) {io : Payments.Io}
    {dto : ParametricPayoutDto} (hnot : ¬Settles userId cfg io dto s) :
    NothingTransferred userId (settleIn cfg.payments io dto s).2 := by
  have hpolicies := (processParametricPayout_frame cfg.payments io dto s.toWorld).policies
  have hcases := processParametricPayout_cases cfg.payments io dto s.toWorld
  change NothingTransferred userId
    { s with toWorld := (processParametricPayout cfg.payments io dto s.toWorld).2 }
  rw [Settles] at hnot
  revert hcases hpolicies hnot
  generalize processParametricPayout cfg.payments io dto s.toWorld = outcome
  obtain ⟨result, w⟩ := outcome
  intro hnot hpolicies hcases
  cases hcases with
  | refused e => exact h
  | cached k howner hfound hsuccess => exact h
  | settled p executed db' hadmitted hrail hafter =>
      refine h.claimAfter hafter hpolicies fun hown => ?_
      have hkeys := Payout.event_mem_keys_iff.mp (Table.key_of_findUnique hafter.row)
      have howner : (s.db.policies.findUnique dto.policyId).map Policy.userId = some userId := by
        rw [ofUser, ← hkeys.1] at hown
        exact beq_iff_eq.mp hown
      exact absurd ⟨howner, rfl⟩ hnot
  | failed e railResult executed db' hadmitted hrail hcause hafter =>
      refine h.claimAfter hafter hpolicies fun hown => ?_
      unfold failedRow at hown ⊢
      split at hown
      · rw [if_pos ‹_›]
        exact lockedRow_transferredAt h io dto hown
      · rw [if_neg ‹_›]
        exact lockedRow_transferredAt h io dto hown

/-- A resolution of the page dates no transfer. -/
theorem NothingTransferred.resolved (h : NothingTransferred userId s) {plans : PlansService.Config}
    {io : PurchasedIo} {reader : String} {policy : Policy} {disruption : DisruptionEvent}
    {w : World}
    (hresolved : Resolved plans io reader s.toWorld policy disruption w) :
    NothingTransferred userId { s with toWorld := w } := by
  cases hresolved with
  | kept => exact h
  | created payouts hnone hcreate =>
      intro r hr hown
      rcases (Table.mem_create hcreate).mp hr with hold | rfl
      · exact h r hold hown
      · rfl
  | credited r hrow hprocessing happroved =>
      intro p hp hown
      obtain ⟨p', hp', rfl⟩ := Table.mem_update.mp hp
      by_cases hid : PayoutIndex.id r.id ∈ p'.keys
      · rw [if_pos hid] at hown ⊢
        exact h p' hp' hown
      · rw [if_neg hid] at hown ⊢
        exact h p' hp' hown

theorem NothingTransferred.getPurchasedPolicies (h : NothingTransferred userId s)
    (plans : PlansService.Config) (io : PurchasedIo) (reader : String) :
    NothingTransferred userId
      { s with db := (PlansService.getPurchasedPolicies plans io reader s.db).2 } :=
  getPurchasedPolicies_keeps (I := fun w => NothingTransferred userId { s with toWorld := w })
    (C := fun _ _ _ => True)
    (fun w _ _ _ hw _ _ hresolved =>
      ⟨NothingTransferred.resolved (s := { s with toWorld := w }) hw hresolved, fun _ _ => trivial⟩)
    h fun _ _ _ _ _ _ _ => trivial

theorem NothingTransferred.approve (h : NothingTransferred userId s) {io : ApproveIo}
    {claimId : String} (hnot : TransfersNothing userId cfg s (.approve io claimId)) :
    NothingTransferred userId (approve io claimId s).2 := by
  unfold PayoutEndpoints.approve
  split
  swap
  · exact h
  rename_i hread
  split
  · exact h
  · rename_i claim hclaim
    split
    swap
    · exact h
    rename_i hwrite
    intro r hr hown
    obtain ⟨r', hr', rfl⟩ := Table.mem_update.mp hr
    by_cases hid : PayoutIndex.id claimId ∈ r'.keys
    · have hfound := (s.db.payouts.findUnique_eq_some _ r').mpr ⟨hr', hid⟩
      rw [if_pos hid] at hown
      have hmine : ofUser s.db userId r' = true := hown
      rw [hnot hread hwrite r' hfound] at hmine
      cases hmine
    · rw [if_neg hid] at hown ⊢
      exact h r' hr' hown

theorem NothingTransferred.step (h : NothingTransferred userId s) {op : Op}
    (hop : TransfersNothing userId cfg s op) :
    NothingTransferred userId (Payouts.step cfg s op) := by
  cases op with
  | processParametricPayout io dto => exact h.settleIn hop
  | getPurchasedPolicies io reader => exact h.getPurchasedPolicies cfg.plans io reader
  | approve io claimId => exact h.approve hop
  | initiate io user dto =>
      simp only [Payouts.step, PayoutEndpoints.initiate]
      split
      · exact h
      · rename_i request hrequest
        exact h.settleIn (hop request hrequest)

end Writers

/-- The wallet is balanced exactly in the states in which what was transferred to the user adds
up to nothing, and so throughout every run that transfers nothing to the user. -/
theorem balanced_unpaid (cfg : Payouts.Config) (userId : String) :
    (∀ s : System, Balanced userId s ↔ total userId s.db transferred = 0) ∧
      ∀ (s : System) (ops : List Op), NothingTransferred userId s →
        Run.Along (Payouts.step cfg) (TransfersNothing userId cfg) s ops →
          Run.Always (Payouts.step cfg) (Balanced userId) s ops := by
  refine ⟨fun s => balanced_iff, fun s ops hs hops => ?_⟩
  have hrun : Run.Always (Payouts.step cfg) (NothingTransferred userId) s ops :=
    Run.always_of_step (fun _ _ h hop => h.step hop) hs hops
  exact hrun.mono fun _ h => h.balanced

open Payouts.Sample in
/-- A page read leaves a payout in flight. -/
theorem balanced_unpaid_pending :
    Run.Always (Payouts.step config) (Balanced "u1") system [pageRead .unavailable] :=
  (balanced_unpaid config "u1").2 system [pageRead .unavailable]
    (fun _ hp => absurd hp List.not_mem_nil) ⟨trivial, trivial⟩

open Payouts.Sample in
/-- A payout is settled, and the wallet still shows nothing. -/
theorem not_balanced_settled :
    ¬Run.Always (Payouts.step config) (Balanced "u1") system
      [pageRead .unavailable, initiation] := by
  intro h
  have hpaid := balanced_iff.mp h.last
  exact absurd hpaid (by decide +kernel)

end Aegis.WalletService
