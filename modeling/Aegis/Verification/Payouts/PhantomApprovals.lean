import Aegis.Model.PayoutEndpoints
import Aegis.Verification.Payments.Retry

/-! # Approved payouts and the transfers behind them

Four operations write the status of a ledger row and one of them moves money. -/

namespace Aegis.Payouts

open Outcome RedisState Payments PayoutEndpoints PlansService

/-! ## The property -/

/-- A transfer was executed for the row, and the row carries its id. -/
def Backed (transfers : List Transfer) (r : Payout) : Prop :=
  ∃ t ∈ transfers, t.policyId = r.policyId ∧ t.disruptionEventId = r.disruptionEventId ∧
    r.transactionId = some t.id

instance (transfers : List Transfer) (r : Payout) : Decidable (Backed transfers r) :=
  inferInstanceAs (Decidable (∃ t ∈ transfers, _))

/-- Every approved payout is backed by a transfer. -/
def NoPhantom (w : World) : Prop :=
  ∀ r ∈ w.db.payouts.rows, r.status = .APPROVED → Backed w.transfers r

instance (w : World) : Decidable (NoPhantom w) :=
  inferInstanceAs (Decidable (∀ r ∈ w.db.payouts.rows, _))

theorem Backed.append {transfers : List Transfer} {r : Payout} (h : Backed transfers r)
    (executed : List Transfer) : Backed (transfers ++ executed) r := by
  obtain ⟨t, ht, hrow⟩ := h
  exact ⟨t, List.mem_append_left _ ht, hrow⟩

/-! ## Settlements -/

section Settle

variable {cfg : Payments.Config} {io : Payments.Io} {dto : ParametricPayoutDto} {w : World}

/-- After a call only the claim's own row can be a new one. -/
theorem noPhantom_of_claimAfter (hw : NoPhantom w) {db' : Db} {key : PayoutIdempotencyKey}
    {row : Payout} {executed : List Transfer} (hafter : ClaimAfter cfg dto w.db db' key row)
    (hrow : row.status = .APPROVED → Backed (w.transfers ++ executed) row) :
    NoPhantom ⟨db', w.transfers ++ executed⟩ := by
  intro r hr happroved
  by_cases hclaim : dto.payoutIndex ∈ r.keys
  · obtain rfl : r = row := Table.eq_of_findUnique hafter.row hr hclaim
    exact hrow happroved
  · exact (hw r ((hafter.others.rows r hclaim).mp hr) happroved).append executed

theorem noPhantom_of_callCases {result : Except Exn PayoutResult} {w' : World}
    (h : CallCases cfg io dto w result w') (hw : NoPhantom w) : NoPhantom w' := by
  cases h with
  | refused e => exact hw
  | cached k howner hfound hsuccess => exact hw
  | settled p executed db' hadmitted hrail hafter =>
      refine noPhantom_of_claimAfter hw hafter fun _ => ?_
      obtain ⟨t, ht, hid⟩ := hrail.paid p rfl
      have hkeys := Payout.event_mem_keys_iff.mp (Table.key_of_findUnique hafter.row)
      have hown := hrail.own t ht
      refine ⟨t, List.mem_append_right _ ht, hown.policyId.trans hkeys.1,
        hown.disruptionEventId.trans hkeys.2, ?_⟩
      simp [approvePayout, hid]
  | failed e railResult executed db' hadmitted hrail hcause hafter =>
      refine noPhantom_of_claimAfter hw hafter fun happroved => ?_
      have hstatus : (failedRow io (lockedRow io dto w.db)).status ≠ .APPROVED := by
        unfold failedRow
        split
        · simp [setStatus]
        · simp
      exact absurd happroved hstatus

/-- A settlement approves no row without a transfer, whatever fails in it. -/
theorem noPhantom_processParametricPayout (hw : NoPhantom w) :
    NoPhantom (processParametricPayout cfg io dto w).2 :=
  noPhantom_of_callCases (processParametricPayout_cases cfg io dto w) hw

end Settle

/-! ## The plans page -/

section Page

variable {cfg : PlansService.Config} {io : PurchasedIo} {userId : String} {w : World}

/-- The page would credit the pair although no transfer was made for it: the ML service
approves, and the row is missing or in progress without the id of a transfer. -/
def CreditsUnpaid (cfg : PlansService.Config) (io : PurchasedIo) (userId : String) (w : World)
    (policy : Policy) (disruption : DisruptionEvent) : Prop :=
  shouldBeApproved cfg (io.resolve policy.id) w.db userId = true ∧
    match rowOf w.db policy.id disruption.id with
    | none => True
    | some r => r.status = .PROCESSING ∧ ¬ (Backed w.transfers r ∧ r.transactionId ≠ some "")

instance (policy : Policy) (disruption : DisruptionEvent) :
    Decidable (CreditsUnpaid cfg io userId w policy disruption) := by
  unfold CreditsUnpaid
  split <;> infer_instance

/-- The pair is resolved by the page: the plan covers the event and the driver is eligible. -/
def Resolves (cfg : PlansService.Config) (io : PurchasedIo) (userId : String) (db : Db)
    (policy : Policy) (disruption : DisruptionEvent) : Prop :=
  disruption.type ∈ ((weeklyPlanOf db policy).map WeeklyPlan.eligibleDisruptionTypes).getD [] ∧
    (Eligibility.assertDriverPolicyEligibility cfg.eligibility
      (io.resolve policy.id).readEligibility io.now db userId
      (some (planKeyOf db policy))).isOk = true

instance (db : Db) (policy : Policy) (disruption : DisruptionEvent) :
    Decidable (Resolves cfg io userId db policy disruption) :=
  inferInstanceAs (Decidable (_ ∧ _))

/-- No pair that the page resolves is credited unpaid. -/
def PageOk (cfg : PlansService.Config) (io : PurchasedIo) (userId : String) (w : World) : Prop :=
  ∀ disruption ∈ latestDisruptionOf io.now w.db,
    ∀ policy ∈ w.db.policies.rows, policy.userId = userId → policy.status = .ACTIVE →
      io.now < policy.endDate → Resolves cfg io userId w.db policy disruption →
        ¬ CreditsUnpaid cfg io userId w policy disruption

instance : Decidable (PageOk cfg io userId w) :=
  inferInstanceAs (Decidable (∀ disruption ∈ latestDisruptionOf io.now w.db, _))

/-- The page resolves the pair and would credit it unpaid. -/
def Unpaid (cfg : PlansService.Config) (io : PurchasedIo) (userId : String) (w : World)
    (policy : Policy) (disruption : DisruptionEvent) : Prop :=
  Resolves cfg io userId w.db policy disruption ∧ CreditsUnpaid cfg io userId w policy disruption

/-- What one resolution does to the ledger. -/
inductive Resolved (cfg : PlansService.Config) (io : PurchasedIo) (userId : String) (w : World)
    (policy : Policy) (disruption : DisruptionEvent) : World → Prop where
  | kept : Resolved cfg io userId w policy disruption w
  | created (payouts : Table Payout.keys)
      (hnone : rowOf w.db policy.id disruption.id = none)
      (hcreate : w.db.payouts.create (newPayout io.now (io.resolve policy.id) w.db policy disruption
        (shouldBeApproved cfg (io.resolve policy.id) w.db userId)) = some payouts) :
      Resolved cfg io userId w policy disruption { w with db := { w.db with payouts } }
  | credited (r : Payout) (hrow : rowOf w.db policy.id disruption.id = some r)
      (hprocessing : r.status = .PROCESSING)
      (happroved : shouldBeApproved cfg (io.resolve policy.id) w.db userId = true) :
      Resolved cfg io userId w policy disruption { w with
        db := { w.db with
          payouts := w.db.payouts.update (.id r.id)
            (autoCredit (io.resolve policy.id) w.db policy disruption r) } }

/-- A resolution that changes the ledger is made for an eligible driver. -/
theorem resolvePayoutForPolicy_resolved {policy : Policy} {disruption : DisruptionEvent}
    {shown : Option Payout} {db' : Db}
    (h : resolvePayoutForPolicy cfg io.now (io.resolve policy.id) w.db policy disruption userId =
      .ok (shown, db')) :
    db' = w.db ∨ ((Eligibility.assertDriverPolicyEligibility cfg.eligibility
        (io.resolve policy.id).readEligibility io.now w.db userId
        (some (planKeyOf w.db policy))).isOk = true ∧
      Resolved cfg io userId w policy disruption { w with db := db' }) := by
  unfold resolvePayoutForPolicy at h
  split at h
  · cases h
    exact .inl rfl
  · rename_i standing helig
    refine .inr ⟨isOk_iff.mpr ⟨standing, helig⟩, ?_⟩
    obtain ⟨_, -, h⟩ := bind_eq_ok.mp h
    cases hrow : rowOf w.db policy.id disruption.id with
    | none =>
        simp only [rowOf] at hrow
        simp only [hrow] at h
        obtain ⟨_, -, h⟩ := bind_eq_ok.mp h
        obtain ⟨payouts, hcreate, h⟩ := bind_eq_ok.mp h
        cases h
        exact .created payouts hrow (orThrow_eq_ok.mp hcreate)
    | some r =>
        simp only [rowOf] at hrow
        simp only [hrow] at h
        split at h
        · rename_i hcredit
          obtain ⟨_, -, h⟩ := bind_eq_ok.mp h
          cases h
          simp only [Bool.and_eq_true, decide_eq_true_eq] at hcredit
          exact .credited r hrow hcredit.2 hcredit.1
        · cases h
          exact .kept

theorem index_mem_newPayout {policy : Policy} {disruption : DisruptionEvent} {now : ℤ}
    {io : ResolveIo} {db : Db} {approved : Bool} {policyId : String} :
    PayoutIndex.policyId_disruptionEventId policyId disruption.id ∈
      (newPayout now io db policy disruption approved).keys ↔ policyId = policy.id := by
  simp [Payout.keys, PlansService.newPayout]

/-- A pair that is not credited unpaid keeps the ledger free of phantoms. -/
theorem Resolved.noPhantom {policy : Policy} {disruption : DisruptionEvent} {w' : World}
    (h : Resolved cfg io userId w policy disruption w') (hw : NoPhantom w)
    (hok : ¬ CreditsUnpaid cfg io userId w policy disruption) : NoPhantom w' := by
  cases h with
  | kept => exact hw
  | created payouts hnone hcreate =>
      intro r hr happroved
      rcases (Table.mem_create hcreate).mp hr with hr | rfl
      · exact hw r hr happroved
      · cases hdecision : shouldBeApproved cfg (io.resolve policy.id) w.db userId with
        | false => simp [PlansService.newPayout, hdecision] at happroved
        | true => exact absurd ⟨hdecision, by simp [hnone]⟩ hok
  | credited r hrow hprocessing happroved =>
      intro s hs hstatus
      obtain ⟨r', hr', rfl⟩ := Table.mem_update.mp hs
      by_cases hid : PayoutIndex.id r.id ∈ r'.keys
      · have hown : PayoutIndex.id r.id ∈ r.keys := Payout.id_mem_keys_iff.mpr rfl
        obtain rfl : r = r' := Table.eq_of_mem_keys (Table.mem_of_findUnique hrow) hr' hown hid
        have hbacked : Backed w.transfers r ∧ r.transactionId ≠ some "" := by
          by_contra hnot
          exact hok ⟨happroved, by simp only [hrow]; exact ⟨hprocessing, hnot⟩⟩
        obtain ⟨⟨t, ht, hpolicy, hevent, htransaction⟩, hne⟩ := hbacked
        refine ⟨t, ht, ?_⟩
        rw [if_pos hid]
        refine ⟨hpolicy, hevent, ?_⟩
        have hempty : t.id ≠ "" := fun hempty => hne (by rw [htransaction, hempty])
        simp [autoCredit, transactionIdOr, htransaction, hempty, Option.filter]
      · rw [if_neg hid] at hstatus ⊢
        exact hw r' hr' hstatus

/-- Resolving one pair makes no other pair creditable unpaid. -/
theorem Resolved.not_creditsUnpaid {policy policy' : Policy} {disruption : DisruptionEvent}
    {w' : World} (h : Resolved cfg io userId w policy disruption w')
    (hok : ¬ CreditsUnpaid cfg io userId w policy disruption)
    (hok' : ¬ CreditsUnpaid cfg io userId w policy' disruption) :
    ¬ CreditsUnpaid cfg io userId w' policy' disruption := by
  cases h with
  | kept => exact hok'
  | created payouts hnone hcreate =>
      intro hunpaid
      by_cases hid : policy'.id = policy.id
      · exact hok ⟨by rw [← hid]; exact hunpaid.1, by simp [hnone]⟩
      · refine hok' ⟨hunpaid.1, ?_⟩
        have hfind := Table.findUnique_create hcreate
          (.policyId_disruptionEventId policy'.id disruption.id)
        rw [if_neg (fun hmem => hid (index_mem_newPayout.mp hmem))] at hfind
        have hmatch := hunpaid.2
        simp only [rowOf, hfind] at hmatch
        exact hmatch
  | credited r hrow hprocessing happroved =>
      intro hunpaid
      refine hok' ⟨hunpaid.1, ?_⟩
      have hmatch := hunpaid.2
      simp only [rowOf, Table.findUnique_update] at hmatch ⊢
      cases hrow' : w.db.payouts.findUnique
          (.policyId_disruptionEventId policy'.id disruption.id) with
      | none => trivial
      | some r' =>
          simp only [hrow', Option.map_some] at hmatch
          by_cases hid : PayoutIndex.id r.id ∈ r'.keys
          · rw [if_pos hid] at hmatch
            simp [autoCredit] at hmatch
          · rw [if_neg hid] at hmatch
            exact hmatch

theorem Resolved.resolves_iff {policy policy' : Policy} {disruption : DisruptionEvent}
    {w' : World} (h : Resolved cfg io userId w policy disruption w') :
    Resolves cfg io userId w'.db policy' disruption ↔
      Resolves cfg io userId w.db policy' disruption := by
  cases h <;> rfl

/-- A policy of the page either leaves the ledger alone or is resolved. -/
theorem payoutOfPolicy_db (cfg : PlansService.Config) (io : PurchasedIo) (userId : String)
    (policy : Policy) (latest : Option DisruptionEvent) (eligible : Bool) (db : Db) :
    (payoutOfPolicy cfg io userId policy latest eligible db).2 = db ∨
      ∃ disruption shown, latest = some disruption ∧ eligible = true ∧
        resolvePayoutForPolicy cfg io.now (io.resolve policy.id) db policy disruption userId =
          .ok (shown, (payoutOfPolicy cfg io userId policy latest eligible db).2) := by
  unfold payoutOfPolicy
  dsimp only
  split
  · split
    · exact .inl rfl
    · rename_i h
      exact .inr ⟨_, _, rfl, rfl, h⟩
    · rename_i h
      exact .inr ⟨_, _, rfl, rfl, h⟩
  · split <;> exact .inl rfl
  · split <;> exact .inl rfl

def eligibleFor (db : Db) (policy : Policy) (latest : Option DisruptionEvent) : Bool :=
  (latest.map fun e =>
    (((weeklyPlanOf db policy).map WeeklyPlan.eligibleDisruptionTypes).getD []).contains
      e.type).getD false

/-- The loop stops after a policy that fails and goes on after one that does not. -/
theorem purchasedPolicies_cons (cfg : PlansService.Config) (io : PurchasedIo) (userId : String)
    (latest : Option DisruptionEvent) (policy : Policy) (rest : List Policy) (db : Db) :
    let db' := (payoutOfPolicy cfg io userId policy latest (eligibleFor db policy latest) db).2
    (purchasedPolicies cfg io userId latest (policy :: rest) db).2 = db' ∨
      (purchasedPolicies cfg io userId latest (policy :: rest) db).2 =
        (purchasedPolicies cfg io userId latest rest db').2 := by
  dsimp only
  rw [purchasedPolicies]
  dsimp only [eligibleFor]
  generalize payoutOfPolicy cfg io userId policy latest _ db = turn
  obtain ⟨result, db'⟩ := turn
  cases result with
  | error e => exact .inl rfl
  | ok shown =>
      refine .inr ?_
      dsimp only
      generalize purchasedPolicies cfg io userId latest rest db' = tail
      obtain ⟨shownRest, db''⟩ := tail
      cases shownRest <;> rfl

section Rule

variable {I : World → Prop} {C : World → Policy → DisruptionEvent → Prop}

/-- A turn of the loop, when a resolution keeps `I` under a condition on its policy and keeps the
condition of the other policies. -/
theorem payoutOfPolicy_keeps {policy : Policy} {latest : Option DisruptionEvent}
    (hstep : ∀ w policy disruption w', I w → C w policy disruption →
      Resolves cfg io userId w.db policy disruption →
        Resolved cfg io userId w policy disruption w' →
          I w' ∧ ∀ policy', C w policy' disruption → C w' policy' disruption)
    (hw : I w) (hok : ∀ disruption, latest = some disruption → C w policy disruption) :
    let w' : World := { w with
      db := (payoutOfPolicy cfg io userId policy latest (eligibleFor w.db policy latest) w.db).2 }
    I w' ∧ ∀ disruption, latest = some disruption → ∀ policy', C w policy' disruption →
      C w' policy' disruption := by
  dsimp only
  rcases payoutOfPolicy_db cfg io userId policy latest (eligibleFor w.db policy latest) w.db with
    hdb | ⟨disruption, shown, hlatest, heligible, h⟩
  · rw [hdb]
    exact ⟨hw, fun _ _ _ hother => hother⟩
  · rcases resolvePayoutForPolicy_resolved h with hdb | ⟨helig, hresolved⟩
    · rw [hdb]
      exact ⟨hw, fun _ _ _ hother => hother⟩
    · have htype : disruption.type ∈
          ((weeklyPlanOf w.db policy).map WeeklyPlan.eligibleDisruptionTypes).getD [] := by
        simpa [eligibleFor, hlatest] using heligible
      obtain ⟨hkept, hothers⟩ :=
        hstep w policy disruption _ hw (hok disruption hlatest) ⟨htype, helig⟩ hresolved
      refine ⟨hkept, fun disruption' hlatest' => ?_⟩
      rw [hlatest, Option.some.injEq] at hlatest'
      exact hlatest' ▸ hothers

theorem purchasedPolicies_keeps {latest : Option DisruptionEvent} {policies : List Policy}
    (hstep : ∀ w policy disruption w', I w → C w policy disruption →
      Resolves cfg io userId w.db policy disruption →
        Resolved cfg io userId w policy disruption w' →
          I w' ∧ ∀ policy', C w policy' disruption → C w' policy' disruption)
    (hw : I w)
    (hok : ∀ disruption, latest = some disruption → ∀ policy ∈ policies, C w policy disruption) :
    I { w with db := (purchasedPolicies cfg io userId latest policies w.db).2 } := by
  induction policies generalizing w with
  | nil => exact hw
  | cons policy rest ih =>
      obtain ⟨hturn, hothers⟩ := payoutOfPolicy_keeps hstep hw
        fun disruption hlatest => hok disruption hlatest policy (by simp)
      have htail := ih hturn fun disruption hlatest policy' hmem =>
        hothers disruption hlatest policy' (hok disruption hlatest policy' (by simp [hmem]))
      rcases purchasedPolicies_cons cfg io userId latest policy rest w.db with h | h
      · rw [h]
        exact hturn
      · rw [h]
        exact htail

/-- The rule for a page read. -/
theorem getPurchasedPolicies_keeps
    (hstep : ∀ w policy disruption w', I w → C w policy disruption →
      Resolves cfg io userId w.db policy disruption →
        Resolved cfg io userId w policy disruption w' →
          I w' ∧ ∀ policy', C w policy' disruption → C w' policy' disruption)
    (hw : I w)
    (hok : ∀ disruption ∈ latestDisruptionOf io.now w.db, ∀ policy ∈ w.db.policies.rows,
      policy.userId = userId → policy.status = .ACTIVE → io.now < policy.endDate →
        C w policy disruption) :
    I { w with db := (getPurchasedPolicies cfg io userId w.db).2 } := by
  have hpage : (getPurchasedPolicies cfg io userId w.db).2 = w.db ∨
      (getPurchasedPolicies cfg io userId w.db).2 =
        (purchasedPolicies cfg io userId (latestDisruptionOf io.now w.db)
          (w.db.policies.findManyDesc
            (fun p => p.userId = userId && p.status = .ACTIVE && io.now < p.endDate)
            Policy.createdAt) w.db).2 := by
    unfold getPurchasedPolicies
    split
    · dsimp only
      split <;> rename_i h <;> exact .inr (by rw [h])
    · exact .inl rfl
  rcases hpage with h | h
  · rw [h]
    exact hw
  · rw [h]
    refine purchasedPolicies_keeps hstep hw fun disruption hlatest policy hmem => ?_
    rw [Table.mem_findManyDesc] at hmem
    simp only [Bool.and_eq_true, decide_eq_true_eq] at hmem
    obtain ⟨hmem, ⟨huser, hactive⟩, hend⟩ := hmem
    exact hok disruption hlatest policy hmem huser hactive hend

end Rule

theorem getPurchasedPolicies_noPhantom (hw : NoPhantom w) (hok : PageOk cfg io userId w) :
    NoPhantom { w with db := (getPurchasedPolicies cfg io userId w.db).2 } := by
  refine getPurchasedPolicies_keeps (C := fun w policy disruption =>
      ¬Unpaid cfg io userId w policy disruption) ?_ hw
    fun disruption hlatest policy hmem huser hactive hend hunpaid =>
      hok disruption hlatest policy hmem huser hactive hend hunpaid.1 hunpaid.2
  intro w policy disruption w' hw hok hresolves hresolved
  have hpolicy : ¬CreditsUnpaid cfg io userId w policy disruption := fun hunpaid =>
    hok ⟨hresolves, hunpaid⟩
  refine ⟨hresolved.noPhantom hw hpolicy, fun policy' hother hunpaid => ?_⟩
  exact hresolved.not_creditsUnpaid hpolicy
    (fun hcredits => hother ⟨hresolved.resolves_iff.mp hunpaid.1, hcredits⟩) hunpaid.2

end Page

/-! ## Administrators -/

theorem approve_noPhantom {io : ApproveIo} {claimId : String} {s : System}
    (hs : NoPhantom s.toWorld)
    (hok : ∀ r, s.db.payouts.findUnique (.id claimId) = some r → Backed s.transfers r) :
    NoPhantom (approve io claimId s).2.toWorld := by
  unfold approve
  split
  · split
    · exact hs
    · rename_i claim hclaim
      split
      · intro r hr happroved
        obtain ⟨r', hr', rfl⟩ := Table.mem_update.mp hr
        by_cases hid : PayoutIndex.id claimId ∈ r'.keys
        · rw [if_pos hid]
          exact hok r' ((s.db.payouts.findUnique_eq_some _ r').mpr ⟨hr', hid⟩)
        · rw [if_neg hid] at happroved ⊢
          exact hs r' hr' happroved
      · exact hs
  · exact hs

/-! ## Runs -/

structure Config where
  payments : Payments.Config
  plans : PlansService.Config

inductive Op where
  | processParametricPayout (io : Payments.Io) (dto : ParametricPayoutDto)
  | getPurchasedPolicies (io : PurchasedIo) (userId : String)
  | approve (io : ApproveIo) (claimId : String)
  | initiate (io : InitiateIo) (user : Principal) (dto : PayoutInitiateDto)

section Runs

variable (cfg : Config)

def step (s : System) : Op → System
  | .processParametricPayout io dto => (settleIn cfg.payments io dto s).2
  | .getPurchasedPolicies io userId =>
      { s with db := (PlansService.getPurchasedPolicies cfg.plans io userId s.db).2 }
  | .approve io claimId => (PayoutEndpoints.approve io claimId s).2
  | .initiate io user dto => (PayoutEndpoints.initiate cfg.payments io user dto s).2

/-- The page credits no pair unpaid, and administrators approve paid rows only. -/
def OpOk (s : System) : Op → Prop
  | .processParametricPayout .. | .initiate .. => True
  | .getPurchasedPolicies io userId => PageOk cfg.plans io userId s.toWorld
  | .approve _ claimId =>
      ∀ r ∈ s.db.payouts.findUnique (.id claimId), Backed s.transfers r

instance (s : System) (op : Op) : Decidable (OpOk cfg s op) := by
  cases op <;> unfold OpOk <;> infer_instance

theorem settleIn_noPhantom {io : Payments.Io} {dto : ParametricPayoutDto} {s : System}
    (hs : NoPhantom s.toWorld) : NoPhantom (settleIn cfg.payments io dto s).2.toWorld :=
  noPhantom_processParametricPayout hs

theorem step_noPhantom {s : System} {op : Op} (hs : NoPhantom s.toWorld) (hok : OpOk cfg s op) :
    NoPhantom (step cfg s op).toWorld := by
  cases op with
  | processParametricPayout io dto => exact settleIn_noPhantom cfg hs
  | getPurchasedPolicies io userId => exact getPurchasedPolicies_noPhantom hs hok
  | approve io claimId => exact approve_noPhantom hs hok
  | initiate io user dto =>
      simp only [step, PayoutEndpoints.initiate]
      split
      · exact hs
      · exact settleIn_noPhantom cfg hs

/-- No approval is a phantom in any run whose page reads and approvals meet the condition. -/
theorem always_noPhantom {s : System} {ops : List Op} (hs : NoPhantom s.toWorld)
    (hok : Run.Along (step cfg) (OpOk cfg) s ops) :
    Run.Always (step cfg) (fun s => NoPhantom s.toWorld) s ops :=
  Run.always_of_step (fun _ _ => step_noPhantom cfg) hs hok

end Runs

/-! ## One policy and one event -/

namespace Sample

open Payments.Sample

def weeklyPlan : WeeklyPlan where
  id := "wp1"
  key := "STANDARD"
  name := "Standard"
  price := 29
  maxPayout := 1000
  durationDays := 7
  eligibleDisruptionTypes := ["RAIN"]

/-- The driver was last seen in the city. -/
def analysis : FraudAnalysis where
  id := "fa1"
  userId := "u1"
  gpsLatitude := some 13
  gpsLongitude := some 80
  riskScore := .fin 10
  status := "APPROVED"
  deviceIntegrity := none
  networkType := none
  velocityCheck := none
  accelerometerVariance := none
  barometricPressureHpa := none
  acousticMatchConfidence := none
  isKinematicallyValid := none
  fraudReason := none

def system : System where
  db := { db with
    weeklyPlans := .singleton weeklyPlan
    fraudAnalyses := .singleton analysis
    policies := .singleton { policy with weeklyPlanId := some "wp1" } }

def config : Config where
  payments := cfg
  plans := ⟨{}, fun _ _ => "8860145b5dfffff"⟩

def purchasedIo (trigger : TriggerReply) : PurchasedIo where
  now := 7200000
  readPolicies := true
  readDisruption := true
  resolve _ :=
    { readEligibility := true
      readAnalysis := true
      trigger := fun _ _ => trigger
      readPayout := true
      payoutId := "po1"
      randomBytes := [1, 2, 3]
      writePayout := true }
  readLatestPayout _ := true

/-- The driver opens the plans page while the ML service gives this answer. -/
def pageRead (trigger : TriggerReply) : Op := .getPurchasedPolicies (purchasedIo trigger) "u1"

def approval : Op := .approve ⟨7200000, true, true⟩ "po1"

def initiation : Op := .initiate ⟨7200000, true, true, io⟩ ⟨"u1", .DRIVER⟩ ⟨none, "po1"⟩

end Sample

open Sample in
/-- The row is created by a page read, paid, approved again and read again. -/
theorem always_noPhantom_paid_row :
    Run.Always (step config) (fun s => NoPhantom s.toWorld) system
      [pageRead .unavailable, initiation, approval, pageRead (.answered (some "APPROVED"))] :=
  always_noPhantom config (by decide) (by decide)

open Sample in
/-- Reading the page approves a payout that nobody paid, and so does an administrator. -/
theorem not_always_noPhantom :
    ¬ Run.Always (step config) (fun s => NoPhantom s.toWorld) system
        [pageRead (.answered (some "APPROVED"))] ∧
      ¬ Run.Always (step config) (fun s => NoPhantom s.toWorld) system
        [pageRead .unavailable, approval] := by
  have hpage : ¬ NoPhantom (Run.final (step config) system
      [pageRead (.answered (some "APPROVED"))]).toWorld := by decide
  have happroval : ¬ NoPhantom (Run.final (step config) system
      [pageRead .unavailable, approval]).toWorld := by decide
  exact ⟨fun h => hpage h.last, fun h => happroval h.last⟩

end Aegis.Payouts
