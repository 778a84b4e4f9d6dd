import Aegis.Verification.Demo.Views

/-! # Settlements beside the demos

A settlement for another driver runs alike in two stores that differ in the driver's rows only, and
one of the driver's own leaves such a store behind. -/

namespace Aegis.DemoFlow

open Outcome Payments

variable {cfg : Payments.Config} {N : Names} {io : Io} {dto : ParametricPayoutDto} {a b db : Db}

/-! ## A settlement for another driver -/

section Others

/-- The settlement is for another driver's policy and for no event of the demos. -/
structure ForOther (N : Names) (dto : ParametricPayoutDto) : Prop where
  driver : dto.userId ≠ N.driver
  policy : N.policy dto.policyId = false
  event : N.event dto.disruptionEventId = false

/-- The ids drawn for a settlement are not among the names. -/
structure DrawsApart (N : Names) (io : Io) : Prop where
  payout : N.payout io.payoutId = false
  claimCase : N.claimCase io.claimCaseId = false

theorem checkPolicy_view (h : DbView cfg N a b) : checkPolicy dto a = checkPolicy dto b := by
  rw [checkPolicy, checkPolicy, h.policies]

theorem findUnique_of_checkPolicy (h : checkPolicy dto db = .ok ()) :
    ∃ policy, db.policies.findUnique dto.policyId = some policy ∧ policy.userId = dto.userId := by
  unfold checkPolicy at h
  split at h
  · rename_i policy hpolicy
    exact ⟨policy, hpolicy, require_eq_ok.mp h⟩
  · cases h

/-- The key of a claim is a name exactly when its policy is. -/
theorem Fits.deterministicId (h : Fits cfg N db) (hchecked : checkPolicy dto db = .ok ()) :
    N.key (dto.deterministicId cfg) = N.policy dto.policyId := by
  obtain ⟨policy, hpolicy, -⟩ := findUnique_of_checkPolicy hchecked
  have hid : dto.policyId = policy.id := by
    simpa [Policy.keys] using Table.key_of_findUnique hpolicy
  rw [hid, ← h.digests policy (Table.mem_of_findUnique hpolicy) dto.disruptionEventId
    dto.eventTimestamp, ParametricPayoutDto.deterministicId, ParametricPayoutDto.claimId, hid]

theorem findIdempotencyKey_view (h : DbView cfg N a b) (hdto : ForOther N dto)
    (hkey : N.key (dto.deterministicId cfg) = false) :
    findIdempotencyKey cfg dto a = findIdempotencyKey cfg dto b := by
  have hid : N.keyIndex (.id (dto.deterministicId cfg)) = false := hkey
  have hcomposite : N.keyIndex dto.compositeIndex = false := decide_eq_false hdto.driver
  rw [findIdempotencyKey, findIdempotencyKey, h.keys.findUnique hid, h.keys.findUnique hcomposite]

theorem DbView.withKeys (h : DbView cfg N a b)
    {payoutIdempotencyKeys keys' : Table PayoutIdempotencyKey.keys}
    (hkeys : Table.Alike N.keyIndex payoutIdempotencyKeys keys') :
    DbView cfg N { a with payoutIdempotencyKeys } { b with payoutIdempotencyKeys := keys' } :=
  { h with
    left := { h.left with keys := hkeys.left }
    right := { h.right with keys := hkeys.right }
    keys := hkeys }

theorem DbView.withCases (h : DbView cfg N a b) {claimCases cases' : Table ClaimCase.keys}
    (hcases : Table.Alike N.claimCaseIndex claimCases cases') :
    DbView cfg N { a with claimCases } { b with claimCases := cases' } :=
  { h with
    left := { h.left with claimCases := hcases.left }
    right := { h.right with claimCases := hcases.right }
    claimCases := hcases }

theorem lockIdempotencyKey_view (h : DbView cfg N a b) (hdto : ForOther N dto)
    (hkey : N.key (dto.deterministicId cfg) = false) :
    Rel (DbView cfg N) (lockIdempotencyKey cfg dto a) (lockIdempotencyKey cfg dto b) := by
  have hid : N.keyIndex (.id (dto.deterministicId cfg)) = false := hkey
  have hnew : ∀ l ∈ (newIdempotencyKey cfg dto).keys, N.keyIndex l = false := by
    intro l hl
    simp only [PayoutIdempotencyKey.keys, newIdempotencyKey, List.mem_cons, List.not_mem_nil,
      or_false] at hl
    rcases hl with rfl | rfl
    · exact hkey
    · exact decide_eq_false hdto.driver
  exact Rel.require_bind fun _ => (Rel.orThrow (h.keys.upsert hid _ hnew) _).bind fun _ _ hkeys =>
    .ok (h.withKeys hkeys)

/-- Rows of another driver's payouts may change in what the names do not speak about. -/
theorem DbView.withPayouts (h : DbView cfg N a b) {payouts payouts' : Table Payout.keys}
    (hpayouts : Table.Alike N.payoutIndex payouts payouts')
    (hleft : ∀ p ∈ payouts.rows, N.policy p.policyId = false → N.event p.disruptionEventId = false)
    (hright : ∀ p ∈ payouts'.rows, N.policy p.policyId = false →
      N.event p.disruptionEventId = false) :
    DbView cfg N { a with payouts } { b with payouts := payouts' } :=
  { h with
    left := { h.left with payouts := hpayouts.left, references := hleft }
    right := { h.right with payouts := hpayouts.right, references := hright }
    payouts := hpayouts }

/-- A change that keeps what a payout is for. -/
def KeepsClaim (f : RowUpdate Payout.keys) : Prop :=
  ∀ p, (f.apply p).policyId = p.policyId ∧ (f.apply p).disruptionEventId = p.disruptionEventId

theorem references_update {t : Table Payout.keys} {k : PayoutIndex} {f : RowUpdate Payout.keys}
    (hf : KeepsClaim f) (h : ∀ p ∈ t.rows, N.policy p.policyId = false →
      N.event p.disruptionEventId = false) :
    ∀ p ∈ (t.update k f).rows, N.policy p.policyId = false →
      N.event p.disruptionEventId = false := by
  intro p hp
  obtain ⟨q, hq, rfl⟩ := Table.mem_update.mp hp
  split
  · rw [(hf q).1, (hf q).2]
    exact h q hq
  · exact h q hq

theorem DbView.updatePayouts (h : DbView cfg N a b) (k : PayoutIndex) {f : RowUpdate Payout.keys}
    (hf : KeepsClaim f) :
    DbView cfg N { a with payouts := a.payouts.update k f }
      { b with payouts := b.payouts.update k f } :=
  h.withPayouts (h.payouts.update k f) (references_update hf h.left.references)
    (references_update hf h.right.references)

theorem keepsClaim_setStatus (status : PayoutStatus) : KeepsClaim (setStatus status) :=
  fun _ => ⟨rfl, rfl⟩

theorem keepsClaim_approvePayout (payoutId : String) (payout : Gateway.RazorpayPayout) :
    KeepsClaim (approvePayout io payoutId payout) := fun _ => ⟨rfl, rfl⟩

/-- The row that is locked is not one of the names. -/
theorem lockPayout_view (h : DbView cfg N a b) (hdto : ForOther N dto) (hio : DrawsApart N io) :
    Rel (fun x y => x.1 = y.1 ∧ N.payout x.1 = false ∧ DbView cfg N x.2 y.2)
      (lockPayout io dto a) (lockPayout io dto b) := by
  have hindex : N.payoutIndex dto.payoutIndex = false := hdto.policy
  unfold lockPayout
  rw [← h.payouts.findUnique hindex]
  cases hfound : a.payouts.findUnique dto.payoutIndex with
  | some payout =>
      refine .ok ⟨rfl, ?_, h.updatePayouts _ (keepsClaim_setStatus .PROCESSING)⟩
      exact h.left.payouts.of_findUnique hindex hfound (Payout.id_mem_keys_iff.mpr rfl)
  | none =>
      have hevent : a.disruptionEvents.findUnique dto.disruptionEventId =
          b.disruptionEvents.findUnique dto.disruptionEventId := h.events.findUnique hdto.event
      have hpolicy : a.policies.findUnique dto.policyId = b.policies.findUnique dto.policyId := by
        rw [h.policies]
      simp only [hpolicy, hevent]
      have hnew : ∀ k ∈ (newPayout io dto).keys, N.payoutIndex k = false := by
        intro k hk
        simp only [Payout.keys, newPayout, List.mem_cons, List.not_mem_nil, or_false] at hk
        rcases hk with rfl | rfl
        · exact hio.payout
        · exact hdto.policy
      have hreferences : ∀ {t t' : Table Payout.keys}, t.create (newPayout io dto) = some t' →
          (∀ p ∈ t.rows, N.policy p.policyId = false → N.event p.disruptionEventId = false) →
          ∀ p ∈ t'.rows, N.policy p.policyId = false → N.event p.disruptionEventId = false := by
        intro t t' hcreate ht p hp
        rcases (Table.mem_create hcreate).mp hp with hp | rfl
        · exact ht p hp
        · exact fun _ => hdto.event
      have hcreate := h.payouts.create hnew
      refine Rel.require_bind fun _ => ?_
      generalize hleft : a.payouts.create (newPayout io dto) = left at hcreate
      generalize hright : b.payouts.create (newPayout io dto) = right at hcreate
      cases hcreate with
      | none => exact .error _
      | some hpayouts =>
          exact .ok ⟨rfl, hio.payout, h.withPayouts hpayouts (hreferences hleft h.left.references)
            (hreferences hright h.right.references)⟩

theorem trackClaimCase_view (h : DbView cfg N a b) (hdto : ForOther N dto)
    (hio : DrawsApart N io) {payoutId : String} (hpayout : N.payout payoutId = false) :
    Rel (DbView cfg N) (trackClaimCase cfg io dto a payoutId)
      (trackClaimCase cfg io dto b payoutId) := by
  have hindex : N.claimCaseIndex dto.claimCaseIndex = false := hdto.policy
  unfold trackClaimCase
  rw [← h.claimCases.findUnique hindex]
  cases a.claimCases.findUnique dto.claimCaseIndex with
  | some _ =>
      have hmoved : ∀ c : ClaimCase, dto.claimCaseIndex ∈ c.keys →
          (∀ l ∈ c.keys, N.claimCaseIndex l = false) →
          ∀ l ∈ ({ c with
            status := .UNDER_REVIEW
            payoutId := some payoutId
            correlationId := some (dto.cid cfg) } : ClaimCase).keys,
        N.claimCaseIndex l = false := by
        intro c _ hc l hl
        simp only [ClaimCase.keys, Option.map_some, Option.toList_some, List.mem_append,
          List.mem_cons, List.not_mem_nil, or_false] at hl
        rcases hl with (rfl | rfl) | rfl
        · exact hc _ (by simp [ClaimCase.keys])
        · exact hc _ (by simp [ClaimCase.keys])
        · exact hpayout
      exact (Rel.orThrow (h.claimCases.modify hindex hmoved) _).bind fun _ _ hcases =>
        .ok (h.withCases hcases)
  | none =>
      have hevent : a.disruptionEvents.findUnique dto.disruptionEventId =
          b.disruptionEvents.findUnique dto.disruptionEventId := h.events.findUnique hdto.event
      have hpolicy : a.policies.findUnique dto.policyId = b.policies.findUnique dto.policyId := by
        rw [h.policies]
      have huser : a.users.findUnique (.id dto.userId) = b.users.findUnique (.id dto.userId) := by
        rw [h.users]
      simp only [huser, hpolicy, hevent]
      have hnew : ∀ k ∈ (newClaimCase cfg io dto payoutId).keys, N.claimCaseIndex k = false := by
        intro k hk
        simp only [ClaimCase.keys, newClaimCase, Option.map_some, Option.toList_some,
          List.mem_append, List.mem_cons, List.not_mem_nil, or_false] at hk
        rcases hk with (rfl | rfl) | rfl
        · exact hio.claimCase
        · exact hdto.policy
        · exact hpayout
      exact Rel.require_bind fun _ =>
        (Rel.orThrow (h.claimCases.create hnew) _).bind fun _ _ hcases =>
        .ok (h.withCases hcases)

/-- What the transaction hands to the gateway is not one of the names. -/
def Apart (N : Names) : PreTx → Prop
  | .gateway payoutId idempotencyId => N.payout payoutId = false ∧ N.key idempotencyId = false
  | .cached .. => True

theorem writeLock_view (h : DbView cfg N a b) (hdto : ForOther N dto) (hio : DrawsApart N io)
    (hkey : N.key (dto.deterministicId cfg) = false) :
    Rel (fun x y => x.1 = y.1 ∧ Apart N x.1 ∧ DbView cfg N x.2 y.2)
      (writeLock cfg io dto a) (writeLock cfg io dto b) := by
  refine (lockIdempotencyKey_view h hdto hkey).bind fun a₁ b₁ h₁ => ?_
  refine (lockPayout_view h₁ hdto hio).bind ?_
  rintro ⟨payoutId, a₂⟩ ⟨payoutId', b₂⟩ ⟨hid, hpayout, h₂⟩
  cases hid
  refine (trackClaimCase_view h₂ hdto hio hpayout).bind fun a₃ b₃ h₃ => ?_
  exact .ok ⟨rfl, ⟨hpayout, hkey⟩, h₃⟩

theorem preTx_view (h : DbView cfg N a b) (hdto : ForOther N dto) (hio : DrawsApart N io) :
    Rel (fun x y => x.1 = y.1 ∧ Apart N x.1 ∧ DbView cfg N x.2 y.2)
      (preTx cfg io dto a) (preTx cfg io dto b) := by
  unfold preTx
  split
  · rw [preGateway, preGateway, ← checkPolicy_view h]
    cases hchecked : checkPolicy dto a with
    | error e => exact .error e
    | ok _ =>
        have hkey : N.key (dto.deterministicId cfg) = false :=
          (h.left.deterministicId hchecked).trans hdto.policy
        simp only [ok_bind]
        rw [← findIdempotencyKey_view h hdto hkey]
        cases findIdempotencyKey cfg dto a with
        | error e => exact .error e
        | ok found =>
            simp only [ok_bind]
            cases found with
            | none => exact writeLock_view h hdto hio hkey
            | some idemp =>
                dsimp only
                cases idemp.payoutState with
                | SUCCESS => exact .ok ⟨rfl, trivial, h⟩
                | PROCESSING => exact .error _
                | PENDING => exact writeLock_view h hdto hio hkey
                | FAILED => exact writeLock_view h hdto hio hkey
  · exact .error _

/-- The stores of two worlds differ in the driver's rows only. -/
def WorldView (cfg : Payments.Config) (N : Names) (w w' : World) : Prop := DbView cfg N w.db w'.db

variable {w w' : World} {payoutId idempotencyId : String}

theorem handshake_view (h : WorldView cfg N w w') (payoutId : String) :
    Twins (WorldView cfg N) (handshake cfg io dto payoutId w)
      (handshake cfg io dto payoutId w') := by
  have huser : loadUser io dto w.db = loadUser io dto w'.db := by
    rw [loadUser, loadUser, DbView.users h]
  have hsetup : loadPayoutSetup io dto w.db = loadPayoutSetup io dto w'.db := by
    rw [loadPayoutSetup, loadPayoutSetup, DbView.kycPayoutSetups h]
  unfold handshake
  rw [← huser]
  cases loadUser io dto w.db with
  | error e => exact ⟨rfl, h⟩
  | ok user =>
      dsimp only
      by_cases hsource : cfg.env.hasSourceAccount = true
      · rw [if_pos hsource, if_pos hsource, ← hsetup]
        cases loadPayoutSetup io dto w.db with
        | error e => exact ⟨rfl, h⟩
        | ok setup => exact ⟨rfl, h⟩
      · rw [if_neg hsource, if_neg hsource]
        by_cases htest : cfg.env.isRazorpayTestMode = true
        · have hsettings := DbView.settings h ⟨by simpa using hsource, htest⟩
          rw [if_pos htest, if_pos htest, ← hsettings]
          cases executeHardenedSettlementPipeline io dto (payoutReference payoutId)
              w.db.systemSettings with
          | error e => exact ⟨rfl, h⟩
          | ok moved =>
              refine ⟨rfl, ?_⟩
              exact { h with
                left := { h.left with }
                right := { h.right with }
                settings := fun _ => rfl }
        · rw [if_neg htest, if_neg htest]
          exact ⟨rfl, h⟩

theorem resolve_view (h : DbView cfg N a b) (hpayout : N.payout payoutId = false)
    (hkey : N.key idempotencyId = false) (payout : Gateway.RazorpayPayout) :
    Rel (DbView cfg N) (resolve io dto payoutId idempotencyId payout a)
      (resolve io dto payoutId idempotencyId payout b) := by
  have hpayoutIndex : N.payoutIndex (.id payoutId) = false := hpayout
  have hkeyIndex : N.keyIndex (.id idempotencyId) = false := hkey
  unfold resolve
  rw [← h.payouts.findUnique hpayoutIndex, ← h.keys.findUnique hkeyIndex]
  refine Rel.require_bind fun _ => Rel.require_bind fun _ => Rel.require_bind fun _ => .ok ?_
  have happrove : KeepsClaim (approvePayout io payoutId payout) :=
    keepsClaim_approvePayout payoutId payout
  exact ((h.updatePayouts (.id payoutId) happrove).withCases
    (h.claimCases.updateMany _ _)).withKeys (h.keys.update _ _)

theorem rollback_view (h : DbView cfg N a b) (e : Exn) :
    DbView cfg N (rollback io payoutId idempotencyId e a)
      (rollback io payoutId idempotencyId e b) := by
  have hkey : DbView cfg N (rollbackKey io idempotencyId e a)
      (rollbackKey io idempotencyId e b) := by
    unfold rollbackKey
    split
    · exact h.withKeys (h.keys.update _ _)
    · exact h
  unfold rollback rollbackRow
  split
  · exact hkey.updatePayouts _ (keepsClaim_setStatus .REJECTED)
  · exact hkey

theorem settle_view (h : WorldView cfg N w w') (hpayout : N.payout payoutId = false)
    (hkey : N.key idempotencyId = false) :
    Twins (WorldView cfg N) (settle cfg io dto payoutId idempotencyId w)
      (settle cfg io dto payoutId idempotencyId w') := by
  have hshake : Twins (WorldView cfg N) (handshake cfg io dto payoutId w)
      (handshake cfg io dto payoutId w') := handshake_view h payoutId
  obtain ⟨hpaid, hview⟩ := hshake
  unfold settle
  generalize handshake cfg io dto payoutId w = outcome at hpaid hview
  generalize handshake cfg io dto payoutId w' = outcome' at hpaid hview
  obtain ⟨paid, v⟩ := outcome
  obtain ⟨paid', v'⟩ := outcome'
  cases hpaid
  dsimp only
  cases paid with
  | error e => exact ⟨rfl, rollback_view hview e⟩
  | ok payout =>
      simp only [ok_bind]
      have hresolved : Rel (DbView cfg N) (resolve io dto payoutId idempotencyId payout v.db)
          (resolve io dto payoutId idempotencyId payout v'.db) :=
        resolve_view hview hpayout hkey payout
      generalize resolve io dto payoutId idempotencyId payout v.db = resolved at hresolved
      generalize resolve io dto payoutId idempotencyId payout v'.db = resolved' at hresolved
      cases hresolved with
      | error e => exact ⟨rfl, rollback_view hview e⟩
      | ok hdb => exact ⟨rfl, hdb⟩

/-- A settlement for another driver has the same outcome in both worlds. -/
theorem processParametricPayout_view (h : WorldView cfg N w w') (hdto : ForOther N dto)
    (hio : DrawsApart N io) :
    Twins (WorldView cfg N) (processParametricPayout cfg io dto w)
      (processParametricPayout cfg io dto w') := by
  have hpre := preTx_view h hdto hio
  unfold processParametricPayout
  generalize preTx cfg io dto w.db = pre at hpre
  generalize preTx cfg io dto w'.db = pre' at hpre
  cases hpre with
  | error e => exact ⟨rfl, h⟩
  | @ok x y hview =>
      obtain ⟨decided, db⟩ := x
      obtain ⟨decided', db'⟩ := y
      obtain ⟨hdecided, hapart, hdb⟩ := hview
      cases hdecided
      cases decided with
      | cached payoutId transferReference => exact ⟨rfl, hdb⟩
      | gateway payoutId idempotencyId =>
          have hworld : WorldView cfg N { w with db } { w' with db := db' } := hdb
          exact settle_view hworld hapart.1 hapart.2

end Others

/-! ## A settlement of the driver -/

section Own

/-- The settlement is for a policy of the driver. -/
structure ForDriver (N : Names) (dto : ParametricPayoutDto) : Prop where
  driver : dto.userId = N.driver
  policy : N.policy dto.policyId = true

/-- The ids drawn for a settlement are names. -/
structure DrawsNames (N : Names) (io : Io) : Prop where
  payout : N.payout io.payoutId = true
  claimCase : N.claimCase io.claimCaseId = true

theorem lockIdempotencyKey_own (h : Fits cfg N a) (hdto : ForDriver N dto)
    (hkey : N.key (dto.deterministicId cfg) = true) (hlock : lockIdempotencyKey cfg dto a = .ok b) :
    DbView cfg N a b := by
  obtain ⟨_, -, hlock⟩ := bind_eq_ok.mp hlock
  obtain ⟨keys, hkeys, hlock⟩ := bind_eq_ok.mp hlock
  cases hlock
  have hnew : ∀ l ∈ (newIdempotencyKey cfg dto).keys, N.keyIndex l = true := by
    intro l hl
    simp only [PayoutIdempotencyKey.keys, newIdempotencyKey, List.mem_cons, List.not_mem_nil,
      or_false] at hl
    rcases hl with rfl | rfl
    · exact hkey
    · exact decide_eq_true hdto.driver
  exact h.view.withKeys (h.keys.upsert_inside
    (PayoutIdempotencyKey.id_mem_keys_iff.mpr rfl) hnew (orThrow_eq_ok.mp hkeys))

theorem Fits.updatePayout (h : Fits cfg N a) {k : PayoutIndex} (hk : N.payoutIndex k = true)
    {f : RowUpdate Payout.keys} (hf : KeepsClaim f) :
    DbView cfg N a { a with payouts := a.payouts.update k f } :=
  h.view.withPayouts (h.payouts.update_inside hk f) h.references (references_update hf h.references)

theorem lockPayout_own (h : Fits cfg N a) (hdto : ForDriver N dto) (hio : DrawsNames N io)
    {payoutId : String} (hlock : lockPayout io dto a = .ok (payoutId, b)) :
    N.payout payoutId = true ∧ DbView cfg N a b := by
  have hindex : N.payoutIndex dto.payoutIndex = true := hdto.policy
  unfold lockPayout at hlock
  split at hlock
  · rename_i payout hfound
    cases hlock
    refine ⟨?_, h.updatePayout hindex (keepsClaim_setStatus .PROCESSING)⟩
    exact (h.payouts payout (Table.mem_of_findUnique hfound) (.id payout.id)
      (Payout.id_mem_keys_iff.mpr rfl) _ (Table.key_of_findUnique hfound)).trans hindex
  · obtain ⟨_, -, hlock⟩ := bind_eq_ok.mp hlock
    obtain ⟨payouts, hpayouts, hlock⟩ := bind_eq_ok.mp hlock
    cases hlock
    have hcreate := orThrow_eq_ok.mp hpayouts
    have hnew : ∀ k ∈ (newPayout io dto).keys, N.payoutIndex k = true := by
      intro k hk
      simp only [Payout.keys, newPayout, List.mem_cons, List.not_mem_nil, or_false] at hk
      rcases hk with rfl | rfl
      · exact hio.payout
      · exact hdto.policy
    refine ⟨hio.payout, h.view.withPayouts (h.payouts.create_inside
      (Payout.id_mem_keys_iff.mpr rfl) hnew hcreate) h.references fun p hp hpolicy => ?_⟩
    rcases (Table.mem_create hcreate).mp hp with hp | rfl
    · exact h.references p hp hpolicy
    · exact absurd (hdto.policy.symm.trans hpolicy) (by simp)

theorem trackClaimCase_own (h : Fits cfg N a) (hdto : ForDriver N dto) (hio : DrawsNames N io)
    {payoutId : String} (hpayout : N.payout payoutId = true)
    (htrack : trackClaimCase cfg io dto a payoutId = .ok b) : DbView cfg N a b := by
  have hindex : N.claimCaseIndex dto.claimCaseIndex = true := hdto.policy
  unfold trackClaimCase at htrack
  split at htrack
  · obtain ⟨claimCases, hcases, htrack⟩ := bind_eq_ok.mp htrack
    cases htrack
    refine h.view.withCases (h.claimCases.modify_inside hindex ?_ (orThrow_eq_ok.mp hcases))
    intro c hc hkeys
    simp only [ClaimCase.keys, ParametricPayoutDto.claimCaseIndex, Option.map_some,
      Option.toList_some, List.mem_append, List.mem_cons, List.not_mem_nil, or_false] at hc hkeys ⊢
    refine ⟨.inl (hc.resolve_right (by simp)), fun l hl => ?_⟩
    rcases hl with hl | rfl
    · exact hkeys l (.inl hl)
    · exact hpayout
  · obtain ⟨_, -, htrack⟩ := bind_eq_ok.mp htrack
    obtain ⟨claimCases, hcases, htrack⟩ := bind_eq_ok.mp htrack
    cases htrack
    have hnew : ∀ k ∈ (newClaimCase cfg io dto payoutId).keys, N.claimCaseIndex k = true := by
      intro k hk
      simp only [ClaimCase.keys, newClaimCase, Option.map_some, Option.toList_some,
        List.mem_append, List.mem_cons, List.not_mem_nil, or_false] at hk
      rcases hk with (rfl | rfl) | rfl
      · exact hio.claimCase
      · exact hdto.policy
      · exact hpayout
    exact h.view.withCases (h.claimCases.create_inside
      (List.mem_append_left _ (List.mem_cons_self ..)) hnew (orThrow_eq_ok.mp hcases))

theorem writeLock_own (h : Fits cfg N a) (hdto : ForDriver N dto) (hio : DrawsNames N io)
    (hkey : N.key (dto.deterministicId cfg) = true) {decided : PreTx}
    (hlock : writeLock cfg io dto a = .ok (decided, b)) :
    (∃ payoutId idempotencyId, decided = .gateway payoutId idempotencyId ∧
      N.payout payoutId = true ∧ N.key idempotencyId = true) ∧ DbView cfg N a b := by
  obtain ⟨a₁, hkeys, hlock⟩ := bind_eq_ok.mp hlock
  obtain ⟨⟨payoutId, a₂⟩, hrow, hlock⟩ := bind_eq_ok.mp hlock
  obtain ⟨a₃, hcase, hlock⟩ := bind_eq_ok.mp hlock
  cases hlock
  have h₁ := lockIdempotencyKey_own h hdto hkey hkeys
  obtain ⟨hpayout, h₂⟩ := lockPayout_own h₁.right hdto hio hrow
  have h₃ := trackClaimCase_own h₂.right hdto hio hpayout hcase
  exact ⟨⟨_, _, rfl, hpayout, hkey⟩, (h₁.trans h₂).trans h₃⟩

theorem preTx_own (h : Fits cfg N a) (hdto : ForDriver N dto) (hio : DrawsNames N io)
    {decided : PreTx} (hpre : preTx cfg io dto a = .ok (decided, b)) :
    (∀ payoutId idempotencyId, decided = .gateway payoutId idempotencyId →
      N.payout payoutId = true ∧ N.key idempotencyId = true) ∧ DbView cfg N a b := by
  unfold preTx at hpre
  split at hpre
  · obtain ⟨_, hchecked, hpre⟩ := bind_eq_ok.mp hpre
    obtain ⟨found, -, hpre⟩ := bind_eq_ok.mp hpre
    have hkey := (h.deterministicId hchecked).trans hdto.policy
    have hwritten : writeLock cfg io dto a = .ok (decided, b) →
        (∀ payoutId idempotencyId, decided = .gateway payoutId idempotencyId →
          N.payout payoutId = true ∧ N.key idempotencyId = true) ∧ DbView cfg N a b := by
      intro hlock
      obtain ⟨⟨payoutId, idempotencyId, rfl, hnames⟩, hview⟩ := writeLock_own h hdto hio hkey hlock
      refine ⟨fun payoutId' idempotencyId' heq => ?_, hview⟩
      cases heq
      exact hnames
    split at hpre
    · exact hwritten hpre
    · split at hpre
      · cases hpre
        exact ⟨by simp, h.view⟩
      · cases hpre
      · exact hwritten hpre
      · exact hwritten hpre
  · cases hpre

theorem handshake_own (h : Fits cfg N w.db) (hpool : ¬DrawsPool cfg.env) (payoutId : String) :
    WorldView cfg N w (handshake cfg io dto payoutId w).2 := by
  unfold handshake
  split
  · exact h.view
  · split
    · split
      · exact h.view
      · exact h.view
    · rename_i hsource
      split
      · rename_i htest
        exact absurd ⟨by simpa using hsource, htest⟩ hpool
      · exact h.view

theorem resolve_own (h : Fits cfg N a) (hdto : ForDriver N dto) (hpayout : N.payout payoutId = true)
    (hkey : N.key idempotencyId = true) {payout : Gateway.RazorpayPayout}
    (hresolve : resolve io dto payoutId idempotencyId payout a = .ok b) : DbView cfg N a b := by
  obtain ⟨_, -, hresolve⟩ := bind_eq_ok.mp hresolve
  obtain ⟨_, -, hresolve⟩ := bind_eq_ok.mp hresolve
  obtain ⟨_, -, hresolve⟩ := bind_eq_ok.mp hresolve
  cases hresolve
  have hpayoutIndex : N.payoutIndex (.id payoutId) = true := hpayout
  have hkeyIndex : N.keyIndex (.id idempotencyId) = true := hkey
  have hcases : ∀ c ∈ a.claimCases.rows,
      (c.policyId = dto.policyId && c.disruptionEventId = dto.disruptionEventId) = true →
        ∃ k ∈ c.keys, N.claimCaseIndex k = true := by
    intro c _ hc
    simp only [Bool.and_eq_true, decide_eq_true_eq] at hc
    refine ⟨.policyId_disruptionEventId c.policyId c.disruptionEventId,
      by simp [ClaimCase.keys], ?_⟩
    rw [hc.1]
    exact hdto.policy
  have happrove : KeepsClaim (approvePayout io payoutId payout) :=
    keepsClaim_approvePayout payoutId payout
  exact ((h.updatePayout hpayoutIndex happrove).withCases
    (h.claimCases.updateMany_inside _ hcases)).withKeys
    (h.keys.update_inside hkeyIndex _)

theorem rollback_own (h : Fits cfg N a) (hpayout : N.payout payoutId = true)
    (hkey : N.key idempotencyId = true) (e : Exn) :
    DbView cfg N a (rollback io payoutId idempotencyId e a) := by
  have hpayoutIndex : N.payoutIndex (.id payoutId) = true := hpayout
  have hkeyIndex : N.keyIndex (.id idempotencyId) = true := hkey
  have hrolled : DbView cfg N a (rollbackKey io idempotencyId e a) := by
    unfold rollbackKey
    split
    · exact h.view.withKeys (h.keys.update_inside hkeyIndex _)
    · exact h.view
  refine hrolled.trans ?_
  unfold rollback rollbackRow
  split
  · exact hrolled.right.updatePayout hpayoutIndex (keepsClaim_setStatus .REJECTED)
  · exact hrolled.right.view

theorem settle_own (h : Fits cfg N w.db) (hpool : ¬DrawsPool cfg.env) (hdto : ForDriver N dto)
    (hpayout : N.payout payoutId = true) (hkey : N.key idempotencyId = true) :
    WorldView cfg N w (settle cfg io dto payoutId idempotencyId w).2 := by
  have hshake : WorldView cfg N w (handshake cfg io dto payoutId w).2 :=
    handshake_own h hpool payoutId
  unfold settle
  generalize handshake cfg io dto payoutId w = outcome at hshake
  obtain ⟨paid, v⟩ := outcome
  dsimp only
  have hfailed : ∀ e,
      WorldView cfg N w { v with db := rollback io payoutId idempotencyId e v.db } :=
    fun e => hshake.trans (rollback_own hshake.right hpayout hkey e)
  split
  · rename_i payout db hresolved
    obtain ⟨_, -, hresolved⟩ := bind_eq_ok.mp hresolved
    obtain ⟨_, hresolve, hresolved⟩ := bind_eq_ok.mp hresolved
    cases hresolved
    exact hshake.trans (resolve_own hshake.right hdto hpayout hkey hresolve)
  · exact hfailed _

/-- A settlement that does not draw on the pool shows in the driver's rows only. -/
theorem processParametricPayout_own (h : Fits cfg N w.db) (hpool : ¬DrawsPool cfg.env)
    (hdto : ForDriver N dto) (hio : DrawsNames N io) :
    WorldView cfg N w (processParametricPayout cfg io dto w).2 := by
  unfold processParametricPayout
  split
  · exact h.view
  · rename_i hpre
    exact (preTx_own h hdto hio hpre).2
  · rename_i payoutId idempotencyId db hpre
    obtain ⟨hnames, hview⟩ := preTx_own h hdto hio hpre
    obtain ⟨hpayout, hkey⟩ := hnames payoutId idempotencyId rfl
    have hlocked : Fits cfg N ({ w with db } : World).db := hview.right
    exact hview.trans (settle_own hlocked hpool hdto hpayout hkey)

end Own

end Aegis.DemoFlow
