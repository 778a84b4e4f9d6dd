import Aegis.Verification.Payments.Equations

/-! # When a settlement can move money

Leaving aside what may fail on the way, the store alone decides whether a request is paid. -/

namespace Aegis.Payments

open Outcome Gateway LiquidityPool

section Payable

variable (cfg : Config) (dto : ParametricPayoutDto) (db : Db)

/-- The pre-gateway transaction takes the lock, given suitable ids for new rows. -/
def Lockable : Prop :=
  ∃ io payoutId idempotencyId db', preTx cfg io dto db = .ok (.gateway payoutId idempotencyId, db')

/-- The driver exists and can be paid over the configured rail. -/
structure RailOpen : Prop where
  user : (db.users.findUnique (.id dto.userId)).isSome = true
  razorpayX : cfg.env.hasSourceAccount = true → cfg.env.hasCredentials = true ∧
    ∃ setup, db.kycPayoutSetups.findUnique dto.userId = some setup ∧
      (fundAccountOf setup).isOk = true
  testMode : cfg.env.hasSourceAccount = false → cfg.env.isRazorpayTestMode = true

/-- The request passes the settlement's own checks. -/
structure Payable : Prop where
  lockable : Lockable cfg dto db
  rail : RailOpen cfg dto db

end Payable

section Transfers

variable {cfg : Config} {io : Io} {dto : ParametricPayoutDto} {w : World} {payoutId : String}

theorem settle_transfers (idempotencyId : String) :
    (settle cfg io dto payoutId idempotencyId w).2.transfers =
      (handshake cfg io dto payoutId w).2.transfers := by
  unfold settle
  dsimp only
  split <;> rfl

theorem loadUser_isSome {user : User} {db : Db} (h : loadUser io dto db = .ok user) :
    db.users.findUnique (.id dto.userId) = some user := by
  unfold loadUser at h
  split at h
  · exact orThrow_eq_ok.mp h
  · cases h

theorem loadPayoutSetup_isSome {setup : KYCPayoutSetup} {db : Db}
    (h : loadPayoutSetup io dto db = .ok setup) :
    db.kycPayoutSetups.findUnique dto.userId = some setup := by
  unfold loadPayoutSetup at h
  split at h
  · exact orThrow_eq_ok.mp h
  · cases h

/-- A request over RazorpayX is executed only with credentials and a usable account. -/
theorem payByRazorpayX_executed {user : User} {setup : KYCPayoutSetup} {referenceId : String}
    (h : (payByRazorpayX cfg io dto user setup referenceId).2 ≠ []) :
    cfg.env.hasCredentials = true ∧ (fundAccountOf setup).isOk = true := by
  unfold payByRazorpayX at h
  split at h
  · exact absurd rfl h
  · rename_i hcontact
    split at h
    · exact absurd rfl h
    · rename_i fundAccount hfund
      refine ⟨?_, by rw [hfund]; rfl⟩
      by_contra hcred
      simp [razorpayXRequest, hcred] at hcontact

theorem railOpen_of_handshake
    (h : (handshake cfg io dto payoutId w).2.transfers ≠ w.transfers) : RailOpen cfg dto w.db := by
  unfold handshake at h
  dsimp only at h
  split at h
  · exact absurd rfl h
  · rename_i user huser
    have hsome : (w.db.users.findUnique (.id dto.userId)).isSome = true := by
      rw [loadUser_isSome huser]
      rfl
    split at h
    · rename_i hsource
      split at h
      · exact absurd rfl h
      · rename_i setup hsetup
        have hexecuted :
            (payByRazorpayX cfg io dto user setup (payoutReference payoutId)).2 ≠ [] := by
          intro hnil
          simp [hnil] at h
        obtain ⟨hcred, hfund⟩ := payByRazorpayX_executed hexecuted
        exact ⟨hsome, fun _ => ⟨hcred, setup, loadPayoutSetup_isSome hsetup, hfund⟩,
          fun hno => by simp [hsource] at hno⟩
    · rename_i hsource
      split at h
      · rename_i htest
        exact ⟨hsome, fun hyes => absurd hyes hsource, fun _ => htest⟩
      · exact absurd rfl h

/-- Every operation of the call after the lock goes through. -/
def smooth (io : Io) : Io :=
  { io with
    readUser := true
    readPayoutSetup := true
    contact := [.answered ""]
    fundAccount := [.answered ""]
    payout := [.answered ⟨"", none⟩]
    withdraw := .tableMissing }

theorem payByRazorpayX_smooth {user : User} {setup : KYCPayoutSetup} {referenceId : String}
    {fundAccount : FundAccount} (hcred : cfg.env.hasCredentials = true)
    (hfund : fundAccountOf setup = .ok fundAccount) :
    (payByRazorpayX cfg (smooth io) dto user setup referenceId).2 ≠ [] := by
  simp [payByRazorpayX, razorpayXRequest, hcred, hfund, smooth, withRetry, fetchPost,
    Reply.response, Reply.executed, readBody]

theorem handshake_smooth (w : World) (h : RailOpen cfg dto w.db) :
    (handshake cfg (smooth io) dto payoutId w).2.transfers ≠ w.transfers := by
  obtain ⟨user, huser⟩ := Option.isSome_iff_exists.mp h.user
  have hload : loadUser (smooth io) dto w.db = .ok user := by
    simp [loadUser, smooth, huser, orThrow]
  unfold handshake
  rw [hload]
  cases hsource : cfg.env.hasSourceAccount with
  | true =>
      obtain ⟨hcred, setup, hsetup, hfund⟩ := h.razorpayX hsource
      obtain ⟨fundAccount, hfund⟩ := isOk_iff.mp hfund
      have hloadSetup : loadPayoutSetup (smooth io) dto w.db = .ok setup := by
        simp [loadPayoutSetup, smooth, hsetup, orThrow]
      simp only [if_true, hloadSetup, ne_eq, List.append_right_eq_self]
      exact payByRazorpayX_smooth hcred hfund
  | false =>
      simp [h.testMode hsource, executeHardenedSettlementPipeline, withdrawPayout, smooth]

theorem RailOpen.of_parties {db db' : Db} (h : RailOpen cfg dto db) (hp : SameParties db db') :
    RailOpen cfg dto db' := by
  refine ⟨?_, ?_, h.testMode⟩
  · rw [hp.users]
    exact h.user
  · rw [hp.kycPayoutSetups]
    exact h.razorpayX

theorem RailOpen.of_parties_symm {db db' : Db} (h : RailOpen cfg dto db')
    (hp : SameParties db db') : RailOpen cfg dto db :=
  h.of_parties ⟨hp.users.symm, hp.kycProfiles.symm, hp.kycPayoutSetups.symm, hp.weeklyPlans.symm,
    hp.disruptionEvents.symm, hp.policies.symm⟩

/-- A call that moves money was payable. -/
theorem payable_of_transfers
    (h : (processParametricPayout cfg io dto w).2.transfers ≠ w.transfers) :
    Payable cfg dto w.db := by
  unfold processParametricPayout at h
  split at h
  · exact absurd rfl h
  · exact absurd rfl h
  · rename_i payoutId idempotencyId db hpre
    rw [settle_transfers] at h
    have hrail := railOpen_of_handshake h
    rcases preTx_cases hpre with ⟨-, k, -, -, hk, -⟩ | ⟨-, -, hafter⟩
    · cases hk
    · exact ⟨⟨io, _, _, _, hpre⟩, hrail.of_parties_symm hafter.others.parties⟩

/-- A payable request is paid when nothing fails. -/
theorem Payable.exists_transfers (h : Payable cfg dto w.db) :
    ∃ io, (processParametricPayout cfg io dto w).2.transfers ≠ w.transfers := by
  obtain ⟨io, payoutId, idempotencyId, db, hpre⟩ := h.lockable
  refine ⟨smooth io, ?_⟩
  have hsmooth : preTx cfg (smooth io) dto w.db = .ok (.gateway payoutId idempotencyId, db) := hpre
  have hrail : RailOpen cfg dto db := by
    rcases preTx_cases hpre with ⟨-, k, -, -, hk, -⟩ | ⟨-, -, hafter⟩
    · cases hk
    · exact h.rail.of_parties hafter.others.parties
  simp only [processParametricPayout, hsmooth, settle_transfers]
  exact handshake_smooth { w with db } hrail

end Transfers

end Aegis.Payments
