import Aegis.Verification.Payouts.Authorisation

/-! # What a settlement writes

The tables behind every entry point that can move money, and the driver that it pays. -/

namespace Aegis

open Outcome

/-- All that a settlement and its entry points write. -/
def OnlyLedger (db db' : Db) : Prop :=
  ∃ disruptionEvents payouts claimCases payoutIdempotencyKeys systemSettings kafkaDLQ,
    db' = { db with
      disruptionEvents, payouts, claimCases, payoutIdempotencyKeys, systemSettings, kafkaDLQ }

theorem OnlyLedger.refl (db : Db) : OnlyLedger db db := ⟨_, _, _, _, _, _, rfl⟩

theorem OnlyLedger.trans {db db' db'' : Db} (h : OnlyLedger db db') (h' : OnlyLedger db' db'') :
    OnlyLedger db db'' := by
  obtain ⟨_, _, _, _, _, _, rfl⟩ := h
  obtain ⟨_, _, _, _, _, _, rfl⟩ := h'
  exact ⟨_, _, _, _, _, _, rfl⟩

theorem OnlyLedger.fraudAnalyses {db db' : Db} (h : OnlyLedger db db') :
    db'.fraudAnalyses = db.fraudAnalyses := by
  obtain ⟨_, _, _, _, _, _, rfl⟩ := h
  rfl

theorem OnlyLedger.policies {db db' : Db} (h : OnlyLedger db db') :
    db'.policies = db.policies := by
  obtain ⟨_, _, _, _, _, _, rfl⟩ := h
  rfl

/-- All that a settlement itself writes. -/
def OnlySettlement (db db' : Db) : Prop :=
  ∃ payouts claimCases payoutIdempotencyKeys systemSettings,
    db' = { db with payouts, claimCases, payoutIdempotencyKeys, systemSettings }

theorem OnlySettlement.refl (db : Db) : OnlySettlement db db := ⟨_, _, _, _, rfl⟩

theorem OnlySettlement.trans {db db' db'' : Db} (h : OnlySettlement db db')
    (h' : OnlySettlement db' db'') : OnlySettlement db db'' := by
  obtain ⟨_, _, _, _, rfl⟩ := h
  obtain ⟨_, _, _, _, rfl⟩ := h'
  exact ⟨_, _, _, _, rfl⟩

theorem OnlySettlement.onlyLedger {db db' : Db} (h : OnlySettlement db db') :
    OnlyLedger db db' := by
  obtain ⟨_, _, _, _, rfl⟩ := h
  exact ⟨_, _, _, _, _, _, rfl⟩

theorem OnlySettlement.kafkaDLQ {db db' : Db} (h : OnlySettlement db db') :
    db'.kafkaDLQ = db.kafkaDLQ := by
  obtain ⟨_, _, _, _, rfl⟩ := h
  rfl

/-! ## The settlement -/

namespace Payments

variable {cfg : Config} {io : Io} {dto : ParametricPayoutDto}

theorem writeLock_settlement {pre : PreTx} {db db' : Db}
    (h : writeLock cfg io dto db = .ok (pre, db')) : OnlySettlement db db' := by
  obtain ⟨locked, hlock, h⟩ := bind_eq_ok.mp h
  obtain ⟨⟨payoutId, ledger⟩, hpayout, h⟩ := bind_eq_ok.mp h
  obtain ⟨tracked, htrack, h⟩ := bind_eq_ok.mp h
  cases h
  have hlocked : OnlySettlement db locked := by
    obtain ⟨_, -, hlock⟩ := bind_eq_ok.mp hlock
    obtain ⟨_, -, hlock⟩ := bind_eq_ok.mp hlock
    cases hlock
    exact ⟨_, _, _, _, rfl⟩
  have hledger : OnlySettlement locked ledger := by
    unfold lockPayout at hpayout
    split at hpayout
    · cases hpayout
      exact ⟨_, _, _, _, rfl⟩
    · obtain ⟨_, -, hpayout⟩ := bind_eq_ok.mp hpayout
      obtain ⟨_, -, hpayout⟩ := bind_eq_ok.mp hpayout
      cases hpayout
      exact ⟨_, _, _, _, rfl⟩
  have htracked : OnlySettlement ledger db' := by
    unfold trackClaimCase at htrack
    split at htrack
    · obtain ⟨_, -, htrack⟩ := bind_eq_ok.mp htrack
      cases htrack
      exact ⟨_, _, _, _, rfl⟩
    · obtain ⟨_, -, htrack⟩ := bind_eq_ok.mp htrack
      obtain ⟨_, -, htrack⟩ := bind_eq_ok.mp htrack
      cases htrack
      exact ⟨_, _, _, _, rfl⟩
  exact (hlocked.trans hledger).trans htracked

theorem preTx_settlement {pre : PreTx} {db db' : Db} (h : preTx cfg io dto db = .ok (pre, db')) :
    OnlySettlement db db' := by
  unfold preTx at h
  split at h
  · obtain ⟨_, -, h⟩ := bind_eq_ok.mp h
    obtain ⟨found, -, h⟩ := bind_eq_ok.mp h
    cases found with
    | none => exact writeLock_settlement h
    | some idemp =>
        dsimp only at h
        split at h
        · cases h
          exact .refl db
        · cases h
        · exact writeLock_settlement h
        · exact writeLock_settlement h
  · cases h

theorem settle_settlement (payoutId idempotencyId : String) (w : World) :
    OnlySettlement w.db (settle cfg io dto payoutId idempotencyId w).2.db := by
  obtain ⟨executed, systemSettings, hworld, -⟩ := handshake_spec cfg io dto payoutId w
  have hpaid : OnlySettlement w.db (handshake cfg io dto payoutId w).2.db := by
    rw [hworld]
    exact ⟨_, _, _, _, rfl⟩
  unfold settle
  dsimp only
  split
  · rename_i payout db hresolved
    obtain ⟨_, -, hresolved⟩ := bind_eq_ok.mp hresolved
    obtain ⟨_, hresolve, hresolved⟩ := bind_eq_ok.mp hresolved
    cases hresolved
    obtain ⟨_, -, hresolve⟩ := bind_eq_ok.mp hresolve
    obtain ⟨_, -, hresolve⟩ := bind_eq_ok.mp hresolve
    obtain ⟨_, -, hresolve⟩ := bind_eq_ok.mp hresolve
    cases hresolve
    exact hpaid.trans ⟨_, _, _, _, rfl⟩
  · exact hpaid.trans ⟨_, _, _, _, rfl⟩

theorem processParametricPayout_settlement (cfg : Config) (io : Io) (dto : ParametricPayoutDto)
    (w : World) : OnlySettlement w.db (processParametricPayout cfg io dto w).2.db := by
  unfold processParametricPayout
  split
  · exact .refl w.db
  · rename_i hpre
    exact preTx_settlement hpre
  · rename_i payoutId idempotencyId db hpre
    exact (preTx_settlement hpre).trans (settle_settlement payoutId idempotencyId { w with db })

theorem processParametricPayout_frame (cfg : Config) (io : Io) (dto : ParametricPayoutDto)
    (w : World) : OnlyLedger w.db (processParametricPayout cfg io dto w).2.db :=
  (processParametricPayout_settlement cfg io dto w).onlyLedger

end Payments

/-! ## The entry points -/

namespace Payouts

open RedisState Payments PayoutService PayoutEndpoints

variable (cfg : PayoutService.Config)

theorem serve_frame (moment : Moment) (io : CallIo) (s : System) (r : Request) :
    OnlyLedger s.db (serve cfg moment io s r).db := by
  have hleft := serve_left cfg moment io s r
  cases hsettles : settles cfg moment io s r with
  | none =>
      rw [hsettles] at hleft
      obtain ⟨_, _, h⟩ := hleft
      rw [h]
      exact ⟨_, _, _, _, _, _, rfl⟩
  | some settlement =>
      obtain ⟨dto, s'⟩ := settlement
      rw [hsettles] at hleft
      obtain ⟨_, _, h⟩ := hleft
      obtain ⟨disruptionEvents, redis, rfl⟩ := settles_left hsettles
      have hevent : OnlyLedger s.db { s.db with disruptionEvents } := ⟨_, _, _, _, _, _, rfl⟩
      have hsettled := processParametricPayout_frame cfg.toConfig io.settle dto
        { s.toWorld with db := { s.db with disruptionEvents } }
      rw [h]
      exact (hevent.trans hsettled).trans ⟨_, _, _, _, _, _, rfl⟩

/-! ## Whom a request pays -/

/-- What has moved was moved for the driver of the settlement. -/
theorem serve_executed (moment : Moment) (io : CallIo) (s : System) (r : Request) :
    ∃ executed, (serve cfg moment io s r).transfers = s.transfers ++ executed ∧
      ∀ t ∈ executed, ∃ dto s', settles cfg moment io s r = some (dto, s') ∧
        t.userId = dto.userId := by
  rw [serve_transfers]
  cases hsettles : settles cfg moment io s r with
  | none => exact ⟨[], by simp, by simp⟩
  | some settlement =>
      obtain ⟨dto, s'⟩ := settlement
      obtain ⟨executed, htransfers, hown⟩ :=
        exists_executed cfg.toConfig io.settle dto s'.toWorld
      rw [← settles_transfers hsettles]
      exact ⟨executed, htransfers, fun t ht => ⟨dto, s', rfl, (hown t ht).userId⟩⟩

end Payouts

end Aegis
