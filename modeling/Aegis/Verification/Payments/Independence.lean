import Aegis.Verification.Payments.Booked

/-! # Two distinct claims

Whether one claim's call changes what a call for another claim does. The idempotency record
of a claim is also found under the driver, the cell and the timestamp, which distinct claims
may share. -/

namespace Aegis.Payments

open Outcome Gateway LiquidityPool

/-! ## What the records decide -/

section Verdict

variable (cfg : Config) (io : Io) (dto : ParametricPayoutDto) (db : Db)

/-- The record's index that distinct claims may share. -/
def compositeOf (k : PayoutIdempotencyKey) : PayoutIdempotencyIndex :=
  .userId_h3Cell_eventTimestamp k.userId k.h3Cell k.eventTimestamp

/-- Whether the claim's own record can be locked. -/
def lockVerdict : Except Exn (Option PayoutIdempotencyKey) := do
  require (FitsInt4 dto.eventTimestamp) (.database "Unable to fit integer value into an INT4")
  require ((keyOf db (dto.deterministicId cfg)).isSome = true ∨
    db.payoutIdempotencyKeys.findUnique dto.compositeIndex = none) constraintFailed
  pure none

/-- What the policy and the records lead to: a refusal, a settled record, or the lock. -/
def verdict : Except Exn (Option PayoutIdempotencyKey) := do
  checkPolicy dto db
  match ← findIdempotencyKey cfg dto db with
  | none => lockVerdict cfg dto db
  | some idemp =>
      match idemp.payoutState with
      | .SUCCESS => pure (some idemp)
      | .PROCESSING => throw acidLock
      | .PENDING | .FAILED => lockVerdict cfg dto db

/-- The claim's own record can be locked: the driver owns the policy and the record is neither
settled nor in flight, or there is none and nothing stands under the shared index. -/
def TakesLock : Prop :=
  OwnsPolicy dto db ∧ FitsInt4 dto.eventTimestamp ∧
    match keyOf db (dto.deterministicId cfg) with
    | some k => k.payoutState ≠ .SUCCESS ∧ k.payoutState ≠ .PROCESSING
    | none => db.payoutIdempotencyKeys.findUnique dto.compositeIndex = none

/-- The ledger row and the claim case can be written. -/
def Writable : Prop :=
  ∃ payoutId db₁ db₂, lockPayout io dto db = .ok (payoutId, db₁) ∧
    trackClaimCase cfg io dto db₁ payoutId = .ok db₂

variable {cfg io dto db}

theorem writable_of_isOk
    (h : (lockPayout io dto db >>= fun locked =>
      trackClaimCase cfg io dto locked.2 locked.1).isOk = true) : Writable cfg io dto db := by
  obtain ⟨db₂, h⟩ := isOk_iff.mp h
  obtain ⟨⟨payoutId, db₁⟩, hrow, hcase⟩ := bind_eq_ok.mp h
  exact ⟨payoutId, db₁, db₂, hrow, hcase⟩

theorem create_eq_none {ρ κ : Type} [DecidableEq κ] {keys : ρ → List κ} {t : Table keys} {r s : ρ}
    {k : κ} (hs : t.findUnique k = some s) (hr : k ∈ keys r) : t.create r = none := by
  cases h : t.create r with
  | none => rfl
  | some t' =>
      exact absurd hr ((Table.create_eq_some h).1 s (Table.mem_of_findUnique hs) k
        (Table.key_of_findUnique hs))

theorem lockIdempotencyKey_of_lockVerdict (h : lockVerdict cfg dto db = .ok none) :
    ∃ keys, lockIdempotencyKey cfg dto db = .ok { db with payoutIdempotencyKeys := keys } := by
  obtain ⟨_, hfits, h⟩ := bind_eq_ok.mp h
  obtain ⟨_, hfree, -⟩ := bind_eq_ok.mp h
  have hupsert : ∃ keys, db.payoutIdempotencyKeys.upsert (.id (dto.deterministicId cfg))
      (newIdempotencyKey cfg dto) (setPayoutState .PROCESSING) = some keys := by
    rw [Table.upsert]
    cases hown : db.payoutIdempotencyKeys.findUnique (.id (dto.deterministicId cfg)) with
    | some k => exact ⟨_, rfl⟩
    | none =>
        have hcomposite := (require_eq_ok.mp hfree).resolve_left (by simp [hown])
        refine Table.exists_create fun s hs k hk hmem => ?_
        simp only [newIdempotencyKey, PayoutIdempotencyKey.keys, List.mem_cons, List.not_mem_nil,
          or_false] at hmem
        rcases hmem with rfl | rfl
        · exact (Table.findUnique_eq_none _ _).mp hown s hs hk
        · exact (Table.findUnique_eq_none _ _).mp hcomposite s hs hk
  obtain ⟨keys, hkeys⟩ := hupsert
  refine ⟨keys, ?_⟩
  simp only [lockIdempotencyKey, hfits, ok_bind, hkeys, orThrow, pure_eq]

theorem writeLock_of_lockVerdict_error {e : Exn} (h : lockVerdict cfg dto db = .error e) :
    writeLock cfg io dto db = .error e := by
  have hlock : lockIdempotencyKey cfg dto db = .error e := by
    rcases bind_eq_error.mp h with hfits | ⟨_, hfits, h⟩
    · exact bind_eq_error.mpr (.inl hfits)
    · rcases bind_eq_error.mp h with hfree | ⟨_, -, h⟩
      · obtain ⟨hnot, rfl⟩ := require_eq_error.mp hfree
        obtain ⟨hown, hcomposite⟩ := not_or.mp hnot
        have hnone : db.payoutIdempotencyKeys.findUnique (.id (dto.deterministicId cfg)) =
            none := by
          simpa using hown
        obtain ⟨k, hk⟩ := Option.ne_none_iff_exists'.mp hcomposite
        have hupsert : db.payoutIdempotencyKeys.upsert (.id (dto.deterministicId cfg))
            (newIdempotencyKey cfg dto) (setPayoutState .PROCESSING) = none := by
          rw [Table.upsert, hnone]
          exact create_eq_none hk (by simp [newIdempotencyKey, PayoutIdempotencyKey.keys,
            ParametricPayoutDto.compositeIndex])
        simp only [lockIdempotencyKey, hfits, ok_bind, hupsert, orThrow, error_bind]
      · cases h
  exact bind_eq_error.mpr (.inl hlock)

theorem preTx_of_verdict (hpre : io.preTx = true) :
    preTx cfg io dto db =
      match verdict cfg dto db with
      | .error e => .error e
      | .ok (some k) => .ok (.cached k.payoutId k.id, db)
      | .ok none => writeLock cfg io dto db := by
  have hlock : writeLock cfg io dto db =
      match lockVerdict cfg dto db with
      | .error e => .error e
      | .ok (some k) => .ok (.cached k.payoutId k.id, db)
      | .ok none => writeLock cfg io dto db := by
    cases h : lockVerdict cfg dto db with
    | error e => exact writeLock_of_lockVerdict_error h
    | ok found =>
        obtain ⟨_, -, h⟩ := bind_eq_ok.mp h
        obtain ⟨_, -, h⟩ := bind_eq_ok.mp h
        cases h
        rfl
  rw [preTx, if_pos hpre, preGateway, verdict]
  cases checkPolicy dto db with
  | error e => rfl
  | ok _ =>
      simp only [ok_bind]
      cases findIdempotencyKey cfg dto db with
      | error e => rfl
      | ok found =>
          simp only [ok_bind]
          cases found with
          | none => exact hlock
          | some k =>
              cases hstate : k.payoutState with
              | SUCCESS => simp only [hstate, pure_eq]
              | PROCESSING => simp only [hstate, throw_eq]
              | PENDING | FAILED =>
                  simp only [hstate]
                  exact hlock

theorem lockVerdict_eq_ok {found : Option PayoutIdempotencyKey} :
    lockVerdict cfg dto db = .ok found ↔ found = none ∧ FitsInt4 dto.eventTimestamp ∧
      ((keyOf db (dto.deterministicId cfg)).isSome = true ∨
        db.payoutIdempotencyKeys.findUnique dto.compositeIndex = none) := by
  rw [lockVerdict, bind_eq_ok]
  simp only [bind_eq_ok, require_eq_ok, pure_eq, Except.ok.injEq, exists_const]
  constructor
  · rintro ⟨hfits, hfree, rfl⟩
    exact ⟨rfl, hfits, hfree⟩
  · rintro ⟨rfl, hfits, hfree⟩
    exact ⟨hfits, hfree, rfl⟩

theorem findIdempotencyKey_of_own {k : PayoutIdempotencyKey}
    (h : db.payoutIdempotencyKeys.findUnique (.id (dto.deterministicId cfg)) = some k) :
    findIdempotencyKey cfg dto db = .ok (some k) := by
  rw [findIdempotencyKey, h]

theorem findIdempotencyKey_of_fresh
    (h : db.payoutIdempotencyKeys.findUnique (.id (dto.deterministicId cfg)) = none) :
    findIdempotencyKey cfg dto db = (do
      require (FitsInt4 dto.eventTimestamp) (.database "Unable to fit integer value into an INT4")
      pure (db.payoutIdempotencyKeys.findUnique dto.compositeIndex)) := by
  rw [findIdempotencyKey, h]
  by_cases hfits : FitsInt4 dto.eventTimestamp
  · simp [hfits, require]
  · simp [hfits, require]

/-- The record under the claim's own id alone decides, if there is one. -/
theorem verdict_of_own {k : PayoutIdempotencyKey}
    (h : keyOf db (dto.deterministicId cfg) = some k) :
    verdict cfg dto db = (do
      checkPolicy dto db
      match k.payoutState with
      | .SUCCESS => pure (some k)
      | .PROCESSING => throw acidLock
      | .PENDING | .FAILED => do
          require (FitsInt4 dto.eventTimestamp)
            (.database "Unable to fit integer value into an INT4")
          pure none) := by
  have hlock : lockVerdict cfg dto db = (do
      require (FitsInt4 dto.eventTimestamp) (.database "Unable to fit integer value into an INT4")
      pure none) := by
    simp only [lockVerdict, h, Option.isSome_some, true_or, require, if_true, ok_bind]
  rw [verdict, findIdempotencyKey_of_own h, hlock]
  rfl

/-- Otherwise the record under the shared index decides. -/
def sharedVerdict (found : Option PayoutIdempotencyKey) :
    Except Exn (Option PayoutIdempotencyKey) :=
  match found with
  | none => .ok none
  | some k =>
      match k.payoutState with
      | .SUCCESS => .ok (some k)
      | .PROCESSING => .error acidLock
      | .PENDING | .FAILED => .error constraintFailed

theorem verdict_of_fresh (h : keyOf db (dto.deterministicId cfg) = none) :
    verdict cfg dto db = (do
      checkPolicy dto db
      require (FitsInt4 dto.eventTimestamp) (.database "Unable to fit integer value into an INT4")
      sharedVerdict (db.payoutIdempotencyKeys.findUnique dto.compositeIndex)) := by
  rw [verdict, findIdempotencyKey_of_fresh h]
  by_cases hfits : FitsInt4 dto.eventTimestamp
  · simp only [hfits, if_true, require, lockVerdict, h, sharedVerdict, Option.isSome_none, ok_bind,
      Bool.false_eq_true, false_or, pure_eq]
    cases db.payoutIdempotencyKeys.findUnique dto.compositeIndex with
    | none => rfl
    | some k => cases hstate : k.payoutState <;> simp [hstate]
  · simp only [hfits, if_false, require, error_bind]

theorem verdict_eq_none_iff : verdict cfg dto db = .ok none ↔ TakesLock cfg dto db := by
  rw [TakesLock, OwnsPolicy, ← checkPolicy_eq_ok]
  cases hown : keyOf db (dto.deterministicId cfg) with
  | some k =>
      rw [verdict_of_own hown]
      cases checkPolicy dto db with
      | error e => simp
      | ok _ => cases hstate : k.payoutState <;> simp [bind_eq_ok, hstate]
  | none =>
      rw [verdict_of_fresh hown]
      cases checkPolicy dto db with
      | error e => simp
      | ok _ =>
          cases db.payoutIdempotencyKeys.findUnique dto.compositeIndex with
          | none => simp [bind_eq_ok, sharedVerdict]
          | some k => cases hstate : k.payoutState <;> simp [bind_eq_ok, sharedVerdict, hstate]

theorem verdict_eq_some_iff {k : PayoutIdempotencyKey} : verdict cfg dto db = .ok (some k) ↔
    OwnsPolicy dto db ∧ findIdempotencyKey cfg dto db = .ok (some k) ∧
      k.payoutState = .SUCCESS := by
  rw [OwnsPolicy, ← checkPolicy_eq_ok, verdict]
  cases checkPolicy dto db with
  | error e => simp
  | ok _ =>
      cases findIdempotencyKey cfg dto db with
      | error e => simp
      | ok found =>
          cases found with
          | none => simp [lockVerdict_eq_ok]
          | some k' =>
              cases hstate : k'.payoutState with
              | SUCCESS =>
                  simp only [ok_bind, hstate, pure_eq, Except.ok.injEq, Option.some.injEq, true_and]
                  constructor
                  · rintro rfl
                    exact ⟨rfl, hstate⟩
                  · exact fun h => h.1
              | PROCESSING =>
                  simp only [ok_bind, hstate, throw_eq, Except.ok.injEq, Option.some.injEq,
                    true_and,
                    reduceCtorEq, false_iff]
                  rintro ⟨rfl, hsuccess⟩
                  rw [hstate] at hsuccess
                  cases hsuccess
              | PENDING | FAILED =>
                  simp only [ok_bind, hstate, lockVerdict_eq_ok, Except.ok.injEq, Option.some.injEq,
                    true_and, reduceCtorEq, false_and, false_iff]
                  rintro ⟨rfl, hsuccess⟩
                  rw [hstate] at hsuccess
                  cases hsuccess

end Verdict

/-! ## What a call does with the verdict -/

section Outcome

variable {cfg : Config} {io : Io} {dto : ParametricPayoutDto} {w w' : World} {db : Db}

/-- The row and the case do not depend on the records. -/
theorem lockPayout_keys (keys : Table PayoutIdempotencyKey.keys) {payoutId : String} {db' : Db}
    (h : lockPayout io dto db = .ok (payoutId, db')) :
    lockPayout io dto { db with payoutIdempotencyKeys := keys } =
      .ok (payoutId, { db' with payoutIdempotencyKeys := keys }) := by
  rw [lockPayout] at h ⊢
  cases hrow : db.payouts.findUnique dto.payoutIndex with
  | some row =>
      simp only [hrow] at h ⊢
      cases h
      rfl
  | none =>
      simp only [hrow] at h ⊢
      obtain ⟨_, hforeign, h⟩ := bind_eq_ok.mp h
      obtain ⟨payouts, hcreate, h⟩ := bind_eq_ok.mp h
      cases h
      simp only [hforeign, hcreate, ok_bind, pure_eq]

theorem trackClaimCase_keys (keys : Table PayoutIdempotencyKey.keys) {payoutId : String} {db' : Db}
    (h : trackClaimCase cfg io dto db payoutId = .ok db') :
    trackClaimCase cfg io dto { db with payoutIdempotencyKeys := keys } payoutId =
      .ok { db' with payoutIdempotencyKeys := keys } := by
  rw [trackClaimCase] at h ⊢
  cases hcase : db.claimCases.findUnique dto.claimCaseIndex with
  | some c =>
      simp only [hcase] at h ⊢
      obtain ⟨claimCases, hmodify, h⟩ := bind_eq_ok.mp h
      cases h
      simp only [hmodify, ok_bind, pure_eq]
  | none =>
      simp only [hcase] at h ⊢
      obtain ⟨_, hforeign, h⟩ := bind_eq_ok.mp h
      obtain ⟨claimCases, hcreate, h⟩ := bind_eq_ok.mp h
      cases h
      simp only [hforeign, hcreate, ok_bind, pure_eq]

theorem writeLock_settings {pre : PreTx} {db' : Db} (h : writeLock cfg io dto db = .ok (pre, db')) :
    db'.systemSettings = db.systemSettings := by
  obtain ⟨db₁, hkey, h⟩ := bind_eq_ok.mp h
  obtain ⟨⟨payoutId, db₂⟩, hrow, h⟩ := bind_eq_ok.mp h
  obtain ⟨db₃, hcase, h⟩ := bind_eq_ok.mp h
  cases h
  have hfirst : db₁.systemSettings = db.systemSettings := by
    obtain ⟨_, -, hkey⟩ := bind_eq_ok.mp hkey
    obtain ⟨keys, -, hkey⟩ := bind_eq_ok.mp hkey
    cases hkey
    rfl
  have hsecond : db₂.systemSettings = db₁.systemSettings := by
    rw [lockPayout] at hrow
    split at hrow
    · cases hrow
      rfl
    · obtain ⟨_, -, hrow⟩ := bind_eq_ok.mp hrow
      obtain ⟨payouts, -, hrow⟩ := bind_eq_ok.mp hrow
      cases hrow
      rfl
  have hthird : db'.systemSettings = db₂.systemSettings := by
    rw [trackClaimCase] at hcase
    split at hcase
    · obtain ⟨claimCases, -, hcase⟩ := bind_eq_ok.mp hcase
      cases hcase
      rfl
    · obtain ⟨_, -, hcase⟩ := bind_eq_ok.mp hcase
      obtain ⟨claimCases, -, hcase⟩ := bind_eq_ok.mp hcase
      cases hcase
      rfl
  rw [hthird, hsecond, hfirst]

/-- What the lock leaves behind. -/
structure Locked (cfg : Config) (io : Io) (dto : ParametricPayoutDto) (db db' : Db) : Prop where
  preTx : preTx cfg io dto db =
    .ok (.gateway (lockedRow io dto db).id (dto.deterministicId cfg), db')
  after : ClaimAfter cfg dto db db' (lockedKey cfg dto db) (lockedRow io dto db)
  settings : db'.systemSettings = db.systemSettings

theorem exists_locked (hpre : io.preTx = true) (h : verdict cfg dto db = .ok none)
    (hwritable : Writable cfg io dto db) : ∃ db', Locked cfg io dto db db' := by
  have hlock : lockVerdict cfg dto db = .ok none := by
    obtain ⟨_, -, h⟩ := bind_eq_ok.mp h
    obtain ⟨found, -, h⟩ := bind_eq_ok.mp h
    cases found with
    | none => exact h
    | some k =>
        cases hstate : k.payoutState with
        | SUCCESS => simp [hstate] at h
        | PROCESSING => simp [hstate] at h
        | PENDING | FAILED =>
            simp only [hstate] at h
            exact h
  obtain ⟨keys, hkeys⟩ := lockIdempotencyKey_of_lockVerdict hlock
  obtain ⟨payoutId, db₁, db₂, hrow, hcase⟩ := hwritable
  have hwrite : writeLock cfg io dto db = .ok (.gateway payoutId (dto.deterministicId cfg),
      { db₂ with payoutIdempotencyKeys := keys }) := by
    simp only [writeLock, hkeys, ok_bind, lockPayout_keys keys hrow, trackClaimCase_keys keys hcase,
      pure_eq]
  obtain ⟨hpre', hafter⟩ := writeLock_spec hwrite
  refine ⟨_, ?_, hafter, writeLock_settings hwrite⟩
  rw [preTx_of_verdict hpre, h, ← hpre']
  exact hwrite

theorem process_error {e : Exn} (hpre : io.preTx = true) (h : verdict cfg dto w.db = .error e) :
    processParametricPayout cfg io dto w = (.error e, w) := by
  rw [processParametricPayout, preTx_of_verdict hpre, h]

theorem process_cached {k : PayoutIdempotencyKey} (hpre : io.preTx = true)
    (h : verdict cfg dto w.db = .ok (some k)) :
    processParametricPayout cfg io dto w = (.ok (cachedResult k.payoutId k.id), w) := by
  rw [processParametricPayout, preTx_of_verdict hpre, h]

/-- What the rail answers in the store that the call finds. -/
def railResult (cfg : Config) (io : Io) (dto : ParametricPayoutDto) (w : World) :
    Except Exn RazorpayPayout :=
  (handshake cfg io dto (lockedRow io dto w.db).id w).1

/-- The rail's answer depends on the parties and the pool alone. -/
theorem handshake_congr (payoutId : String) (hparties : SameParties w.db w'.db)
    (hsettings : w'.db.systemSettings = w.db.systemSettings) :
    (handshake cfg io dto payoutId w').1 = (handshake cfg io dto payoutId w).1 := by
  have huser : loadUser io dto w'.db = loadUser io dto w.db := by
    rw [loadUser, loadUser, hparties.users]
  have hsetup : loadPayoutSetup io dto w'.db = loadPayoutSetup io dto w.db := by
    rw [loadPayoutSetup, loadPayoutSetup, hparties.kycPayoutSetups]
  simp only [handshake, huser, hsetup, hsettings]
  cases loadUser io dto w.db with
  | error e => rfl
  | ok user =>
      by_cases hsource : cfg.env.hasSourceAccount = true
      · simp only [hsource, if_true]
        cases loadPayoutSetup io dto w.db with
        | error e => rfl
        | ok setup => rfl
      · by_cases htest : cfg.env.isRazorpayTestMode = true
        · simp only [hsource, htest, if_true]
          cases executeHardenedSettlementPipeline io dto (payoutReference payoutId)
              w.db.systemSettings with
          | error e => rfl
          | ok settled => rfl
        · simp only [hsource, htest]
          rfl

theorem Locked.process (h : Locked cfg io dto w.db db) :
    processParametricPayout cfg io dto w =
      settle cfg io dto (lockedRow io dto w.db).id (dto.deterministicId cfg) { w with db } := by
  rw [processParametricPayout, h.preTx]

theorem Locked.rail (h : Locked cfg io dto w.db db) :
    (handshake cfg io dto (lockedRow io dto w.db).id { w with db }).1 = railResult cfg io dto w :=
  handshake_congr _ h.after.others.parties h.settings

theorem process_paid {p : RazorpayPayout} (h : Locked cfg io dto w.db db)
    (hphase2 : io.phase2 = true) (hrail : railResult cfg io dto w = .ok p) :
    (processParametricPayout cfg io dto w).1 =
        .ok (settledResult (lockedRow io dto w.db).id p) ∧
      ClaimAfter cfg dto w.db (processParametricPayout cfg io dto w).2.db
        ((markSucceeded (lockedRow io dto w.db).id).apply (lockedKey cfg dto w.db))
        ((approvePayout io (lockedRow io dto w.db).id p).apply (lockedRow io dto w.db)) := by
  obtain ⟨executed, systemSettings, hworld, -⟩ :=
    handshake_spec cfg io dto (lockedRow io dto w.db).id { w with db }
  have hresult := h.rail.trans hrail
  have hpaid := claimAfter_settings h.after systemSettings
  rw [h.process, settle]
  cases hhand : handshake cfg io dto (lockedRow io dto w.db).id { w with db } with
  | mk result w' =>
      rw [hhand] at hworld hresult
      simp only at hworld hresult
      subst hworld hresult
      cases hresolve : resolve io dto (lockedRow io dto w.db).id (dto.deterministicId cfg) p
          { db with systemSettings } with
      | error e =>
          have hdown := resolve_eq_error hpaid hresolve
          rw [hphase2] at hdown
          cases hdown
      | ok db' =>
          simp only [ok_bind, hresolve, pure_eq]
          exact ⟨trivial, (resolve_eq_ok hpaid hresolve).2⟩

theorem process_unpaid {e : Exn} (h : Locked cfg io dto w.db db)
    (hrail : railResult cfg io dto w = .error e) :
    (processParametricPayout cfg io dto w).1 = .error (settlementFailed e) ∧
      ClaimAfter cfg dto w.db (processParametricPayout cfg io dto w).2.db
        (failedKey io e (lockedKey cfg dto w.db)) (failedRow io (lockedRow io dto w.db)) := by
  obtain ⟨executed, systemSettings, hworld, -⟩ :=
    handshake_spec cfg io dto (lockedRow io dto w.db).id { w with db }
  have hresult := h.rail.trans hrail
  have hpaid := claimAfter_settings h.after systemSettings
  rw [h.process, settle]
  cases hhand : handshake cfg io dto (lockedRow io dto w.db).id { w with db } with
  | mk result w' =>
      rw [hhand] at hworld hresult
      simp only at hworld hresult
      subst hworld hresult
      simp only [error_bind]
      exact ⟨trivial, claimAfter_rollback hpaid e⟩

end Outcome

/-! ## The property and its condition -/

section Independence

variable (cfg : Config) (ioA : Io) (a : ParametricPayoutDto) (ioB : Io) (b : ParametricPayoutDto)
  (w : World)

/-- The store after the call for the other claim. -/
def afterCall : World := (processParametricPayout cfg ioA a w).2

/-- The call for `b` is as if that for `a` had never been, and a cached success names the payout
of `b`. -/
structure Independent : Prop where
  result : (processParametricPayout cfg ioB b (afterCall cfg ioA a w)).1 =
    (processParametricPayout cfg ioB b w).1
  row : rowOf (processParametricPayout cfg ioB b (afterCall cfg ioA a w)).2.db b.policyId
      b.disruptionEventId =
    rowOf (processParametricPayout cfg ioB b w).2.db b.policyId b.disruptionEventId
  own : ∀ r, (processParametricPayout cfg ioB b (afterCall cfg ioA a w)).1 = .ok r →
    r.cached = true → ∃ row, r.payoutId = some row.id ∧
      rowOf (processParametricPayout cfg ioB b (afterCall cfg ioA a w)).2.db b.policyId
        b.disruptionEventId = some row

/-- The operations of a call that concern neither the gateway nor the records go through. -/
structure Unhindered (cfg : Config) (io : Io) (dto : ParametricPayoutDto) (db : Db) : Prop where
  preTx : io.preTx = true
  phase2 : io.phase2 = true
  markFailed : io.markFailed = true
  writable : TakesLock cfg dto db → Writable cfg io dto db

/-- Everything but the gateway call for `a` succeeds. -/
structure ElseSucceeds : Prop where
  first : Unhindered cfg ioA a w.db
  second : Unhindered cfg ioB b w.db
  secondAfter : Unhindered cfg ioB b (afterCall cfg ioA a w).db
  paid : TakesLock cfg b w.db → (railResult cfg ioB b w).isOk = true
  paidAfter : TakesLock cfg b (afterCall cfg ioA a w).db →
    (railResult cfg ioB b (afterCall cfg ioA a w)).isOk = true

/-- The call for `a` leaves a record under the index of `b`, which has none of its own: a new
record, or one that turns from open to settled. -/
def Interferes : Prop :=
  TakesLock cfg a w.db ∧ OwnsPolicy b w.db ∧ FitsInt4 b.eventTimestamp ∧
    keyOf w.db (b.deterministicId cfg) = none ∧
    match keyOf w.db (a.deterministicId cfg) with
    | none => a.compositeIndex = b.compositeIndex
    | some k => compositeOf k = b.compositeIndex ∧ (railResult cfg ioA a w).isOk = true

/-- A settled record that the call finds names the claim's own payout. -/
def OwnRecord (dto : ParametricPayoutDto) (db : Db) : Prop :=
  ∀ k, OwnsPolicy dto db → findIdempotencyKey cfg dto db = .ok (some k) →
    k.payoutState = .SUCCESS →
    ∃ row, k.payoutId = some row.id ∧ rowOf db dto.policyId dto.disruptionEventId = some row

variable {cfg ioA a ioB b w}

theorem payout_of_pipeline {io : Io} {dto : ParametricPayoutDto} {referenceId : String}
    {settings : Settings} {settled : RazorpayPayout × Transfer × Settings}
    (h : executeHardenedSettlementPipeline io dto referenceId settings = .ok settled) :
    settled.1 = simulatedPayout io referenceId := by
  obtain ⟨_, -, h⟩ := bind_eq_ok.mp h
  cases h
  rfl

/-- Payments that go through are answered alike whatever the balance of the pool. -/
theorem handshake_unique {w' : World} {payoutId : String} {p p' : RazorpayPayout}
    (hparties : SameParties w.db w'.db) (h : (handshake cfg ioB b payoutId w).1 = .ok p)
    (h' : (handshake cfg ioB b payoutId w').1 = .ok p') : p' = p := by
  have huser : loadUser ioB b w'.db = loadUser ioB b w.db := by
    rw [loadUser, loadUser, hparties.users]
  have hsetup : loadPayoutSetup ioB b w'.db = loadPayoutSetup ioB b w.db := by
    rw [loadPayoutSetup, loadPayoutSetup, hparties.kycPayoutSetups]
  simp only [handshake, huser, hsetup] at h h'
  cases hload : loadUser ioB b w.db with
  | error e => simp [hload] at h
  | ok user =>
      simp only [hload] at h h'
      by_cases hsource : cfg.env.hasSourceAccount = true
      · simp only [hsource, if_true] at h h'
        cases hloadSetup : loadPayoutSetup ioB b w.db with
        | error e => simp [hloadSetup] at h
        | ok setup =>
            simp only [hloadSetup] at h h'
            exact Except.ok.inj (h'.symm.trans h)
      · by_cases htest : cfg.env.isRazorpayTestMode = true
        · simp only [hsource, htest, if_true] at h h'
          cases hpipeline : executeHardenedSettlementPipeline ioB b (payoutReference payoutId)
              w.db.systemSettings with
          | error e => simp [hpipeline] at h
          | ok settled =>
              cases hpipeline' : executeHardenedSettlementPipeline ioB b (payoutReference payoutId)
                  w'.db.systemSettings with
              | error e => simp [hpipeline'] at h'
              | ok settled' =>
                  rw [hpipeline] at h
                  rw [hpipeline'] at h'
                  cases h
                  cases h'
                  rw [payout_of_pipeline hpipeline, payout_of_pipeline hpipeline']
        · simp [hsource, htest] at h

/-- Where the records lead to the same, so does the call. -/
theorem same_of_verdict {w' : World}
    (hverdict : verdict cfg b w'.db = verdict cfg b w.db) (hparties : SameParties w.db w'.db)
    (hrow : rowOf w'.db b.policyId b.disruptionEventId = rowOf w.db b.policyId b.disruptionEventId)
    (h : Unhindered cfg ioB b w.db) (h' : Unhindered cfg ioB b w'.db)
    (hpaid : TakesLock cfg b w.db → (railResult cfg ioB b w).isOk = true)
    (hpaid' : TakesLock cfg b w'.db → (railResult cfg ioB b w').isOk = true) :
    (processParametricPayout cfg ioB b w').1 = (processParametricPayout cfg ioB b w).1 ∧
      rowOf (processParametricPayout cfg ioB b w').2.db b.policyId b.disruptionEventId =
        rowOf (processParametricPayout cfg ioB b w).2.db b.policyId b.disruptionEventId := by
  cases hv : verdict cfg b w.db with
  | error e =>
      rw [process_error h.preTx hv, process_error h'.preTx (hverdict.trans hv)]
      exact ⟨rfl, hrow⟩
  | ok found =>
      cases found with
      | some k =>
          rw [process_cached h.preTx hv, process_cached h'.preTx (hverdict.trans hv)]
          exact ⟨rfl, hrow⟩
      | none =>
          have hv' := hverdict.trans hv
          have htakes := verdict_eq_none_iff.mp hv
          have htakes' := verdict_eq_none_iff.mp hv'
          obtain ⟨db, hlocked⟩ := exists_locked h.preTx hv (h.writable htakes)
          obtain ⟨db', hlocked'⟩ := exists_locked h'.preTx hv' (h'.writable htakes')
          obtain ⟨p, hp⟩ := isOk_iff.mp (hpaid htakes)
          obtain ⟨p', hp'⟩ := isOk_iff.mp (hpaid' htakes')
          have hsame : lockedRow ioB b w'.db = lockedRow ioB b w.db := by
            rw [lockedRow, lockedRow, hrow]
          have hpayout : p' = p := by
            rw [railResult, hsame] at hp'
            exact handshake_unique hparties hp hp'
          obtain ⟨hresult, hafter⟩ := process_paid hlocked h.phase2 hp
          obtain ⟨hresult', hafter'⟩ := process_paid hlocked' h'.phase2 hp'
          rw [hresult, hresult', hafter.row, hafter'.row, hsame, hpayout]
          exact ⟨rfl, rfl⟩

/-! ## The record that the first call leaves -/

theorem compositeOf_lockedKey : compositeOf (lockedKey cfg a w.db) =
    match keyOf w.db (a.deterministicId cfg) with
    | none => a.compositeIndex
    | some k => compositeOf k := by
  cases h : keyOf w.db (a.deterministicId cfg) with
  | none => simp only [lockedKey, h]; rfl
  | some k => simp only [lockedKey, h]; rfl

theorem after_record (h : Unhindered cfg ioA a w.db) (htakes : TakesLock cfg a w.db) :
    ∃ k row, ClaimAfter cfg a w.db (afterCall cfg ioA a w).db k row ∧
      compositeOf k = compositeOf (lockedKey cfg a w.db) ∧
      k.payoutState = if (railResult cfg ioA a w).isOk then .SUCCESS else .FAILED := by
  obtain ⟨db, hlocked⟩ :=
    exists_locked h.preTx (verdict_eq_none_iff.mpr htakes) (h.writable htakes)
  cases hrail : railResult cfg ioA a w with
  | ok p => exact ⟨_, _, (process_paid hlocked h.phase2 hrail).2, rfl, rfl⟩
  | error e =>
      refine ⟨_, _, (process_unpaid hlocked hrail).2, ?_, ?_⟩
      · rw [failedKey, if_pos h.markFailed]
        rfl
      · rw [failedKey, if_pos h.markFailed]
        rfl

theorem afterCall_of_not_takesLock (h : Unhindered cfg ioA a w.db)
    (htakes : ¬TakesLock cfg a w.db) : afterCall cfg ioA a w = w := by
  cases hv : verdict cfg a w.db with
  | error e => rw [afterCall, process_error h.preTx hv]
  | ok found =>
      cases found with
      | some k => rw [afterCall, process_cached h.preTx hv]
      | none => exact absurd (verdict_eq_none_iff.mp hv) htakes

/-- A record is found under the shared index when its own says so. -/
theorem findUnique_shared {db : Db} {k : PayoutIdempotencyKey} :
    db.payoutIdempotencyKeys.findUnique b.compositeIndex = some k ↔
      keyOf db k.id = some k ∧ compositeOf k = b.compositeIndex := by
  rw [Table.findUnique_eq_some, Table.findUnique_eq_some]
  have hid : PayoutIdempotencyIndex.id k.id ∈ k.keys := PayoutIdempotencyKey.id_mem_keys_iff.mpr rfl
  have hshared : b.compositeIndex ∈ k.keys ↔ compositeOf k = b.compositeIndex := by
    simp [PayoutIdempotencyKey.keys, compositeOf, ParametricPayoutDto.compositeIndex, eq_comm]
  rw [hshared]
  exact ⟨fun h => ⟨⟨h.1, hid⟩, h.2⟩, fun h => ⟨h.1.1, h.2⟩⟩

theorem findUnique_shared_of_own {db : Db} {k : PayoutIdempotencyKey} {id : String}
    (hown : keyOf db id = some k) (hshared : compositeOf k = b.compositeIndex) :
    db.payoutIdempotencyKeys.findUnique b.compositeIndex = some k := by
  have hid := PayoutIdempotencyKey.id_mem_keys_iff.mp (Table.key_of_findUnique hown)
  exact findUnique_shared.mpr ⟨hid ▸ hown, hshared⟩

theorem shared_after_of_eq {db db' : Db} {k : PayoutIdempotencyKey} {row : Payout}
    (h : ClaimAfter cfg a db db' k row) (hshared : compositeOf k = b.compositeIndex) :
    db'.payoutIdempotencyKeys.findUnique b.compositeIndex = some k :=
  findUnique_shared_of_own h.key hshared

theorem shared_after_of_ne {db db' : Db} {k : PayoutIdempotencyKey} {row : Payout}
    (h : ClaimAfter cfg a db db' k row) (hshared : compositeOf k ≠ b.compositeIndex)
    (hold : ∀ k₀, keyOf db (a.deterministicId cfg) = some k₀ → compositeOf k₀ = compositeOf k) :
    db'.payoutIdempotencyKeys.findUnique b.compositeIndex =
      db.payoutIdempotencyKeys.findUnique b.compositeIndex := by
  refine Option.ext fun r => ?_
  rw [findUnique_shared, findUnique_shared]
  refine and_congr_left fun hr => ?_
  by_cases hid : r.id = a.deterministicId cfg
  · rw [hid, h.key]
    constructor
    · intro heq
      cases heq
      exact absurd hr hshared
    · intro heq
      exact absurd ((hold r heq).symm.trans hr) hshared
  · rw [h.others.keys r.id hid]

theorem checkPolicy_congr {db db' : Db} (h : SameParties db db') :
    checkPolicy b db' = checkPolicy b db := by
  rw [checkPolicy, checkPolicy, h.policies]

theorem sharedVerdict_open {k : PayoutIdempotencyKey} (hsuccess : k.payoutState ≠ .SUCCESS)
    (hprocessing : k.payoutState ≠ .PROCESSING) :
    sharedVerdict (some k) = .error constraintFailed := by
  cases hstate : k.payoutState with
  | SUCCESS => exact absurd hstate hsuccess
  | PROCESSING => exact absurd hstate hprocessing
  | PENDING | FAILED => simp only [sharedVerdict, hstate]

/-- Without interference the record that the call for `a` leaves is under another index, or stays
open. -/
theorem shared_or_open (htakes : TakesLock cfg a w.db) (howns : OwnsPolicy b w.db)
    (hfits : FitsInt4 b.eventTimestamp) (hown : keyOf w.db (b.deterministicId cfg) = none)
    (hnot : ¬Interferes cfg ioA a b w)
    (hshared : compositeOf (lockedKey cfg a w.db) = b.compositeIndex) :
    (railResult cfg ioA a w).isOk = false ∧
      sharedVerdict (w.db.payoutIdempotencyKeys.findUnique b.compositeIndex) =
        .error constraintFailed := by
  rw [compositeOf_lockedKey] at hshared
  have hopen := htakes.2.2
  cases hfirst : keyOf w.db (a.deterministicId cfg) with
  | none =>
      simp only [hfirst] at hshared
      refine absurd ⟨htakes, howns, hfits, hown, ?_⟩ hnot
      simp only [hfirst]
      exact hshared
  | some k₀ =>
      simp only [hfirst] at hshared hopen
      constructor
      · by_contra hpaid
        refine hnot ⟨htakes, howns, hfits, hown, ?_⟩
        simp only [hfirst]
        exact ⟨hshared, by simpa using hpaid⟩
      · rw [findUnique_shared_of_own hfirst hshared, sharedVerdict_open hopen.1 hopen.2]

/-- Without interference the records lead `b` to the same. -/
theorem verdict_after (h : Unhindered cfg ioA a w.db)
    (hids : b.deterministicId cfg ≠ a.deterministicId cfg) (hnot : ¬Interferes cfg ioA a b w) :
    verdict cfg b (afterCall cfg ioA a w).db = verdict cfg b w.db := by
  by_cases htakes : TakesLock cfg a w.db
  · obtain ⟨k, row, hafter, hcomposite, hstate⟩ := after_record h htakes
    have hcheck : checkPolicy b (afterCall cfg ioA a w).db = checkPolicy b w.db :=
      checkPolicy_congr hafter.others.parties
    have hkey := hafter.others.keys _ hids
    cases hown : keyOf w.db (b.deterministicId cfg) with
    | some kb => rw [verdict_of_own hown, verdict_of_own (hkey.trans hown), hcheck]
    | none =>
        rw [verdict_of_fresh hown, verdict_of_fresh (hkey.trans hown), hcheck]
        by_cases hshared : compositeOf k = b.compositeIndex
        · rw [shared_after_of_eq hafter hshared]
          cases howner : checkPolicy b w.db with
          | error e => rfl
          | ok _ =>
              by_cases hfits : FitsInt4 b.eventTimestamp
              · obtain ⟨hunpaid, hbefore⟩ := shared_or_open htakes (checkPolicy_eq_ok.mp howner)
                  hfits hown hnot (hcomposite.symm.trans hshared)
                rw [hunpaid] at hstate
                rw [hbefore, sharedVerdict_open (by rw [hstate]; decide) (by rw [hstate]; decide)]
              · simp [require, hfits]
        · rw [shared_after_of_ne hafter hshared]
          intro k₀ hk₀
          rw [compositeOf_lockedKey] at hcomposite
          simp only [hk₀] at hcomposite
          exact hcomposite.symm
  · rw [afterCall_of_not_takesLock h htakes]

/-- A call that was not cached does not report a cached success. -/
theorem cached_of_verdict {io : Io} {dto : ParametricPayoutDto} {w : World} {r : PayoutResult}
    (h : Unhindered cfg io dto w.db) (hr : (processParametricPayout cfg io dto w).1 = .ok r)
    (hcached : r.cached = true) :
    ∃ k, verdict cfg dto w.db = .ok (some k) ∧ r = cachedResult k.payoutId k.id := by
  cases hv : verdict cfg dto w.db with
  | error e =>
      rw [process_error h.preTx hv] at hr
      cases hr
  | ok found =>
      cases found with
      | some k =>
          rw [process_cached h.preTx hv] at hr
          cases hr
          exact ⟨k, rfl, rfl⟩
      | none =>
          have htakes := verdict_eq_none_iff.mp hv
          obtain ⟨db, hlocked⟩ := exists_locked h.preTx hv (h.writable htakes)
          cases hrail : railResult cfg io dto w with
          | error e =>
              rw [(process_unpaid hlocked hrail).1] at hr
              cases hr
          | ok p =>
              rw [(process_paid hlocked h.phase2 hrail).1] at hr
              cases hr
              cases hcached

/-- A claim with no record of its own goes by the shared one. -/
theorem verdict_of_shared {dto : ParametricPayoutDto} {db : Db} (howns : OwnsPolicy dto db)
    (hfits : FitsInt4 dto.eventTimestamp) (hown : keyOf db (dto.deterministicId cfg) = none) :
    verdict cfg dto db =
      sharedVerdict (db.payoutIdempotencyKeys.findUnique dto.compositeIndex) := by
  rw [verdict_of_fresh hown, checkPolicy_eq_ok.mpr howns]
  simp [require, hfits]

/-- The shared record that the call for `a` leaves decides what becomes of `b`. -/
theorem result_after_record (h : ElseSucceeds cfg ioA a ioB b w) {k : PayoutIdempotencyKey}
    (hverdict : verdict cfg b (afterCall cfg ioA a w).db = sharedVerdict (some k))
    (hstate : k.payoutState = if (railResult cfg ioA a w).isOk then .SUCCESS else .FAILED) :
    (processParametricPayout cfg ioB b (afterCall cfg ioA a w)).1 =
      if (railResult cfg ioA a w).isOk then .ok (cachedResult k.payoutId k.id)
      else .error constraintFailed := by
  cases hrail : (railResult cfg ioA a w).isOk with
  | true =>
      rw [hrail] at hstate
      have hcached : verdict cfg b (afterCall cfg ioA a w).db = .ok (some k) := by
        simp only [hverdict, sharedVerdict, hstate, if_true]
      rw [process_cached h.secondAfter.preTx hcached]
      rfl
  | false =>
      rw [hrail] at hstate
      have hrefused : verdict cfg b (afterCall cfg ioA a w).db = .error constraintFailed := by
        rw [hverdict]
        exact sharedVerdict_open (by rw [hstate]; decide) (by rw [hstate]; decide)
      rw [process_error h.secondAfter.preTx hrefused]
      rfl

theorem result_alone (h : ElseSucceeds cfg ioA a ioB b w)
    (hverdict : verdict cfg b w.db = .ok none) :
    ∃ r, (processParametricPayout cfg ioB b w).1 = .ok r ∧ r.cached = false := by
  have htakes := verdict_eq_none_iff.mp hverdict
  obtain ⟨db, hlocked⟩ := exists_locked h.second.preTx hverdict (h.second.writable htakes)
  obtain ⟨p, hp⟩ := isOk_iff.mp (h.paid htakes)
  exact ⟨_, (process_paid hlocked h.second.phase2 hp).1, rfl⟩

/-- With interference the results differ. -/
theorem result_ne_of_interferes (h : ElseSucceeds cfg ioA a ioB b w)
    (hids : b.deterministicId cfg ≠ a.deterministicId cfg)
    (hinterferes : Interferes cfg ioA a b w) :
    (processParametricPayout cfg ioB b (afterCall cfg ioA a w)).1 ≠
      (processParametricPayout cfg ioB b w).1 := by
  obtain ⟨htakes, howns, hfits, hown, hfirst⟩ := hinterferes
  obtain ⟨k, row, hafter, hcomposite, hstate⟩ := after_record h.first htakes
  have hshared : compositeOf k = b.compositeIndex := by
    rw [hcomposite, compositeOf_lockedKey]
    cases hkey : keyOf w.db (a.deterministicId cfg) with
    | none =>
        simp only [hkey] at hfirst
        exact hfirst
    | some k₀ =>
        simp only [hkey] at hfirst
        exact hfirst.1
  have hbefore := verdict_of_shared howns hfits hown
  have hafterB : verdict cfg b (afterCall cfg ioA a w).db = sharedVerdict (some k) := by
    have howns' : OwnsPolicy b (afterCall cfg ioA a w).db :=
      checkPolicy_eq_ok.mp
        ((checkPolicy_congr hafter.others.parties).trans (checkPolicy_eq_ok.mpr howns))
    rw [verdict_of_shared howns' hfits ((hafter.others.keys _ hids).trans hown),
      shared_after_of_eq hafter hshared]
  rw [result_after_record h hafterB hstate]
  have hlookup := htakes.2.2
  cases hkey : keyOf w.db (a.deterministicId cfg) with
  | none =>
      -- alone, `b` is paid
      simp only [hkey] at hfirst hlookup
      rw [hfirst] at hlookup
      rw [hlookup] at hbefore
      obtain ⟨r, hr, hfresh⟩ := result_alone h hbefore
      rw [hr]
      intro hsame
      split at hsame
      · cases hsame
        cases hfresh
      · cases hsame
  | some k₀ =>
      -- alone, `b` is refused
      simp only [hkey] at hfirst hlookup
      rw [findUnique_shared_of_own hkey hfirst.1, sharedVerdict_open hlookup.1 hlookup.2] at hbefore
      rw [hfirst.2, process_error h.second.preTx hbefore]
      intro hsame
      cases hsame

theorem rowOf_afterCall (h : Unhindered cfg ioA a w.db)
    (hdistinct : ¬(b.policyId = a.policyId ∧ b.disruptionEventId = a.disruptionEventId)) :
    SameParties w.db (afterCall cfg ioA a w).db ∧
      rowOf (afterCall cfg ioA a w).db b.policyId b.disruptionEventId =
        rowOf w.db b.policyId b.disruptionEventId := by
  by_cases htakes : TakesLock cfg a w.db
  · obtain ⟨k, row, hafter, -⟩ := after_record h htakes
    exact ⟨hafter.others.parties, hafter.others.rowOf hdistinct⟩
  · rw [afterCall_of_not_takesLock h htakes]
    exact ⟨.refl _, rfl⟩

/-- Whatever the store and the answers of the gateway to `a`: the call for `b` is independent of
it exactly when `a` leaves no record that stands for `b`. -/
theorem independent_iff (hsha : Function.Injective cfg.sha256) (hpa : '_' ∉ a.policyId.toList)
    (hpb : '_' ∉ b.policyId.toList)
    (hdistinct : ¬(b.policyId = a.policyId ∧ b.disruptionEventId = a.disruptionEventId))
    (h : ElseSucceeds cfg ioA a ioB b w) :
    Independent cfg ioA a ioB b w ↔ ¬Interferes cfg ioA a b w ∧ OwnRecord cfg b w.db := by
  have hids : b.deterministicId cfg ≠ a.deterministicId cfg := by
    intro heq
    obtain ⟨hpolicy, hevent, -⟩ := (Idempotency.buildKey_inj hsha hpb hpa).mp heq
    exact hdistinct ⟨hpolicy, hevent⟩
  obtain ⟨hparties, hrow⟩ := rowOf_afterCall h.first hdistinct
  constructor
  · intro hindependent
    have hnot : ¬Interferes cfg ioA a b w := fun hinterferes =>
      result_ne_of_interferes h hids hinterferes hindependent.result
    refine ⟨hnot, fun k howns hfound hsuccess => ?_⟩
    have hcached := (verdict_after h.first hids hnot).trans
      (verdict_eq_some_iff.mpr ⟨howns, hfound, hsuccess⟩)
    have hprocess : processParametricPayout cfg ioB b (afterCall cfg ioA a w) =
        (.ok (cachedResult k.payoutId k.id), afterCall cfg ioA a w) :=
      process_cached h.secondAfter.preTx hcached
    obtain ⟨row, hpayoutId, hrow'⟩ := hindependent.own _ (by rw [hprocess]) rfl
    refine ⟨row, hpayoutId, ?_⟩
    rw [hprocess, hrow] at hrow'
    exact hrow'
  · rintro ⟨hnot, hown⟩
    have hverdict := verdict_after h.first hids hnot
    obtain ⟨hresult, hafter⟩ := same_of_verdict hverdict hparties hrow h.second h.secondAfter
      h.paid h.paidAfter
    refine ⟨hresult, hafter, fun r hr hcached => ?_⟩
    obtain ⟨k, hk, rfl⟩ := cached_of_verdict h.secondAfter hr hcached
    obtain ⟨howns, hfound, hsuccess⟩ := verdict_eq_some_iff.mp (hverdict.symm.trans hk)
    obtain ⟨row, hpayoutId, hrow'⟩ := hown k howns hfound hsuccess
    refine ⟨row, hpayoutId, ?_⟩
    rw [process_cached h.secondAfter.preTx hk, hrow]
    exact hrow'

end Independence

/-! ## One driver with two policies -/

namespace Siblings

open Sample

/-- A second policy of the driver. -/
def secondPolicy : Policy := { policy with id := "p2" }

def driverDb : Db :=
  { db with policies := ((Table.singleton policy).create secondPolicy).getD .empty }

def dtoSecond : ParametricPayoutDto := { dto with policyId := "p2" }

def ioSecond : Io :=
  { io with
    payoutId := "po2"
    claimCaseId := "cc2"
    payout := [.answered ⟨"pout_2", none⟩] }

/-- An hour later. -/
def dtoLater : ParametricPayoutDto := { dtoSecond with eventTimestamp := 10800 }

theorem unhindered {io : Io} {dto : ParametricPayoutDto} {db : Db} (hpre : io.preTx = true)
    (hphase2 : io.phase2 = true) (hmark : io.markFailed = true)
    (hwritable : (lockPayout io dto db >>= fun locked =>
      trackClaimCase cfg io dto locked.2 locked.1).isOk = true) : Unhindered cfg io dto db :=
  ⟨hpre, hphase2, hmark, fun _ => writable_of_isOk hwritable⟩

theorem elseSucceeds_later :
    ElseSucceeds cfg io dto ioSecond dtoLater ⟨driverDb, []⟩ where
  first := unhindered rfl rfl rfl (by decide)
  second := unhindered rfl rfl rfl (by decide)
  secondAfter := unhindered rfl rfl rfl (by decide)
  paid _ := by decide
  paidAfter _ := by decide

theorem elseSucceeds_same :
    ElseSucceeds cfg io dto ioSecond dtoSecond ⟨driverDb, []⟩ where
  first := unhindered rfl rfl rfl (by decide)
  second := unhindered rfl rfl rfl (by decide)
  secondAfter := unhindered rfl rfl rfl (by decide)
  paid _ := by decide
  paidAfter _ := by decide

theorem elseSucceeds_refused :
    ElseSucceeds cfg ioRefused dto ioSecond dtoSecond ⟨driverDb, []⟩ where
  first := unhindered rfl rfl rfl (by decide)
  second := unhindered rfl rfl rfl (by decide)
  secondAfter := unhindered rfl rfl rfl (by decide)
  paid _ := by decide
  paidAfter _ := by decide

end Siblings

open Sample Siblings in
/-- Claims an hour apart do not meet. -/
theorem independent_later : Independent cfg io dto ioSecond dtoLater ⟨driverDb, []⟩ := by
  have hnone : keyOf driverDb (dto.deterministicId cfg) = none := rfl
  refine (independent_iff Function.injective_id (by decide) (by decide) (by decide)
    elseSucceeds_later).mpr ⟨?_, fun k _ hfound _ => ?_⟩
  · rintro ⟨-, -, -, -, hshared⟩
    simp only [hnone] at hshared
    revert hshared
    decide
  · have hempty : findIdempotencyKey cfg dtoLater driverDb = .ok none := by decide
    rw [hempty] at hfound
    cases hfound

open Sample Siblings in
/-- Claims at one time in one cell do: the second is told that it is settled by the payout of the
first, or it is refused because the first has failed. -/
theorem not_independent :
    (ElseSucceeds cfg io dto ioSecond dtoSecond ⟨driverDb, []⟩ ∧
      ¬Independent cfg io dto ioSecond dtoSecond ⟨driverDb, []⟩ ∧
      (processParametricPayout cfg ioSecond dtoSecond (afterCall cfg io dto ⟨driverDb, []⟩)).1 =
        .ok (cachedResult (some "po1") (dto.deterministicId cfg))) ∧
    ElseSucceeds cfg ioRefused dto ioSecond dtoSecond ⟨driverDb, []⟩ ∧
      ¬Independent cfg ioRefused dto ioSecond dtoSecond ⟨driverDb, []⟩ := by
  have hcached : (processParametricPayout cfg ioSecond dtoSecond
      (afterCall cfg io dto ⟨driverDb, []⟩)).1 =
        .ok (cachedResult (some "po1") (dto.deterministicId cfg)) := by
    decide
  have hrefused : (processParametricPayout cfg ioSecond dtoSecond
      (afterCall cfg ioRefused dto ⟨driverDb, []⟩)).1 = .error constraintFailed := by
    decide
  have hpaid : (processParametricPayout cfg ioSecond dtoSecond ⟨driverDb, []⟩).1 =
      .ok (settledResult "po2" ⟨"pout_2", none⟩) := by
    decide
  refine ⟨⟨elseSucceeds_same, fun h => ?_, hcached⟩, elseSucceeds_refused, fun h => ?_⟩
  · have hsame := h.result
    rw [hcached, hpaid] at hsame
    cases hsame
  · have hsame := h.result
    rw [hrefused, hpaid] at hsame
    cases hsame

end Aegis.Payments
