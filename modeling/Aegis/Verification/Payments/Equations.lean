import Aegis.Model.Payments

/-! # What one parametric payout call does

Every case of `processParametricPayout`, with what each stage changes in the store. -/

namespace Aegis.Payments

open Outcome Gateway LiquidityPool

/-! ## Requests to the gateway -/

section Requests

variable {α : Type}

/-- Whatever the gateway executed is what the caller is told. -/
def Sound (r : Reply α) : Prop := ∀ a, r.executed = some a → r = .answered a

/-- The result of a request body is the last thing that was executed. -/
theorem withRetry_fetchPost_json (retries : ℕ) (w : Wire α) {a : α}
    (h : (withRetry fetchPost retries w).1 = .ok (.json a)) :
    a ∈ (withRetry fetchPost retries w).2.executed := by
  have hfetch : ∀ w : Wire α, (fetchPost w).1 = .ok (.json a) → a ∈ (fetchPost w).2.executed := by
    rintro ⟨replies, executed⟩ hw
    cases replies with
    | nil => simp [fetchPost] at hw
    | cons r rest => cases r <;> simp_all [fetchPost, Reply.response, Reply.executed]
  induction retries generalizing w with
  | zero => exact hfetch w h
  | succ retries ih =>
      simp only [withRetry] at h ⊢
      cases hop : fetchPost w with
      | mk result w' =>
          cases result with
          | ok response =>
              simp only [hop] at h ⊢
              simpa [hop, h] using hfetch w
          | error e =>
              simp only [hop] at h ⊢
              exact ih w' h

/-- Without a lost execution, a retried fetch executes at most once and then answers. -/
theorem withRetry_fetchPost_sound (retries : ℕ) (replies : List (Reply α)) (executed : List α)
    (h : ∀ r ∈ replies, Sound r) :
    (withRetry fetchPost retries ⟨replies, executed⟩).2.executed = executed ∧
        (∀ a, (withRetry fetchPost retries ⟨replies, executed⟩).1 ≠ .ok (.json a)) ∨
      ∃ a, (withRetry fetchPost retries ⟨replies, executed⟩).1 = .ok (.json a) ∧
        (withRetry fetchPost retries ⟨replies, executed⟩).2.executed = executed ++ [a] := by
  induction retries generalizing replies with
  | zero =>
      cases replies with
      | nil => simp [withRetry, fetchPost]
      | cons r rest =>
          have hr := h r (by simp)
          cases r <;> simp_all [withRetry, fetchPost, Reply.response, Reply.executed, Sound]
  | succ retries ih =>
      cases replies with
      | nil => simpa [withRetry, fetchPost] using ih [] (by simp)
      | cons r rest =>
          have hr := h r (by simp)
          have hrest := ih rest fun r hmem => h r (by simp [hmem])
          cases r <;> simp_all [withRetry, fetchPost, Reply.response, Reply.executed, Sound]

theorem mem_of_razorpayXRequest {env : Env} {path : String} {replies : List (Reply α)} {a : α}
    (h : (razorpayXRequest env path replies).1 = .ok a) :
    a ∈ (razorpayXRequest env path replies).2 := by
  unfold razorpayXRequest at h ⊢
  split at h
  · rename_i hcred
    simp only [hcred, if_true]
    obtain ⟨response, hresponse, hbody⟩ := bind_eq_ok.mp h
    cases response with
    | notOk status text => cases hbody
    | notJson message => cases hbody
    | json body =>
        cases hbody
        exact withRetry_fetchPost_json 2 _ hresponse
  · cases h

/-- Without a lost execution a request is executed exactly when it succeeds, and once. -/
theorem razorpayXRequest_sound (env : Env) (path : String) {replies : List (Reply α)}
    (h : ∀ r ∈ replies, Sound r) :
    (∃ e, razorpayXRequest env path replies = (.error e, [])) ∨
      ∃ a, razorpayXRequest env path replies = (.ok a, [a]) := by
  unfold razorpayXRequest
  split
  · rcases withRetry_fetchPost_sound 2 replies [] h with ⟨hexec, hres⟩ | ⟨a, hres, hexec⟩
    · refine .inl ?_
      cases hr : (withRetry fetchPost 2 ⟨replies, []⟩).1 with
      | error e => exact ⟨e, by simp [hr, hexec]⟩
      | ok response =>
          cases response with
          | notOk status text => exact ⟨_, by simp [hr, hexec, readBody]; rfl⟩
          | notJson message => exact ⟨_, by simp [hr, hexec, readBody]; rfl⟩
          | json body => exact absurd hr (hres body)
    · exact .inr ⟨a, by simp [hres, hexec, readBody]⟩
  · exact .inl ⟨_, rfl⟩

end Requests

/-! ## The tables around a claim -/

/-- The tables that a settlement only reads. -/
structure SameParties (db db' : Db) : Prop where
  users : db'.users = db.users
  kycProfiles : db'.kycProfiles = db.kycProfiles
  kycPayoutSetups : db'.kycPayoutSetups = db.kycPayoutSetups
  weeklyPlans : db'.weeklyPlans = db.weeklyPlans
  disruptionEvents : db'.disruptionEvents = db.disruptionEvents
  policies : db'.policies = db.policies

theorem SameParties.refl (db : Db) : SameParties db db := ⟨rfl, rfl, rfl, rfl, rfl, rfl⟩

theorem SameParties.trans {db db' db'' : Db} (h : SameParties db db')
    (h' : SameParties db' db'') : SameParties db db'' :=
  ⟨h'.users.trans h.users, h'.kycProfiles.trans h.kycProfiles,
    h'.kycPayoutSetups.trans h.kycPayoutSetups, h'.weeklyPlans.trans h.weeklyPlans,
    h'.disruptionEvents.trans h.disruptionEvents, h'.policies.trans h.policies⟩

abbrev keyOf (db : Db) (id : String) : Option PayoutIdempotencyKey :=
  db.payoutIdempotencyKeys.findUnique (.id id)

abbrev rowOf (db : Db) (policyId disruptionEventId : String) : Option Payout :=
  db.payouts.findUnique (.policyId_disruptionEventId policyId disruptionEventId)

/-- Every key but the one under `id` and every row but that of the claim is kept. -/
structure OthersKept (id : String) (claim : PayoutIndex) (db db' : Db) : Prop where
  parties : SameParties db db'
  keys : ∀ id', id' ≠ id → keyOf db' id' = keyOf db id'
  rows : ∀ r : Payout, claim ∉ r.keys → (r ∈ db'.payouts.rows ↔ r ∈ db.payouts.rows)

theorem OthersKept.refl (id : String) (claim : PayoutIndex) (db : Db) :
    OthersKept id claim db db := ⟨.refl db, fun _ _ => rfl, fun _ _ => Iff.rfl⟩

theorem OthersKept.trans {id : String} {claim : PayoutIndex} {db db' db'' : Db}
    (h : OthersKept id claim db db') (h' : OthersKept id claim db' db'') :
    OthersKept id claim db db'' :=
  ⟨h.parties.trans h'.parties, fun k hk => (h'.keys k hk).trans (h.keys k hk),
    fun r hr => (h'.rows r hr).trans (h.rows r hr)⟩

/-- The row of any other claim is still found. -/
theorem OthersKept.rowOf {id policyId disruptionEventId : String} {db db' : Db}
    (h : OthersKept id (.policyId_disruptionEventId policyId disruptionEventId) db db')
    {policyId' disruptionEventId' : String}
    (hne : ¬(policyId' = policyId ∧ disruptionEventId' = disruptionEventId)) :
    Payments.rowOf db' policyId' disruptionEventId' =
      Payments.rowOf db policyId' disruptionEventId' := by
  have hkept : ∀ r : Payout, PayoutIndex.policyId_disruptionEventId policyId'
      disruptionEventId' ∈ r.keys → (r ∈ db'.payouts.rows ↔ r ∈ db.payouts.rows) := by
    intro r hr
    refine h.rows r fun hmem => hne ?_
    obtain ⟨hpolicy, hevent⟩ := Payout.event_mem_keys_iff.mp hr
    obtain ⟨hpolicy', hevent'⟩ := Payout.event_mem_keys_iff.mp hmem
    exact ⟨hpolicy.trans hpolicy'.symm, hevent.trans hevent'.symm⟩
  refine Option.ext fun r => ?_
  rw [Table.findUnique_eq_some, Table.findUnique_eq_some]
  exact and_congr_left fun hr => hkept r hr

/-! ## The pre-gateway transaction -/

section PreGateway

variable {cfg : Config} {io : Io} {dto : ParametricPayoutDto} {db db' : Db}

theorem checkPolicy_eq_ok : checkPolicy dto db = .ok () ↔
    ∃ policy, db.policies.findUnique dto.policyId = some policy ∧ policy.userId = dto.userId := by
  unfold checkPolicy
  cases db.policies.findUnique dto.policyId with
  | none => simp
  | some policy => simp

/-- The claim's key once locked: the old one or a new one, in flight. -/
def lockedKey (cfg : Config) (dto : ParametricPayoutDto) (db : Db) : PayoutIdempotencyKey :=
  ((keyOf db (dto.deterministicId cfg)).map (setPayoutState .PROCESSING).apply).getD
    (newIdempotencyKey cfg dto)

/-- The ledger row once locked: the old one or a new one, in flight. -/
def lockedRow (io : Io) (dto : ParametricPayoutDto) (db : Db) : Payout :=
  ((rowOf db dto.policyId dto.disruptionEventId).map (setStatus .PROCESSING).apply).getD
    (newPayout io dto)

theorem lockIdempotencyKey_spec (h : lockIdempotencyKey cfg dto db = .ok db') :
    keyOf db' (dto.deterministicId cfg) = some (lockedKey cfg dto db) ∧
      OthersKept (dto.deterministicId cfg) dto.payoutIndex db db' ∧
      db'.payouts = db.payouts := by
  obtain ⟨_, -, h⟩ := bind_eq_ok.mp h
  obtain ⟨keys, hkeys, h⟩ := bind_eq_ok.mp h
  cases h
  rw [orThrow_eq_ok] at hkeys
  refine ⟨?_, ⟨⟨rfl, rfl, rfl, rfl, rfl, rfl⟩, fun id' hne => ?_, fun _ _ => Iff.rfl⟩, rfl⟩
  · exact Table.findUnique_upsert_self hkeys (by simp [newIdempotencyKey])
  · refine Table.findUnique_upsert_of_notMem hkeys ?_ fun s hs hmem => hne ?_
    · simpa [newIdempotencyKey] using hne
    · have hid := Table.key_of_findUnique hs
      simp only [PayoutIdempotencyKey.id_mem_keys_iff] at hid hmem
      exact hid.trans hmem.symm

theorem lockPayout_spec (id : String) {payoutId : String}
    (h : lockPayout io dto db = .ok (payoutId, db')) :
    payoutId = (lockedRow io dto db).id ∧
      rowOf db' dto.policyId dto.disruptionEventId = some (lockedRow io dto db) ∧
      OthersKept id dto.payoutIndex db db' ∧
      db'.payoutIdempotencyKeys = db.payoutIdempotencyKeys := by
  unfold lockPayout at h
  cases hrow : rowOf db dto.policyId dto.disruptionEventId with
  | some r₀ =>
      have hlocked : lockedRow io dto db = (setStatus .PROCESSING).apply r₀ := by
        simp [lockedRow, hrow]
      have hfind : db.payouts.findUnique dto.payoutIndex = some r₀ := hrow
      rw [hfind] at h
      cases h
      rw [hlocked]
      refine ⟨rfl, ?_, ⟨⟨rfl, rfl, rfl, rfl, rfl, rfl⟩, fun _ _ => rfl, fun r hr => ?_⟩, rfl⟩
      · exact (Table.findUnique_update_self _ _ _).trans (congrArg (Option.map _) hrow)
      · exact Table.mem_update_of_notMem hr
  | none =>
      have hlocked : lockedRow io dto db = newPayout io dto := by simp [lockedRow, hrow]
      have hfind : db.payouts.findUnique dto.payoutIndex = none := hrow
      rw [hfind] at h
      obtain ⟨_, -, h⟩ := bind_eq_ok.mp h
      obtain ⟨payouts, hcreate, h⟩ := bind_eq_ok.mp h
      cases h
      rw [orThrow_eq_ok] at hcreate
      have hown : dto.payoutIndex ∈ (newPayout io dto).keys := by
        simp [Payout.keys, newPayout, ParametricPayoutDto.payoutIndex]
      rw [hlocked]
      refine ⟨rfl, ?_, ⟨⟨rfl, rfl, rfl, rfl, rfl, rfl⟩, fun _ _ => rfl, fun r hr => ?_⟩, rfl⟩
      · exact (Table.findUnique_create hcreate dto.payoutIndex).trans (if_pos hown)
      · rw [Table.mem_create hcreate]
        refine ⟨fun hmem => hmem.resolve_right ?_, .inl⟩
        rintro rfl
        exact hr hown

theorem trackClaimCase_spec {payoutId : String}
    (h : trackClaimCase cfg io dto db payoutId = .ok db') :
    OthersKept (dto.deterministicId cfg) dto.payoutIndex db db' ∧
      db'.payouts = db.payouts ∧ db'.payoutIdempotencyKeys = db.payoutIdempotencyKeys := by
  have hkept : ∀ claimCases, OthersKept (dto.deterministicId cfg) dto.payoutIndex db
      { db with claimCases } := fun claimCases =>
    ⟨⟨rfl, rfl, rfl, rfl, rfl, rfl⟩, fun _ _ => rfl, fun _ _ => Iff.rfl⟩
  unfold trackClaimCase at h
  split at h
  · obtain ⟨claimCases, -, h⟩ := bind_eq_ok.mp h
    cases h
    exact ⟨hkept claimCases, rfl, rfl⟩
  · obtain ⟨_, -, h⟩ := bind_eq_ok.mp h
    obtain ⟨claimCases, -, h⟩ := bind_eq_ok.mp h
    cases h
    exact ⟨hkept claimCases, rfl, rfl⟩

/-- The key and the row of the claim in `db'`, everything else being as in `db`. -/
structure ClaimAfter (cfg : Config) (dto : ParametricPayoutDto) (db db' : Db)
    (key : PayoutIdempotencyKey) (row : Payout) : Prop where
  key : keyOf db' (dto.deterministicId cfg) = some key
  row : rowOf db' dto.policyId dto.disruptionEventId = some row
  others : OthersKept (dto.deterministicId cfg) dto.payoutIndex db db'

theorem writeLock_spec {pre : PreTx} (h : writeLock cfg io dto db = .ok (pre, db')) :
    pre = .gateway (lockedRow io dto db).id (dto.deterministicId cfg) ∧
      ClaimAfter cfg dto db db' (lockedKey cfg dto db) (lockedRow io dto db) := by
  obtain ⟨db₁, hkey, h⟩ := bind_eq_ok.mp h
  obtain ⟨⟨payoutId, db₂⟩, hrow, h⟩ := bind_eq_ok.mp h
  obtain ⟨db₃, hcase, h⟩ := bind_eq_ok.mp h
  cases h
  obtain ⟨hlocked, hothers, hpayouts⟩ := lockIdempotencyKey_spec hkey
  obtain ⟨hid, hrow', hothers', hkeys⟩ := lockPayout_spec (dto.deterministicId cfg) hrow
  obtain ⟨hothers'', hpayouts', hkeys'⟩ := trackClaimCase_spec hcase
  have hsame : lockedRow io dto db₁ = lockedRow io dto db := by
    rw [lockedRow, lockedRow, rowOf, rowOf, hpayouts]
  rw [hsame] at hid hrow'
  refine ⟨by rw [hid], ?_, ?_, (hothers.trans hothers').trans hothers''⟩
  · rw [keyOf, hkeys', hkeys]
    exact hlocked
  · rw [rowOf, hpayouts']
    exact hrow'

/-- The driver named in the request owns the policy. -/
def OwnsPolicy (dto : ParametricPayoutDto) (db : Db) : Prop :=
  ∃ policy, db.policies.findUnique dto.policyId = some policy ∧ policy.userId = dto.userId

/-- The gate is passed and the key that was found, if any, neither settled nor in flight. -/
structure Admitted (cfg : Config) (dto : ParametricPayoutDto) (db : Db) : Prop where
  owner : OwnsPolicy dto db
  free : ∃ found, findIdempotencyKey cfg dto db = .ok found ∧
    ∀ k, found = some k → k.payoutState ≠ .SUCCESS ∧ k.payoutState ≠ .PROCESSING

/-- A committed pre-gateway transaction found a settled key or took the lock. -/
theorem preTx_cases {pre : PreTx} (h : preTx cfg io dto db = .ok (pre, db')) :
    (OwnsPolicy dto db ∧ ∃ k, findIdempotencyKey cfg dto db = .ok (some k) ∧
        k.payoutState = .SUCCESS ∧ pre = .cached k.payoutId k.id ∧ db' = db) ∨
      (Admitted cfg dto db ∧ pre = .gateway (lockedRow io dto db).id (dto.deterministicId cfg) ∧
        ClaimAfter cfg dto db db' (lockedKey cfg dto db) (lockedRow io dto db)) := by
  unfold preTx at h
  split at h
  · obtain ⟨_, hcheck, h⟩ := bind_eq_ok.mp h
    obtain ⟨found, hfound, h⟩ := bind_eq_ok.mp h
    have howner := checkPolicy_eq_ok.mp hcheck
    cases found with
    | none => exact .inr ⟨⟨howner, none, hfound, by simp⟩, writeLock_spec h⟩
    | some k =>
        cases hstate : k.payoutState with
        | SUCCESS =>
            simp only [hstate] at h
            cases h
            exact .inl ⟨howner, k, hfound, hstate, rfl, rfl⟩
        | PROCESSING =>
            simp only [hstate] at h
            cases h
        | PENDING | FAILED =>
            simp only [hstate] at h
            exact .inr ⟨⟨howner, some k, hfound, by simp [hstate]⟩, writeLock_spec h⟩
  · cases h

end PreGateway

/-! ## The handshake -/

section Handshake

variable (cfg : Config) (io : Io) (dto : ParametricPayoutDto)

/-- A transfer made for the driver, claim and amount of the request. -/
structure OwnTransfer (dto : ParametricPayoutDto) (t : Transfer) : Prop where
  userId : t.userId = dto.userId
  policyId : t.policyId = dto.policyId
  disruptionEventId : t.disruptionEventId = dto.disruptionEventId
  amount : t.amountPaise = amountPaise dto.approvedPayout

/-- A rail's result beside the transfers it executed. -/
structure RailSpec (io : Io) (dto : ParametricPayoutDto) (result : Except Exn RazorpayPayout)
    (executed : List Transfer) : Prop where
  own : ∀ t ∈ executed, OwnTransfer dto t
  paid : ∀ p, result = .ok p → ∃ t ∈ executed, t.id = p.id
  sound : (∀ r ∈ io.payout, Sound r) →
    (executed = [] ∧ ∃ e, result = .error e) ∨ ∃ p t, result = .ok p ∧ executed = [t]

variable {io dto} in
theorem railSpec_error (e : Exn) : RailSpec io dto (.error e) [] :=
  ⟨by simp, by simp, fun _ => .inl ⟨rfl, e, rfl⟩⟩

theorem payByRazorpayX_spec (user : User) (setup : KYCPayoutSetup) (referenceId : String) :
    RailSpec io dto (payByRazorpayX cfg io dto user setup referenceId).1
      (payByRazorpayX cfg io dto user setup referenceId).2 := by
  unfold payByRazorpayX
  split
  · exact railSpec_error _
  · split
    · exact railSpec_error _
    · split
      · exact railSpec_error _
      · rename_i fundAccount _ _ _ _
        refine ⟨?_, ?_, fun hsound => ?_⟩
        · simp only [List.mem_map]
          rintro t ⟨p, -, rfl⟩
          exact ⟨rfl, rfl, rfl, rfl⟩
        · intro p hp
          exact ⟨_, List.mem_map_of_mem (mem_of_razorpayXRequest hp), rfl⟩
        · rcases razorpayXRequest_sound cfg.env "/payouts" hsound with ⟨e, h⟩ | ⟨p, h⟩
          · exact .inl ⟨by simp [h], e, by simp [h]⟩
          · exact .inr ⟨p, _, by simp [h], by simp [h]; rfl⟩

theorem handshake_spec (payoutId : String) (w : World) :
    ∃ executed systemSettings,
      (handshake cfg io dto payoutId w).2 =
        ⟨{ w.db with systemSettings }, w.transfers ++ executed⟩ ∧
      RailSpec io dto (handshake cfg io dto payoutId w).1 executed := by
  have hnothing : ∀ e : Exn, ∃ executed systemSettings,
      w = ⟨{ w.db with systemSettings }, w.transfers ++ executed⟩ ∧
        RailSpec io dto (.error e) executed := fun e =>
    ⟨[], w.db.systemSettings, by simp, railSpec_error e⟩
  unfold handshake
  split
  · exact hnothing _
  · split
    · split
      · exact hnothing _
      · exact ⟨_, w.db.systemSettings, rfl, payByRazorpayX_spec cfg io dto _ _ _⟩
    · split
      · dsimp only
        cases hpipeline : executeHardenedSettlementPipeline io dto (payoutReference payoutId)
            w.db.systemSettings with
        | error e => exact hnothing e
        | ok settled =>
            obtain ⟨_, -, h⟩ := bind_eq_ok.mp hpipeline
            cases h
            refine ⟨_, _, rfl, ?_, ?_, fun _ => .inr ⟨_, _, rfl, rfl⟩⟩
            · intro t ht
              rw [List.mem_singleton.mp ht]
              exact ⟨rfl, rfl, rfl, rfl⟩
            · intro p hp
              cases hp
              exact ⟨_, List.mem_singleton_self _, rfl⟩
      · exact hnothing _

end Handshake

/-! ## Phase 2 and the failure path -/

section Settle

variable {cfg : Config} {io : Io} {dto : ParametricPayoutDto} {db : Db}
  {row : Payout} {key : PayoutIdempotencyKey}

/-- Updating the claim's row by its id and its key by the deterministic id. -/
theorem claimAfter_update {db₀ : Db} (h : ClaimAfter cfg dto db₀ db key row)
    (f : RowUpdate Payout.keys) (g : RowUpdate PayoutIdempotencyKey.keys)
    (claimCases : Table ClaimCase.keys) :
    ClaimAfter cfg dto db₀
      { db with
        payouts := db.payouts.update (.id row.id) f
        claimCases := claimCases
        payoutIdempotencyKeys :=
          db.payoutIdempotencyKeys.update (.id (dto.deterministicId cfg)) g }
      (g.apply key) (f.apply row) := by
  have hrow : db.payouts.update (.id row.id) f = db.payouts.update dto.payoutIndex f :=
    (Table.update_eq_of_findUnique f h.row (Payout.id_mem_keys_iff.mpr rfl)).symm
  refine ⟨?_, ?_, h.others.trans
    ⟨⟨rfl, rfl, rfl, rfl, rfl, rfl⟩, fun id' hne => ?_, fun s hs => ?_⟩⟩
  · exact (Table.findUnique_update_self _ _ _).trans (congrArg (Option.map _) h.key)
  · simp only [hrow, rowOf]
    exact (Table.findUnique_update_self _ _ _).trans (congrArg (Option.map _) h.row)
  · refine Table.findUnique_update_of_notMem fun k hk hmem => hne ?_
    have hid := Table.key_of_findUnique hk
    simp only [PayoutIdempotencyKey.id_mem_keys_iff] at hid hmem
    exact hid.trans hmem.symm
  · simp only [hrow]
    exact Table.mem_update_of_notMem hs

theorem resolve_eq_ok {p : RazorpayPayout} {db₀ db' : Db} (h : ClaimAfter cfg dto db₀ db key row)
    (hresolve : resolve io dto row.id (dto.deterministicId cfg) p db = .ok db') :
    io.phase2 = true ∧ ClaimAfter cfg dto db₀ db' ((markSucceeded row.id).apply key)
      ((approvePayout io row.id p).apply row) := by
  obtain ⟨_, hphase2, hresolve⟩ := bind_eq_ok.mp hresolve
  obtain ⟨_, -, hresolve⟩ := bind_eq_ok.mp hresolve
  obtain ⟨_, -, hresolve⟩ := bind_eq_ok.mp hresolve
  cases hresolve
  exact ⟨require_eq_ok.mp hphase2, claimAfter_update h _ _ _⟩

/-- With its rows in place the resolution fails only when the store does. -/
theorem resolve_eq_error {p : RazorpayPayout} {db₀ : Db} {e : Exn}
    (h : ClaimAfter cfg dto db₀ db key row)
    (hresolve : resolve io dto row.id (dto.deterministicId cfg) p db = .error e) :
    io.phase2 = false := by
  have hrow := Table.findUnique_of_findUnique h.row (Payout.id_mem_keys_iff.mpr rfl)
  have hkey := h.key
  by_cases hphase2 : io.phase2 = true
  · simp [resolve, require, hphase2, hrow, hkey] at hresolve
  · exact Bool.eq_false_iff.mpr hphase2

/-- The key after the catch block. -/
def failedKey (io : Io) (e : Exn) (key : PayoutIdempotencyKey) : PayoutIdempotencyKey :=
  if io.markFailed then (markFailed e).apply key else key

/-- The row after the catch block. -/
def failedRow (io : Io) (row : Payout) : Payout :=
  if io.markRejected then (setStatus .REJECTED).apply row else row

theorem claimAfter_rollback {db₀ : Db} (h : ClaimAfter cfg dto db₀ db key row) (e : Exn) :
    ClaimAfter cfg dto db₀ (rollback io row.id (dto.deterministicId cfg) e db)
      (failedKey io e key) (failedRow io row) := by
  have h' := claimAfter_update h (if io.markRejected then setStatus .REJECTED else .keep)
    (if io.markFailed then markFailed e else .keep) db.claimCases
  unfold rollback rollbackKey rollbackRow failedKey failedRow
  cases hf : io.markFailed <;> cases hr : io.markRejected <;> simpa [hf, hr] using h'

theorem claimAfter_settings {db₀ : Db} (h : ClaimAfter cfg dto db₀ db key row)
    (systemSettings : Table SystemSetting.keys) :
    ClaimAfter cfg dto db₀ { db with systemSettings } key row :=
  ⟨h.key, h.row,
    h.others.trans ⟨⟨rfl, rfl, rfl, rfl, rfl, rfl⟩, fun _ _ => rfl, fun _ _ => Iff.rfl⟩⟩

end Settle

/-! ## The whole call -/

section Call

variable (cfg : Config) (io : Io) (dto : ParametricPayoutDto) (w : World)

/-- The ways a call can end. -/
inductive CallCases : Except Exn PayoutResult → World → Prop where
  | refused (e : Exn) : CallCases (.error e) w
  | cached (k : PayoutIdempotencyKey) (owner : OwnsPolicy dto w.db)
      (found : findIdempotencyKey cfg dto w.db = .ok (some k))
        (success : k.payoutState = .SUCCESS) :
      CallCases (.ok (cachedResult k.payoutId k.id)) w
  | settled (p : RazorpayPayout) (executed : List Transfer) (db' : Db)
      (admitted : Admitted cfg dto w.db) (rail : RailSpec io dto (.ok p) executed)
      (after : ClaimAfter cfg dto w.db db'
        ((markSucceeded (lockedRow io dto w.db).id).apply (lockedKey cfg dto w.db))
        ((approvePayout io (lockedRow io dto w.db).id p).apply (lockedRow io dto w.db))) :
      CallCases (.ok (settledResult (lockedRow io dto w.db).id p)) ⟨db', w.transfers ++ executed⟩
  | failed (e : Exn) (result : Except Exn RazorpayPayout) (executed : List Transfer) (db' : Db)
      (admitted : Admitted cfg dto w.db) (rail : RailSpec io dto result executed)
      (cause : result = .error e ∨ io.phase2 = false)
      (after : ClaimAfter cfg dto w.db db' (failedKey io e (lockedKey cfg dto w.db))
        (failedRow io (lockedRow io dto w.db))) :
      CallCases (.error (settlementFailed e)) ⟨db', w.transfers ++ executed⟩

theorem settle_cases {db : Db} (hadmitted : Admitted cfg dto w.db)
    (h : ClaimAfter cfg dto w.db db (lockedKey cfg dto w.db) (lockedRow io dto w.db)) :
    CallCases cfg io dto w
      (settle cfg io dto (lockedRow io dto w.db).id (dto.deterministicId cfg) { w with db }).1
      (settle cfg io dto (lockedRow io dto w.db).id (dto.deterministicId cfg) { w with db }).2 := by
  obtain ⟨executed, systemSettings, hworld, hrail⟩ :=
    handshake_spec cfg io dto (lockedRow io dto w.db).id { w with db }
  have hpaid := claimAfter_settings h systemSettings
  unfold settle
  cases hhand : handshake cfg io dto (lockedRow io dto w.db).id { w with db } with
  | mk result w' =>
      rw [hhand] at hworld hrail
      simp only at hworld hrail
      subst hworld
      cases result with
      | error e =>
          exact .failed e _ executed _ hadmitted hrail (.inl rfl) (claimAfter_rollback hpaid e)
      | ok p =>
          cases hresolve : resolve io dto (lockedRow io dto w.db).id (dto.deterministicId cfg) p
              { db with systemSettings } with
          | error e =>
              simp only [ok_bind, hresolve, error_bind]
              exact .failed e _ executed _ hadmitted hrail (.inr (resolve_eq_error hpaid hresolve))
                (claimAfter_rollback hpaid e)
          | ok db' =>
              simp only [ok_bind, hresolve, pure_eq]
              exact .settled p executed db' hadmitted hrail (resolve_eq_ok hpaid hresolve).2

theorem processParametricPayout_cases :
    CallCases cfg io dto w (processParametricPayout cfg io dto w).1
      (processParametricPayout cfg io dto w).2 := by
  unfold processParametricPayout
  split
  · exact .refused _
  · rename_i hpre
    rcases preTx_cases hpre with ⟨howner, k, hfound, hsuccess, hk, rfl⟩ | ⟨-, hk, -⟩
    · cases hk
      exact .cached k howner hfound hsuccess
    · cases hk
  · rename_i hpre
    rcases preTx_cases hpre with ⟨-, k, -, -, hk, -⟩ | ⟨hadmitted, hk, hafter⟩
    · cases hk
    · cases hk
      exact settle_cases cfg io dto w hadmitted hafter

/-- A call only adds transfers, each for the driver and the amount of the request. -/
theorem exists_executed :
    ∃ executed, (processParametricPayout cfg io dto w).2.transfers = w.transfers ++ executed ∧
      ∀ t ∈ executed, OwnTransfer dto t := by
  generalize hcall : processParametricPayout cfg io dto w = call
  have hcases := processParametricPayout_cases cfg io dto w
  rw [hcall] at hcases
  obtain ⟨result, w'⟩ := call
  dsimp only at hcases ⊢
  cases hcases with
  | refused e => exact ⟨[], by simp, by simp⟩
  | cached k howner hfound hsuccess => exact ⟨[], by simp, by simp⟩
  | settled p executed db' hadmitted hrail hafter => exact ⟨executed, rfl, hrail.own⟩
  | failed e railResult executed db' hadmitted hrail hcause hafter =>
      exact ⟨executed, rfl, hrail.own⟩

end Call

end Aegis.Payments
