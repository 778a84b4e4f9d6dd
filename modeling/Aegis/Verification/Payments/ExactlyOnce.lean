import Aegis.Verification.Payments.Retry

/-! # Exactly-once settlement over arbitrary callers

Calls for many claims follow one another, each with its own timestamp and cell. The
ledger row belongs to the claim, but the key that guards it belongs to the claim and one
UTC hour, so the guard of a claim is read off all of its hours. -/

namespace Aegis.Payments

open Outcome Gateway LiquidityPool Idempotency

abbrev Call := Io × ParametricPayoutDto

def call (cfg : Config) (w : World) (c : Call) : World :=
  (processParametricPayout cfg c.1 c.2 w).2

def callResult (cfg : Config) (w : World) (c : Call) : Except Exn PayoutResult :=
  (processParametricPayout cfg c.1 c.2 w).1

/-- Every database and gateway operation of the call succeeds. -/
structure Faultless (io : Io) : Prop where
  preTx : io.preTx = true
  readUser : io.readUser = true
  readPayoutSetup : io.readPayoutSetup = true
  contact : ∃ id, io.contact = [.answered id]
  fundAccount : ∃ id, io.fundAccount = [.answered id]
  payout : ∃ p, io.payout = [.answered p]
  withdraw : io.withdraw = .available
  phase2 : io.phase2 = true
  markFailed : io.markFailed = true
  markRejected : io.markRejected = true

theorem Faultless.undisturbed {io : Io} (h : Faultless io) : Undisturbed io := by
  obtain ⟨p, hp⟩ := h.payout
  refine ⟨fun r hr a ha => ?_, h.phase2⟩
  rw [hp, List.mem_singleton] at hr
  subst hr
  simpa [Reply.executed] using ha

section Claim

variable (cfg : Config) (policyId disruptionEventId : String)

/-- The call is about this policy and event. -/
def IsFor (dto : ParametricPayoutDto) : Prop :=
  dto.policyId = policyId ∧ dto.disruptionEventId = disruptionEventId

/-- The key of the claim in the hour of `t`. -/
def hourKey (t : ℤ) : String := buildKey cfg.sha256 (claimIdOf policyId disruptionEventId) t

/-- The claim has a key in state `SUCCESS`, in the hour of `t`. -/
def SettledAt (db : Db) (t : ℤ) : Prop :=
  ∃ k, keyOf db (hourKey cfg policyId disruptionEventId t) = some k ∧ k.payoutState = .SUCCESS

def RowApproved (db : Db) : Prop :=
  ∃ r, rowOf db policyId disruptionEventId = some r ∧ r.status = .APPROVED

open Classical in
/-- The guard of a claim over all hours. -/
noncomputable def hoursGuard (w : World) : OnceGuard where
  phase := if ∃ t, SettledAt cfg policyId disruptionEventId w.db t then .spent else .free
  fired := (transfersOf w policyId disruptionEventId).length

/-- What a call must find: for the claim's owner, no settled key of the claim in another
UTC hour, and no settled key of another claim under the composite index. -/
structure InSettledHour (dto : ParametricPayoutDto) (w : World) : Prop where
  hour : ∀ t, SettledAt cfg policyId disruptionEventId w.db t →
    window t = window dto.eventTimestamp
  composite : ∀ k, w.db.payoutIdempotencyKeys.findUnique dto.compositeIndex = some k →
    k.payoutState = .SUCCESS → k.id = dto.deterministicId cfg

structure CallOk (w : World) (c : Call) : Prop where
  faultless : Faultless c.1
  hour : IsFor policyId disruptionEventId c.2 → OwnsPolicy c.2 w.db →
    InSettledHour cfg policyId disruptionEventId c.2 w

/-- Policy ids are UUIDs: they contain no underscore. A settled claim has an approved row. -/
structure Coherent (w : World) : Prop where
  policies : ∀ r ∈ w.db.policies.rows, '_' ∉ r.id.toList
  approved : ∀ t, SettledAt cfg policyId disruptionEventId w.db t →
    RowApproved policyId disruptionEventId w.db

end Claim

section Steps

variable {cfg : Config} {policyId disruptionEventId : String} {io : Io}
  {dto : ParametricPayoutDto} {w w' : World} {result : Except Exn PayoutResult}

theorem IsFor.hourKey (h : IsFor policyId disruptionEventId dto) :
    Payments.hourKey cfg policyId disruptionEventId dto.eventTimestamp =
      dto.deterministicId cfg := by
  rw [Payments.hourKey, ← h.1, ← h.2]
  rfl

/-- An admitted call by the owner finds the claim unsettled in every hour. -/
theorem not_settledAt_of_admitted (hfor : IsFor policyId disruptionEventId dto)
    (hhour : InSettledHour cfg policyId disruptionEventId dto w) (h : Admitted cfg dto w.db)
    (t : ℤ) :
    ¬ SettledAt cfg policyId disruptionEventId w.db t := by
  intro hsettled
  have hwindow := hhour.hour t hsettled
  obtain ⟨k, hk, hsuccess⟩ := hsettled
  have hid : hourKey cfg policyId disruptionEventId t = dto.deterministicId cfg := by
    rw [← hfor.hourKey, hourKey, hourKey, buildKey, buildKey, hwindow]
  have hphase := h.keyPhase
  rw [← hid] at hphase
  simp [keyPhase, hk, hsuccess, phaseOf] at hphase

/-- After the call a key in another state than `SUCCESS` does not settle any hour. -/
theorem not_settledAt_after {db' : Db} {key : PayoutIdempotencyKey} {row : Payout}
    (hafter : ClaimAfter cfg dto w.db db' key row) (hkey : key.payoutState ≠ .SUCCESS)
    (hbefore : ∀ t, ¬ SettledAt cfg policyId disruptionEventId w.db t) (t : ℤ) :
    ¬ SettledAt cfg policyId disruptionEventId db' t := by
  rintro ⟨k, hk, hsuccess⟩
  by_cases hid : hourKey cfg policyId disruptionEventId t = dto.deterministicId cfg
  · rw [hid, hafter.key] at hk
    cases hk
    exact hkey hsuccess
  · rw [hafter.others.keys _ hid] at hk
    exact hbefore t ⟨k, hk, hsuccess⟩

theorem failedKey_payoutState_ne (io : Io) (e : Exn) (db : Db) :
    (failedKey io e (lockedKey cfg dto db)).payoutState ≠ .SUCCESS := by
  unfold failedKey
  split
  · simp [markFailed]
  · simp

/-- A call for another claim leaves the keys and the row of this one alone. -/
theorem other_claim_kept (hsha : Function.Injective cfg.sha256) (hp : '_' ∉ policyId.toList)
    (hcoh : Coherent cfg policyId disruptionEventId w) (howner : OwnsPolicy dto w.db)
    (hother : ¬ IsFor policyId disruptionEventId dto) {db' : Db}
    (hothers : OthersKept (dto.deterministicId cfg) dto.payoutIndex w.db db') :
    (∀ t, SettledAt cfg policyId disruptionEventId db' t ↔
        SettledAt cfg policyId disruptionEventId w.db t) ∧
      rowOf db' policyId disruptionEventId = rowOf w.db policyId disruptionEventId := by
  obtain ⟨policy, hpolicy, -⟩ := howner
  have hid := Table.key_of_findUnique hpolicy
  simp only [Policy.keys, List.mem_singleton] at hid
  have hp' : '_' ∉ dto.policyId.toList := hid ▸ hcoh.policies _ (Table.mem_of_findUnique hpolicy)
  constructor
  · intro t
    have hne : hourKey cfg policyId disruptionEventId t ≠ dto.deterministicId cfg := by
      intro h
      obtain ⟨hpol, hev, -⟩ := (buildKey_inj hsha hp hp').mp h
      exact hother ⟨hpol.symm, hev.symm⟩
    rw [SettledAt, hothers.keys _ hne]
    rfl
  · refine hothers.rowOf fun h => hother ⟨h.1.symm, h.2.symm⟩

theorem transfersOf_append_other {executed : List Transfer} (db : Db)
    (hown : ∀ t ∈ executed, OwnTransfer dto t) (hother : ¬ IsFor policyId disruptionEventId dto) :
    transfersOf ⟨db, w.transfers ++ executed⟩ policyId disruptionEventId =
      transfersOf w policyId disruptionEventId := by
  have hnone : executed.filter (fun t => t.policyId = policyId ∧
      t.disruptionEventId = disruptionEventId) = [] := by
    refine List.filter_eq_nil_iff.mpr fun t ht => ?_
    have h := hown t ht
    simp only [decide_eq_true_eq, h.policyId, h.disruptionEventId]
    exact hother
  simp only [transfersOf, List.filter_append, hnone, List.append_nil]

theorem coherent_of_others {db' : Db} {executed : List Transfer} {id : String}
    {index : PayoutIndex} (hcoh : Coherent cfg policyId disruptionEventId w)
    (hothers : OthersKept id index w.db db')
    (happroved : ∀ t, SettledAt cfg policyId disruptionEventId db' t →
      RowApproved policyId disruptionEventId db') :
    Coherent cfg policyId disruptionEventId ⟨db', w.transfers ++ executed⟩ :=
  ⟨by simpa only [hothers.parties.policies] using hcoh.policies, happroved⟩

open Classical in
/-- A call for another claim does not move this claim's guard. -/
theorem hoursGuard_other (hsha : Function.Injective cfg.sha256) (hp : '_' ∉ policyId.toList)
    (hcoh : Coherent cfg policyId disruptionEventId w) (howner : OwnsPolicy dto w.db)
    (hother : ¬ IsFor policyId disruptionEventId dto) {db' : Db} {executed : List Transfer}
    (hown : ∀ t ∈ executed, OwnTransfer dto t)
    (hothers : OthersKept (dto.deterministicId cfg) dto.payoutIndex w.db db') :
    Coherent cfg policyId disruptionEventId ⟨db', w.transfers ++ executed⟩ ∧
      hoursGuard cfg policyId disruptionEventId ⟨db', w.transfers ++ executed⟩ =
        hoursGuard cfg policyId disruptionEventId w := by
  obtain ⟨hkeys, hrow⟩ := other_claim_kept hsha hp hcoh howner hother hothers
  refine ⟨coherent_of_others hcoh hothers fun t ht => ?_, ?_⟩
  · rw [RowApproved, hrow]
    exact hcoh.approved t ((hkeys t).mp ht)
  · rw [hoursGuard, hoursGuard, transfersOf_append_other db' hown hother, OnceGuard.mk.injEq]
    exact ⟨if_congr (exists_congr hkeys) rfl rfl, rfl⟩

/-- One call preserves coherence and is a path of the claim's guard. -/
theorem CallCases.hoursGuard (hsha : Function.Injective cfg.sha256)
    (hp : '_' ∉ policyId.toList) (hio : Undisturbed io)
    (hhour : IsFor policyId disruptionEventId dto → OwnsPolicy dto w.db →
      InSettledHour cfg policyId disruptionEventId dto w)
    (hcoh : Coherent cfg policyId disruptionEventId w) (h : CallCases cfg io dto w result w') :
    Coherent cfg policyId disruptionEventId w' ∧
      Relation.ReflTransGen OnceGuard.Step (hoursGuard cfg policyId disruptionEventId w)
        (hoursGuard cfg policyId disruptionEventId w') := by
  cases h with
  | refused e => exact ⟨hcoh, .refl⟩
  | cached k howner hfound hsuccess => exact ⟨hcoh, .refl⟩
  | settled p executed db' hadmitted hrail hafter =>
      by_cases hfor : IsFor policyId disruptionEventId dto
      · have hbefore := not_settledAt_of_admitted hfor (hhour hfor hadmitted.owner) hadmitted
        have hsettled : SettledAt cfg policyId disruptionEventId db' dto.eventTimestamp :=
          ⟨_, hfor.hourKey ▸ hafter.key, rfl⟩
        have hrow : RowApproved policyId disruptionEventId db' :=
          ⟨_, by rw [← hfor.1, ← hfor.2]; exact hafter.row, rfl⟩
        refine ⟨coherent_of_others hcoh hafter.others fun _ _ => hrow, ?_⟩
        have hfired : (transfersOf ⟨db', w.transfers ++ executed⟩ policyId
            disruptionEventId).length = (transfersOf w policyId disruptionEventId).length + 1 := by
          rw [← hfor.1, ← hfor.2, transfersOf_append _ _ hrail.own, List.length_append,
            executed_length_eq_one hio hrail]
        simp only [Payments.hoursGuard, hfired, hbefore, exists_false, if_false,
          if_pos (⟨_, hsettled⟩ : ∃ t, SettledAt cfg policyId disruptionEventId db' t)]
        exact OnceGuard.steps_fire _
      · obtain ⟨hcoh', hguard⟩ := hoursGuard_other hsha hp hcoh hadmitted.owner hfor hrail.own
          hafter.others
        exact ⟨hcoh', hguard ▸ .refl⟩
  | failed e railResult executed db' hadmitted hrail hcause hafter =>
      by_cases hfor : IsFor policyId disruptionEventId dto
      · have hbefore := not_settledAt_of_admitted hfor (hhour hfor hadmitted.owner) hadmitted
        have hafter' := not_settledAt_after hafter (failedKey_payoutState_ne io e w.db) hbefore
        refine ⟨coherent_of_others hcoh hafter.others fun t ht => absurd ht (hafter' t), ?_⟩
        have hfired : transfersOf ⟨db', w.transfers ++ executed⟩ policyId disruptionEventId =
            transfersOf w policyId disruptionEventId := by
          rw [← hfor.1, ← hfor.2, transfersOf_append _ _ hrail.own,
            executed_eq_nil hio hrail hcause, List.append_nil]
        simp only [Payments.hoursGuard, hfired, hbefore, hafter', exists_false]
        exact .refl
      · obtain ⟨hcoh', hguard⟩ := hoursGuard_other hsha hp hcoh hadmitted.owner hfor hrail.own
          hafter.others
        exact ⟨hcoh', hguard ▸ .refl⟩

end Steps

/-! ## Whole runs -/

section Runs

variable (cfg : Config) (policyId disruptionEventId : String)

theorem call_refines (hsha : Function.Injective cfg.sha256) (hp : '_' ∉ policyId.toList) :
    OnceGuard.Refines (call cfg) (Coherent cfg policyId disruptionEventId)
      (CallOk cfg policyId disruptionEventId) (hoursGuard cfg policyId disruptionEventId) where
  inv w c hinv _ hok := ((processParametricPayout_cases cfg c.1 c.2 w).hoursGuard hsha hp
    hok.faultless.undisturbed hok.hour hinv).1
  path w c hinv _ hok := ((processParametricPayout_cases cfg c.1 c.2 w).hoursGuard hsha hp
    hok.faultless.undisturbed hok.hour hinv).2

/-- What every call for the claim does once the claim has been reported paid: nothing
leaves, the row stays approved and the owner gets the cached success. -/
structure AnsweredFromCache (w : World) (c : Call) : Prop where
  unpaid : (call cfg w c).transfers = w.transfers
  approved : RowApproved policyId disruptionEventId (call cfg w c).db
  cached : OwnsPolicy c.2 w.db → ∃ r, callResult cfg w c = .ok r ∧ r.cached = true

/-- At most one transfer for the claim in any state, and once a call for it has returned
success every later call for it is answered from the cache. -/
structure ExactlyOnce (w : World) (calls : List Call) : Prop where
  once : Run.Always (call cfg) (fun w => (transfersOf w policyId disruptionEventId).length ≤ 1)
    w calls
  cached : ∀ before c after, calls = before ++ c :: after → IsFor policyId disruptionEventId c.2 →
    (∃ r, callResult cfg (Run.final (call cfg) w before) c = .ok r) →
    Run.Along (call cfg) (fun w c => IsFor policyId disruptionEventId c.2 →
      AnsweredFromCache cfg policyId disruptionEventId w c)
      (Run.final (call cfg) w (before ++ [c])) after

variable {cfg policyId disruptionEventId}

theorem hoursGuard_eq_spent_iff {w : World} :
    (hoursGuard cfg policyId disruptionEventId w).phase = .spent ↔
      ∃ t, SettledAt cfg policyId disruptionEventId w.db t := by
  unfold hoursGuard
  split <;> simp_all

/-- With its own key settled, an owned claim is answered from the cache. -/
theorem callResult_cached {w : World} {c : Call} (hpre : c.1.preTx = true)
    (howner : OwnsPolicy c.2 w.db) {k : PayoutIdempotencyKey}
    (hk : keyOf w.db (c.2.deterministicId cfg) = some k) (hsuccess : k.payoutState = .SUCCESS) :
    processParametricPayout cfg c.1 c.2 w = (.ok (cachedResult k.payoutId k.id), w) := by
  have hcheck := checkPolicy_eq_ok.mpr howner
  have hfind := findIdempotencyKey_of_keyOf hk
  simp [processParametricPayout, preTx, hpre, preGateway, hcheck, hfind, hsuccess]

/-- Without an owned policy the call is refused. -/
theorem callResult_refused {w : World} {c : Call} (howner : ¬ OwnsPolicy c.2 w.db) :
    ∃ e, processParametricPayout cfg c.1 c.2 w = (.error e, w) := by
  have hcases := processParametricPayout_cases cfg c.1 c.2 w
  cases hout : processParametricPayout cfg c.1 c.2 w with
  | mk result w' =>
      rw [hout] at hcases
      cases hcases with
      | refused e => exact ⟨e, rfl⟩
      | cached k howner' => exact absurd howner' howner
      | settled p executed db' hadmitted => exact absurd hadmitted.owner howner
      | failed e result executed db' hadmitted => exact absurd hadmitted.owner howner

/-- In a settled, coherent state an admitted call for the claim is answered from the cache. -/
theorem answeredFromCache {w : World} {c : Call} {t : ℤ}
    (hcoh : Coherent cfg policyId disruptionEventId w)
    (hsettled : SettledAt cfg policyId disruptionEventId w.db t)
    (hok : CallOk cfg policyId disruptionEventId w c)
    (hfor : IsFor policyId disruptionEventId c.2) :
    AnsweredFromCache cfg policyId disruptionEventId w c := by
  have happroved := hcoh.approved t hsettled
  by_cases howner : OwnsPolicy c.2 w.db
  · have hwindow := (hok.hour hfor howner).hour t hsettled
    obtain ⟨k, hk, hsuccess⟩ := hsettled
    have hid : hourKey cfg policyId disruptionEventId t = c.2.deterministicId cfg := by
      rw [← hfor.hourKey, hourKey, hourKey, buildKey, buildKey, hwindow]
    have hcall := callResult_cached hok.faultless.preTx howner (hid ▸ hk) hsuccess
    refine ⟨by rw [call, hcall], by rwa [call, hcall], fun _ => ?_⟩
    exact ⟨_, by rw [callResult, hcall], rfl⟩
  · obtain ⟨e, hcall⟩ : ∃ e, processParametricPayout cfg c.1 c.2 w = (.error e, w) :=
      callResult_refused howner
    exact ⟨by rw [call, hcall], by rwa [call, hcall], fun h => absurd h howner⟩

theorem findIdempotencyKey_of_not_keyOf {dto : ParametricPayoutDto} {db : Db}
    {found : Option PayoutIdempotencyKey} (hk : keyOf db (dto.deterministicId cfg) = none)
    (h : findIdempotencyKey cfg dto db = .ok found) :
    db.payoutIdempotencyKeys.findUnique dto.compositeIndex = found := by
  have hkey : db.payoutIdempotencyKeys.findUnique (.id (dto.deterministicId cfg)) = none := hk
  rw [findIdempotencyKey, hkey] at h
  simp only at h
  split at h
  · exact Except.ok.inj h
  · cases h

/-- A call for the claim that returns success leaves the claim settled. -/
theorem settledAt_of_ok {w : World} {c : Call} {r : PayoutResult}
    (hok : CallOk cfg policyId disruptionEventId w c) (hfor : IsFor policyId disruptionEventId c.2)
    (hr : callResult cfg w c = .ok r) :
    SettledAt cfg policyId disruptionEventId (call cfg w c).db c.2.eventTimestamp := by
  have hcases := processParametricPayout_cases cfg c.1 c.2 w
  unfold callResult at hr
  unfold call
  rw [hr] at hcases
  generalize (processParametricPayout cfg c.1 c.2 w).2 = w' at hcases ⊢
  cases hcases with
  | settled p executed db' hadmitted hrail hafter =>
      exact ⟨_, hfor.hourKey ▸ hafter.key, rfl⟩
  | cached k howner hfound hsuccess =>
      cases hk : keyOf w.db (c.2.deterministicId cfg) with
      | some k' =>
          rw [findIdempotencyKey_of_keyOf hk] at hfound
          cases hfound
          exact ⟨k, hfor.hourKey ▸ hk, hsuccess⟩
      | none =>
          have hcomposite := findIdempotencyKey_of_not_keyOf hk hfound
          have hid := (hok.hour hfor howner).composite k hcomposite hsuccess
          have hkey : keyOf w.db k.id = some k :=
            Table.findUnique_of_findUnique hcomposite (PayoutIdempotencyKey.id_mem_keys_iff.mpr rfl)
          rw [hid, hk] at hkey
          cases hkey

/-- Settlement is exactly once along every run whose calls stay within the settled hour. -/
theorem exactlyOnce (hsha : Function.Injective cfg.sha256) (hp : '_' ∉ policyId.toList) {db : Db}
    (hcoh : Coherent cfg policyId disruptionEventId ⟨db, []⟩) {calls : List Call}
    (hok : Run.Along (call cfg) (CallOk cfg policyId disruptionEventId) ⟨db, []⟩ calls) :
    ExactlyOnce cfg policyId disruptionEventId ⟨db, []⟩ calls := by
  have hrefines := call_refines cfg policyId disruptionEventId hsha hp
  have hsound : (hoursGuard cfg policyId disruptionEventId ⟨db, []⟩).Sound := .inl rfl
  have hrun := hrefines.always_sound hcoh hsound hok
  refine ⟨hrun.mono fun w hw => hw.2.fired_le_one, ?_⟩
  rintro before c after rfl hfor ⟨r, hr⟩
  obtain ⟨hbefore, hc, hafter⟩ := Run.along_append.mp hok
  have hstart := (hrefines.always_sound hcoh hsound hbefore).last
  have hsettled := settledAt_of_ok hc hfor hr
  rw [Run.final_append]
  refine hrefines.along_spent (hrefines.inv _ c hstart.1 hstart.2 hc)
    (hstart.2.steps (hrefines.path _ c hstart.1 hstart.2 hc))
    (hoursGuard_eq_spent_iff.mpr ⟨_, hsettled⟩) (fun w c' hcoh hspent hc' hfor' => ?_) hafter
  obtain ⟨t, ht⟩ := hoursGuard_eq_spent_iff.mp hspent
  exact answeredFromCache hcoh ht hc' hfor'

end Runs

/-! ## Two hours of one event -/

namespace Sample

/-- The same claim reported from another cell ten minutes later. -/
def dtoSameHour : ParametricPayoutDto :=
  { dto with eventTimestamp := 7800, h3Cell := "8860145b59fffff" }

/-- The same claim reported one hour later. -/
def dtoNextHour : ParametricPayoutDto := { dto with eventTimestamp := 10800 }

theorem io_faultless : Faultless io where
  preTx := rfl
  readUser := rfl
  readPayoutSetup := rfl
  contact := ⟨_, rfl⟩
  fundAccount := ⟨_, rfl⟩
  payout := ⟨_, rfl⟩
  withdraw := rfl
  phase2 := rfl
  markFailed := rfl
  markRejected := rfl

theorem window_of_settledAt {db : Db}
    (h : ∀ k ∈ db.payoutIdempotencyKeys.rows, k.id = hourKey cfg "p1" "e1" 7200) {t : ℤ}
    (ht : SettledAt cfg "p1" "e1" db t) : window t = window 7200 := by
  obtain ⟨k, hk, -⟩ := ht
  have hid := PayoutIdempotencyKey.id_mem_keys_iff.mp (Table.key_of_findUnique hk)
  have hkey : hourKey cfg "p1" "e1" t = hourKey cfg "p1" "e1" 7200 :=
    hid.trans (h k (Table.mem_of_findUnique hk))
  exact ((buildKey_inj Function.injective_id (by decide) (by decide)).mp hkey).2.2

end Sample

open Sample in
theorem exactlyOnce_two_calls :
    ExactlyOnce cfg "p1" "e1" ⟨db, []⟩ [(io, dto), (io, dtoSameHour)] := by
  refine exactlyOnce Function.injective_id (by decide) ⟨by decide, ?_⟩
    ⟨⟨io_faultless, fun _ _ => ⟨?_, ?_⟩⟩, ⟨io_faultless, fun _ _ => ⟨?_, ?_⟩⟩, trivial⟩
  · rintro t ⟨k, hk, -⟩
    cases hk
  · rintro t ⟨k, hk, -⟩
    cases hk
  · rintro k hk
    cases hk
  · intro t ht
    exact (window_of_settledAt (by decide) ht).trans (by decide)
  · have hfree : (call cfg ⟨db, []⟩ (io, dto)).db.payoutIdempotencyKeys.findUnique
        dtoSameHour.compositeIndex = none := by
      decide
    intro k hk
    rw [hfree] at hk
    cases hk

open Sample in
/-- Faultless calls in two hours pay the claim twice. -/
theorem not_exactlyOnce :
    Faultless io ∧ ¬ ExactlyOnce cfg "p1" "e1" ⟨db, []⟩ [(io, dto), (io, dtoNextHour)] := by
  refine ⟨io_faultless, fun h => ?_⟩
  have htwice : (transfersOf (Run.final (call cfg) ⟨db, []⟩ [(io, dto), (io, dtoNextHour)])
      "p1" "e1").length = 2 := by
    decide
  have honce := h.once.last
  omega

end Aegis.Payments
