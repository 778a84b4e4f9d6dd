import Aegis.Model.ConcurrentPayments
import Aegis.Verification.Payments.Retry

/-! # Mutual exclusion of overlapping calls

Any number of calls with identical arguments interleave. What decides is the state of the
key when a call takes its lock: the reads of the call may be stale by then. -/

namespace Aegis.Payments.Threads

open Outcome Gateway LiquidityPool

section Schedules

variable {τ : Type} [DecidableEq τ] (cfg : Config) (dto : ParametricPayoutDto)

/-- A schedule names the thread to move and the fate of its operations. -/
abbrev Move (τ : Type) := τ × Io

def move (s : Threads τ) (m : Move τ) : Threads τ := step cfg dto m.2 s m.1

/-! ## The property -/

/-- How a call may end that has not reached the gateway. -/
def Declined (result : Except Exn PayoutResult) : Prop :=
  result = .error acidLock ∨
    ∃ payoutId transferReference, result = .ok (cachedResult payoutId transferReference)

/-- At most one call reaches the gateway; a finished other call was declined. -/
structure Exclusion (s : Threads τ) : Prop where
  unique : ∀ t t', (s.pc t).reachedGateway = true → (s.pc t').reachedGateway = true → t = t'
  declined : ∀ t result, s.pc t = .done false result → Declined result

/-! ## The condition -/

/-- The database and gateway operations of the step succeed. -/
def Served (s : Threads τ) (m : Move τ) : Prop :=
  m.2.preTx = true ∧ FitsInt4 dto.eventTimestamp ∧
    match s.pc m.1 with
    | .rowLocked => (writeLock cfg m.2 dto s.world.db).isOk = true
    | .atGateway payoutId _ => (handshake cfg m.2 dto payoutId s.world).1.isOk = true
    | .paid payoutId id payout => (resolve m.2 dto payoutId id payout s.world.db).isOk = true
    | _ => True

instance (s : Threads τ) (m : Move τ) : Decidable (Served cfg dto s m) := by
  unfold Served
  split <;> infer_instance

/-- A call that takes the lock does not take it over a key in flight or settled. -/
def Fresh (s : Threads τ) (m : Move τ) : Prop :=
  s.pc m.1 = .unlocked → s.holder = none →
    keyPhase s.world.db (dto.deterministicId cfg) = .free

instance (s : Threads τ) (m : Move τ) : Decidable (Fresh cfg dto s m) :=
  inferInstanceAs (Decidable (_ → _ → _))

/-! ## What a step can do -/

/-- The call is in the middle of its writes. -/
def HoldsLock : Pc → Prop
  | .keyLocked | .rowLocked => True
  | _ => False

/-- The call has reached the gateway and nothing has gone wrong since. -/
def Settling (id : String) : Pc → Prop
  | .atGateway _ id' | .paid _ id' _ => id' = id
  | .done true _ => True
  | _ => False

/-- What one admitted step of `t` leads to. -/
inductive Moved (s : Threads τ) (t : τ) : Threads τ → Prop where
  | still : Moved s t s
  | read (pc : Pc) (hbefore : (s.pc t).reachedGateway = false) (hlock : ¬ HoldsLock pc)
      (hafter : pc.reachedGateway = false) (hdone : ∀ result, pc = .done false result →
        Declined result) (hfree : ¬ HoldsLock (s.pc t)) : Moved s t (s.goTo t pc)
  | lock (hnone : s.holder = none) (hbefore : (s.pc t).reachedGateway = false)
      (hkey : keyPhase s.world.db (dto.deterministicId cfg) = .free) :
      Moved s t ({ s with holder := some t }.goTo t .keyLocked)
  | lockRow (hbefore : s.pc t = .keyLocked) : Moved s t (s.goTo t .rowLocked)
  | commit (payoutId : String) (db : Db) (hbefore : s.pc t = .rowLocked)
      (hkey : keyPhase db (dto.deterministicId cfg) = .held)
      (hparties : SameParties s.world.db db) :
      Moved s t (((s.withDb db).release t).goTo t (.atGateway payoutId (dto.deterministicId cfg)))
  | settle (world : World) (pc : Pc) (hbefore : (s.pc t).reachedGateway = true)
      (hafter : Settling (dto.deterministicId cfg) pc)
      (hkey : keyPhase s.world.db (dto.deterministicId cfg) ≠ .free →
        keyPhase world.db (dto.deterministicId cfg) ≠ .free)
      (hparties : SameParties s.world.db world.db) :
      Moved s t ({ s with world }.goTo t pc)

variable {cfg dto} {s s' : Threads τ} {m : Move τ} {t : τ}

theorem afterRead_reachedGateway {found : Option PayoutIdempotencyKey} {next : Pc}
    (h : next.reachedGateway = false) : (afterRead found next).reachedGateway = false := by
  cases found with
  | none => exact h
  | some k => cases hk : k.payoutState <;> simp [afterRead, hk, Pc.reachedGateway]

theorem afterRead_not_holdsLock {found : Option PayoutIdempotencyKey} {next : Pc}
    (h : ¬ HoldsLock next) : ¬ HoldsLock (afterRead found next) := by
  cases found with
  | none => exact h
  | some k => cases hk : k.payoutState <;> simp [afterRead, hk, HoldsLock]

theorem declined_of_afterRead {found : Option PayoutIdempotencyKey} {next : Pc}
    (hnext : ∀ result, next ≠ .done false result) {result : Except Exn PayoutResult}
    (h : afterRead found next = .done false result) : Declined result := by
  cases found with
  | none => exact absurd h (hnext result)
  | some k =>
      cases hk : k.payoutState with
      | SUCCESS =>
          simp only [afterRead, hk, Pc.done.injEq, true_and] at h
          exact .inr ⟨_, _, h.symm⟩
      | PROCESSING =>
          simp only [afterRead, hk, Pc.done.injEq, true_and] at h
          exact .inl h.symm
      | PENDING | FAILED => simp [afterRead, hk] at h

/-- A settlement that is recorded leaves the key spent. -/
theorem keyPhase_of_resolve {io : Io} {payoutId id : String} {payout : RazorpayPayout}
    {db db' : Db} (h : resolve io dto payoutId id payout db = .ok db') :
    keyPhase db' id = .spent ∧ SameParties db db' := by
  obtain ⟨_, -, h⟩ := bind_eq_ok.mp h
  obtain ⟨_, -, h⟩ := bind_eq_ok.mp h
  obtain ⟨_, hkey, h⟩ := bind_eq_ok.mp h
  cases h
  obtain ⟨k, hk⟩ := Option.isSome_iff_exists.mp (require_eq_ok.mp hkey)
  refine ⟨?_, ⟨rfl, rfl, rfl, rfl, rfl, rfl⟩⟩
  simp only [keyPhase, keyOf]
  rw [Table.findUnique_update_self, hk]
  rfl

/-- The handshake touches neither the key nor the parties. -/
theorem keyPhase_of_handshake (cfg : Config) (dto : ParametricPayoutDto) (io : Io)
    (payoutId id : String) (w : World) :
    keyPhase (handshake cfg io dto payoutId w).2.db id = keyPhase w.db id ∧
      SameParties w.db (handshake cfg io dto payoutId w).2.db := by
  obtain ⟨executed, systemSettings, hworld, -⟩ := handshake_spec cfg io dto payoutId w
  rw [hworld]
  exact ⟨rfl, ⟨rfl, rfl, rfl, rfl, rfl, rfl⟩⟩

/-- Every admitted step is one of the moves. -/
theorem step_moved {io : Io} (howner : OwnsPolicy dto s.world.db)
    (hsettling : (s.pc t).reachedGateway = true → Settling (dto.deterministicId cfg) (s.pc t))
    (hserved : Served cfg dto s (t, io)) (hfresh : Fresh cfg dto s (t, io)) :
    Moved cfg dto s t (step cfg dto io s t) := by
  obtain ⟨hpre, htimestamp, hserved⟩ := hserved
  simp only at hpre hserved
  unfold step
  cases hpc : s.pc t with
  | start =>
      simp only [preGatewayStep, hpre, if_true, checkPolicy_eq_ok.mpr howner]
      exact .read _ (by rw [hpc]; rfl) id rfl (by simp) (by rw [hpc]; exact id)
  | validated =>
      simp only [preGatewayStep, hpre, if_true]
      exact .read _ (by rw [hpc]; rfl) (afterRead_not_holdsLock id) (afterRead_reachedGateway rfl)
        (fun _ h => declined_of_afterRead (by simp) h) (by rw [hpc]; exact id)
  | missed =>
      simp only [preGatewayStep, hpre, htimestamp, if_true]
      exact .read _ (by rw [hpc]; rfl) (afterRead_not_holdsLock id) (afterRead_reachedGateway rfl)
        (fun _ h => declined_of_afterRead (by simp) h) (by rw [hpc]; exact id)
  | unlocked =>
      simp only [preGatewayStep, hpre, if_true]
      split
      · rename_i hnone
        exact .lock hnone (by rw [hpc]; rfl) (hfresh hpc hnone)
      · exact .still
  | keyLocked =>
      simp only [preGatewayStep, hpre, if_true]
      exact .lockRow hpc
  | rowLocked =>
      rw [hpc] at hserved
      obtain ⟨⟨pre, db⟩, hwrite⟩ := isOk_iff.mp hserved
      obtain ⟨rfl, hafter⟩ := writeLock_spec hwrite
      simp only [preGatewayStep, hpre, if_true, hwrite]
      refine .commit _ db hpc ?_ hafter.others.parties
      rw [hafter.keyPhase, lockedKey_payoutState]
      rfl
  | atGateway payoutId id =>
      have hid : id = dto.deterministicId cfg := by
        simpa [hpc, Settling] using hsettling (by rw [hpc]; rfl)
      rw [hpc] at hserved
      obtain ⟨payout, hpayout⟩ := isOk_iff.mp hserved
      have hkept := keyPhase_of_handshake cfg dto io payoutId (dto.deterministicId cfg) s.world
      cases hhand : handshake cfg io dto payoutId s.world with
      | mk result world =>
          rw [hhand] at hpayout hkept
          simp only at hpayout
          subst hpayout
          simp only [hhand]
          exact .settle world (.paid payoutId id payout) (by rw [hpc]; rfl) hid
            (fun h => by rwa [hkept.1]) hkept.2
  | paid payoutId id payout =>
      have hid : id = dto.deterministicId cfg := by
        simpa [hpc, Settling] using hsettling (by rw [hpc]; rfl)
      subst hid
      dsimp only
      split
      · rw [hpc] at hserved
        obtain ⟨db, hresolve⟩ := isOk_iff.mp hserved
        obtain ⟨hspent, hparties⟩ := keyPhase_of_resolve hresolve
        simp only [hresolve]
        exact .settle { s.world with db } _ (by rw [hpc]; rfl) trivial
          (fun _ => by rw [hspent]; simp) hparties
      · exact .still
  | failing payoutId id e => simpa [hpc, Settling] using hsettling (by rw [hpc]; rfl)
  | failed payoutId e => simpa [hpc, Settling] using hsettling (by rw [hpc]; rfl)
  | done reached result => exact .still

/-! ## The invariant -/

/-- The key is locked by its holder, free while it is locked, and taken from the moment a
call has reached the gateway. -/
structure Invariant (cfg : Config) (dto : ParametricPayoutDto) (s : Threads τ) : Prop where
  owner : OwnsPolicy dto s.world.db
  holder : ∀ t, HoldsLock (s.pc t) → s.holder = some t
  free : s.holder ≠ none → keyPhase s.world.db (dto.deterministicId cfg) = .free
  taken : ∀ t, (s.pc t).reachedGateway = true →
    keyPhase s.world.db (dto.deterministicId cfg) ≠ .free
  settling : ∀ t, (s.pc t).reachedGateway = true → Settling (dto.deterministicId cfg) (s.pc t)
  exclusion : Exclusion s

theorem Settling.reachedGateway {id : String} {pc : Pc} (h : Settling id pc) :
    pc.reachedGateway = true := by
  cases pc with
  | done reached result =>
      cases reached with
      | false => exact False.elim h
      | true => rfl
  | atGateway | paid => rfl
  | _ => exact False.elim h

@[simp] theorem goTo_pc_self (s : Threads τ) (t : τ) (pc : Pc) : (s.goTo t pc).pc t = pc := by
  simp [goTo]

@[simp] theorem goTo_pc_of_ne (s : Threads τ) {t t' : τ} (pc : Pc) (h : t' ≠ t) :
    (s.goTo t pc).pc t' = s.pc t' := by simp [goTo, h]

@[simp] theorem goTo_world (s : Threads τ) (t : τ) (pc : Pc) : (s.goTo t pc).world = s.world := rfl

@[simp] theorem goTo_holder (s : Threads τ) (t : τ) (pc : Pc) :
    (s.goTo t pc).holder = s.holder := rfl

/-- The claims about single calls follow from the ones about the call that moved. -/
theorem Invariant.goTo (h : Invariant cfg dto s) {pc : Pc} {world : World} {holder : Option τ}
    (howner : OwnsPolicy dto world.db)
    (hholder : ∀ t', t' ≠ t → s.holder = some t' → holder = some t')
    (hlock : HoldsLock pc → holder = some t)
    (hfree : holder ≠ none → keyPhase world.db (dto.deterministicId cfg) = .free)
    (htaken : ∀ t', t' ≠ t → (s.pc t').reachedGateway = true →
      keyPhase world.db (dto.deterministicId cfg) ≠ .free)
    (hgate : pc.reachedGateway = true → Settling (dto.deterministicId cfg) pc ∧
      keyPhase world.db (dto.deterministicId cfg) ≠ .free ∧
      ∀ t', (s.pc t').reachedGateway = true → t' = t)
    (hdone : ∀ result, pc = .done false result → Declined result) :
    Invariant cfg dto (Threads.goTo ⟨world, holder, s.pc⟩ t pc) := by
  refine ⟨howner, fun t' hl => ?_, hfree, fun t' hr => ?_, fun t' hr => ?_, fun t' t'' hr hr' => ?_,
    fun t' result hd => ?_⟩
  · by_cases ht : t' = t
    · subst ht
      exact hlock (by simpa using hl)
    · rw [goTo_pc_of_ne _ _ ht] at hl
      exact hholder t' ht (h.holder t' hl)
  · by_cases ht : t' = t
    · subst ht
      exact (hgate (by simpa using hr)).2.1
    · rw [goTo_pc_of_ne _ _ ht] at hr
      exact htaken t' ht hr
  · by_cases ht : t' = t
    · subst ht
      simpa using (hgate (by simpa using hr)).1
    · rw [goTo_pc_of_ne _ _ ht] at hr ⊢
      exact h.settling t' hr
  · by_cases ht : t' = t <;> by_cases ht' : t'' = t
    · rw [ht, ht']
    · rw [goTo_pc_of_ne _ _ ht'] at hr'
      rw [ht, goTo_pc_self] at hr
      exact absurd ((hgate hr).2.2 t'' hr') ht'
    · rw [goTo_pc_of_ne _ _ ht] at hr
      rw [ht', goTo_pc_self] at hr'
      exact absurd ((hgate hr').2.2 t' hr) ht
    · rw [goTo_pc_of_ne _ _ ht] at hr
      rw [goTo_pc_of_ne _ _ ht'] at hr'
      exact h.exclusion.unique t' t'' hr hr'
  · by_cases ht : t' = t
    · subst ht
      exact hdone result (by simpa using hd)
    · rw [goTo_pc_of_ne _ _ ht] at hd
      exact h.exclusion.declined t' result hd

theorem OwnsPolicy.of_parties {db db' : Db} (h : OwnsPolicy dto db) (hp : SameParties db db') :
    OwnsPolicy dto db' := by
  rw [OwnsPolicy, hp.policies]
  exact h

omit [DecidableEq τ] in
/-- While the key is free no call has reached the gateway. -/
theorem Invariant.not_reached (h : Invariant cfg dto s)
    (hkey : keyPhase s.world.db (dto.deterministicId cfg) = .free) (t : τ) :
    (s.pc t).reachedGateway ≠ true := fun hr => h.taken t hr hkey

theorem Invariant.moved (h : Invariant cfg dto s) (hmoved : Moved cfg dto s t s') :
    Invariant cfg dto s' := by
  cases hmoved with
  | still => exact h
  | read pc hbefore hlock hafter hdone hfree =>
      exact h.goTo h.owner (fun _ _ hs => hs) (fun hl => absurd hl hlock) h.free
        (fun t' _ hr => h.taken t' hr) (fun hr => by simp [hafter] at hr) hdone
  | lock hnone hbefore hkey =>
      exact h.goTo h.owner (fun t' _ hs => by simp [hnone] at hs) (fun _ => rfl) (fun _ => hkey)
        (fun t' _ hr => h.taken t' hr) (fun hr => by simp [Pc.reachedGateway] at hr) (by simp)
  | lockRow hbefore =>
      exact h.goTo h.owner (fun _ _ hs => hs) (fun _ => h.holder t (by rw [hbefore]; trivial))
        h.free (fun t' _ hr => h.taken t' hr) (fun hr => by simp [Pc.reachedGateway] at hr)
          (by simp)
  | commit payoutId db hbefore hkey hparties =>
      have hholder : s.holder = some t := h.holder t (by rw [hbefore]; trivial)
      have hnone := h.not_reached (h.free (by simp [hholder]))
      have hheld : keyPhase db (dto.deterministicId cfg) ≠ .free := by simp [hkey]
      have hrelease : (s.withDb db).release t = ⟨{ s.world with db }, none, s.pc⟩ := by
        simp [release, withDb, hholder]
      rw [hrelease]
      exact h.goTo (OwnsPolicy.of_parties h.owner hparties)
        (fun t' ht hs => absurd (Option.some.inj (hholder.symm.trans hs)).symm ht)
        (fun hl => False.elim hl) (fun hn => absurd rfl hn) (fun t' _ hr => absurd hr (hnone t'))
        (fun _ => ⟨rfl, hheld, fun t' hr => absurd hr (hnone t')⟩) (by simp)
  | settle world pc hbefore hafter hkey hparties =>
      have htaken := hkey (h.taken t hbefore)
      refine h.goTo (OwnsPolicy.of_parties h.owner hparties) (fun _ _ hs => hs) (fun hl => ?_)
        (fun hn => absurd (h.free hn) (h.taken t hbefore)) (fun _ _ _ => htaken)
        (fun _ => ⟨hafter, htaken, fun t' hr => h.exclusion.unique t' t hr hbefore⟩) ?_
      · cases pc <;> first | exact False.elim hl | exact False.elim hafter
      · rintro result rfl
        exact False.elim hafter

/-! ## Whole schedules -/

/-- Every call is about to start. -/
def init (db : Db) : Threads τ where
  world := ⟨db, []⟩

omit [DecidableEq τ] in
theorem invariant_init {db : Db} (howner : OwnsPolicy dto db) :
    Invariant cfg dto (init db : Threads τ) where
  owner := howner
  holder t hl := False.elim hl
  free hn := absurd rfl hn
  taken _ hr := absurd hr (by simp [init, Pc.reachedGateway])
  settling _ hr := absurd hr (by simp [init, Pc.reachedGateway])
  exclusion := ⟨fun _ _ hr _ => absurd hr (by simp [init, Pc.reachedGateway]),
    fun _ _ hd => by simp [init] at hd⟩

/-- Over every schedule in which no call takes the lock over a key in flight or settled, at
most one call reaches the gateway and the others are declined. -/
theorem always_exclusion {db : Db} (howner : OwnsPolicy dto db) {moves : List (Move τ)}
    (hserved : Run.Along (move cfg dto) (Served cfg dto) (init db) moves)
    (hfresh : Run.Along (move cfg dto) (Fresh cfg dto) (init db) moves) :
    Run.Always (move cfg dto) Exclusion (init db) moves := by
  have hstep : ∀ (s : Threads τ) m, Invariant cfg dto s →
      (Served cfg dto s m ∧ Fresh cfg dto s m) → Invariant cfg dto (move cfg dto s m) :=
    fun s m hs hm => hs.moved (step_moved hs.owner (hs.settling m.1) hm.1 hm.2)
  exact (Run.always_of_step hstep (invariant_init howner) (hserved.and hfresh)).mono
    fun s hs => hs.exclusion

/-! ## A call that is left alone -/

section Solo

variable {io : Io} {w : World} {result : Except Exn PayoutResult} {n : ℕ}

/-- After `n` further steps of `t` alone the call has ended with `result` in `w`. -/
def Ends (cfg : Config) (dto : ParametricPayoutDto) (io : Io) (t : τ) (n : ℕ) (s : Threads τ)
    (out : Except Exn PayoutResult × World) : Prop :=
  let s' := Run.final (move cfg dto) s (List.replicate n (t, io))
  s'.world = out.2 ∧ ∃ reached, s'.pc t = .done reached out.1

theorem ends_succ {out : Except Exn PayoutResult × World} :
    Ends cfg dto io t (n + 1) s out ↔ Ends cfg dto io t n (step cfg dto io s t) out := Iff.rfl

theorem ends_done {reached : Bool} (hpc : s.pc t = .done reached result) :
    Ends cfg dto io t n s (result, s.world) := by
  induction n with
  | zero => exact ⟨rfl, reached, hpc⟩
  | succ n ih =>
      have hstep : step cfg dto io s t = s := by simp [step, hpc]
      rw [ends_succ, hstep]
      exact ih

theorem ends_failed {payoutId : String} {e : Exn} (hholder : s.holder = none)
    (hpc : s.pc t = .failed payoutId e) :
    Ends cfg dto io t (n + 1) s (.error (settlementFailed e),
      { s.world with db := rollbackRow io payoutId s.world.db }) := by
  rw [ends_succ]
  simp only [step, hpc, rowHeld, hholder]
  exact ends_done (goTo_pc_self _ _ _)

theorem ends_failing {payoutId id : String} {e : Exn} (hholder : s.holder = none)
    (hpc : s.pc t = .failing payoutId id e) :
    Ends cfg dto io t (n + 2) s (.error (settlementFailed e),
      { s.world with db := rollback io payoutId id e s.world.db }) := by
  rw [ends_succ]
  simp only [step, hpc, hholder, if_true]
  exact ends_failed hholder (goTo_pc_self _ _ _)

theorem ends_paid {payoutId id : String} {payout : RazorpayPayout} (hholder : s.holder = none)
    (hpc : s.pc t = .paid payoutId id payout) :
    Ends cfg dto io t (n + 3) s
      (match resolve io dto payoutId id payout s.world.db with
      | .ok db => (.ok (settledResult payoutId payout), { s.world with db })
      | .error e => (.error (settlementFailed e),
          { s.world with db := rollback io payoutId id e s.world.db })) := by
  rw [ends_succ]
  simp only [step, hpc, hholder, if_true]
  cases resolve io dto payoutId id payout s.world.db with
  | ok db => exact ends_done (goTo_pc_self _ _ _)
  | error e => exact ends_failing hholder (goTo_pc_self _ _ _)

theorem ends_atGateway {payoutId id : String} (hholder : s.holder = none)
    (hpc : s.pc t = .atGateway payoutId id) :
    Ends cfg dto io t (n + 4) s (settle cfg io dto payoutId id s.world) := by
  rw [ends_succ]
  unfold settle
  simp only [step, hpc]
  cases hhand : handshake cfg io dto payoutId s.world with
  | mk payout world =>
      cases payout with
      | error e => exact ends_failing hholder (goTo_pc_self _ _ _)
      | ok payout =>
          have h : Ends cfg dto io t (n + 3)
              (Threads.goTo { s with world } t (.paid payoutId id payout)) _ :=
            ends_paid hholder (goTo_pc_self _ _ _)
          simp only [goTo_world] at h
          simp only [ok_bind]
          cases hresolve : resolve io dto payoutId id payout world.db with
          | ok db => simpa [hresolve, ok_bind, pure_eq] using h
          | error e => simpa [hresolve, error_bind] using h

/-- What the call makes of the outcome of its pre-gateway transaction. -/
def proceed (cfg : Config) (io : Io) (dto : ParametricPayoutDto) (w : World) :
    Except Exn (PreTx × Db) → Except Exn PayoutResult × World
  | .error e => (.error e, w)
  | .ok (.cached payoutId reference, db) => (.ok (cachedResult payoutId reference), { w with db })
  | .ok (.gateway payoutId id, db) => settle cfg io dto payoutId id { w with db }

/-- What the transaction makes of the key it has read. -/
def onKey (cfg : Config) (io : Io) (dto : ParametricPayoutDto) (db : Db) :
    Option PayoutIdempotencyKey → Except Exn (PreTx × Db)
  | none => writeLock cfg io dto db
  | some k =>
      match k.payoutState with
      | .SUCCESS => .ok (.cached k.payoutId k.id, db)
      | .PROCESSING => .error acidLock
      | .PENDING | .FAILED => writeLock cfg io dto db

theorem ends_rowLocked (hpre : io.preTx = true) (hholder : s.holder = some t)
    (hpc : s.pc t = .rowLocked) :
    Ends cfg dto io t (n + 5) s (proceed cfg io dto s.world (writeLock cfg io dto s.world.db)) := by
  rw [ends_succ]
  simp only [step, hpc, preGatewayStep, hpre, if_true]
  cases hwrite : writeLock cfg io dto s.world.db with
  | error e => exact ends_done (goTo_pc_self _ _ _)
  | ok out =>
      obtain ⟨pre, db⟩ := out
      obtain ⟨rfl, -⟩ := writeLock_spec hwrite
      exact ends_atGateway (by simp [release, withDb, hholder]) (goTo_pc_self _ _ _)

theorem ends_unlocked (hpre : io.preTx = true) (hholder : s.holder = none)
    (hpc : s.pc t = .unlocked) :
    Ends cfg dto io t (n + 7) s (proceed cfg io dto s.world (writeLock cfg io dto s.world.db)) := by
  rw [ends_succ, ends_succ]
  simp only [step, hpc, preGatewayStep, hpre, hholder, if_true, goTo_pc_self]
  exact ends_rowLocked hpre rfl (goTo_pc_self _ _ _)

theorem ends_onKey {found : Option PayoutIdempotencyKey} (hpre : io.preTx = true)
    (hholder : s.holder = none) (hpc : s.pc t = afterRead found .unlocked) :
    Ends cfg dto io t (n + 7) s
      (proceed cfg io dto s.world (onKey cfg io dto s.world.db found)) := by
  cases found with
  | none => exact ends_unlocked hpre hholder hpc
  | some k =>
      cases hk : k.payoutState with
      | PENDING | FAILED =>
          simp only [onKey, hk]
          exact ends_unlocked hpre hholder (by simpa only [afterRead, hk] using hpc)
      | SUCCESS | PROCESSING =>
          simp only [onKey, hk]
          exact ends_done (by simpa only [afterRead, hk] using hpc)

theorem ends_missed (hpre : io.preTx = true) (hholder : s.holder = none)
    (hpc : s.pc t = .missed) :
    Ends cfg dto io t (n + 8) s (proceed cfg io dto s.world
      (if FitsInt4 dto.eventTimestamp then
        onKey cfg io dto s.world.db
          (s.world.db.payoutIdempotencyKeys.findUnique dto.compositeIndex)
      else .error (.database "Unable to fit integer value into an INT4"))) := by
  rw [ends_succ]
  simp only [step, hpc, preGatewayStep, hpre, if_true]
  by_cases hfits : FitsInt4 dto.eventTimestamp
  · simp only [hfits, if_true]
    exact ends_onKey hpre hholder (goTo_pc_self _ _ _)
  · simp only [hfits, if_false]
    exact ends_done (goTo_pc_self _ _ _)

theorem ends_validated (hpre : io.preTx = true) (hholder : s.holder = none)
    (hpc : s.pc t = .validated) :
    Ends cfg dto io t (n + 9) s (proceed cfg io dto s.world
      (findIdempotencyKey cfg dto s.world.db >>= onKey cfg io dto s.world.db)) := by
  rw [ends_succ]
  simp only [step, hpc, preGatewayStep, hpre, if_true]
  unfold findIdempotencyKey
  cases hfound : s.world.db.payoutIdempotencyKeys.findUnique (.id (dto.deterministicId cfg)) with
  | none =>
      have h : Ends cfg dto io t (n + 8) (s.goTo t .missed) _ :=
        ends_missed hpre hholder (goTo_pc_self _ _ _)
      by_cases hfits : FitsInt4 dto.eventTimestamp <;>
        simpa [hfits, afterRead, ok_bind, error_bind] using h
  | some k =>
      have h : Ends cfg dto io t (n + 1 + 7) (s.goTo t (afterRead (some k) .unlocked)) _ :=
        ends_onKey hpre hholder (goTo_pc_self _ _ _)
      simp only [ok_bind]
      exact h

/-- A call that nobody interferes with does what `processParametricPayout` does. -/
theorem ends_start (hholder : s.holder = none) (hpc : s.pc t = .start) :
    Ends cfg dto io t (n + 10) s (processParametricPayout cfg io dto s.world) := by
  have hcall : processParametricPayout cfg io dto s.world =
      proceed cfg io dto s.world (preTx cfg io dto s.world.db) := rfl
  rw [hcall, ends_succ]
  simp only [step, hpc, preGatewayStep]
  unfold preTx
  cases hpre : io.preTx with
  | false => exact ends_done (goTo_pc_self _ _ _)
  | true =>
      have hkey : preGateway cfg io dto s.world.db = (do
          checkPolicy dto s.world.db
          findIdempotencyKey cfg dto s.world.db >>= onKey cfg io dto s.world.db) := rfl
      simp only [if_true, hkey]
      cases hpolicy : checkPolicy dto s.world.db with
      | error e => exact ends_done (goTo_pc_self _ _ _)
      | ok _ => exact ends_validated hpre hholder (goTo_pc_self _ _ _)

end Solo

end Schedules

/-! ## Two overlapping calls -/

open Sample in
/-- The first call settles before the second one starts to read. -/
theorem always_exclusion_in_turn :
    Run.Always (move cfg dto) Exclusion (init db : Threads Bool)
      (List.replicate 8 (false, io) ++ List.replicate 2 (true, io)) :=
  always_exclusion ⟨policy, rfl, rfl⟩ (by decide) (by decide)

/-- Both calls read before either writes. -/
def bothRead : List (Move Bool) :=
  List.replicate 3 (false, Sample.io) ++ List.replicate 3 (true, Sample.io) ++
    List.replicate 3 (false, Sample.io) ++ List.replicate 3 (true, Sample.io)

open Sample in
/-- Then both reach the gateway, although no operation fails. -/
theorem not_always_exclusion :
    Run.Along (move cfg dto) (Served cfg dto) (init db) bothRead ∧
      ¬ Run.Always (move cfg dto) Exclusion (init db) bothRead := by
  refine ⟨by decide, fun h => ?_⟩
  have hboth : ∀ t, ((Run.final (move cfg dto) (init db) bothRead).pc t).reachedGateway = true := by
    decide
  exact absurd (h.last.unique false true (hboth false) (hboth true)) (by decide)

end Aegis.Payments.Threads
