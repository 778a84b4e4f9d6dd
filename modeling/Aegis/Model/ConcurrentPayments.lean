import Aegis.Model.Payments
import Mathlib.Logic.Function.Basic

/-! # Overlapping calls with identical arguments

Each call is a thread whose statements are steps of their own. Reads see the last
committed store, as under READ COMMITTED. The upsert of the idempotency key takes the lock
of its row and waits while another transaction holds it; the writes of a transaction
become visible at its commit, and no other transaction can touch the rows in between. -/

namespace Aegis.Payments

open Outcome Gateway LiquidityPool

/-- Where a call stands. -/
inductive Pc where
  | start
  | validated
  | missed
  | unlocked
  | keyLocked
  | rowLocked
  | atGateway (payoutId idempotencyId : String)
  | paid (payoutId idempotencyId : String) (payout : RazorpayPayout)
  | failing (payoutId idempotencyId : String) (e : Exn)
  | failed (payoutId : String) (e : Exn)
  | done (reachedGateway : Bool) (result : Except Exn PayoutResult)
  deriving DecidableEq

/-- The call has committed its pre-gateway transaction. -/
def Pc.reachedGateway : Pc → Bool
  | start | validated | missed | unlocked | keyLocked | rowLocked => false
  | atGateway .. | paid .. | failing .. | failed .. => true
  | done reached _ => reached

/-- The committed store, the holder of the lock on the key, and every call. -/
structure Threads (τ : Type) where
  world : World
  holder : Option τ := none
  pc : τ → Pc := fun _ => .start

namespace Threads

variable {τ : Type} [DecidableEq τ]

def goTo (s : Threads τ) (t : τ) (pc : Pc) : Threads τ :=
  { s with pc := Function.update s.pc t pc }

def release (s : Threads τ) (t : τ) : Threads τ :=
  { s with holder := if s.holder = some t then none else s.holder }

/-- The transaction of `t` is rolled back. -/
def abort (s : Threads τ) (t : τ) (e : Exn) : Threads τ :=
  (s.release t).goTo t (.done false (.error e))

def withDb (s : Threads τ) (db : Db) : Threads τ :=
  { s with world := { s.world with db } }

/-- The lock on the ledger row is held. -/
def rowHeld (s : Threads τ) : Bool :=
  match s.holder with
  | some holder => (s.pc holder matches .rowLocked)
  | none => false

/-- What a call does after reading a key, `next` being where it goes without one. -/
def afterRead (found : Option PayoutIdempotencyKey) (next : Pc) : Pc :=
  match found with
  | none => next
  | some k =>
      match k.payoutState with
      | .SUCCESS => .done false (.ok (cachedResult k.payoutId k.id))
      | .PROCESSING => .done false (.error acidLock)
      | .PENDING | .FAILED => .unlocked

variable (cfg : Config) (dto : ParametricPayoutDto) (io : Io) (s : Threads τ) (t : τ)

/-- One statement of the pre-gateway transaction. -/
def preGatewayStep (pc : Pc) : Threads τ :=
  if io.preTx then
    match pc with
    | .start =>
        match checkPolicy dto s.world.db with
        | .ok _ => s.goTo t .validated
        | .error e => s.abort t e
    | .validated =>
        s.goTo t (afterRead
          (s.world.db.payoutIdempotencyKeys.findUnique (.id (dto.deterministicId cfg))) .missed)
    | .missed =>
        if FitsInt4 dto.eventTimestamp then
          s.goTo t (afterRead
            (s.world.db.payoutIdempotencyKeys.findUnique dto.compositeIndex) .unlocked)
        else s.abort t (.database "Unable to fit integer value into an INT4")
    | .unlocked =>
        if s.holder = none then { s with holder := some t }.goTo t .keyLocked else s
    | .keyLocked => s.goTo t .rowLocked
    | _ =>
        match writeLock cfg io dto s.world.db with
        | .ok (.gateway payoutId idempotencyId, db) =>
            ((s.withDb db).release t).goTo t (.atGateway payoutId idempotencyId)
        | .ok (.cached payoutId transferReference, _) =>
            (s.release t).goTo t (.done false (.ok (cachedResult payoutId transferReference)))
        | .error e => s.abort t e
  else s.abort t storeDown

/-- One step of the thread `t`; a step that needs a held lock waits. -/
def step : Threads τ :=
  match s.pc t with
  | .start => preGatewayStep cfg dto io s t .start
  | .validated => preGatewayStep cfg dto io s t .validated
  | .missed => preGatewayStep cfg dto io s t .missed
  | .unlocked => preGatewayStep cfg dto io s t .unlocked
  | .keyLocked => preGatewayStep cfg dto io s t .keyLocked
  | .rowLocked => preGatewayStep cfg dto io s t .rowLocked
  | .atGateway payoutId idempotencyId =>
      match handshake cfg io dto payoutId s.world with
      | (.ok payout, world) => { s with world }.goTo t (.paid payoutId idempotencyId payout)
      | (.error e, world) => { s with world }.goTo t (.failing payoutId idempotencyId e)
  | .paid payoutId idempotencyId payout =>
      if s.holder = none then
        match resolve io dto payoutId idempotencyId payout s.world.db with
        | .ok db => (s.withDb db).goTo t (.done true (.ok (settledResult payoutId payout)))
        | .error e => s.goTo t (.failing payoutId idempotencyId e)
      else s
  | .failing payoutId idempotencyId e =>
      if s.holder = none then
        (s.withDb (rollbackKey io idempotencyId e s.world.db)).goTo t (.failed payoutId e)
      else s
  | .failed payoutId e =>
      if s.rowHeld then s
      else
        (s.withDb (rollbackRow io payoutId s.world.db)).goTo t
          (.done true (.error (settlementFailed e)))
  | .done .. => s

end Threads

end Aegis.Payments
