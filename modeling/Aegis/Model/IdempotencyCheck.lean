import Aegis.Model.Payments

/-! # Checking a payout key

`PayoutIdempotencyService.checkOrCreate`, with nobody else writing to the table. -/

namespace Aegis.PayoutIdempotencyService

open Payments

structure IdempotencyCheckResult where
  shouldProcess : Bool
  idempotencyId : String
  cachedPayoutId : Option String := none
  state : PayoutState
  deriving DecidableEq, Repr

/-- The store during one attempt; `create` does not cover the unique indexes. -/
structure CheckIo where
  readKey : Bool
  reset : Bool
  create : Bool
  deriving DecidableEq, Repr

structure CheckArgs where
  userId : String
  h3Cell : String
  eventTimestamp : ℤ
  policyId : String
  disruptionEventId : String
  deriving DecidableEq, Repr

variable (sha256 : String → String) (args : CheckArgs)

def key : String :=
  Idempotency.buildKey sha256 (Idempotency.claimIdOf args.policyId args.disruptionEventId)
    args.eventTimestamp

def compositeIndex : PayoutIdempotencyIndex :=
  .userId_h3Cell_eventTimestamp args.userId args.h3Cell args.eventTimestamp

def pendingKey : PayoutIdempotencyKey where
  id := key sha256 args
  userId := args.userId
  h3Cell := args.h3Cell
  eventTimestamp := args.eventTimestamp
  payoutState := .PENDING
  payoutId := none
  errorMessage := none

def resetKey : RowUpdate PayoutIdempotencyKey.keys where
  apply k := { k with
    payoutState := .FAILED
    errorMessage := some "Process interrupted — reset by idempotency guard" }
  keys_apply _ := rfl

/-- The record found under the deterministic id; a stuck one is reset. -/
def resume (io : CheckIo) (existing : PayoutIdempotencyKey) (db : Db) :
    Except Exn IdempotencyCheckResult × Db :=
  match existing.payoutState with
  | .SUCCESS => (.ok ⟨false, existing.id, existing.payoutId, .SUCCESS⟩, db)
  | .PROCESSING =>
      if io.reset then
        (.ok ⟨true, existing.id, none, .FAILED⟩,
          { db with
            payoutIdempotencyKeys := db.payoutIdempotencyKeys.update (.id existing.id) resetKey })
      else (.error storeDown, db)
  | .PENDING => (.ok ⟨true, existing.id, none, .PENDING⟩, db)
  | .FAILED => (.ok ⟨true, existing.id, none, .FAILED⟩, db)

/-- `none` when the call has not returned after `fuel` attempts. -/
def checkOrCreate (io : ℕ → CheckIo) :
    ℕ → ℕ → Db → Option (Except Exn IdempotencyCheckResult × Db)
  | 0, _, _ => none
  | fuel + 1, attempt, db =>
      if (io attempt).readKey then
        match db.payoutIdempotencyKeys.findUnique (.id (key sha256 args)) with
        | some existing => some (resume (io attempt) existing db)
        | none =>
            if (io attempt).create ∧ FitsInt4 args.eventTimestamp then
              match db.payoutIdempotencyKeys.create (pendingKey sha256 args) with
              | some payoutIdempotencyKeys =>
                  some (.ok ⟨true, key sha256 args, none, .PENDING⟩,
                    { db with payoutIdempotencyKeys })
              -- the unique violation counts as a race, and the key is read again
              | none => checkOrCreate io fuel (attempt + 1) db
            else some (.error storeDown, db)
      else some (.error storeDown, db)

end Aegis.PayoutIdempotencyService
