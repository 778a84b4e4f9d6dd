import Aegis.Model.Gateway
import Aegis.Model.Idempotency
import Aegis.Model.LiquidityPool
import Aegis.Library.Number

/-! # Parametric payouts

`PaymentsService.processParametricPayout`: the pre-gateway transaction, the handshake
with a money rail, the resolution transaction and the failure path. Every clock or random
read and the fate of every remote operation of one call are collected in `Io`. -/

namespace Aegis.Payments

open Outcome Gateway LiquidityPool

structure Config where
  env : Env
  /-- The hexadecimal digest of `crypto.createHash('sha256')`. -/
  sha256 : String → String

structure ParametricPayoutDto where
  userId : String
  policyId : String
  disruptionEventId : String
  eventTimestamp : ℤ
  h3Cell : String
  approvedPayout : ℚ
  correlationId : Option String := none
  deriving DecidableEq, Repr

/-- How money left the platform. -/
inductive Rail where
  | razorpayX (contact : ContactBody) (fundAccount : FundAccount)
  | hardened (withdrawnFrom : Source)
  deriving DecidableEq, Repr

structure Transfer where
  id : String
  rail : Rail
  amountPaise : ℤ
  referenceId : String
  userId : String
  policyId : String
  disruptionEventId : String
  deriving DecidableEq, Repr

/-- The store and the transfers executed so far. -/
structure World where
  db : Db
  transfers : List Transfer := []

/-- A flag is `true` when the operation it names goes through. -/
structure Io where
  now : ℤ
  /-- Ids drawn for rows that may be created. -/
  payoutId : String
  claimCaseId : String
  /-- `crypto.randomBytes(18)`. -/
  randomBytes : List ℕ
  preTx : Bool
  readUser : Bool
  readPayoutSetup : Bool
  contact : List (Reply String)
  fundAccount : List (Reply String)
  payout : List (Reply RazorpayPayout)
  withdraw : Access
  phase2 : Bool
  markFailed : Bool
  markRejected : Bool

def storeDown : Exn := .database "Can't reach database server"

def constraintFailed : Exn := .database "Unique constraint failed"

def foreignKeyFailed : Exn := .database "Foreign key constraint failed"

def acidLock : Exn := .error "ACID_LOCK: Payout already in flight"

def recordNotFound : Exn := .database "Record to update not found."

/-! ## Row updates -/

def setPayoutState (payoutState : PayoutState) : RowUpdate PayoutIdempotencyKey.keys where
  apply k := { k with payoutState }
  keys_apply _ := rfl

def setStatus (status : PayoutStatus) : RowUpdate Payout.keys where
  apply p := { p with status }
  keys_apply _ := rfl

/-! ## Phase 1: the pre-gateway transaction -/

namespace ParametricPayoutDto

variable (cfg : Config) (dto : ParametricPayoutDto)

def claimId : String := Idempotency.claimIdOf dto.policyId dto.disruptionEventId

def deterministicId : String :=
  Idempotency.buildKey cfg.sha256 dto.claimId dto.eventTimestamp

def cid : String :=
  dto.correlationId.getD ("cid_" ++ String.ofList ((dto.deterministicId cfg).toList.take 16))

/-- The unique index of the ledger row and of the claim case. -/
def payoutIndex : PayoutIndex :=
  .policyId_disruptionEventId dto.policyId dto.disruptionEventId

def claimCaseIndex : ClaimCaseIndex :=
  .policyId_disruptionEventId dto.policyId dto.disruptionEventId

def compositeIndex : PayoutIdempotencyIndex :=
  .userId_h3Cell_eventTimestamp dto.userId dto.h3Cell dto.eventTimestamp

end ParametricPayoutDto

section PreGateway

variable (cfg : Config) (io : Io) (dto : ParametricPayoutDto) (db : Db)

/-- 1.1 Gate validation. -/
def checkPolicy : Except Exn Unit :=
  match db.policies.findUnique dto.policyId with
  | some policy => require (policy.userId = dto.userId) (.error "ACID_FAIL: Invalid policy")
  | none => .error (.error "ACID_FAIL: Invalid policy")

/-- 1.2 The record under the deterministic id or else under the composite key. -/
def findIdempotencyKey : Except Exn (Option PayoutIdempotencyKey) :=
  match db.payoutIdempotencyKeys.findUnique (.id (dto.deterministicId cfg)) with
  | some idemp => .ok (some idemp)
  | none =>
      if FitsInt4 dto.eventTimestamp then
        .ok (db.payoutIdempotencyKeys.findUnique dto.compositeIndex)
      else .error (.database "Unable to fit integer value into an INT4")

def newIdempotencyKey : PayoutIdempotencyKey where
  id := dto.deterministicId cfg
  userId := dto.userId
  h3Cell := dto.h3Cell
  eventTimestamp := dto.eventTimestamp
  payoutState := .PROCESSING
  payoutId := none
  errorMessage := none

/-- 1.3 Create or lock the idempotency record. -/
def lockIdempotencyKey : Except Exn Db := do
  require (FitsInt4 dto.eventTimestamp) (.database "Unable to fit integer value into an INT4")
  let keys ← orThrow
    (db.payoutIdempotencyKeys.upsert (.id (dto.deterministicId cfg)) (newIdempotencyKey cfg dto)
      (setPayoutState .PROCESSING))
    constraintFailed
  pure { db with payoutIdempotencyKeys := keys }

def newPayout : Payout where
  id := io.payoutId
  policyId := dto.policyId
  disruptionEventId := dto.disruptionEventId
  status := .PROCESSING
  estimatedLoss := some dto.approvedPayout
  approvedPayout := some dto.approvedPayout
  transactionId := none
  paymentMethod := some "AUTO"
  processingTime := some (toString io.now)
  bankReference := none
  transferredAt := none
  createdAt := io.now

/-- 1.4 The persistent ledger row, with its id. -/
def lockPayout : Except Exn (String × Db) :=
  match db.payouts.findUnique dto.payoutIndex with
  | some payout =>
      .ok (payout.id, { db with
        payouts := db.payouts.update dto.payoutIndex (setStatus .PROCESSING) })
  | none => do
      require ((db.policies.findUnique dto.policyId).isSome ∧
        (db.disruptionEvents.findUnique dto.disruptionEventId).isSome) foreignKeyFailed
      let payouts ← orThrow (db.payouts.create (newPayout io dto)) constraintFailed
      pure (io.payoutId, { db with payouts })

def newClaimCase (payoutId : String) : ClaimCase where
  id := io.claimCaseId
  userId := dto.userId
  policyId := dto.policyId
  disruptionEventId := dto.disruptionEventId
  payoutId := some payoutId
  status := .UNDER_REVIEW
  reasonCode := some "ACID_PARAMETRIC_INIT"
  decisionNote := none
  correlationId := some (dto.cid cfg)

/-- 1.5 Claim case tracking. -/
def trackClaimCase (payoutId : String) : Except Exn Db :=
  match db.claimCases.findUnique dto.claimCaseIndex with
  | some _ => do
      let claimCases ← orThrow
        (db.claimCases.modify dto.claimCaseIndex fun c =>
          { c with
            status := .UNDER_REVIEW
            payoutId := some payoutId
            correlationId := some (dto.cid cfg) })
        constraintFailed
      pure { db with claimCases }
  | none => do
      require ((db.users.findUnique (.id dto.userId)).isSome ∧
        (db.policies.findUnique dto.policyId).isSome ∧
        (db.disruptionEvents.findUnique dto.disruptionEventId).isSome) foreignKeyFailed
      let claimCases ← orThrow (db.claimCases.create (newClaimCase cfg io dto payoutId))
        constraintFailed
      pure { db with claimCases }

/-- What the pre-gateway transaction decides. -/
inductive PreTx where
  | cached (payoutId : Option String) (transferReference : String)
  | gateway (payoutId idempotencyId : String)
  deriving DecidableEq, Repr

/-- Steps 1.3 to 1.5. -/
def writeLock : Except Exn (PreTx × Db) := do
  let db ← lockIdempotencyKey cfg dto db
  let (payoutId, db) ← lockPayout io dto db
  let db ← trackClaimCase cfg io dto db payoutId
  pure (.gateway payoutId (dto.deterministicId cfg), db)

def preGateway : Except Exn (PreTx × Db) := do
  checkPolicy dto db
  match ← findIdempotencyKey cfg dto db with
  | none => writeLock cfg io dto db
  | some idemp =>
      match idemp.payoutState with
      | .SUCCESS => pure (.cached idemp.payoutId idemp.id, db)
      | .PROCESSING => throw acidLock
      | .PENDING | .FAILED => writeLock cfg io dto db

/-- The transaction commits as a whole or leaves no trace. -/
def preTx : Except Exn (PreTx × Db) :=
  if io.preTx then preGateway cfg io dto db else .error storeDown

end PreGateway

/-! ## The external handshake -/

/-- `Math.max(100, Math.round(approvedPayout * 100))`. -/
def amountPaise (approvedPayout : ℚ) : ℤ := max 100 (Number.mathRound (approvedPayout * 100))

def BASE62 : List Char :=
  "0123456789ABCDEFGHIJKLMNOPQRSTUVWXYZabcdefghijklmnopqrstuvwxyz".toList

def base62 (bytes : List ℕ) : String :=
  String.ofList (bytes.map fun byte => BASE62.getD (byte % 62) '0')

def payoutReference (payoutId : String) : String := "aegis_payout_" ++ payoutId

section Handshake

variable (cfg : Config) (io : Io) (dto : ParametricPayoutDto)

def transferOf (rail : Rail) (referenceId : String) (payout : RazorpayPayout) : Transfer where
  id := payout.id
  rail := rail
  amountPaise := amountPaise dto.approvedPayout
  referenceId := referenceId
  userId := dto.userId
  policyId := dto.policyId
  disruptionEventId := dto.disruptionEventId

/-- Contact, fund account and payout, with every payout the gateway executed. -/
def payByRazorpayX (user : User) (setup : KYCPayoutSetup) (referenceId : String) :
    Except Exn RazorpayPayout × List Transfer :=
  match (razorpayXRequest cfg.env "/contacts" io.contact).1 with
  | .error e => (.error e, [])
  | .ok _ =>
      match fundAccountOf setup with
      | .error e => (.error e, [])
      | .ok fundAccount =>
          match (razorpayXRequest cfg.env "/fund_accounts" io.fundAccount).1 with
          | .error e => (.error e, [])
          | .ok _ =>
              let (payout, executed) := razorpayXRequest cfg.env "/payouts" io.payout
              (payout, executed.map
                (transferOf dto (.razorpayX (contactBody user) fundAccount) referenceId))

def simulatedPayout (referenceId : String) : RazorpayPayout where
  id := "pout_sim_" ++ base62 io.randomBytes
  referenceId := some ("rpy_ops_ref_" ++ referenceId)

def executeHardenedSettlementPipeline (referenceId : String) (settings : Settings) :
    Except Exn (RazorpayPayout × Transfer × Settings) := do
  let (settlement, settings) ←
    withdrawPayout io.withdraw settings ((amountPaise dto.approvedPayout : ℚ) / 100)
  let payout := simulatedPayout io referenceId
  pure (payout, transferOf dto (.hardened settlement.withdrawnFrom) referenceId payout, settings)

def loadUser (db : Db) : Except Exn User :=
  if io.readUser then orThrow (db.users.findUnique (.id dto.userId)) (.notFound "No User found")
  else .error storeDown

def loadPayoutSetup (db : Db) : Except Exn KYCPayoutSetup :=
  if io.readPayoutSetup then
    orThrow (db.kycPayoutSetups.findUnique dto.userId) (.badRequest "No KYCPayoutSetup found")
  else .error storeDown

/-- Chooses the rail and moves the money. -/
def handshake (payoutId : String) (w : World) : Except Exn RazorpayPayout × World :=
  let referenceId := payoutReference payoutId
  match loadUser io dto w.db with
  | .error e => (.error e, w)
  | .ok user =>
      if cfg.env.hasSourceAccount then
        match loadPayoutSetup io dto w.db with
        | .error e => (.error e, w)
        | .ok setup =>
            let (payout, executed) := payByRazorpayX cfg io dto user setup referenceId
            (payout, { w with transfers := w.transfers ++ executed })
      else if cfg.env.isRazorpayTestMode then
        match executeHardenedSettlementPipeline io dto referenceId w.db.systemSettings with
        | .error e => (.error e, w)
        | .ok (payout, transfer, systemSettings) =>
            (.ok payout,
              { db := { w.db with systemSettings }, transfers := w.transfers ++ [transfer] })
      else (.error (.badRequest "RAZORPAYX_SOURCE_ACCOUNT_MISSING"), w)

end Handshake

/-! ## Phase 2 and the failure path -/

structure PayoutResult where
  cached : Bool
  state : PayoutState
  payoutId : Option String
  transactionId : Option String
  transferRail : String
  transferReference : String
  deriving DecidableEq, Repr

section Settle

variable (cfg : Config) (io : Io) (dto : ParametricPayoutDto) (payoutId idempotencyId : String)

def bankReference (payout : RazorpayPayout) : String :=
  payout.referenceId.getD (payoutReference payoutId)

def approvePayout (payout : RazorpayPayout) : RowUpdate Payout.keys where
  apply p := { p with
    status := .APPROVED
    transactionId := some payout.id
    bankReference := some (bankReference payoutId payout)
    transferredAt := some io.now }
  keys_apply _ := rfl

def payClaimCase (payout : RazorpayPayout) : RowUpdate ClaimCase.keys where
  apply c := { c with
    status := .PAID
    decisionNote := some ("ACID_SETTLEMENT: Success ref=" ++ bankReference payoutId payout) }
  keys_apply _ := rfl

def markSucceeded : RowUpdate PayoutIdempotencyKey.keys where
  apply k := { k with payoutState := .SUCCESS, payoutId := some payoutId }
  keys_apply _ := rfl

def markFailed (e : Exn) : RowUpdate PayoutIdempotencyKey.keys where
  apply k := { k with payoutState := .FAILED, errorMessage := some e.message }
  keys_apply _ := rfl

/-- The resolution transaction. -/
def resolve (payout : RazorpayPayout) (db : Db) : Except Exn Db := do
  require (io.phase2 = true) storeDown
  require ((db.payouts.findUnique (.id payoutId)).isSome) recordNotFound
  require ((db.payoutIdempotencyKeys.findUnique (.id idempotencyId)).isSome) recordNotFound
  pure { db with
    payouts := db.payouts.update (.id payoutId) (approvePayout io payoutId payout)
    claimCases := db.claimCases.updateMany
      (fun c => c.policyId = dto.policyId && c.disruptionEventId = dto.disruptionEventId)
      (payClaimCase payoutId payout)
    payoutIdempotencyKeys :=
      db.payoutIdempotencyKeys.update (.id idempotencyId) (markSucceeded payoutId) }

def rollbackKey (e : Exn) (db : Db) : Db :=
  { db with
    payoutIdempotencyKeys :=
      if io.markFailed then db.payoutIdempotencyKeys.update (.id idempotencyId) (markFailed e)
      else db.payoutIdempotencyKeys }

def rollbackRow (db : Db) : Db :=
  { db with
    payouts :=
      if io.markRejected then db.payouts.update (.id payoutId) (setStatus .REJECTED)
      else db.payouts }

/-- The two updates of the catch block, each of which may fail silently. -/
def rollback (e : Exn) (db : Db) : Db :=
  rollbackRow io payoutId (rollbackKey io idempotencyId e db)

def settlementFailed (e : Exn) : Exn := .badRequest ("Payout settlement failed: " ++ e.message)

def settledResult (payout : RazorpayPayout) : PayoutResult where
  cached := false
  state := .SUCCESS
  payoutId := some payoutId
  transactionId := some payout.id
  transferRail := "UPI"
  transferReference := bankReference payoutId payout

def settle (w : World) : Except Exn PayoutResult × World :=
  let (payout, w) := handshake cfg io dto payoutId w
  match do let payout ← payout; let db ← resolve io dto payoutId idempotencyId payout w.db
           pure (payout, db) with
  | .ok (payout, db) => (.ok (settledResult payoutId payout), { w with db })
  | .error e =>
      (.error (settlementFailed e), { w with db := rollback io payoutId idempotencyId e w.db })

end Settle

def cachedResult (payoutId : Option String) (transferReference : String) : PayoutResult where
  cached := true
  state := .SUCCESS
  payoutId := payoutId
  transactionId := none
  transferRail := "UPI"
  transferReference := transferReference

def processParametricPayout (cfg : Config) (io : Io) (dto : ParametricPayoutDto) (w : World) :
    Except Exn PayoutResult × World :=
  match preTx cfg io dto w.db with
  | .error e => (.error e, w)
  | .ok (.cached payoutId transferReference, db) =>
      (.ok (cachedResult payoutId transferReference), { w with db })
  | .ok (.gateway payoutId idempotencyId, db) =>
      settle cfg io dto payoutId idempotencyId { w with db }

end Aegis.Payments
