import Aegis.Model.Eligibility
import Aegis.Model.RedisState
import Mathlib.Logic.Function.Basic

/-! # The payout service

`PayoutService`: the payout formula, the gates in front of a settlement and the retry
queue. The fate of every operation of a call is in its `Io` record; the clock is read
once per call. -/

namespace Aegis.PayoutService

open Outcome RedisState Payments

structure Config extends Payments.Config where
  eligibility : Eligibility.Env

/-- The parts of a driver profile that the services read. -/
structure DriverDay where
  hoursWorked : Option ℚ := none
  completedDeliveries : Option ℚ := none
  deriving DecidableEq, Repr

structure DriverProfile where
  weeklyEarningsTotal : Option ℚ := none
  averageWeeklyEarnings : Option ℚ := none
  dailyBreakdown : List DriverDay := []
  provider : Option String := none
  deriving DecidableEq, Repr

/-- `currentWeek.weeklyEarningsTotal ?? workSummary.averageWeeklyEarnings ?? 0`. -/
def resolveWeeklyEarnings (profile : DriverProfile) : ℚ :=
  (profile.weeklyEarningsTotal.or profile.averageWeeklyEarnings).getD 0

def policyNotFound (message : String) : Exn := .notFound ("AEGIS_ERR_201: " ++ message)

def policyZoneNotSet : Exn := .badRequest "Policy zone not set"

/-- The driver's started, unexpired policy; the newest one if there are several. -/
def activePolicy (now : ℤ) (db : Db) (driverId : String) : Option Policy :=
  db.policies.findFirstDesc
    (fun p => p.userId = driverId && p.status = .ACTIVE && p.startDate ≤ now && now < p.endDate)
    Policy.createdAt

/-! ## The formula -/

section Calculate

structure CalculateParams where
  driverId : String
  Ew : Option ℚ := none
  Lf : Option ℚ := none
  Ct : Option ℚ := none
  deriving DecidableEq, Repr

structure CalculateIo where
  now : ℤ
  readPolicy : Bool
  redisUp : Bool
  profile : DriverProfile

structure PayoutCalculation where
  driverId : String
  Ew : ℚ
  Lf : ℚ
  Ct : ℚ
  deductible : ℚ
  daily_income : ℚ
  grossPayoutAmount : ℚ
  payoutAmount : ℚ
  deriving DecidableEq, Repr

/-- The loss fraction of the zone the driver was last seen in. -/
def driverLf (io : CalculateIo) (redis : Redis) (driverId : String) : ℚ :=
  match cellOf (getDriverState io.redisUp io.now redis driverId) with
  | some h3Cell =>
      if h3Cell = "" then 5 / 10
      else zoneLf (getZoneState io.redisUp io.now redis h3Cell) (5 / 10)
  | none => 5 / 10

/-- A zero `Ew` or `Lf` counts as not given. -/
def calculatePayout (io : CalculateIo) (s : System) (params : CalculateParams) :
    Except Exn PayoutCalculation := do
  require (io.readPolicy = true) storeDown
  let policy ← orThrow (activePolicy io.now s.db params.driverId)
    (policyNotFound "Active policy not found for payout")
  let Ct ← orThrow (ctForPlan (some policy.planType))
    (.badRequest "AEGIS_ERR_202: Invalid plan tier for payout")
  let givenEw := params.Ew.getD 0
  let Ew := if givenEw = 0 then io.profile.weeklyEarningsTotal.getD 0 else givenEw
  let givenLf := params.Lf.getD 0
  let Lf := if givenLf = 0 then driverLf io s.redis params.driverId else givenLf
  let dailyIncome := Ew / 7
  let grossPayout := computeGrossPayout Ew Lf Ct
  let deductible := resolveDeductible (some policy.planType)
  let payout := computeNetPayout grossPayout deductible
  pure {
    driverId := params.driverId
    Ew, Lf, Ct, deductible
    daily_income := Number.toFixed2 dailyIncome
    grossPayoutAmount := Number.toFixed2 grossPayout
    payoutAmount := Number.toFixed2 payout }

end Calculate

/-! ## Processing a payout -/

section Process

structure ProcessPayoutParams where
  driverId : String
  payoutAmount : Option ℚ := none
  h3Cell : Option String := none
  eventTimestamp : Option ℤ := none
  policyId : Option String := none
  disruptionType : Option String := none
  deriving DecidableEq, Repr

/-- `redisUp` is the connection at the gates, `redisPush` the one at the retry push. -/
structure ProcessIo where
  now : ℤ
  readPolicy : Bool
  readEligibility : Bool
  redisUp : Bool
  readEvent : Bool
  eventId : String
  createEvent : Bool
  readPayout : Bool
  settle : Payments.Io
  redisPush : Bool

/-- An absent and an empty string are both falsy. -/
def truthy (v : Option String) : Option String := v.filter (· ≠ "")

variable (cfg : Config) (io : ProcessIo) (params : ProcessPayoutParams)

def selectPolicy (db : Db) : Except Exn Policy := do
  require (io.readPolicy = true) storeDown
  match truthy params.policyId with
  | some policyId =>
      let policy ← orThrow (db.policies.findUnique policyId)
        (policyNotFound "Active policy not found")
      require (policy.startDate ≤ io.now) (policyNotFound "Policy is in cooling-off period")
      pure policy
  | none =>
      orThrow (activePolicy io.now db params.driverId) (policyNotFound "Active policy not found")

/-- The gates in front of a settlement: the policy and the cell that passed them. -/
def checkGates (s : System) : Except Exn (Policy × String) := do
  let policy ← selectPolicy io params s.db
  require (policy.userId = params.driverId) (.badRequest "Policy does not belong to driver")
  require (policy.status = .ACTIVE ∧ io.now < policy.endDate) (.badRequest "Policy is not active")
  let _ ← Eligibility.assertDriverPolicyEligibility cfg.eligibility io.readEligibility io.now s.db
    params.driverId (some policy.planType)
  let h3Cell ← orThrow
    (truthy (params.h3Cell.or
      (cellOf (getDriverState io.redisUp io.now s.redis params.driverId))))
    (.notFound "AEGIS_ERR_205: Missing H3 cell for payout")
  let policyZone ← orThrow
    (truthy ((getPolicyState io.redisUp io.now s.redis policy.id).bind PolicyState.zone))
    policyZoneNotSet
  require (policyZone = h3Cell) (.badRequest "AEGIS_ERR_203: Policy zone mismatch")
  require (zoneLabel (getZoneState io.redisUp io.now s.redis h3Cell) = "HALTED")
    (.badRequest "AEGIS_ERR_204: Zone is not halted")
  pure (policy, h3Cell)

def eventType : String := params.disruptionType.getD "ELITE_PARAMETRIC_TRIGGER"

def newEvent : DisruptionEvent where
  id := io.eventId
  type := eventType params
  title := "Elite Parametric Settlement Event"
  expectedLoss := some (params.payoutAmount.getD 0)
  expectedPayout := some (params.payoutAmount.getD 0)
  occurredAt := io.now
  expiresAt := none
  verified := true

/-- The latest event of the type within the last hour, or a new one. -/
def findOrCreateEvent (db : Db) : Except Exn (DisruptionEvent × Db) := do
  require (io.readEvent = true) storeDown
  match db.disruptionEvents.findFirstDesc
      (fun e => e.type = eventType params && io.now - 3600 * 1000 ≤ e.occurredAt)
      DisruptionEvent.occurredAt with
  | some disruption => pure (disruption, db)
  | none =>
      require (io.createEvent = true) storeDown
      let disruptionEvents ← orThrow (db.disruptionEvents.create (newEvent io params))
        constraintFailed
      pure (newEvent io params, { db with disruptionEvents })

inductive ProcessPayoutResult where
  | existing (payoutId : String) (transactionId : Option String) (grossAmount netAmount : ℚ)
  | settled (deductibleApplied grossAmount netAmount : ℚ) (payout : PayoutResult)
  | retryQueued
  deriving DecidableEq, Repr

def ProcessPayoutResult.success : ProcessPayoutResult → Bool
  | existing .. | settled .. => true
  | retryQueued => false

def ProcessPayoutResult.transactionId : ProcessPayoutResult → Option String
  | existing _ transactionId _ _ => transactionId
  | settled _ _ _ payout => payout.transactionId
  | retryQueued => none

/-- The request that `processPayout` hands to the settlement. -/
def settlementOf (policy : Policy) (h3Cell : String) (disruption : DisruptionEvent) :
    ParametricPayoutDto where
  userId := params.driverId
  policyId := policy.id
  disruptionEventId := disruption.id
  eventTimestamp := params.eventTimestamp.getD (io.now / 1000)
  h3Cell := h3Cell
  approvedPayout :=
    computeNetPayout (params.payoutAmount.getD 0) (resolveDeductible (some policy.planType))

def retryOf (dto : ParametricPayoutDto) : PayoutRetry where
  driverId := dto.userId
  policyId := dto.policyId
  disruptionEventId := dto.disruptionEventId
  h3Cell := dto.h3Cell
  approvedPayout := some dto.approvedPayout
  eventTimestamp := some dto.eventTimestamp
  attempts := none

/-- Settles through `processParametricPayout`; a failure is queued for retry. -/
def settleOrQueue (policy : Policy) (dto : ParametricPayoutDto) (s : System) :
    ProcessPayoutResult × System :=
  match processParametricPayout cfg.toConfig io.settle dto s.toWorld with
  | (.ok payout, world) =>
      (.settled (resolveDeductible (some policy.planType)) (params.payoutAmount.getD 0)
        dto.approvedPayout payout, { s with toWorld := world })
  | (.error _, world) =>
      (.retryQueued, ⟨world, pushPayoutRetry io.redisPush s.redis (retryOf dto)⟩)

def processPayout (s : System) : Except Exn ProcessPayoutResult × System :=
  match checkGates cfg io params s with
  | .error e => (.error e, s)
  | .ok (policy, h3Cell) =>
      match findOrCreateEvent io params s.db with
      | .error e => (.error e, s)
      | .ok (disruption, db) =>
          let s := { s with db }
          if io.readPayout then
            match db.payouts.findUnique (.policyId_disruptionEventId policy.id disruption.id) with
            | some existingPayout =>
                (.ok (.existing existingPayout.id existingPayout.transactionId
                  (params.payoutAmount.getD 0) (existingPayout.approvedPayout.getD 0)), s)
            | none =>
                let (result, s) := settleOrQueue cfg io params policy
                  (settlementOf io params policy h3Cell disruption) s
                (.ok result, s)
          else (.error storeDown, s)

end Process

/-! ## The retry queue -/

section Retry

def PAYOUT_RETRY_MAX_ATTEMPTS : ℕ := 5

def PAYOUT_RETRY_BATCH_SIZE : ℕ := 25

/-- What one turn of the loop meets. -/
structure RetryIo where
  now : ℤ
  redisPop : Bool
  settle : Payments.Io
  redisPush : Bool
  createDlq : Bool

variable (cfg : Config)

def dtoOfRetry (io : RetryIo) (processed : ℕ) (entry : PayoutRetry) : ParametricPayoutDto where
  userId := entry.driverId
  policyId := entry.policyId
  disruptionEventId := entry.disruptionEventId
  eventTimestamp := entry.eventTimestamp.getD (io.now / 1000)
  h3Cell := entry.h3Cell
  approvedPayout := entry.approvedPayout.getD 0
  correlationId := some ("retry_" ++ toString io.now ++ "_" ++ toString processed)

def deadLetter (entry : PayoutRetry) (attempts : ℕ) (e : Exn) : KafkaDLQ where
  topic := "PAYOUT_RETRY_EXHAUSTED"
  eventKey := some entry.driverId
  payload := .payoutRetry { entry with attempts := some attempts }
  error := some e.message
  retryCount := attempts
  status := "DEAD"

/-- One popped entry: settled, queued again or given up. -/
def retryEntry (io : RetryIo) (processed : ℕ) (entry : PayoutRetry) (s : System) :
    Except Exn Unit × System :=
  let attempts := entry.attempts.getD 0 + 1
  match processParametricPayout cfg.toConfig io.settle (dtoOfRetry io processed entry)
      s.toWorld with
  | (.ok _, world) => (.ok (), { s with toWorld := world })
  | (.error e, world) =>
      if PAYOUT_RETRY_MAX_ATTEMPTS ≤ attempts then
        if io.createDlq then
          (.ok (), { s with
            toWorld := { world with
              db := { world.db with
                kafkaDLQ := world.db.kafkaDLQ ++ [deadLetter entry attempts e] } } })
        else (.error storeDown, { s with toWorld := world })
      else
        (.ok (), ⟨world, pushPayoutRetry io.redisPush s.redis { entry with
          attempts := some attempts }⟩)

/-- The loop with `fuel` turns left, `processed` entries having been handled. -/
def retryLoop (io : ℕ → RetryIo) (processed : ℕ) : ℕ → System → Except Exn ℕ × System
  | 0, s => (.ok processed, s)
  | fuel + 1, s =>
      let turn := io processed
      match popPayoutRetry turn.redisPop s.redis with
      | (none, redis) => (.ok processed, { s with redis })
      | (some entry, redis) =>
          match retryEntry cfg turn (processed + 1) entry { s with redis } with
          | (.error e, s) => (.error e, s)
          | (.ok _, s) => retryLoop io (processed + 1) fuel s

def processPayoutRetryQueue (io : ℕ → RetryIo) (s : System) : Except Exn ℕ × System :=
  retryLoop cfg io 0 PAYOUT_RETRY_BATCH_SIZE s

end Retry

end Aegis.PayoutService

/-! ## Overlapping payout calls

Every call of `processPayout` is a thread. The gates, the two statements on disruption
events, the look at the ledger and the settlement are steps of their own. -/

namespace Aegis.PayoutService

open Outcome RedisState Payments

abbrev PayoutCall := ProcessIo × ProcessPayoutParams

/-- A transfer, the time of the call that executed it, and the type the call asked for. -/
structure Executed where
  transfer : Transfer
  time : ℤ
  type : String
  deriving DecidableEq, Repr

def executedIn (c : PayoutCall) (t : Transfer) : Executed := ⟨t, c.1.now, eventType c.2⟩

/-- Where a call stands. -/
inductive Pc where
  | start
  | gated (policy : Policy) (h3Cell : String)
  | missing (policy : Policy) (h3Cell : String)
  | identified (policy : Policy) (h3Cell : String) (disruption : DisruptionEvent)
  | settling (policy : Policy) (h3Cell : String) (disruption : DisruptionEvent)
  | done (result : Except Exn ProcessPayoutResult)
  deriving DecidableEq

/-- The system, the calls, and the events and transfers that the calls have made. -/
structure Dispatch (τ : Type) extends System where
  created : List DisruptionEvent := []
  log : List Executed := []
  pc : τ → Pc := fun _ => .start

namespace Dispatch

variable {τ : Type} [DecidableEq τ]

def goTo (s : Dispatch τ) (t : τ) (pc : Pc) : Dispatch τ :=
  { s with pc := Function.update s.pc t pc }

variable (cfg : Config) (c : PayoutCall) (s : Dispatch τ) (t : τ)

def findEvent (policy : Policy) (h3Cell : String) : Pc :=
  if c.1.readEvent then
    match s.db.disruptionEvents.findFirstDesc
        (fun e => e.type = eventType c.2 && c.1.now - 3600 * 1000 ≤ e.occurredAt)
        DisruptionEvent.occurredAt with
    | some disruption => .identified policy h3Cell disruption
    | none => .missing policy h3Cell
  else .done (.error storeDown)

def createEvent (policy : Policy) (h3Cell : String) : Dispatch τ :=
  if c.1.createEvent then
    match s.db.disruptionEvents.create (newEvent c.1 c.2) with
    | some disruptionEvents =>
        { s with
          db := { s.db with disruptionEvents }
          created := s.created ++ [newEvent c.1 c.2] }.goTo t
            (.identified policy h3Cell (newEvent c.1 c.2))
    | none => s.goTo t (.done (.error constraintFailed))
  else s.goTo t (.done (.error storeDown))

def findPayout (policy : Policy) (h3Cell : String) (disruption : DisruptionEvent) : Pc :=
  if c.1.readPayout then
    match s.db.payouts.findUnique (.policyId_disruptionEventId policy.id disruption.id) with
    | some existingPayout =>
        .done (.ok (.existing existingPayout.id existingPayout.transactionId
          (c.2.payoutAmount.getD 0) (existingPayout.approvedPayout.getD 0)))
    | none => .settling policy h3Cell disruption
  else .done (.error storeDown)

def settle (policy : Policy) (h3Cell : String) (disruption : DisruptionEvent) : Dispatch τ :=
  let (result, system) := settleOrQueue cfg c.1 c.2 policy
    (settlementOf c.1 c.2 policy h3Cell disruption) s.toSystem
  { s with
    toSystem := system
    log := s.log ++ (system.transfers.drop s.transfers.length).map (executedIn c) }.goTo t
      (.done (.ok result))

/-- One step of the thread `t`. -/
def step (calls : τ → PayoutCall) (s : Dispatch τ) (t : τ) : Dispatch τ :=
  let c := calls t
  match s.pc t with
  | .start =>
      match checkGates cfg c.1 c.2 s.toSystem with
      | .error e => s.goTo t (.done (.error e))
      | .ok (policy, h3Cell) => s.goTo t (.gated policy h3Cell)
  | .gated policy h3Cell => s.goTo t (findEvent c s policy h3Cell)
  | .missing policy h3Cell => createEvent c s t policy h3Cell
  | .identified policy h3Cell disruption => s.goTo t (findPayout c s policy h3Cell disruption)
  | .settling policy h3Cell disruption => settle cfg c s t policy h3Cell disruption
  | .done _ => s

end Dispatch

end Aegis.PayoutService
