import Aegis.Library.Outcome
import Aegis.Library.Transactions
import Aegis.Model.Schema
import Mathlib.Algebra.Order.Ring.Rat

/-! # The liquidity pool

`LiquidityPoolService`; amounts are exact rationals. -/

namespace Aegis.LiquidityPool

open Outcome

def POOL_KEY : String := "SYSTEM_LIQUIDITY"

def RESERVE_KEY : String := "CONTINGENCY_RESERVE"

def OPERATING_FUND_KEY : String := "OPERATING_FUND"

abbrev Settings := Table SystemSetting.keys

/-- How the store answers one transaction on `system_settings`. -/
inductive Access where
  | available
  | tableMissing
  | down (message : String)
  deriving DecidableEq, Repr

/-- `Number(row?.value ?? fallback)`. -/
def valueOr (settings : Settings) (key : String) (fallback : ℚ) : ℚ :=
  ((settings.findUnique key).map SystemSetting.value).getD fallback

def put (settings : Settings) (key : String) (value : ℚ) : Except Exn Settings :=
  orThrow (settings.upsert key ⟨key, value⟩ ⟨fun s => { s with value }, fun _ => rfl⟩)
    (.database "Unique constraint failed")

inductive Source where
  | CORE
  | MIXED
  | UNTRACKED
  deriving DecidableEq, Repr

structure Withdrawal where
  withdrawnFrom : Source
  remainingPool : Option ℚ
  remainingReserve : Option ℚ
  deriving DecidableEq, Repr

/-- The transaction of `withdrawPayout`. -/
def withdrawTx (settings : Settings) (amountRupees : ℚ) :
    Except Exn (Withdrawal × Settings) :=
  let poolBalance := valueOr settings POOL_KEY 5000000
  if poolBalance < amountRupees then
    let reserveBalance := valueOr settings RESERVE_KEY 0
    if poolBalance + reserveBalance < amountRupees then
      .error (.error "GATEWAY_REJECTION: Insufficient Platform Solvency")
    else do
      let diff := amountRupees - poolBalance
      let settings ← put settings POOL_KEY 0
      let settings ← put settings RESERVE_KEY (reserveBalance - diff)
      pure (⟨.MIXED, some 0, some (reserveBalance - diff)⟩, settings)
  else do
    let nextPoolVal := poolBalance - amountRupees
    let settings ← put settings POOL_KEY nextPoolVal
    pure (⟨.CORE, some nextPoolVal, none⟩, settings)

/-- A missing table is tolerated: the withdrawal is then not tracked. -/
def withdrawPayout (access : Access) (settings : Settings) (amountRupees : ℚ) :
    Except Exn (Withdrawal × Settings) :=
  match access with
  | .available => withdrawTx settings amountRupees
  | .tableMissing => .ok (⟨.UNTRACKED, none, none⟩, settings)
  | .down message => .error (.database message)

structure Injection where
  totalInjected : ℚ
  newPoolBalance : Option ℚ
  newReserveBalance : Option ℚ
  deriving DecidableEq, Repr

def RISK_POOL_WEIGHT : ℚ := 80 / 100

def CONTINGENCY_WEIGHT : ℚ := 15 / 100

def OPERATING_WEIGHT : ℚ := 5 / 100

/-- The transaction of `injectPremium`. -/
def injectTx (settings : Settings) (amountRupees : ℚ) : Except Exn (Injection × Settings) := do
  let newPoolVal := valueOr settings POOL_KEY 5000000 + amountRupees * RISK_POOL_WEIGHT
  let settings ← put settings POOL_KEY newPoolVal
  let newReserveVal := valueOr settings RESERVE_KEY 1000000 + amountRupees * CONTINGENCY_WEIGHT
  let settings ← put settings RESERVE_KEY newReserveVal
  let newOpsVal := valueOr settings OPERATING_FUND_KEY 0 + amountRupees * OPERATING_WEIGHT
  let settings ← put settings OPERATING_FUND_KEY newOpsVal
  pure (⟨amountRupees, some newPoolVal, some newReserveVal⟩, settings)

def injectPremium (access : Access) (settings : Settings) (amountRupees : ℚ) :
    Except Exn (Injection × Settings) :=
  match access with
  | .available => injectTx settings amountRupees
  | .tableMissing => .ok (⟨amountRupees, none, none⟩, settings)
  | .down message => .error (.database message)

/-! ## The report -/

structure LiquidityStatus where
  coreRiskPool : ℚ
  contingencyReserve : ℚ
  operatingFund : ℚ
  totalCapital : ℚ
  status : String
  deriving DecidableEq, Repr

/-- What is reported of the table; a missing key counts as nothing. -/
def statusOf (settings : Settings) : LiquidityStatus :=
  let poolVal := valueOr settings POOL_KEY 0
  let reserveVal := valueOr settings RESERVE_KEY 0
  let totalLiquidity := poolVal + reserveVal
  { coreRiskPool := poolVal
    contingencyReserve := reserveVal
    operatingFund := valueOr settings OPERATING_FUND_KEY 0
    totalCapital := totalLiquidity
    status :=
      if 5000000 < totalLiquidity then "HEALTHY"
      else if 1000000 < totalLiquidity then "STABLE"
      else "CRITICAL" }

def getLiquidityStatus (access : Access) (settings : Settings) : Except Exn LiquidityStatus :=
  match access with
  | .available => .ok (statusOf settings)
  | .tableMissing => .ok (statusOf .empty)
  | .down message => .error (.database message)

end Aegis.LiquidityPool

/-! ## Overlapping ledger transactions

The transactions of `injectPremium` and `withdrawPayout`, statement by statement: every
`findUnique` and every `upsert` of a precomputed value is a step of its own. -/

namespace Aegis.LiquidityPool

open Transactions

/-- A call on the ledger. -/
inductive Op where
  | injectPremium (amountRupees : ℚ≥0)
  | withdrawPayout (amountRupees : ℚ≥0)

/-- The table as the transactions see it. -/
def view (settings : Settings) : Store String ℚ :=
  fun key => (settings.findUnique key).map SystemSetting.value

/-- `const next = Number(current?.value ?? fallback) + share; upsert(key, next)`. -/
def addTo (key : String) (fallback share : ℚ) (next : Program String ℚ) : Program String ℚ :=
  .read key fun current => .write key (current.getD fallback + share) next

def injectProgram (amountRupees : ℚ) : Program String ℚ :=
  addTo POOL_KEY 5000000 (amountRupees * RISK_POOL_WEIGHT) <|
    addTo RESERVE_KEY 1000000 (amountRupees * CONTINGENCY_WEIGHT) <|
      addTo OPERATING_FUND_KEY 0 (amountRupees * OPERATING_WEIGHT) .commit

def withdrawProgram (amountRupees : ℚ) : Program String ℚ :=
  .read POOL_KEY fun currentPool =>
    let poolBalance := currentPool.getD 5000000
    if poolBalance < amountRupees then
      .read RESERVE_KEY fun currentReserve =>
        let reserveBalance := currentReserve.getD 0
        if poolBalance + reserveBalance < amountRupees then .abort
        else
          .write POOL_KEY 0 <|
            .write RESERVE_KEY (reserveBalance - (amountRupees - poolBalance)) .commit
    else .write POOL_KEY (poolBalance - amountRupees) .commit

def Op.program : Op → Program String ℚ
  | .injectPremium amountRupees => injectProgram amountRupees
  | .withdrawPayout amountRupees => withdrawProgram amountRupees

end Aegis.LiquidityPool
