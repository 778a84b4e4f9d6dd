import Aegis.Model.Insurance
import Aegis.Model.Payments
import Mathlib.Algebra.BigOperators.Group.List.Basic

/-! # The loss ratio on the dashboards

`CanonicalDashboardController.lossRatio` and the actuarial figures of
`AdminService.getDashboardSummary`. -/

namespace Aegis

open Outcome Number
open Payments (storeDown)

/-- `Number(x.toFixed(4))`: four decimals, halves away from zero. -/
def Number.toFixed4 (x : ℚ) : ℚ :=
  if x < 0 then -(mathRound (-x * 10000) : ℚ) / 10000 else (mathRound (x * 10000) : ℚ) / 10000

/-- The two aggregates; `_sum` is null over no row. -/
structure Aggregates where
  premium : ℚ
  approvedPayout : ℚ
  deriving DecidableEq, Repr

def aggregates (db : Db) : Aggregates where
  premium := (db.policies.rows.map Policy.premium).sum
  approvedPayout := (db.payouts.rows.map fun p => p.approvedPayout.getD 0).sum

namespace CanonicalDashboardController

structure LossRatio where
  totalPremium : ℚ
  totalPayout : ℚ
  lossRatio : ℚ
  deriving DecidableEq, Repr

/-- The answer; `readSums` is `true` when both aggregates are read. -/
def lossRatio (readSums : Bool) (db : Db) : Except Exn LossRatio := do
  require (readSums = true) storeDown
  let totalPremium := (aggregates db).premium
  let totalPayout := (aggregates db).approvedPayout
  let ratio := if 0 < totalPremium then totalPayout / totalPremium else 0
  pure { totalPremium, totalPayout, lossRatio := toFixed4 ratio }

end CanonicalDashboardController

namespace AdminService

/-- What the summary says about premiums and payouts. -/
structure DashboardSummary where
  totalApprovedPayout : ℚ
  totalPremiumCollected : ℚ
  lossRatio : ℚ
  lossRatioPercent : ℚ
  benefitCostRatio : ℚ
  deriving DecidableEq, Repr

/-- `read` is `true` when every read of the summary goes through. -/
def getDashboardSummary (read : Bool) (db : Db) : Except Exn DashboardSummary := do
  require (read = true) storeDown
  let totalApprovedPayout := (aggregates db).approvedPayout
  let totalPremiumCollected := (aggregates db).premium
  let lossRatio :=
    if 0 < totalPremiumCollected then totalApprovedPayout / totalPremiumCollected else 0
  let lossRatioPercent := (mathRound (lossRatio * 10000) : ℚ) / 100
  let benefitCostRatio :=
    if 0 < totalPremiumCollected then totalApprovedPayout / totalPremiumCollected else 0
  pure { totalApprovedPayout, totalPremiumCollected, lossRatio, lossRatioPercent, benefitCostRatio }

end AdminService

end Aegis

/-! ## The driver's wallet

`WalletService` reads the ledger by the text of its status column. -/

namespace Aegis

/-- The status as the column holds it. -/
def PayoutStatus.text : PayoutStatus → String
  | .PROCESSING => "PROCESSING"
  | .APPROVED => "APPROVED"
  | .REJECTED => "REJECTED"

namespace WalletService

open Payments (storeDown)

/-- `policy: { userId }`. -/
def ofUser (db : Db) (userId : String) (p : Payout) : Bool :=
  ((db.policies.findUnique p.policyId).map Policy.userId) == some userId

structure EarningsIo where
  findMany : Bool
  aggregate : Bool

structure Earnings where
  balance : ℚ
  pending : ℚ
  currency : String
  deriving DecidableEq, Repr

/-- `approvedPayout || 0`, added up over the user's rows with the status. -/
def sumOf (db : Db) (userId status : String) : ℚ :=
  ((db.payouts.rows.filter fun p => ofUser db userId p && p.status.text == status).map
    fun p => p.approvedPayout.getD 0).sum

def getEarnings (io : EarningsIo) (db : Db) (userId : String) : Except Exn Earnings := do
  Outcome.require (io.findMany = true) storeDown
  Outcome.require (io.aggregate = true) storeDown
  pure {
    balance := sumOf db userId "TRANSFERRED"
    pending := sumOf db userId "PROCESSING"
    currency := "INR" }

end WalletService

end Aegis
