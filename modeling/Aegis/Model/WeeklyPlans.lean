import Aegis.Library.Json
import Aegis.Model.Premium

/-! # The plan catalogue

`PlansService.getWeeklyPlans`: the price that a driver is shown for each weekly plan. -/

namespace Aegis.PlansService

open Outcome Number PayoutService Payments

/-- `orderBy: { price: 'asc' }`; ties keep the order of insertion. -/
def rawPlans (db : Db) : List WeeklyPlan :=
  db.weeklyPlans.rows.insertionSort fun p q => p.price ≤ q.price

/-- `Map.set` under the plan's key: a known key keeps its place and takes the new value. -/
def setPlan (entries : List WeeklyPlan) (plan : WeeklyPlan) : List WeeklyPlan :=
  if entries.any fun p => p.key = plan.key then
    entries.map fun p => if p.key = plan.key then plan else p
  else entries ++ [plan]

def uniquePlans (plans : List WeeklyPlan) : List WeeklyPlan := plans.foldl setPlan []

/-- `weeklyEarningsTotal ?? averageWeeklyEarnings ?? 5200`. -/
def capturedEarnings (profile : DriverProfile) : ℚ :=
  (profile.weeklyEarningsTotal.or profile.averageWeeklyEarnings).getD 5200

/-- The first five digits of the user id. -/
def userAnchor (userId : String) : ℕ :=
  match (userId.toList.filter Json.isDigit).take 5 with
  | [] => 12345
  | digits => Json.digitsVal 10 (Json.decimals digits)

def getDecimal (userId : String) (offset : ℕ) : ℚ :=
  (((userAnchor userId + offset) % 100 : ℕ) : ℚ) / 100

/-- The floor of a tier in the earnings band. -/
def bandFloor (earnings low middle high : ℚ) : ℚ :=
  if 10000 < earnings then high else if earnings < 5000 then low else middle

def dynamicPrice (userId : String) (earnings : ℚ) (index : ℕ) (plan : WeeklyPlan) : ℚ :=
  let decimalPart := getDecimal userId (index * 13)
  if plan.key = "BASIC" then bandFloor earnings 19 22 (2501 / 100) + decimalPart
  else if plan.key = "STANDARD" then bandFloor earnings 26 29 (3201 / 100) + decimalPart
  else if plan.key = "PREMIUM" then bandFloor earnings 33 36 (3901 / 100) + decimalPart
  else if plan.key = "ELITE" then bandFloor earnings 40 43 (4601 / 100) + decimalPart
  else min 49 (max 20 plan.price)

/-- A plan as it is shown; the `reason` names the earnings. -/
structure OfferedPlan where
  plan : WeeklyPlan
  Ct : Option ℚ
  suggested : Bool
  velocity : ℚ
  deriving DecidableEq, Repr

def offer (userId : String) (earnings : ℚ) (index : ℕ) (plan : WeeklyPlan) : OfferedPlan where
  plan := { plan with price := toFixed2 (dynamicPrice userId earnings index plan) }
  Ct := ctForPlan (some plan.key)
  suggested := true
  velocity := earnings

/-- `profileOf` is `getDriverProfile`, `none` where it throws. -/
def getWeeklyPlans (profileOf : String → Option DriverProfile) (readPlans : Bool)
    (userId : String) (db : Db) : Except Exn (List OfferedPlan) := do
  let profile ← orThrow (profileOf userId) (.notFound "Driver profile not found")
  require (readPlans = true) storeDown
  pure ((uniquePlans (rawPlans db)).mapIdx (offer userId (capturedEarnings profile)))

end Aegis.PlansService
