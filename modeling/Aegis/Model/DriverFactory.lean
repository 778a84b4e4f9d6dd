import Aegis.Library.Calendar
import Aegis.Library.Json
import Aegis.Library.Number
import Aegis.Model.DynamicQCommerce

/-! # Weeks, earnings and ids of drivers

The rest of `dynamic-data.factory.ts`. Times are milliseconds since 1970. -/

namespace Aegis.DynamicQCommerce

open Calendar JsString Text

/-! ## Dates -/

/-- The largest time that a `Date` can hold. -/
def MAX_TIME : ℤ := 8640000000000000

def MS_PER_DAY : ℤ := 86400000

def getUTCFullYear (date : ℤ) : ℤ := (civilFromDays (date / MS_PER_DAY)).year

/-- January is 0. -/
def getUTCMonth (date : ℤ) : ℕ := (civilFromDays (date / MS_PER_DAY)).month - 1

def getUTCDate (date : ℤ) : ℤ := (civilFromDays (date / MS_PER_DAY)).day

/-- Sunday is 0. -/
def getUTCDay (date : ℤ) : ℤ := (date / MS_PER_DAY + 4) % 7

/-- `Date.UTC`: the years 0 to 99 are those of the twentieth century. -/
def dateUTC (year : ℤ) (month : ℕ) (day : ℤ) : ℤ :=
  let year := if 0 ≤ year ∧ year ≤ 99 then 1900 + year else year
  (daysFromCivil ⟨year, month + 1, 1⟩ + day - 1) * MS_PER_DAY

def setUTCDate (date day : ℤ) : ℤ := date + (day - getUTCDate date) * MS_PER_DAY

/-! ## Weeks -/

/-- `date.getUTCDay() || 7`. -/
def dayNum (date : ℤ) : ℤ := if getUTCDay date = 0 then 7 else getUTCDay date

structure IsoWeekInfo where
  year : ℤ
  week : ℤ
  weekStart : ℤ
  deriving DecidableEq, Repr

def getIsoWeekInfo (date : ℤ) : IsoWeekInfo :=
  let isoCursor := dateUTC (getUTCFullYear date) (getUTCMonth date) (getUTCDate date)
  let isoCursor := setUTCDate isoCursor (getUTCDate isoCursor + 4 - dayNum isoCursor)
  let year := getUTCFullYear isoCursor
  let yearStart := dateUTC year 0 1
  { year
    week := ⌈((((isoCursor - yearStart : ℤ) : ℚ) / MS_PER_DAY + 1) / 7)⌉
    weekStart := setUTCDate isoCursor (getUTCDate isoCursor - dayNum isoCursor + 1) }

/-- `DYNAMIC_QCOMMERCE_WEEK_KEY` overrides the week of the date. -/
def getIsoWeekKey (weekKeyOverride : Option String) (inputDate : ℤ) : String :=
  (given weekKeyOverride).getD
    (toString (getIsoWeekInfo inputDate).year ++ "-" ++
      padStart (toString (getIsoWeekInfo inputDate).week) 2 '0')

/-- `s.split(sep)` for a separator of one character. -/
def split (s : String) (sep : Char) : List String := (s.toList.splitOn sep).map String.ofList

/-- `Number(s)` where it is finite; of `undefined` it is not. -/
def finiteNumber (s : Option String) : Option ℚ := s.bind fun s => (Json.stringToNumber s).toFinite?

/-- A fraction is cut off, as `Date` does with its arguments. -/
def truncate (q : ℚ) : ℤ := if 0 ≤ q then ⌊q⌋ else ⌈q⌉

/-- A time out of range is an invalid date. -/
def timeClip (date : ℤ) : Option ℤ := if date.natAbs ≤ MAX_TIME then some date else none

def deriveWeekStartFromKey (now : ℤ) (weekKey : String) : Option ℤ := do
  let pieces := split weekKey '-'
  match finiteNumber pieces[0]?, finiteNumber pieces[1]? with
  | some year, some week =>
      let fourthJan ← timeClip (dateUTC (truncate year) 0 4)
      timeClip (setUTCDate fourthJan
        (truncate (getUTCDate fourthJan + 1 - dayNum fourthJan + (week - 1) * 7)))
  | _, _ => some (getIsoWeekInfo now).weekStart

/-! ## Random streams -/

/-- A source of random fractions; `nextFloat` gives one and the source that goes on. -/
structure RandomStream (R : Type) where
  nextFloat : R → ℚ × R
  nonneg : ∀ random, 0 ≤ (nextFloat random).1
  lt_one : ∀ random, (nextFloat random).1 < 1

theorem fraction_nonneg (n : ℕ) : 0 ≤ (n : ℚ) / 2147483646 := by positivity

theorem fraction_lt_one (random : DeterministicRandom) :
    ((random.next.state - 1 : ℕ) : ℚ) / 2147483646 < 1 := by
  have hstate : random.next.state < 2147483647 := Nat.mod_lt _ (by decide)
  rw [div_lt_one (by norm_num)]
  exact_mod_cast (by omega : random.next.state - 1 < 2147483646)

def DeterministicRandom.stream : RandomStream DeterministicRandom where
  nextFloat random := (((random.next.state - 1 : ℕ) : ℚ) / 2147483646, random.next)
  nonneg _ := fraction_nonneg _
  lt_one := fraction_lt_one

/-- The functions of `Math` on floating-point numbers. -/
structure MathFunctions where
  PI : ℚ
  sqrt : ℚ → ℚ
  log : ℚ → ℚ
  cos : ℚ → ℚ
  exp : ℚ → ℚ

section Draws

variable {R : Type} (stream : RandomStream R)

abbrev Draw (R : Type) := Action R Exn

def nextFloat : Draw R ℚ := fun random =>
  (.ok (stream.nextFloat random).1, (stream.nextFloat random).2)

def nextInt (min max : ℤ) : Draw R ℤ :=
  if max ≤ min then pure min
  else do
    let range := max - min + 1
    let f ← nextFloat stream
    pure (⌊f * range⌋ + min)

/-- `p ? random.nextInt(min, max) : 0`. -/
def nextIntIf (p : Prop) [Decidable p] (min max : ℤ) : Draw R ℤ :=
  if p then nextInt stream min max else pure 0

def pick (items : List String) : Draw R String := do
  Action.require (items ≠ []) (Exn.error "Cannot pick from empty array")
  let index ← nextInt stream 0 (items.length - 1)
  pure (items.getD index.toNat "")

/-- The Box-Muller transform. -/
def sampleLogNormal (math : MathFunctions) (median sigma : ℚ) : Draw R ℚ := do
  let f1 ← nextFloat stream
  let u1 := max f1 (1 / 1000000000)
  let f2 ← nextFloat stream
  let u2 := max f2 (1 / 1000000000)
  let standardNormal := math.sqrt (-2 * math.log u1) * math.cos (2 * math.PI * u2)
  pure (math.exp (math.log median + sigma * standardNormal))

def hasRainIncentiveDay : Draw R Bool := do
  let f ← nextFloat stream
  pure (f < 22 / 100)

end Draws

/-! ## Weekly earnings -/

def OFF_DAY_PROBABILITY : ℚ := 16 / 100
def ACTIVE_DAY_ASSIGNED_ORDERS_MIN : ℤ := 16
def ACTIVE_DAY_ASSIGNED_ORDERS_MAX : ℤ := 22
def EARNINGS_PER_ORDER_MEDIAN_INR : ℚ := 63
def EARNINGS_PER_ORDER_LOG_SIGMA : ℚ := 18 / 100
def INCENTIVE_PER_COMPLETED_ORDER_INR : ℚ := 45 / 10
def PENALTY_SKIP_THRESHOLD : ℤ := 4
def PENALTY_CAP_INR : ℤ := 90
def BASE_EARNINGS_UPPER_BOUND : ℚ := 2500
def WEEKEND_SURGE_MULTIPLIER : ℚ := 13 / 10
def RAIN_INCENTIVE_MULTIPLIER : ℚ := 12 / 10

def formatCurrency (value : ℚ) : ℚ := Number.mathRound (value * 100) / 100

/-- `date.toISOString().split('T')[0]`. -/
def toISODateOnly (date : ℤ) : Except Exn String :=
  let civil := civilFromDays (date / MS_PER_DAY)
  let year :=
    if 0 ≤ civil.year ∧ civil.year ≤ 9999 then padStart (toString civil.year) 4 '0'
    else (if civil.year < 0 then "-" else "+") ++ padStart (toString civil.year.natAbs) 6 '0'
  match timeClip date with
  | none => .error (.error "Invalid time value")
  | some _ =>
      .ok (year ++ "-" ++ padStart (toString civil.month) 2 '0' ++ "-" ++
        padStart (toString civil.day) 2 '0')

structure DriverDailyBreakdown where
  date : String
  ordersAssigned : ℤ
  ordersAccepted : ℤ
  ordersSkipped : ℤ
  ordersRejected : ℤ
  completedDeliveries : ℤ
  totalCancelledAfterAccept : ℤ
  hoursWorked : ℤ
  baseEarnings : ℚ
  incentives : ℚ
  penalties : ℚ
  totalEarnings : ℚ
  darkStoresServed : List String
  distanceTravelledKm : ℚ
  deriving DecidableEq, Repr

structure DriverWeekSummaryTotals where
  weekStartDate : String
  weekEndDate : String
  weeklyEarningsTotal : ℚ := 0
  totalOrdersAssigned : ℤ := 0
  totalOrdersAccepted : ℤ := 0
  totalOrdersSkipped : ℤ := 0
  totalOrdersRejected : ℤ := 0
  totalCompletedDeliveries : ℤ := 0
  totalCancelledAfterAccept : ℤ := 0
  totalWorkingHours : ℤ := 0
  incentiveEarnings : ℚ := 0
  baseEarnings : ℚ := 0
  penalties : ℚ := 0
  averageEarningsPerOrder : ℚ := 0
  averageEarningsPerActiveHour : ℚ := 0
  deriving DecidableEq, Repr

structure WeeklyBreakdown where
  dailyBreakdown : List DriverDailyBreakdown
  totals : DriverWeekSummaryTotals
  deriving DecidableEq, Repr

section Earnings

variable {R : Type} (stream : RandomStream R) (math : MathFunctions)

/-- The orders of a day. -/
structure DayOrders where
  assigned : ℤ
  skipped : ℤ
  rejected : ℤ
  accepted : ℤ
  cancelled : ℤ
  completed : ℤ
  deriving DecidableEq, Repr

/-- A day with orders has one accepted, whatever was skipped and rejected. -/
def ordersAccepted (assigned skipped rejected : ℤ) : ℤ :=
  let accepted := max 0 (assigned - skipped - rejected)
  if 0 < assigned ∧ accepted = 0 then 1 else accepted

/-- What becomes of the orders assigned on a day. -/
def handleOrders (isOffDay : Bool) (assigned : ℤ) : Draw R DayOrders := do
  let skipped ←
    (if isOffDay then nextInt stream 0 2
    else nextInt stream 1 (⌊(assigned : ℚ) * (15 / 100)⌋ + 1))
  let rejected ←
    (if isOffDay then nextInt stream 0 1
    else nextInt stream 0 (max 1 ⌊(assigned : ℚ) * (4 / 100)⌋))
  let accepted := ordersAccepted assigned skipped rejected
  let cancelled ← nextIntIf stream (accepted ≠ 0) 0 (max 1 ⌊(accepted : ℚ) * (8 / 100)⌋)
  let completed := max 0 (accepted - cancelled)
  pure { assigned, skipped, rejected, accepted, cancelled, completed }

def dayOrders (isOffDay : Bool) (surgeMultiplier : ℚ) : Draw R DayOrders := do
  let assignedBase ←
    (if isOffDay then nextInt stream 0 4
    else nextInt stream ACTIVE_DAY_ASSIGNED_ORDERS_MIN ACTIVE_DAY_ASSIGNED_ORDERS_MAX)
  handleOrders stream isOffDay
    (max (if isOffDay then 0 else 12) (Number.mathRound (assignedBase * surgeMultiplier)))

/-- What a day pays. -/
structure DayEarnings where
  base : ℚ
  incentives : ℚ
  penalties : ℚ
  deriving DecidableEq, Repr

def dayEarnings (isWeekend : Bool) (orders : DayOrders) : Draw R DayEarnings := do
  let earningsPerOrder ←
    sampleLogNormal stream math EARNINGS_PER_ORDER_MEDIAN_INR EARNINGS_PER_ORDER_LOG_SIGMA
  let base := formatCurrency (orders.completed * earningsPerOrder)
  let base := if isWeekend then formatCurrency (base * WEEKEND_SURGE_MULTIPLIER) else base
  let rain ← hasRainIncentiveDay stream
  let bonus ← nextIntIf stream (22 < orders.completed) 40 120
  let incentives := formatCurrency
    (orders.completed * INCENTIVE_PER_COMPLETED_ORDER_INR *
      (if rain then RAIN_INCENTIVE_MULTIPLIER else 1) + bonus)
  let impliedDailyEarnings := orders.completed * earningsPerOrder
  let base :=
    if BASE_EARNINGS_UPPER_BOUND < impliedDailyEarnings then BASE_EARNINGS_UPPER_BOUND else base
  let penalty ←
    (if PENALTY_SKIP_THRESHOLD < orders.skipped then nextInt stream 20 PENALTY_CAP_INR
    else nextInt stream 0 20)
  pure { base, incentives, penalties := formatCurrency penalty }

/-- The stores of a day, drawn one by one. -/
def servedStores (darkStores : List String) : ℕ → Draw R (List String)
  | 0 => pure []
  | count + 1 => do
      let store ← pick stream darkStores
      let stores ← servedStores darkStores count
      pure (store :: stores)

/-- The first five days of the week are working days. -/
def drawOffDay (i : ℕ) : Draw R Bool :=
  if i < 5 then pure false
  else do
    let f ← nextFloat stream
    pure (f < OFF_DAY_PROBABILITY)

/-- Day `i` of the week. -/
def dayRow (darkStores : List String) (weekStart : ℤ) (i : ℕ) : Draw R DriverDailyBreakdown := do
  let currentDay := setUTCDate weekStart (getUTCDate weekStart + i)
  let isOffDay ← drawOffDay stream i
  let isWeekend := decide (getUTCDay currentDay = 0 ∨ getUTCDay currentDay = 6)
  let surgeMultiplier := if isWeekend then WEEKEND_SURGE_MULTIPLIER else 1
  let orders ← dayOrders stream isOffDay surgeMultiplier
  let hoursWorked ← nextIntIf stream (orders.assigned ≠ 0) 6 10
  let earnings ← dayEarnings stream math isWeekend orders
  let storesServedCount ← nextIntIf stream (orders.completed ≠ 0) 1 (min 3 darkStores.length)
  let darkStoresServed ← servedStores stream darkStores storesServedCount.toNat
  let date ← Action.lift (toISODateOnly currentDay)
  let distance ← nextIntIf stream (orders.completed ≠ 0) 45 110
  pure
    { date
      ordersAssigned := orders.assigned
      ordersAccepted := orders.accepted
      ordersSkipped := orders.skipped
      ordersRejected := orders.rejected
      completedDeliveries := orders.completed
      totalCancelledAfterAccept := orders.cancelled
      hoursWorked
      baseEarnings := earnings.base
      incentives := earnings.incentives
      penalties := earnings.penalties
      totalEarnings := formatCurrency (earnings.base + earnings.incentives - earnings.penalties)
      darkStoresServed
      distanceTravelledKm := formatCurrency distance }

def DriverWeekSummaryTotals.add (totals : DriverWeekSummaryTotals) (row : DriverDailyBreakdown) :
    DriverWeekSummaryTotals :=
  { totals with
    totalOrdersAssigned := totals.totalOrdersAssigned + row.ordersAssigned
    totalOrdersAccepted := totals.totalOrdersAccepted + row.ordersAccepted
    totalOrdersSkipped := totals.totalOrdersSkipped + row.ordersSkipped
    totalOrdersRejected := totals.totalOrdersRejected + row.ordersRejected
    totalCompletedDeliveries := totals.totalCompletedDeliveries + row.completedDeliveries
    totalCancelledAfterAccept := totals.totalCancelledAfterAccept + row.totalCancelledAfterAccept
    totalWorkingHours := totals.totalWorkingHours + row.hoursWorked
    baseEarnings := formatCurrency (totals.baseEarnings + row.baseEarnings)
    incentiveEarnings := formatCurrency (totals.incentiveEarnings + row.incentives)
    penalties := formatCurrency (totals.penalties + row.penalties)
    weeklyEarningsTotal := formatCurrency (totals.weeklyEarningsTotal + row.totalEarnings) }

/-- The loop over the days of the week. -/
def weekRows (darkStores : List String) (weekStart : ℤ) :
    List ℕ → WeeklyBreakdown → Draw R WeeklyBreakdown
  | [], week => pure week
  | i :: days, week => do
      let row ← dayRow stream math darkStores weekStart i
      weekRows darkStores weekStart days ⟨week.dailyBreakdown ++ [row], week.totals.add row⟩

def DriverWeekSummaryTotals.withAverages (totals : DriverWeekSummaryTotals) :
    DriverWeekSummaryTotals :=
  { totals with
    averageEarningsPerOrder :=
      if totals.totalCompletedDeliveries ≠ 0 then
        formatCurrency (totals.weeklyEarningsTotal / totals.totalCompletedDeliveries)
      else 0
    averageEarningsPerActiveHour :=
      if totals.totalWorkingHours ≠ 0 then
        formatCurrency (totals.weeklyEarningsTotal / totals.totalWorkingHours)
      else 0 }

def DriverWeekSummaryTotals.bridged (totals : DriverWeekSummaryTotals) (bridge : ℤ) :
    DriverWeekSummaryTotals :=
  { totals with
    weeklyEarningsTotal := formatCurrency bridge
    baseEarnings := formatCurrency (bridge * (85 / 100))
    incentiveEarnings := formatCurrency (bridge * (15 / 100)) }

def generateDailyBreakdown (darkStores : List String) (weekStart : ℤ) : Draw R WeeklyBreakdown := do
  let weekStartDate ← Action.lift (toISODateOnly weekStart)
  let weekEndDate ← Action.lift (toISODateOnly (setUTCDate weekStart (getUTCDate weekStart + 6)))
  let week ← weekRows stream math darkStores weekStart (List.range 7)
    ⟨[], { weekStartDate, weekEndDate }⟩
  let totals := week.totals.withAverages
  if totals.weeklyEarningsTotal < 3800 ∧ 0 < totals.totalCompletedDeliveries then do
    let extra ← nextInt stream 100 900
    pure ⟨week.dailyBreakdown, totals.bridged (3800 + extra)⟩
  else pure ⟨week.dailyBreakdown, totals⟩

end Earnings

/-! ## Driver ids -/

structure DecodedDriverId where
  provider : QCommerceProvider
  identifier : String
  deriving DecidableEq, Repr

/-- `driverId.startsWith('drv_')`. -/
def isInternal (driverId : String) : Bool := "drv_".toList.isPrefixOf driverId.toList

/-- The text that an id encodes. -/
def rawOf (driverId : String) : String :=
  Base64.decodeBase64url (String.ofList (driverId.toList.drop 4))

/-- `const [provider, identifier] = raw.split('|')`. -/
def decodeInternalDriverId (driverId : String) : Option DecodedDriverId :=
  if isInternal driverId then
    match split (rawOf driverId) '|' with
    | provider :: identifier :: _ =>
        if provider = "" ∨ identifier = "" then none
        else (QCommerceProvider.ofValue? provider).map fun provider => ⟨provider, identifier⟩
    | _ => none
  else none

/-- What `JwtStrategy.validate` puts into a request. -/
structure RequestUser where
  id : String
  email : String
  role : Role
  deriving DecidableEq, Repr

def assertAuthorizedDriver (user : RequestUser) (driverId : String) : Except Exn Unit :=
  if user.role = .ADMIN then .ok ()
  else if user.id = driverId then .ok ()
  else if isInternal driverId ∧ ∃ decoded ∈ decodeInternalDriverId driverId,
      user.email ≠ "" ∧ decoded.identifier = user.email then .ok ()
  else .error (.forbidden "Cannot view another driver profile")

end Aegis.DynamicQCommerce
