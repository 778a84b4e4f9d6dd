import Aegis.Model.DriverFactory

/-! # The weeks of a driver

The registry of `DynamicQCommerceService`. A record has the snapshot of its current week and the
summaries of the weeks before. -/

namespace Aegis.DynamicQCommerce

open JsString PremiumService

/-! ## Snapshots -/

/-- The dark stores of the cities, in the order of `CITY_BLUEPRINTS`. -/
def CITY_DARK_STORES : List (List String) :=
  [["HSR Dark Store 12", "Koramangala Rapid Hub", "Bellandur Grid Node", "BTM Night Runner Store"],
    ["Andheri Express Node", "Bandra Hyperlocal Hub", "Powai Central Dark Store",
      "Lower Parel Grid Station"],
    ["Gachibowli Dash Hub", "Madhapur Lightning Store", "Kondapur Fulfilment Node",
      "Tolichowki Sprint Depot"],
    ["Dwarka 24x7 Node", "Saket Night Ops Store", "Cyber City Dark Hub",
      "Noida Sector 62 Velocity Hub"]]

/-- The hash that seeds the profiles, and the functions of `Math`. -/
structure Generator where
  createAnchorFromString : String → ℕ
  math : MathFunctions

/-- The part of a weekly snapshot that the registry reads. -/
structure DriverWeeklySnapshot where
  weekKey : String
  currentWeek : WeeklyBreakdown
  deriving DecidableEq, Repr

namespace Generator

variable (gen : Generator)

/-- `cityContext.darkStores`: the city is the first draw of the profile. -/
def darkStores (provider : QCommerceProvider) (identifier : String) : List String :=
  let random := DeterministicRandom.ofAnchor
    (gen.createAnchorFromString (provider.value ++ ":" ++ identifier))
  CITY_DARK_STORES.getD (random.nextInt 0 (CITY_DARK_STORES.length - 1)).1 []

/-- The week that starts at `weekStart`. -/
def weekFrom (provider : QCommerceProvider) (identifier weekKey : String) (weekStart : ℤ) :
    Except Exn WeeklyBreakdown :=
  let weeklyAnchor := gen.createAnchorFromString
    (provider.value ++ ":" ++ identifier ++ ":" ++ weekKey)
  (generateDailyBreakdown DeterministicRandom.stream gen.math (gen.darkStores provider identifier)
    weekStart (.ofAnchor weeklyAnchor)).1

/-- An invalid date has no text, so there is no snapshot for it. -/
def buildWeeklySnapshot (now : ℤ) (provider : QCommerceProvider) (identifier weekKey : String) :
    Except Exn DriverWeeklySnapshot :=
  match deriveWeekStartFromKey now weekKey with
  | none => .error (.error "Invalid time value")
  | some weekStart =>
      (gen.weekFrom provider identifier weekKey weekStart).map fun week => ⟨weekKey, week⟩

end Generator

/-! ## The registry -/

structure DriverHistoricalWeekRecord where
  weekKey : String
  generatedAt : ℤ
  weekSummary : WeeklyBreakdown
  deriving DecidableEq, Repr

/-- The weeks in a `DriverRecord`. -/
structure WeeklyRecord where
  provider : QCommerceProvider
  identifier : String
  internalDriverId : String
  currentWeekKey : String
  currentSnapshot : DriverWeeklySnapshot
  previousWeeksHistory : List DriverHistoricalWeekRecord := []
  deriving DecidableEq, Repr

/-- The records are in the order of their insertion. -/
structure WeekRegistry where
  driverRecords : List WeeklyRecord := []
  weekKeyOverride : Option String := none
  deriving DecidableEq, Repr

namespace WeekRegistry

def record (registry : WeekRegistry) (driverId : String) : Option WeeklyRecord :=
  registry.driverRecords.find? fun record => record.internalDriverId = driverId

/-- A record changes in place. -/
def put (registry : WeekRegistry) (record : WeeklyRecord) : WeekRegistry :=
  { registry with
    driverRecords := registry.driverRecords.map fun old =>
      if old.internalDriverId = record.internalDriverId then record else old }

end WeekRegistry

abbrev WeekService := Action WeekRegistry Exn

section Registry

variable (gen : Generator) (envWeekKey : Option String) (now : ℤ)

/-- `envWeekKey` is `DYNAMIC_QCOMMERCE_WEEK_KEY`. -/
def resolveWeekKey (weekKeyOverride : Option String) : String :=
  weekKeyOverride.getD (getIsoWeekKey envWeekKey now)

def archiveWeek (record : WeeklyRecord) : WeeklyRecord :=
  { record with
    previousWeeksHistory :=
      (⟨record.currentWeekKey, now, record.currentSnapshot.currentWeek⟩ ::
        record.previousWeeksHistory).take 4 }

def ensureWeeklyRecord (provider : QCommerceProvider) (identifier internalDriverId : String) :
    WeekService WeeklyRecord := fun registry =>
  match registry.record internalDriverId with
  | some existing => (.ok existing, registry)
  | none =>
      let weekKey := resolveWeekKey envWeekKey now registry.weekKeyOverride
      match gen.buildWeeklySnapshot now provider identifier weekKey with
      | .error e => (.error e, registry)
      | .ok weeklySnapshot =>
          let record : WeeklyRecord :=
            { provider, identifier, internalDriverId, currentWeekKey := weekKey
              currentSnapshot := weeklySnapshot }
          (.ok record, { registry with driverRecords := registry.driverRecords ++ [record] })

/-- The key and the archive have moved on when the snapshot fails. -/
def refreshWeekIfNeeded (record : WeeklyRecord) : WeekService Bool := fun registry =>
  let latestWeekKey := resolveWeekKey envWeekKey now registry.weekKeyOverride
  if record.currentWeekKey = latestWeekKey then (.ok false, registry)
  else
    let moved := { archiveWeek now record with currentWeekKey := latestWeekKey }
    match gen.buildWeeklySnapshot now record.provider record.identifier latestWeekKey with
    | .error e => (.error e, registry.put moved)
    | .ok snapshot => (.ok true, registry.put { moved with currentSnapshot := snapshot })

/-- `ensureDriverRecord` and `refreshWeekIfNeeded`. -/
def visit (provider : QCommerceProvider) (identifier internalDriverId : String) :
    WeekService Unit := do
  let record ← ensureWeeklyRecord gen envWeekKey now provider identifier internalDriverId
  let _ ← refreshWeekIfNeeded gen envWeekKey now record
  pure ()

/-! ## Calls -/

/-- An exchange or a callback whose session has passed its checks. -/
def openProfile (provider : QCommerceProvider) (identifier : String) : WeekService Unit :=
  visit gen envWeekKey now provider identifier (createInternalDriverId provider.value identifier)

/-- An id that encodes no driver is one of the platform's own. -/
def getDriverProfile (driverId : String) : WeekService Unit :=
  match decodeInternalDriverId driverId with
  | some decoded => visit gen envWeekKey now decoded.provider decoded.identifier driverId
  | none => visit gen envWeekKey now .AEGIS ("aegis_" ++ driverId) driverId

structure ProvisionDriversDto where
  provider : QCommerceProvider
  identifiers : Option (List String) := none
  provisionPrefix : Option String := none
  count : Option ℕ := none
  deriving DecidableEq, Repr

def ProvisionDriversDto.sourceIds (dto : ProvisionDriversDto) : List String :=
  let normalized := ((dto.identifiers.getD []).map trim).filter (· ≠ "")
  let desiredCount := (dto.count.filter (0 < ·)).getD 10
  let provisionPrefix := (given (some (trim (dto.provisionPrefix.getD dto.provider.value)))).getD
    dto.provider.value
  if normalized = [] then
    (List.range desiredCount).map fun i => provisionPrefix ++ "_" ++ toString (i + 1)
  else normalized

/-- Drivers are made one after the other. -/
def provisionAll (provider : QCommerceProvider) : List String → WeekService Unit
  | [] => pure ()
  | identifier :: identifiers => do
      let _ ← ensureWeeklyRecord gen envWeekKey now provider identifier
        (createInternalDriverId provider.value identifier)
      provisionAll provider identifiers

def provisionDrivers (dto : ProvisionDriversDto) : WeekService Unit :=
  provisionAll gen envWeekKey now dto.provider dto.sourceIds

def createDriver (provider : QCommerceProvider) (identifier : String) : WeekService Unit :=
  provisionAll gen envWeekKey now provider [trim identifier]

/-- The loop over the records in `getZoneActivity`. -/
def refreshAll : List WeeklyRecord → WeekService Unit
  | [] => pure ()
  | record :: records => do
      let _ ← refreshWeekIfNeeded gen envWeekKey now record
      refreshAll records

def getZoneActivity : WeekService Unit := fun registry =>
  refreshAll gen envWeekKey now registry.driverRecords registry

def setWeekKeyOverride (weekKey : Option String) : WeekService Unit := fun registry =>
  (.ok (), { registry with weekKeyOverride := given (weekKey.map trim) })

end Registry

/-- `@Matches(/^\d{4}-\d{2}$/)` in `WeekKeyOverrideDto`. -/
def isWeekKey (weekKey : String) : Bool :=
  match weekKey.toList with
  | [y₁, y₂, y₃, y₄, '-', w₁, w₂] => [y₁, y₂, y₃, y₄, w₁, w₂].all Json.isDigit
  | _ => false

/-- A call that reaches the registry. -/
inductive DriverCall where
  | openProfile (provider : QCommerceProvider) (identifier : String)
  | getDriverProfile (driverId : String)
  | provisionDrivers (dto : ProvisionDriversDto)
  | createDriver (provider : QCommerceProvider) (identifier : String)
  | getZoneActivity
  | setWeekKeyOverride (weekKey : Option String)
  deriving DecidableEq, Repr

/-- A call and its time. -/
structure TimedCall where
  now : ℤ
  call : DriverCall
  deriving DecidableEq, Repr

/-- The action of a call. -/
def TimedCall.action (gen : Generator) (envWeekKey : Option String) (timed : TimedCall) :
    WeekService Unit :=
  match timed.call with
  | .openProfile provider identifier =>
      DynamicQCommerce.openProfile gen envWeekKey timed.now provider identifier
  | .getDriverProfile driverId =>
      DynamicQCommerce.getDriverProfile gen envWeekKey timed.now driverId
  | .provisionDrivers dto => DynamicQCommerce.provisionDrivers gen envWeekKey timed.now dto
  | .createDriver provider identifier =>
      DynamicQCommerce.createDriver gen envWeekKey timed.now provider identifier
  | .getZoneActivity => DynamicQCommerce.getZoneActivity gen envWeekKey timed.now
  | .setWeekKeyOverride weekKey => DynamicQCommerce.setWeekKeyOverride weekKey

def WeekRegistry.step (gen : Generator) (envWeekKey : Option String) (registry : WeekRegistry)
    (timed : TimedCall) : WeekRegistry :=
  (timed.action gen envWeekKey registry).2

end Aegis.DynamicQCommerce
