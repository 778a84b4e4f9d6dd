import Aegis.Library.JsonText
import Aegis.Model.RedisState

/-! # The drivers of a zone

The sets `zone:<cell>:drivers` and the pointers `driver:<id>:zone`, each with a time to live of
its own. A call runs at one instant. -/

namespace Aegis.RedisState

def ZONE_DRIVER_TTL : ℤ := 900

section Sets

variable (sets : String → Option (Entry (List String)))

def sMembers (now : ℤ) (key : String) : List String := (get sets now key).getD []

/-- A set without members is as good as none. -/
def sRem (key member : String) : String → Option (Entry (List String)) :=
  Function.update sets key
    ((sets key).map fun entry => { entry with value := entry.value.filter (· ≠ member) })

/-- `SADD` and `EXPIRE`. -/
def sAdd (now ttl : ℤ) (key member : String) : String → Option (Entry (List String)) :=
  let members := sMembers sets now key
  setEx sets now ttl key (if member ∈ members then members else members ++ [member])

end Sets

structure ZoneRoster where
  now : ℤ
  drivers : String → Option (Entry (List String)) := fun _ => none
  zone : String → Option (Entry String) := fun _ => none

namespace ZoneRoster

def getZoneDrivers (up : Bool) (h3Cell : String) (s : ZoneRoster) : List String :=
  if up then sMembers s.drivers s.now h3Cell else []

/-- `driver:<id>:zone`. -/
def previousZone (driverId : String) (s : ZoneRoster) : Option String := get s.zone s.now driverId

/-- `previousZone && previousZone !== h3Cell`. -/
def leftZone (h3Cell driverId : String) (s : ZoneRoster) : Option String :=
  (s.previousZone driverId).filter fun zone => zone ≠ "" && zone ≠ h3Cell

def addDriverToZone (up : Bool) (h3Cell driverId : String) (s : ZoneRoster) : ZoneRoster :=
  if up then
    let drivers := (s.leftZone h3Cell driverId).elim s.drivers fun zone =>
      sRem s.drivers zone driverId
    { s with
      drivers := sAdd drivers s.now ZONE_DRIVER_TTL h3Cell driverId
      zone := setEx s.zone s.now ZONE_DRIVER_TTL driverId h3Cell }
  else s

end ZoneRoster

inductive RosterEvent where
  | elapse (ms : ℕ)
  | ping (h3Cell driverId : String)
  deriving DecidableEq, Repr

def ZoneRoster.step (s : ZoneRoster) : RosterEvent → ZoneRoster
  | .elapse ms => { s with now := s.now + ms }
  | .ping h3Cell driverId => s.addDriverToZone true h3Cell driverId

end Aegis.RedisState

/-! ## The scan over the texts of the zones

`getAllHaltedZones` over what the keys really hold, texts of any origin. The other modules have
the records as they are after the parse. -/

namespace Aegis.ZoneScan

open JsString
open RedisState (isZoneKey cellOfKey PARAMETRIC_TRIGGER_STATES)

/-- The keys of a database with their values, in the order in which `KEYS` finds them. -/
structure Texts where
  entries : List (String × String)
  nodup : (entries.map Prod.fst).Nodup

namespace Texts

def get (texts : Texts) (key : String) : Option String := texts.entries.lookup key

/-- `KEYS zone:*`. -/
def keys (texts : Texts) : List String :=
  (texts.entries.map Prod.fst).filter fun key => "zone:".toList.isPrefixOf key.toList

end Texts

/-- `value?.toUpperCase()`; `none` where the value has no such method. -/
def upperCase : Option Json → Option (Option String)
  | none => some none
  | some (.str s) => some (some (toUpperCase s))
  | some _ => none

/-- `state.zone_state?.toUpperCase() ?? state.state?.toUpperCase()`; `none` where it throws. -/
def scannedState (state : Json) : Option (Option String) :=
  if state.isNull then none
  else (upperCase (state.get? "zone_state")).bind fun zs =>
    match zs with
    | some zs => some (some zs)
    | none => upperCase (state.get? "state")

/-- The entries for one key; `none` where reading it throws. -/
def scanKey (texts : Texts) (key : String) : Option (List (String × Json)) :=
  match texts.get key with
  | none => some []
  | some raw =>
      if raw = "" then some []
      else (JsonText.parse raw).bind fun state =>
        (scannedState state).map fun zs =>
          if zs.any PARAMETRIC_TRIGGER_STATES.contains then [(cellOfKey key, state)] else []

/-- The loop over the keys; an exception leaves it. -/
def scanKeys (texts : Texts) : List String → Option (List (String × Json))
  | [] => some []
  | key :: keys =>
      (scanKey texts key).bind fun found => (scanKeys texts keys).map fun rest => found ++ rest

/-- One handler surrounds the whole scan. -/
def getAllHaltedZones (up : Bool) (texts : Texts) : List (String × Json) :=
  if up then (scanKeys texts (texts.keys.filter isZoneKey)).getD [] else []

end Aegis.ZoneScan
