import Aegis.Library.Run
import Aegis.Model.DriverWeeks
import Aegis.Verification.Premium.Earnings
import Aegis.Verification.Premium.WeekKeys
import Mathlib.Data.List.Destutter

/-! # The weeks that a record shows

A record shows the last five weeks in which its driver was seen, each with the summary that was
generated for it. -/

namespace Aegis.DynamicQCommerce

open JsString PremiumService Run

/-! ## Keys that name a week -/

/-- The key is read the same at any time, and the days of its week are dates. -/
structure NamesWeek (weekKey : String) (weekStart : ℤ) : Prop where
  start : ∀ now, deriveWeekStartFromKey now weekKey = some weekStart
  days : ∀ i < 7, DayInRange weekStart i

theorem dayInRange_of_le {weekStart : ℤ} (hlow : 0 ≤ weekStart + MAX_TIME)
    (hhigh : weekStart + 6 * MS_PER_DAY ≤ MAX_TIME) {i : ℕ} (hi : i < 7) :
    DayInRange weekStart i := by
  rw [DayInRange, setUTCDate_add, timeClip_of_le]
  · simp
  · simp only [MS_PER_DAY] at *
    omega
  · simp only [MS_PER_DAY] at *
    omega

theorem namesWeek_getIsoWeekKey {date : ℤ} (hyear : 1000 ≤ getUTCFullYear date)
    (hmax : date + 6 * MS_PER_DAY ≤ MAX_TIME) :
    NamesWeek (getIsoWeekKey none date) (monday date) := by
  have hday := newYear_le_of_year hyear
  have hcentury : Calendar.newYear 101 = -682638 := by decide
  obtain ⟨hle, hlt⟩ := monday_bounds date
  have hstart (now : ℤ) :
      deriveWeekStartFromKey now (getIsoWeekKey none date) = some (monday date) :=
    deriveWeekStartFromKey_getIsoWeekKey now (by omega) (by simp only [MS_PER_DAY] at *; omega)
  refine ⟨hstart, fun i hi => dayInRange_of_le ?_ ?_ hi⟩
  · simp only [MAX_TIME, MS_PER_DAY] at *
    omega
  · omega

theorem finiteNumber_digits {cs : List Char} (hdigits : ∀ c ∈ cs, Json.isDigit c = true)
    (hne : cs ≠ []) :
    finiteNumber (some (String.ofList cs)) = some (Nat.ofDigitChars 10 cs 0 : ℚ) := by
  apply finiteNumber_of
  rw [Json.stringToNumber, Json.trim_ofList hdigits, String.toList_ofList]
  cases cs with
  | nil => exact absurd rfl hne
  | cons c cs => exact Json.numeral_digits hdigits hne

theorem ofDigitChars_lt {cs : List Char} (hdigits : ∀ c ∈ cs, Json.isDigit c = true) (n : ℕ) :
    Nat.ofDigitChars 10 cs n < (n + 1) * 10 ^ cs.length := by
  induction cs generalizing n with
  | nil => simp
  | cons c cs ih =>
      have hc := hdigits c List.mem_cons_self
      simp only [Json.isDigit, Bool.and_eq_true, decide_eq_true_eq] at hc
      have hrest := ih (fun d hd => hdigits d (List.mem_cons_of_mem c hd))
        (10 * n + (c.toNat - '0'.toNat))
      have hdigit : 10 * n + (c.toNat - '0'.toNat) + 1 ≤ (n + 1) * 10 := by
        have hzero : '0'.toNat = 48 := rfl
        omega
      calc Nat.ofDigitChars 10 (c :: cs) n
          < (10 * n + (c.toNat - '0'.toNat) + 1) * 10 ^ cs.length := hrest
        _ ≤ (n + 1) * 10 * 10 ^ cs.length := Nat.mul_le_mul_right _ hdigit
        _ = (n + 1) * 10 ^ (c :: cs).length := by rw [List.length_cons, pow_succ]; ring

/-- The first week that a year and a number name, and the rest by sevens. -/
def weekStartOf (year week : ℕ) : ℤ :=
  dateUTC year 0 4 + (1 - dayNum (dateUTC year 0 4) + ((week : ℤ) - 1) * 7) * MS_PER_DAY

theorem deriveWeekStartFromKey_digits (now : ℤ) {year week : String} {y w : ℕ}
    (hsplit : split (year ++ "-" ++ week) '-' = [year, week])
    (hyear : finiteNumber (some year) = some (y : ℚ))
    (hweek : finiteNumber (some week) = some (w : ℚ)) (hfour : y < 10000) (htwo : w < 100) :
    deriveWeekStartFromKey now (year ++ "-" ++ week) = some (weekStartOf y w) ∧
      0 ≤ weekStartOf y w + MAX_TIME ∧ weekStartOf y w + 6 * MS_PER_DAY ≤ MAX_TIME := by
  obtain ⟨year', hyear', hjan⟩ : ∃ year' : ℤ, (0 ≤ year' ∧ year' < 10000) ∧
      dateUTC y 0 4 = (Calendar.newYear year' + 3) * MS_PER_DAY := by
    refine ⟨if 0 ≤ (y : ℤ) ∧ (y : ℤ) ≤ 99 then 1900 + y else y, by split <;> omega, ?_⟩
    rw [dateUTC, Calendar.newYear, zero_add, add_sub_assoc]
    rfl
  have hcast (J : ℤ) : ((getUTCDate J : ℤ) : ℚ) + 1 - dayNum J + ((w : ℚ) - 1) * 7 =
      ((getUTCDate J + (1 - dayNum J + ((w : ℤ) - 1) * 7) : ℤ) : ℚ) := by
    push_cast
    ring
  have hday : 1 ≤ dayNum (dateUTC y 0 4) ∧ dayNum (dateUTC y 0 4) ≤ 7 := by
    rw [dayNum_eq]
    omega
  have hrange : -100000000000000 ≤ dateUTC y 0 4 ∧ dateUTC y 0 4 ≤ 300000000000000 := by
    rw [hjan, Calendar.newYear_eq, MS_PER_DAY]
    omega
  have hfirst : timeClip (dateUTC y 0 4) = some (dateUTC y 0 4) := by
    apply timeClip_of_le
    · simp only [MAX_TIME]
      omega
    · simp only [MAX_TIME]
      omega
  have hlow : 0 ≤ weekStartOf y w + MAX_TIME := by
    simp only [weekStartOf, MAX_TIME, MS_PER_DAY]
    omega
  have hhigh : weekStartOf y w + 6 * MS_PER_DAY ≤ MAX_TIME := by
    simp only [weekStartOf, MAX_TIME, MS_PER_DAY]
    omega
  refine ⟨?_, hlow, hhigh⟩
  simp only [deriveWeekStartFromKey, hsplit, List.getElem?_cons_zero, List.getElem?_cons_succ,
    hyear, hweek]
  rw [← Int.cast_natCast y, truncate_intCast, hfirst]
  simp only [Option.bind_eq_bind, Option.bind_some, hcast, truncate_intCast, setUTCDate_add]
  have hmax : weekStartOf y w ≤ MAX_TIME := by
    simp only [MS_PER_DAY] at hhigh
    omega
  exact timeClip_of_le hlow hmax

/-- Every key that `WeekKeyOverrideDto` lets through. -/
theorem namesWeek_of_isWeekKey {weekKey : String} (h : isWeekKey weekKey = true) :
    ∃ weekStart, NamesWeek weekKey weekStart := by
  unfold isWeekKey at h
  split at h
  case h_2 => cases h
  case h_1 y₁ y₂ y₃ y₄ w₁ w₂ hchars =>
    have hdigits := List.all_eq_true.mp h
    have hyear : ∀ c ∈ [y₁, y₂, y₃, y₄], Json.isDigit c = true := by
      intro c hc
      exact hdigits c (by simp only [List.mem_cons] at *; tauto)
    have hweek : ∀ c ∈ [w₁, w₂], Json.isDigit c = true := by
      intro c hc
      exact hdigits c (by simp only [List.mem_cons] at *; tauto)
    have hno {cs : List Char} (hcs : ∀ c ∈ cs, Json.isDigit c = true) :
        '-' ∉ (String.ofList cs).toList := by
      rw [String.toList_ofList]
      intro hdash
      exact absurd (hcs _ hdash) (by decide)
    have hkey : weekKey = String.ofList [y₁, y₂, y₃, y₄] ++ "-" ++ String.ofList [w₁, w₂] := by
      rw [← String.toList_inj, hchars]
      simp
    have hread (now : ℤ) := deriveWeekStartFromKey_digits now (split_key (hno hyear) (hno hweek))
      (finiteNumber_digits hyear (by simp)) (finiteNumber_digits hweek (by simp))
      (by simpa using ofDigitChars_lt hyear 0) (by simpa using ofDigitChars_lt hweek 0)
    rw [hkey]
    exact ⟨_, fun now => (hread now).1, fun i hi =>
      dayInRange_of_le (hread 0).2.1 (hread 0).2.2 hi⟩

/-! ## What is generated -/

theorem darkStores_ne_nil (gen : Generator) (provider : QCommerceProvider) (identifier : String) :
    gen.darkStores provider identifier ≠ [] := by
  have hcities : ∀ n < 4, CITY_DARK_STORES.getD n [] ≠ [] := by decide
  apply hcities
  have hlength : CITY_DARK_STORES.length - 1 = 3 := rfl
  set random := DeterministicRandom.ofAnchor
    (gen.createAnchorFromString (provider.value ++ ":" ++ identifier))
  have hstate : random.next.state < 2147483647 := Nat.mod_lt _ (by decide)
  rw [hlength, DeterministicRandom.nextInt, if_neg (by decide)]
  simp only
  omega

/-- The week that the factory makes of a key, for any clock. -/
def Generated (gen : Generator) (provider : QCommerceProvider) (identifier weekKey : String)
    (week : WeeklyBreakdown) : Prop :=
  ∃ weekStart, NamesWeek weekKey weekStart ∧
    gen.weekFrom provider identifier weekKey weekStart = .ok week

theorem weekFrom_ok (gen : Generator) (provider : QCommerceProvider) (identifier : String)
    {weekKey : String} {weekStart : ℤ} (h : NamesWeek weekKey weekStart) :
    ∃ week, gen.weekFrom provider identifier weekKey weekStart = .ok week := by
  have hdraws : Draws False (generateDailyBreakdown DeterministicRandom.stream gen.math
      (gen.darkStores provider identifier) weekStart) Balanced :=
    draws_generateDailyBreakdown _ _ (darkStores_ne_nil gen provider identifier)
      fun i hi hday => hday (h.days i hi)
  rw [Generator.weekFrom]
  rcases hrun : generateDailyBreakdown DeterministicRandom.stream gen.math
    (gen.darkStores provider identifier) weekStart (DeterministicRandom.ofAnchor
      (gen.createAnchorFromString (provider.value ++ ":" ++ identifier ++ ":" ++ weekKey)))
    with ⟨outcome, after⟩
  cases outcome with
  | ok week => exact ⟨week, rfl⟩
  | error e => exact (hdraws.error trivial hrun).elim

theorem buildWeeklySnapshot_ok (gen : Generator) (now : ℤ) (provider : QCommerceProvider)
    (identifier : String) {weekKey : String} {weekStart : ℤ} (h : NamesWeek weekKey weekStart) :
    ∃ week, Generated gen provider identifier weekKey week ∧
      gen.buildWeeklySnapshot now provider identifier weekKey = .ok ⟨weekKey, week⟩ := by
  obtain ⟨week, hweek⟩ := weekFrom_ok gen provider identifier h
  refine ⟨week, ⟨weekStart, h, hweek⟩, ?_⟩
  rw [Generator.buildWeeklySnapshot, h.start now]
  simp only [hweek]
  rfl

/-! ## One record -/

/-- The record shows the weeks of the keys, the newest first: five at most, and each once where it
is there several times in a row. -/
structure Shows (gen : Generator) (keys : List String) (record : WeeklyRecord) : Prop where
  keys : record.currentWeekKey :: record.previousWeeksHistory.map (·.weekKey) =
    (keys.destutter (· ≠ ·)).take 5
  snapshot : record.currentSnapshot.weekKey = record.currentWeekKey
  current : Generated gen record.provider record.identifier record.currentWeekKey
    record.currentSnapshot.currentWeek
  history : ∀ week ∈ record.previousWeeksHistory,
    Generated gen record.provider record.identifier week.weekKey week.weekSummary

section Record

variable {gen : Generator} {keys : List String} {record : WeeklyRecord} {weekKey : String}

theorem exists_destutter_cons {α : Type*} [DecidableEq α] (a : α) (l : List α) :
    ∃ l', (a :: l).destutter (· ≠ ·) = a :: l' := by
  induction l with
  | nil => exact ⟨[], rfl⟩
  | cons b l ih =>
      by_cases h : a ≠ b
      · exact ⟨_, by rw [List.destutter_cons_cons, if_pos h]⟩
      · rw [List.destutter_cons_cons, if_neg h]
        exact ih

/-- The newest key is the current one. -/
theorem Shows.exists_cons (h : Shows gen keys record) :
    ∃ older, keys = record.currentWeekKey :: older := by
  have hkeys := h.keys
  cases keys with
  | nil => cases hkeys
  | cons key older =>
      obtain ⟨rest, hrest⟩ := exists_destutter_cons key older
      rw [hrest, List.take_succ_cons] at hkeys
      rw [(List.cons.inj hkeys).1]
      exact ⟨older, rfl⟩

theorem Shows.congr {keys' : List String} (h : Shows gen keys record)
    (hkeys : keys'.destutter (· ≠ ·) = keys.destutter (· ≠ ·)) : Shows gen keys' record :=
  { h with keys := by rw [h.keys, hkeys] }

theorem destutter_cons_self (keys : List String) :
    (weekKey :: weekKey :: keys).destutter (· ≠ ·) = (weekKey :: keys).destutter (· ≠ ·) := by
  rw [List.destutter_cons_cons, if_neg (by simp)]
  rfl

theorem Shows.stay (h : Shows gen keys record) (hkey : record.currentWeekKey = weekKey) :
    Shows gen (weekKey :: keys) record := by
  obtain ⟨older, rfl⟩ := h.exists_cons
  subst hkey
  exact h.congr (destutter_cons_self older)

/-- A new week pushes the oldest one out. -/
theorem Shows.roll (h : Shows gen keys record) (hkey : record.currentWeekKey ≠ weekKey) (now : ℤ)
    {week : WeeklyBreakdown}
    (hweek : Generated gen record.provider record.identifier weekKey week) :
    Shows gen (weekKey :: keys)
      { archiveWeek now record with
        currentWeekKey := weekKey
        currentSnapshot := ⟨weekKey, week⟩ } where
  keys := by
    obtain ⟨older, rfl⟩ := h.exists_cons
    have hroll : (weekKey :: record.currentWeekKey :: older).destutter (· ≠ ·) =
        weekKey :: (record.currentWeekKey :: older).destutter (· ≠ ·) := by
      rw [List.destutter_cons_cons, if_pos hkey.symm]
      rfl
    rw [hroll, List.take_succ_cons, ← Nat.min_eq_left (by decide : 4 ≤ 5), ← List.take_take,
      ← h.keys]
    simp [archiveWeek, List.map_take]
  snapshot := rfl
  current := hweek
  history week' hweek' := by
    rcases List.mem_cons.mp (List.mem_of_mem_take hweek') with rfl | hold
    · exact h.current
    · exact h.history week' hold

theorem shows_new {provider : QCommerceProvider} {identifier internalDriverId : String}
    {week : WeeklyBreakdown}
    (hweek : Generated gen provider identifier weekKey week) :
    Shows gen [weekKey]
      ⟨provider, identifier, internalDriverId, weekKey, ⟨weekKey, week⟩, []⟩ where
  keys := rfl
  snapshot := rfl
  current := hweek
  history _ h := by cases h

end Record

/-! ## The registry -/

section Registry

variable {gen : Generator} {registry : WeekRegistry} {driverId : String} {record : WeeklyRecord}

theorem internalDriverId_of_record (h : registry.record driverId = some record) :
    record.internalDriverId = driverId := by
  simpa using List.find?_some h

theorem record_put (changed : WeeklyRecord) (driverId : String) :
    (registry.put changed).record driverId = (registry.record driverId).map fun old =>
      if old.internalDriverId = changed.internalDriverId then changed else old := by
  rw [WeekRegistry.record, WeekRegistry.put, List.find?_map, WeekRegistry.record]
  congr 2
  funext old
  simp only [Function.comp_apply]
  split
  · rename_i hsame
    rw [hsame]
  · rfl

theorem ids_put (changed : WeeklyRecord) :
    (registry.put changed).driverRecords.map (·.internalDriverId) =
      registry.driverRecords.map (·.internalDriverId) := by
  rw [WeekRegistry.put, List.map_map]
  apply List.map_congr_left
  intro old _
  simp only [Function.comp_apply]
  split
  · rename_i hsame
    exact hsame.symm
  · rfl

theorem record_append (new : WeeklyRecord) (weekKeyOverride : Option String) (driverId : String) :
    (⟨registry.driverRecords ++ [new], weekKeyOverride⟩ : WeekRegistry).record driverId =
      (registry.record driverId).or
        (if new.internalDriverId = driverId then some new else none) := by
  rw [WeekRegistry.record, List.find?_append, WeekRegistry.record]
  congr 1
  simp [List.find?_cons]
  split <;> simp_all

/-- Each driver has one record, and it shows the weeks in which the driver was touched. -/
structure Tracks (gen : Generator) (touched : String → List String) (registry : WeekRegistry) :
    Prop where
  unique : (registry.driverRecords.map (·.internalDriverId)).Nodup
  absent : ∀ driverId, registry.record driverId = none → touched driverId = []
  shown : ∀ driverId record, registry.record driverId = some record →
    Shows gen (touched driverId) record

variable {touched : String → List String}

theorem Tracks.nonempty (h : Tracks gen touched registry)
    (hrecord : registry.record driverId = some record) : touched driverId ≠ [] := by
  obtain ⟨older, holder⟩ := (h.shown driverId record hrecord).exists_cons
  rw [holder]
  exact List.cons_ne_nil _ _

/-- A week once more in a row makes no difference. -/
theorem Tracks.congr {touched' : String → List String} (h : Tracks gen touched registry)
    (hsame : ∀ driverId, (touched' driverId).destutter (· ≠ ·) =
      (touched driverId).destutter (· ≠ ·)) : Tracks gen touched' registry where
  unique := h.unique
  absent driverId hnone := by
    have hdestutter := hsame driverId
    rwa [h.absent driverId hnone, List.destutter_nil, List.destutter_eq_nil] at hdestutter
  shown driverId record hrecord := (h.shown driverId record hrecord).congr (hsame driverId)

theorem Tracks.record_of_mem (h : Tracks gen touched registry)
    (hmem : record ∈ registry.driverRecords) :
    registry.record record.internalDriverId = some record := by
  cases hfind : registry.record record.internalDriverId with
  | none =>
      have hne := List.find?_eq_none.mp hfind record hmem
      simp at hne
  | some other =>
      have hother : other ∈ registry.driverRecords := List.mem_of_find?_eq_some hfind
      rw [List.inj_on_of_nodup_map h.unique hother hmem (internalDriverId_of_record hfind)]

theorem Tracks.mem_ids_iff (h : Tracks gen touched registry) :
    driverId ∈ registry.driverRecords.map (·.internalDriverId) ↔ touched driverId ≠ [] := by
  constructor
  · intro hmem
    obtain ⟨record, hrecord, rfl⟩ := List.mem_map.mp hmem
    exact h.nonempty (h.record_of_mem hrecord)
  · intro hne
    cases hrecord : registry.record driverId with
    | none => exact absurd (h.absent driverId hrecord) hne
    | some record =>
        exact List.mem_map.mpr ⟨record, List.mem_of_find?_eq_some hrecord,
          internalDriverId_of_record hrecord⟩

end Registry

/-! ## Calls -/

/-- The call makes a record for the driver where there is none. -/
def DriverCall.Creates (driverId : String) : DriverCall → Prop
  | openProfile provider identifier => createInternalDriverId provider.value identifier = driverId
  | getDriverProfile id => id = driverId
  | provisionDrivers dto => ∃ identifier ∈ dto.sourceIds,
      createInternalDriverId dto.provider.value identifier = driverId
  | createDriver provider identifier =>
      createInternalDriverId provider.value (trim identifier) = driverId
  | getZoneActivity | setWeekKeyOverride _ => False

/-- The call brings the driver's record up to date. -/
def DriverCall.Refreshes (driverId : String) : DriverCall → Prop
  | openProfile provider identifier => createInternalDriverId provider.value identifier = driverId
  | getDriverProfile id => id = driverId
  | getZoneActivity => True
  | provisionDrivers _ | createDriver .. | setWeekKeyOverride _ => False

instance (driverId : String) : ∀ call : DriverCall, Decidable (call.Creates driverId)
  | .openProfile .. => inferInstanceAs (Decidable (_ = _))
  | .getDriverProfile _ => inferInstanceAs (Decidable (_ = _))
  | .provisionDrivers _ => inferInstanceAs (Decidable (∃ identifier ∈ _, _))
  | .createDriver .. => inferInstanceAs (Decidable (_ = _))
  | .getZoneActivity => inferInstanceAs (Decidable False)
  | .setWeekKeyOverride _ => inferInstanceAs (Decidable False)

instance (driverId : String) : ∀ call : DriverCall, Decidable (call.Refreshes driverId)
  | .openProfile .. => inferInstanceAs (Decidable (_ = _))
  | .getDriverProfile _ => inferInstanceAs (Decidable (_ = _))
  | .getZoneActivity => inferInstanceAs (Decidable True)
  | .provisionDrivers _ => inferInstanceAs (Decidable False)
  | .createDriver .. => inferInstanceAs (Decidable False)
  | .setWeekKeyOverride _ => inferInstanceAs (Decidable False)

/-- When a driver is seen, the newest first: by the call that makes the record, and by each later
one that brings it up to date. -/
def seen {α : Type} (driverId : String) (instant : α) (call : DriverCall) (before : List α) :
    List α :=
  match before with
  | [] => if call.Creates driverId then [instant] else []
  | last :: older => if call.Refreshes driverId then instant :: last :: older else last :: older

def overrideAfter (weekKeyOverride : Option String) : DriverCall → Option String
  | .setWeekKeyOverride weekKey => given (weekKey.map trim)
  | _ => weekKeyOverride

section Actions

variable {gen : Generator} {envWeekKey : Option String} {now : ℤ} {registry : WeekRegistry}
  {touched : String → List String} {weekStart : ℤ}
  (hweek : NamesWeek (resolveWeekKey envWeekKey now registry.weekKeyOverride) weekStart)

include hweek

theorem ensureWeeklyRecord_spec (h : Tracks gen touched registry) (provider : QCommerceProvider)
    (identifier driverId : String) :
    ∃ record registry',
      ensureWeeklyRecord gen envWeekKey now provider identifier driverId registry =
        (.ok record, registry') ∧
      registry'.record driverId = some record ∧
      registry'.weekKeyOverride = registry.weekKeyOverride ∧
      Tracks gen (fun id => if touched id = [] ∧ id = driverId then
        [resolveWeekKey envWeekKey now registry.weekKeyOverride] else touched id) registry' := by
  cases hrecord : registry.record driverId with
  | some existing =>
      refine ⟨existing, registry, by rw [ensureWeeklyRecord, hrecord], hrecord, rfl, ?_⟩
      have hsame : (fun id => if touched id = [] ∧ id = driverId then
          [resolveWeekKey envWeekKey now registry.weekKeyOverride] else touched id) = touched := by
        funext id
        rw [if_neg]
        rintro ⟨hnone, rfl⟩
        exact h.nonempty hrecord hnone
      rwa [hsame]
  | none =>
      obtain ⟨week, hgenerated, hbuild⟩ :=
        buildWeeklySnapshot_ok gen now provider identifier hweek
      set weekKey := resolveWeekKey envWeekKey now registry.weekKeyOverride with hkey
      set new : WeeklyRecord :=
        ⟨provider, identifier, driverId, weekKey, ⟨weekKey, week⟩, []⟩ with hnew
      have hrecords (id : String) :=
        @record_append registry new registry.weekKeyOverride id
      refine ⟨new, ⟨registry.driverRecords ++ [new], registry.weekKeyOverride⟩, ?_, ?_, rfl, ?_⟩
      · rw [ensureWeeklyRecord, hrecord]
        simp only
        rw [← hkey, hbuild]
      · rw [hrecords, hrecord, Option.none_or, if_pos rfl]
      · constructor
        case unique =>
          rw [List.map_append, List.map_singleton, List.nodup_append]
          refine ⟨h.unique, List.nodup_singleton _, ?_⟩
          rintro id hid _ hid' rfl
          rw [List.mem_singleton] at hid'
          obtain ⟨old, hold, rfl⟩ := List.mem_map.mp hid
          have hne := List.find?_eq_none.mp hrecord old hold
          simp [hid', hnew] at hne
        case absent =>
          intro id hid
          rw [hrecords, Option.or_eq_none_iff] at hid
          rw [if_neg]
          · exact h.absent id hid.1
          · rintro ⟨-, rfl⟩
            simp [hnew] at hid
        case shown =>
          intro id record hid
          rw [hrecords] at hid
          cases hold : registry.record id with
          | some old =>
              rw [hold, Option.some_or, Option.some.injEq] at hid
              subst hid
              rw [if_neg fun hboth => h.nonempty hold hboth.1]
              exact h.shown id old hold
          | none =>
              rw [hold, Option.none_or] at hid
              split at hid
              · rename_i hid'
                cases hid
                rw [if_pos ⟨h.absent id hold, hid'.symm⟩]
                exact shows_new hgenerated
              · cases hid

theorem refreshWeekIfNeeded_spec (h : Tracks gen touched registry) {record : WeeklyRecord}
    (hrecord : registry.record record.internalDriverId = some record) :
    ∃ refreshed registry', refreshWeekIfNeeded gen envWeekKey now record registry =
        (.ok refreshed, registry') ∧
      registry'.weekKeyOverride = registry.weekKeyOverride ∧
      (∀ id, id ≠ record.internalDriverId → registry'.record id = registry.record id) ∧
      Tracks gen (fun id => if id = record.internalDriverId then
        resolveWeekKey envWeekKey now registry.weekKeyOverride :: touched id else touched id)
        registry' := by
  obtain ⟨week, hgenerated, hbuild⟩ :=
    buildWeeklySnapshot_ok gen now record.provider record.identifier hweek
  set weekKey := resolveWeekKey envWeekKey now registry.weekKeyOverride with hkey
  by_cases hcurrent : record.currentWeekKey = weekKey
  · refine ⟨false, registry, ?_, rfl, fun _ _ => rfl, ⟨h.unique, ?_, ?_⟩⟩
    · rw [refreshWeekIfNeeded]
      simp only
      rw [← hkey, if_pos hcurrent]
    · intro id hid
      rw [if_neg]
      · exact h.absent id hid
      · rintro rfl
        rw [hrecord] at hid
        cases hid
    · intro id old hid
      split
      · rename_i hsame
        subst hsame
        rw [hrecord, Option.some.injEq] at hid
        subst hid
        exact (h.shown _ _ hrecord).stay hcurrent
      · exact h.shown id old hid
  · set rolled : WeeklyRecord :=
      { archiveWeek now record with
        currentWeekKey := weekKey
        currentSnapshot := ⟨weekKey, week⟩ } with hrolled
    have hother (id : String) (hid : id ≠ record.internalDriverId) :
        (registry.put rolled).record id = registry.record id := by
      rw [record_put]
      cases hold : registry.record id with
      | none => rfl
      | some old =>
          rw [Option.map_some, if_neg]
          rw [internalDriverId_of_record hold]
          exact hid
    have hown : (registry.put rolled).record record.internalDriverId = some rolled := by
      rw [record_put, hrecord, Option.map_some, if_pos]
      rfl
    refine ⟨true, registry.put rolled, ?_, rfl, hother, ⟨?_, ?_, ?_⟩⟩
    · rw [refreshWeekIfNeeded]
      simp only
      rw [← hkey, if_neg hcurrent, hbuild]
    · rw [ids_put]
      exact h.unique
    · intro id hid
      by_cases hsame : id = record.internalDriverId
      · subst hsame
        rw [hown] at hid
        cases hid
      · rw [if_neg hsame]
        rw [hother id hsame] at hid
        exact h.absent id hid
    · intro id old hid
      by_cases hsame : id = record.internalDriverId
      · subst hsame
        rw [hown, Option.some.injEq] at hid
        subst hid
        rw [if_pos rfl]
        exact (h.shown _ _ hrecord).roll hcurrent now hgenerated
      · rw [if_neg hsame]
        rw [hother id hsame] at hid
        exact h.shown id old hid

theorem visit_spec (h : Tracks gen touched registry) (provider : QCommerceProvider)
    (identifier driverId : String) :
    ∃ registry', visit gen envWeekKey now provider identifier driverId registry =
        (.ok (), registry') ∧
      registry'.weekKeyOverride = registry.weekKeyOverride ∧
      Tracks gen (fun id => if id = driverId then
        resolveWeekKey envWeekKey now registry.weekKeyOverride :: touched id else touched id)
        registry' := by
  obtain ⟨record, registry₁, hensure, hrecord, hoverride, hmade⟩ :=
    ensureWeeklyRecord_spec hweek h provider identifier driverId
  have hid := internalDriverId_of_record hrecord
  rw [← hoverride] at hweek
  obtain ⟨refreshed, registry₂, hrefresh, hoverride', -, htracks⟩ :=
    refreshWeekIfNeeded_spec hweek hmade (hid.symm ▸ hrecord)
  refine ⟨registry₂, ?_, hoverride'.trans hoverride, htracks.congr fun id => ?_⟩
  · rw [visit, Action.bind_of_ok hensure, Action.bind_of_ok hrefresh]
    rfl
  · rw [hid, hoverride]
    by_cases hsame : id = driverId
    · by_cases hnone : touched id = []
      · rw [if_pos hsame, if_pos hsame, if_pos ⟨hnone, hsame⟩, hnone, destutter_cons_self]
      · rw [if_pos hsame, if_pos hsame, if_neg fun hboth => hnone hboth.1]
    · rw [if_neg hsame, if_neg hsame, if_neg fun hboth => hsame hboth.2]

theorem provisionAll_spec (h : Tracks gen touched registry) (provider : QCommerceProvider)
    (identifiers : List String) :
    ∃ registry', provisionAll gen envWeekKey now provider identifiers registry =
        (.ok (), registry') ∧
      registry'.weekKeyOverride = registry.weekKeyOverride ∧
      Tracks gen (fun id => if touched id = [] ∧
          ∃ identifier ∈ identifiers, createInternalDriverId provider.value identifier = id then
        [resolveWeekKey envWeekKey now registry.weekKeyOverride] else touched id) registry' := by
  induction identifiers generalizing registry touched with
  | nil => exact ⟨registry, rfl, rfl, by simpa using h⟩
  | cons identifier identifiers ih =>
      obtain ⟨record, registry₁, hensure, -, hoverride, hmade⟩ :=
        ensureWeeklyRecord_spec hweek h provider identifier
          (createInternalDriverId provider.value identifier)
      rw [← hoverride] at hweek
      obtain ⟨registry₂, hrest, hoverride', htracks⟩ := ih hweek hmade
      refine ⟨registry₂, ?_, hoverride'.trans hoverride, htracks.congr fun id => ?_⟩
      · rw [provisionAll, Action.bind_of_ok hensure]
        exact hrest
      · rw [hoverride]
        by_cases hnone : touched id = []
        · by_cases hfirst : id = createInternalDriverId provider.value identifier
          · simp [hnone, ← hfirst]
          · simp [hnone, hfirst, Ne.symm hfirst]
        · simp [hnone]

theorem refreshAll_spec {records : List WeeklyRecord} (h : Tracks gen touched registry)
    (hnodup : (records.map (·.internalDriverId)).Nodup)
    (hrecords : ∀ record ∈ records, registry.record record.internalDriverId = some record) :
    ∃ registry', refreshAll gen envWeekKey now records registry = (.ok (), registry') ∧
      registry'.weekKeyOverride = registry.weekKeyOverride ∧
      Tracks gen (fun id => if id ∈ records.map (·.internalDriverId) then
        resolveWeekKey envWeekKey now registry.weekKeyOverride :: touched id else touched id)
        registry' := by
  induction records generalizing registry touched with
  | nil => exact ⟨registry, rfl, rfl, by simpa using h⟩
  | cons record records ih =>
      rw [List.map_cons, List.nodup_cons] at hnodup
      obtain ⟨refreshed, registry₁, hrefresh, hoverride, hothers, htracks⟩ :=
        refreshWeekIfNeeded_spec hweek h (hrecords record List.mem_cons_self)
      rw [← hoverride] at hweek
      obtain ⟨registry₂, hrest, hoverride', hall⟩ :=
        ih hweek htracks hnodup.2 fun other hother => by
        rw [hothers _ fun hsame => hnodup.1 (List.mem_map.mpr ⟨other, hother, hsame⟩)]
        exact hrecords other (List.mem_cons_of_mem record hother)
      refine ⟨registry₂, ?_, hoverride'.trans hoverride, hall.congr fun id => ?_⟩
      · rw [refreshAll, Action.bind_of_ok hrefresh]
        exact hrest
      · rw [hoverride]
        by_cases hown : id = record.internalDriverId
        · subst hown
          rw [if_neg hnodup.1, if_pos rfl, List.map_cons, if_pos List.mem_cons_self]
        · simp [hown]

end Actions

/-- What a call leaves, where its key names a week. -/
theorem action_spec {gen : Generator} {envWeekKey : Option String} {timed : TimedCall}
    {registry : WeekRegistry} {touched : String → List String} {weekStart : ℤ}
    (hweek : NamesWeek (resolveWeekKey envWeekKey timed.now registry.weekKeyOverride) weekStart)
    (h : Tracks gen touched registry) :
    (registry.step gen envWeekKey timed).weekKeyOverride =
        overrideAfter registry.weekKeyOverride timed.call ∧
      Tracks gen (fun id => seen id
        (resolveWeekKey envWeekKey timed.now registry.weekKeyOverride) timed.call (touched id))
        (registry.step gen envWeekKey timed) := by
  obtain ⟨now, call⟩ := timed
  have hvisit (provider : QCommerceProvider) (identifier driverId : String) (call : DriverCall)
      (hcreates : ∀ id, call.Creates id ↔ id = driverId)
      (hrefreshes : ∀ id, call.Refreshes id ↔ id = driverId) :
      (visit gen envWeekKey now provider identifier driverId registry).2.weekKeyOverride =
          registry.weekKeyOverride ∧
        Tracks gen (fun id => seen id
          (resolveWeekKey envWeekKey now registry.weekKeyOverride) call (touched id))
          (visit gen envWeekKey now provider identifier driverId registry).2 := by
    obtain ⟨registry', hrun, hoverride, htracks⟩ := visit_spec hweek h provider identifier driverId
    rw [hrun]
    refine ⟨hoverride, htracks.congr fun id => ?_⟩
    cases touched id with
    | nil => simp [seen, hcreates]
    | cons last older => simp [seen, hrefreshes]
  have hprovision (provider : QCommerceProvider) (identifiers : List String) (call : DriverCall)
      (hcreates : ∀ id, call.Creates id ↔
        ∃ identifier ∈ identifiers, createInternalDriverId provider.value identifier = id)
      (hrefreshes : ∀ id, ¬call.Refreshes id) :
      (provisionAll gen envWeekKey now provider identifiers registry).2.weekKeyOverride =
          registry.weekKeyOverride ∧
        Tracks gen (fun id => seen id
          (resolveWeekKey envWeekKey now registry.weekKeyOverride) call (touched id))
          (provisionAll gen envWeekKey now provider identifiers registry).2 := by
    obtain ⟨registry', hrun, hoverride, htracks⟩ := provisionAll_spec hweek h provider identifiers
    rw [hrun]
    refine ⟨hoverride, htracks.congr fun id => ?_⟩
    cases touched id with
    | nil => simp [seen, hcreates]
    | cons last older => simp [seen, hrefreshes]
  cases call with
  | openProfile provider identifier =>
      exact hvisit provider identifier _ (.openProfile provider identifier)
        (fun _ => eq_comm) fun _ => eq_comm
  | getDriverProfile driverId =>
      simp only [WeekRegistry.step, TimedCall.action, getDriverProfile]
      cases decodeInternalDriverId driverId with
      | none =>
          exact hvisit _ _ driverId (.getDriverProfile driverId) (fun _ => eq_comm) fun _ => eq_comm
      | some decoded =>
          exact hvisit _ _ driverId (.getDriverProfile driverId) (fun _ => eq_comm) fun _ => eq_comm
  | provisionDrivers dto =>
      exact hprovision dto.provider dto.sourceIds (.provisionDrivers dto) (fun _ => Iff.rfl)
        fun _ => id
  | createDriver provider identifier =>
      exact hprovision provider [trim identifier] (.createDriver provider identifier)
        (fun _ => by simp [DriverCall.Creates]) fun _ => id
  | getZoneActivity =>
      obtain ⟨registry', hrun, hoverride, htracks⟩ :=
        refreshAll_spec hweek h h.unique fun record hmem => h.record_of_mem hmem
      have hstep : registry.step gen envWeekKey ⟨now, .getZoneActivity⟩ = registry' :=
        congrArg Prod.snd hrun
      rw [hstep]
      refine ⟨hoverride, htracks.congr fun id => ?_⟩
      simp only [h.mem_ids_iff]
      cases touched id with
      | nil => rfl
      | cons last older => rfl
  | setWeekKeyOverride weekKey =>
      have htracks : Tracks gen touched
          (registry.step gen envWeekKey ⟨now, .setWeekKeyOverride weekKey⟩) :=
        ⟨h.unique, h.absent, h.shown⟩
      refine ⟨rfl, htracks.congr fun id => ?_⟩
      cases touched id with
      | nil => rfl
      | cons last older => rfl

/-! ## Runs -/

/-- The override in force, and the weeks in which a driver was seen. -/
def seenStep (envWeekKey : Option String) (driverId : String) (s : Option String × List String)
    (timed : TimedCall) : Option String × List String :=
  (overrideAfter s.1 timed.call,
    seen driverId (resolveWeekKey envWeekKey timed.now s.1) timed.call s.2)

/-- The weeks in which the calls see a driver, the newest first. -/
def weeksSeen (envWeekKey : Option String) (calls : List TimedCall) (driverId : String) :
    List String :=
  (final (seenStep envWeekKey driverId) (none, []) calls).2

/-- A clock within the range of `Date`, and an override that passes its check. -/
structure TimedCall.Proper (timed : TimedCall) : Prop where
  year : 1000 ≤ getUTCFullYear timed.now
  max : timed.now + 6 * MS_PER_DAY ≤ MAX_TIME
  override : ∀ weekKey, timed.call = .setWeekKeyOverride (some weekKey) → isWeekKey weekKey = true

theorem trim_eq_of_isWeekKey {weekKey : String} (h : isWeekKey weekKey = true) :
    trim weekKey = weekKey := by
  unfold isWeekKey at h
  split at h
  case h_2 => cases h
  case h_1 y₁ y₂ y₃ y₄ w₁ w₂ hchars =>
    have hdigits := List.all_eq_true.mp h
    have hfirst : isSpace y₁ = false := Json.isSpace_of_isDigit (hdigits y₁ (by simp))
    have hlast : isSpace w₂ = false := Json.isSpace_of_isDigit (hdigits w₂ (by simp))
    rw [← String.toList_inj, trim, hchars]
    simp [hfirst, hlast]

theorem namesWeek_resolveWeekKey {envWeekKey weekKeyOverride : Option String} {now : ℤ}
    (henv : ∀ weekKey, given envWeekKey = some weekKey → isWeekKey weekKey = true)
    (hoverride : ∀ weekKey, weekKeyOverride = some weekKey → isWeekKey weekKey = true)
    (hyear : 1000 ≤ getUTCFullYear now) (hmax : now + 6 * MS_PER_DAY ≤ MAX_TIME) :
    ∃ weekStart, NamesWeek (resolveWeekKey envWeekKey now weekKeyOverride) weekStart := by
  cases weekKeyOverride with
  | some weekKey => exact namesWeek_of_isWeekKey (hoverride weekKey rfl)
  | none =>
      rw [resolveWeekKey, Option.getD_none]
      cases hgiven : given envWeekKey with
      | some weekKey =>
          rw [getIsoWeekKey, hgiven, Option.getD_some]
          exact namesWeek_of_isWeekKey (henv weekKey hgiven)
      | none =>
          have hclock : getIsoWeekKey envWeekKey now = getIsoWeekKey none now := by
            rw [getIsoWeekKey, hgiven]
            rfl
          rw [hclock]
          exact ⟨_, namesWeek_getIsoWeekKey hyear hmax⟩

theorem isWeekKey_overrideAfter {timed : TimedCall} (h : timed.Proper)
    {weekKeyOverride : Option String}
    (hoverride : ∀ weekKey, weekKeyOverride = some weekKey → isWeekKey weekKey = true) :
    ∀ weekKey, overrideAfter weekKeyOverride timed.call = some weekKey →
      isWeekKey weekKey = true := by
  intro weekKey hkey
  unfold overrideAfter at hkey
  split at hkey
  · rename_i given? hcall
    obtain ⟨hmap, -⟩ := Option.filter_eq_some_iff.mp hkey
    obtain ⟨text, rfl, rfl⟩ := Option.map_eq_some_iff.mp hmap
    have htext := h.override text hcall
    rwa [trim_eq_of_isWeekKey htext]
  · exact hoverride weekKey hkey

theorem tracks_final (gen : Generator) (envWeekKey : Option String) (calls : List TimedCall)
    (henv : ∀ weekKey, given envWeekKey = some weekKey → isWeekKey weekKey = true)
    (hproper : ∀ timed ∈ calls, timed.Proper) :
    Tracks gen (weeksSeen envWeekKey calls)
      (final (WeekRegistry.step gen envWeekKey) {} calls) := by
  suffices hrun : Tracks gen (weeksSeen envWeekKey calls)
      (final (WeekRegistry.step gen envWeekKey) {} calls) ∧
      (∀ driverId, (final (seenStep envWeekKey driverId) (none, []) calls).1 =
        (final (WeekRegistry.step gen envWeekKey) {} calls).weekKeyOverride) ∧
      ∀ weekKey, (final (WeekRegistry.step gen envWeekKey) {} calls).weekKeyOverride =
        some weekKey → isWeekKey weekKey = true from hrun.1
  induction calls using List.reverseRecOn with
  | nil =>
      refine ⟨⟨List.nodup_nil, fun _ _ => rfl, ?_⟩, fun _ => rfl, ?_⟩
      · intro driverId record h
        cases h
      · intro weekKey h
        cases h
  | append_singleton calls timed ih =>
      obtain ⟨htracks, hsame, hoverride⟩ := ih fun other hother =>
        hproper other (List.mem_append_left _ hother)
      have htimed := hproper timed (by simp)
      obtain ⟨weekStart, hweek⟩ := namesWeek_resolveWeekKey henv hoverride htimed.year htimed.max
      obtain ⟨hset, hstep⟩ := action_spec hweek htracks
      simp only [final_snoc]
      refine ⟨?_, ?_, ?_⟩
      · have hseen : weeksSeen envWeekKey (calls ++ [timed]) = fun driverId =>
            seen driverId (resolveWeekKey envWeekKey timed.now
              (final (WeekRegistry.step gen envWeekKey) {} calls).weekKeyOverride) timed.call
              (weeksSeen envWeekKey calls driverId) := by
          funext driverId
          rw [weeksSeen, final_snoc, seenStep, hsame driverId]
          rfl
        rwa [hseen]
      · intro driverId
        rw [hset, seenStep, hsame driverId]
      · rw [hset]
        exact isWeekKey_overrideAfter htimed hoverride

/-- A driver has a record after any calls if they were seen, and it shows the last five weeks in
which that was, whatever overrides were set. -/
theorem record_shows (gen : Generator) (envWeekKey : Option String) (calls : List TimedCall)
    (driverId : String)
    (henv : ∀ weekKey, given envWeekKey = some weekKey → isWeekKey weekKey = true)
    (hproper : ∀ timed ∈ calls, timed.Proper) :
    ((final (WeekRegistry.step gen envWeekKey) {} calls).record driverId = none ↔
        weeksSeen envWeekKey calls driverId = []) ∧
      ∀ record, (final (WeekRegistry.step gen envWeekKey) {} calls).record driverId = some record →
        Shows gen (weeksSeen envWeekKey calls driverId) record := by
  have htracks := tracks_final gen envWeekKey calls henv hproper
  refine ⟨⟨htracks.absent driverId, fun hnone => ?_⟩, htracks.shown driverId⟩
  cases hrecord : (final (WeekRegistry.step gen envWeekKey) {} calls).record driverId with
  | none => rfl
  | some record => exact absurd hnone (htracks.nonempty hrecord)

/-- A seed and functions that are the same everywhere. -/
def plainGenerator : Generator where
  createAnchorFromString _ := 1
  math := { PI := 3, sqrt := fun _ => 1, log := fun _ => 0, cos := fun _ => 0, exp := fun _ => 1 }

theorem proper_of {timed : TimedCall} (hyear : 1000 ≤ getUTCFullYear timed.now)
    (hmax : timed.now + 6 * MS_PER_DAY ≤ MAX_TIME)
    (hcall : ∀ weekKey, timed.call ≠ .setWeekKeyOverride (some weekKey)) : timed.Proper :=
  ⟨hyear, hmax, fun weekKey h => absurd h (hcall weekKey)⟩

/-- A rider who is read while an override is set and after it was cleared. -/
def overriddenReads : List TimedCall :=
  [⟨1707177600000, .getDriverProfile "rider"⟩,
    ⟨1707177600001, .setWeekKeyOverride (some "2024-01")⟩,
    ⟨1707177600002, .getZoneActivity⟩, ⟨1707177600003, .setWeekKeyOverride none⟩,
    ⟨1707177600004, .getDriverProfile "rider"⟩]

/-- The week before the override is there twice. -/
theorem record_shows_overridden :
    weeksSeen none overriddenReads "rider" = ["2024-06", "2024-01", "2024-06"] ∧
      ∃ record, (final (WeekRegistry.step plainGenerator none) {} overriddenReads).record "rider" =
        some record ∧ Shows plainGenerator ["2024-06", "2024-01", "2024-06"] record := by
  have hseen : weeksSeen none overriddenReads "rider" = ["2024-06", "2024-01", "2024-06"] := by
    decide +kernel
  have hproper : ∀ timed ∈ overriddenReads, timed.Proper := by
    intro timed htimed
    simp only [overriddenReads, List.mem_cons, List.not_mem_nil, or_false] at htimed
    rcases htimed with rfl | rfl | rfl | rfl | rfl
    case inr.inl =>
      refine ⟨by decide, by decide, fun weekKey h => ?_⟩
      cases h
      decide
    all_goals exact proper_of (by decide) (by decide) (by simp)
  obtain ⟨hnone, hsome⟩ :=
    record_shows plainGenerator none overriddenReads "rider" (by simp [given]) hproper
  obtain ⟨record, hrecord⟩ := Option.ne_none_iff_exists'.mp fun h => by
    rw [hnone, hseen] at h
    cases h
  exact ⟨hseen, record, hrecord, hseen ▸ hsome record hrecord⟩

/-! ## Weeks of the calendar -/

/-- When the calls see a driver, the newest first. -/
def timesSeen (calls : List TimedCall) (driverId : String) : List ℤ :=
  final (fun times timed => seen driverId timed.now timed.call times) [] calls

/-- The Mondays of the last five weeks in which a driver was seen. -/
def lastWeeks (calls : List TimedCall) (driverId : String) : List ℤ :=
  (((timesSeen calls driverId).map monday).destutter (· ≠ ·)).take 5

/-- The weeks of a record under their keys. -/
def WeeklyRecord.weeks (record : WeeklyRecord) : List (String × WeeklyBreakdown) :=
  (record.currentWeekKey, record.currentSnapshot.currentWeek) ::
    record.previousWeeksHistory.map fun week => (week.weekKey, week.weekSummary)

theorem seen_map {α β : Type} (f : α → β) (driverId : String) (instant : α) (call : DriverCall)
    (before : List α) :
    seen driverId (f instant) call (before.map f) = (seen driverId instant call before).map f := by
  cases before with
  | nil =>
      simp only [seen, List.map_nil]
      split <;> rfl
  | cons last older =>
      simp only [seen, List.map_cons]
      split <;> rfl

theorem seen_sublist {α : Type} (driverId : String) (instant : α) (call : DriverCall)
    (before : List α) : (seen driverId instant call before).Sublist (instant :: before) := by
  cases before with
  | nil =>
      simp only [seen]
      split
      · exact List.Sublist.refl _
      · exact List.nil_sublist _
  | cons last older =>
      simp only [seen]
      split
      · exact List.Sublist.refl _
      · exact List.sublist_cons_self _ _

theorem timesSeen_sublist (calls : List TimedCall) (driverId : String) :
    (timesSeen calls driverId).Sublist (calls.map (·.now)).reverse := by
  induction calls using List.reverseRecOn with
  | nil => exact List.Sublist.refl _
  | append_singleton calls timed ih =>
      rw [timesSeen, final_snoc, List.map_append, List.reverse_append]
      exact (seen_sublist _ _ _ _).trans (ih.cons_cons timed.now)

/-- Without overrides the weeks seen are those of the clock. -/
theorem weeksSeen_clock {calls : List TimedCall}
    (hclock : ∀ timed ∈ calls, ∀ weekKey, timed.call ≠ .setWeekKeyOverride weekKey)
    (driverId : String) :
    (final (seenStep none driverId) (none, []) calls).1 = none ∧
      weeksSeen none calls driverId = (timesSeen calls driverId).map (getIsoWeekKey none) := by
  induction calls using List.reverseRecOn with
  | nil => exact ⟨rfl, rfl⟩
  | append_singleton calls timed ih =>
      obtain ⟨hoverride, hweeks⟩ := ih fun other hother =>
        hclock other (List.mem_append_left _ hother)
      have hno := hclock timed (by simp)
      have hafter : overrideAfter none timed.call = none := by
        unfold overrideAfter
        split
        · rename_i weekKey hcall
          exact absurd hcall (hno weekKey)
        · rfl
      rw [weeksSeen] at hweeks ⊢
      rw [timesSeen] at hweeks ⊢
      simp only [final_snoc, seenStep, hoverride, hafter, hweeks, true_and]
      exact seen_map (getIsoWeekKey none) driverId timed.now timed.call _

theorem monday_le {date date' : ℤ} (h : date ≤ date') : monday date ≤ monday date' := by
  simp only [monday, Calendar.thursday, MS_PER_DAY]
  omega

theorem monday_monday (date : ℤ) : monday (monday date) = monday date :=
  monday_eq_iff.mpr ⟨le_rfl, lt_add_of_pos_right _ (by decide)⟩

theorem pairwise_gt_of_isChain {l : List ℤ} (hle : l.Pairwise (· ≥ ·))
    (hne : l.IsChain (· ≠ ·)) : l.Pairwise (· > ·) := by
  induction l with
  | nil => exact List.Pairwise.nil
  | cons a l ih =>
      obtain ⟨hfirst, hrest⟩ := List.pairwise_cons.mp hle
      refine List.pairwise_cons.mpr ⟨?_, ih hrest hne.tail⟩
      cases l with
      | nil => simp
      | cons b l =>
          have hstrict : a > b := lt_of_le_of_ne (hfirst b List.mem_cons_self)
            (List.isChain_cons_cons.mp hne).1.symm
          intro c hc
          rcases List.mem_cons.mp hc with rfl | hc
          · exact hstrict
          · exact lt_of_le_of_lt ((List.pairwise_cons.mp hrest).1 c hc) hstrict

section Clock

variable {date : ℤ} (hyear : 1000 ≤ getUTCFullYear date)

include hyear

theorem getIsoWeekKey_monday : getIsoWeekKey none (monday date) = getIsoWeekKey none date := by
  have hday := newYear_le_of_year hyear
  have hown := monday_bounds date
  apply getIsoWeekKey_congr (by omega) ?_ (monday_monday date)
  simp only [MS_PER_DAY] at *
  omega

/-- The key of a Monday is read back. -/
theorem eq_monday_of_namesWeek (hmax : date ≤ MAX_TIME) {weekStart : ℤ}
    (h : NamesWeek (getIsoWeekKey none (monday date)) weekStart) : weekStart = monday date := by
  have hday := newYear_le_of_year hyear
  have hread := h.start 0
  rw [getIsoWeekKey_monday hyear,
    deriveWeekStartFromKey_getIsoWeekKey 0 (by omega) hmax] at hread
  exact (Option.some_injective _ hread).symm

end Clock

/-- A record shows weeks of the calendar, the newest first and each once, under their own keys and
with the summaries generated for them. -/
structure CalendarWeeks (gen : Generator) (calls : List TimedCall) (driverId : String)
    (record : WeeklyRecord) : Prop where
  keys : record.weeks.map Prod.fst = (lastWeeks calls driverId).map (getIsoWeekKey none)
  descending : (lastWeeks calls driverId).Pairwise (· > ·)
  generated : ∀ shown ∈ record.weeks, ∃ start ∈ lastWeeks calls driverId,
    shown.1 = getIsoWeekKey none start ∧
      gen.weekFrom record.provider record.identifier shown.1 start = .ok shown.2

theorem calendarWeeks_final (gen : Generator) (calls : List TimedCall) (driverId : String)
    (record : WeeklyRecord) (hproper : ∀ timed ∈ calls, timed.Proper)
    (hclock : ∀ timed ∈ calls, ∀ weekKey, timed.call ≠ .setWeekKeyOverride weekKey)
    (hsorted : calls.Pairwise fun earlier later => earlier.now ≤ later.now)
    (hrecord : (final (WeekRegistry.step gen none) {} calls).record driverId = some record) :
    CalendarWeeks gen calls driverId record := by
  have hshows :=
    (tracks_final gen none calls (by simp [given]) hproper).shown driverId record hrecord
  rw [(weeksSeen_clock hclock driverId).2] at hshows
  have htimes (t : ℤ) (ht : t ∈ timesSeen calls driverId) :
      1000 ≤ getUTCFullYear t ∧ t ≤ MAX_TIME := by
    have hmem := (timesSeen_sublist calls driverId).subset ht
    obtain ⟨timed, htimed, rfl⟩ := List.mem_map.mp (List.mem_reverse.mp hmem)
    have hgood := hproper timed htimed
    have hmax := hgood.max
    simp only [MS_PER_DAY] at hmax
    exact ⟨hgood.year, by omega⟩
  have hmondays (m : ℤ) (hm : m ∈ (timesSeen calls driverId).map monday) {weekStart : ℤ}
      (h : NamesWeek (getIsoWeekKey none m) weekStart) : weekStart = m := by
    obtain ⟨t, ht, rfl⟩ := List.mem_map.mp hm
    exact eq_monday_of_namesWeek (htimes t ht).1 (htimes t ht).2 h
  have hkeyed (t : ℤ) (ht : t ∈ timesSeen calls driverId) :
      ∃ weekStart, NamesWeek (getIsoWeekKey none (monday t)) weekStart := by
    rw [getIsoWeekKey_monday (htimes t ht).1]
    obtain ⟨timed, htimed, rfl⟩ := List.mem_map.mp
      (List.mem_reverse.mp ((timesSeen_sublist calls driverId).subset ht))
    exact ⟨_, namesWeek_getIsoWeekKey (hproper timed htimed).year (hproper timed htimed).max⟩
  have hsame : (timesSeen calls driverId).map (getIsoWeekKey none) =
      ((timesSeen calls driverId).map monday).map (getIsoWeekKey none) := by
    rw [List.map_map]
    exact List.map_congr_left fun t ht => (getIsoWeekKey_monday (htimes t ht).1).symm
  have hdestutter : ((timesSeen calls driverId).map (getIsoWeekKey none)).destutter (· ≠ ·) =
      (((timesSeen calls driverId).map monday).destutter (· ≠ ·)).map (getIsoWeekKey none) := by
    rw [hsame]
    refine (List.map_destutter fun m hm m' hm' => not_congr ⟨congrArg _, fun hkey => ?_⟩).symm
    obtain ⟨t, ht, rfl⟩ := List.mem_map.mp hm
    obtain ⟨weekStart, hnames⟩ := hkeyed t ht
    exact (hmondays _ hm hnames).symm.trans (hmondays m' hm' (hkey ▸ hnames))
  have hkeys : record.weeks.map Prod.fst =
      (lastWeeks calls driverId).map (getIsoWeekKey none) := by
    rw [lastWeeks, List.map_take, ← hdestutter, ← hshows.keys, WeeklyRecord.weeks, List.map_cons,
      List.map_map]
    rfl
  constructor
  case keys => exact hkeys
  case descending =>
    have htaken : (lastWeeks calls driverId).Sublist ((timesSeen calls driverId).map monday) :=
      (List.take_sublist _ _).trans (List.destutter_sublist _ _)
    have hdescending : (timesSeen calls driverId).Pairwise (· ≥ ·) := by
      apply List.Pairwise.sublist (timesSeen_sublist calls driverId)
      rw [List.pairwise_reverse, List.pairwise_map]
      exact hsorted
    apply pairwise_gt_of_isChain
    · apply List.Pairwise.sublist htaken
      rw [List.pairwise_map]
      exact hdescending.imp monday_le
    · exact (List.isChain_destutter _ _).take 5
  case generated =>
    intro shown hshown
    have hgenerated : Generated gen record.provider record.identifier shown.1 shown.2 := by
      rcases List.mem_cons.mp hshown with rfl | hold
      · exact hshows.current
      · obtain ⟨week, hweek, rfl⟩ := List.mem_map.mp hold
        exact hshows.history week hweek
    have hkey : shown.1 ∈ (lastWeeks calls driverId).map (getIsoWeekKey none) := by
      rw [← hkeys]
      exact List.mem_map_of_mem hshown
    obtain ⟨start, hstart, hkey⟩ := List.mem_map.mp hkey
    obtain ⟨weekStart, hnames, hweek⟩ := hgenerated
    have hmem : start ∈ (timesSeen calls driverId).map monday :=
      ((List.take_sublist _ _).trans (List.destutter_sublist _ _)).subset hstart
    rw [← hkey] at hnames
    rw [hmondays start hmem hnames] at hweek
    exact ⟨start, hstart, hkey.symm, hweek⟩

/-- A rider who is seen in three weeks, twice in the second. -/
def fourReads : List TimedCall :=
  [⟨1707177600000, .getDriverProfile "rider"⟩, ⟨1707782400000, .getDriverProfile "rider"⟩,
    ⟨1708000000000, .getZoneActivity⟩, ⟨1708387200000, .getDriverProfile "rider"⟩]

theorem calendarWeeks_final_four :
    lastWeeks fourReads "rider" = [1708300800000, 1707696000000, 1707091200000] ∧
      ∃ record, (final (WeekRegistry.step plainGenerator none) {} fourReads).record "rider" =
        some record ∧ CalendarWeeks plainGenerator fourReads "rider" record := by
  refine ⟨by decide, ?_⟩
  have hproper : ∀ timed ∈ fourReads, timed.Proper := by
    intro timed htimed
    simp only [fourReads, List.mem_cons, List.not_mem_nil, or_false] at htimed
    rcases htimed with rfl | rfl | rfl | rfl
    all_goals exact proper_of (by decide) (by decide) (by simp)
  cases hrecord : (final (WeekRegistry.step plainGenerator none) {} fourReads).record "rider" with
  | none =>
      have hunseen := (tracks_final plainGenerator none fourReads (by simp [given]) hproper).absent
        "rider" hrecord
      exact absurd hunseen (by decide)
  | some record =>
      refine ⟨record, rfl, calendarWeeks_final _ _ _ _ hproper ?_ (by decide) hrecord⟩
      simp [fourReads]

end Aegis.DynamicQCommerce
