import Aegis.Model.DriverFactory

/-! # Week keys

The key of a week is made from its Thursday and read back from the fourth of January. -/

namespace Aegis.DynamicQCommerce

open Calendar JsString Text

/-! ## Midnights -/

section Midnights

variable (date days : ℤ)

@[simp] theorem mul_ediv_day : days * MS_PER_DAY / MS_PER_DAY = days :=
  Int.mul_ediv_cancel days (by decide)

theorem dayNum_eq : dayNum date = (date / MS_PER_DAY + 3) % 7 + 1 := by
  rw [dayNum, getUTCDay]
  by_cases hsunday : (date / MS_PER_DAY + 4) % 7 = 0
  · rw [if_pos hsunday]
    omega
  · rw [if_neg hsunday]
    omega

theorem setUTCDate_add (n : ℤ) :
    setUTCDate date (getUTCDate date + n) = date + n * MS_PER_DAY := by
  rw [setUTCDate, add_sub_cancel_left]

theorem newYear_mul {year : ℤ} (h : 100 ≤ year) : dateUTC year 0 1 = newYear year * MS_PER_DAY := by
  rw [dateUTC, if_neg (by omega), newYear, add_sub_cancel_right]

/-- The date of an instant, put together again. -/
theorem dateUTC_fields (h : 100 ≤ getUTCFullYear date) :
    dateUTC (getUTCFullYear date) (getUTCMonth date) (getUTCDate date) =
      date / MS_PER_DAY * MS_PER_DAY := by
  have hmonth : getUTCMonth date + 1 = (civilFromDays (date / MS_PER_DAY)).month :=
    Nat.sub_add_cancel (month_pos _)
  rw [dateUTC, if_neg (by omega), hmonth, getUTCFullYear, getUTCDate, daysFromCivil_first,
    daysFromCivil_civilFromDays]

end Midnights

/-! ## The week of an instant -/

theorem ceil_weeks (k : ℤ) : ⌈((k : ℚ) + 1) / 7⌉ = k / 7 + 1 := by
  have hhigh : ((k + 1 : ℤ) : ℚ) ≤ ((k / 7 + 1) * 7 : ℤ) := by
    exact_mod_cast (by omega : k + 1 ≤ (k / 7 + 1) * 7)
  have hlow : ((k / 7 * 7 : ℤ) : ℚ) < (k + 1 : ℤ) := by
    exact_mod_cast (by omega : k / 7 * 7 < k + 1)
  push_cast at hhigh hlow
  rw [Int.ceil_eq_iff, lt_div_iff₀ (by norm_num), div_le_iff₀ (by norm_num)]
  push_cast
  constructor
  · linarith
  · exact hhigh

section Weeks

variable {date : ℤ}

/-- Midnight of the Monday of the week. -/
def monday (date : ℤ) : ℤ := (thursday (date / MS_PER_DAY) - 3) * MS_PER_DAY

/-- Years of three digits are no years of the twentieth century, up to the Thursday. -/
theorem hundred_le_weekYear (h : newYear 101 ≤ date / MS_PER_DAY) :
    100 ≤ weekYear (date / MS_PER_DAY) := by
  rw [weekYear, le_year_iff]
  have hstep : newYear 100 + 365 = newYear 101 := by decide
  simp only [thursday]
  omega

theorem getUTCDay_monday (date : ℤ) : getUTCDay (monday date) = 1 := by
  rw [getUTCDay, monday, mul_ediv_day, thursday]
  omega

theorem monday_eq_iff {date date' : ℤ} :
    monday date' = monday date ↔ monday date ≤ date' ∧ date' < monday date + 7 * MS_PER_DAY := by
  simp only [monday, thursday, MS_PER_DAY]
  omega

theorem monday_bounds (date : ℤ) : monday date ≤ date ∧ date < monday date + 7 * MS_PER_DAY :=
  monday_eq_iff.mp rfl

theorem getIsoWeekInfo_eq (h : newYear 101 ≤ date / MS_PER_DAY) :
    getIsoWeekInfo date =
      ⟨weekYear (date / MS_PER_DAY), weekNumber (date / MS_PER_DAY),
        monday date⟩ := by
  have hyear : 100 ≤ getUTCFullYear date := by
    rw [getUTCFullYear, le_year_iff]
    exact (newYear_mono (by decide)).trans h
  have hweekYear := hundred_le_weekYear h
  have hmidnight := dateUTC_fields date hyear
  have hcursor : setUTCDate (date / MS_PER_DAY * MS_PER_DAY)
      (getUTCDate (date / MS_PER_DAY * MS_PER_DAY) + 4 -
        dayNum (date / MS_PER_DAY * MS_PER_DAY)) =
      thursday (date / MS_PER_DAY) * MS_PER_DAY := by
    rw [add_sub_assoc, setUTCDate_add, dayNum_eq, mul_ediv_day, ← add_mul, thursday]
    congr 1
    omega
  have hyearOf : getUTCFullYear (thursday (date / MS_PER_DAY) * MS_PER_DAY) =
      weekYear (date / MS_PER_DAY) := by
    rw [getUTCFullYear, mul_ediv_day, weekYear]
  have hstart (T : ℤ) : setUTCDate (T * MS_PER_DAY)
      (getUTCDate (T * MS_PER_DAY) - dayNum (T * MS_PER_DAY) + 1) =
      (T - (T + 3) % 7) * MS_PER_DAY := by
    rw [sub_add, sub_eq_add_neg, setUTCDate_add, dayNum_eq, mul_ediv_day, ← add_mul]
    congr 1
    omega
  have hweek (k : ℤ) : ⌈(((k * MS_PER_DAY : ℤ) : ℚ) / MS_PER_DAY + 1) / 7⌉ = k / 7 + 1 := by
    have hday : (MS_PER_DAY : ℚ) ≠ 0 := by norm_num [MS_PER_DAY]
    rw [Int.cast_mul, mul_div_cancel_right₀ _ hday, ceil_weeks]
  simp only [getIsoWeekInfo, hmidnight, hcursor, hyearOf, newYear_mul hweekYear, hstart,
    ← sub_mul, hweek, weekNumber, IsoWeekInfo.mk.injEq, true_and]
  rw [monday, thursday]
  congr 1
  omega

end Weeks

/-! ## The key -/

theorem finiteNumber_of {s : String} {q : ℚ} (h : Json.stringToNumber s = .fin q) :
    finiteNumber (some s) = some q := by
  rw [finiteNumber, Option.bind_some, h]
  rfl

theorem split_key {year week : String} (hyear : '-' ∉ year.toList) (hweek : '-' ∉ week.toList) :
    split (year ++ "-" ++ week) '-' = [year, week] := by
  have hlist : (year ++ "-" ++ week).toList = year.toList ++ '-' :: week.toList := by simp
  rw [split, hlist, List.splitOn_append_cons_self_of_not_mem hyear,
    List.splitOn_eq_singleton hweek]
  simp

theorem truncate_intCast (n : ℤ) : truncate n = n := by
  simp [truncate]

theorem toString_natCast (n : ℕ) : toString (n : ℤ) = n.repr := by
  rw [Int.toString_eq_repr, Int.repr_eq_if, if_pos (by omega), Int.toNat_natCast]

/-- A key of a year and a week is read as the Monday of that week. -/
theorem deriveWeekStartFromKey_key (now : ℤ) {year week : ℕ} (hyear : 100 ≤ year)
    (hfirst : timeClip ((newYear year + 3) * MS_PER_DAY) = some ((newYear year + 3) * MS_PER_DAY)) :
    deriveWeekStartFromKey now
        (toString (year : ℤ) ++ "-" ++ padStart (toString (week : ℤ)) 2 '0') =
      timeClip (mondayOf year week * MS_PER_DAY) := by
  have hsplit : split (year.repr ++ "-" ++ padStart week.repr 2 '0') '-' =
      [year.repr, padStart week.repr 2 '0'] := by
    apply split_key (notMem_repr (by decide))
    intro h
    rcases mem_padStart h with h | h
    · exact absurd h (by decide)
    · exact notMem_repr (by decide) h
  have hfourth : dateUTC year 0 4 = (newYear year + 3) * MS_PER_DAY := by
    rw [dateUTC, if_neg (by omega), newYear, zero_add, add_sub_assoc]
    rfl
  have hmonday (J : ℤ) : getUTCDate (J * MS_PER_DAY) + 1 - dayNum (J * MS_PER_DAY) +
      ((week : ℤ) - 1) * 7 =
      getUTCDate (J * MS_PER_DAY) + (7 * (week - 1) - (J + 3) % 7) := by
    rw [dayNum_eq, mul_ediv_day]
    omega
  have hshift : (newYear year + 3) + (7 * ((week : ℤ) - 1) - (newYear year + 3 + 3) % 7) =
      mondayOf year week := by
    rw [mondayOf, add_assoc _ 3 3]
    omega
  have hcast (J : ℤ) : ((getUTCDate J : ℤ) : ℚ) + 1 - dayNum J + ((week : ℚ) - 1) * 7 =
      ((getUTCDate J + 1 - dayNum J + ((week : ℤ) - 1) * 7 : ℤ) : ℚ) := by
    push_cast
    ring
  simp only [deriveWeekStartFromKey, toString_natCast, hsplit, List.getElem?_cons_zero,
    List.getElem?_cons_succ, finiteNumber_of (Json.stringToNumber_repr year),
    finiteNumber_of (Json.stringToNumber_padStart week 2)]
  rw [← Int.cast_natCast year, truncate_intCast, hfourth, hfirst]
  simp only [Option.bind_eq_bind, Option.bind_some, hcast, truncate_intCast, hmonday,
    setUTCDate_add, ← add_mul, hshift]

section Keys

variable {date : ℤ}

theorem getIsoWeekKey_eq (h : newYear 101 ≤ date / MS_PER_DAY) :
    getIsoWeekKey none date = toString (weekYear (date / MS_PER_DAY)) ++ "-" ++
      padStart (toString (weekNumber (date / MS_PER_DAY))) 2 '0' := by
  rw [getIsoWeekKey, getIsoWeekInfo_eq h]
  rfl

/-- The key depends on the week alone. -/
theorem getIsoWeekKey_congr {date' : ℤ} (h : newYear 101 ≤ date / MS_PER_DAY)
    (h' : newYear 101 ≤ date' / MS_PER_DAY) (hmonday : monday date' = monday date) :
    getIsoWeekKey none date' = getIsoWeekKey none date := by
  have hthursday : thursday (date' / MS_PER_DAY) = thursday (date / MS_PER_DAY) := by
    have hday : (0 : ℤ) < MS_PER_DAY := by decide
    have hcancel := Int.eq_of_mul_eq_mul_right hday.ne' hmonday
    omega
  rw [getIsoWeekKey_eq h, getIsoWeekKey_eq h', weekYear, weekNumber, weekYear, hthursday,
    ← weekYear, ← weekNumber]

theorem timeClip_of_le {time : ℤ} (hlow : 0 ≤ time + MAX_TIME) (hhigh : time ≤ MAX_TIME) :
    timeClip time = some time := by
  rw [timeClip, if_pos (by omega)]

theorem newYear_weekYear_le (hmax : date ≤ MAX_TIME) :
    newYear (weekYear (date / MS_PER_DAY)) ≤ 100000003 := by
  have hspec := (newYear_civilFromDays (thursday (date / MS_PER_DAY))).1
  rw [← weekYear] at hspec
  simp only [thursday, MAX_TIME, MS_PER_DAY] at *
  omega

/-- The fourth of January is a `Date` in every year that has begun by then. -/
theorem timeClip_newYear {year : ℤ} (hyear : 100 ≤ year) (hmax : newYear year ≤ 100000003) :
    timeClip ((newYear year + 3) * MS_PER_DAY) = some ((newYear year + 3) * MS_PER_DAY) := by
  rw [newYear_eq] at *
  apply timeClip_of_le
  · simp only [MAX_TIME, MS_PER_DAY]
    omega
  · simp only [MAX_TIME, MS_PER_DAY]
    omega

theorem deriveWeekStartFromKey_getIsoWeekKey (now : ℤ) (h : newYear 101 ≤ date / MS_PER_DAY)
    (hmax : date ≤ MAX_TIME) :
    deriveWeekStartFromKey now (getIsoWeekKey none date) = some (monday date) := by
  have hyear := hundred_le_weekYear h
  have hweek := one_le_weekNumber (date / MS_PER_DAY)
  have hmonday := mondayOf_weekNumber (date / MS_PER_DAY)
  have hfirst := timeClip_newYear hyear (newYear_weekYear_le hmax)
  have hclip : timeClip (monday date) = some (monday date) := by
    have hown := monday_bounds date
    have hcentury : newYear 101 = -682638 := by decide
    apply timeClip_of_le
    · simp only [MAX_TIME, MS_PER_DAY] at *
      omega
    · exact hown.1.trans hmax
  obtain ⟨year, hyearEq⟩ := Int.eq_ofNat_of_zero_le (by omega : 0 ≤ weekYear (date / MS_PER_DAY))
  obtain ⟨week, hweekEq⟩ := Int.eq_ofNat_of_zero_le (by omega : 0 ≤ weekNumber (date / MS_PER_DAY))
  rw [hyearEq] at hyear hfirst
  rw [hyearEq, hweekEq] at hmonday
  rw [getIsoWeekKey_eq h, hyearEq, hweekEq, deriveWeekStartFromKey_key now (by omega) hfirst,
    hmonday]
  exact hclip

end Keys

theorem newYear_le_of_year {date : ℤ} (h : 1000 ≤ getUTCFullYear date) :
    newYear 101 + 7 ≤ date / MS_PER_DAY := by
  have hyear : newYear 1000 ≤ date / MS_PER_DAY := le_year_iff.mp h
  have hlong : newYear 101 + 7 ≤ newYear 1000 := by decide
  omega

/-- Keys and Mondays determine each other, from the year 1000 to the last instant of a `Date`. -/
theorem isoWeekKey_weekStart (now : ℤ) {date : ℤ} (hyear : 1000 ≤ getUTCFullYear date)
    (hmax : date ≤ MAX_TIME) :
    ∃ m, deriveWeekStartFromKey now (getIsoWeekKey none date) = some m ∧
      m = (getIsoWeekInfo date).weekStart ∧ m % MS_PER_DAY = 0 ∧ getUTCDay m = 1 ∧
      m ≤ date ∧ date < m + 7 * MS_PER_DAY ∧
      (∀ date', m ≤ date' → date' < m + 7 * MS_PER_DAY →
        getIsoWeekKey none date' = getIsoWeekKey none date) ∧
      ∀ date', 1000 ≤ getUTCFullYear date' → date' ≤ MAX_TIME →
        (getIsoWeekInfo date').weekStart ≠ m →
          getIsoWeekKey none date' ≠ getIsoWeekKey none date := by
  have hday := newYear_le_of_year hyear
  have hown := monday_bounds date
  have hderive := deriveWeekStartFromKey_getIsoWeekKey now (by omega) hmax
  refine ⟨monday date, hderive, ?_, Int.mul_emod_left _ _, getUTCDay_monday date, hown.1, hown.2,
    ?_, ?_⟩
  · rw [getIsoWeekInfo_eq (by omega)]
  · intro date' hle hlt
    apply getIsoWeekKey_congr (by omega) ?_ (monday_eq_iff.mpr ⟨hle, hlt⟩)
    simp only [MS_PER_DAY] at *
    omega
  · intro date' hyear' hmax' hne hkey
    have hday' := newYear_le_of_year hyear'
    have hderive' := deriveWeekStartFromKey_getIsoWeekKey now (by omega) hmax'
    rw [hkey, hderive] at hderive'
    rw [getIsoWeekInfo_eq (by omega)] at hne
    exact hne (Option.some_injective _ hderive').symm

/-- New Year's Day of 2021 lies in the 53rd week of 2020. -/
theorem isoWeekKey_weekStart_newYear :
    ∃ m, deriveWeekStartFromKey 0 (getIsoWeekKey none 1609502400000) = some m ∧
      m ≤ 1609502400000 ∧ 1609502400000 < m + 7 * MS_PER_DAY := by
  obtain ⟨m, hm, -, -, -, hle, hlt, -⟩ :=
    isoWeekKey_weekStart 0 (by decide : 1000 ≤ getUTCFullYear 1609502400000) (by decide)
  exact ⟨m, hm, hle, hlt⟩

end Aegis.DynamicQCommerce
