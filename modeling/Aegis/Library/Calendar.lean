import Mathlib.Data.Int.Basic
import Mathlib.Tactic.Ring

/-! # The proleptic Gregorian calendar

Days are counted from 1970-01-01. A year is taken to begin in March, so that the leap
day is its last one and every month offset is a linear function of the month. -/

namespace Aegis.Calendar

@[ext]
structure CivilDate where
  year : ℤ
  month : ℕ
  day : ℕ
  deriving DecidableEq, Repr

/-- Days in a 400-year cycle. -/
def cycle : ℤ := 146097

/-- The day of the cycle at which its March-based year `yoe` begins. -/
def yearStart (yoe : ℤ) : ℤ := 365 * yoe + yoe / 4 - yoe / 100

/-- The year of the cycle that contains its day `doe`: whole centuries, then leap
periods, then years, the last of each absorbing its leap day. -/
def yearOfCycle (doe : ℤ) : ℤ :=
  let century := min (doe / 36524) 3
  let doc := doe - 36524 * century
  let doq := doc % 1461
  100 * century + 4 * (doc / 1461) + min (doq / 365) 3

/-- The date of day `doy` of the March-based year `yoe` of cycle `era`. -/
def dateOf (era yoe doy : ℤ) : CivilDate :=
  let mp := (5 * doy + 2) / 153
  let month := if mp < 10 then mp + 3 else mp - 9
  { year := yoe + 400 * era + if month ≤ 2 then 1 else 0
    month := month.toNat
    day := (doy - (153 * mp + 2) / 5 + 1).toNat }

def civilFromDays (days : ℤ) : CivilDate :=
  let z := days + 719468
  let doe := z % cycle
  let yoe := yearOfCycle doe
  dateOf (z / cycle) yoe (doe - yearStart yoe)

def daysFromCivil (date : CivilDate) : ℤ :=
  let y := if date.month ≤ 2 then date.year - 1 else date.year
  let yoe := y % 400
  let mp : ℤ := if date.month ≤ 2 then date.month + 9 else date.month - 3
  let doy := (153 * mp + 2) / 5 + date.day - 1
  cycle * (y / 400) + yearStart yoe + doy - 719468

theorem yearStart_eq {century quad y : ℤ} (hquad : 0 ≤ quad ∧ quad < 25) (hy : 0 ≤ y ∧ y < 4) :
    yearStart (100 * century + 4 * quad + y) = 36524 * century + 1461 * quad + 365 * y := by
  have hleap : (100 * century + 4 * quad + y) / 4 = 25 * century + quad := by omega
  have hskip : (100 * century + 4 * quad + y) / 100 = century := by omega
  rw [yearStart, hleap, hskip]
  ring

/-- A day of the cycle lies in the year that `yearOfCycle` assigns to it. -/
theorem yearOfCycle_spec {doe : ℤ} (h0 : 0 ≤ doe) (h1 : doe < cycle) :
    (0 ≤ yearOfCycle doe ∧ yearOfCycle doe < 400) ∧
      yearStart (yearOfCycle doe) ≤ doe ∧ doe < yearStart (yearOfCycle doe) + 366 := by
  simp only [cycle] at h1
  simp only [yearOfCycle]
  generalize hcentury : min (doe / 36524) 3 = century
  have hc : 0 ≤ century ∧ century ≤ 3 ∧ 36524 * century ≤ doe ∧
      doe - 36524 * century < 36525 := by omega
  generalize hdoc : doe - 36524 * century = doc
  generalize hy : min (doc % 1461 / 365) 3 = y
  have hquad : 0 ≤ doc / 1461 ∧ doc / 1461 < 25 := by omega
  have hy4 : 0 ≤ y ∧ y < 4 := by omega
  rw [yearStart_eq hquad hy4]
  omega

theorem daysFromCivil_dateOf {era yoe doy : ℤ} (hyoe : 0 ≤ yoe ∧ yoe < 400)
    (hdoy : 0 ≤ doy ∧ doy < 366) :
    daysFromCivil (dateOf era yoe doy) = cycle * era + yearStart yoe + doy - 719468 := by
  have hmp12 : 0 ≤ (5 * doy + 2) / 153 ∧ (5 * doy + 2) / 153 < 12 := by omega
  have hera : (yoe + 400 * era) / 400 = era := by omega
  have hmod : (yoe + 400 * era) % 400 = yoe := by omega
  by_cases hm : (5 * doy + 2) / 153 < 10
  · have hmonth : ¬ ((5 * doy + 2) / 153 + 3).toNat ≤ 2 := by omega
    have hmonth' : ¬ (5 * doy + 2) / 153 + 3 ≤ 2 := by omega
    simp only [dateOf, daysFromCivil, hm, if_true, hmonth, hmonth', if_false, add_zero, hera,
      hmod]
    omega
  · have hmonth : ((5 * doy + 2) / 153 - 9).toNat ≤ 2 := by omega
    have hmonth' : (5 * doy + 2) / 153 - 9 ≤ 2 := by omega
    simp only [dateOf, daysFromCivil, hm, if_false, hmonth, hmonth', if_true,
      add_sub_cancel_right, hera, hmod]
    omega

/-- A date determines the day it was computed from. -/
theorem daysFromCivil_civilFromDays (days : ℤ) : daysFromCivil (civilFromDays days) = days := by
  obtain ⟨hyoe, hstart⟩ := yearOfCycle_spec (Int.emod_nonneg (days + 719468) (by decide))
    (Int.emod_lt_of_pos (days + 719468) (by decide : 0 < cycle))
  have hdiv := Int.mul_ediv_add_emod (days + 719468) cycle
  rw [civilFromDays, daysFromCivil_dateOf hyoe (by omega)]
  omega

theorem month_pos (days : ℤ) : 0 < (civilFromDays days).month := by
  obtain ⟨-, hstart⟩ := yearOfCycle_spec (Int.emod_nonneg (days + 719468) (by decide))
    (Int.emod_lt_of_pos (days + 719468) (by decide : 0 < cycle))
  simp only [civilFromDays, dateOf]
  split <;> omega

/-- The days of a month are consecutive. -/
theorem daysFromCivil_first (date : CivilDate) :
    daysFromCivil ⟨date.year, date.month, 1⟩ + date.day - 1 = daysFromCivil date := by
  simp only [daysFromCivil]
  omega

/-! ## New year -/

/-- The first of January. -/
def newYear (year : ℤ) : ℤ := daysFromCivil ⟨year, 1, 1⟩

theorem newYear_eq (year : ℤ) :
    newYear year =
      365 * (year - 1) + (year - 1) / 4 - (year - 1) / 100 + (year - 1) / 400 - 719162 := by
  simp only [newYear, daysFromCivil, cycle, yearStart]
  omega

theorem newYear_mono {y y' : ℤ} (h : y ≤ y') : newYear y ≤ newYear y' := by
  rw [newYear_eq, newYear_eq]
  omega

theorem yearStart_add (era yoe : ℤ) (hyoe : 0 ≤ yoe ∧ yoe < 400) :
    cycle * era + yearStart yoe =
      365 * (yoe + 400 * era) + (yoe + 400 * era) / 4 - (yoe + 400 * era) / 100 +
        (yoe + 400 * era) / 400 := by
  simp only [cycle, yearStart]
  omega

/-- A day of the March-based year `yoe` lies in the calendar year of its date. -/
theorem newYear_dateOf (era : ℤ) {yoe doy : ℤ} (hyoe : 0 ≤ yoe ∧ yoe < 400)
    (hdoy : 0 ≤ doy ∧ doy < 366) :
    newYear (dateOf era yoe doy).year ≤ cycle * era + yearStart yoe + doy - 719468 ∧
      cycle * era + yearStart yoe + doy - 719468 < newYear ((dateOf era yoe doy).year + 1) := by
  rw [yearStart_add era yoe hyoe, newYear_eq, newYear_eq]
  by_cases hm : (5 * doy + 2) / 153 < 10
  · have hmonth : ¬ ((5 * doy + 2) / 153 + 3).toNat ≤ 2 := by omega
    simp only [dateOf, hm, if_true]
    rw [if_neg (by omega)]
    omega
  · simp only [dateOf, hm, if_false]
    rw [if_pos (by omega)]
    omega

/-- A day lies between the new year of its year and the next one. -/
theorem newYear_civilFromDays (days : ℤ) :
    newYear (civilFromDays days).year ≤ days ∧ days < newYear ((civilFromDays days).year + 1) := by
  obtain ⟨hyoe, hstart⟩ := yearOfCycle_spec (Int.emod_nonneg (days + 719468) (by decide))
    (Int.emod_lt_of_pos (days + 719468) (by decide : 0 < cycle))
  have hdiv := Int.mul_ediv_add_emod (days + 719468) cycle
  have hdoy : 0 ≤ (days + 719468) % cycle - yearStart (yearOfCycle ((days + 719468) % cycle)) ∧
      (days + 719468) % cycle - yearStart (yearOfCycle ((days + 719468) % cycle)) < 366 := by
    omega
  have hday := newYear_dateOf ((days + 719468) / cycle) hyoe hdoy
  rw [civilFromDays]
  omega

theorem le_year_iff {year days : ℤ} : year ≤ (civilFromDays days).year ↔ newYear year ≤ days := by
  have hspec := newYear_civilFromDays days
  constructor
  · intro h
    exact (newYear_mono h).trans hspec.1
  · intro h
    by_contra hlt
    have hnext := newYear_mono (show (civilFromDays days).year + 1 ≤ year by omega)
    omega

/-! ## Weeks -/

/-- The Thursday of the week, from Monday on, of a day. -/
def thursday (days : ℤ) : ℤ := days + 3 - (days + 3) % 7

/-- The year in which a week has its Thursday. -/
def weekYear (days : ℤ) : ℤ := (civilFromDays (thursday days)).year

/-- The number of a week: 1 for the week of the first Thursday of the year. -/
def weekNumber (days : ℤ) : ℤ := (thursday days - newYear (weekYear days)) / 7 + 1

theorem one_le_weekNumber (days : ℤ) : 1 ≤ weekNumber days := by
  have hspec := (newYear_civilFromDays (thursday days)).1
  rw [weekNumber, weekYear]
  omega

/-- The Monday of a numbered week: the fourth of January is in week 1. -/
def mondayOf (year week : ℤ) : ℤ :=
  newYear year + 3 - (newYear year + 6) % 7 + 7 * (week - 1)

theorem mondayOf_weekNumber (days : ℤ) :
    mondayOf (weekYear days) (weekNumber days) = thursday days - 3 := by
  simp only [mondayOf, weekNumber, thursday]
  omega

example : (weekYear 18627, weekNumber 18627) = (2020, 53) := by decide

example : civilFromDays 0 = ⟨1970, 1, 1⟩ := by decide
example : civilFromDays 19782 = ⟨2024, 2, 29⟩ := by decide

end Aegis.Calendar
