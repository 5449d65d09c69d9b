/-
This file defines the dates of the Gregorian calendar from 0001-01-01 to
9999-12-31. A date is its place in the count of days, 0001-01-01 being day 1;
year, month and day of the month are read off that count, and a valid triple of
the three is counted back to its date.
-/

import Almanac.Calendar.Error
import Almanac.Calendar.Month

namespace Almanac

/-! ### Years -/

/-- The leap years: every fourth year, save the hundredth ones that are no four-hundredth. -/
def isLeapYear (year : Nat) : Bool :=
  year % 4 = 0 && (year % 100 ≠ 0 || year % 400 = 0)

/-- The number of days from the start of year 1 to the start of a year. -/
def daysBeforeYear (year : Nat) : Nat :=
  365 * (year - 1) + (year - 1) / 4 - (year - 1) / 100 + (year - 1) / 400

/-- The last year of the calendar. -/
def lastYear : Nat := 9999

/-- A year of the calendar. -/
structure Year where
  number : Nat
  one_le : 1 ≤ number
  le_last : number ≤ lastYear
deriving DecidableEq

namespace Year

def isLeap (year : Year) : Bool := isLeapYear year.number

/-- The year with a number, if the calendar has it. -/
def ofNumber? (number : Int) : Option Year :=
  if within : 1 ≤ number ∧ number ≤ lastYear then
    some ⟨number.toNat, by omega, by omega⟩
  else
    none

/-- The year with a number that a caller gives. Such numbers are held in words, so one that is too
wide for a word lies outside the calendar before it is compared with its years. -/
def ofCaller (number : Int) : Except CalendarError Year :=
  if fitsWord number then
    match ofNumber? number with
    | some year => .ok year
    | none => .error (.yearOutOfRange number)
  else
    .error .outsideCalendar

end Year

/-! ### Dates -/

/-- The place of the last date, 9999-12-31, in the count of days. -/
def lastOrdinal : Nat := 3652059

/-- A date between 0001-01-01 and 9999-12-31, as its place in the count of days. -/
structure Date where
  ordinal : Nat
  one_le : 1 ≤ ordinal
  le_last : ordinal ≤ lastOrdinal
deriving DecidableEq

namespace Date

@[ext]
theorem ext {first second : Date} (same : first.ordinal = second.ordinal) : first = second := by
  cases first
  cases second
  cases same
  rfl

instance : LE Date := ⟨fun first second => first.ordinal ≤ second.ordinal⟩

instance (first second : Date) : Decidable (first ≤ second) :=
  inferInstanceAs (Decidable (first.ordinal ≤ second.ordinal))

/-- The date at a place in the count of days, if the calendar reaches there. -/
def ofOrdinal? (ordinal : Int) : Option Date :=
  if within : 1 ≤ ordinal ∧ ordinal ≤ lastOrdinal then
    some ⟨ordinal.toNat, by omega, by omega⟩
  else
    none

/-- The date a number of days later, or earlier if the number is negative. -/
def shift (date : Date) (days : Int) : Except CalendarError Date :=
  match ofOrdinal? (date.ordinal + days) with
  | some shifted => .ok shifted
  | none => .error .outsideCalendar

/-- The year of a date. Four hundred years have 146097 days, so an even spread of the days over
the years is never too late and at most one year too early. -/
def yearNumber (date : Date) : Nat :=
  let elapsed := date.ordinal - 1
  let guess := elapsed * 400 / 146097 + 1
  if daysBeforeYear (guess + 1) ≤ elapsed then guess + 1 else guess

theorem daysBeforeYear_yearNumber_lt (date : Date) :
    daysBeforeYear date.yearNumber < date.ordinal := by
  have positive := date.one_le
  have bounded := date.le_last
  unfold yearNumber
  dsimp only
  split
  · omega
  · simp only [daysBeforeYear, lastOrdinal] at *
    omega

theorem ordinal_le_daysBeforeYear_succ (date : Date) :
    date.ordinal ≤ daysBeforeYear (date.yearNumber + 1) := by
  have positive := date.one_le
  have bounded := date.le_last
  unfold yearNumber
  dsimp only
  split
  · simp only [daysBeforeYear, lastOrdinal] at *
    omega
  · omega

theorem one_le_yearNumber (date : Date) : 1 ≤ date.yearNumber := by
  unfold yearNumber
  dsimp only
  split <;> omega

theorem yearNumber_le_last (date : Date) : date.yearNumber ≤ lastYear := by
  have reached := date.daysBeforeYear_yearNumber_lt
  have bound := date.le_last
  simp only [daysBeforeYear, lastOrdinal, lastYear] at *
  omega

/-- The year of a date. -/
def year (date : Date) : Year :=
  ⟨date.yearNumber, date.one_le_yearNumber, date.yearNumber_le_last⟩

/-- The place of a date in its year, the first of January being 1. -/
def dayOfYear (date : Date) : Nat :=
  date.ordinal - daysBeforeYear date.yearNumber

/-- The month of a date: the first one that does not end before it. -/
def month (date : Date) : Month :=
  let leap := date.year.isLeap
  (Month.all.find? fun month =>
    date.dayOfYear ≤ month.daysBefore leap + month.length leap).getD .december

/-- The day of the month of a date. -/
def day (date : Date) : Nat :=
  date.dayOfYear - date.month.daysBefore date.year.isLeap

/-- The weekday of a date, Sunday being 0: day 1 of the count is a Monday. -/
def weekday (date : Date) : Nat := date.ordinal % 7

/-! ### From year, month and day -/

theorem daysBeforeYear_add_le (year : Year) :
    daysBeforeYear year.number + (if year.isLeap then 366 else 365) ≤ lastOrdinal := by
  have positive := year.one_le
  have bounded := year.le_last
  simp only [Year.isLeap, isLeapYear, daysBeforeYear, lastYear, lastOrdinal, Bool.and_eq_true,
    Bool.or_eq_true, decide_eq_true_eq] at *
  split <;> omega

/-- The first day of a month. -/
def firstOfMonth (year : Year) (month : Month) : Date where
  ordinal := daysBeforeYear year.number + month.daysBefore year.isLeap + 1
  one_le := by omega
  le_last := by
    have yearEnd := daysBeforeYear_add_le year
    have monthEnd := month.daysBefore_add_length_le year.isLeap
    have length := month.one_le_length year.isLeap
    omega

/-- The last day of a month. -/
def lastOfMonth (year : Year) (month : Month) : Date where
  ordinal := daysBeforeYear year.number + month.daysBefore year.isLeap + month.length year.isLeap
  one_le := by
    have length := month.one_le_length year.isLeap
    omega
  le_last := by
    have yearEnd := daysBeforeYear_add_le year
    have monthEnd := month.daysBefore_add_length_le year.isLeap
    omega

/-- The first of January of a year. -/
def newYear (year : Year) : Date := firstOfMonth year .january

/-- The date with a year, a month and a day of the month, each given by its number. -/
def ofNumbers? (year month day : Nat) : Option Date := do
  let year ← Year.ofNumber? year
  let month ← Month.ofNumber? month
  if 1 ≤ day ∧ day ≤ month.length year.isLeap then
    ofOrdinal? (daysBeforeYear year.number + month.daysBefore year.isLeap + day : Nat)
  else
    none

end Date

end Almanac
