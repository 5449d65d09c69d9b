/-
This file defines the runs of dates that questions about weeks, months and last days come
down to. The questions count from moments; here they are asked of dates, with the same
detours and the same causes of failure but without clocks.
-/

import Almanac.Calendar.Days

namespace Almanac

/-! ### Runs of a length -/

namespace Days

/-- The run of a date and `more` dates after it. -/
def startingAt (first : Date) (more : Nat) : Except CalendarError Days :=
  if within : first.ordinal + more ≤ lastOrdinal then
    .ok ⟨first, ⟨first.ordinal + more, Nat.le_add_right_of_le first.one_le, within⟩,
      Nat.le_add_right _ _⟩
  else
    .error .outsideCalendar

/-- The run of a date and `more` dates before it. -/
def endingAt (last : Date) (more : Nat) : Except CalendarError Days :=
  if within : more < last.ordinal then
    .ok ⟨⟨last.ordinal - more, Nat.sub_pos_of_lt within,
      Nat.le_trans (Nat.sub_le _ _) last.le_last⟩, last, Nat.sub_le _ _⟩
  else
    .error .outsideCalendar

end Days

/-! ### Weeks -/

/-- The first date of the week of a date. -/
def Date.weekStart (date : Date) (firstDay : FirstDay) : Except CalendarError Date :=
  date.shift (-(date.daysIntoWeek firstDay : Int))

namespace Days

/-- The week that holds a date. -/
def week (date : Date) (firstDay : FirstDay) : Except CalendarError Days := do
  startingAt (← date.weekStart firstDay) 6

/-- The first date of week 1 of a year: the first one on or after January 1 that starts a week. It
is found from the week that holds January 1, which has to start inside the calendar. -/
def firstWeekStart (year : Year) (firstDay : FirstDay) : Except CalendarError Date := do
  let start ← (Date.newYear year).weekStart firstDay
  if start.yearNumber < year.number then start.shift 7 else pure start

/-- The week of a year with a number. Week 1 is the first whole week that starts in the year. -/
def numberedWeek (year week : Int) (firstDay : FirstDay) : Except CalendarError Days := do
  if 1 ≤ week ∧ week ≤ 53 then
    let start ← firstWeekStart (← Year.ofCaller year) firstDay
    startingAt (← start.shift (7 * (week - 1))) 6
  else
    throw (.weekOutOfRange week)

/-! ### Months and last days -/

theorem firstOfMonth_le_lastOfMonth (year : Year) (month : Month) :
    Date.firstOfMonth year month ≤ Date.lastOfMonth year month :=
  Nat.add_le_add_left (month.one_le_length year.isLeap) _

/-- The dates of a month. -/
def month (year : Year) (month : Month) : Days :=
  ⟨Date.firstOfMonth year month, Date.lastOfMonth year month, firstOfMonth_le_lastOfMonth year month⟩

/-- The dates of a month that is given by its number. -/
def numberedMonth (year number : Int) : Except CalendarError Days := do
  if !fitsWord number then
    throw .outsideCalendar
  let year ← Year.ofCaller year
  match Month.ofNumber? number with
  | some found => pure (month year found)
  | none => throw .monthOutOfRange

/-- The last `count` dates up to a date, which is one of them. -/
def lastDays (date : Date) (count : Int) : Except CalendarError Days :=
  if count < 1 then
    .error (.daysNotPositive count)
  else
    endingAt date (count - 1).toNat

end Days

end Almanac
