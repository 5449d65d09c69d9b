/-
This file defines periods: closed intervals of moments. A run of dates becomes a
period once a clock is chosen, from the first moment of its first date to the
last moment of its last one. The periods that have a name are found by counting
whole days from a moment and going from there to the end of a day; the two
bounds that are found that way have to pass the check of every period.
-/

import Almanac.Calendar.Days
import Almanac.Calendar.Moment

namespace Almanac

/-- A period of time that holds both its bounds. -/
structure Period where
  start : Moment
  finish : Moment
  comparable : start.Comparable finish
  ordered : start.position ≤ finish.position
deriving DecidableEq

/-- A length of time. -/
structure Duration where
  days : Nat
  seconds : Nat
  microseconds : Nat
deriving DecidableEq, Repr

/-- The length of a number of microseconds. -/
def Duration.ofMicroseconds (microseconds : Nat) : Duration where
  days := microseconds / microsecondsPerDay
  seconds := microseconds % microsecondsPerDay / 1000000
  microseconds := microseconds % 1000000

namespace Period

/-- The period between two moments. -/
def between (start finish : Moment) : Except BoundsError Period :=
  if comparable : start.Comparable finish then
    if ordered : start.position ≤ finish.position then
      .ok ⟨start, finish, comparable, ordered⟩
    else
      .error .reversed
  else
    .error .mixedOffsets

/-- The number of microseconds from the start to the end. -/
def length (period : Period) : Nat := (period.finish.position - period.start.position).toNat

def duration (period : Period) : Duration := .ofMicroseconds period.length

/-- Whether a moment lies in a period. -/
def contains (period : Period) (moment : Moment) : Except BoundsError Bool :=
  if period.start.Comparable moment then
    .ok (period.start.position ≤ moment.position && moment.position ≤ period.finish.position)
  else
    .error .mixedOffsets

end Period

/-- The period of a run of dates on a clock. -/
def Days.toPeriod (days : Days) (offset : Option Offset) : Period where
  start := Moment.atStart days.first offset
  finish := Moment.atEnd days.last offset
  comparable := rfl
  ordered := by
    have ordered : days.first.ordinal ≤ days.last.ordinal := days.first_le_last
    cases offset <;>
      simp only [Moment.position, Moment.clock, Moment.atStart, Moment.atEnd,
        microsecondsPerDay] <;>
      omega

/-- The dates that a period touches on the clocks of its bounds. -/
def Period.days? (period : Period) : Option Days :=
  Days.between? period.start.date period.finish.date

/-- The period between two moments that a question about the calendar found. -/
def Period.fromTo (start finish : Moment) : Except CalendarError Period :=
  (between start finish).mapError .bounds

/-! ### Periods around a moment -/

namespace Moment

/-- The day of a moment. -/
def day (moment : Moment) : Except CalendarError Period :=
  Period.fromTo moment.startOfDay moment.endOfDay

/-- The first moment of the week of a moment. -/
def startOfWeek (moment : Moment) (firstDay : FirstDay) : Except CalendarError Moment :=
  moment.startOfDay.shiftDays (-(moment.date.daysIntoWeek firstDay : Int))

/-- The last moment of the week of a moment. -/
def endOfWeek (moment : Moment) (firstDay : FirstDay) : Except CalendarError Moment := do
  let start ← moment.startOfWeek firstDay
  return (← start.shiftDays 6).endOfDay

/-- The week of a moment. -/
def week (moment : Moment) (firstDay : FirstDay) : Except CalendarError Period := do
  Period.fromTo (← moment.startOfWeek firstDay) (← moment.endOfWeek firstDay)

/-- The last `count` days up to a moment, whose day is one of them. -/
def lastDays (moment : Moment) (count : Int) : Except CalendarError Period := do
  if count < 1 then
    throw (.daysNotPositive count)
  let first ← moment.shiftDays (-(count - 1))
  Period.fromTo first.startOfDay moment.endOfDay

end Moment

/-! ### Periods with a number -/

/-- The first moment of week 1 of a year, on a clock: the start of the week that holds January 1, or
of the next one if that is in the year before. -/
def Moment.startOfFirstWeek (year : Year) (firstDay : FirstDay) (offset : Option Offset) :
    Except CalendarError Moment := do
  let anchor ← (atStart (.newYear year) offset).startOfWeek firstDay
  if anchor.date.yearNumber < year.number then anchor.shiftDays 7 else pure anchor

/-- The week of a year with a number, on a clock. -/
def Period.numberedWeek (year week : Int) (firstDay : FirstDay) (offset : Option Offset) :
    Except CalendarError Period := do
  if 1 ≤ week ∧ week ≤ 53 then
    let anchor ← Moment.startOfFirstWeek (← Year.ofCaller year) firstDay offset
    let start ← anchor.shiftDays (7 * (week - 1))
    fromTo start (← start.endOfWeek firstDay)
  else
    throw (.weekOutOfRange week)

/-- The start of the last day of a month, on a clock: one day before the next month starts, save that
the year ends with December. -/
def Moment.startOfLastDay (year : Year) (month : Month) (offset : Option Offset) :
    Except CalendarError Moment :=
  match Month.ofNumber? (month.number + 1) with
  | some next => (atStart (.firstOfMonth year next) offset).shiftDays (-1)
  | none => .ok (atStart (.lastOfMonth year month) offset)

/-- The month of a year with a number, on a clock. -/
def Period.numberedMonth (year number : Int) (offset : Option Offset) :
    Except CalendarError Period := do
  if !fitsWord number then
    throw .outsideCalendar
  let year ← Year.ofCaller year
  match Month.ofNumber? number with
  | some month =>
    let lastDay ← Moment.startOfLastDay year month offset
    fromTo (.atStart (.firstOfMonth year month) offset) lastDay.endOfDay
  | none => throw .monthOutOfRange

end Almanac
