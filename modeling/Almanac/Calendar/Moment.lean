/-
This file defines moments: a date and a time of day on the clock of a place,
with the offset of that clock if it is known. Moments whose clocks have offsets
are compared as places on one time line.
-/

import Almanac.Calendar.Date

namespace Almanac

/-- The number of microseconds in a day. -/
def microsecondsPerDay : Nat := 86400000000

/-- How far a clock is ahead of the common time line, in microseconds; less than a day either way. -/
structure Offset where
  microseconds : Int
  above : -86400000000 < microseconds
  below : microseconds < 86400000000
deriving DecidableEq

/-- The offset of a number of microseconds, if it is less than a day. -/
def Offset.ofMicroseconds? (microseconds : Int) : Option Offset :=
  if within : -86400000000 < microseconds ∧ microseconds < 86400000000 then
    some ⟨microseconds, within.1, within.2⟩
  else
    none

/-- A moment as a clock shows it. -/
structure Moment where
  date : Date
  /-- The microseconds since the start of the date. -/
  microsecond : Nat
  microsecond_lt : microsecond < microsecondsPerDay
  /-- The offset of the clock; `none` if the clock has none. -/
  offset : Option Offset
deriving DecidableEq

namespace Moment

/-! ### The two ends of a day -/

/-- The first moment of a date. -/
def atStart (date : Date) (offset : Option Offset) : Moment := ⟨date, 0, by decide, offset⟩

/-- The last moment of a date. -/
def atEnd (date : Date) (offset : Option Offset) : Moment :=
  ⟨date, microsecondsPerDay - 1, by decide, offset⟩

def startOfDay (moment : Moment) : Moment := atStart moment.date moment.offset

def endOfDay (moment : Moment) : Moment := atEnd moment.date moment.offset

/-! ### The time line -/

/-- The microseconds that the clock has counted. -/
def clock (moment : Moment) : Int :=
  moment.date.ordinal * microsecondsPerDay + moment.microsecond

/-- The place of a moment on the time line, in microseconds. A clock without offset counts as one
with offset zero; such moments are compared among themselves only. -/
def position (moment : Moment) : Int :=
  match moment.offset with
  | some offset => moment.clock - offset.microseconds
  | none => moment.clock

/-- Whether two moments can be compared: both clocks have an offset, or neither has. -/
def Comparable (first second : Moment) : Prop := first.offset.isSome = second.offset.isSome

instance (first second : Moment) : Decidable (Comparable first second) :=
  inferInstanceAs (Decidable (first.offset.isSome = second.offset.isSome))

theorem rest_of_day_lt (microseconds : Int) :
    (microseconds % microsecondsPerDay).toNat < microsecondsPerDay := by
  unfold microsecondsPerDay
  omega

/-- The moment that the clock shows a number of microseconds later, or earlier if the number is
negative. -/
def shift (moment : Moment) (microseconds : Int) : Except CalendarError Moment :=
  let clock := moment.clock + microseconds
  match Date.ofOrdinal? (clock / microsecondsPerDay) with
  | some date =>
    .ok ⟨date, (clock % microsecondsPerDay).toNat, rest_of_day_lt clock, moment.offset⟩
  | none => .error .outsideCalendar

/-- The number of microseconds in whole days, of which a length of time holds at most 999999999. -/
def wholeDays (days : Int) : Except CalendarError Int :=
  if days.natAbs ≤ 999999999 then .ok (days * microsecondsPerDay) else .error .outsideCalendar

/-- The moment that the clock shows a number of whole days later, or earlier if the number is
negative. -/
def shiftDays (moment : Moment) (days : Int) : Except CalendarError Moment := do
  moment.shift (← wholeDays days)

/-! ### The time of day -/

def hour (moment : Moment) : Nat := moment.microsecond / 3600000000

def minute (moment : Moment) : Nat := moment.microsecond / 60000000 % 60

def second (moment : Moment) : Nat := moment.microsecond / 1000000 % 60

/-- The microseconds since the last full second. -/
def fraction (moment : Moment) : Nat := moment.microsecond % 1000000

end Moment

end Almanac
