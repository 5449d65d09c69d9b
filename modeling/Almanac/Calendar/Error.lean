/-
This file lists the causes for which two moments bound no period and those for
which a question about the calendar has no answer, with the wording of each.
-/

namespace Almanac

/-- A cause for which two moments do not bound a period, or cannot be compared with it. -/
inductive BoundsError where
  /-- One clock has an offset and the other has none. -/
  | mixedOffsets
  /-- The start is later than the end. -/
  | reversed
deriving DecidableEq, Repr

/-- The wording of a cause. -/
def BoundsError.message : BoundsError → String
  | mixedOffsets => "can't compare offset-naive and offset-aware datetimes"
  | reversed => "start must be <= end"

/-- A cause for which a question about the calendar has no answer. -/
inductive CalendarError where
  /-- The week number is not in 1..53. -/
  | weekOutOfRange (week : Int)
  /-- The calendar has no such year. -/
  | yearOutOfRange (year : Int)
  /-- The month number is not in 1..12. -/
  | monthOutOfRange
  /-- The number of days is not positive. -/
  | daysNotPositive (days : Int)
  /-- The answer would lie outside the calendar, or an argument is too wide for a word. -/
  | outsideCalendar
  /-- The moments found do not bound a period. -/
  | bounds (error : BoundsError)
deriving DecidableEq, Repr

/-- The wording of a cause. -/
def CalendarError.message : CalendarError → String
  | weekOutOfRange week => "week must be in 1..53, got " ++ toString week
  | yearOutOfRange year => "year " ++ toString year ++ " is out of range"
  | monthOutOfRange => "month must be in 1..12"
  | daysNotPositive days => "days must be positive, got " ++ toString days
  | outsideCalendar => "date value out of range"
  | bounds error => error.message

/-- Whether a cause is that the calendar ends, and not that a question makes no sense. -/
def CalendarError.isOutside : CalendarError → Bool
  | outsideCalendar => true
  | _ => false

/-- Whether a number fits into a signed word of 32 bits. -/
def fitsWord (number : Int) : Bool := -2147483648 ≤ number && number ≤ 2147483647

end Almanac
