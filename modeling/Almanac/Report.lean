/-
This file writes the report on a period: a line for programs and a line for
people. Years are written without leading zeros.
-/

import Almanac.Calendar.Notation
import Almanac.Calendar.Period

namespace Almanac

open Text (padded)

/-- A date for programs: year, month and day. -/
def Date.plainForm (date : Date) : List Char :=
  (toString date.yearNumber).toList ++ '-' :: padded 2 date.month.number ++
    '-' :: padded 2 date.day

/-- A date for people: day, English month and year. -/
def Date.readableForm (date : Date) : List Char :=
  padded 2 date.day ++ ' ' :: date.month.abbreviation.toList ++
    ' ' :: (toString date.yearNumber).toList

/-- The date of a moment for programs, with hour and minute. -/
def Moment.plainForm (moment : Moment) : List Char :=
  moment.date.plainForm ++ ' ' :: moment.hourMinute

namespace Period

/-- The line of the report for programs. -/
def plainLine (period : Period) : String :=
  "Period: " ++ String.ofList period.start.plainForm ++ " to " ++
    String.ofList period.finish.plainForm

/-- The line of the report for people. -/
def readableLine (period : Period) : String :=
  "        " ++ String.ofList period.start.date.readableForm ++ " - " ++
    String.ofList period.finish.date.readableForm

/-- The report on a period. -/
def report (period : Period) : String := period.plainLine ++ "\n" ++ period.readableLine

end Period

end Almanac
