/-
This file defines time specifications as they are understood: the period that
someone asks for, before it is known whether the calendar has it.
-/

import Almanac.Calendar.Date
import Almanac.Text.Blank
import Almanac.Text.Case.Fold

namespace Almanac

open Text (strip foldCase)

/-- A period that someone asks for. -/
inductive Specification where
  | today
  | yesterday
  | thisWeek
  | lastWeek
  /-- A month, by its name, of a year. -/
  | month (name : String) (year : Nat)
  /-- A numbered week of a year, or of the current year if none is given. -/
  | week (number : Nat) (year : Option Nat)
  /-- The dates from one to another. -/
  | dates (first last : Date)
  | date (date : Date)
  /-- The last days, today included. -/
  | lastDays (count : Nat)
deriving DecidableEq

namespace Specification

/-- What is asked for where nothing is written. -/
def defaultText : String := "today"

/-- The text that is read: without blanks around it and with its letter case folded away. A missing
or blank text stands for the default. -/
def normalize (text : Option String) : List Char :=
  let stripped := strip (text.getD "").toList
  if stripped = [] then defaultText.toList else foldCase stripped

end Specification

end Almanac
