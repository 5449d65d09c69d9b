/-
This file lists the forms in which a time specification can be written and reads
each of them. All readers take a normalized text; blanks between its words count
only as what separates them.
-/

import Almanac.Calendar.Notation
import Almanac.Specification.Basic
import Almanac.Text.Letter

namespace Almanac

open Text (isBlank isDigit isLetter valueOf words)

/-- A form of time specifications. -/
inductive Form where
  | keyword
  | monthYear
  | weekNumber
  | dateRange
  | singleDate
  | relativeDays
deriving DecidableEq, Repr

namespace Form

/-- The forms in the order in which they are tried. -/
def all : List Form :=
  [keyword, monthYear, weekNumber, dateRange, singleDate, relativeDays]

/-- The name under which a form is reported. -/
def label : Form → String
  | keyword => "keyword"
  | monthYear => "month_year"
  | weekNumber => "week_number"
  | dateRange => "date_range"
  | singleDate => "single_date"
  | relativeDays => "relative_days"

/-! ### Words -/

/-- A run of ASCII digits whose length lies between two bounds. -/
def digits? (least most : Nat) (word : List Char) : Option Nat :=
  if word.all isDigit ∧ least ≤ word.length ∧ word.length ≤ most then some (valueOf word) else none

/-- A year: four digits. -/
def year? (word : List Char) : Option Nat := digits? 4 4 word

/-- A count: one to nine digits. -/
def count? (word : List Char) : Option Nat := digits? 1 9 word

/-- A name: a run of letters. -/
def name? (word : List Char) : Option String :=
  if word ≠ [] ∧ word.all isLetter then some (String.ofList word) else none

/-! ### Readers -/

/-- The keywords and what they ask for. -/
def keywords : List (String × Specification) :=
  [("today", .today), ("yesterday", .yesterday), ("thisweek", .thisWeek), ("lastweek", .lastWeek)]

def readKeyword (text : List Char) : Option Specification :=
  keywords.lookup (String.ofList text)

/-- A month name and a year, or a year and a month name. -/
def readMonthYear (text : List Char) : Option Specification :=
  match words text with
  | [first, second] =>
    match name? first, year? second with
    | some name, some year => some (.month name year)
    | _, _ =>
      match year? first, name? second with
      | some year, some name => some (.month name year)
      | _, _ => none
  | _ => none

/-- The word `week`, the number of a week, and perhaps a year. -/
def readWeekNumber (text : List Char) : Option Specification :=
  match words text with
  | [head, number] =>
    if head = "week".toList then (count? number).map fun number => .week number none else none
  | [head, number, year] => do
    if head = "week".toList then
      some (.week (← count? number) (some (← year? year)))
    else
      none
  | _ => none

/-- Two dates with two points between them; blanks may stand around the points. -/
def readDateRange (text : List Char) : Option Specification := do
  let first ← Date.ofIso? (text.take 10)
  match (text.drop 10).dropWhile isBlank with
  | '.' :: '.' :: behind => some (.dates first (← Date.ofIso? (behind.dropWhile isBlank)))
  | _ => none

def readSingleDate (text : List Char) : Option Specification :=
  (Date.ofIso? text).map .date

/-- The word `last`, a number, and the word `day` or `days`. -/
def readRelativeDays (text : List Char) : Option Specification :=
  match words text with
  | [head, number, unit] =>
    if head = "last".toList ∧ (unit = "day".toList ∨ unit = "days".toList) then
      (count? number).map .lastDays
    else
      none
  | _ => none

/-- What a text in a form asks for; `none` if the text is not of that form. -/
def read? : Form → List Char → Option Specification
  | keyword => readKeyword
  | monthYear => readMonthYear
  | weekNumber => readWeekNumber
  | dateRange => readDateRange
  | singleDate => readSingleDate
  | relativeDays => readRelativeDays

end Form

end Almanac
