/-
This file holds the twelve months: their numbers, their lengths in common and
in leap years, and the days of a year that come before each of them.
-/

namespace Almanac

/-- A month of the Gregorian calendar. -/
inductive Month where
  | january | february | march | april | may | june
  | july | august | september | october | november | december
deriving DecidableEq, Repr

namespace Month

/-- The months in the order of the year. -/
def all : List Month :=
  [january, february, march, april, may, june,
    july, august, september, october, november, december]

/-- The number of the month, January being 1. -/
def number : Month → Nat
  | january => 1
  | february => 2
  | march => 3
  | april => 4
  | may => 5
  | june => 6
  | july => 7
  | august => 8
  | september => 9
  | october => 10
  | november => 11
  | december => 12

/-- The month with a number, if the number is in 1..12. -/
def ofNumber? (number : Int) : Option Month :=
  all.find? fun month => (month.number : Int) = number

/-- The number of days of the month; `leap` tells whether its year is a leap year. -/
def length (leap : Bool) : Month → Nat
  | february => if leap then 29 else 28
  | april | june | september | november => 30
  | january | march | may | july | august | october | december => 31

/-- The number of days of the year that come before the month. -/
def daysBefore (leap : Bool) (month : Month) : Nat :=
  match month with
  | january => 0
  | february => 31
  | march => if leap then 60 else 59
  | april => if leap then 91 else 90
  | may => if leap then 121 else 120
  | june => if leap then 152 else 151
  | july => if leap then 182 else 181
  | august => if leap then 213 else 212
  | september => if leap then 244 else 243
  | october => if leap then 274 else 273
  | november => if leap then 305 else 304
  | december => if leap then 335 else 334

/-- The English name of the month cut to three letters. -/
def abbreviation : Month → String
  | january => "Jan"
  | february => "Feb"
  | march => "Mar"
  | april => "Apr"
  | may => "May"
  | june => "Jun"
  | july => "Jul"
  | august => "Aug"
  | september => "Sep"
  | october => "Oct"
  | november => "Nov"
  | december => "Dec"

theorem mem_all (month : Month) : month ∈ all := by
  cases month <;> decide

theorem ofNumber?_number (month : Month) : ofNumber? month.number = some month := by
  cases month <;> decide

theorem number_mem (month : Month) : 1 ≤ month.number ∧ month.number ≤ 12 := by
  cases month <;> decide

theorem one_le_length (leap : Bool) (month : Month) : 1 ≤ month.length leap := by
  cases leap <;> cases month <;> decide

theorem daysBefore_add_length_le (leap : Bool) (month : Month) :
    month.daysBefore leap + month.length leap ≤ if leap then 366 else 365 := by
  cases leap <;> cases month <;> decide

end Month

end Almanac
