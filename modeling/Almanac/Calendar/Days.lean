/-
This file defines runs of consecutive dates, and the place of a date in its
week.
-/

import Almanac.Calendar.Date
import Almanac.Calendar.FirstDay

namespace Almanac

/-! ### Weeks of a date -/

/-- The number of days from the start of the week of a date to the date. -/
def Date.daysIntoWeek (date : Date) (firstDay : FirstDay) : Nat :=
  (date.weekday + 7 - firstDay.weekday) % 7

/-! ### Runs of dates -/

/-- A run of consecutive dates, from the first to the last. -/
structure Days where
  first : Date
  last : Date
  first_le_last : first ≤ last
deriving DecidableEq

namespace Days

/-- The number of dates in a run. -/
def size (days : Days) : Nat := days.last.ordinal - days.first.ordinal + 1

instance : Membership Date Days := ⟨fun days date => days.first ≤ date ∧ date ≤ days.last⟩

instance (days : Days) (date : Date) : Decidable (date ∈ days) :=
  inferInstanceAs (Decidable (days.first ≤ date ∧ date ≤ days.last))

/-- The run of a single date. -/
def single (date : Date) : Days := ⟨date, date, Nat.le_refl _⟩

/-- The run from one date to another that is not earlier. -/
def between? (first last : Date) : Option Days :=
  if ordered : first ≤ last then some ⟨first, last, ordered⟩ else none

end Days

end Almanac
