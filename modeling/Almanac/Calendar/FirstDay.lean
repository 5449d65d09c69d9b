/-
This file defines the two weekdays on which a week may start, and how they are
read from their names.
-/

import Almanac.Text.Blank
import Almanac.Text.Case.Lower
import Almanac.Text.Quoted

namespace Almanac

open Text (strip toLower quotedOrNone)

/-- The weekday on which weeks start. -/
inductive FirstDay where
  | sunday | monday
deriving DecidableEq, Repr

/-- A text that names no first weekday; the text may be missing. -/
structure UnknownFirstDay where
  given : Option String
deriving DecidableEq, Repr

def UnknownFirstDay.message (unknown : UnknownFirstDay) : String :=
  "invalid week_start: " ++ quotedOrNone unknown.given ++ " (must be 'monday' or 'sunday')"

namespace FirstDay

/-- The number of the weekday, Sunday being 0. -/
def weekday : FirstDay → Nat
  | sunday => 0
  | monday => 1

def name : FirstDay → String
  | sunday => "sunday"
  | monday => "monday"

/-- The weekday with exactly this name. -/
def ofName? (name : String) : Option FirstDay :=
  if name = "sunday" then some sunday
  else if name = "monday" then some monday
  else none

/-- The weekday that a text names in any letter case, with blanks around it. -/
def ofText (text : Option String) : Except UnknownFirstDay FirstDay :=
  match ofName? (String.ofList (toLower (strip (text.getD "").toList))) with
  | some firstDay => .ok firstDay
  | none => .error ⟨text⟩

theorem ofName?_name (firstDay : FirstDay) : ofName? firstDay.name = some firstDay := by
  cases firstDay <;> rfl

end FirstDay

end Almanac
