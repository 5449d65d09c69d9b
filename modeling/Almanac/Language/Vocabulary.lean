/-
This file defines vocabularies: the names that one language gives to the months.
Names are kept without blanks around them and with their letter case folded
away, so that lookups do not depend on either.
-/

import Almanac.Calendar.Month
import Almanac.Table
import Almanac.Text.Blank
import Almanac.Text.Case.Fold
import Almanac.Text.Case.Lower
import Almanac.Text.Quoted

namespace Almanac

open Text (strip foldCase toLower quoted)

/-- The form in which a month name is kept. -/
def nameKey (name : String) : String := String.ofList (foldCase (strip name.toList))

/-- The form in which a language code is kept. -/
def codeKey (code : String) : String := String.ofList (toLower (strip code.toList))

/-- The month names of one language. -/
structure Vocabulary where
  code : String
  months : Table Month

/-- An entry of a vocabulary whose number is that of no month. -/
structure UnknownMonth where
  code : String
  name : String
  number : Int
deriving DecidableEq, Repr

def UnknownMonth.message (unknown : UnknownMonth) : String :=
  unknown.code ++ ": month for " ++ quoted unknown.name ++ " must be in 1..12, got " ++
    toString unknown.number

namespace Vocabulary

/-- One entry of a vocabulary, from a name and the number of a month. -/
def readEntry (code : String) (entry : String × Int) : Except UnknownMonth (String × Month) :=
  match Month.ofNumber? entry.2 with
  | some month => .ok (nameKey entry.1, month)
  | none => .error ⟨code, entry.1, entry.2⟩

/-- The vocabulary of a table from names to numbers of months. Every number is checked, also one
that a later name with the same key replaces. -/
def ofTable (code : String) (numbers : Table Int) : Except UnknownMonth Vocabulary := do
  let entries ← numbers.entries.mapM (readEntry code)
  pure ⟨codeKey code, Table.ofList entries⟩

/-- The vocabulary of a list of names and numbers; of two equal names the later one counts. -/
def ofEntries (code : String) (entries : List (String × Int)) : Except UnknownMonth Vocabulary :=
  ofTable code (Table.ofList entries)

end Vocabulary

end Almanac
