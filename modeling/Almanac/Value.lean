/-
This file defines the values that untyped callers hand over, such as names to
look up or settings given by hand, and how such a value is spelled as a text.
-/

import Almanac.Number.Numeral
import Almanac.Number.Shortest
import Almanac.Text.Quoted

namespace Almanac

open Text (quoted)

/-- A value from an untyped source. -/
inductive Value where
  | nothing
  | flag (on : Bool)
  | integer (number : Int)
  | double (number : Double)
  | text (content : String)
  | list (items : List Value)
  | record (fields : List (String × Value))
deriving Inhabited

namespace Value

/-- The value of a numeral. -/
def ofNumeral : Numeral → Value
  | .whole number => integer number
  | .double number => double number

/-- Whether a value is blank: nothing, off, zero, or without content. -/
def isBlank : Value → Bool
  | nothing => true
  | flag on => !on
  | integer number => number = 0
  | double number => number.isZero
  | text content => content.isEmpty
  | list items => items.isEmpty
  | record fields => fields.isEmpty

mutual

/-- A value as it is written inside a list. -/
def written : Value → String
  | nothing => "None"
  | flag on => if on then "True" else "False"
  | integer number => toString number
  | double number => String.ofList number.toText
  | text content => quoted content
  | list items => "[" ++ ", ".intercalate (writtenItems items) ++ "]"
  | record fields => "\x7b" ++ ", ".intercalate (writtenFields fields) ++ "\x7d"

/-- The items of a list, each as it is written inside it. -/
def writtenItems : List Value → List String
  | [] => []
  | item :: rest => written item :: writtenItems rest

/-- The fields of a record, each as its name and its value. -/
def writtenFields : List (String × Value) → List String
  | [] => []
  | (name, value) :: rest => (quoted name ++ ": " ++ written value) :: writtenFields rest

end

/-- The spelling of a value as a text: a text is its own. -/
def spelling : Value → String
  | text content => content
  | value => written value

end Value

end Almanac
