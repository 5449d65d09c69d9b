/-
This file says what a file of variables gives: names in their order, each with its
value if it has one. The reader that takes these from a text is not part of the
project, so it is handed in. A value may refer to other variables, and a reader is
told whether to look for them in the environment or in the file first.
-/

import Almanac.Preferences.Environment
import Almanac.Text.Blank

namespace Almanac

/-! ### Variables of a file -/

/-- The variables of a file in their order, each with its value if it has one. -/
abbrev FileVariables := Table (Option String)

namespace FileVariables

/-- The variables that have a value. -/
def valued (assignments : FileVariables) : Environment :=
  assignments.entries.filterMap fun entry => entry.2.map fun value => (entry.1, value)

/-- The value of a setting, whose variable may be written in any letter case; of several such
variables the last one counts, also if it has no value. -/
def setting? (assignments : FileVariables) (name : String) : Option String :=
  (assignments.entries.reverse.find? fun entry => lowerName entry.1 = lowerName name).bind Prod.snd

/-- The names in their order, and which of them have a value. -/
def outline (assignments : FileVariables) : List (String × Bool) :=
  assignments.entries.map fun entry => (entry.1, entry.2.isSome)

end FileVariables

/-! ### Readers -/

/-- Where a variable that a value refers to is looked for first. -/
inductive FirstSource where
  | environment | file
deriving DecidableEq

/-- How the text of a file of variables is read in an environment. -/
structure VariableReader where
  read : FirstSource → Environment → String → FileVariables

namespace VariableReader

/-- What the values of a file refer to decides what they are, but not which names the file has, in
which order, and which of them have a value. -/
structure IsSteady (reader : VariableReader) : Prop where
  outline_eq : ∀ (first other : FirstSource) (environment otherEnvironment : Environment)
    (text : String), (reader.read first environment text).outline =
      (reader.read other otherEnvironment text).outline

/-- The variables of a file, if there is one. -/
def assignments (reader : VariableReader) (first : FirstSource) (environment : Environment) :
    Option String → FileVariables
  | some text => reader.read first environment text
  | none => Table.empty

/-- The variables that a file offers to an environment: those that have a value. -/
def offered (reader : VariableReader) (environment : Environment) (file : Option String) :
    Environment :=
  (reader.assignments .environment environment file).valued

/-! ### Plain lines -/

/-- The name and the value on a line, with an equals sign between them; without the sign the name
has no value. -/
def plainEntry? (line : List Char) : Option (String × Option String) :=
  match line.takeWhile (· ≠ '='), line.dropWhile (· ≠ '=') with
  | [], _ => none
  | name, [] => some (String.ofList name, none)
  | name, _ :: value => some (String.ofList name, some (String.ofList value))

/-- The reader of plain lines, which have no quotes, comments and references. -/
def plain : VariableReader where
  read _ _ text := Table.ofList ((Text.pieces (· = '\n') text.toList).filterMap plainEntry?)

theorem isSteady_plain : plain.IsSteady := ⟨fun _ _ _ _ _ => rfl⟩

end VariableReader

end Almanac
