/-
This file defines the journal of a program: levels, lines, and which lines a
level lets through.
-/

import Almanac.Calendar.Notation
import Almanac.Text.Case.Upper
import Almanac.Text.Quoted

namespace Almanac

open Text (padded quoted toUpper)

namespace Journal

/-- The names of levels and their weights. -/
def levels : List (String × Nat) :=
  [("CRITICAL", 50), ("FATAL", 50), ("ERROR", 40), ("WARN", 30), ("WARNING", 30), ("INFO", 20),
   ("DEBUG", 10), ("NOTSET", 0)]

/-- A name that is that of no level. -/
structure UnknownLevel where
  name : String
deriving DecidableEq, Repr

def UnknownLevel.message (unknown : UnknownLevel) : String :=
  "Unknown level: " ++ quoted unknown.name

/-- The weight of the level with a name in any letter case. -/
def weightOf (name : String) : Except UnknownLevel Nat :=
  let upper := String.ofList (toUpper name.toList)
  match levels.lookup upper with
  | some weight => .ok weight
  | none => .error ⟨upper⟩

/-- The weight of the level in use: the one set, else the one of the environment, else that of
plain information. An empty name sets none. -/
def weightInUse (set : String) (environment : Option String) : Except UnknownLevel Nat :=
  if set ≠ "" then weightOf set
  else if environment.getD "" ≠ "" then weightOf (environment.getD "")
  else weightOf "INFO"

/-- The levels at which lines are written. -/
inductive Level where
  | debug | info
deriving DecidableEq, Repr

namespace Level

def weight : Level → Nat
  | debug => 10
  | info => 20

def name : Level → String
  | debug => "DEBUG"
  | info => "INFO"

end Level

/-- A line of a journal. -/
structure Line where
  level : Level
  /-- The part of the program that writes the line. -/
  origin : String
  text : String
deriving DecidableEq, Repr

/-- The time stamp of a moment, which ends with its milliseconds. -/
def stamp (moment : Moment) : String :=
  String.ofList (moment.date.toIso ++ ' ' :: moment.hourMinute ++ ':' :: padded 2 moment.second ++
    ',' :: padded 3 (moment.fraction / 1000))

/-- A line as it is written, behind a time stamp. -/
def Line.render (stamp : String) (line : Line) : String :=
  stamp ++ " " ++ line.level.name ++ " " ++ line.origin ++ " " ++ line.text ++ "\n"

/-- The lines that a level with some weight lets through, as they are written. -/
def render (stamp : String) (weight : Nat) (lines : List Line) : String :=
  String.join ((lines.filter fun line => weight ≤ line.level.weight).map (Line.render stamp))

end Journal

end Almanac
