/-
This file connects the command with the world: its arguments, its environment,
the file of variables in the working directory, and the clock. The file is read as
plain lines, which suffice for a name and a value.
-/

import Almanac.CommandLine.Run
import Std.Time.Zoned

namespace Almanac

/-- The environment of the process. -/
def readEnvironment : IO Environment := do
  let bytes ← IO.FS.readBinFile "/proc/self/environ"
  let text := (String.fromUTF8? bytes).getD ""
  return (text.splitOn "\x00").filterMap fun entry =>
    match entry.splitOn "=" with
    | [] | [_] => none
    | name :: value => some (name, "=".intercalate value)

/-- The text of the file of variables, if there is one. -/
def readVariableFile : IO (Option String) := do
  try
    return some (← IO.FS.readFile ".env")
  catch _ =>
    return none

/-- The moment that the clock of this place shows. -/
def readClock : IO Moment := do
  let shown ← Std.Time.PlainDateTime.now
  let date := Date.ofNumbers? shown.date.year.toNat shown.date.month.toNat shown.date.day.toNat
  let seconds := shown.time.toSeconds.toInt.toNat
  let microsecond := seconds * 1000000 + shown.time.nanosecond.toNat / 1000
  match date with
  | some date =>
    if within : microsecond < microsecondsPerDay then
      return ⟨date, microsecond, within, none⟩
    else
      throw (IO.userError "the clock shows no time of day")
  | none => throw (IO.userError "the clock shows a date outside the calendar")

end Almanac

open Almanac in
def main (arguments : List String) : IO UInt32 := do
  let now ← readClock
  let outcome := CommandLine.run .plain (Journal.stamp now) arguments (← readEnvironment)
    (← readVariableFile) now
  IO.print outcome.output
  IO.eprint outcome.errors
  match outcome.ending with
  | .ok status => return status.toUInt32
  | .error cause =>
    IO.eprintln cause.message
    return 1
