/-
This file says what the command does: it reads its arguments and the preferences
of its user, resolves the time specification, and writes the report on the period
and the journal of what happened on the way.
-/

import Almanac.CommandLine.Arguments
import Almanac.Journal
import Almanac.Preferences.Sources
import Almanac.Report
import Almanac.Setup

namespace Almanac.CommandLine

open Text (quoted)

/-- A cause for which the command breaks off. -/
inductive Breakdown where
  | preferences (violations : List Violation)
  | journalLevel (unknown : Journal.UnknownLevel)
  | calendar (error : CalendarError)
deriving DecidableEq

/-- The wording of a cause. -/
def Breakdown.message : Breakdown → String
  | preferences violations =>
    let wording (violation : Violation) : String :=
      violation.field.getD "" ++ ": " ++ violation.fault.message
    "Invalid environment configuration: " ++ "; ".intercalate (violations.map wording)
  | journalLevel unknown => unknown.message
  | calendar error => error.message

/-- What a run of the command leaves behind: its exit status unless it breaks off, and what it has
written. -/
structure Outcome where
  ending : Except Breakdown Nat
  output : String
  errors : String

/-! ### Texts -/

def usage : String := "usage: timespec [-h] [spec ...]\n"

def help : String := usage ++ "
Resolve a time specification to a date range.

positional arguments:
  spec        Time specification, e.g. \"thisweek\", \"october 2025\", \"week 32\"
              (default: today).

options:
  -h, --help  show this help message and exit
"

/-- The journal line on an answer. -/
def matchedLine (text : List Char) (resolution : Resolution) : Journal.Line where
  level := .debug
  origin := "src.timerange.parser"
  text := "matched grammar=" ++ resolution.form.label ++ " spec=" ++ quoted (String.ofList text)

/-- The journal line on a specification that no form accepts. -/
def unsupportedLine (text : String) : Journal.Line where
  level := .info
  origin := "src.timerange.parser"
  text := "unsupported spec=" ++ quoted text

/-- The journal line on the period of a specification. -/
def resolvedLine (text : String) (period : Period) : Journal.Line where
  level := .debug
  origin := "src.main"
  text := "resolved spec=" ++ quoted text ++
    " start=" ++ String.ofList (period.start.toText .journal) ++
    " end=" ++ String.ofList (period.finish.toText .journal)

/-! ### Runs -/

/-- The time specification in the words of the command. -/
def specificationOf (words : List String) : String :=
  let joined := " ".intercalate words
  if joined = "" then Specification.defaultText else joined

/-- Resolves a time specification and writes the report; the journal has the given weight. -/
def resolveAndReport (stamp : String) (weight : Nat) (resolver : Resolver) (text : String) :
    Outcome :=
  match resolver.resolve (some text) with
  | .ok resolution =>
    let matched := matchedLine (Specification.normalize (some text)) resolution
    let resolved := resolvedLine text resolution.period
    ⟨.ok 0, resolution.period.report ++ "\n", Journal.render stamp weight [matched, resolved]⟩
  | .error (.calendar error) => ⟨.error (.calendar error), "", ""⟩
  | .error (.unsupported given) =>
    let message := "invalid time specification: " ++ (ResolveError.unsupported given).message
    ⟨.ok 2, "", Journal.render stamp weight [unsupportedLine text] ++ message ++ "\n"⟩

/-- Runs the command under an environment and a file of variables, if there is one. The file is read
twice: its variables complete the environment, and then the preferences are loaded from the completed
environment and from the file as it reads there. -/
def run (reader : VariableReader) (stamp : String) (arguments : List String)
    (environment : Environment) (file : Option String) (now : Moment) : Outcome :=
  match read arguments with
  | .help => ⟨.ok 0, help, ""⟩
  | .refused cause => ⟨.ok 2, "", usage ++ "timespec: error: " ++ cause.message ++ "\n"⟩
  | .resolve words =>
    let completed := environment.complete (reader.offered environment file)
    match Preferences.load completed (reader.assignments .file completed file) with
    | .error violations => ⟨.error (.preferences violations), "", ""⟩
    | .ok preferences =>
      let levelVariable := completed.named? "LOG_LEVEL"
      match Journal.weightInUse preferences.journalLevel levelVariable with
      | .error unknown => ⟨.error (.journalLevel unknown), "", ""⟩
      | .ok weight =>
        let resolver := (Setup.ofPreferences preferences).resolver now
        resolveAndReport stamp weight resolver (specificationOf words)

end Almanac.CommandLine
