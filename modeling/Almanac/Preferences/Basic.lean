/-
This file defines the preferences of a user: on which weekday weeks start, in
which languages months may be named, and how much is written to the journal. They
are checked as they are read, so that everything built on them is known to exist.
-/

import Almanac.Language.Lexicon
import Almanac.Text.Blank
import Almanac.Validation

namespace Almanac

open Text (pieces strip)

/-- The preferences of a user. -/
structure Preferences where
  firstDay : FirstDay
  /-- The vocabularies in the order in which they were named. -/
  vocabularies : List Vocabulary
  /-- The journal level as it was written. -/
  journalLevel : String

/-- What a user may set; what is not set has its default. -/
structure Preferences.Given where
  firstDay : Option Value
  locales : Option Value
  journalLevel : Option Value

namespace Preferences

/-- The codes in a list of locales: its pieces between commas that are not blank, without blanks
around them and in lower case. -/
def localeItems (text : String) : List String :=
  let stripped := (pieces (· = ',') text.toList).map strip
  (stripped.filter fun item => !item.isEmpty).map fun item => codeKey (String.ofList item)

/-- The vocabularies in a list of locales. -/
def readLocales (text : String) : Except Fault (List Vocabulary) :=
  match localeItems text with
  | [] => .error .noLocales
  | items =>
    match items.mapM fun item => Vocabulary.ofCode (some item) with
    | .ok vocabularies => .ok vocabularies
    | .error unknown => .error (.unknownLocale unknown)

/-- What a setting that has to be a text says. -/
def readText (value : Value) : Except Fault String :=
  match value with
  | .text content => .ok content
  | _ => .error .notText

/-- The first weekday of a setting. A value that is no text counts as its spelling. -/
def firstDayOf : Option Value → Except Fault FirstDay
  | none => .ok .monday
  | some value =>
    match FirstDay.ofText (some value.spelling) with
    | .ok firstDay => .ok firstDay
    | .error unknown => .error (.unknownFirstDay unknown)

/-- The vocabularies of a setting. -/
def vocabulariesOf : Option Value → Except Fault (List Vocabulary)
  | none => .ok Vocabulary.builtIn
  | some value => do readLocales (← readText value)

/-- The journal level of a setting. -/
def journalLevelOf : Option Value → Except Fault String
  | none => .ok "INFO"
  | some value => readText value

/-- The violation of a setting that could not be read, if any. -/
def violation {Content : Type} (name : String) : Except Fault Content → List Violation
  | .ok _ => []
  | .error fault => [⟨some name, fault⟩]

/-- The preferences that a user sets. Every setting is checked, and the violations are listed in
the order of the settings. -/
def ofGiven (given : Given) : Except (List Violation) Preferences :=
  match firstDayOf given.firstDay, vocabulariesOf given.locales,
    journalLevelOf given.journalLevel with
  | .ok firstDay, .ok vocabularies, .ok journalLevel =>
    .ok ⟨firstDay, vocabularies, journalLevel⟩
  | firstDay, vocabularies, journalLevel =>
    .error (violation "WEEK_START" firstDay ++ violation "LOCALES" vocabularies ++
      violation "LOG_LEVEL" journalLevel)

/-- The codes of the vocabularies in their order. -/
def codes (preferences : Preferences) : List String :=
  preferences.vocabularies.map Vocabulary.code

/-- The list of locales in its plainest spelling. -/
def locales (preferences : Preferences) : String := ",".intercalate preferences.codes

/-- The codes that the list of locales consists of. -/
def localeCodes (preferences : Preferences) : List String :=
  (preferences.locales.toList.splitOn ',').map String.ofList

end Preferences

end Almanac
