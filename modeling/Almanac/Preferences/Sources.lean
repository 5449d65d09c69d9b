/-
This file gathers preferences from where they can be set: by the caller, in the
environment, and in a file of variables, each going before the next.
-/

import Almanac.Preferences.Basic
import Almanac.Preferences.VariableFile

namespace Almanac

/-- A value that the caller sets, under the name of a setting or that name in lower case; the first
of them counts. -/
def setByCaller? (caller : List (String × Value)) (name : String) : Option Value :=
  (caller.find? fun entry => entry.1 = name || entry.1 = lowerName name).map Prod.snd

/-- Where preferences can be set. -/
structure PreferenceSources where
  caller : List (String × Value)
  environment : Environment
  /-- The variables of a file. -/
  file : FileVariables

namespace PreferenceSources

/-- The value of a setting: that of the caller, else that of the environment, else that of the
file. -/
def setting? (sources : PreferenceSources) (name : String) : Option Value :=
  let byCaller := setByCaller? sources.caller name
  let byEnvironment := (Environment.setting? sources.environment name).map Value.text
  let byFile := (sources.file.setting? name).map Value.text
  byCaller.or (byEnvironment.or byFile)

/-- The values of all settings. -/
def given (sources : PreferenceSources) : Preferences.Given where
  firstDay := sources.setting? "WEEK_START"
  locales := sources.setting? "LOCALES"
  journalLevel := sources.setting? "LOG_LEVEL"

/-- The preferences that the sources set. -/
def preferences (sources : PreferenceSources) : Except (List Violation) Preferences :=
  Preferences.ofGiven sources.given

end PreferenceSources

/-- The preferences that an environment and a file of variables set. -/
def Preferences.load (environment : Environment) (file : FileVariables) :
    Except (List Violation) Preferences :=
  PreferenceSources.preferences ⟨[], environment, file⟩

end Almanac
