/-
This file defines the environment of a program, the variables that it is started
with, and looks settings up in it.
-/

import Almanac.Table
import Almanac.Text.Case.Lower

namespace Almanac

open Text (toLower)

/-- The variables that a program is started with, in their order. -/
abbrev Environment := List (String × String)

/-- A name in lower case. -/
def lowerName (name : String) : String := String.ofList (toLower name.toList)

namespace Environment

/-- The value of a variable with exactly this name. -/
def named? (environment : Environment) (name : String) : Option String :=
  environment.lookup name

/-- The value of a setting, whose variable may be written in any letter case; of several such
variables the last one counts. -/
def setting? (environment : Environment) (name : String) : Option String :=
  (environment.reverse.find? fun entry => lowerName entry.1 = lowerName name).map Prod.snd

/-- The environment with further variables at its end, each only if none has exactly its name. -/
def complete (environment further : Environment) : Environment :=
  environment ++ further.filter fun entry => (environment.named? entry.1).isNone

end Environment

end Almanac
