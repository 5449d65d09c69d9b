/-
This file puts together what a program needs to resolve time specifications,
from the preferences of its user.
-/

import Almanac.Preferences.Basic
import Almanac.Resolver

namespace Almanac

/-- The parts that all resolvers of a program share. -/
structure Setup where
  preferences : Preferences
  lexicon : Lexicon

namespace Setup

/-- The setup that preferences ask for. -/
def ofPreferences (preferences : Preferences) : Setup where
  preferences := preferences
  lexicon := Lexicon.ofVocabularies preferences.vocabularies

/-- The setup that preferences ask for, if the vocabularies are looked up by the codes in their list
of locales. -/
def ofLocales (preferences : Preferences) : Except UnknownLocale Setup := do
  let vocabularies ← preferences.localeCodes.mapM fun code => Vocabulary.ofCode (some code)
  pure ⟨preferences, Lexicon.ofVocabularies vocabularies⟩

/-- The resolver of a setup that is bound to a moment. -/
def resolver (setup : Setup) (now : Moment) : Resolver where
  firstDay := setup.preferences.firstDay
  lexicon := setup.lexicon
  now := now

end Setup

end Almanac
