/-
This file defines lexicons: the month names of several vocabularies together. Of
two vocabularies that share a name, the later one decides.
-/

import Almanac.Language.BuiltIn
import Almanac.Value

namespace Almanac

open Text (foldCase)

/-- Month names from a list of vocabularies, with the codes of these. -/
structure Lexicon where
  codes : List String
  months : Table Month

/-- A name that is no text. -/
structure NotAName where
deriving DecidableEq, Repr

namespace Lexicon

/-- The lexicon of a list of vocabularies. -/
def ofVocabularies (vocabularies : List Vocabulary) : Lexicon where
  codes := vocabularies.map Vocabulary.code
  months := Table.ofList (vocabularies.flatMap fun vocabulary => vocabulary.months.entries)

/-- The lexicon of the vocabularies at hand with these codes. -/
def ofCodes (codes : List (Option String)) : Except UnknownLocale Lexicon := do
  pure (ofVocabularies (← codes.mapM Vocabulary.ofCode))

/-- The lexicon in use where none is asked for. -/
def standard : Lexicon := ofVocabularies Vocabulary.builtIn

/-- The month that a name stands for, in any letter case but without blanks around it. -/
def lookup? (lexicon : Lexicon) (name : String) : Option Month :=
  lexicon.months.get? (String.ofList (foldCase name.toList))

/-- The month that a value of any kind stands for; a blank value counts as the empty name. -/
def lookupValue (lexicon : Lexicon) (value : Value) : Except NotAName (Option Month) :=
  match value with
  | .text name => .ok (lexicon.lookup? name)
  | other => if other.isBlank then .ok (lexicon.lookup? "") else .error ⟨⟩

/-- Whether a value of any kind is a name that stands for a month. -/
def holds (lexicon : Lexicon) : Value → Bool
  | .text name => (lexicon.lookup? name).isSome
  | _ => false

/-- The number of different names. -/
def size (lexicon : Lexicon) : Nat := lexicon.months.size

end Lexicon

end Almanac
