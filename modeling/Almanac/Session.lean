/-
This file defines sessions: vocabularies, lexicons and resolvers that are kept
under names, and steps that make them and ask them. A step that fails leaves the
session as it was.
-/

import Almanac.Preferences.Sources
import Almanac.Report
import Almanac.Setup
import Almanac.Walk

namespace Almanac

/-- What a session keeps. -/
structure Session where
  vocabularies : Table Vocabulary
  lexicons : Table Lexicon
  resolvers : Table Resolver
  /-- The period that each resolver answered last. -/
  periods : Table Period

/-- Where a lexicon of a session takes a vocabulary from. -/
inductive VocabularySource where
  /-- A vocabulary of the session. -/
  | kept (name : String)
  /-- A vocabulary that is always at hand. -/
  | atHand (code : String)

/-- The source that a text names: behind a number sign, a vocabulary of the session. -/
def VocabularySource.ofText (text : String) : VocabularySource :=
  match text.toList with
  | '#' :: name => kept (String.ofList name)
  | _ => atHand text

/-- A step of a session; each names what it makes or asks. -/
inductive Step where
  | makeVocabulary (name code : String) (entries : List (String × Int))
  | makeLexicon (name : String) (sources : List VocabularySource)
  | makeResolver (name : String) (now : Moment) (lexicon : Option String) (firstDay : FirstDay)
  /-- Makes a lexicon and a resolver as an environment asks for. -/
  | setUp (name : String) (now : Moment) (environment : Environment)
  /-- Moves a resolver to a bound of the period it answered last, shifted by microseconds. -/
  | move (name : String) (edge : Edge) (microseconds : Int)
  /-- Asks for an answer, which need not exist unless it is required. -/
  | resolve (name : String) (text : Option String) (required : Bool)
  | contains (name : String) (moment : Moment)
  | report (name : String)
  | lookup (name : String) (word : Value)
  | holds (name : String) (word : Value)

/-- What a step answers. -/
inductive Answer where
  | vocabulary (vocabulary : Vocabulary)
  | lexicon (lexicon : Lexicon)
  | resolver (resolver : Resolver)
  | setup (setup : Setup)
  | resolution (resolution : Resolution)
  | nothing
  | month (month : Option Month)
  | flag (on : Bool)
  | text (text : String)

/-- A cause for which a step fails. -/
inductive StepError where
  | unknownMonth (unknown : UnknownMonth)
  | unknownLocale (unknown : UnknownLocale)
  | preferences (violations : List Violation)
  | resolve (error : ResolveError)
  | calendar (error : CalendarError)
  | bounds (error : BoundsError)
  | notAName
  /-- The session keeps nothing under the name. -/
  | unknownName (name : String)

namespace Session

/-- The session that keeps nothing. -/
def empty : Session := ⟨Table.empty, Table.empty, Table.empty, Table.empty⟩

/-- What is kept under a name. -/
def find {Kept : Type} (table : Table Kept) (name : String) : Except StepError Kept :=
  match table.get? name with
  | some kept => .ok kept
  | none => .error (.unknownName name)

/-- The vocabulary of a source. -/
def vocabularyOf (session : Session) : VocabularySource → Except StepError Vocabulary
  | .kept name => find session.vocabularies name
  | .atHand code => (Vocabulary.ofCode (some code)).mapError .unknownLocale

/-- The session after a step, with the answer. -/
def step (session : Session) : Step → Except StepError (Session × Answer)
  | .makeVocabulary name code entries => do
    let vocabulary ← (Vocabulary.ofEntries code entries).mapError .unknownMonth
    let vocabularies := session.vocabularies.insert name vocabulary
    pure ({ session with vocabularies := vocabularies }, .vocabulary vocabulary)
  | .makeLexicon name sources => do
    let lexicon := Lexicon.ofVocabularies (← sources.mapM session.vocabularyOf)
    pure ({ session with lexicons := session.lexicons.insert name lexicon }, .lexicon lexicon)
  | .makeResolver name now lexicon firstDay => do
    let lexicon ← match lexicon with
      | some lexicon => find session.lexicons lexicon
      | none => pure Lexicon.standard
    let resolver : Resolver := ⟨firstDay, lexicon, now⟩
    pure ({ session with resolvers := session.resolvers.insert name resolver }, .resolver resolver)
  | .setUp name now environment => do
    let preferences ← (Preferences.load environment Table.empty).mapError .preferences
    let setup := Setup.ofPreferences preferences
    let lexicons := session.lexicons.insert name setup.lexicon
    let resolvers := session.resolvers.insert name (setup.resolver now)
    pure ({ session with lexicons := lexicons, resolvers := resolvers }, .setup setup)
  | .move name edge microseconds => do
    let resolver ← find session.resolvers name
    let period ← find session.periods name
    let now ← ((edge.of period).shift microseconds).mapError .calendar
    let moved := { resolver with now := now }
    pure ({ session with resolvers := session.resolvers.insert name moved }, .resolver moved)
  | .resolve name text required => do
    let resolver ← find session.resolvers name
    match resolver.resolve text with
    | .ok resolution =>
      let periods := session.periods.insert name resolution.period
      pure ({ session with periods := periods }, .resolution resolution)
    | .error (.unsupported given) =>
      if required then throw (.resolve (.unsupported given)) else pure (session, .nothing)
    | .error error => throw (.resolve error)
  | .contains name moment => do
    let period ← find session.periods name
    pure (session, .flag (← (period.contains moment).mapError .bounds))
  | .report name => do
    pure (session, .text (← find session.periods name).report)
  | .lookup name word => do
    let lexicon ← find session.lexicons name
    pure (session, .month (← (lexicon.lookupValue word).mapError fun _ => .notAName))
  | .holds name word => do
    pure (session, .flag ((← find session.lexicons name).holds word))

/-- The answers to steps taken one after the other. -/
def answers (session : Session) : List Step → List (Except StepError Answer)
  | [] => []
  | next :: rest =>
    match session.step next with
    | .ok (after, answer) => .ok answer :: after.answers rest
    | .error error => .error error :: session.answers rest

end Session

end Almanac
