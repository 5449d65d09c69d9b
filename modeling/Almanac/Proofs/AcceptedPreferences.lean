/-
This file proves which settings are accepted as preferences, and what is built from
preferences that were accepted. Settings that are not have one violation each. From
accepted ones a setup is built whose lexicon is that of the codes in the list of
locales, also if the codes are first written down and then looked up again.
-/

import Almanac.Proofs.LocaleLists
import Almanac.Setup

namespace Almanac

open Text (strip toLower)
open Vocabulary (builtIn)

namespace FirstDay

theorem ofName?_eq_some_iff (name : String) (firstDay : FirstDay) :
    ofName? name = some firstDay ↔ firstDay.name = name := by
  constructor
  · unfold ofName?
    split
    · next isSunday =>
      rintro ⟨⟩
      exact isSunday.symm
    · split
      · next isMonday =>
        rintro ⟨⟩
        exact isMonday.symm
      · rintro ⟨⟩
  · rintro rfl
    exact ofName?_name firstDay

theorem ofText_eq_ok_iff (text : Option String) (firstDay : FirstDay) :
    ofText text = .ok firstDay ↔ firstDay.name = codeKey (text.getD "") := by
  rw [← ofName?_eq_some_iff, codeKey, ofText]
  cases ofName? (String.ofList (toLower (strip (text.getD "").toList))) <;> simp

theorem exists_name_eq_iff (name : String) :
    (∃ firstDay : FirstDay, firstDay.name = name) ↔ name ∈ ["monday", "sunday"] := by
  constructor
  · rintro ⟨firstDay, rfl⟩
    cases firstDay <;> decide
  · intro member
    rcases List.mem_pair.1 member with rfl | rfl
    · exact ⟨.monday, rfl⟩
    · exact ⟨.sunday, rfl⟩

theorem ofText_eq_error_iff (text : Option String) (unknown : UnknownFirstDay) :
    ofText text = .error unknown ↔
      codeKey (text.getD "") ∉ ["monday", "sunday"] ∧ unknown = ⟨text⟩ := by
  simp only [← exists_name_eq_iff, ← ofName?_eq_some_iff, codeKey, ofText]
  cases ofName? (String.ofList (toLower (strip (text.getD "").toList))) <;> simp [eq_comm]

end FirstDay

namespace Preferences

/-! ### Accepted settings -/

theorem ofGiven_eq_ok_iff (given : Given) (preferences : Preferences) :
    ofGiven given = .ok preferences ↔
      firstDayOf given.firstDay = .ok preferences.firstDay ∧
      vocabulariesOf given.locales = .ok preferences.vocabularies ∧
      journalLevelOf given.journalLevel = .ok preferences.journalLevel := by
  obtain ⟨firstDay, vocabularies, journalLevel⟩ := preferences
  unfold ofGiven
  cases firstDayOf given.firstDay <;> cases vocabulariesOf given.locales <;>
    cases journalLevelOf given.journalLevel <;> simp

/-- Preferences that are not accepted have the violations of their settings. -/
theorem violations_of_ofGiven {given : Given} {violations : List Violation}
    (rejected : ofGiven given = .error violations) :
    violations = violation "WEEK_START" (firstDayOf given.firstDay) ++
      violation "LOCALES" (vocabulariesOf given.locales) ++
      violation "LOG_LEVEL" (journalLevelOf given.journalLevel) := by
  unfold ofGiven at rejected
  split at rejected
  · cases rejected
  · exact (Except.error.inj rejected).symm

/-! ### What accepted preferences have in common -/

/-- Preferences with vocabularies at hand only, and with some. -/
structure HasVocabularies (preferences : Preferences) : Prop where
  nonempty : preferences.vocabularies ≠ []
  atHand : ∀ vocabulary ∈ preferences.vocabularies, vocabulary ∈ builtIn

theorem hasVocabularies_of_ofGiven {given : Given} {preferences : Preferences}
    (accepted : ofGiven given = .ok preferences) : preferences.HasVocabularies := by
  obtain ⟨-, found, -⟩ := (ofGiven_eq_ok_iff _ _).1 accepted
  have ofText (text : String) (read : readLocales text = .ok preferences.vocabularies) :
      preferences.HasVocabularies := by
    obtain ⟨nonempty, atHand, -⟩ := (readLocales_eq_ok_iff _ _).1 read
    exact ⟨nonempty, atHand⟩
  cases setting : given.locales with
  | none => exact ofText "en,de" (by rw [← found, setting]; rfl)
  | some value =>
    rw [setting] at found
    cases value with
    | text content => exact ofText content found
    | _ => cases found

namespace HasVocabularies

variable {preferences : Preferences} (has : preferences.HasVocabularies)

include has

theorem areAtHand : AreAtHand preferences.codes :=
  ⟨mt List.map_eq_nil_iff.1 has.nonempty,
    List.forall_mem_map.2 fun vocabulary member =>
      List.mem_map_of_mem (has.atHand vocabulary member)⟩

theorem isListable : ∀ code ∈ preferences.codes, IsListable code :=
  fun code member => isListable_of_mem code (has.areAtHand.2 code member)

theorem localeCodes_eq : preferences.localeCodes = preferences.codes := by
  rw [localeCodes, locales, splitOn_intercalate has.areAtHand.1 has.isListable, List.map_map]
  exact List.map_id'' (fun _ => String.ofList_toList) _

/-- The list of locales of preferences is read as their vocabularies. -/
theorem readLocales_locales : readLocales preferences.locales = .ok preferences.vocabularies :=
  (readLocales_eq_ok_iff _ _).2 ⟨has.nonempty, has.atHand,
    (namedCodes_intercalate has.areAtHand.1 has.isListable).symm⟩

theorem mapM_ofCode_codes :
    (preferences.codes.mapM fun code => Vocabulary.ofCode (some code)) =
      .ok preferences.vocabularies := by
  refine (Vocabulary.mapM_ofCode_eq_ok_iff _ _).2 ⟨has.atHand, ?_⟩
  exact (map_codeKey_eq_self fun code member => (has.isListable code member).kept).symm

/-- Looking the vocabularies up again leads to the same setup. -/
theorem ofLocales_eq : Setup.ofLocales preferences = .ok (Setup.ofPreferences preferences) := by
  rw [Setup.ofLocales, has.localeCodes_eq, has.mapM_ofCode_codes]
  rfl

theorem ofCodes_eq : Lexicon.ofCodes (preferences.codes.map some) =
    .ok (Setup.ofPreferences preferences).lexicon := by
  rw [Lexicon.ofCodes, List.mapM_map, Function.comp_def, has.mapM_ofCode_codes]
  rfl

end HasVocabularies

/-! ### Settings that are texts -/

/-- The preferences of settings that are texts, if they are set. -/
def ofTexts (firstDay locales journalLevel : Option String) :
    Except (List Violation) Preferences :=
  ofGiven ⟨firstDay.map .text, locales.map .text, journalLevel.map .text⟩

theorem firstDayOf_map_text (text : Option String) : firstDayOf (text.map .text) =
    (FirstDay.ofText (some (text.getD "monday"))).mapError .unknownFirstDay := by
  cases text with
  | none => rfl
  | some content =>
    simp only [Option.map_some, firstDayOf, Value.spelling, Option.getD_some]
    cases FirstDay.ofText (some content) <;> rfl

theorem vocabulariesOf_map_text (text : Option String) :
    vocabulariesOf (text.map .text) = readLocales (text.getD "en,de") := by
  cases text <;> rfl

theorem journalLevelOf_map_text (text : Option String) :
    journalLevelOf (text.map .text) = .ok (text.getD "INFO") := by
  cases text <;> rfl

theorem ofTexts_eq_ok_iff (firstDay locales journalLevel : Option String)
    (preferences : Preferences) :
    ofTexts firstDay locales journalLevel = .ok preferences ↔
      preferences.firstDay.name = codeKey (firstDay.getD "monday") ∧
      readLocales (locales.getD "en,de") = .ok preferences.vocabularies ∧
      journalLevel.getD "INFO" = preferences.journalLevel := by
  rw [ofTexts, ofGiven_eq_ok_iff, firstDayOf_map_text, vocabulariesOf_map_text,
    journalLevelOf_map_text, mapError_eq_ok_iff, FirstDay.ofText_eq_ok_iff, Option.getD_some,
    Except.ok.injEq]

theorem codes_of_ofTexts {firstDay locales journalLevel : Option String}
    {preferences : Preferences}
    (accepted : ofTexts firstDay locales journalLevel = .ok preferences) :
    preferences.codes = namedCodes (locales.getD "en,de") := by
  obtain ⟨-, read, -⟩ := (ofTexts_eq_ok_iff _ _ _ _).1 accepted
  exact ((readLocales_eq_ok_iff _ _).1 read).2.2

theorem exists_ofTexts_iff (firstDay locales journalLevel : Option String) :
    (∃ preferences, ofTexts firstDay locales journalLevel = .ok preferences) ↔
      codeKey (firstDay.getD "monday") ∈ ["monday", "sunday"] ∧
        AreAtHand (namedCodes (locales.getD "en,de")) := by
  simp only [ofTexts_eq_ok_iff, ← FirstDay.exists_name_eq_iff, ← exists_readLocales_iff]
  constructor
  · rintro ⟨preferences, named, read, -⟩
    exact ⟨⟨_, named⟩, ⟨_, read⟩⟩
  · rintro ⟨⟨firstDay, named⟩, ⟨vocabularies, read⟩⟩
    exact ⟨⟨firstDay, vocabularies, _⟩, named, read, rfl⟩

theorem firstDayOf_eq_error_iff (text : Option String) (fault : Fault) :
    firstDayOf (text.map .text) = .error fault ↔
      codeKey (text.getD "monday") ∉ ["monday", "sunday"] ∧
        fault = .unknownFirstDay ⟨some (text.getD "monday")⟩ := by
  rw [firstDayOf_map_text, mapError_eq_error_iff]
  simp only [FirstDay.ofText_eq_error_iff, Option.getD_some]
  constructor
  · rintro ⟨unknown, ⟨unnamed, rfl⟩, isFault⟩
    exact ⟨unnamed, isFault⟩
  · rintro ⟨unnamed, isFault⟩
    exact ⟨_, ⟨unnamed, rfl⟩, isFault⟩

theorem vocabulariesOf_eq_error_iff (text : Option String) (fault : Fault) :
    vocabulariesOf (text.map .text) = .error fault ↔
      ¬AreAtHand (namedCodes (text.getD "en,de")) ∧
        fault = localesFault (namedCodes (text.getD "en,de")) := by
  rw [vocabulariesOf_map_text, readLocales_eq_error_iff]

/-- A setting that is wrong is one violation. -/
theorem violation_eq_ite {Content : Type} {outcome : Except Fault Content} {condition : Prop}
    [Decidable condition] {fault : Fault}
    (failed : ∀ other, outcome = .error other ↔ ¬condition ∧ other = fault) (name : String) :
    violation name outcome = if condition then [] else [⟨some name, fault⟩] := by
  cases read : outcome with
  | ok content =>
    rw [if_pos ((exists_ok_iff failed).1 ⟨content, read⟩)]
    rfl
  | error other =>
    obtain ⟨broken, rfl⟩ := (failed other).1 read
    rw [if_neg broken]
    rfl

/-- Settings that are texts are accepted if the first weekday has a name and the list of locales
names vocabularies at hand only, and some; otherwise each setting that is wrong is one violation.
Accepted settings stay the same if their list of locales is written in its plainest spelling, and
the setup that is built from them has the lexicon of the codes in the list. -/
theorem setup_of_texts (firstDay locales journalLevel : Option String) :
    let weekday := codeKey (firstDay.getD "monday")
    let items := namedCodes (locales.getD "en,de")
    let outcome := ofTexts firstDay locales journalLevel
    ((∃ preferences, outcome = .ok preferences) ↔
      weekday ∈ ["monday", "sunday"] ∧ AreAtHand items) ∧
    (∀ violations, outcome = .error violations → violations =
      (if weekday ∈ ["monday", "sunday"] then []
        else [⟨some "WEEK_START", .unknownFirstDay ⟨some (firstDay.getD "monday")⟩⟩]) ++
      (if AreAtHand items then [] else [⟨some "LOCALES", localesFault items⟩])) ∧
    ∀ preferences, outcome = .ok preferences →
      preferences.firstDay.name = weekday ∧ preferences.localeCodes = items ∧
      preferences.journalLevel = journalLevel.getD "INFO" ∧
      ofTexts firstDay (some preferences.locales) journalLevel = .ok preferences ∧
      let setup := Setup.ofPreferences preferences
      Setup.ofLocales preferences = .ok setup ∧ setup.lexicon.codes = items ∧
        ∃ lexicon, Lexicon.ofCodes (items.map some) = .ok lexicon ∧
          (∀ name, setup.lexicon.lookup? name = lexicon.lookup? name) ∧
          ∀ now text, (setup.resolver now).resolve text =
            Resolver.resolve ⟨preferences.firstDay, lexicon, now⟩ text := by
  dsimp only
  refine ⟨exists_ofTexts_iff _ _ _, fun violations rejected => ?_, fun preferences accepted => ?_⟩
  · rw [violations_of_ofGiven rejected, violation_eq_ite (firstDayOf_eq_error_iff firstDay),
      violation_eq_ite (vocabulariesOf_eq_error_iff locales), journalLevelOf_map_text]
    -- Any text is a journal level.
    exact List.append_nil _
  · have has := hasVocabularies_of_ofGiven accepted
    obtain ⟨named, -, level⟩ := (ofTexts_eq_ok_iff _ _ _ _).1 accepted
    rw [← codes_of_ofTexts accepted]
    exact ⟨named, has.localeCodes_eq, level.symm,
      (ofTexts_eq_ok_iff _ _ _ _).2 ⟨named, has.readLocales_locales, level⟩, has.ofLocales_eq,
      rfl, _, has.ofCodes_eq, fun _ => rfl, fun _ _ => rfl⟩

/-- Blank items, padding and letter case do not matter, order and repetition do. -/
theorem setup_of_de_en_de : ∃ preferences,
    ofTexts (some " Sunday\t") (some ",DE , en,,de ") none = .ok preferences ∧
      preferences.localeCodes = ["de", "en", "de"] ∧ preferences.journalLevel = "INFO" ∧
      ofTexts (some " Sunday\t") (some preferences.locales) none = .ok preferences := by
  have theSetup := setup_of_texts (some " Sunday\t") (some ",DE , en,,de ") none
  obtain ⟨preferences, accepted⟩ := theSetup.1.2 (by decide +kernel)
  obtain ⟨-, codes, level, again, -⟩ := theSetup.2.2 preferences accepted
  exact ⟨preferences, accepted, codes.trans (by decide +kernel), level, again⟩

end Preferences

end Almanac
