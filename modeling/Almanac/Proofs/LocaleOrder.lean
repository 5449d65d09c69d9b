/-
This file proves that it does not count in which order locales are listed, nor how
often. Of two vocabularies that share a name the later one decides, but the ones at
hand agree about every name that they share. So a lexicon of them only depends on
which of them it is made from, and with it every answer.
-/

import Almanac.Proofs.AcceptedPreferences
import Almanac.Proofs.Dependence
import Almanac.Proofs.Lexicons

namespace Almanac

open Vocabulary (builtIn)

/-! ### Vocabularies that agree -/

namespace Vocabulary

/-- Whether two vocabularies have the same month for every name that they share. -/
def Agrees (first second : Vocabulary) : Prop :=
  ∀ entry ∈ first.months.entries, ∀ other ∈ second.months.entries,
    entry.1 = other.1 → entry.2 = other.2

instance (first second : Vocabulary) : Decidable (first.Agrees second) :=
  inferInstanceAs (Decidable (∀ entry ∈ first.months.entries,
    ∀ other ∈ second.months.entries, entry.1 = other.1 → entry.2 = other.2))

theorem builtIn_agrees : ∀ first ∈ builtIn, ∀ second ∈ builtIn, first.Agrees second := by
  decide +kernel

theorem Agrees.month_eq {first second : Vocabulary} (agrees : first.Agrees second) {key : String}
    {month other : Month} (found : first.months.get? key = some month)
    (foundOther : second.months.get? key = some other) : month = other :=
  agrees (key, month) (Table.mem_entries_of_get? found)
    (key, other) (Table.mem_entries_of_get? foundOther) rfl

end Vocabulary

namespace Lexicon

/-- The months of a lexicon are those of its vocabularies. -/
theorem exists_vocabulary_of_months {vocabularies : List Vocabulary} {key : String} {month : Month}
    (found : (ofVocabularies vocabularies).months.get? key = some month) :
    ∃ vocabulary ∈ vocabularies, vocabulary.months.get? key = some month := by
  induction vocabularies with
  | nil => cases found
  | cons first rest inductionHypothesis =>
    rw [months_cons, Option.or_eq_some_iff] at found
    rcases found with inRest | ⟨-, here⟩
    · obtain ⟨vocabulary, member, decides⟩ := inductionHypothesis inRest
      exact ⟨vocabulary, List.mem_cons_of_mem _ member, decides⟩
    · exact ⟨first, List.mem_cons_self, here⟩

theorem months_eq_none_iff (vocabularies : List Vocabulary) (key : String) :
    (ofVocabularies vocabularies).months.get? key = none ↔
      ∀ vocabulary ∈ vocabularies, vocabulary.months.get? key = none := by
  induction vocabularies with
  | nil => exact iff_of_true rfl (List.forall_mem_nil _)
  | cons first rest inductionHypothesis =>
    rw [months_cons, Option.or_eq_none_iff, inductionHypothesis, List.forall_mem_cons, and_comm]

/-- Where the vocabularies agree, any of them that knows a name decides. -/
theorem months_eq_some_iff {vocabularies : List Vocabulary}
    (agree : ∀ first ∈ vocabularies, ∀ second ∈ vocabularies, first.Agrees second)
    (key : String) (month : Month) :
    (ofVocabularies vocabularies).months.get? key = some month ↔
      ∃ vocabulary ∈ vocabularies, vocabulary.months.get? key = some month := by
  refine ⟨exists_vocabulary_of_months, ?_⟩
  rintro ⟨vocabulary, member, decides⟩
  cases found : (ofVocabularies vocabularies).months.get? key with
  | none =>
    rw [(months_eq_none_iff _ _).1 found vocabulary member] at decides
    cases decides
  | some other =>
    obtain ⟨deciding, decidingMember, decidesOther⟩ := exists_vocabulary_of_months found
    have sameMonth :=
      (agree vocabulary member deciding decidingMember).month_eq decides decidesOther
    rw [sameMonth]

/-- Lexicons of the same vocabularies find the same months, in whatever order these come and however
often, if the vocabularies agree. -/
theorem lookup?_congr {vocabularies others : List Vocabulary}
    (agree : ∀ first ∈ vocabularies, ∀ second ∈ vocabularies, first.Agrees second)
    (same : ∀ vocabulary, vocabulary ∈ vocabularies ↔ vocabulary ∈ others) (name : String) :
    (ofVocabularies vocabularies).lookup? name = (ofVocabularies others).lookup? name := by
  have agreeOthers : ∀ first ∈ others, ∀ second ∈ others, first.Agrees second :=
    fun first member second secondMember =>
      agree first ((same first).2 member) second ((same second).2 secondMember)
  refine Option.ext fun month => ?_
  rw [lookup?, lookup?, months_eq_some_iff agree, months_eq_some_iff agreeOthers]
  simp only [same]

end Lexicon

namespace Preferences

/-! ### Lists of locales with the same codes -/

/-- The vocabularies of accepted preferences are the ones at hand with the codes that are named. -/
theorem HasVocabularies.mem_vocabularies_iff {preferences : Preferences}
    (has : preferences.HasVocabularies) (vocabulary : Vocabulary) :
    vocabulary ∈ preferences.vocabularies ↔
      vocabulary ∈ builtIn ∧ vocabulary.code ∈ preferences.codes := by
  constructor
  · intro member
    exact ⟨has.atHand vocabulary member, List.mem_map_of_mem member⟩
  · rintro ⟨isBuiltIn, coded⟩
    obtain ⟨other, member, sameCode⟩ := List.mem_map.1 coded
    rwa [← Vocabulary.eq_of_code_eq (has.atHand other member) isBuiltIn sameCode]

/-- Two settings of locales that are accepted and name the same codes lead to the same outcomes if
weeks start on the same weekday: for every name that is looked up, and for every text that is
resolved at any moment. -/
theorem same_outcomes_of_same_codes
    {firstDay locales journalLevel otherFirstDay otherLocales otherJournalLevel : Option String}
    {preferences other : Preferences}
    (accepted : ofTexts firstDay locales journalLevel = .ok preferences)
    (otherAccepted : ofTexts otherFirstDay otherLocales otherJournalLevel = .ok other)
    (sameFirstDay : preferences.firstDay = other.firstDay)
    (sameCodes : ∀ code, code ∈ namedCodes (locales.getD "en,de") ↔
      code ∈ namedCodes (otherLocales.getD "en,de")) :
    let setup := Setup.ofPreferences preferences
    let otherSetup := Setup.ofPreferences other
    (∀ name, setup.lexicon.lookup? name = otherSetup.lexicon.lookup? name) ∧
      ∀ now text, (setup.resolver now).resolve? text = (otherSetup.resolver now).resolve? text := by
  intro setup otherSetup
  have has := hasVocabularies_of_ofGiven accepted
  have otherHas := hasVocabularies_of_ofGiven otherAccepted
  have sameVocabularies (vocabulary : Vocabulary) :
      vocabulary ∈ preferences.vocabularies ↔ vocabulary ∈ other.vocabularies := by
    rw [has.mem_vocabularies_iff, otherHas.mem_vocabularies_iff, codes_of_ofTexts accepted,
      codes_of_ofTexts otherAccepted, sameCodes]
  have sameLookup : ∀ name, setup.lexicon.lookup? name = otherSetup.lexicon.lookup? name :=
    Lexicon.lookup?_congr (fun first member second secondMember =>
      Vocabulary.builtIn_agrees first (has.atHand first member) second
        (has.atHand second secondMember)) sameVocabularies
  refine ⟨sameLookup, fun now text => ?_⟩
  have agree : Resolver.AgreeOn (Specification.normalize text) (setup.resolver now)
      (otherSetup.resolver now) :=
    ⟨fun _ => rfl, fun _ => sameFirstDay, fun name _ => sameLookup name⟩
  exact agree.resolve?_eq_of_offset rfl

/-- German in front of English and again behind it gives the same months as the default. -/
theorem same_outcomes_of_de_en_de :
    let preferences : Preferences := ⟨.monday, [.english, .german], "INFO"⟩
    let other : Preferences := ⟨.monday, [.german, .english, .german], "DEBUG"⟩
    let setup := Setup.ofPreferences preferences
    let otherSetup := Setup.ofPreferences other
    ofTexts none none none = .ok preferences ∧
      ofTexts (some "Monday ") (some " DE ,, en,de") (some "DEBUG") = .ok other ∧
      (∀ name, setup.lexicon.lookup? name = otherSetup.lexicon.lookup? name) ∧
      ∀ now text, (setup.resolver now).resolve? text = (otherSetup.resolver now).resolve? text := by
  have accepted : ofTexts none none none = .ok ⟨.monday, [.english, .german], "INFO"⟩ := rfl
  have otherAccepted : ofTexts (some "Monday ") (some " DE ,, en,de") (some "DEBUG") =
      .ok ⟨.monday, [.german, .english, .german], "DEBUG"⟩ := by
    rfl
  have sameCodes : ∀ code, code ∈ namedCodes "en,de" ↔ code ∈ namedCodes " DE ,, en,de" := by
    have codes : namedCodes "en,de" = ["en", "de"] := by decide +kernel
    have otherCodes : namedCodes " DE ,, en,de" = ["de", "en", "de"] := by decide +kernel
    intro code
    rw [codes, otherCodes]
    simp [or_comm]
  exact ⟨accepted, otherAccepted, same_outcomes_of_same_codes accepted otherAccepted rfl sameCodes⟩

end Preferences

end Almanac
