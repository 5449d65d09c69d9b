/-
This file proves that the names in a configuration are matched up to the case of ASCII
letters and the blanks around them only. From outside ASCII, the table of lower case leads
there for one character only, the Kelvin sign, which falls to k; the dotted capital I keeps
its dot as a character of its own. The names at hand have no k. Specifications are folded
instead, and folding takes the long s and its ligatures to plain letters as well.
-/

import Almanac.Proofs.AcceptedPreferences
import Almanac.Specification.Form

namespace Almanac

namespace Text

/-! ### Lower case and ASCII -/

def IsAscii (character : Char) : Prop := character.toNat < 128

instance (character : Char) : Decidable (IsAscii character) :=
  inferInstanceAs (Decidable (character.toNat < 128))

def IsAsciiText (text : List Char) : Prop := ∀ character ∈ text, IsAscii character

instance (text : List Char) : Decidable (IsAsciiText text) := List.decidableBAll _ text

/-- The letters a to z without k, to which no character falls that is not ASCII. -/
def IsSafeLetter (character : Char) : Prop :=
  97 ≤ character.toNat ∧ character.toNat ≤ 122 ∧ character.toNat ≠ 107

instance (character : Char) : Decidable (IsSafeLetter character) :=
  inferInstanceAs (Decidable (_ ∧ _ ∧ _))

theorem IsSafeLetter.isAscii {character : Char} (safe : IsSafeLetter character) :
    IsAscii character := by
  unfold IsSafeLetter at safe
  unfold IsAscii
  omega

theorem not_isSafeLetter_ofNat {code : Nat} (outside : 128 ≤ code) :
    ¬IsSafeLetter (Char.ofNat code) := by
  rcases toNat_ofNat_or code with place | isZero
  · unfold IsSafeLetter
    omega
  · rw [isZero]
    decide

theorem image_of_isAscii {character : Char} (ascii : IsAscii character) :
    lowerMapping.image character = [character.toLower] := by
  have table : ∀ code < 128,
      lowerMapping.image (Char.ofNat code) = [(Char.ofNat code).toLower] := by
    decide +kernel
  rw [← Char.ofNat_toNat character]
  exact table _ ascii

theorem lowerSeveral_outside : ∀ entry ∈ lowerMapping.several, ∃ code ∈ entry.2, 128 ≤ code := by
  decide

/-- Only the Kelvin sign moves from elsewhere into ASCII. -/
theorem lowerRuns_outside : ∀ run ∈ lowerMapping.runs,
    run.last < 128 ∨ 128 ≤ run.image ∨ run.first = run.last ∧ run.image = 107 := by
  decide +kernel

/-- A character that falls to such letters alone is ASCII. -/
theorem isAscii_of_image {character : Char}
    (safe : ∀ other ∈ lowerMapping.image character, IsSafeLetter other) : IsAscii character := by
  refine Nat.lt_of_not_le fun outside => ?_
  rcases lowerMapping.image_cases character with
    ⟨codes, listed, image⟩ | stays | ⟨run, inRuns, ⟨above, below, -⟩, moved⟩
  · obtain ⟨code, inCodes, codeOutside⟩ := lowerSeveral_outside _ listed
    rw [image, List.forall_mem_map] at safe
    exact not_isSafeLetter_ofNat codeOutside (safe code inCodes)
  · rw [stays, List.forall_mem_singleton] at safe
    exact absurd outside (Nat.not_le.2 safe.isAscii)
  · rw [moved, List.forall_mem_singleton] at safe
    rcases lowerRuns_outside run inRuns with inAscii | imageOutside | ⟨single, isKelvin⟩
    · omega
    · exact not_isSafeLetter_ofNat (imageOutside.trans (Nat.le_add_right _ _)) safe
    · have start : character.toNat - run.first = 0 := by omega
      rw [start, isKelvin] at safe
      revert safe
      decide

theorem isAscii_of_lowerImage {before rest : List Char} {character : Char}
    (safe : ∀ other ∈ lowerImage before character rest, IsSafeLetter other) :
    IsAscii character := by
  rcases lowerImage_cases before character rest with final | inside | alone
  · rw [final, List.forall_mem_singleton] at safe
    exact absurd safe (by decide)
  · rw [inside, List.forall_mem_singleton] at safe
    exact absurd safe (by decide)
  · exact isAscii_of_image (alone ▸ safe)

/-! ### Words without a look-alike -/

/-- In ASCII lower case is a matter of single letters. -/
theorem lowerAfter_of_isAsciiText {text : List Char} (ascii : IsAsciiText text)
    (before : List Char) : lowerAfter before text = text.map Char.toLower := by
  induction text generalizing before with
  | nil => rfl
  | cons character rest inductionHypothesis =>
    have here := ascii character List.mem_cons_self
    have noSigma : character ≠ 'Σ' := by
      rintro rfl
      exact absurd here (by decide)
    have behind := inductionHypothesis
      (fun other member => ascii other (List.mem_cons_of_mem _ member)) (character :: before)
    rw [lowerAfter_cons, lowerImage_of_ne noSigma, image_of_isAscii here, behind]
    rfl

theorem isAsciiText_of_lowerAfter {before text : List Char}
    (safe : ∀ character ∈ lowerAfter before text, IsSafeLetter character) : IsAsciiText text := by
  induction text generalizing before with
  | nil => exact fun _ member => absurd member List.not_mem_nil
  | cons character rest inductionHypothesis =>
    rw [lowerAfter_cons, List.forall_mem_append] at safe
    exact List.forall_mem_cons.2 ⟨isAscii_of_lowerImage safe.1, inductionHypothesis safe.2⟩

theorem toLower_eq_self {character : Char} (behind : 90 < character.toNat) :
    character.toLower = character := by
  unfold Char.toLower
  split
  · next capital => exact absurd (UInt32.le_iff_toNat_le.1 capital.2) (Nat.not_le.2 behind)
  · rfl

theorem isAscii_of_isAscii_toLower {character : Char} (ascii : IsAscii character.toLower) :
    IsAscii character := by
  refine Nat.lt_of_not_le fun outside => ?_
  rw [toLower_eq_self (by omega)] at ascii
  exact absurd outside (Nat.not_le.2 ascii)

/-- Two texts that differ in the case of ASCII letters only. -/
def SameUpToAsciiCase (text other : List Char) : Prop :=
  text.map Char.toLower = other.map Char.toLower

instance (text other : List Char) : Decidable (SameUpToAsciiCase text other) :=
  inferInstanceAs (Decidable (_ = _))

theorem isBlank_of_isSafeLetter_toLower {character : Char}
    (safe : IsSafeLetter character.toLower) : isBlank character = false := by
  have table : ∀ code < 128, IsSafeLetter (Char.ofNat code).toLower →
      isBlank (Char.ofNat code) = false := by
    decide +kernel
  have ascii := isAscii_of_isAscii_toLower safe.isAscii
  rw [← Char.ofNat_toNat character] at safe ⊢
  exact table character.toNat ascii safe

/-- Words in lower case to which only ASCII texts fall. -/
structure IsSafeWord (word : List Char) : Prop where
  nonempty : word ≠ []
  letters : ∀ letter ∈ word, IsSafeLetter letter

instance (word : List Char) : Decidable (IsSafeWord word) :=
  decidable_of_iff (word ≠ [] ∧ (word.all fun letter => decide (IsSafeLetter letter)) = true)
    ⟨fun both => ⟨both.1, by simpa using both.2⟩, fun safe => ⟨safe.1, by simpa using safe.2⟩⟩

namespace IsSafeWord

variable {word : List Char} (safe : IsSafeWord word)
include safe

theorem map_toLower : word.map Char.toLower = word := by
  refine (List.map_congr_left fun letter member => ?_).trans (List.map_id word)
  exact toLower_eq_self (Nat.lt_of_lt_of_le (by decide) (safe.letters letter member).1)

theorem isSafeLetter_of_same {text : List Char} (same : SameUpToAsciiCase text word) :
    ∀ character ∈ text, IsSafeLetter character.toLower := by
  intro character member
  have lowered : character.toLower ∈ word := by
    rw [← safe.map_toLower, ← same]
    exact List.mem_map_of_mem member
  exact safe.letters _ lowered

theorem isAsciiText_of_same {text : List Char} (same : SameUpToAsciiCase text word) :
    IsAsciiText text := fun character member =>
  isAscii_of_isAscii_toLower (safe.isSafeLetter_of_same same character member).isAscii

theorem isWord_of_same {text : List Char} (same : SameUpToAsciiCase text word) : IsWord text := by
  refine ⟨?_, fun character member =>
    isBlank_of_isSafeLetter_toLower (safe.isSafeLetter_of_same same character member)⟩
  rintro rfl
  exact safe.nonempty (safe.map_toLower.symm.trans same.symm)

/-- A text falls to such a word exactly if it is the word in some ASCII case. -/
theorem toLower_eq_iff (text : List Char) : toLower text = word ↔ SameUpToAsciiCase text word := by
  unfold SameUpToAsciiCase
  rw [safe.map_toLower]
  constructor
  · rintro rfl
    rw [toLower, lowerAfter_of_isAsciiText (isAsciiText_of_lowerAfter safe.letters)]
  · intro same
    have ascii := safe.isAsciiText_of_same (same.trans safe.map_toLower.symm)
    rw [toLower, lowerAfter_of_isAsciiText ascii, same]

end IsSafeWord

end Text

open Text
open Vocabulary (builtIn)

/-! ### Names in a configuration -/

/-- A text consists of a name in some case of its ASCII letters and blanks around it. -/
def Names (text : Option String) (name : String) : Prop :=
  ∃ before core behind : List Char, (text.getD "").toList = before ++ (core ++ behind) ∧
    IsBlankRun before ∧ IsBlankRun behind ∧ SameUpToAsciiCase core name.toList

theorem names_iff {name : String} (safe : IsSafeWord name.toList) (text : Option String) :
    Names text name ↔ SameUpToAsciiCase (strip (text.getD "").toList) name.toList := by
  constructor
  · rintro ⟨before, core, behind, around, isBefore, isBehind, same⟩
    rw [around, strip_append isBefore isBehind (safe.isWord_of_same same).isTrimmed]
    exact same
  · intro same
    obtain ⟨before, behind, isBefore, isBehind, around⟩ :=
      exists_append_strip (text.getD "").toList
    exact ⟨before, _, behind, around, isBefore, isBehind, same⟩

theorem eq_codeKey_iff {name : String} (safe : IsSafeWord name.toList) (text : Option String) :
    name = codeKey (text.getD "") ↔ Names text name := by
  rw [names_iff safe, ← safe.toLower_eq_iff, codeKey, ← String.toList_inj, String.toList_ofList,
    eq_comm]

theorem FirstDay.isSafeWord_name (firstDay : FirstDay) : IsSafeWord firstDay.name.toList := by
  cases firstDay <;> decide

theorem Vocabulary.isSafeWord_code :
    ∀ vocabulary ∈ builtIn, IsSafeWord vocabulary.code.toList := by
  decide

theorem FirstDay.ofText_eq_ok_iff_names (text : Option String) (firstDay : FirstDay) :
    ofText text = .ok firstDay ↔ Names text firstDay.name := by
  rw [ofText_eq_ok_iff, eq_codeKey_iff firstDay.isSafeWord_name]

theorem FirstDay.ofText_eq_error_iff_names (text : Option String) (unknown : UnknownFirstDay) :
    ofText text = .error unknown ↔
      ¬(Names text "monday" ∨ Names text "sunday") ∧ unknown = ⟨text⟩ := by
  have isMonday : codeKey (text.getD "") = "monday" ↔ Names text "monday" :=
    eq_comm.trans (eq_codeKey_iff monday.isSafeWord_name text)
  have isSunday : codeKey (text.getD "") = "sunday" ↔ Names text "sunday" :=
    eq_comm.trans (eq_codeKey_iff sunday.isSafeWord_name text)
  rw [ofText_eq_error_iff, List.mem_pair, isMonday, isSunday]

theorem Vocabulary.ofCode_eq_ok_iff_names (text : Option String) (vocabulary : Vocabulary) :
    ofCode text = .ok vocabulary ↔ vocabulary ∈ builtIn ∧ Names text vocabulary.code := by
  rw [ofCode_eq_ok_iff]
  exact and_congr_right fun atHand => eq_codeKey_iff (isSafeWord_code vocabulary atHand) text

theorem Vocabulary.ofCode_eq_error_iff_names (text : Option String) (unknown : UnknownLocale) :
    ofCode text = .error unknown ↔
      (∀ vocabulary ∈ builtIn, ¬Names text vocabulary.code) ∧ unknown = ⟨text⟩ := by
  have notAtHand : codeKey (text.getD "") ∉ codesAtHand ↔
      ∀ vocabulary ∈ builtIn, ¬vocabulary.code = codeKey (text.getD "") := by
    simp [codesAtHand]
  rw [ofCode_eq_error_iff, notAtHand]
  refine and_congr_left fun _ => forall₂_congr fun vocabulary atHand => ?_
  rw [eq_codeKey_iff (isSafeWord_code vocabulary atHand)]

/-! ### Keywords -/

theorem normalize_keyword : ∀ keyword ∈ Form.keywords.map Prod.fst,
    keyword.toList ≠ [] ∧ Specification.normalize (some keyword) = keyword.toList := by
  decide +kernel

/-- A text that folds to a keyword has the answer of the keyword. -/
theorem Resolver.resolve?_of_fold (resolver : Resolver) {text keyword : String}
    (isKeyword : keyword ∈ Form.keywords.map Prod.fst)
    (folds : foldCase (strip text.toList) = keyword.toList) :
    resolver.resolve? (some text) = resolver.resolve? (some keyword) := by
  obtain ⟨nonempty, kept⟩ := normalize_keyword keyword isKeyword
  have left : strip text.toList ≠ [] := by
    intro blank
    rw [blank] at folds
    exact nonempty folds.symm
  have same : Specification.normalize (some text) = Specification.normalize (some keyword) :=
    ((if_neg left).trans folds).trans kept.symm
  exact congrArg (fun text => resolver.firstAnswer text Form.all) same

/-- Spellings with a long s, a Kelvin sign and a ligature, and the keywords to which they fold. -/
def lookAlikes : List (String × String) :=
  [("yeſterday", "yesterday"), ("thiswee\u212A", "thisweek"), ("laﬆweek", "lastweek")]

theorem lookAlikes_fold : ∀ entry ∈ lookAlikes, ¬IsAsciiText entry.1.toList ∧
    entry.2 ∈ Form.keywords.map Prod.fst ∧
    foldCase (strip entry.1.toList) = entry.2.toList := by
  decide +kernel

/-! ### Names and keywords -/

/-- A text names a first weekday or a vocabulary at hand exactly if, without the blanks around it, it
is their name in some case of its ASCII letters. So no text with another character is accepted. A
text that folds to a keyword is read as the keyword instead, also with other characters in it. -/
theorem names_match_up_to_ascii_case :
    (∀ (text : Option String) (firstDay : FirstDay),
      FirstDay.ofText text = .ok firstDay ↔ Names text firstDay.name) ∧
    (∀ (text : Option String) (unknown : UnknownFirstDay),
      FirstDay.ofText text = .error unknown ↔
        ¬(Names text "monday" ∨ Names text "sunday") ∧ unknown = ⟨text⟩) ∧
    (∀ (text : Option String) (vocabulary : Vocabulary),
      Vocabulary.ofCode text = .ok vocabulary ↔
        vocabulary ∈ builtIn ∧ Names text vocabulary.code) ∧
    (∀ (text : Option String) (unknown : UnknownLocale),
      Vocabulary.ofCode text = .error unknown ↔
        (∀ vocabulary ∈ builtIn, ¬Names text vocabulary.code) ∧ unknown = ⟨text⟩) ∧
    (∀ text : Option String, (∃ firstDay, FirstDay.ofText text = .ok firstDay) ∨
        (∃ vocabulary, Vocabulary.ofCode text = .ok vocabulary) →
      IsAsciiText (strip (text.getD "").toList)) ∧
    (∀ text keyword : String, keyword ∈ Form.keywords.map Prod.fst →
      foldCase (strip text.toList) = keyword.toList → ∀ resolver : Resolver,
        resolver.resolve? (some text) = resolver.resolve? (some keyword)) ∧
    ∀ entry ∈ lookAlikes, ¬IsAsciiText entry.1.toList ∧
      entry.2 ∈ Form.keywords.map Prod.fst ∧
      foldCase (strip entry.1.toList) = entry.2.toList := by
  refine ⟨FirstDay.ofText_eq_ok_iff_names, FirstDay.ofText_eq_error_iff_names,
    Vocabulary.ofCode_eq_ok_iff_names, Vocabulary.ofCode_eq_error_iff_names, ?_, ?_,
    lookAlikes_fold⟩
  · rintro text (⟨firstDay, accepted⟩ | ⟨vocabulary, accepted⟩)
    · have safe := firstDay.isSafeWord_name
      have named := (FirstDay.ofText_eq_ok_iff_names text firstDay).1 accepted
      exact safe.isAsciiText_of_same ((names_iff safe text).1 named)
    · obtain ⟨atHand, named⟩ := (Vocabulary.ofCode_eq_ok_iff_names text vocabulary).1 accepted
      have safe := Vocabulary.isSafeWord_code vocabulary atHand
      exact safe.isAsciiText_of_same ((names_iff safe text).1 named)
  · intro text keyword isKeyword folds resolver
    exact resolver.resolve?_of_fold isKeyword folds

/-- A long s makes Sunday unknown, and yesterday is found with one. -/
theorem sunday_with_and_without_long_s :
    FirstDay.ofText (some "\u3000SuNdAy\n") = .ok .sunday ∧
    IsAsciiText (strip "\u3000SuNdAy\n".toList) ∧
    FirstDay.ofText (some "ſunday") = .error ⟨some "ſunday"⟩ ∧
    Vocabulary.ofCode (some " De ") = .ok Vocabulary.german ∧
    Vocabulary.ofCode (some "ｄｅ") = .error ⟨some "ｄｅ"⟩ ∧
    ∀ resolver : Resolver,
      resolver.resolve? (some "yeſterday") = resolver.resolve? (some "yesterday") := by
  obtain ⟨days, noDays, codes, noCodes, ascii, keywords, spellings⟩ := names_match_up_to_ascii_case
  have isSunday := (days (some "\u3000SuNdAy\n") .sunday).2 <|
    (names_iff FirstDay.sunday.isSafeWord_name _).2 (by decide +kernel)
  have isGerman : Vocabulary.german ∈ builtIn := List.mem_pair.2 (Or.inr rfl)
  have namesGerman : Names (some " De ") Vocabulary.german.code :=
    (names_iff (Vocabulary.isSafeWord_code _ isGerman) _).2 (by decide +kernel)
  have noDay : ¬(Names (some "ſunday") "monday" ∨ Names (some "ſunday") "sunday") :=
    not_or.2 ⟨mt (names_iff FirstDay.monday.isSafeWord_name _).1 (by decide +kernel),
      mt (names_iff FirstDay.sunday.isSafeWord_name _).1 (by decide +kernel)⟩
  have different : ∀ vocabulary ∈ builtIn,
      ¬SameUpToAsciiCase (strip "ｄｅ".toList) vocabulary.code.toList := by
    decide +kernel
  have noCode : ∀ vocabulary ∈ builtIn, ¬Names (some "ｄｅ") vocabulary.code :=
    fun vocabulary atHand => mt (names_iff (Vocabulary.isSafeWord_code vocabulary atHand) _).1
      (different vocabulary atHand)
  obtain ⟨-, isKeyword, folds⟩ := spellings ("yeſterday", "yesterday") List.mem_cons_self
  exact ⟨isSunday, ascii _ (Or.inl ⟨_, isSunday⟩), (noDays _ _).2 ⟨noDay, rfl⟩,
    (codes _ _).2 ⟨isGerman, namesGerman⟩, (noCodes _ _).2 ⟨noCode, rfl⟩,
    keywords _ _ isKeyword folds⟩

end Almanac
