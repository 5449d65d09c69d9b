/-
This file proves which names of a lexicon can be used before or behind a year. A name
is kept in its plain form, and normalizing brings every spelling of it to that form; so
the month is found exactly if the plain form is a run of letters. Any other name is no
single word, or one that is no name in the sense of the forms.
-/

import Almanac.Proofs.Lexicons
import Almanac.Proofs.Respelling
import Almanac.Proofs.WrittenDates

namespace Almanac

open Text

/-! ### The words of a name and a year -/

theorem IsNumeral.foldCase_eq {least most : Nat} {digits : List Char}
    (numeral : IsNumeral least most digits) : foldCase digits = digits := by
  refine foldCase_eq_self_of_range fun character member => ?_
  have bounds := (isDigit_iff character).1 (numeral.digits character member)
  omega

/-- The words of a normalized text are its folded words, if it has any. -/
theorem words_normalize_of_words {text : String} {list : List (List Char)}
    (split : (words text.toList).map foldCase = list) (nonempty : list ≠ []) :
    words (Specification.normalize (some text)) = list := by
  rw [Specification.words_normalize, Option.getD_some, words_foldCase, split, if_neg nonempty]

section NameAndYear

variable {key name gap digits : String} (folds : foldCase name.toList = key.toList)
  (isGap : IsGap gap.toList) (isYear : IsNumeral 4 4 digits.toList)
include folds isGap isYear

theorem words_before_year :
    words (Specification.normalize (some (name ++ gap ++ digits))) =
      words key.toList ++ [digits.toList] := by
  refine words_normalize_of_words ?_ (by simp)
  rw [String.toList_append, String.toList_append, words_append_gap isGap, List.map_append,
    ← words_foldCase, folds, words_of_isWord (isYear.isWord (by decide)), List.map_singleton,
    isYear.foldCase_eq]

theorem words_behind_year :
    words (Specification.normalize (some (digits ++ gap ++ name))) =
      digits.toList :: words key.toList := by
  refine words_normalize_of_words ?_ (by simp)
  rw [String.toList_append, String.toList_append, words_append_gap isGap, List.map_append,
    ← words_foldCase name.toList, folds, words_of_isWord (isYear.isWord (by decide)),
    List.map_singleton, isYear.foldCase_eq, List.singleton_append]

end NameAndYear

/-! ### Names that are words -/

/-- A plain name whose only word is a name is that name. -/
theorem IsPlain.isName {key : String} (plain : IsPlain key) {word : List Char}
    (alone : words key.toList = [word]) (isName : IsName word) : IsName key.toList := by
  have nonempty : key.toList ≠ [] := by
    intro none
    rw [none] at alone
    cases alone
  have sameWords : words word = words key.toList :=
    (words_of_isWord isName.isWord).trans alone.symm
  rw [eq_of_isWord (plain.trimmed nonempty) sameWords isName.isWord]
  exact isName

section Spelled

variable {key : String} (plain : IsPlain key) {text digits : List Char}
  (isYear : IsNumeral 4 4 digits) {specification : Specification}
  (spells : Form.monthYear.Spells text specification)
include plain isYear spells

/-- A text that is a month by its form has two words, a name and a year. If one of them is known to
be the year, the other one is the name. -/
theorem isName_of_spells
    (split : words text = words key.toList ++ [digits] ∨ words text = digits :: words key.toList) :
    IsName key.toList := by
  have noName (word : List Char) (isName : IsName word) : word ≠ digits := by
    rintro rfl
    exact isName.not_isNumeral isYear
  cases spells with
  | @nameYear name gap year isName isGap isNumeral =>
    rw [words_pair isName.isWord isGap (isNumeral.isWord (by decide))] at split
    rcases split with behind | front
    · have same : [name] ++ [year] = words key.toList ++ [digits] := behind
      exact plain.isName (List.append_inj_left' same rfl).symm isName
    · exact absurd (List.cons.inj front).1 (noName name isName)
  | @yearName year gap name isNumeral isGap isName =>
    rw [words_pair (isNumeral.isWord (by decide)) isGap isName.isWord] at split
    rcases split with behind | front
    · have same : [year] ++ [name] = words key.toList ++ [digits] := behind
      exact absurd (List.singleton_inj.1 (List.append_inj_right' same rfl)) (noName name isName)
    · exact plain.isName (List.cons.inj front).2.symm isName

end Spelled

namespace Resolver

/-- A name and a year are answered with the month that the name stands for. -/
theorem resolve?_of_named_month {resolver : Resolver} {key : String} {month : Month}
    (found : resolver.lexicon.lookup? key = some month) (isName : IsName key.toList) (year : Year)
    {text : String}
    (split : words (Specification.normalize (some text)) = [key.toList, padded 4 year.number] ∨
      words (Specification.normalize (some text)) = [padded 4 year.number, key.toList]) :
    resolver.resolve? (some text) =
      .ok (some ⟨.monthYear, Days.month year month, resolver.now.offset⟩) := by
  have trimmed := Specification.isTrimmed_normalize (some text)
  have isYear := isNumeral_padded 4 year.number
  have isYearWord := isYear.isWord (by decide)
  have isSpace : IsGap [' '] := ⟨List.cons_ne_nil _ _, List.all_eq_true.1 rfl⟩
  have small : year.number < Nat.pow 10 4 := year.le_last.trans_lt (by decide)
  have given := (resolver.days_month_eq_some_iff key year.number (Days.month year month)).2
    ⟨month, found, year, rfl, rfl⟩
  refine resolver.resolve?_of_spells ?_ given (by decide)
  rcases split with before | behind
  · have spells := Form.Spells.nameYear isName isSpace isYear
    rw [String.ofList_toList, valueOf_padded_of_lt small] at spells
    exact spells.of_words_eq trimmed
      ((words_pair isName.isWord isSpace isYearWord).trans before.symm)
  · have spells := Form.Spells.yearName isYear isSpace isName
    rw [String.ofList_toList, valueOf_padded_of_lt small] at spells
    exact spells.of_words_eq trimmed
      ((words_pair isYearWord isSpace isName.isWord).trans behind.symm)

/-- A name of a lexicon that was put together from drafts, in any letter case, before or behind a
year and with any blanks between them, is answered with the month that it stands for, if its plain
form is a run of letters. Otherwise neither text is a month by its form. -/
theorem registered_name_answers {drafts : List Draft} {vocabularies : List Vocabulary}
    (accepted : drafts.mapM Draft.read = .ok vocabularies) (firstDay : FirstDay) (now : Moment)
    {key : String} (registered : key ∈ (Lexicon.ofVocabularies vocabularies).months.keys)
    {name gap : String} (folds : foldCase name.toList = key.toList) (isGap : IsGap gap.toList)
    (year : Year) :
    let resolver : Resolver := ⟨firstDay, .ofVocabularies vocabularies, now⟩
    let digits := String.ofList (padded 4 year.number)
    let texts := [name ++ gap ++ digits, digits ++ gap ++ name]
    (IsName key.toList → ∃ month days, resolver.lexicon.lookup? key = some month ∧
      Days.numberedMonth year.number month.number = .ok days ∧
      ∀ text ∈ texts, resolver.resolve? (some text) =
        .ok (some ⟨.monthYear, days, now.offset⟩)) ∧
    (¬IsName key.toList → ∀ text ∈ texts,
      resolver.attempt (Specification.normalize (some text)) .monthYear = .ok none) := by
  intro resolver digits texts
  have plain := Lexicon.isPlain_of_mem_keys accepted registered
  have spelled : digits.toList = padded 4 year.number := String.toList_ofList
  have isYear : IsNumeral 4 4 digits.toList := by
    rw [spelled]
    exact isNumeral_padded 4 year.number
  have split : ∀ text ∈ texts,
      words (Specification.normalize (some text)) = words key.toList ++ [digits.toList] ∨
        words (Specification.normalize (some text)) = digits.toList :: words key.toList :=
    List.forall_mem_cons.2 ⟨Or.inl (words_before_year folds isGap isYear),
      List.forall_mem_singleton.2 (Or.inr (words_behind_year folds isGap isYear))⟩
  refine ⟨fun isName => ?_, fun noName text member => ?_⟩
  · obtain ⟨month, found⟩ := (Table.mem_keys_iff _ key).1 registered
    rw [← Lexicon.lookup?_of_isPlain plain] at found
    refine ⟨month, Days.month year month, found,
      (numberedMonth_eq_ok_iff _ _ _).2 ⟨year, rfl, rfl⟩, fun text member => ?_⟩
    have oneWord := split text member
    rw [words_of_isWord isName.isWord, spelled] at oneWord
    exact resolve?_of_named_month found isName year oneWord
  · exact (attempt_eq_none_iff resolver (Specification.isTrimmed_normalize _) _).2
      fun _ spells => absurd (isName_of_spells plain isYear spells (split text member)) noName

/-- The German March can be written in capitals, before its year and behind it. A month named `Q1`
cannot be asked for, as its name holds a digit. -/
theorem march_of_2024_in_german :
    let now := Moment.atStart ⟨738888, by decide, by decide⟩ none
    let resolver : Resolver := ⟨.sunday, .ofVocabularies Vocabulary.builtIn, now⟩
    let quarters : Resolver := ⟨.sunday, .ofVocabularies [⟨"q", .ofList [("q1", .january)]⟩], now⟩
    (IsName "märz".toList ∧ ∃ month days, resolver.lexicon.lookup? "märz" = some month ∧
      Days.numberedMonth 2024 month.number = .ok days ∧
      resolver.resolve? (some "MÄRZ \t2024") = .ok (some ⟨.monthYear, days, none⟩) ∧
      resolver.resolve? (some "2024 \tMÄRZ") = .ok (some ⟨.monthYear, days, none⟩)) ∧
    ¬IsName "q1".toList ∧
      quarters.attempt (Specification.normalize (some "Q1 2024")) .monthYear = .ok none := by
  let now := Moment.atStart ⟨738888, by decide, by decide⟩ none
  let year : Year := ⟨2024, by decide, by decide⟩
  have isName : IsName "märz".toList := ⟨by decide, List.all_eq_true.1 (by decide +kernel)⟩
  have registered : "märz" ∈ (Lexicon.ofVocabularies Vocabulary.builtIn).months.keys := by
    decide +kernel
  have folds : foldCase "MÄRZ".toList = "märz".toList := by decide +kernel
  have isGap : IsGap " \t".toList := ⟨by decide, List.all_eq_true.1 rfl⟩
  obtain ⟨month, days, found, given, answers⟩ := (registered_name_answers
    Vocabulary.builtIn_accepted .sunday now registered folds isGap year).1 isName
  have noName : ¬IsName "q1".toList := by
    intro isName
    have letter := isName.letters '1' (by decide)
    rw [isLetter_eq_false (by decide) (by decide)] at letter
    cases letter
  have isSpace : IsGap " ".toList := ⟨by decide, List.all_eq_true.1 rfl⟩
  have accepted : [(⟨"Q", .ofList [("Q1 ", 1)]⟩ : Draft)].mapM Draft.read =
      .ok [⟨"q", .ofList [("q1", .january)]⟩] := rfl
  have foldsQuarter : foldCase "Q1".toList = "q1".toList := by decide +kernel
  have passes := (registered_name_answers accepted .sunday now (by decide) foldsQuarter isSpace
    year).2 noName
  exact ⟨⟨isName, month, days, found, given, answers _ (by decide +kernel),
    answers _ (by decide +kernel)⟩, noName, passes _ (by decide +kernel)⟩

end Resolver

end Almanac
