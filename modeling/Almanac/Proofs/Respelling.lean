/-
This file proves that the answer to a text does not depend on how the text is spelled:
not on its letter case, not on the blanks around it, and not on how wide the gaps
between its words are. All that counts are the folded words, because a text in any
form stays in that form, and asks for the same, if its gaps change.
-/

import Mathlib.Logic.Relation
import Almanac.Proofs.Answers
import Almanac.Proofs.Folding

namespace Almanac

open Text

/-! ### Changes to a spelling -/

/-- A text and another one that differs from it in spelling only, by one change. -/
inductive Respells : List Char → List Char → Prop
  | front {text blanks : List Char} (areBlanks : IsBlankRun blanks) :
      Respells text (blanks ++ text)
  | back {text blanks : List Char} (areBlanks : IsBlankRun blanks) :
      Respells text (text ++ blanks)
  | gap {before gap other after : List Char} (isGap : IsGap gap) (isOther : IsGap other) :
      Respells (before ++ gap ++ after) (before ++ other ++ after)
  | letterCase {text other : List Char} (same : foldCase text = foldCase other) :
      Respells text other

/-- One change keeps the folded words. -/
theorem Respells.words_eq {text other : List Char} (respells : Respells text other) :
    words (foldCase text) = words (foldCase other) := by
  cases respells with
  | front areBlanks => rw [words_foldCase, words_foldCase, words_append_of_isBlankRun areBlanks]
  | back areBlanks => rw [words_foldCase, words_foldCase, words_append_blanks areBlanks]
  | gap isGap isOther =>
    rw [words_foldCase, words_foldCase, words_append_gap isGap, words_append_gap isOther]
  | letterCase same => rw [same]

/-- Any number of changes, there and back, keeps the folded words. -/
theorem words_eq_of_respelled {text other : List Char}
    (respelled : Relation.EqvGen Respells text other) :
    words (foldCase text) = words (foldCase other) := by
  induction respelled with
  | rel text other respells => exact respells.words_eq
  | refl text => rfl
  | symm text other _ inductionHypothesis => exact inductionHypothesis.symm
  | trans text between other _ _ first second => exact first.trans second

/-! ### What the words of a text spell -/

section Words

variable {text other : List Char} (trimmed : IsTrimmed other) (same : words text = words other)
include trimmed same

theorem eq_of_isWord (isWord : IsWord text) : other = text := by
  rw [words_of_isWord isWord] at same
  cases (words_eq_iff trimmed _).1 same.symm with
  | last _ => rfl
  | more _ _ rest => cases rest

theorem exists_gap {first gap second : List Char} (split : text = first ++ gap ++ second)
    (isFirst : IsWord first) (isGap : IsGap gap) (isSecond : IsWord second) :
    ∃ gap, IsGap gap ∧ other = first ++ gap ++ second := by
  rw [split, words_pair isFirst isGap isSecond] at same
  exact ((spaced_pair_iff _ _ _).1 ((words_eq_iff trimmed _).1 same.symm)).2.2

theorem exists_two_gaps {first gap second nextGap third : List Char}
    (split : text = first ++ gap ++ (second ++ nextGap ++ third)) (isFirst : IsWord first)
    (isGap : IsGap gap) (isSecond : IsWord second) (isNextGap : IsGap nextGap)
    (isThird : IsWord third) :
    ∃ gap, IsGap gap ∧ ∃ nextGap, IsGap nextGap ∧
      other = first ++ gap ++ (second ++ nextGap ++ third) := by
  rw [split, words_triple isFirst isGap isSecond isNextGap isThird] at same
  exact ((spaced_triple_iff _ _ _ _).1 ((words_eq_iff trimmed _).1 same.symm)).2.2.2

end Words

namespace Form

/-- The words of a text decide what it spells. -/
theorem Spells.of_words_eq {form : Form} {text other : List Char} {specification : Specification}
    (spells : Spells form text specification) (trimmed : IsTrimmed other)
    (same : words text = words other) : Spells form other specification := by
  cases spells with
  | today =>
    rw [eq_of_isWord trimmed same (isWord_of_any (by decide) rfl)]
    exact .today
  | yesterday =>
    rw [eq_of_isWord trimmed same (isWord_of_any (by decide) rfl)]
    exact .yesterday
  | thisWeek =>
    rw [eq_of_isWord trimmed same (isWord_of_any (by decide) rfl)]
    exact .thisWeek
  | lastWeek =>
    rw [eq_of_isWord trimmed same (isWord_of_any (by decide) rfl)]
    exact .lastWeek
  | nameYear isName isGap isYear =>
    obtain ⟨gap, isGap, rfl⟩ :=
      exists_gap trimmed same rfl isName.isWord isGap (isYear.isWord (by decide))
    exact .nameYear isName isGap isYear
  | yearName isYear isGap isName =>
    obtain ⟨gap, isGap, rfl⟩ :=
      exists_gap trimmed same rfl (isYear.isWord (by decide)) isGap isName.isWord
    exact .yearName isYear isGap isName
  | week isGap isNumber =>
    obtain ⟨gap, isGap, rfl⟩ :=
      exists_gap trimmed same rfl isWord_week isGap (isNumber.isWord (by decide))
    exact .week isGap isNumber
  | weekOfYear isGap isNumber isNextGap isYear =>
    obtain ⟨gap, isGap, nextGap, isNextGap, rfl⟩ :=
      exists_two_gaps trimmed same rfl isWord_week isGap (isNumber.isWord (by decide)) isNextGap
        (isYear.isWord (by decide))
    exact .weekOfYear isGap isNumber isNextGap isYear
  | @dates first before behind last firstDate lastDate isFirst isBefore isBehind isLast =>
    -- the points are a word of their own or part of one or both of the dates
    have isFirstWord := isFirst.isWord
    have isLastWord := isLast.isWord
    rcases isBefore.eq_nil_or_isGap with rfl | isGap
    · rcases isBehind.eq_nil_or_isGap with rfl | isNextGap
      · rw [eq_of_isWord trimmed same (isFirstWord.append (isWord_points.append isLastWord))]
        exact .dates isFirst isBefore isBehind isLast
      · obtain ⟨gap, isGap, rfl⟩ := exists_gap trimmed same (by simp)
          (isFirstWord.append isWord_points) isNextGap isLastWord
        simpa using Spells.dates isFirst isBefore isGap.2 isLast
    · rcases isBehind.eq_nil_or_isGap with rfl | isNextGap
      · obtain ⟨gap, isGap, rfl⟩ := exists_gap trimmed same (by simp)
          isFirstWord isGap (isWord_points.append isLastWord)
        simpa using Spells.dates isFirst isGap.2 isBehind isLast
      · obtain ⟨gap, isGap, nextGap, isNextGap, rfl⟩ :=
          exists_two_gaps trimmed same (by simp) isFirstWord isGap isWord_points isNextGap
            isLastWord
        simpa using Spells.dates isFirst isGap.2 isNextGap.2 isLast
  | date isDate =>
    rw [eq_of_isWord trimmed same isDate.isWord]
    exact .date isDate
  | lastDays isGap isNumber isNextGap isUnit =>
    obtain ⟨gap, isGap, nextGap, isNextGap, rfl⟩ :=
      exists_two_gaps trimmed same rfl isWord_last isGap (isNumber.isWord (by decide)) isNextGap
        (isWord_unit isUnit)
    exact .lastDays isGap isNumber isNextGap isUnit

/-- The words of a text decide what is read in it. -/
theorem read?_congr (form : Form) {text other : List Char} (trimmed : IsTrimmed text)
    (trimmedOther : IsTrimmed other) (same : words text = words other) :
    form.read? text = form.read? other := by
  refine Option.ext fun specification => ?_
  rw [read?_eq_some_iff trimmed, read?_eq_some_iff trimmedOther]
  exact ⟨fun spells => spells.of_words_eq trimmedOther same,
    fun spells => spells.of_words_eq trimmed same.symm⟩

end Form

/-! ### What the resolver answers -/

namespace Resolver

variable (resolver : Resolver)

theorem firstAnswer_congr {text other : List Char}
    (same : ∀ form : Form, form.read? text = form.read? other) (forms : List Form) :
    resolver.firstAnswer text forms = resolver.firstAnswer other forms := by
  induction forms with
  | nil => rfl
  | cons form rest inductionHypothesis =>
    rw [firstAnswer, firstAnswer, attempt, attempt, same form, inductionHypothesis]

/-- The words of a normalized text decide its answer. -/
theorem resolve?_congr {text other : Option String}
    (same : words (Specification.normalize text) = words (Specification.normalize other)) :
    resolver.resolve? text = resolver.resolve? other := by
  have trimmed := Specification.isTrimmed_normalize text
  have trimmedOther := Specification.isTrimmed_normalize other
  exact resolver.firstAnswer_congr
    (fun form => form.read?_congr trimmed trimmedOther same) Form.all

/-- Two spellings of a text have the same answer, a missing or blank text has that of the default,
and normalizing is idempotent and leaves a text that is not empty and has no blank at either end. -/
theorem spelling_immaterial :
    (∀ text other : String, Relation.EqvGen Respells text.toList other.toList →
      resolver.resolve? (some text) = resolver.resolve? (some other)) ∧
    (∀ text : Option String, IsBlankRun (text.getD "").toList →
      resolver.resolve? text = resolver.resolve? (some "today")) ∧
    (∀ text : Option String, Specification.normalize
      (some (String.ofList (Specification.normalize text))) = Specification.normalize text) ∧
    ∀ text : Option String, IsTrimmed (Specification.normalize text) := by
  refine ⟨?_, ?_, Specification.normalize_normalize, Specification.isTrimmed_normalize⟩
  · intro text other respelled
    have sameWords := words_eq_of_respelled respelled
    refine resolver.resolve?_congr ?_
    rw [Specification.words_normalize, Specification.words_normalize, Option.getD_some,
      Option.getD_some, sameWords]
  · intro text blank
    have noWords : words (text.getD "").toList = [] := words_append_blanks blank []
    refine resolver.resolve?_congr ?_
    rw [Specification.words_normalize, words_foldCase, noWords]
    rfl

/-- A ligature, letter case, blanks in front and a wide gap make no difference, and blanks alone are
no text. -/
theorem spelling_of_last_seven_days :
    let resolver : Resolver := ⟨.monday, .standard, .atStart ⟨738888, by decide, by decide⟩ none⟩
    Relation.EqvGen Respells "\t LAﬆ \n7 Days".toList "last 7 days".toList ∧
      resolver.resolve? (some "\t LAﬆ \n7 Days") = resolver.resolve? (some "last 7 days") ∧
      IsBlankRun "\t ".toList ∧
      resolver.resolve? (some "\t ") = resolver.resolve? (some "today") := by
  let resolver : Resolver := ⟨.monday, .standard, .atStart ⟨738888, by decide, by decide⟩ none⟩
  have blanks : IsBlankRun "\t ".toList := List.all_eq_true.1 rfl
  have isGap : IsGap " \n".toList := ⟨by decide, List.all_eq_true.1 rfl⟩
  have isSpace : IsGap " ".toList := ⟨by decide, List.all_eq_true.1 rfl⟩
  have stripped : Respells "LAﬆ \n7 Days".toList "\t LAﬆ \n7 Days".toList := .front blanks
  have folded : Respells "LAﬆ \n7 Days".toList "last \n7 days".toList :=
    .letterCase (by decide +kernel)
  have narrowed : Respells "last \n7 days".toList "last 7 days".toList :=
    @Respells.gap "last".toList _ _ "7 days".toList isGap isSpace
  have respelled : Relation.EqvGen Respells "\t LAﬆ \n7 Days".toList "last 7 days".toList :=
    .trans _ _ _ (.symm _ _ (.rel _ _ stripped)) (.trans _ _ _ (.rel _ _ folded) (.rel _ _ narrowed))
  exact ⟨respelled, resolver.spelling_immaterial.1 _ _ respelled, blanks,
    resolver.spelling_immaterial.2.1 (some "\t ") blanks⟩

end Resolver

end Almanac
