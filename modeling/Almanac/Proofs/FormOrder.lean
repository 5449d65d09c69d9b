/-
This file proves when the order matters in which the forms are tried. It does not as
long as no month is named `week`: then no text means something in two forms, and all
orders give the same answer or the same error. If a month has that name, a text such
as `week 0012` can be read as a month of year 12 and as a week of the current year,
and no other text has two readings; there the month comes first.
-/

import Almanac.Proofs.Answers

namespace Almanac

open Text

/-! ### Texts with two readings -/

/-- The word `week` and a year of four digits. -/
def IsWeekYear (text : List Char) (number : Nat) : Prop :=
  ∃ gap digits, text = "week".toList ++ gap ++ digits ∧ IsGap gap ∧ IsNumeral 4 4 digits ∧
    valueOf digits = number

namespace IsWeekYear

variable {text : List Char} {number : Nat} (weekYear : IsWeekYear text number)
include weekYear

theorem spells_month : Form.monthYear.Spells text (.month "week" number) := by
  obtain ⟨gap, digits, rfl, isGap, isYear, rfl⟩ := weekYear
  have isName : IsName "week".toList := ⟨by decide, List.all_eq_true.1 (by decide)⟩
  exact .nameYear isName isGap isYear

theorem spells_week : Form.weekNumber.Spells text (.week number none) := by
  obtain ⟨gap, digits, rfl, isGap, isYear, rfl⟩ := weekYear
  have isNumber : IsNumeral 1 9 digits :=
    ⟨isYear.digits, le_trans (by decide) isYear.least_le, isYear.le_most.trans (by decide)⟩
  exact .week isGap isNumber

end IsWeekYear

/-- What is spelled as a month and as a numbered week is the word `week` and a year. -/
theorem Form.Spells.isWeekYear {text : List Char} {month week : Specification}
    (asMonth : Form.monthYear.Spells text month) (asWeek : Form.weekNumber.Spells text week) :
    ∃ number, IsWeekYear text number := by
  obtain ⟨-, -, head⟩ := asWeek.mark
  cases asMonth with
  | nameYear isName isGap isYear =>
    rw [words_pair isName.isWord isGap (isYear.isWord (by decide))] at head
    rw [Option.some.inj head]
    exact ⟨_, _, _, rfl, isGap, isYear, rfl⟩
  | yearName isYear isGap isName =>
    rw [words_pair (isYear.isWord (by decide)) isGap isName.isWord] at head
    have startsWithDigit := isYear.digits 'w' (by rw [Option.some.inj head]; decide)
    exact absurd startsWithDigit (by decide)

namespace Resolver

variable (resolver : Resolver)

/-! ### Forms that settle a text -/

theorem answerable_of_days {specification : Specification} (noKeyword : ¬IsKeyword specification)
    (found : resolver.days specification ≠ .ok none) : resolver.Answerable specification := by
  by_contra unanswerable
  exact found (resolver.days_eq_none_of_not_answerable unanswerable noKeyword)

section Settled

variable {text : List Char} (trimmed : IsTrimmed text) {form other : Form}
include trimmed

theorem exists_spells_of_settled (settled : resolver.attempt text form ≠ .ok none) :
    ∃ specification, form.Spells text specification ∧
      resolver.days specification ≠ .ok none := by
  by_contra passed
  push Not at passed
  exact settled ((attempt_eq_none_iff resolver trimmed form).2 passed)

/-- A text that is spelled as a month and as a numbered week, neither of them passed over, is the
word `week` and a year, and it has an answer as each of them. -/
theorem isWeekYear_of_days {month week : Specification} (asMonth : Form.monthYear.Spells text month)
    (foundMonth : resolver.days month ≠ .ok none) (asWeek : Form.weekNumber.Spells text week)
    (foundWeek : resolver.days week ≠ .ok none) :
    ∃ number, IsWeekYear text number ∧ resolver.Answerable (.month "week" number) ∧
      resolver.Answerable (.week number none) := by
  obtain ⟨number, weekYear⟩ := asMonth.isWeekYear asWeek
  rw [weekYear.spells_month.unique trimmed asMonth] at foundMonth
  rw [weekYear.spells_week.unique trimmed asWeek] at foundWeek
  exact ⟨number, weekYear, resolver.answerable_of_days id foundMonth,
    resolver.answerable_of_days id foundWeek⟩

/-- If two forms do not pass a text over, it is the word `week` and a year, and it has an answer as
a month and as a week. -/
theorem isWeekYear_of_settled (settled : resolver.attempt text form ≠ .ok none)
    (settledOther : resolver.attempt text other ≠ .ok none) (different : form ≠ other) :
    ∃ number, IsWeekYear text number ∧ resolver.Answerable (.month "week" number) ∧
      resolver.Answerable (.week number none) := by
  obtain ⟨_, spells, found⟩ := resolver.exists_spells_of_settled trimmed settled
  obtain ⟨_, spellsOther, foundOther⟩ := resolver.exists_spells_of_settled trimmed settledOther
  rcases spells.form_eq spellsOther with same | ⟨rfl, rfl⟩ | ⟨rfl, rfl⟩
  · exact absurd same different
  · exact resolver.isWeekYear_of_days trimmed spells found spellsOther foundOther
  · exact resolver.isWeekYear_of_days trimmed spellsOther foundOther spells found

end Settled

/-! ### Orders of the forms -/

/-- Where no two forms settle a text, they can be tried in any order. -/
theorem firstAnswer_perm {text : List Char}
    (exclusive : ∀ form other, resolver.attempt text form ≠ .ok none →
      resolver.attempt text other ≠ .ok none → form = other)
    {forms others : List Form} (reordered : forms.Perm others) :
    resolver.firstAnswer text forms = resolver.firstAnswer text others := by
  induction reordered with
  | nil => rfl
  | cons form _ inductionHypothesis => rw [firstAnswer, firstAnswer, inductionHypothesis]
  | swap form other rest =>
    by_cases passed : resolver.attempt text form = .ok none
    · by_cases passedOther : resolver.attempt text other = .ok none
      · rw [firstAnswer_cons_of_none resolver _ passedOther,
          firstAnswer_cons_of_none resolver _ passed, firstAnswer_cons_of_none resolver _ passed,
          firstAnswer_cons_of_none resolver _ passedOther]
      · rw [firstAnswer_cons_of_settled resolver _ passedOther,
          firstAnswer_cons_of_none resolver _ passed,
          firstAnswer_cons_of_settled resolver _ passedOther]
    · by_cases passedOther : resolver.attempt text other = .ok none
      · rw [firstAnswer_cons_of_none resolver _ passedOther,
          firstAnswer_cons_of_settled resolver _ passed,
          firstAnswer_cons_of_settled resolver _ passed]
      · rw [exclusive form other passed passedOther]
  | trans _ _ first second => exact first.trans second

/-- If no month is named `week`, at most one form does not pass a text over, and the forms can be
tried in any order. If a month has that name, two forms have an answer to the same text exactly if
it is the word `week` and a year whose number is that of a week which the current year has; then the
answer is that month of that year. -/
theorem order_matters_only_for_week_names :
    (resolver.lexicon.lookup? "week" = none → ∀ text : Option String,
      (∀ form other, resolver.attempt (Specification.normalize text) form ≠ .ok none →
        resolver.attempt (Specification.normalize text) other ≠ .ok none → form = other) ∧
      ∀ forms : List Form, forms.Perm Form.all →
        resolver.firstAnswer (Specification.normalize text) forms = resolver.resolve? text) ∧
    ∀ month, resolver.lexicon.lookup? "week" = some month → ∀ text : Option String,
      ((∃ form other, form ≠ other ∧
          (∃ first, resolver.attempt (Specification.normalize text) form = .ok (some first)) ∧
          ∃ second, resolver.attempt (Specification.normalize text) other = .ok (some second)) ↔
        ∃ number : Nat, IsWeekYear (Specification.normalize text) number ∧
          (1 ≤ number ∧ number ≤ 53) ∧
          ∃ period, Period.numberedWeek resolver.now.date.yearNumber number resolver.firstDay
            resolver.now.offset = .ok period) ∧
      ∀ number : Nat, IsWeekYear (Specification.normalize text) number → 1 ≤ number → number ≤ 53 →
        ∃ year : Year, year.number = number ∧ resolver.resolve? text =
          .ok (some ⟨.monthYear, Days.month year month, resolver.now.offset⟩) := by
  refine ⟨?_, ?_⟩
  · intro unnamed text
    have trimmed := Specification.isTrimmed_normalize text
    have exclusive : ∀ form other,
        resolver.attempt (Specification.normalize text) form ≠ .ok none →
        resolver.attempt (Specification.normalize text) other ≠ .ok none → form = other := by
      intro form other settled settledOther
      by_contra different
      obtain ⟨_, -, ⟨⟨month, named⟩, -⟩, -⟩ :=
        resolver.isWeekYear_of_settled trimmed settled settledOther different
      rw [unnamed] at named
      cases named
    exact ⟨exclusive, fun forms reordered => resolver.firstAnswer_perm exclusive reordered⟩
  · intro month named text
    have trimmed := Specification.isTrimmed_normalize text
    refine ⟨⟨?_, ?_⟩, ?_⟩
    · rintro ⟨form, other, different, ⟨first, answers⟩, second, answersOther⟩
      obtain ⟨number, weekYear, -, week⟩ := resolver.isWeekYear_of_settled trimmed
        (by rw [answers]; simp) (by rw [answersOther]; simp) different
      exact ⟨number, weekYear, week⟩
    · rintro ⟨number, weekYear, inRange, isWeek⟩
      have inCalendar : 1 ≤ number ∧ number ≤ lastYear :=
        ⟨inRange.1, inRange.2.trans (by decide)⟩
      refine ⟨.monthYear, .weekNumber, by decide, ?_, ?_⟩
      · exact (exists_attempt_iff resolver trimmed _).2
          ⟨_, weekYear.spells_month, ⟨month, named⟩, inCalendar⟩
      · exact (exists_attempt_iff resolver trimmed _).2
          ⟨_, weekYear.spells_week, inRange, isWeek⟩
    · intro number weekYear positive small
      let year : Year := ⟨number, positive, small.trans (by decide)⟩
      have given := (resolver.days_month_eq_some_iff "week" number (Days.month year month)).2
        ⟨month, named, year, rfl, rfl⟩
      exact ⟨year, rfl, resolver.resolve?_of_spells weekYear.spells_month given (by decide)⟩

/-- Without a month of that name `week 0012` has one answer in every order of the forms; with one,
it is that month of year 12. -/
theorem week_0012_is_a_month :
    let now := Moment.atStart ⟨738888, by decide, by decide⟩ none
    let plain : Resolver := ⟨.monday, .standard, now⟩
    let named : Resolver := ⟨.monday, .ofVocabularies [⟨"x", .ofList [("week", .march)]⟩], now⟩
    (plain.lexicon.lookup? "week" = none ∧
      plain.firstAnswer (Specification.normalize (some "week 0012")) Form.all.reverse =
        plain.resolve? (some "week 0012")) ∧
    named.lexicon.lookup? "week" = some .march ∧
      IsWeekYear (Specification.normalize (some "week 0012")) 12 ∧
      ∃ year : Year, year.number = 12 ∧ named.resolve? (some "week 0012") =
        .ok (some ⟨.monthYear, Days.month year .march, none⟩) := by
  let now := Moment.atStart ⟨738888, by decide, by decide⟩ none
  let plain : Resolver := ⟨.monday, .standard, now⟩
  let named : Resolver := ⟨.monday, .ofVocabularies [⟨"x", .ofList [("week", .march)]⟩], now⟩
  have unnamed : plain.lexicon.lookup? "week" = none := rfl
  have march : named.lexicon.lookup? "week" = some .march := rfl
  have weekYear : IsWeekYear (Specification.normalize (some "week 0012")) 12 :=
    ⟨" ".toList, "0012".toList, rfl, ⟨by decide, List.forall_mem_singleton.2 rfl⟩,
      ⟨List.all_eq_true.1 rfl, by decide, by decide⟩, rfl⟩
  exact ⟨⟨unnamed, (plain.order_matters_only_for_week_names.1 unnamed _).2 _
      (List.reverse_perm Form.all)⟩, march, weekYear,
    (named.order_matters_only_for_week_names.2 .march march _).2 12 weekYear (by decide)
      (by decide)⟩

end Resolver

end Almanac
