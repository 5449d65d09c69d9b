/-
This file proves that every answer can be asked for by its dates. A date that is
written out is a date in the sense of the forms, and normalizing leaves it as it is;
so two dates with points between them are answered with the run from one to the
other, and what any other text is answered with is such a run.
-/

import Almanac.Proofs.Answers
import Almanac.Proofs.Folding

namespace Almanac

open Text

/-! ### Written dates -/

theorem isNumeral_padded (width number : Nat) : IsNumeral width width (padded width number) where
  digits := List.all_eq_true.1 (all_isDigit_padded width number)
  least_le := (length_padded width number).ge
  le_most := (length_padded width number).le

theorem valueOf_padded_of_lt {width number : Nat} (small : number < Nat.pow 10 width) :
    valueOf (padded width number) = number := by
  rw [valueOf_padded, Nat.mod_eq_of_lt small]

theorem Month.length_le (leap : Bool) (month : Month) : month.length leap ≤ 31 := by
  cases leap <;> cases month <;> decide

/-- A date that is written out is read as that date. -/
theorem Date.isIsoDate_toIso (date : Date) : IsIsoDate date.toIso date := by
  have year : date.yearNumber < Nat.pow 10 4 :=
    date.yearNumber_le_last.trans_lt (by decide)
  have month : date.month.number < Nat.pow 10 2 :=
    date.month.number_mem.2.trans_lt (by decide)
  have day : date.day < Nat.pow 10 2 :=
    (date.day_bounds.2.trans (date.month.length_le _)).trans_lt (by decide)
  refine ⟨_, _, _, ?_, isNumeral_padded 4 date.yearNumber, isNumeral_padded 2 date.month.number,
    isNumeral_padded 2 date.day, ?_, ?_, ?_⟩
  · rw [Date.toIso, List.append_assoc, List.cons_append]
  · exact (valueOf_padded_of_lt year).symm
  · exact (valueOf_padded_of_lt month).symm
  · exact (valueOf_padded_of_lt day).symm

/-- The text of a date. -/
def writtenDate (date : Date) : String := String.ofList date.toIso

/-- The text of two dates with two points between them. -/
def writtenDates (first last : Date) : String :=
  String.ofList (first.toIso ++ (['.', '.'] ++ last.toIso))

/-! ### Normalized dates -/

/-- Digits, hyphens and points have no letter case. -/
theorem foldCase_eq_self_of_range {text : List Char}
    (inRange : ∀ character ∈ text, 45 ≤ character.toNat ∧ character.toNat ≤ 57) :
    foldCase text = text :=
  foldCase_eq_self fun character member =>
    CaseMapping.image_of_keeps digits_isFolded
      ⟨(inRange character member).1, (inRange character member).2, Nat.mod_one _⟩

/-- A text of digits, hyphens and points is normalized. -/
theorem normalize_eq_self_of_range {text : List Char} (nonempty : text ≠ [])
    (inRange : ∀ character ∈ text, 45 ≤ character.toNat ∧ character.toNat ≤ 57) :
    Specification.normalize (some (String.ofList text)) = text := by
  have isWord : IsWord text := by
    refine ⟨nonempty, fun character member => ?_⟩
    have bounds := inRange character member
    exact isBlank_eq_false (by omega) (by omega)
  exact Specification.normalize_eq_self isWord.isTrimmed (foldCase_eq_self_of_range inRange)

theorem inRange_of_digit_or_hyphen {character : Char}
    (plain : isDigit character = true ∨ character = '-') :
    45 ≤ character.toNat ∧ character.toNat ≤ 57 := by
  rcases plain with digit | rfl
  · have bounds := (isDigit_iff character).1 digit
    omega
  · decide

theorem points_inRange : ∀ character ∈ ['.', '.'],
    45 ≤ character.toNat ∧ character.toNat ≤ 57 := by
  have point : 45 ≤ '.'.toNat ∧ '.'.toNat ≤ 57 := by decide
  exact List.forall_mem_cons.2 ⟨point, List.forall_mem_singleton.2 point⟩

theorem toIso_inRange (date : Date) : ∀ character ∈ date.toIso,
    45 ≤ character.toNat ∧ character.toNat ≤ 57 := fun character member =>
  inRange_of_digit_or_hyphen (date.isIsoDate_toIso.digit_or_hyphen character member)

theorem normalize_writtenDate (date : Date) :
    Specification.normalize (some (writtenDate date)) = date.toIso :=
  normalize_eq_self_of_range date.isIsoDate_toIso.isWord.1 (toIso_inRange date)

theorem normalize_writtenDates (first last : Date) :
    Specification.normalize (some (writtenDates first last)) =
      first.toIso ++ (['.', '.'] ++ last.toIso) :=
  normalize_eq_self_of_range (List.append_ne_nil_of_left_ne_nil first.isIsoDate_toIso.isWord.1 _)
    (List.forall_mem_append.2 ⟨toIso_inRange first,
      List.forall_mem_append.2 ⟨points_inRange, toIso_inRange last⟩⟩)

namespace Resolver

variable (resolver : Resolver)

/-! ### Answers to written dates -/

/-- Two written dates are answered with the run from one to the other. -/
theorem resolve?_writtenDates (days : Days) :
    resolver.resolve? (some (writtenDates days.first days.last)) =
      .ok (some ⟨.dateRange, days, resolver.now.offset⟩) := by
  have noBlanks : IsBlankRun [] := List.forall_mem_nil _
  have spells : Form.dateRange.Spells
      (Specification.normalize (some (writtenDates days.first days.last)))
      (.dates days.first days.last) := by
    rw [normalize_writtenDates]
    exact .dates days.first.isIsoDate_toIso noBlanks noBlanks days.last.isIsoDate_toIso
  have given := (resolver.days_dates_eq_some_iff days.first days.last days).2 ⟨rfl, rfl⟩
  exact resolver.resolve?_of_spells spells given (by decide)

/-- A written date is answered with that date. -/
theorem resolve?_writtenDate (date : Date) : resolver.resolve? (some (writtenDate date)) =
    .ok (some ⟨.singleDate, .single date, resolver.now.offset⟩) := by
  have spells : Form.singleDate.Spells (Specification.normalize (some (writtenDate date)))
      (.date date) := by
    rw [normalize_writtenDate]
    exact .date date.isIsoDate_toIso
  exact resolver.resolve?_of_spells spells (resolver.days_date date) (by decide)

/-! ### Other texts and the dates of their answers -/

theorem resolve?_today : resolver.resolve? (some "today") =
    .ok (some ⟨.keyword, .single resolver.now.date, resolver.now.offset⟩) := by
  have spells : Form.keyword.Spells (Specification.normalize (some "today")) .today := .today
  exact resolver.resolve?_of_spells spells resolver.days_today (by decide)

/-- The last day up to today is today. -/
theorem resolve?_lastDay {text : Option String}
    (spells : Form.relativeDays.Spells (Specification.normalize text) (.lastDays 1)) :
    resolver.resolve? text =
      .ok (some ⟨.relativeDays, .single resolver.now.date, resolver.now.offset⟩) := by
  have given : resolver.days (.lastDays 1) = .ok (some (.single resolver.now.date)) := by
    refine (resolver.days_lastDays_eq_some_iff 1 _).2 ⟨Nat.le_refl 1, ?_⟩
    refine (Days.spanning_eq_ok_iff _ _ _).2 ⟨?_, rfl⟩
    exact (Int.sub_add_cancel resolver.place 1).symm
  exact resolver.resolve?_of_spells spells given (by decide)

/-- The dates of an answer, written out, have the same answer, and so has the date of an answer that
is one day. Today can be asked for by its name, as the last day, by its date, and by the run from
that date to itself. -/
theorem answers_as_dates :
    (∀ (text : Option String) (resolution : Resolution),
      resolver.resolve? text = .ok (some resolution) →
      let start := resolution.period.start.date
      let finish := resolution.period.finish.date
      (∃ again, resolver.resolve? (some (writtenDates start finish)) = .ok (some again) ∧
        again.form = .dateRange ∧ again.period = resolution.period) ∧
      (start = finish → ∃ again,
        resolver.resolve? (some (writtenDate start)) = .ok (some again) ∧
          again.form = .singleDate ∧ again.period = resolution.period)) ∧
    ∀ text ∈ ["today", "last 1 day", "last 1 days", writtenDate resolver.now.date,
        writtenDates resolver.now.date resolver.now.date],
      ∃ resolution, resolver.resolve? (some text) = .ok (some resolution) ∧
        resolution.period = (Days.single resolver.now.date).toPeriod resolver.now.offset := by
  refine ⟨?_, ?_⟩
  · intro text resolution answers
    have isPeriod : resolution.period = resolution.days.toPeriod resolver.now.offset := by
      rw [Resolution.period, resolver.offset_of_answer answers]
    refine ⟨⟨_, resolver.resolve?_writtenDates resolution.days, rfl, isPeriod.symm⟩, ?_⟩
    intro oneDay
    have single : resolution.days = .single resolution.days.first :=
      Days.ext_ordinals rfl (congrArg Date.ordinal oneDay).symm
    refine ⟨_, resolver.resolve?_writtenDate resolution.days.first, rfl, ?_⟩
    rw [isPeriod, single]
    rfl
  · have readsLastDay (text : String) (reads : Form.relativeDays.read?
        (Specification.normalize (some text)) = some (.lastDays 1)) :=
      resolver.resolve?_lastDay
        ((Form.read?_eq_some_iff (Specification.isTrimmed_normalize (some text)) _).1 reads)
    intro text member
    simp only [List.mem_cons, List.not_mem_nil, or_false] at member
    rcases member with rfl | rfl | rfl | rfl | rfl
    · exact ⟨_, resolver.resolve?_today, rfl⟩
    · exact ⟨_, readsLastDay "last 1 day" rfl, rfl⟩
    · exact ⟨_, readsLastDay "last 1 days" rfl, rfl⟩
    · exact ⟨_, resolver.resolve?_writtenDate resolver.now.date, rfl⟩
    · exact ⟨_, resolver.resolve?_writtenDates (.single resolver.now.date), rfl⟩

/-- The first week of 2024, asked for by its number and by its dates, and the day before January 3,
asked for by its name and by its date. -/
theorem first_days_of_2024_as_dates :
    let resolver : Resolver := ⟨.monday, .standard, .atStart ⟨738888, by decide, by decide⟩ none⟩
    (∃ week again, resolver.resolve? (some "Week 1 2024") = .ok (some week) ∧
      week.form = .weekNumber ∧
      resolver.resolve? (some (writtenDates week.period.start.date week.period.finish.date)) =
        .ok (some again) ∧ again.form = .dateRange ∧ again.period = week.period) ∧
    ∃ day again, resolver.resolve? (some "yesterday") = .ok (some day) ∧
      day.period.start.date = day.period.finish.date ∧
      resolver.resolve? (some (writtenDate day.period.start.date)) = .ok (some again) ∧
      again.form = .singleDate ∧ again.period = day.period := by
  let resolver : Resolver := ⟨.monday, .standard, .atStart ⟨738888, by decide, by decide⟩ none⟩
  let week : Days := ⟨⟨738886, by decide, by decide⟩, ⟨738892, by decide, by decide⟩, by decide⟩
  let yesterday : Days := .single ⟨738887, by decide, by decide⟩
  have answers : resolver.resolve? (some "Week 1 2024") =
      .ok (some ⟨.weekNumber, week, none⟩) := by decide +kernel
  have answersDay : resolver.resolve? (some "yesterday") =
      .ok (some ⟨.keyword, yesterday, none⟩) := by decide +kernel
  obtain ⟨⟨again, answersAgain, isRange, same⟩, -⟩ := resolver.answers_as_dates.1 _ _ answers
  obtain ⟨-, oneDay⟩ := resolver.answers_as_dates.1 _ _ answersDay
  obtain ⟨dayAgain, dayAnswersAgain, isDate, sameDay⟩ := oneDay rfl
  exact ⟨⟨_, again, answers, rfl, answersAgain, isRange, same⟩,
    _, dayAgain, answersDay, rfl, dayAnswersAgain, isDate, sameDay⟩

end Resolver

end Almanac
