/-
This file proves what can be read back from the report on a period. The line for
programs writes the year of a date without leading zeros, and the forms read a year of
four digits only; so the dates of the line ask for the period again exactly if it
starts in the year 1000 or later, and are no specification at all if it starts before.
-/

import Almanac.Report
import Almanac.Proofs.Periods
import Almanac.Proofs.WrittenDates

namespace Almanac

open Text

/-! ### Numerals without leading zeros -/

theorem digitChar_facts : ∀ number ∈ List.range 10, number.digitChar = digit number := by decide

/-- A numeral without leading zeros has as many digits as it needs. -/
theorem toDigits_eq_padded (number : Nat) :
    Nat.toDigits 10 number = padded (Nat.toDigits 10 number).length number := by
  induction number using Nat.strongRecOn with
  | ind number inductionHypothesis =>
    have last := digitChar_facts (number % 10) (List.mem_range.2 (Nat.mod_lt _ (by decide)))
    by_cases small : number < 10
    · rw [Nat.mod_eq_of_lt small] at last
      rw [Nat.toDigits_of_lt_base small, last, List.length_singleton, padded, padded,
        Nat.mod_eq_of_lt small, List.nil_append]
    · have front := inductionHypothesis (number / 10) (by omega)
      rw [Nat.toDigits_of_base_le (by decide) (by omega), List.length_append,
        List.length_singleton, padded, ← front, last]

namespace Date

/-- The year of a date without leading zeros. -/
def yearNumeral (date : Date) : List Char := (toString date.yearNumber).toList

theorem yearNumeral_eq_toDigits (date : Date) :
    date.yearNumeral = Nat.toDigits 10 date.yearNumber := by
  rw [yearNumeral, Nat.toString_eq_ofList_toDigits, String.toList_ofList]

theorem isDigit_of_mem_yearNumeral (date : Date) :
    ∀ character ∈ date.yearNumeral, isDigit character = true := by
  rw [yearNumeral_eq_toDigits, toDigits_eq_padded]
  exact List.all_eq_true.1 (all_isDigit_padded _ _)

theorem length_yearNumeral_le (date : Date) : date.yearNumeral.length ≤ 4 := by
  have small : date.yearNumber < 10 ^ 4 := date.yearNumber_le_last.trans_lt (by decide)
  rw [yearNumeral_eq_toDigits]
  exact (Nat.length_toDigits_le_iff (by decide) (by decide)).2 small

/-- The years of four digits are those from 1000 on. -/
theorem length_yearNumeral_eq_four_iff (date : Date) :
    date.yearNumeral.length = 4 ↔ 1000 ≤ date.yearNumber := by
  have atMost := date.length_yearNumeral_le
  have three : date.yearNumeral.length ≤ 3 ↔ date.yearNumber < 10 ^ 3 := by
    rw [yearNumeral_eq_toDigits]
    exact Nat.length_toDigits_le_iff (by decide) (by decide)
  omega

theorem plainForm_eq (date : Date) : date.plainForm =
    date.yearNumeral ++ '-' :: (padded 2 date.month.number ++ '-' :: padded 2 date.day) := by
  rw [plainForm, yearNumeral, List.append_assoc, List.cons_append]

theorem length_plainForm (date : Date) : date.plainForm.length = date.yearNumeral.length + 6 := by
  simp only [plainForm_eq, List.length_append, List.length_cons, length_padded]

/-- A date is written for programs as it is written out exactly if its year has four digits. -/
theorem plainForm_eq_toIso_iff (date : Date) :
    date.plainForm = date.toIso ↔ 1000 ≤ date.yearNumber := by
  rw [← length_yearNumeral_eq_four_iff, plainForm_eq, toIso, List.append_assoc, List.cons_append,
    List.append_left_inj, yearNumeral_eq_toDigits]
  constructor
  · intro same
    rw [same, length_padded]
  · intro four
    rw [toDigits_eq_padded, four]

theorem isDigit_or_hyphen_of_mem_plainForm (date : Date) : ∀ character ∈ date.plainForm,
    isDigit character = true ∨ character = '-' := by
  have month := List.all_eq_true.1 (all_isDigit_padded 2 date.month.number)
  have day := List.all_eq_true.1 (all_isDigit_padded 2 date.day)
  intro character member
  simp only [plainForm_eq, List.mem_append, List.mem_cons] at member
  rcases member with inYear | rfl | inMonth | rfl | inDay
  · exact Or.inl (date.isDigit_of_mem_yearNumeral character inYear)
  · exact Or.inr rfl
  · exact Or.inl (month character inMonth)
  · exact Or.inr rfl
  · exact Or.inl (day character inDay)

end Date

/-! ### The line for programs -/

/-- The characters in front of the first mark. -/
theorem takeWhile_append_cons {front : List Char} {mark : Char} (absent : mark ∉ front)
    (rest : List Char) : (front ++ mark :: rest).takeWhile (· ≠ mark) = front := by
  have kept : ∀ character ∈ front, decide (character ≠ mark) = true := by
    intro character member
    exact decide_eq_true (ne_of_mem_of_not_mem member absent)
  rw [List.takeWhile_append_of_pos kept, List.takeWhile_cons_of_neg (by simp), List.append_nil]

/-- The first line of a text. -/
def firstLine (text : String) : String := String.ofList (text.toList.takeWhile (· ≠ '\n'))

/-- The text of a date in the line for programs. -/
def printedDate (date : Date) : String := String.ofList date.plainForm

theorem printedDate_eq_writtenDate {date : Date} (fourDigits : 1000 ≤ date.yearNumber) :
    printedDate date = writtenDate date := by
  rw [printedDate, date.plainForm_eq_toIso_iff.2 fourDigits, writtenDate]

theorem toList_printedDate (date : Date) : (printedDate date).toList = date.plainForm :=
  String.toList_ofList

theorem Moment.hourMinute_atStart (date : Date) (offset : Option Offset) :
    (atStart date offset).hourMinute = "00:00".toList := by
  have time := time_atStart date offset
  simp only [Prod.mk.injEq] at time
  rw [hourMinute, time.1, time.2.1]
  rfl

theorem Moment.hourMinute_atEnd (date : Date) (offset : Option Offset) :
    (atEnd date offset).hourMinute = "23:59".toList := by
  have time := time_atEnd date offset
  simp only [Prod.mk.injEq] at time
  rw [hourMinute, time.1, time.2.1]
  rfl

/-- The line for whole days, given the texts of the first and the last of them. -/
def wholeDaysLine (first last : String) : String :=
  "Period: " ++ first ++ " 00:00 to " ++ last ++ " 23:59"

theorem plainLine_toPeriod (days : Days) (offset : Option Offset) :
    (days.toPeriod offset).plainLine =
      wholeDaysLine (printedDate days.first) (printedDate days.last) := by
  have start : (Moment.atStart days.first offset).plainForm =
      days.first.plainForm ++ " 00:00".toList := by
    rw [Moment.plainForm, Moment.hourMinute_atStart]
    rfl
  have finish : (Moment.atEnd days.last offset).plainForm =
      days.last.plainForm ++ " 23:59".toList := by
    rw [Moment.plainForm, Moment.hourMinute_atEnd]
    rfl
  have starts : (days.toPeriod offset).start = Moment.atStart days.first offset := rfl
  have finishes : (days.toPeriod offset).finish = Moment.atEnd days.last offset := rfl
  have joined : " 00:00" ++ " to " = " 00:00 to " := rfl
  rw [Period.plainLine, starts, finishes, start, finish, String.ofList_append,
    String.ofList_append, String.ofList_toList, String.ofList_toList, wholeDaysLine, printedDate,
    printedDate, ← joined]
  simp only [String.append_assoc]

theorem firstLine_report (days : Days) (offset : Option Offset) :
    firstLine (days.toPeriod offset).report =
      wholeDaysLine (printedDate days.first) (printedDate days.last) := by
  have dates (date : Date) : '\n' ∉ date.plainForm := by
    intro member
    rcases date.isDigit_or_hyphen_of_mem_plainForm _ member with digit | same
    · revert digit
      decide
    · cases same
  have oneLine : '\n' ∉ (days.toPeriod offset).plainLine.toList := by
    simp only [plainLine_toPeriod, wholeDaysLine, String.toList_append, toList_printedDate,
      List.mem_append, dates, or_false]
    decide
  have lines : (days.toPeriod offset).report.toList = (days.toPeriod offset).plainLine.toList ++
      '\n' :: (days.toPeriod offset).readableLine.toList := by
    rw [Period.report, String.toList_append, String.toList_append, List.append_assoc]
    rfl
  rw [firstLine, lines, takeWhile_append_cons oneLine, String.ofList_toList, plainLine_toPeriod]

/-- The line has the dates of a run as they are written out exactly if its first year has four
digits. -/
theorem wholeDaysLine_eq_iff (days : Days) :
    wholeDaysLine (printedDate days.first) (printedDate days.last) =
        wholeDaysLine (writtenDate days.first) (writtenDate days.last) ↔
      1000 ≤ days.first.yearNumber := by
  constructor
  · intro same
    -- a shorter year makes the line shorter, as no year has more than four digits
    have lengths := congrArg String.length same
    simp only [wholeDaysLine, printedDate, writtenDate, String.length_append, String.length_ofList,
      Date.length_plainForm, (Date.isIsoDate_toIso _).length] at lengths
    have short := days.last.length_yearNumeral_le
    have atMost := days.first.length_yearNumeral_le
    exact days.first.length_yearNumeral_eq_four_iff.1 (by omega)
  · intro fromFirst
    have fromLast := fromFirst.trans (Date.yearNumber_le_yearNumber days.first_le_last)
    rw [printedDate_eq_writtenDate fromFirst, printedDate_eq_writtenDate fromLast]

/-! ### Printed dates that are read -/

/-- The text of the two dates of a line for programs, with two points between them. -/
def printedDates (first last : Date) : String := printedDate first ++ ".." ++ printedDate last

theorem printedDates_eq (first last : Date) : printedDates first last =
    String.ofList (first.plainForm ++ (['.', '.'] ++ last.plainForm)) := by
  rw [String.ofList_append, String.ofList_append, ← String.append_assoc]
  rfl

/-- Years that need no leading zeros are printed as they are written out. -/
theorem printedDates_eq_writtenDates {first last : Date} (fromFirst : 1000 ≤ first.yearNumber)
    (fromLast : 1000 ≤ last.yearNumber) : printedDates first last = writtenDates first last := by
  rw [printedDates_eq, first.plainForm_eq_toIso_iff.2 fromFirst,
    last.plainForm_eq_toIso_iff.2 fromLast, writtenDates]

theorem normalize_printedDates (first last : Date) :
    Specification.normalize (some (printedDates first last)) =
      first.plainForm ++ (['.', '.'] ++ last.plainForm) := by
  have datesInRange (date : Date) : ∀ character ∈ date.plainForm,
      45 ≤ character.toNat ∧ character.toNat ≤ 57 := fun character member =>
    inRange_of_digit_or_hyphen (date.isDigit_or_hyphen_of_mem_plainForm character member)
  rw [printedDates_eq]
  exact normalize_eq_self_of_range (by simp) (List.forall_mem_append.2 ⟨datesInRange first,
    List.forall_mem_append.2 ⟨points_inRange, datesInRange last⟩⟩)

/-- A date that is written out begins with four digits and a hyphen. -/
theorem IsIsoDate.length_before_hyphen {text : List Char} {date : Date}
    (isDate : IsIsoDate text date) (rest : List Char) :
    ((text ++ rest).takeWhile (· ≠ '-')).length = 4 := by
  obtain ⟨year, month, day, rfl, isYear, -⟩ := isDate
  rw [List.append_assoc, List.cons_append, takeWhile_append_cons isYear.hyphen_not_mem]
  exact Nat.le_antisymm isYear.le_most isYear.least_le

/-- Every specification with a hyphen begins with four digits and a hyphen. -/
theorem Form.Spells.length_before_hyphen {form : Form} {text : List Char}
    {specification : Specification} (spells : form.Spells text specification)
    (hyphen : '-' ∈ text) : (text.takeWhile (· ≠ '-')).length = 4 := by
  have mark := spells.mark
  cases form with
  | keyword => exact absurd hyphen mark.1
  | monthYear => exact absurd hyphen mark.1
  | weekNumber => exact absurd hyphen mark.1
  | relativeDays => exact absurd hyphen mark.1
  | dateRange =>
    cases spells with
    | dates isFirst isBefore isBehind isLast => exact isFirst.length_before_hyphen _
  | singleDate =>
    cases spells with
    | date isDate =>
      have four := isDate.length_before_hyphen []
      rwa [List.append_nil] at four

namespace Resolver

variable (resolver : Resolver)

/-- A text that spells nothing has no answer. -/
theorem resolve?_eq_none {text : Option String} (nothing : ∀ form specification,
    ¬Form.Spells form (Specification.normalize text) specification) :
    resolver.resolve? text = .ok none := by
  have trimmed := Specification.isTrimmed_normalize text
  have passed (form : Form) : resolver.attempt (Specification.normalize text) form = .ok none :=
    (attempt_eq_none_iff resolver trimmed form).2 fun specification spells =>
      absurd spells (nothing form specification)
  have first := passed .keyword
  rwa [← resolve?_eq_attempt resolver fun other _ => passed other] at first

/-- Printed dates are answered with the run from one to the other if the first year has four digits,
and are no specification otherwise. -/
theorem resolve?_printedDates (days : Days) :
    resolver.resolve? (some (printedDates days.first days.last)) =
      .ok (if 1000 ≤ days.first.yearNumber then some ⟨.dateRange, days, resolver.now.offset⟩
        else none) := by
  split
  · next fourDigits =>
    have later := Date.yearNumber_le_yearNumber days.first_le_last
    rw [printedDates_eq_writtenDates fourDigits (fourDigits.trans later)]
    exact resolver.resolve?_writtenDates days
  · next fewDigits =>
    refine resolver.resolve?_eq_none fun form specification spells => fewDigits ?_
    rw [normalize_printedDates, days.first.plainForm_eq, List.append_assoc, List.cons_append]
      at spells
    have absent : '-' ∉ days.first.yearNumeral := by
      intro member
      have digit := days.first.isDigit_of_mem_yearNumeral _ member
      revert digit
      decide
    have four := spells.length_before_hyphen (List.mem_append_right _ List.mem_cons_self)
    rw [takeWhile_append_cons absent] at four
    exact days.first.length_yearNumeral_eq_four_iff.1 four

/-- The first line of the report on an answer has its dates, the first with its first minute and the
last with its last one. The dates are written out, and asking for them gives the period again,
exactly if the period starts in the year 1000 or later; an earlier year has fewer than four digits,
and then the dates have no answer. -/
theorem printed_dates_ask_again_iff {text : Option String} {resolution : Resolution}
    (answers : resolver.resolve? text = .ok (some resolution)) :
    let first := resolution.period.start.date
    let last := resolution.period.finish.date
    firstLine resolution.period.report = wholeDaysLine (printedDate first) (printedDate last) ∧
      (firstLine resolution.period.report = wholeDaysLine (writtenDate first) (writtenDate last) ↔
        1000 ≤ first.yearNumber) ∧
      ((∃ again, resolver.resolve? (some (printedDates first last)) = .ok (some again) ∧
        again.period = resolution.period) ↔ 1000 ≤ first.yearNumber) ∧
      (first.yearNumber < 1000 →
        resolver.resolve? (some (printedDates first last)) = .ok none) := by
  intro first last
  have isPeriod : resolution.period = resolution.days.toPeriod resolver.now.offset := by
    rw [Resolution.period, resolver.offset_of_answer answers]
  have line : firstLine resolution.period.report =
      wholeDaysLine (printedDate first) (printedDate last) := firstLine_report _ _
  have writtenOut : wholeDaysLine (printedDate first) (printedDate last) =
      wholeDaysLine (writtenDate first) (writtenDate last) ↔ 1000 ≤ first.yearNumber :=
    wholeDaysLine_eq_iff resolution.days
  have asked : resolver.resolve? (some (printedDates first last)) =
      .ok (if 1000 ≤ first.yearNumber then some ⟨.dateRange, resolution.days, resolver.now.offset⟩
        else none) := resolver.resolve?_printedDates resolution.days
  refine ⟨line, ?_, ⟨?_, ?_⟩, ?_⟩
  · rwa [line]
  · rintro ⟨again, answersAgain, -⟩
    by_contra early
    rw [if_neg early, answersAgain] at asked
    cases asked
  · intro fourDigits
    rw [if_pos fourDigits] at asked
    exact ⟨_, asked, isPeriod.symm⟩
  · intro early
    rwa [if_neg (Nat.not_le_of_lt early)] at asked

/-- The report on the first week of 2024, and its dates asked for. -/
theorem first_week_of_2024_asked_again :
    let resolver : Resolver := ⟨.monday, .standard, .atStart ⟨738888, by decide, by decide⟩ none⟩
    ∃ week again, resolver.resolve? (some "Week 1 2024") = .ok (some week) ∧
      firstLine week.period.report = "Period: 2024-01-01 00:00 to 2024-01-07 23:59" ∧
      resolver.resolve? (some "2024-01-01..2024-01-07") = .ok (some again) ∧
      again.period = week.period := by
  let resolver : Resolver := ⟨.monday, .standard, .atStart ⟨738888, by decide, by decide⟩ none⟩
  let days : Days := ⟨⟨738886, by decide, by decide⟩, ⟨738892, by decide, by decide⟩, by decide⟩
  have answers : resolver.resolve? (some "Week 1 2024") =
      .ok (some ⟨.weekNumber, days, none⟩) := by decide +kernel
  have fourDigits : 1000 ≤ days.first.yearNumber := by decide
  have texts : printedDates days.first days.last = "2024-01-01..2024-01-07" ∧
      wholeDaysLine (printedDate days.first) (printedDate days.last) =
        "Period: 2024-01-01 00:00 to 2024-01-07 23:59" := by decide +kernel
  obtain ⟨line, -, asksAgain, -⟩ := resolver.printed_dates_ask_again_iff answers
  obtain ⟨again, answersAgain, same⟩ := asksAgain.2 fourDigits
  rw [← texts.1]
  exact ⟨_, again, answers, line.trans texts.2, answersAgain, same⟩

/-- The first day of the year 999 has an answer. Its report has a year of three digits, and the dates
that it has are no specification, whereas the dates that are written out are one. -/
theorem year_999_is_not_asked_again :
    let resolver : Resolver := ⟨.monday, .standard, .atStart ⟨738888, by decide, by decide⟩ none⟩
    ∃ day, resolver.resolve? (some "0999-01-01") = .ok (some day) ∧
      firstLine day.period.report = "Period: 999-01-01 00:00 to 999-01-01 23:59" ∧
      firstLine day.period.report ≠ "Period: 0999-01-01 00:00 to 0999-01-01 23:59" ∧
      resolver.resolve? (some "999-01-01..999-01-01") = .ok none ∧
      ∃ again, resolver.resolve? (some "0999-01-01..0999-01-01") = .ok (some again) ∧
        again.period = day.period := by
  let day : Days := .single ⟨364513, by decide, by decide⟩
  exact ⟨⟨.singleDate, day, none⟩, by decide +kernel, by decide +kernel, by decide +kernel,
    by decide +kernel, ⟨.dateRange, day, none⟩, by decide +kernel, rfl⟩

end Resolver

end Almanac
