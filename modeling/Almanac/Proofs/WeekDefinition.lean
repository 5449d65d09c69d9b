/-
This file compares the question for a numbered week with the definition of numbered
weeks. By the definition week 1 of a year starts on the first date on or after January 1
that falls on the first weekday, and every further week starts seven days later. The
question takes a detour over the week that holds January 1. The two agree for all
numbers, causes of failure included, save in one place: if weeks start on Sunday, the
detour leaves the calendar in year 1, and the question refuses weeks that the calendar
holds.
-/

import Mathlib.Order.Bounds.Basic
import Almanac.Proofs.WeekNumbers

namespace Almanac

/-! ### The definition of numbered weeks -/

/-- The date on which week 1 of a year starts: the first one on or after January 1 that falls on the
first weekday. -/
def IsFirstWeekStart (year : Year) (firstDay : FirstDay) (date : Date) : Prop :=
  IsLeast {date | Date.newYear year ≤ date ∧ date.weekday = firstDay.weekday} date

/-- The seven dates that start a number of days after a date. -/
def IsWeekAfter (date : Date) (days : Int) (week : Days) : Prop :=
  date.shift days = .ok week.first ∧ week.first.shift 6 = .ok week.last

/-- What the definition answers to the question for the week of a year with a number. The number of
the week is looked at first, then whether the year fits into a word, then whether the calendar has
it; what is left is answered with seven dates, if the calendar holds them. -/
inductive IsDefinedWeek (year number : Int) (firstDay : FirstDay) (offset : Option Offset) :
    Except CalendarError Period → Prop
  | noSuchWeek (outside : ¬(1 ≤ number ∧ number ≤ 53)) :
      IsDefinedWeek year number firstDay offset (.error (.weekOutOfRange number))
  | wideYear (inRange : 1 ≤ number ∧ number ≤ 53) (wide : fitsWord year = false) :
      IsDefinedWeek year number firstDay offset (.error .outsideCalendar)
  | noSuchYear (inRange : 1 ≤ number ∧ number ≤ 53) (fits : fitsWord year = true)
      (outside : ¬(1 ≤ year ∧ year ≤ lastYear)) :
      IsDefinedWeek year number firstDay offset (.error (.yearOutOfRange year))
  | held (inRange : 1 ≤ number ∧ number ≤ 53) (known : Year) (isYear : (known.number : Int) = year)
      (start : Date) (isStart : IsFirstWeekStart known firstDay start)
      (week : Days) (isWeek : IsWeekAfter start (7 * (number - 1)) week) :
      IsDefinedWeek year number firstDay offset (.ok (week.toPeriod offset))
  | notHeld (inRange : 1 ≤ number ∧ number ≤ 53) (known : Year)
      (isYear : (known.number : Int) = year)
      (start : Date) (isStart : IsFirstWeekStart known firstDay start)
      (without : ¬∃ week, IsWeekAfter start (7 * (number - 1)) week) :
      IsDefinedWeek year number firstDay offset (.error .outsideCalendar)

/-! ### The definition by places -/

theorem isFirstWeekStart_iff (year : Year) (firstDay : FirstDay) (date : Date) :
    IsFirstWeekStart year firstDay date ↔
      (date.ordinal : Int) = firstWeekPlace year.number firstDay := by
  have bounds := firstWeekPlace_bounds year.number firstDay
  have starts := firstWeekPlace_emod year.number firstDay
  have member (other : Date) :
      other ∈ {date | Date.newYear year ≤ date ∧ date.weekday = firstDay.weekday} ↔
        daysBeforeYear year.number + 1 ≤ other.ordinal ∧
          other.ordinal % 7 = firstDay.weekday := Iff.rfl
  constructor
  · rintro ⟨inYear, least⟩
    obtain ⟨start, place⟩ := exists_firstWeekStart year firstDay
    have upTo : date.ordinal ≤ start.ordinal := least ((member start).2 (by omega))
    have here := (member date).1 inYear
    omega
  · intro place
    refine ⟨(member date).2 (by omega), fun other inYear => ?_⟩
    have there := (member other).1 inYear
    change date.ordinal ≤ other.ordinal
    omega

theorem isWeekAfter_iff (date : Date) (days : Int) (week : Days) :
    IsWeekAfter date days week ↔
      Days.spanning (date.ordinal + days) (date.ordinal + days + 6) = .ok week := by
  unfold IsWeekAfter
  rw [Date.shift_eq_ok_iff, Date.shift_eq_ok_iff, Days.spanning_eq_ok_iff]
  omega

section

variable {year number : Int} {firstDay : FirstDay} {offset : Option Offset}
  {answer : Except CalendarError Period}

/-- The definition answers with the week `number - 1` weeks after the place of week 1. -/
theorem isDefinedWeek_iff_of_year (known : Year) (inRange : 1 ≤ number ∧ number ≤ 53) {place : Int}
    (isPlace : firstWeekPlace known.number firstDay + 7 * (number - 1) = place) :
    IsDefinedWeek known.number number firstDay offset answer ↔
      answer = (Days.spanning place (place + 6)).map fun week => week.toPeriod offset := by
  have positive := known.one_le
  have bounded := known.le_last
  have isWeekAfter {other : Year} {start : Date} (isYear : (other.number : Int) = known.number)
      (isStart : IsFirstWeekStart other firstDay start) (week : Days) :
      IsWeekAfter start (7 * (number - 1)) week ↔ Days.spanning place (place + 6) = .ok week := by
    rw [isWeekAfter_iff, (isFirstWeekStart_iff _ _ _).1 isStart, Int.ofNat.inj isYear, isPlace]
  constructor
  · intro answers
    cases answers with
    | noSuchWeek outside => exact absurd inRange outside
    | wideYear _ wide =>
      have fits : fitsWord known.number = true := fitsWord_of_le (by omega) (by omega)
      rw [fits] at wide
      cases wide
    | noSuchYear _ _ outside => exact absurd ⟨by omega, by omega⟩ outside
    | held _ other isYear start isStart week isWeek =>
      rw [(isWeekAfter isYear isStart week).1 isWeek]
      rfl
    | notHeld _ other isYear start isStart without =>
      cases spans : Days.spanning place (place + 6) with
      | ok week => exact absurd ⟨week, (isWeekAfter isYear isStart week).2 spans⟩ without
      | error error =>
        rw [((Days.spanning_eq_error_iff _ _ _).1 spans).1]
        rfl
  · rintro rfl
    obtain ⟨start, startPlace⟩ := exists_firstWeekStart known firstDay
    have isStart := (isFirstWeekStart_iff known firstDay start).2 startPlace
    cases spans : Days.spanning place (place + 6) with
    | ok week =>
      exact .held inRange known rfl start isStart week ((isWeekAfter rfl isStart week).2 spans)
    | error error =>
      rw [((Days.spanning_eq_error_iff _ _ _).1 spans).1]
      refine .notHeld inRange known rfl start isStart ?_
      rintro ⟨week, isWeek⟩
      rw [(isWeekAfter rfl isStart week).1 isWeek] at spans
      cases spans

theorem isDefinedWeek_iff_of_noSuchWeek (outside : ¬(1 ≤ number ∧ number ≤ 53)) :
    IsDefinedWeek year number firstDay offset answer ↔
      answer = .error (.weekOutOfRange number) := by
  constructor
  · intro answers
    cases answers with
    | noSuchWeek => rfl
    | wideYear inRange => exact absurd inRange outside
    | noSuchYear inRange => exact absurd inRange outside
    | held inRange => exact absurd inRange outside
    | notHeld inRange => exact absurd inRange outside
  · rintro rfl
    exact .noSuchWeek outside

/-- A year that the calendar does not have is refused by the definition for the cause for which every
question about a year refuses it. -/
theorem isDefinedWeek_iff_of_noSuchYear (inRange : 1 ≤ number ∧ number ≤ 53)
    {error : CalendarError} (refused : Year.ofCaller year = .error error) :
    IsDefinedWeek year number firstDay offset answer ↔ answer = .error error := by
  have unknown {known : Year} (isYear : (known.number : Int) = year) : False := by
    rw [(Year.ofCaller_eq_ok_iff year known).2 isYear] at refused
    cases refused
  rcases (Year.ofCaller_eq_error_iff year error).1 refused with
    ⟨wide, rfl⟩ | ⟨fits, outside, rfl⟩
  · constructor
    · intro answers
      cases answers with
      | noSuchWeek outside => exact absurd inRange outside
      | wideYear => rfl
      | noSuchYear _ fits => exact absurd (wide.symm.trans fits) Bool.false_ne_true
      | held _ known isYear => exact (unknown isYear).elim
      | notHeld => rfl
    · rintro rfl
      exact .wideYear inRange wide
  · constructor
    · intro answers
      cases answers with
      | noSuchWeek outside => exact absurd inRange outside
      | wideYear _ wide => exact absurd (wide.symm.trans fits) Bool.false_ne_true
      | noSuchYear => rfl
      | held _ known isYear => exact (unknown isYear).elim
      | notHeld _ known isYear => exact (unknown isYear).elim
    · rintro rfl
      exact .noSuchYear inRange fits outside

/-! ### The question and the definition -/

/-- Save for the weeks of year 1 from Sunday, the definition answers what the question does. -/
theorem isDefinedWeek_iff
    (served : ¬((1 ≤ number ∧ number ≤ 53) ∧ year = 1 ∧ firstDay = .sunday)) :
    IsDefinedWeek year number firstDay offset answer ↔
      answer = Period.numberedWeek year number firstDay offset := by
  rw [Period.numberedWeek_eq]
  by_cases inRange : 1 ≤ number ∧ number ≤ 53
  · cases isYear : Year.ofCaller year with
    | ok known =>
      obtain rfl := (Year.ofCaller_eq_ok_iff year known).1 isYear
      have numbered : ¬(known.number = 1 ∧ firstDay = .sunday) := by
        rintro ⟨one, sunday⟩
        exact served ⟨inRange, congrArg Int.ofNat one, sunday⟩
      rw [isDefinedWeek_iff_of_year known inRange rfl,
        numberedWeek_eq known number _ inRange numbered]
    | error error =>
      rw [isDefinedWeek_iff_of_noSuchYear inRange isYear, Days.numberedWeek_of_inRange inRange,
        isYear]
      rfl
  · rw [isDefinedWeek_iff_of_noSuchWeek inRange, Days.numberedWeek_of_outside inRange]
    rfl

/-- The first Sunday of the calendar is its day 7, so the calendar holds all weeks of year 1 that
start from there. -/
theorem exists_definedWeek_of_first_year (inRange : 1 ≤ number ∧ number ≤ 53)
    (offset : Option Offset) :
    ∃ week : Days, ∀ answer, IsDefinedWeek 1 number .sunday offset answer ↔
      answer = .ok (week.toPeriod offset) := by
  have isPlace : firstWeekPlace 1 .sunday + 7 * (number - 1) = 7 + 7 * (number - 1) :=
    congrArg (· + 7 * (number - 1)) (by decide : firstWeekPlace 1 .sunday = 7)
  obtain ⟨week, spans⟩ : ∃ week, Days.spanning (7 + 7 * (number - 1)) (7 + 7 * (number - 1) + 6) =
      .ok week :=
    Days.exists_spanning_eq (by omega) (by omega) (by unfold lastOrdinal; omega)
  refine ⟨week, fun answer => ?_⟩
  have defined : IsDefinedWeek 1 number .sunday offset answer ↔ _ :=
    isDefinedWeek_iff_of_year ⟨1, by decide, by decide⟩ inRange isPlace
  rw [spans] at defined
  exact defined

/-- The first day of the calendar is a Monday, so its week from Sunday starts before the calendar. -/
theorem numberedWeek_of_first_year (inRange : 1 ≤ number ∧ number ≤ 53) (offset : Option Offset) :
    Period.numberedWeek 1 number .sunday offset = .error .outsideCalendar := by
  rw [Period.numberedWeek_eq, Days.numberedWeek_of_inRange inRange]
  rfl

end

/-- The definition has one answer to every question for a numbered week, and it is the one that the
question is given save for the weeks of year 1 if weeks start on Sunday. These the calendar holds, but
the question is told that the calendar ends. -/
theorem numberedWeek_as_defined_iff (year number : Int) (firstDay : FirstDay)
    (offset : Option Offset) :
    (∃! answer, IsDefinedWeek year number firstDay offset answer) ∧
    (IsDefinedWeek year number firstDay offset (Period.numberedWeek year number firstDay offset) ↔
      ¬((1 ≤ number ∧ number ≤ 53) ∧ year = 1 ∧ firstDay = .sunday)) ∧
    (((∃ period, IsDefinedWeek year number firstDay offset (.ok period)) ∧
        Period.numberedWeek year number firstDay offset = .error .outsideCalendar) ↔
      (1 ≤ number ∧ number ≤ 53) ∧ year = 1 ∧ firstDay = .sunday) := by
  by_cases refused : (1 ≤ number ∧ number ≤ 53) ∧ year = 1 ∧ firstDay = .sunday
  · obtain ⟨inRange, rfl, rfl⟩ := refused
    obtain ⟨week, defined⟩ := exists_definedWeek_of_first_year inRange offset
    have fails := numberedWeek_of_first_year inRange offset
    refine ⟨⟨_, (defined _).2 rfl, fun answer => (defined answer).1⟩, ?_, ?_⟩
    · rw [fails, defined]
      simp [inRange]
    · exact iff_of_true ⟨⟨_, (defined _).2 rfl⟩, fails⟩ ⟨inRange, rfl, rfl⟩
  · have defined {answer : Except CalendarError Period} :
        IsDefinedWeek year number firstDay offset answer ↔
          answer = Period.numberedWeek year number firstDay offset :=
      isDefinedWeek_iff refused
    refine ⟨⟨_, defined.2 rfl, fun answer => defined.1⟩, iff_of_true (defined.2 rfl) refused, ?_⟩
    refine iff_of_false ?_ refused
    rintro ⟨⟨period, holds⟩, fails⟩
    rw [defined, fails] at holds
    cases holds

/-- Week 1 of year 1 from Sunday is January 7 to 13 by the definition, and is refused. -/
theorem first_week_of_year_1_is_refused :
    let week : Days := ⟨⟨7, by decide, by decide⟩, ⟨13, by decide, by decide⟩, by decide⟩
    IsDefinedWeek 1 1 .sunday none (.ok (week.toPeriod none)) ∧
      Period.numberedWeek 1 1 .sunday none = .error .outsideCalendar ∧
      ¬IsDefinedWeek 1 1 .sunday none (Period.numberedWeek 1 1 .sunday none) := by
  have inRange : 1 ≤ (1 : Int) ∧ (1 : Int) ≤ 53 := by decide
  have isStart : IsFirstWeekStart ⟨1, by decide, by decide⟩ .sunday ⟨7, by decide, by decide⟩ :=
    (isFirstWeekStart_iff _ _ _).2 (by decide)
  have fails := numberedWeek_of_first_year inRange none
  obtain ⟨other, defined⟩ := exists_definedWeek_of_first_year inRange none
  refine ⟨.held inRange ⟨1, by decide, by decide⟩ rfl _ isStart _ ⟨rfl, rfl⟩, fails, ?_⟩
  rw [fails, defined]
  exact nofun

end Almanac
