/-
This file proves what the periods that the resolver answers with look like. Whatever
is asked for, the answer is a run of whole days on the clock of the resolver: it
starts with the first microsecond of a day and ends with the last one of a day. How
many days it has can be told from what is asked for, and so can the weekday or the
day of the month on which it starts, if it is a week or a month.
-/

import Almanac.Proofs.Answers

namespace Almanac

open Text

/-! ### Runs that are days, weeks or months -/

theorem Days.size_single (date : Date) : (Days.single date).size = 1 :=
  congrArg (· + 1) (Nat.sub_self date.ordinal)

/-- Seven days from a place that starts a week. -/
theorem Days.isWeek {days : Days} {firstDay : FirstDay}
    (starts : (days.first.ordinal : Int) % 7 = firstDay.weekday)
    (lasts : (days.last.ordinal : Int) = days.first.ordinal + 6) :
    days.size = 7 ∧ days.first.weekday = firstDay.weekday := by
  unfold size Date.weekday
  omega

theorem Date.fields_firstOfMonth (year : Year) (month : Month) :
    (Date.firstOfMonth year month).year = year ∧ (Date.firstOfMonth year month).month = month ∧
      (Date.firstOfMonth year month).day = 1 :=
  Date.fields_of_ordinal (Nat.le_refl 1) (month.one_le_length year.isLeap) rfl

theorem Days.size_month (year : Year) (month : Month) :
    (Days.month year month).size = month.length year.isLeap := by
  have positive := month.one_le_length year.isLeap
  unfold size Days.month Date.firstOfMonth Date.lastOfMonth
  dsimp only
  omega

namespace Resolver

variable (resolver : Resolver)

/-! ### The run of dates for a specification -/

/-- What the run of dates for a specification looks like: the date on which it starts and the number
of its days. -/
def HasShape : Specification → Date → Nat → Prop
  | .today, _, count | .yesterday, _, count | .date _, _, count => count = 1
  | .thisWeek, start, count | .lastWeek, start, count | .week _ _, start, count =>
    count = 7 ∧ start.weekday = resolver.firstDay.weekday
  | .month name year, start, count =>
    start.yearNumber = year ∧ start.day = 1 ∧
      ∃ month, resolver.lexicon.lookup? name = some month ∧ start.month = month ∧
        count = month.length (isLeapYear year)
  | .dates first last, _, count => first ≤ last ∧ count + first.ordinal = last.ordinal + 1
  | .lastDays asked, _, count => count = asked

/-- What the resolver finds for a specification has its shape. -/
theorem hasShape_of_days {specification : Specification} {days : Days}
    (given : resolver.days specification = .ok (some days)) :
    resolver.HasShape specification days.first days.size := by
  have starts : resolver.weekStart % 7 = resolver.firstDay.weekday :=
    weekPlace_emod resolver.place resolver.firstDay
  cases specification with
  | today =>
    rw [days_today] at given
    cases given
    exact Days.size_single _
  | yesterday =>
    rw [days_yesterday, map_some_eq_some_iff, Days.spanning_eq_ok_iff] at given
    unfold HasShape Days.size
    omega
  | thisWeek =>
    rw [days_thisWeek, map_some_eq_some_iff, Days.spanning_eq_ok_iff] at given
    exact Days.isWeek (by omega) (by omega)
  | lastWeek =>
    rw [days_lastWeek, map_some_eq_some_iff, Days.spanning_eq_ok_iff] at given
    exact Days.isWeek (by omega) (by omega)
  | month name year =>
    obtain ⟨month, found, known, rfl, rfl⟩ := (days_month_eq_some_iff _ _ _ _).1 given
    obtain ⟨sameYear, sameMonth, sameDay⟩ := Date.fields_firstOfMonth known month
    exact ⟨congrArg Year.number sameYear, sameDay, month, found, sameMonth,
      Days.size_month known month⟩
  | week number year =>
    rw [days_week_eq_some_iff, numberedWeek_eq_ok_iff] at given
    obtain ⟨-, known, -, -, first, last⟩ := given
    have firstStarts := firstWeekPlace_emod known.number resolver.firstDay
    exact Days.isWeek (by omega) last
  | dates first last =>
    obtain ⟨rfl, rfl⟩ := (days_dates_eq_some_iff _ _ _ _).1 given
    have ordered : days.first.ordinal ≤ days.last.ordinal := days.first_le_last
    refine ⟨ordered, ?_⟩
    unfold Days.size
    omega
  | date date =>
    rw [days_date] at given
    cases given
    exact Days.size_single _
  | lastDays count =>
    rw [days_lastDays_eq_some_iff, Days.spanning_eq_ok_iff] at given
    unfold HasShape Days.size
    omega

/-! ### The period of an answer -/

/-- Every answer lasts from the first microsecond of a day to the last one of a day, on the clock of
the resolver, and has the shape of what is asked for: as many days as that has, from the first
weekday of the resolver for weeks, and from the first day of the month for months. -/
theorem shape_of_answer (text : Option String) (resolution : Resolution)
    (answers : resolver.resolve? text = .ok (some resolution)) :
    let start := resolution.period.start
    let finish := resolution.period.finish
    (start.hour, start.minute, start.second, start.fraction) = (0, 0, 0, 0) ∧
      (finish.hour, finish.minute, finish.second, finish.fraction) = (23, 59, 59, 999999) ∧
      start.offset = resolver.now.offset ∧ finish.offset = resolver.now.offset ∧
      start.position ≤ finish.position ∧ Period.between start finish = .ok resolution.period ∧
      ∃ count, 1 ≤ count ∧ resolution.period.length + 1 = count * microsecondsPerDay ∧
        resolution.period.duration = ⟨count - 1, 86399, 999999⟩ ∧
        (∃ specification, resolution.form.Spells (Specification.normalize text) specification) ∧
        ∀ specification, resolution.form.Spells (Specification.normalize text) specification →
          resolver.HasShape specification start.date count := by
  have trimmed := Specification.isTrimmed_normalize text
  obtain ⟨specification, days, spells, given, same⟩ :=
    (attempt_eq_some_iff resolver trimmed _ _).1 (attempt_of_answer resolver answers)
  have isPeriod : resolution.period = days.toPeriod resolver.now.offset := by
    rw [same]
    rfl
  have shaped : ∀ other, resolution.form.Spells (Specification.normalize text) other →
      resolver.HasShape other days.first days.size := by
    intro other spellsOther
    rw [spells.unique trimmed spellsOther]
    exact resolver.hasShape_of_days given
  rw [isPeriod]
  exact ⟨Moment.time_atStart _ _, Moment.time_atEnd _ _, rfl, rfl, (days.toPeriod _).ordered,
    days.between_toPeriod _, days.size, days.one_le_size, days.length_toPeriod _,
    days.duration_toPeriod _, ⟨specification, spells⟩, shaped⟩

/-- February of a leap year has 29 days, from its first one. -/
theorem shape_of_february_2024 :
    let resolver : Resolver := ⟨.monday, .standard, .atStart ⟨738888, by decide, by decide⟩ none⟩
    ∃ resolution, resolver.resolve? (some "February  2024") = .ok (some resolution) ∧
      resolution.period.length + 1 = 29 * microsecondsPerDay ∧
      resolver.HasShape (.month "february" 2024) resolution.period.start.date 29 := by
  let resolver : Resolver := ⟨.monday, .standard, .atStart ⟨738888, by decide, by decide⟩ none⟩
  let february : Days :=
    ⟨⟨738917, by decide, by decide⟩, ⟨738945, by decide, by decide⟩, by decide⟩
  let resolution : Resolution := ⟨.monthYear, february, none⟩
  have answers : resolver.resolve? (some "February  2024") = .ok (some resolution) := by
    decide +kernel
  have trimmed := Specification.isTrimmed_normalize (some "February  2024")
  have spells : Form.monthYear.Spells (Specification.normalize (some "February  2024"))
      (.month "february" 2024) := (Form.read?_eq_some_iff trimmed .monthYear).1 rfl
  have size : february.size = 29 := by decide
  have isPeriod : resolution.period = february.toPeriod none := rfl
  have month := february.length_toPeriod none
  rw [size, ← isPeriod] at month
  obtain ⟨-, -, -, -, -, -, count, -, lasts, -, -, shaped⟩ :=
    resolver.shape_of_answer _ _ answers
  have sameCount : count = 29 := Nat.eq_of_mul_eq_mul_right (by decide) (lasts.symm.trans month)
  rw [sameCount] at shaped
  exact ⟨resolution, answers, month, shaped _ spells⟩

end Resolver

end Almanac
