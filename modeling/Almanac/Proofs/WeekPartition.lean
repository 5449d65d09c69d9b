/-
This file proves that the weeks of moments divide time. The start of the week of a moment
is the one midnight of the first weekday, on the clock of the moment, that lies less than
seven days back. So all moments from there up to the next such midnight have one week,
and of two weeks on one clock each is the other or they have no moment in common. The
start of a week fails if the week begins before the calendar does, and the end of a week
and the whole week fail if the calendar does not hold all of it.
-/

import Almanac.Proofs.RelativePeriods

namespace Almanac

/-! ### The start of a week -/

/-- One moment starts the week of another: it is a midnight of the first weekday on the same clock,
and less than seven days back. -/
structure Moment.IsWeekStartOf (start moment : Moment) (firstDay : FirstDay) : Prop where
  at_midnight : start.microsecond = 0
  on_first_day : start.date.weekday = firstDay.weekday
  on_clock : start.offset = moment.offset
  not_after : start.position ≤ moment.position
  within : moment.position < start.position + 7 * microsecondsPerDay

namespace Moment

theorem startOfWeek_eq_ok_iff_place (moment start : Moment) (firstDay : FirstDay) :
    moment.startOfWeek firstDay = .ok start ↔
      (start.date.ordinal : Int) = weekPlace moment.date.ordinal firstDay ∧
        start = atStart start.date moment.offset := by
  rw [startOfWeek_eq, map_eq_ok_iff]
  simp only [Days.weekStart_eq_ok_iff]
  constructor
  · rintro ⟨date, place, rfl⟩
    exact ⟨place, rfl⟩
  · rintro ⟨place, same⟩
    exact ⟨start.date, place, same.symm⟩

/-- The start of the week of a moment is the one moment that starts it. -/
theorem startOfWeek_eq_ok_iff (moment start : Moment) (firstDay : FirstDay) :
    moment.startOfWeek firstDay = .ok start ↔ start.IsWeekStartOf moment firstDay := by
  have small := moment.microsecond_lt
  rw [startOfWeek_eq_ok_iff_place]
  constructor
  · rintro ⟨place, isStart⟩
    have bounds := weekPlace_bounds moment.date.ordinal firstDay
    have starts := weekPlace_emod moment.date.ordinal firstDay
    have midnight : start.microsecond = 0 := congrArg microsecond isStart
    have sameOffset : start.offset = moment.offset := by
      rw [isStart]
      rfl
    have distance := position_sub_position sameOffset
    unfold clock at distance
    unfold microsecondsPerDay at *
    have onFirstDay : start.date.ordinal % 7 = firstDay.weekday := by omega
    exact ⟨midnight, onFirstDay, sameOffset, by omega, by unfold microsecondsPerDay; omega⟩
  · rintro ⟨midnight, onFirstDay, sameOffset, notAfter, within⟩
    have distance := position_sub_position sameOffset
    have starts : start.date.ordinal % 7 = firstDay.weekday := onFirstDay
    unfold clock at distance
    unfold microsecondsPerDay at *
    refine ⟨eq_weekPlace (by omega) (by omega) (by omega), eq_of_clock ?_ sameOffset⟩
    unfold clock
    rw [midnight]
    rfl

/-- All moments in a week have the same start of the week. -/
theorem startOfWeek_of_inWeek {moment start other : Moment} {firstDay : FirstDay}
    (starts : moment.startOfWeek firstDay = .ok start) (sameOffset : other.offset = moment.offset)
    (notBefore : start.position ≤ other.position)
    (within : other.position < start.position + 7 * microsecondsPerDay) :
    other.startOfWeek firstDay = .ok start := by
  have isStart := (startOfWeek_eq_ok_iff moment start firstDay).1 starts
  exact (startOfWeek_eq_ok_iff other start firstDay).2 ⟨isStart.at_midnight, isStart.on_first_day,
    isStart.on_clock.trans sameOffset.symm, notBefore, within⟩

/-! ### Weeks on a clock -/

theorem week_eq_ok_iff (moment : Moment) (firstDay : FirstDay) (period : Period) :
    moment.week firstDay = .ok period ↔ ∃ days : Days,
      ((days.first.ordinal : Int) = weekPlace moment.date.ordinal firstDay ∧
        (days.last.ordinal : Int) = weekPlace moment.date.ordinal firstDay + 6) ∧
        days.toPeriod moment.offset = period := by
  rw [week_eq]
  simp only [map_eq_ok_iff, Days.week_eq, Days.spanning_eq_ok_iff]

/-- The week of a moment goes from the start of its week to the end of its week and holds it. -/
theorem bounds_of_week {moment : Moment} {firstDay : FirstDay} {period : Period}
    (given : moment.week firstDay = .ok period) :
    moment.startOfWeek firstDay = .ok period.start ∧
      moment.endOfWeek firstDay = .ok period.finish ∧ period.contains moment = .ok true := by
  rw [week_eq, map_eq_ok_iff] at given
  obtain ⟨days, isWeek, isPeriod⟩ := given
  have bounds := weekPlace_bounds moment.date.ordinal firstDay
  have places := isWeek
  rw [Days.week_eq, Days.spanning_eq_ok_iff] at places
  have held : moment.date ∈ days := by
    change days.first.ordinal ≤ moment.date.ordinal ∧ moment.date.ordinal ≤ days.last.ordinal
    omega
  subst isPeriod
  refine ⟨(startOfWeek_eq_ok_iff_place _ _ _).2 ⟨places.1, rfl⟩, ?_, ?_⟩
  · rw [endOfWeek_eq, isWeek]
    rfl
  · rw [Days.contains_toPeriod, decide_eq_true held]

/-- Of two weeks on one clock each is the other, or they have no moment in common. -/
theorem week_eq_or_disjoint {moment other : Moment} {firstDay : FirstDay}
    {period otherPeriod : Period} (sameOffset : other.offset = moment.offset)
    (given : moment.week firstDay = .ok period)
    (givenOther : other.week firstDay = .ok otherPeriod) :
    (period.contains other = .ok true ∧ otherPeriod = period) ∨
      (period.contains other = .ok false ∧ period.Disjoint otherPeriod) := by
  obtain ⟨days, places, rfl⟩ := (week_eq_ok_iff _ _ _).1 given
  obtain ⟨otherDays, otherPlaces, rfl⟩ := (week_eq_ok_iff _ _ _).1 givenOther
  have starts := weekPlace_emod moment.date.ordinal firstDay
  have otherStarts := weekPlace_emod other.date.ordinal firstDay
  have otherBounds := weekPlace_bounds other.date.ordinal firstDay
  have member : other.date ∈ days ↔
      days.first.ordinal ≤ other.date.ordinal ∧ other.date.ordinal ≤ days.last.ordinal := Iff.rfl
  rw [← sameOffset, Days.contains_toPeriod, Except.ok.injEq, Except.ok.injEq, decide_eq_true_eq,
    decide_eq_false_iff_not, member]
  -- both weeks start on the first weekday, so they start together or at least seven days apart
  rcases Int.lt_trichotomy days.first.ordinal otherDays.first.ordinal with earlier | same | later
  · exact Or.inr ⟨by omega, Days.disjoint_toPeriod (by omega) _⟩
  · have sameDays : otherDays = days := Days.ext_ordinals (by omega) (by omega)
    exact Or.inl ⟨by omega, by rw [sameDays]⟩
  · exact Or.inr ⟨by omega, (Days.disjoint_toPeriod (by omega) _).symm⟩

/-- Moments that are whole weeks apart have weeks that are as far apart. -/
theorem week_of_shifted {moment shifted : Moment} {firstDay : FirstDay}
    {period shiftedPeriod : Period} {weeks : Int}
    (shifts : moment.shift (7 * weeks * microsecondsPerDay) = .ok shifted)
    (given : moment.week firstDay = .ok period)
    (givenShifted : shifted.week firstDay = .ok shiftedPeriod) :
    period.ShiftedBy (7 * weeks) shiftedPeriod := by
  obtain ⟨days, places, rfl⟩ := (week_eq_ok_iff _ _ _).1 given
  obtain ⟨shiftedDays, shiftedPlaces, rfl⟩ := (week_eq_ok_iff _ _ _).1 givenShifted
  rw [shift_wholeDays, map_eq_ok_iff] at shifts
  obtain ⟨date, shiftsDate, rfl⟩ := shifts
  rw [(Date.shift_eq_ok_iff _ _ _).1 shiftsDate, weekPlace_add_weeks] at shiftedPlaces
  exact Days.shiftedBy_toPeriod (by omega) (by omega) moment.offset

/-! ### Weeks that leave the calendar -/

theorem startOfWeek_eq_error_iff (moment : Moment) (firstDay : FirstDay) (error : CalendarError) :
    moment.startOfWeek firstDay = .error error ↔
      error = .outsideCalendar ∧ weekPlace moment.date.ordinal firstDay < 1 := by
  rw [startOfWeek_eq, map_eq_error_iff, Days.weekStart_eq_error_iff]

end Moment

theorem Days.week_eq_error_iff (date : Date) (firstDay : FirstDay) (error : CalendarError) :
    week date firstDay = .error error ↔ error = .outsideCalendar ∧
      ¬InCalendar (weekPlace date.ordinal firstDay) (weekPlace date.ordinal firstDay + 6) := by
  rw [week_eq, spanning_eq_error_iff]
  unfold InCalendar
  refine and_congr_right fun _ => ?_
  omega

/-! ### The partition -/

/-- The weeks of moments divide time. The start of a week is the one moment that starts it, for all
moments in the week and so for itself. The week of a moment goes from there to the end of the week and
holds the moment; two weeks on one clock are equal or disjoint; and whole weeks later the week is as
much later. In the endless count of days the week starts on one place up to six places back. If that
place is before the calendar, its start is not found, and if the calendar does not hold all seven
places, neither its end nor the whole week is. -/
theorem weeks_partition_time (firstDay : FirstDay) :
    (∀ moment start : Moment,
      moment.startOfWeek firstDay = .ok start ↔ start.IsWeekStartOf moment firstDay) ∧
    (∀ moment start : Moment, moment.startOfWeek firstDay = .ok start →
      start.startOfWeek firstDay = .ok start ∧
      ∀ other : Moment, other.offset = moment.offset → start.position ≤ other.position →
        other.position < start.position + 7 * microsecondsPerDay →
        other.startOfWeek firstDay = .ok start) ∧
    (∀ (moment : Moment) (period : Period), moment.week firstDay = .ok period →
      moment.startOfWeek firstDay = .ok period.start ∧
      moment.endOfWeek firstDay = .ok period.finish ∧ period.contains moment = .ok true) ∧
    (∀ (moment other : Moment) (period otherPeriod : Period), other.offset = moment.offset →
      moment.week firstDay = .ok period → other.week firstDay = .ok otherPeriod →
      (period.contains other = .ok true ∧ otherPeriod = period) ∨
        (period.contains other = .ok false ∧ period.Disjoint otherPeriod)) ∧
    (∀ (moment shifted : Moment) (period shiftedPeriod : Period) (weeks : Int),
      moment.shift (7 * weeks * microsecondsPerDay) = .ok shifted →
      moment.week firstDay = .ok period → shifted.week firstDay = .ok shiftedPeriod →
      period.ShiftedBy (7 * weeks) shiftedPeriod) ∧
    ∀ moment : Moment, ∃ place : Int,
      (place % 7 = firstDay.weekday ∧ place ≤ moment.date.ordinal ∧
        moment.date.ordinal < place + 7) ∧
      (∀ error, moment.startOfWeek firstDay = .error error ↔
        error = .outsideCalendar ∧ place < 1) ∧
      (∀ error, moment.endOfWeek firstDay = .error error ↔
        error = .outsideCalendar ∧ ¬InCalendar place (place + 6)) ∧
      ∀ error, moment.week firstDay = .error error ↔
        error = .outsideCalendar ∧ ¬InCalendar place (place + 6) := by
  refine ⟨?_, ?_, ?_, ?_, ?_, ?_⟩
  · exact fun moment start => moment.startOfWeek_eq_ok_iff start firstDay
  · intro moment start starts
    have onClock := ((moment.startOfWeek_eq_ok_iff start firstDay).1 starts).on_clock
    refine ⟨Moment.startOfWeek_of_inWeek starts onClock (Int.le_refl _) ?_, ?_⟩
    · exact Int.lt_add_of_pos_right _ (by decide)
    · exact fun other sameOffset => Moment.startOfWeek_of_inWeek starts sameOffset
  · exact fun moment period => Moment.bounds_of_week
  · exact fun moment other period otherPeriod => Moment.week_eq_or_disjoint
  · exact fun moment shifted period shiftedPeriod weeks => Moment.week_of_shifted
  · intro moment
    have bounds := weekPlace_bounds moment.date.ordinal firstDay
    refine ⟨weekPlace moment.date.ordinal firstDay, ⟨weekPlace_emod _ firstDay, bounds⟩,
      moment.startOfWeek_eq_error_iff firstDay, fun error => ?_, fun error => ?_⟩
    · rw [Moment.endOfWeek_eq, map_eq_error_iff, Days.week_eq_error_iff]
    · rw [Moment.week_eq, map_eq_error_iff, Days.week_eq_error_iff]

/-- The week from Monday, January 1, 2024 and the next one. -/
theorem first_two_weeks_of_2024 :
    let moment : Moment := .atEnd ⟨738888, by decide, by decide⟩ none
    let later : Moment := .atEnd ⟨738895, by decide, by decide⟩ none
    ∃ week next : Period, moment.week .monday = .ok week ∧ later.week .monday = .ok next ∧
      moment.shift (7 * 1 * microsecondsPerDay) = .ok later ∧ later.offset = moment.offset ∧
      week.start.position ≤ moment.position ∧
      moment.position < week.start.position + 7 * microsecondsPerDay ∧
      moment.startOfWeek .monday = .ok week.start ∧ week.start.IsWeekStartOf moment .monday ∧
      week.contains moment = .ok true ∧ week.Disjoint next ∧ week.ShiftedBy (7 * 1) next := by
  let moment : Moment := .atEnd ⟨738888, by decide, by decide⟩ none
  let later : Moment := .atEnd ⟨738895, by decide, by decide⟩ none
  let days : Days := ⟨⟨738886, by decide, by decide⟩, ⟨738892, by decide, by decide⟩, by decide⟩
  let nextDays : Days :=
    ⟨⟨738893, by decide, by decide⟩, ⟨738899, by decide, by decide⟩, by decide⟩
  have week : (Moment.atEnd ⟨738888, by decide, by decide⟩ none).week .monday =
      .ok (days.toPeriod none) := rfl
  have next : (Moment.atEnd ⟨738895, by decide, by decide⟩ none).week .monday =
      .ok (nextDays.toPeriod none) := rfl
  have shifts : moment.shift (7 * 1 * microsecondsPerDay) = .ok later :=
    Moment.shift_to_date rfl
  obtain ⟨starts, -, bounds, divides, moves, -⟩ := weeks_partition_time .monday
  obtain ⟨isStart, -, holds⟩ := bounds moment _ week
  have startOf := (starts moment _).1 isStart
  have apart : (days.toPeriod none).contains later = .ok false :=
    (days.contains_toPeriod later).trans rfl
  have disjoint : (days.toPeriod none).Disjoint (nextDays.toPeriod none) := by
    rcases divides moment later _ _ rfl week next with ⟨inWeek, -⟩ | ⟨-, disjoint⟩
    · rw [apart] at inWeek
      cases inWeek
    · exact disjoint
  exact ⟨_, _, week, next, shifts, rfl, startOf.not_after, startOf.within, isStart, startOf, holds,
    disjoint, moves moment later _ _ 1 shifts week next⟩

end Almanac
