/-
This file proves which days the last days up to a moment are. For every whole number of
days there are three outcomes: a number below one is refused, a number beyond the place
of the date in the count of days leaves the calendar, and with any other number the
period holds exactly that many dates, the last of which is that of the moment. So a
larger number of days ends alike and starts earlier.
-/

import Almanac.Proofs.CountedPeriods

namespace Almanac

/-! ### Runs of last days -/

/-- A date is one of the last `count` dates up to another one: it is that date or lies fewer than
`count` days before it. -/
def Date.IsOneOfLast (date : Date) (count : Int) (last : Date) : Prop :=
  ∃ back : Int, 0 ≤ back ∧ back < count ∧ last.shift (-back) = .ok date

namespace Days

theorem lastDays_eq_ok_iff (date : Date) (count : Int) (days : Days) :
    lastDays date count = .ok days ↔ 1 ≤ count ∧
      (days.first.ordinal : Int) = date.ordinal - count + 1 ∧ days.last = date := by
  by_cases positive : 1 ≤ count
  · rw [lastDays_eq date count positive, spanning_eq_ok_iff, and_iff_right positive, Date.ext_iff,
      Int.natCast_inj]
  · unfold lastDays
    rw [if_pos (by omega)]
    simp [positive]

theorem lastDays_eq_error_iff (date : Date) (count : Int) (error : CalendarError) :
    lastDays date count = .error error ↔
      (count < 1 ∧ error = .daysNotPositive count) ∨
        (date.ordinal < count ∧ error = .outsideCalendar) := by
  have bounded := date.le_last
  have least := date.one_le
  by_cases positive : 1 ≤ count
  · rw [lastDays_eq date count positive, spanning_eq_error_iff, and_comm]
    have notBelow : ¬count < 1 := by omega
    simp only [notBelow, false_and, false_or]
    refine and_congr_left fun _ => ?_
    omega
  · unfold lastDays
    have below : count < 1 := by omega
    have within : ¬(date.ordinal : Int) < count := by omega
    rw [if_pos below]
    simp only [below, within, true_and, false_and, or_false, Except.error.injEq]
    exact eq_comm

/-- The dates of a run of last days. -/
theorem mem_lastDays_iff {date : Date} {count : Int} {days : Days}
    (given : lastDays date count = .ok days) (other : Date) :
    other ∈ days ↔ other.IsOneOfLast count date := by
  obtain ⟨-, first, rfl⟩ := (lastDays_eq_ok_iff date count days).1 given
  have member : other ∈ days ↔
      days.first.ordinal ≤ other.ordinal ∧ other.ordinal ≤ days.last.ordinal := Iff.rfl
  rw [member]
  unfold Date.IsOneOfLast
  simp only [Date.shift_eq_ok_iff]
  constructor
  · rintro ⟨since, upTo⟩
    exact ⟨days.last.ordinal - other.ordinal, by omega, by omega, by omega⟩
  · rintro ⟨back, notAfter, within, place⟩
    omega

theorem size_lastDays {date : Date} {count : Int} {days : Days}
    (given : lastDays date count = .ok days) : (days.size : Int) = count := by
  obtain ⟨positive, first, rfl⟩ := (lastDays_eq_ok_iff date count days).1 given
  unfold size
  omega

end Days

/-! ### Last days on a clock -/

namespace Moment

variable {moment : Moment} {count : Int} {period : Period}

theorem lastDays_eq_ok_iff : moment.lastDays count = .ok period ↔
    ∃ days, Days.lastDays moment.date count = .ok days ∧ days.toPeriod moment.offset = period := by
  rw [lastDays_eq, map_eq_ok_iff]

theorem exists_lastDays_iff : (∃ period, moment.lastDays count = .ok period) ↔
    1 ≤ count ∧ count ≤ moment.date.ordinal := by
  constructor
  · rintro ⟨_, given⟩
    obtain ⟨days, isRun, -⟩ := lastDays_eq_ok_iff.1 given
    obtain ⟨positive, first, -⟩ := (Days.lastDays_eq_ok_iff _ _ _).1 isRun
    have least := days.first.one_le
    omega
  · rintro ⟨positive, bounded⟩
    cases outcome : Days.lastDays moment.date count with
    | ok days => exact ⟨_, lastDays_eq_ok_iff.2 ⟨days, outcome, rfl⟩⟩
    | error error =>
      rcases (Days.lastDays_eq_error_iff _ _ _).1 outcome with ⟨below, -⟩ | ⟨beyond, -⟩
      · omega
      · omega

/-- The last days hold the moments on their clock whose dates are among them. -/
theorem contains_lastDays (given : moment.lastDays count = .ok period) {other : Moment}
    (onClock : other.offset = moment.offset) :
    (period.contains other = .ok true ↔ other.date.IsOneOfLast count moment.date) ∧
      (period.contains other = .ok false ↔ ¬other.date.IsOneOfLast count moment.date) := by
  obtain ⟨days, isRun, rfl⟩ := lastDays_eq_ok_iff.1 given
  rw [← onClock, Days.contains_toPeriod, ← Days.mem_lastDays_iff isRun, Except.ok.injEq,
    Except.ok.injEq, decide_eq_true_eq, decide_eq_false_iff_not]
  exact ⟨Iff.rfl, Iff.rfl⟩

theorem length_lastDays (given : moment.lastDays count = .ok period) :
    (period.length : Int) + 1 = count * microsecondsPerDay ∧
      period.duration = ⟨(count - 1).toNat, 86399, 999999⟩ := by
  obtain ⟨days, isRun, rfl⟩ := lastDays_eq_ok_iff.1 given
  have size := Days.size_lastDays isRun
  constructor
  · rw [← size]
    exact congrArg Int.ofNat (days.length_toPeriod moment.offset)
  · rw [days.duration_toPeriod, show (count - 1).toNat = days.size - 1 by omega]

/-- The last days go from the start of the day that lies `count - 1` days back to the end of the day
of the moment. -/
theorem bounds_of_lastDays (given : moment.lastDays count = .ok period) :
    (∃ first, moment.shift (-(count - 1) * microsecondsPerDay) = .ok first ∧
      period.start = first.startOfDay) ∧ period.finish = moment.endOfDay := by
  obtain ⟨days, isRun, rfl⟩ := lastDays_eq_ok_iff.1 given
  obtain ⟨-, first, last⟩ := (Days.lastDays_eq_ok_iff _ _ _).1 isRun
  refine ⟨⟨{ moment with date := days.first }, shift_to_date (by omega), rfl⟩, ?_⟩
  unfold endOfDay
  rw [← last]
  rfl

/-- More last days end alike and start earlier. -/
theorem lastDays_nested {more : Int} {longer : Period} (larger : count < more)
    (given : moment.lastDays count = .ok period) (givenLonger : moment.lastDays more = .ok longer) :
    longer.start.position < period.start.position ∧ longer.finish = period.finish := by
  refine ⟨?_, (bounds_of_lastDays givenLonger).2.trans (bounds_of_lastDays given).2.symm⟩
  obtain ⟨days, isRun, rfl⟩ := lastDays_eq_ok_iff.1 given
  obtain ⟨longerDays, isLonger, rfl⟩ := lastDays_eq_ok_iff.1 givenLonger
  have first := ((Days.lastDays_eq_ok_iff _ _ _).1 isRun).2.1
  have longerFirst := ((Days.lastDays_eq_ok_iff _ _ _).1 isLonger).2.1
  exact Days.start_position_lt (by omega) moment.offset

end Moment

/-- The last days up to a moment, for every whole number of days. There are some exactly if the
number is positive and not beyond the place of the date; a number below one is refused, and one beyond
that place leaves the calendar. The period holds the moments on the clock whose dates are among that
many dates up to the one of the moment, it lasts so many days less one microsecond, and it goes from
the start of its first day to the end of the last. With more days it ends alike and starts earlier. -/
theorem lastDays_up_to_moment (moment : Moment) :
    (∀ count : Int, (∃ period, moment.lastDays count = .ok period) ↔
      1 ≤ count ∧ count ≤ moment.date.ordinal) ∧
    (∀ (count : Int) (error : CalendarError), moment.lastDays count = .error error ↔
      (count < 1 ∧ error = .daysNotPositive count) ∨
        (moment.date.ordinal < count ∧ error = .outsideCalendar)) ∧
    (∀ (count : Int) (period : Period), moment.lastDays count = .ok period →
      (∀ other : Moment, other.offset = moment.offset →
        (period.contains other = .ok true ↔ other.date.IsOneOfLast count moment.date) ∧
        (period.contains other = .ok false ↔ ¬other.date.IsOneOfLast count moment.date)) ∧
      ((period.length : Int) + 1 = count * microsecondsPerDay ∧
        period.duration = ⟨(count - 1).toNat, 86399, 999999⟩) ∧
      (∃ first, moment.shift (-(count - 1) * microsecondsPerDay) = .ok first ∧
        period.start = first.startOfDay) ∧ period.finish = moment.endOfDay) ∧
    ∀ (count more : Int) (period longer : Period), count < more →
      moment.lastDays count = .ok period → moment.lastDays more = .ok longer →
      longer.start.position < period.start.position ∧ longer.finish = period.finish := by
  refine ⟨fun count => Moment.exists_lastDays_iff, fun count error => ?_, ?_, ?_⟩
  · rw [Moment.lastDays_eq, map_eq_error_iff, Days.lastDays_eq_error_iff]
  · intro count period given
    exact ⟨fun other => Moment.contains_lastDays given, Moment.length_lastDays given,
      Moment.bounds_of_lastDays given⟩
  · exact fun count more period longer => Moment.lastDays_nested

/-- The last two and the last three days up to March 1, 2024: the day before was a February 29. -/
theorem lastDays_up_to_march_2024 :
    let moment : Moment := .atEnd ⟨738946, by decide, by decide⟩ none
    let before : Moment := .atStart ⟨738945, by decide, by decide⟩ none
    before.date.month = .february ∧ before.date.day = 29 ∧ before.offset = moment.offset ∧
    ∃ two three, moment.lastDays 2 = .ok two ∧ moment.lastDays 3 = .ok three ∧ (2 : Int) < 3 ∧
      before.date.IsOneOfLast 2 moment.date ∧ two.contains before = .ok true ∧
      two.duration = ⟨1, 86399, 999999⟩ ∧
      three.start.position < two.start.position ∧ three.finish = two.finish := by
  let moment : Moment := .atEnd ⟨738946, by decide, by decide⟩ none
  let before : Moment := .atStart ⟨738945, by decide, by decide⟩ none
  obtain ⟨answered, -, holds, nested⟩ := lastDays_up_to_moment moment
  obtain ⟨two, isTwo⟩ := (answered 2).2 (by decide +kernel)
  obtain ⟨three, isThree⟩ := (answered 3).2 (by decide +kernel)
  obtain ⟨contains, ⟨-, duration⟩, -⟩ := holds 2 two isTwo
  have isBefore : before.date.IsOneOfLast 2 moment.date := ⟨1, by decide, by decide, rfl⟩
  exact ⟨by decide +kernel, by decide +kernel, rfl, two, three, isTwo, isThree, by decide, isBefore,
    (contains before rfl).1.2 isBefore, duration, nested 2 3 two three (by decide) isTwo isThree⟩

end Almanac
