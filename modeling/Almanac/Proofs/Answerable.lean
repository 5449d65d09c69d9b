/-
This file says which specifications have an answer, and which of the others are
errors. The keywords ask for runs of dates around the reference date; where the
calendar does not hold such a run, that is an error. Everything else either has an
answer or is passed over.
-/

import Almanac.Proofs.ReferenceDate

namespace Almanac

/-- The calendar holds every place from one to another. -/
def InCalendar (first last : Int) : Prop := 1 ≤ first ∧ last ≤ lastOrdinal

theorem Days.exists_spanning_eq_iff {first last : Int} (ordered : first ≤ last) :
    (∃ days, spanning first last = .ok days) ↔ InCalendar first last := by
  constructor
  · rintro ⟨days, spans⟩
    obtain ⟨rfl, rfl⟩ := (spanning_eq_ok_iff _ _ _).1 spans
    have positive := days.first.one_le
    have bounded := days.last.le_last
    unfold InCalendar
    omega
  · rintro ⟨positive, bounded⟩
    exact exists_spanning_eq positive ordered bounded

namespace Resolver

variable (resolver : Resolver)

/-! ### What specifications ask for -/

/-- The place of the reference date in the count of days. -/
def place : Int := resolver.now.date.ordinal

/-- The place on which the week of the reference date starts, in the endless count of days. -/
def weekStart : Int := weekPlace resolver.place resolver.firstDay

/-- The specifications that have an answer. -/
def Answerable : Specification → Prop
  | .today => True
  | .yesterday => InCalendar (resolver.place - 1) (resolver.place - 1)
  | .thisWeek => InCalendar resolver.weekStart (resolver.weekStart + 6)
  | .lastWeek => InCalendar (resolver.weekStart - 7) (resolver.weekStart - 1)
  | .month name year =>
    (∃ month, resolver.lexicon.lookup? name = some month) ∧ 1 ≤ year ∧ year ≤ lastYear
  | .week number year =>
    (1 ≤ number ∧ number ≤ 53) ∧ ∃ period, Period.numberedWeek
      (year.getD resolver.now.date.yearNumber) number resolver.firstDay resolver.now.offset =
        .ok period
  | .dates first last => first ≤ last
  | .date _ => True
  | .lastDays count => 1 ≤ count ∧ count ≤ resolver.now.date.ordinal

/-- The specifications that are written as keywords. -/
def IsKeyword : Specification → Prop
  | .today | .yesterday | .thisWeek | .lastWeek => True
  | _ => False

/-! ### Forgiven errors -/

theorem forgive_eq_some_iff (forgiven : CalendarError → Bool) (given : Except CalendarError Days)
    (days : Days) : forgive forgiven given = .ok (some days) ↔ given = .ok days := by
  cases given with
  | ok found => simp [forgive]
  | error error =>
    unfold forgive
    dsimp only
    split <;> simp

theorem forgive_ne_error {forgiven : CalendarError → Bool} {given : Except CalendarError Days}
    (covers : ∀ error, given = .error error → forgiven error = true) (error : CalendarError) :
    forgive forgiven given ≠ .error error := by
  cases given with
  | ok found => simp [forgive]
  | error cause =>
    unfold forgive
    dsimp only
    rw [if_pos (covers cause rfl)]
    simp

/-! ### The dates of keywords -/

theorem days_today : resolver.days .today = .ok (some (.single resolver.now.date)) :=
  resolver.days_eq_daysByDate .today

theorem days_yesterday : resolver.days .yesterday =
    (Days.spanning (resolver.place - 1) (resolver.place - 1)).map some := by
  have single := Date.map_single_shift resolver.now.date (-1)
  rw [← Int.sub_eq_add_neg] at single
  rw [place, ← single, days_eq_daysByDate, daysByDate]
  cases resolver.now.date.shift (-1) <;> rfl

theorem days_thisWeek : resolver.days .thisWeek =
    (Days.spanning resolver.weekStart (resolver.weekStart + 6)).map some := by
  rw [weekStart, place, ← Days.week_eq, days_eq_daysByDate, daysByDate]
  cases Days.week resolver.now.date resolver.firstDay <;> rfl

theorem days_lastWeek : resolver.days .lastWeek =
    (Days.spanning (resolver.weekStart - 7) (resolver.weekStart - 1)).map some := by
  rw [weekStart, place, ← Days.week_before_eq, days_eq_daysByDate, daysByDate]
  cases resolver.now.date.shift (-7) with
  | error error => rfl
  | ok before => cases Days.week before resolver.firstDay <;> rfl

/-! ### Runs that the calendar may not hold -/

theorem map_some_eq_some_iff (given : Except CalendarError Days) (days : Days) :
    given.map some = .ok (some days) ↔ given = .ok days := by
  simp only [map_eq_ok_iff, Option.some_inj, exists_eq_right]

theorem exists_days_of_span_iff {first last : Int} (ordered : first ≤ last) :
    (∃ days, (Days.spanning first last).map some = .ok (some days)) ↔ InCalendar first last := by
  simp only [map_some_eq_some_iff, Days.exists_spanning_eq_iff ordered]

theorem span_eq_error_iff {first last : Int} (ordered : first ≤ last) (error : CalendarError) :
    (Days.spanning first last).map some = .error error ↔
      error = .outsideCalendar ∧ ¬InCalendar first last := by
  rw [map_eq_error_iff, Days.spanning_eq_error_iff]
  simp only [InCalendar, ordered, true_and]

/-! ### The dates of other specifications -/

/-- A month that is given by its number has the dates of that month in a year of the calendar. -/
theorem numberedMonth_eq_ok_iff (year : Nat) (month : Month) (dates : Days) :
    Days.numberedMonth year month.number = .ok dates ↔
      ∃ known : Year, known.number = year ∧ Days.month known month = dates := by
  rw [Days.numberedMonth_eq_ok_iff]
  constructor
  · rintro ⟨known, found, sameYear, sameNumber, isMonth⟩
    obtain rfl : found = month := Date.number_injective (Int.ofNat.inj sameNumber)
    exact ⟨known, Int.ofNat.inj sameYear, isMonth⟩
  · rintro ⟨known, rfl, isMonth⟩
    exact ⟨known, month, rfl, rfl, isMonth⟩

theorem days_month_eq_some_iff (name : String) (year : Nat) (dates : Days) :
    resolver.days (.month name year) = .ok (some dates) ↔
      ∃ month, resolver.lexicon.lookup? name = some month ∧
        ∃ known : Year, known.number = year ∧ Days.month known month = dates := by
  rw [days_eq_daysByDate, daysByDate]
  cases resolver.lexicon.lookup? name with
  | none => simp
  | some month =>
    simp only [forgive_eq_some_iff, numberedMonth_eq_ok_iff, Option.some_inj, exists_eq_left']

theorem days_week_eq_some_iff (number : Nat) (year : Option Nat) (dates : Days) :
    resolver.days (.week number year) = .ok (some dates) ↔
      Days.numberedWeek (year.getD resolver.now.date.yearNumber) number resolver.firstDay =
        .ok dates := by
  rw [days_eq_daysByDate, daysByDate]
  split
  · exact forgive_eq_some_iff _ _ dates
  · next outOfRange =>
    rw [numberedWeek_eq_ok_iff]
    simp only [Except.ok.injEq, reduceCtorEq, false_iff]
    omega

theorem days_date (date : Date) : resolver.days (.date date) = .ok (some (.single date)) :=
  resolver.days_eq_daysByDate (.date date)

theorem days_dates_eq_some_iff (first last : Date) (dates : Days) :
    resolver.days (.dates first last) = .ok (some dates) ↔
      dates.first = first ∧ dates.last = last := by
  rw [days_eq_daysByDate, daysByDate, Days.between?]
  constructor
  · intro given
    split at given
    · rw [← Option.some.inj (Except.ok.inj given)]
      exact ⟨rfl, rfl⟩
    · cases given
  · rintro ⟨rfl, rfl⟩
    rw [dif_pos dates.first_le_last]

theorem days_lastDays_eq_some_iff (count : Nat) (dates : Days) :
    resolver.days (.lastDays count) = .ok (some dates) ↔
      1 ≤ count ∧ Days.spanning (resolver.place - count + 1) resolver.place = .ok dates := by
  rw [days_eq_daysByDate, daysByDate]
  split
  · next none =>
    simp only [Except.ok.injEq, reduceCtorEq, false_iff]
    omega
  · next some =>
    have positive := Nat.le_of_not_lt some
    rw [forgive_eq_some_iff, Days.lastDays_eq _ _ (Int.ofNat_le.2 positive), place]
    exact (and_iff_right positive).symm

/-! ### Answers and errors -/

/-- The resolver has dates for exactly the specifications that are answerable. -/
theorem exists_days_iff (specification : Specification) :
    (∃ days, resolver.days specification = .ok (some days)) ↔
      resolver.Answerable specification := by
  cases specification with
  | today => exact iff_of_true ⟨_, resolver.days_today⟩ trivial
  | yesterday =>
    rw [days_yesterday]
    exact exists_days_of_span_iff (Int.le_refl _)
  | thisWeek =>
    rw [days_thisWeek]
    exact exists_days_of_span_iff (by omega)
  | lastWeek =>
    rw [days_lastWeek]
    exact exists_days_of_span_iff (by omega)
  | month name year =>
    simp only [days_month_eq_some_iff, Answerable]
    constructor
    · rintro ⟨_, month, found, known, rfl, -⟩
      exact ⟨⟨month, found⟩, known.one_le, known.le_last⟩
    · rintro ⟨⟨month, found⟩, positive, bounded⟩
      exact ⟨_, month, found, ⟨year, positive, bounded⟩, rfl, rfl⟩
  | week number year =>
    simp only [days_week_eq_some_iff, Answerable, Period.numberedWeek_eq, map_eq_ok_iff]
    constructor
    · rintro ⟨days, given⟩
      have inRange := ((numberedWeek_eq_ok_iff _ _ _ _).1 given).1
      exact ⟨by omega, _, days, given, rfl⟩
    · rintro ⟨-, _, days, given, -⟩
      exact ⟨days, given⟩
  | dates first last =>
    simp only [days_dates_eq_some_iff, Answerable]
    constructor
    · rintro ⟨days, rfl, rfl⟩
      exact days.first_le_last
    · exact fun ordered => ⟨⟨first, last, ordered⟩, rfl, rfl⟩
  | date date => exact iff_of_true ⟨_, resolver.days_date date⟩ trivial
  | lastDays count =>
    have bounded := resolver.now.date.le_last
    simp only [days_lastDays_eq_some_iff, Answerable, exists_and_left]
    refine and_congr_right fun positive => ?_
    -- up to today the calendar holds every place behind its first one
    rw [Days.exists_spanning_eq_iff (by omega), InCalendar, place]
    omega

/-- The only errors are those of keywords that ask for dates outside the calendar. -/
theorem days_eq_error_iff (specification : Specification) (error : CalendarError) :
    resolver.days specification = .error error ↔ error = .outsideCalendar ∧
      IsKeyword specification ∧ ¬resolver.Answerable specification := by
  cases specification with
  | today => simp [days_today, Answerable]
  | yesterday =>
    rw [days_yesterday, span_eq_error_iff (Int.le_refl _)]
    simp only [IsKeyword, Answerable, true_and]
  | thisWeek =>
    rw [days_thisWeek, span_eq_error_iff (by omega)]
    simp only [IsKeyword, Answerable, true_and]
  | lastWeek =>
    rw [days_lastWeek, span_eq_error_iff (by omega)]
    simp only [IsKeyword, Answerable, true_and]
  | month name year =>
    simp only [IsKeyword, false_and, and_false, iff_false]
    rw [days_eq_daysByDate, daysByDate]
    split
    · exact forgive_ne_error (fun _ _ => rfl) error
    · simp
  | week number year =>
    simp only [IsKeyword, false_and, and_false, iff_false]
    rw [days_eq_daysByDate, daysByDate]
    split
    · exact forgive_ne_error (fun _ _ => rfl) error
    · simp
  | dates first last =>
    rw [days_eq_daysByDate]
    simp [daysByDate, IsKeyword]
  | date date => simp [days_date, IsKeyword]
  | lastDays count =>
    simp only [IsKeyword, false_and, and_false, iff_false]
    rw [days_eq_daysByDate, daysByDate]
    split
    · simp
    · next some =>
      -- a positive count leaves the calendar or fits into it, and leaving it is forgiven
      refine forgive_ne_error (fun cause failed => ?_) error
      rw [Days.lastDays_eq _ _ (Int.ofNat_le.2 (Nat.le_of_not_lt some)),
        Days.spanning_eq_error_iff] at failed
      rw [failed.1]
      rfl

/-- What is not answerable is passed over, unless it is a keyword. -/
theorem days_eq_none_of_not_answerable {specification : Specification}
    (unanswerable : ¬resolver.Answerable specification) (other : ¬IsKeyword specification) :
    resolver.days specification = .ok none := by
  cases given : resolver.days specification with
  | ok found =>
    cases found with
    | none => rfl
    | some days =>
      exact absurd ((resolver.exists_days_iff specification).1 ⟨days, given⟩) unanswerable
  | error error => exact absurd ((resolver.days_eq_error_iff specification error).1 given).2.1 other

end Resolver

end Almanac
