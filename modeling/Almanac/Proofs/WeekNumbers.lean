/-
This file proves that the weeks of dates and the numbered weeks of years are the same
weeks. Week 1 of a year starts on the first place on or after January 1 that starts a
week, which the calendar finds by a detour over the week that holds January 1; the
detour only fails in year 1 if weeks start on Sunday. From there week `number` is
`7 * (number - 1)` days away, so a week is numbered in the year in which it starts,
and once more, as week 53, in the year before if that year starts late in its first
week.
-/

import Almanac.Proofs.CountedPeriods

namespace Almanac

/-! ### The first week of a year -/

/-- The place on which week 1 of a year starts: the first one of the year that starts a week. Of
the seven places up to January 7 one does. -/
def firstWeekPlace (year : Nat) (firstDay : FirstDay) : Int :=
  weekPlace (daysBeforeYear year + 7) firstDay

theorem firstWeekPlace_bounds (year : Nat) (firstDay : FirstDay) :
    (daysBeforeYear year + 1 : Int) ≤ firstWeekPlace year firstDay ∧
      firstWeekPlace year firstDay ≤ daysBeforeYear year + 7 := by
  have bounds := weekPlace_bounds (daysBeforeYear year + 7) firstDay
  unfold firstWeekPlace
  omega

theorem firstWeekPlace_emod (year : Nat) (firstDay : FirstDay) :
    firstWeekPlace year firstDay % 7 = firstDay.weekday :=
  weekPlace_emod _ firstDay

theorem ordinal_newYear (year : Year) :
    (Date.newYear year).ordinal = daysBeforeYear year.number + 1 := rfl

/-- The week that holds January 1 starts in the calendar, save in year 1 if weeks start on
Sunday: the first day of the calendar is a Monday. -/
theorem one_le_weekPlace_newYear_iff (year : Year) (firstDay : FirstDay) :
    1 ≤ weekPlace (daysBeforeYear year.number + 1) firstDay ↔
      ¬(year.number = 1 ∧ firstDay = .sunday) := by
  have positive := year.one_le
  have bounds := weekPlace_bounds (daysBeforeYear year.number + 1) firstDay
  rcases Nat.eq_or_lt_of_le positive with one | later
  · rw [← one]
    cases firstDay <;> decide
  · have second : 365 ≤ daysBeforeYear year.number := daysBeforeYear_mono later
    omega

/-- The detour over the week of January 1 ends on the first place of the year that starts a
week. -/
theorem firstWeekStart_eq_ok_iff (year : Year) (firstDay : FirstDay) (start : Date) :
    Days.firstWeekStart year firstDay = .ok start ↔
      ¬(year.number = 1 ∧ firstDay = .sunday) ∧
        (start.ordinal : Int) = firstWeekPlace year.number firstDay := by
  have bounds := weekPlace_bounds (daysBeforeYear year.number + 1) firstDay
  have starts := weekPlace_emod (daysBeforeYear year.number + 1) firstDay
  have firstBounds := firstWeekPlace_bounds year.number firstDay
  have firstStarts := firstWeekPlace_emod year.number firstDay
  have place := Days.sub_daysIntoWeek (Date.newYear year) firstDay
  rw [← one_le_weekPlace_newYear_iff]
  rw [ordinal_newYear, Int.natCast_succ] at place
  unfold Days.firstWeekStart Date.weekStart
  cases shifted : (Date.newYear year).shift (-(Date.newYear year).daysIntoWeek firstDay) with
  | ok before =>
    have beforePlace := (Date.shift_eq_ok_iff _ _ _).1 shifted
    have positive := before.one_le
    rw [ordinal_newYear] at beforePlace
    change (if before.yearNumber < year.number then before.shift 7 else .ok before) = _ ↔ _
    split
    · next earlier =>
      have ended : daysBeforeYear (before.yearNumber + 1) ≤ daysBeforeYear year.number :=
        daysBeforeYear_mono earlier
      have ending := before.ordinal_le_daysBeforeYear_succ
      rw [Date.shift_eq_ok_iff]
      omega
    · next notEarlier =>
      have begun := daysBeforeYear_mono (Nat.le_of_not_lt notEarlier)
      have reached := before.daysBeforeYear_yearNumber_lt
      have same : (before.ordinal : Int) = firstWeekPlace year.number firstDay := by omega
      rw [← same]
      simp only [Except.ok.injEq]
      constructor
      · rintro rfl
        omega
      · rintro ⟨_, sameOrdinal⟩
        exact Date.ext (Int.ofNat.inj sameOrdinal).symm
  | error error =>
    obtain ⟨rfl, without⟩ := (Date.shift_eq_error_iff _ _ _).1 shifted
    rw [ordinal_newYear] at without
    have bounded := (Date.newYear year).le_last
    rw [ordinal_newYear] at bounded
    change Except.error _ = _ ↔ _
    simp only [reduceCtorEq, false_iff]
    omega

/-! ### The week with a number -/

theorem Days.numberedWeek_of_outside {number : Int} (outside : ¬(1 ≤ number ∧ number ≤ 53))
    (year : Int) (firstDay : FirstDay) :
    numberedWeek year number firstDay = .error (.weekOutOfRange number) := by
  unfold numberedWeek
  rw [if_neg outside]
  rfl

theorem Days.numberedWeek_of_inRange {number : Int} (inRange : 1 ≤ number ∧ number ≤ 53)
    (year : Int) (firstDay : FirstDay) :
    numberedWeek year number firstDay = Year.ofCaller year >>= fun known =>
      firstWeekStart known firstDay >>= fun start =>
        start.shift (7 * (number - 1)) >>= fun first => startingAt first 6 := by
  unfold numberedWeek
  rw [if_pos inRange]

/-- The place on which week 1 of a year starts is that of a date. -/
theorem exists_firstWeekStart (year : Year) (firstDay : FirstDay) :
    ∃ start : Date, (start.ordinal : Int) = firstWeekPlace year.number firstDay := by
  have bounds := firstWeekPlace_bounds year.number firstDay
  have yearEnd := Date.daysBeforeYear_add_le year
  refine ⟨⟨(firstWeekPlace year.number firstDay).toNat, by omega, ?_⟩, by simp only; omega⟩
  split at yearEnd <;> omega

/-- Week `number` of a year lies `number - 1` weeks after week 1. -/
theorem numberedWeek_eq (year : Year) (number : Int) (firstDay : FirstDay)
    (inRange : 1 ≤ number ∧ number ≤ 53) (numbered : ¬(year.number = 1 ∧ firstDay = .sunday)) :
    Days.numberedWeek year.number number firstDay =
      Days.spanning (firstWeekPlace year.number firstDay + 7 * (number - 1))
        (firstWeekPlace year.number firstDay + 7 * (number - 1) + 6) := by
  obtain ⟨start, place⟩ := exists_firstWeekStart year firstDay
  have begins := (firstWeekStart_eq_ok_iff year firstDay start).2 ⟨numbered, place⟩
  rw [Days.numberedWeek_of_inRange inRange, (Year.ofCaller_eq_ok_iff _ year).2 rfl]
  change (Days.firstWeekStart year firstDay >>= fun start =>
    start.shift (7 * (number - 1)) >>= fun first => Days.startingAt first 6) = _
  rw [begins, ← place]
  exact start.shift_bind_startingAt (7 * (number - 1)) 6

theorem numberedWeek_eq_ok_iff (year number : Int) (firstDay : FirstDay) (days : Days) :
    Days.numberedWeek year number firstDay = .ok days ↔
      (1 ≤ number ∧ number ≤ 53) ∧ ∃ known : Year, (known.number : Int) = year ∧
        ¬(known.number = 1 ∧ firstDay = .sunday) ∧
        (days.first.ordinal : Int) = firstWeekPlace known.number firstDay + 7 * (number - 1) ∧
        (days.last.ordinal : Int) = days.first.ordinal + 6 := by
  constructor
  · intro given
    by_cases inRange : 1 ≤ number ∧ number ≤ 53
    · have steps := given
      rw [Days.numberedWeek_of_inRange inRange, bind_eq_ok_iff] at steps
      obtain ⟨known, isKnown, steps⟩ := steps
      obtain ⟨start, begins, -⟩ := (bind_eq_ok_iff _ _ _).1 steps
      obtain rfl := (Year.ofCaller_eq_ok_iff _ _).1 isKnown
      have numbered := ((firstWeekStart_eq_ok_iff _ _ _).1 begins).1
      rw [numberedWeek_eq known number firstDay inRange numbered, Days.spanning_eq_ok_iff] at given
      exact ⟨inRange, known, rfl, numbered, given.1, by omega⟩
    · rw [Days.numberedWeek_of_outside inRange] at given
      cases given
  · rintro ⟨inRange, known, rfl, numbered, first, last⟩
    rw [numberedWeek_eq known number firstDay inRange numbered, Days.spanning_eq_ok_iff]
    exact ⟨first, by omega⟩

/-! ### The numbers of a week -/

theorem Days.first_in_year (days : Days) :
    (daysBeforeYear days.first.yearNumber : Int) < days.first.ordinal ∧
      (days.first.ordinal : Int) ≤ daysBeforeYear days.first.yearNumber + 366 := by
  have reached := days.first.daysBeforeYear_yearNumber_lt
  have ending := days.first.ordinal_le_daysBeforeYear_succ
  have width := daysBeforeYear_succ_bounds _ days.first.one_le_yearNumber
  omega

/-- Every week has a number in the year in which it starts. -/
theorem exists_number_of_week {date : Date} {firstDay : FirstDay} {days : Days}
    (held : Days.week date firstDay = .ok days)
    (numbered : ¬(days.first.yearNumber = 1 ∧ firstDay = .sunday)) :
    ∃ number : Int, (1 ≤ number ∧ number ≤ 53) ∧
      Days.numberedWeek days.first.yearNumber number firstDay = .ok days := by
  rw [Days.week_eq, Days.spanning_eq_ok_iff] at held
  have starts := weekPlace_emod date.ordinal firstDay
  have yearBounds := days.first_in_year
  have firstBounds := firstWeekPlace_bounds days.first.yearNumber firstDay
  have firstStarts := firstWeekPlace_emod days.first.yearNumber firstDay
  let number := (days.first.ordinal - firstWeekPlace days.first.yearNumber firstDay) / 7 + 1
  -- both places start weeks, so what lies between them is a number of whole weeks
  have apart : (days.first.ordinal : Int) =
      firstWeekPlace days.first.yearNumber firstDay + 7 * (number - 1) := by
    dsimp only [number]
    omega
  have inRange : 1 ≤ number ∧ number ≤ 53 := by omega
  exact ⟨number, inRange, (numberedWeek_eq_ok_iff _ _ _ _).2
    ⟨inRange, days.first.year, rfl, numbered, apart, by omega⟩⟩

/-- A numbered week starts in its year, unless it is week 53 and at the same time the first week
of the next year. -/
theorem year_of_numberedWeek {year number : Int} {firstDay : FirstDay} {days : Days}
    (given : Days.numberedWeek year number firstDay = .ok days) :
    (days.first.yearNumber : Int) = year ∨
      (days.first.yearNumber : Int) = year + 1 ∧ number = 53 ∧
        (days.first.ordinal : Int) = firstWeekPlace days.first.yearNumber firstDay := by
  obtain ⟨inRange, known, rfl, -, apart, -⟩ := (numberedWeek_eq_ok_iff _ _ _ _).1 given
  have bounds := firstWeekPlace_bounds known.number firstDay
  have starts := firstWeekPlace_emod known.number firstDay
  have width := daysBeforeYear_succ_bounds known.number known.one_le
  have nextWidth := daysBeforeYear_succ_bounds (known.number + 1) (Nat.le_add_left 1 _)
  by_cases within : days.first.ordinal ≤ daysBeforeYear (known.number + 1)
  · exact Or.inl (congrArg Int.ofNat (Date.yearNumber_eq (by omega) within))
  · have next : days.first.yearNumber = known.number + 1 :=
      Date.yearNumber_eq (by omega) (by omega)
    have nextBounds := firstWeekPlace_bounds (known.number + 1) firstDay
    have nextStarts := firstWeekPlace_emod (known.number + 1) firstDay
    rw [next]
    omega

/-- In one year a week has one number only. -/
theorem number_unique {year number other : Int} {firstDay : FirstDay} {days : Days}
    (given : Days.numberedWeek year number firstDay = .ok days)
    (again : Days.numberedWeek year other firstDay = .ok days) : other = number := by
  obtain ⟨-, known, rfl, -, apart, -⟩ := (numberedWeek_eq_ok_iff _ _ _ _).1 given
  obtain ⟨-, same, sameNumber, -, sameApart, -⟩ := (numberedWeek_eq_ok_iff _ _ _ _).1 again
  rw [Int.ofNat.inj sameNumber] at sameApart
  omega

/-- A week that has a number in the year in which it starts and another number elsewhere is week 1
of the former and week 53 of the year before. -/
theorem other_number_of_week {number otherYear otherNumber : Int} {firstDay : FirstDay}
    {days : Days}
    (given : Days.numberedWeek days.first.yearNumber number firstDay = .ok days)
    (again : Days.numberedWeek otherYear otherNumber firstDay = .ok days)
    (different : (otherYear, otherNumber) ≠ ((days.first.yearNumber : Int), number)) :
    otherYear = days.first.yearNumber - 1 ∧ otherNumber = 53 ∧ number = 1 := by
  rcases year_of_numberedWeek again with same | ⟨next, last, first⟩
  · rw [← same] at again different
    exact absurd (congrArg (Prod.mk _) (number_unique given again)) different
  · obtain ⟨-, known, sameNumber, -, apart, -⟩ := (numberedWeek_eq_ok_iff _ _ _ _).1 given
    rw [Int.ofNat.inj sameNumber] at apart
    omega

/-! ### Weeks in a row -/

/-- Week `number + 1` of a year adjoins week `number`. -/
theorem numberedWeek_succ_adjoins {year number : Int} {firstDay : FirstDay} {days next : Days}
    (given : Days.numberedWeek year number firstDay = .ok days)
    (givenNext : Days.numberedWeek year (number + 1) firstDay = .ok next) :
    next.first.ordinal = days.last.ordinal + 1 := by
  obtain ⟨-, known, rfl, -, apart, whole⟩ := (numberedWeek_eq_ok_iff _ _ _ _).1 given
  obtain ⟨-, same, sameNumber, -, nextApart, -⟩ := (numberedWeek_eq_ok_iff _ _ _ _).1 givenNext
  rw [Int.ofNat.inj sameNumber] at nextApart
  omega

/-- Week 1 of a year starts on one of its first seven days. -/
theorem numberedWeek_one_starts {year : Int} {firstDay : FirstDay} {days : Days}
    (given : Days.numberedWeek year 1 firstDay = .ok days) :
    (days.first.yearNumber : Int) = year ∧ days.first.month = .january ∧
      1 ≤ days.first.day ∧ days.first.day ≤ 7 := by
  obtain ⟨-, known, rfl, -, apart, -⟩ := (numberedWeek_eq_ok_iff _ _ _ _).1 given
  have bounds := firstWeekPlace_bounds known.number firstDay
  have day : 1 ≤ days.first.ordinal - daysBeforeYear known.number ∧
      days.first.ordinal - daysBeforeYear known.number ≤ 7 := by omega
  have short : days.first.ordinal - daysBeforeYear known.number ≤
      Month.january.length known.isLeap := day.2.trans (show 7 ≤ 31 by decide)
  have place : days.first.ordinal = daysBeforeYear known.number +
      Month.january.daysBefore known.isLeap +
        (days.first.ordinal - daysBeforeYear known.number) := by
    simp only [Month.daysBefore]
    omega
  obtain ⟨sameYear, sameMonth, sameDay⟩ := Date.fields_of_ordinal day.1 short place
  refine ⟨congrArg (fun year : Year => (year.number : Int)) sameYear, sameMonth, ?_⟩
  rw [sameDay]
  exact day

/-- The last week that starts in a year is adjoined by week 1 of the next year. -/
theorem lastWeek_adjoins {year number : Int} {firstDay : FirstDay} {days next : Days}
    (given : Days.numberedWeek year number firstDay = .ok days)
    (inYear : (days.first.yearNumber : Int) = year)
    (isLast : ∀ (later : Int) (other : Days), number < later →
      Days.numberedWeek year later firstDay = .ok other → (other.first.yearNumber : Int) ≠ year)
    (givenNext : Days.numberedWeek (year + 1) 1 firstDay = .ok next) :
    next.first.ordinal = days.last.ordinal + 1 := by
  obtain ⟨inRange, known, rfl, numbered, apart, whole⟩ := (numberedWeek_eq_ok_iff _ _ _ _).1 given
  obtain ⟨-, after, sameNumber, -, nextApart, nextWhole⟩ :=
    (numberedWeek_eq_ok_iff _ _ _ _).1 givenNext
  have afterNumber : after.number = known.number + 1 := Int.ofNat.inj sameNumber
  rw [afterNumber] at nextApart
  have bounds := firstWeekPlace_bounds known.number firstDay
  have starts := firstWeekPlace_emod known.number firstDay
  have nextBounds := firstWeekPlace_bounds (known.number + 1) firstDay
  have nextStarts := firstWeekPlace_emod (known.number + 1) firstDay
  have width := daysBeforeYear_succ_bounds known.number known.one_le
  have ending := days.first.ordinal_le_daysBeforeYear_succ
  rw [Int.ofNat.inj inYear] at ending
  have positive := days.first.one_le
  have bounded := next.last.le_last
  by_contra gap
  -- a gap would leave room for one more week that starts in the year
  have room : days.first.ordinal + 7 ≤ daysBeforeYear (known.number + 1) := by omega
  have more := numberedWeek_eq known (number + 1) firstDay (by omega) numbered
  obtain ⟨other, between⟩ : ∃ other, Days.spanning
      (firstWeekPlace known.number firstDay + 7 * (number + 1 - 1))
      (firstWeekPlace known.number firstDay + 7 * (number + 1 - 1) + 6) = .ok other :=
    Days.exists_spanning_eq (by omega) (by omega) (by omega)
  rw [between] at more
  have otherPlace := ((Days.spanning_eq_ok_iff _ _ _).1 between).1
  have otherYear : other.first.yearNumber = known.number := Date.yearNumber_eq (by omega) (by omega)
  exact isLast (number + 1) other (by omega) more (congrArg Int.ofNat otherYear)

/-! ### Numbered weeks on a clock -/

theorem Moment.startOfFirstWeek_eq (year : Year) (firstDay : FirstDay) (offset : Option Offset) :
    startOfFirstWeek year firstDay offset =
      (Days.firstWeekStart year firstDay).map fun date => atStart date offset := by
  unfold startOfFirstWeek Days.firstWeekStart
  rw [startOfWeek_eq, bind_map_eq, map_bind_eq]
  refine bind_congr fun anchor => ?_
  change (if anchor.yearNumber < year.number then _ else _) =
    (if anchor.yearNumber < year.number then _ else _ : Except _ _).map _
  split
  · exact shiftDays_atStart anchor offset 7
  · rfl

/-- The week of a date that starts a week starts on it. -/
theorem Days.week_of_first {date : Date} {firstDay : FirstDay}
    (starts : (date.ordinal : Int) % 7 = firstDay.weekday) :
    week date firstDay = startingAt date 6 := by
  have isStart : date.weekStart firstDay = .ok date :=
    (weekStart_eq_ok_iff _ _ _).2 (eq_weekPlace starts (Int.le_refl _) (by omega))
  unfold week
  rw [isStart]
  rfl

/-- Whole weeks after the start of week 1 a week starts. -/
theorem emod_of_firstWeekStart {year : Year} {firstDay : FirstDay} {start first : Date}
    {weeks : Int} (begins : Days.firstWeekStart year firstDay = .ok start)
    (later : start.shift (7 * weeks) = .ok first) :
    (first.ordinal : Int) % 7 = firstDay.weekday := by
  have place := ((firstWeekStart_eq_ok_iff year firstDay start).1 begins).2
  have laterPlace := (Date.shift_eq_ok_iff _ _ _).1 later
  have starts := firstWeekPlace_emod year.number firstDay
  omega

/-- The week that starts with a moment is found from it by the way to its last moment. -/
theorem Moment.fromTo_endOfWeek {date : Date} {firstDay : FirstDay} (offset : Option Offset)
    (starts : (date.ordinal : Int) % 7 = firstDay.weekday) :
    ((atStart date offset).endOfWeek firstDay >>= fun finish =>
      Period.fromTo (atStart date offset) finish) =
        (Days.startingAt date 6).map fun days => days.toPeriod offset := by
  have sameWeek : Days.week (atStart date offset).date firstDay = Days.startingAt date 6 :=
    Days.week_of_first starts
  rw [endOfWeek_eq, sameWeek]
  exact Days.fromTo_startingAt date 6 offset

theorem Period.numberedWeek_eq (year number : Int) (firstDay : FirstDay)
    (offset : Option Offset) :
    numberedWeek year number firstDay offset =
      (Days.numberedWeek year number firstDay).map fun days => days.toPeriod offset := by
  unfold numberedWeek
  by_cases inRange : 1 ≤ number ∧ number ≤ 53
  · rw [if_pos inRange, Days.numberedWeek_of_inRange inRange, map_bind_eq]
    refine bind_congr fun known => ?_
    rw [Moment.startOfFirstWeek_eq, bind_map_eq, map_bind_eq]
    cases begins : Days.firstWeekStart known firstDay with
    | error error => rfl
    | ok start =>
      change ((Moment.atStart start offset).shiftDays (7 * (number - 1)) >>= _) =
        (start.shift (7 * (number - 1)) >>= _).map _
      rw [Moment.shiftDays_atStart, bind_map_eq, map_bind_eq]
      cases later : start.shift (7 * (number - 1)) with
      | error error => rfl
      | ok first =>
        exact Moment.fromTo_endOfWeek offset (emod_of_firstWeekStart begins later)
  · rw [if_neg inRange, Days.numberedWeek_of_outside inRange]
    rfl

theorem Period.numberedWeek_eq_ok_iff {year number : Int} {firstDay : FirstDay}
    {offset : Option Offset} {period : Period} :
    numberedWeek year number firstDay offset = .ok period ↔ ∃ days,
      Days.numberedWeek year number firstDay = .ok days ∧ days.toPeriod offset = period := by
  rw [numberedWeek_eq, map_eq_ok_iff]

theorem numberedWeek_toPeriod_iff (year number : Int) (firstDay : FirstDay)
    (offset : Option Offset) (days : Days) :
    Period.numberedWeek year number firstDay offset = .ok (days.toPeriod offset) ↔
      Days.numberedWeek year number firstDay = .ok days := by
  rw [Period.numberedWeek_eq_ok_iff]
  constructor
  · rintro ⟨other, given, same⟩
    rw [given, Days.toPeriod_injective same]
  · intro given
    exact ⟨days, given, rfl⟩

/-- The weeks of moments are the numbered weeks, and these tile the calendar. A week has one number
in the year in which it starts, save the weeks that start in year 1 if weeks start on Sunday; if it
has another one, it is week 1 and also week 53 of the year before. Week 1 starts on one of the first
seven days of January, and each week starts one microsecond after the one before it ends, across the
ends of years too. -/
theorem numbered_weeks_tile (firstDay : FirstDay) :
    (∀ (moment : Moment) (period : Period), moment.week firstDay = .ok period →
      ¬(period.start.date.yearNumber = 1 ∧ firstDay = .sunday) →
      (∃! number : Int, (1 ≤ number ∧ number ≤ 53) ∧
        Period.numberedWeek period.start.date.yearNumber number firstDay moment.offset =
          .ok period) ∧
      ∀ number otherYear otherNumber : Int,
        Period.numberedWeek period.start.date.yearNumber number firstDay moment.offset =
          .ok period →
        Period.numberedWeek otherYear otherNumber firstDay moment.offset = .ok period →
        (otherYear, otherNumber) ≠ ((period.start.date.yearNumber : Int), number) →
        otherYear = period.start.date.yearNumber - 1 ∧ otherNumber = 53 ∧ number = 1) ∧
    (∀ (year number : Int) (offset : Option Offset) (period next : Period),
      Period.numberedWeek year number firstDay offset = .ok period →
      Period.numberedWeek year (number + 1) firstDay offset = .ok next →
      period.finish.shift 1 = .ok next.start) ∧
    (∀ (year : Int) (offset : Option Offset) (period : Period),
      Period.numberedWeek year 1 firstDay offset = .ok period →
      (period.start.date.yearNumber : Int) = year ∧ period.start.date.month = .january ∧
        1 ≤ period.start.date.day ∧ period.start.date.day ≤ 7) ∧
    ∀ (year number : Int) (offset : Option Offset) (period next : Period),
      Period.numberedWeek year number firstDay offset = .ok period →
      (period.start.date.yearNumber : Int) = year →
      (∀ (later : Int) (other : Period), number < later →
        Period.numberedWeek year later firstDay offset = .ok other →
        (other.start.date.yearNumber : Int) ≠ year) →
      Period.numberedWeek (year + 1) 1 firstDay offset = .ok next →
      period.finish.shift 1 = .ok next.start := by
  refine ⟨?_, ?_, ?_, ?_⟩
  · intro moment period held numbered
    rw [Moment.week_eq, map_eq_ok_iff] at held
    obtain ⟨days, holds, rfl⟩ := held
    obtain ⟨number, inRange, given⟩ := exists_number_of_week holds numbered
    refine ⟨⟨number, ⟨inRange, (numberedWeek_toPeriod_iff _ _ _ _ _).2 given⟩, ?_⟩, ?_⟩
    · rintro other ⟨-, again⟩
      exact number_unique given ((numberedWeek_toPeriod_iff _ _ _ _ _).1 again)
    · intro number otherYear otherNumber given again different
      exact other_number_of_week ((numberedWeek_toPeriod_iff _ _ _ _ _).1 given)
        ((numberedWeek_toPeriod_iff _ _ _ _ _).1 again) different
  · intro year number offset period next given givenNext
    obtain ⟨days, isWeek, rfl⟩ := Period.numberedWeek_eq_ok_iff.1 given
    obtain ⟨after, isNext, rfl⟩ := Period.numberedWeek_eq_ok_iff.1 givenNext
    exact Days.shift_finish_toPeriod (numberedWeek_succ_adjoins isWeek isNext) offset
  · intro year offset period given
    obtain ⟨days, isWeek, rfl⟩ := Period.numberedWeek_eq_ok_iff.1 given
    exact numberedWeek_one_starts isWeek
  · intro year number offset period next given inYear isLast givenNext
    obtain ⟨days, isWeek, rfl⟩ := Period.numberedWeek_eq_ok_iff.1 given
    obtain ⟨after, isNext, rfl⟩ := Period.numberedWeek_eq_ok_iff.1 givenNext
    refine Days.shift_finish_toPeriod (lastWeek_adjoins isWeek inYear ?_ isNext) offset
    intro later other isLater isOther
    exact isLast later (other.toPeriod offset) isLater
      ((numberedWeek_toPeriod_iff _ _ _ _ _).2 isOther)

/-- The week from Monday, January 1, 2024 is the first of that year and the last of 2023. -/
theorem first_week_of_2024 :
    ∃ period : Period,
      (Moment.atStart ⟨738888, by decide, by decide⟩ none).week .monday = .ok period ∧
      ¬(period.start.date.yearNumber = 1 ∧ FirstDay.monday = .sunday) ∧
      Period.numberedWeek 2024 1 .monday none = .ok period ∧
      Period.numberedWeek 2023 53 .monday none = .ok period ∧
      ∃! number : Int, (1 ≤ number ∧ number ≤ 53) ∧
        Period.numberedWeek period.start.date.yearNumber number .monday none = .ok period := by
  let days : Days := ⟨⟨738886, by decide, by decide⟩, ⟨738892, by decide, by decide⟩, by decide⟩
  have held : (Moment.atStart ⟨738888, by decide, by decide⟩ none).week .monday =
      .ok (days.toPeriod none) := rfl
  have notSunday : ¬((days.toPeriod none).start.date.yearNumber = 1 ∧
      FirstDay.monday = .sunday) := by decide
  have numbered (year number : Int) (given : Days.numberedWeek year number .monday = .ok days) :
      Period.numberedWeek year number .monday none = .ok (days.toPeriod none) :=
    (numberedWeek_toPeriod_iff _ _ _ _ _).2 given
  exact ⟨days.toPeriod none, held, notSunday, numbered 2024 1 (by decide +kernel),
    numbered 2023 53 (by decide +kernel),
    ((numbered_weeks_tile .monday).1 _ _ held notSunday).1⟩

end Almanac
