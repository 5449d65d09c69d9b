/-
This file proves that the months tile the calendar. A month is asked for by the numbers
of its year and its own. Numbers that are too wide for a word leave the calendar, both of
them before either is compared with what the calendar has, and then the year is compared
first. The dates of a month are those that fall into its year and into it, and it ends
one day before the next month starts, be it in the same year or in the next one.
-/

import Almanac.Proofs.CountedPeriods

namespace Almanac

/-! ### The dates of a month -/

namespace Month

/-- In a year each month begins where the one before it ends. -/
theorem daysBefore_succ : ∀ leap : Bool, ∀ month ∈ all, ∀ next ∈ all,
    next.number = month.number + 1 →
      next.daysBefore leap = month.daysBefore leap + month.length leap := by
  decide

end Month

/-- The month that comes after a month, each given by the numbers of its year and its own. -/
def IsNextMonth (year number nextYear nextNumber : Int) : Prop :=
  (nextYear = year ∧ nextNumber = number + 1) ∨
    (nextYear = year + 1 ∧ number = 12 ∧ nextNumber = 1)

namespace Days

/-- The dates of a month are those that fall into its year and into it. -/
theorem mem_month_iff (year : Year) (month : Month) (date : Date) :
    date ∈ Days.month year month ↔ date.year = year ∧ date.month = month := by
  have bounds : date ∈ Days.month year month ↔
      daysBeforeYear year.number + month.daysBefore year.isLeap + 1 ≤ date.ordinal ∧
        date.ordinal ≤ daysBeforeYear year.number + month.daysBefore year.isLeap +
          month.length year.isLeap := Iff.rfl
  rw [bounds]
  constructor
  · rintro ⟨begun, lasts⟩
    let day := date.ordinal - (daysBeforeYear year.number + month.daysBefore year.isLeap)
    have place : date.ordinal =
        daysBeforeYear year.number + month.daysBefore year.isLeap + day := by omega
    obtain ⟨sameYear, sameMonth, -⟩ := Date.fields_of_ordinal (by omega) (by omega) place
    exact ⟨sameYear, sameMonth⟩
  · rintro ⟨rfl, rfl⟩
    have place : date.ordinal =
        daysBeforeYear date.year.number + date.month.daysBefore date.year.isLeap + date.day :=
      date.ordinal_eq
    have inMonth := date.day_bounds
    omega

/-- A month ends on the day before the next month starts, so that its last day can be found by a
step back from there. -/
theorem month_adjoins {year nextYear : Year} {month next : Month}
    (follows : IsNextMonth year.number month.number nextYear.number next.number) :
    (Days.month nextYear next).first.ordinal = (Days.month year month).last.ordinal + 1 := by
  change daysBeforeYear nextYear.number + next.daysBefore nextYear.isLeap + 1 =
    daysBeforeYear year.number + month.daysBefore year.isLeap + month.length year.isLeap + 1
  rcases follows with ⟨sameYear, succ⟩ | ⟨later, isLast, isFirst⟩
  · obtain rfl : nextYear = year := Year.eq_of_number (Int.ofNat.inj sameYear)
    have adjoins := Month.daysBefore_succ nextYear.isLeap month month.mem_all next next.mem_all
      (Int.ofNat.inj succ)
    omega
  · obtain rfl : month = .december := Date.number_injective (Int.ofNat.inj isLast)
    obtain rfl : next = .january := Date.number_injective (Int.ofNat.inj isFirst)
    have yearEnd := daysBeforeYear_succ year.number year.one_le
    have monthEnd := Month.daysBefore_december year.isLeap
    have sameLeap : year.isLeap = isLeapYear year.number := rfl
    rw [Int.ofNat.inj later, yearEnd, Nat.add_assoc _ (Month.december.daysBefore _), monthEnd,
      sameLeap]
    rfl

/-! ### Months by their numbers -/

theorem numberedMonth_of_wide {number : Int} (wide : fitsWord number = false) (year : Int) :
    numberedMonth year number = .error .outsideCalendar := by
  unfold numberedMonth
  rw [wide]
  rfl

theorem numberedMonth_of_month (year : Int) (found : Month) :
    numberedMonth year found.number =
      (Year.ofCaller year).map fun known => Days.month known found := by
  unfold numberedMonth
  rw [found.fitsWord_number, found.ofNumber?_number]
  cases Year.ofCaller year <;> rfl

theorem numberedMonth_of_outside {number : Int} (fits : fitsWord number = true)
    (outside : ¬(1 ≤ number ∧ number ≤ 12)) (year : Int) :
    numberedMonth year number = Year.ofCaller year >>= fun _ => .error .monthOutOfRange := by
  unfold numberedMonth
  rw [fits, (Month.ofNumber?_eq_none_iff number).2 outside]
  rfl

/-- A number is that of a month, or it fits into a word without being one, or it is too wide. -/
theorem number_cases (number : Int) :
    (∃ found : Month, (found.number : Int) = number) ∨
      (fitsWord number = true ∧ ¬(1 ≤ number ∧ number ≤ 12)) ∨ fitsWord number = false := by
  cases fits : fitsWord number with
  | false => exact Or.inr (Or.inr rfl)
  | true =>
    cases found : Month.ofNumber? number with
    | some month => exact Or.inl ⟨month, (Month.ofNumber?_eq_some_iff number month).1 found⟩
    | none => exact Or.inr (Or.inl ⟨rfl, (Month.ofNumber?_eq_none_iff number).1 found⟩)

theorem numberedMonth_eq_ok_iff (year number : Int) (days : Days) :
    numberedMonth year number = .ok days ↔ ∃ (known : Year) (found : Month),
      (known.number : Int) = year ∧ (found.number : Int) = number ∧
        Days.month known found = days := by
  constructor
  · intro given
    rcases number_cases number with ⟨found, rfl⟩ | ⟨fits, outside⟩ | wide
    · rw [numberedMonth_of_month, map_eq_ok_iff] at given
      obtain ⟨known, isYear, isMonth⟩ := given
      exact ⟨known, found, (Year.ofCaller_eq_ok_iff _ _).1 isYear, rfl, isMonth⟩
    · rw [numberedMonth_of_outside fits outside, bind_eq_ok_iff] at given
      obtain ⟨-, -, fails⟩ := given
      cases fails
    · rw [numberedMonth_of_wide wide] at given
      cases given
  · rintro ⟨known, found, rfl, rfl, rfl⟩
    rw [numberedMonth_of_month, map_eq_ok_iff]
    exact ⟨known, (Year.ofCaller_eq_ok_iff _ _).2 rfl, rfl⟩

/-- Whether the two numbers fit into words is looked at before the year, and the year before the
month. -/
theorem numberedMonth_eq_error_iff (year number : Int) (error : CalendarError) :
    numberedMonth year number = .error error ↔
      (¬(fitsWord year = true ∧ fitsWord number = true) ∧ error = .outsideCalendar) ∨
      ((fitsWord year = true ∧ fitsWord number = true) ∧
        ((¬(1 ≤ year ∧ year ≤ lastYear) ∧ error = .yearOutOfRange year) ∨
          ((1 ≤ year ∧ year ≤ lastYear) ∧ ¬(1 ≤ number ∧ number ≤ 12) ∧
            error = .monthOutOfRange))) := by
  rcases number_cases number with ⟨found, rfl⟩ | ⟨fits, outside⟩ | wide
  · have inRange := found.number_mem
    have fits := found.fitsWord_number
    have known : (1 : Int) ≤ found.number ∧ (found.number : Int) ≤ 12 := by omega
    rw [numberedMonth_of_month, map_eq_error_iff, Year.ofCaller_eq_error_iff]
    simp only [fits, known, and_true, not_true_eq_false, false_and, and_false, or_false,
      Bool.not_eq_true]
  · rw [numberedMonth_of_outside fits outside, bind_eq_error_iff, Year.ofCaller_eq_error_iff]
    simp only [exists_and_right, Year.exists_ofCaller_iff, fits, outside, and_true,
      not_false_eq_true, true_and, Bool.not_eq_true, Except.error.injEq]
    by_cases held : 1 ≤ year ∧ year ≤ lastYear
    · have fitsYear : fitsWord year = true := fitsWord_of_le held.1 held.2
      simp only [held, fitsYear, Bool.true_eq_false, not_true_eq_false, and_true, and_false,
        false_and, true_and, false_or]
      exact eq_comm
    · simp only [held, not_false_eq_true, true_and, false_and, or_false]
  · rw [numberedMonth_of_wide wide]
    simp only [wide, Bool.false_eq_true, and_false, not_false_eq_true, true_and, false_and,
      or_false, Except.error.injEq]
    exact eq_comm

end Days

/-! ### Months on a clock -/

namespace Period

variable {year number : Int} {offset : Option Offset}

/-- The last day of a month is its last date, also where it is found by a step back from the next
month. -/
theorem startOfLastDay_eq (year : Year) (month : Month) (offset : Option Offset) :
    Moment.startOfLastDay year month offset =
      .ok (.atStart (Date.lastOfMonth year month) offset) := by
  unfold Moment.startOfLastDay
  cases found : Month.ofNumber? (month.number + 1) with
  | some next =>
    have succ := (Month.ofNumber?_eq_some_iff _ _).1 found
    have adjoins : (Date.firstOfMonth year next).ordinal =
        (Date.lastOfMonth year month).ordinal + 1 :=
      Days.month_adjoins (Or.inl ⟨rfl, succ⟩)
    have back : (Date.firstOfMonth year next).shift (-1) = .ok (Date.lastOfMonth year month) :=
      (Date.shift_eq_ok_iff _ _ _).2 (by omega)
    change (Moment.atStart (Date.firstOfMonth year next) offset).shiftDays (-1) = _
    rw [Moment.shiftDays_atStart, back]
    rfl
  | none => rfl

theorem numberedMonth_eq (year number : Int) (offset : Option Offset) :
    numberedMonth year number offset =
      (Days.numberedMonth year number).map fun days => days.toPeriod offset := by
  unfold numberedMonth Days.numberedMonth
  cases fitsWord number with
  | false => rfl
  | true =>
    change (Year.ofCaller year >>= _) = (Year.ofCaller year >>= _).map _
    rw [map_bind_eq]
    refine bind_congr fun known => ?_
    cases Month.ofNumber? number with
    | none => rfl
    | some month =>
      change (Moment.startOfLastDay known month offset >>= fun lastDay =>
        fromTo (.atStart (.firstOfMonth known month) offset) lastDay.endOfDay) = _
      rw [startOfLastDay_eq]
      exact (Days.month known month).fromTo_toPeriod offset

theorem numberedMonth_eq_ok_iff (period : Period) :
    numberedMonth year number offset = .ok period ↔ ∃ (known : Year) (found : Month),
      (known.number : Int) = year ∧ (found.number : Int) = number ∧
        (Days.month known found).toPeriod offset = period := by
  rw [numberedMonth_eq]
  simp only [map_eq_ok_iff, Days.numberedMonth_eq_ok_iff]
  constructor
  · rintro ⟨_, ⟨known, found, isYear, isMonth, rfl⟩, isPeriod⟩
    exact ⟨known, found, isYear, isMonth, isPeriod⟩
  · rintro ⟨known, found, isYear, isMonth, isPeriod⟩
    exact ⟨_, ⟨known, found, isYear, isMonth, rfl⟩, isPeriod⟩

theorem exists_numberedMonth_iff : (∃ period, numberedMonth year number offset = .ok period) ↔
    (1 ≤ year ∧ year ≤ lastYear) ∧ 1 ≤ number ∧ number ≤ 12 := by
  simp only [numberedMonth_eq_ok_iff]
  constructor
  · rintro ⟨_, known, found, rfl, rfl, -⟩
    have positive := known.one_le
    have bounded := known.le_last
    have inRange := found.number_mem
    omega
  · rintro ⟨inCalendar, inYear⟩
    obtain ⟨known, isKnown⟩ := (Year.exists_ofCaller_iff year).2 inCalendar
    have isYear := (Year.ofCaller_eq_ok_iff year known).1 isKnown
    cases found : Month.ofNumber? number with
    | none => exact absurd inYear ((Month.ofNumber?_eq_none_iff number).1 found)
    | some month =>
      exact ⟨_, known, month, isYear, (Month.ofNumber?_eq_some_iff number month).1 found, rfl⟩

/-- A month holds the moments on its clock that fall into its year and into it. -/
theorem contains_numberedMonth {period : Period}
    (given : numberedMonth year number offset = .ok period) {moment : Moment}
    (onClock : moment.offset = offset) :
    period.contains moment = .ok (decide ((moment.date.yearNumber : Int) = year ∧
      (moment.date.month.number : Int) = number)) := by
  obtain ⟨known, found, rfl, rfl, rfl⟩ := (numberedMonth_eq_ok_iff period).1 given
  rw [← onClock, Days.contains_toPeriod]
  refine congrArg Except.ok (decide_eq_decide.2 ?_)
  rw [Days.mem_month_iff, Int.natCast_inj, Int.natCast_inj]
  refine and_congr ⟨congrArg Year.number, fun same => Year.eq_of_number same⟩ ?_
  exact ⟨congrArg Month.number, Date.number_injective⟩

end Period

/-- There is a month for each year of the calendar and each number from 1 to 12; numbers that are too
wide for a word leave the calendar, and of the others the year is looked at before the month. A month
holds the moments that fall into its year and into it, so each moment lies in one month, and the next
month starts one microsecond after a month ends, also where the year ends or is a leap year. -/
theorem months_tile_calendar (offset : Option Offset) :
    (∀ year number : Int, (∃ period, Period.numberedMonth year number offset = .ok period) ↔
      (1 ≤ year ∧ year ≤ lastYear) ∧ 1 ≤ number ∧ number ≤ 12) ∧
    (∀ (year number : Int) (error : CalendarError),
      Period.numberedMonth year number offset = .error error ↔
        (¬(fitsWord year = true ∧ fitsWord number = true) ∧ error = .outsideCalendar) ∨
        ((fitsWord year = true ∧ fitsWord number = true) ∧
          ((¬(1 ≤ year ∧ year ≤ lastYear) ∧ error = .yearOutOfRange year) ∨
            ((1 ≤ year ∧ year ≤ lastYear) ∧ ¬(1 ≤ number ∧ number ≤ 12) ∧
              error = .monthOutOfRange)))) ∧
    (∀ (year number : Int) (period : Period) (moment : Moment),
      Period.numberedMonth year number offset = .ok period → moment.offset = offset →
      period.contains moment = .ok (decide ((moment.date.yearNumber : Int) = year ∧
        (moment.date.month.number : Int) = number))) ∧
    (∀ (year number nextYear nextNumber : Int) (period next : Period),
      IsNextMonth year number nextYear nextNumber →
      Period.numberedMonth year number offset = .ok period →
      Period.numberedMonth nextYear nextNumber offset = .ok next →
      period.finish.shift 1 = .ok next.start) ∧
    ∀ moment : Moment, moment.offset = offset → ∃! month : Int × Int, ∃ period,
      Period.numberedMonth month.1 month.2 offset = .ok period ∧
        period.contains moment = .ok true := by
  refine ⟨fun year number => Period.exists_numberedMonth_iff, ?_, ?_, ?_, ?_⟩
  · intro year number error
    rw [Period.numberedMonth_eq, map_eq_error_iff, Days.numberedMonth_eq_error_iff]
  · intro year number period moment given onClock
    exact Period.contains_numberedMonth given onClock
  · intro year number nextYear nextNumber period next follows given givenNext
    obtain ⟨known, found, rfl, rfl, rfl⟩ := (Period.numberedMonth_eq_ok_iff period).1 given
    obtain ⟨after, foundAfter, rfl, rfl, rfl⟩ := (Period.numberedMonth_eq_ok_iff next).1 givenNext
    exact Days.shift_finish_toPeriod (Days.month_adjoins follows) offset
  · intro moment onClock
    refine ⟨(moment.date.yearNumber, moment.date.month.number), ?_, ?_⟩
    · have given : Period.numberedMonth moment.date.yearNumber moment.date.month.number offset =
          .ok ((Days.month moment.date.year moment.date.month).toPeriod offset) :=
        (Period.numberedMonth_eq_ok_iff _).2 ⟨_, _, rfl, rfl, rfl⟩
      refine ⟨_, given, ?_⟩
      rw [Period.contains_numberedMonth given onClock, decide_eq_true ⟨rfl, rfl⟩]
    · rintro ⟨year, number⟩ ⟨period, given, holds⟩
      rw [Period.contains_numberedMonth given onClock] at holds
      obtain ⟨sameYear, sameMonth⟩ := of_decide_eq_true (Except.ok.inj holds)
      exact Prod.ext sameYear.symm sameMonth.symm

/-- February 2024 holds noon of its 29th day, and March follows on it. -/
theorem february_2024_and_march :
    let noon : Moment := ⟨⟨738945, by decide, by decide⟩, 43200000000, by decide, none⟩
    ∃ february march, Period.numberedMonth 2024 2 none = .ok february ∧
      Period.numberedMonth 2024 3 none = .ok march ∧ IsNextMonth 2024 2 2024 3 ∧
      noon.offset = none ∧ february.contains noon = .ok true ∧
      february.finish.shift 1 = .ok march.start := by
  let noon : Moment := ⟨⟨738945, by decide, by decide⟩, 43200000000, by decide, none⟩
  let known : Year := ⟨2024, by decide, by decide⟩
  have february : Period.numberedMonth 2024 2 none =
      .ok ((Days.month known .february).toPeriod none) :=
    (Period.numberedMonth_eq_ok_iff _).2 ⟨known, .february, rfl, rfl, rfl⟩
  have march : Period.numberedMonth 2024 3 none =
      .ok ((Days.month known .march).toPeriod none) :=
    (Period.numberedMonth_eq_ok_iff _).2 ⟨known, .march, rfl, rfl, rfl⟩
  have follows : IsNextMonth 2024 2 2024 3 := Or.inl ⟨rfl, rfl⟩
  obtain ⟨-, -, holds, adjoins, -⟩ := months_tile_calendar none
  have inMonth : (noon.date.yearNumber : Int) = 2024 ∧ (noon.date.month.number : Int) = 2 := by
    decide
  have held := holds _ _ _ noon february rfl
  rw [decide_eq_true inMonth] at held
  exact ⟨_, _, february, march, follows, rfl, held, adjoins _ _ _ _ _ _ follows february march⟩

end Almanac
