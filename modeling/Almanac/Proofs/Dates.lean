/-
This file ties the two ways to name a date together. Years cut the count of days
into blocks of 365 or 366 days, months cut a year, and what is left is the day of
the month. So every date has one year, one month and one day of the month, and
these three lead back to it.
-/

import Mathlib.Order.Monotone.Basic
import Almanac.Calendar.Date

namespace Almanac

/-! ### Years in the count of days -/

theorem isLeapYear_iff (year : Nat) :
    isLeapYear year = true ↔ year % 4 = 0 ∧ (year % 100 ≠ 0 ∨ year % 400 = 0) := by
  simp [isLeapYear]

/-- A year ends 366 days after it starts if it is a leap year, and 365 days after otherwise. -/
theorem daysBeforeYear_succ (year : Nat) (positive : 1 ≤ year) :
    daysBeforeYear (year + 1) = daysBeforeYear year + if isLeapYear year then 366 else 365 := by
  obtain ⟨elapsed, rfl⟩ := Nat.exists_eq_add_of_le' positive
  have leap := isLeapYear_iff (elapsed + 1)
  have ordered : elapsed / 100 ≤ elapsed / 4 := by omega
  simp only [daysBeforeYear, Nat.add_sub_cancel, Nat.succ_div, Nat.dvd_iff_mod_eq_zero]
  by_cases isLeap : isLeapYear (elapsed + 1) = true
  · rw [if_pos isLeap]
    rcases leap.1 isLeap with ⟨four, notHundred | fourHundred⟩
    · rw [if_pos four, if_neg notHundred, if_neg (by omega)]
      omega
    · rw [if_pos four, if_pos (by omega), if_pos fourHundred]
      omega
  · have common := mt leap.2 isLeap
    rw [if_neg isLeap]
    split <;> split <;> split <;> omega

theorem daysBeforeYear_mono : Monotone daysBeforeYear := by
  refine monotone_nat_of_le_succ fun year => ?_
  rcases Nat.eq_zero_or_pos year with rfl | positive
  · decide
  · rw [daysBeforeYear_succ year positive]
    exact Nat.le_add_right _ _

/-- A year has 365 or 366 days. -/
theorem daysBeforeYear_succ_bounds (year : Nat) (positive : 1 ≤ year) :
    daysBeforeYear year + 365 ≤ daysBeforeYear (year + 1) ∧
      daysBeforeYear (year + 1) ≤ daysBeforeYear year + 366 := by
  rw [daysBeforeYear_succ year positive]
  split <;> omega

theorem Year.eq_of_number {year other : Year} (same : year.number = other.number) :
    year = other := by
  cases year
  cases other
  cases same
  rfl

theorem Year.ofNumber?_eq_some_iff (number : Int) (year : Year) :
    Year.ofNumber? number = some year ↔ (year.number : Int) = number := by
  have positive := year.one_le
  have bounded := year.le_last
  constructor
  · intro found
    unfold Year.ofNumber? at found
    split at found
    · rw [← Option.some.inj found]
      simp only
      omega
    · cases found
  · rintro rfl
    unfold Year.ofNumber?
    rw [dif_pos (by omega)]
    rfl

theorem Year.ofNumber?_eq_none_iff (number : Int) :
    Year.ofNumber? number = none ↔ ¬(1 ≤ number ∧ number ≤ lastYear) := by
  unfold Year.ofNumber?
  split <;> simp_all

/-! ### Numbers from callers -/

theorem fitsWord_of_le {number : Int} (positive : 1 ≤ number) (bounded : number ≤ lastYear) :
    fitsWord number = true := by
  unfold lastYear at bounded
  unfold fitsWord
  simp only [Bool.and_eq_true, decide_eq_true_eq]
  omega

/-- The calendar has the year with a number that a caller gives exactly if one of its years has the
number. -/
theorem Year.ofCaller_eq_ok_iff (number : Int) (year : Year) :
    Year.ofCaller number = .ok year ↔ (year.number : Int) = number := by
  have positive := year.one_le
  have bounded := year.le_last
  unfold Year.ofCaller
  rw [← Year.ofNumber?_eq_some_iff]
  split
  · cases Year.ofNumber? number <;> simp
  · next wide =>
    have outside : ¬(year.number : Int) = number := by
      rintro rfl
      exact wide (fitsWord_of_le (by omega) (by omega))
    simp [Year.ofNumber?_eq_some_iff, outside]

theorem Year.exists_ofCaller_iff (number : Int) :
    (∃ year, Year.ofCaller number = .ok year) ↔ 1 ≤ number ∧ number ≤ lastYear := by
  simp only [Year.ofCaller_eq_ok_iff]
  constructor
  · rintro ⟨year, rfl⟩
    exact ⟨Int.ofNat_le.2 year.one_le, Int.ofNat_le.2 year.le_last⟩
  · rintro ⟨positive, bounded⟩
    exact ⟨⟨number.toNat, by omega, by omega⟩, Int.toNat_of_nonneg (by omega)⟩

/-- The calendar is left by numbers that are too wide for a word, and has no year with any other
number that is out of range. -/
theorem Year.ofCaller_eq_error_iff (number : Int) (error : CalendarError) :
    Year.ofCaller number = .error error ↔
      (fitsWord number = false ∧ error = .outsideCalendar) ∨
      (fitsWord number = true ∧ ¬(1 ≤ number ∧ number ≤ lastYear) ∧
        error = .yearOutOfRange number) := by
  rw [← Year.ofNumber?_eq_none_iff]
  unfold Year.ofCaller
  split
  · next fits =>
    cases Year.ofNumber? number <;> simp [fits, eq_comm]
  · next wide => simp [wide, eq_comm]

theorem Month.ofNumber?_eq_some_iff (number : Int) (month : Month) :
    ofNumber? number = some month ↔ (month.number : Int) = number := by
  constructor
  · intro found
    have numbered := List.find?_some found
    exact of_decide_eq_true numbered
  · rintro rfl
    exact ofNumber?_number month

theorem Month.ofNumber?_eq_none_iff (number : Int) :
    ofNumber? number = none ↔ ¬(1 ≤ number ∧ number ≤ 12) := by
  constructor
  · rintro missing ⟨positive, bounded⟩
    have listed : ∃ month ∈ all, (month.number : Int) = number := by
      have numbers : all.map (fun month => (month.number : Int)) =
          [1, 2, 3, 4, 5, 6, 7, 8, 9, 10, 11, 12] := rfl
      rw [← List.mem_map, numbers]
      simp only [List.mem_cons, List.not_mem_nil, or_false]
      omega
    obtain ⟨month, -, numbered⟩ := listed
    rw [(ofNumber?_eq_some_iff number month).2 numbered] at missing
    cases missing
  · intro outside
    cases found : ofNumber? number with
    | none => rfl
    | some month =>
      have numbered := (ofNumber?_eq_some_iff number month).1 found
      have inRange := month.number_mem
      omega

theorem Month.fitsWord_number (month : Month) : fitsWord month.number = true := by
  have inRange := month.number_mem
  exact fitsWord_of_le (by omega) (by unfold lastYear; omega)

/-- A year ends with December. -/
theorem Month.daysBefore_december (leap : Bool) :
    december.daysBefore leap + december.length leap = if leap then 366 else 365 := by
  cases leap <;> rfl

namespace Date

theorem ofOrdinal?_eq_some_iff (ordinal : Int) (date : Date) :
    ofOrdinal? ordinal = some date ↔ (date.ordinal : Int) = ordinal := by
  have positive := date.one_le
  have bounded := date.le_last
  constructor
  · intro found
    unfold ofOrdinal? at found
    split at found
    · rw [← Option.some.inj found]
      simp only
      omega
    · cases found
  · rintro rfl
    unfold ofOrdinal?
    rw [dif_pos (by omega)]
    rfl

theorem ofOrdinal?_eq_none_iff (ordinal : Int) :
    ofOrdinal? ordinal = none ↔ ¬(1 ≤ ordinal ∧ ordinal ≤ lastOrdinal) := by
  unfold ofOrdinal?
  split <;> simp_all

/-- A date lies in the year whose block of days holds it. -/
theorem yearNumber_eq {date : Date} {year : Nat} (after : daysBeforeYear year < date.ordinal)
    (upTo : date.ordinal ≤ daysBeforeYear (year + 1)) : date.yearNumber = year := by
  have reached := date.daysBeforeYear_yearNumber_lt
  have ending := date.ordinal_le_daysBeforeYear_succ
  rcases Nat.lt_trichotomy date.yearNumber year with earlier | same | later
  · have ended : daysBeforeYear (date.yearNumber + 1) ≤ daysBeforeYear year :=
      daysBeforeYear_mono earlier
    omega
  · exact same
  · have ended : daysBeforeYear (year + 1) ≤ daysBeforeYear date.yearNumber :=
      daysBeforeYear_mono later
    omega

theorem yearNumber_le_yearNumber {first second : Date} (order : first ≤ second) :
    first.yearNumber ≤ second.yearNumber := by
  have ordered : first.ordinal ≤ second.ordinal := order
  have reached := first.daysBeforeYear_yearNumber_lt
  have ending := second.ordinal_le_daysBeforeYear_succ
  by_contra later
  have ended : daysBeforeYear (second.yearNumber + 1) ≤ daysBeforeYear first.yearNumber :=
    daysBeforeYear_mono (Nat.lt_of_not_le later)
  omega

/-! ### Months in a year -/

/-- Whether a place in a year, the first of January being 1, falls into a month. -/
def InMonth (leap : Bool) (place : Nat) (month : Month) : Prop :=
  month.daysBefore leap < place ∧ place ≤ month.daysBefore leap + month.length leap

theorem months_ascend : ∀ leap : Bool, ∀ first ∈ Month.all, ∀ second ∈ Month.all,
    first.number < second.number →
      first.daysBefore leap + first.length leap ≤ second.daysBefore leap := by
  decide

/-- Months follow each other without a gap. -/
theorem months_adjoin : ∀ leap : Bool, ∀ month ∈ Month.all, month.daysBefore leap = 0 ∨
    ∃ previous ∈ Month.all, previous.number < month.number ∧
      month.daysBefore leap = previous.daysBefore leap + previous.length leap := by
  decide

theorem all_sorted : Month.all.Pairwise fun first second => first.number < second.number := by
  decide

theorem number_injective {first second : Month} (same : first.number = second.number) :
    first = second := by
  have found := first.ofNumber?_number
  rw [same, second.ofNumber?_number] at found
  exact (Option.some.inj found).symm

/-- A place in a year falls into one month only. -/
theorem InMonth.unique {leap : Bool} {place : Nat} {first second : Month}
    (inFirst : InMonth leap place first) (inSecond : InMonth leap place second) :
    first = second := by
  unfold InMonth at inFirst inSecond
  rcases Nat.lt_trichotomy first.number second.number with earlier | same | later
  · have := months_ascend leap first first.mem_all second second.mem_all earlier
    omega
  · exact number_injective same
  · have := months_ascend leap second second.mem_all first first.mem_all later
    omega

theorem dayOfYear_bounds (date : Date) :
    1 ≤ date.dayOfYear ∧ date.dayOfYear ≤ if date.year.isLeap then 366 else 365 := by
  have reached := date.daysBeforeYear_yearNumber_lt
  have ending := date.ordinal_le_daysBeforeYear_succ
  rw [daysBeforeYear_succ date.yearNumber date.one_le_yearNumber] at ending
  unfold dayOfYear
  constructor
  · omega
  · change _ ≤ if isLeapYear date.yearNumber then 366 else 365
    omega

/-- The first month that does not end before a place in the year has begun by then. -/
theorem inMonth_of_find? {leap : Bool} {place : Nat} {month : Month} (positive : 1 ≤ place)
    (found : (Month.all.find? fun month =>
      place ≤ month.daysBefore leap + month.length leap) = some month) :
    InMonth leap place month := by
  obtain ⟨reaches, before, after, split, passed⟩ := List.find?_eq_some_iff_append.1 found
  refine ⟨?_, of_decide_eq_true reaches⟩
  rcases months_adjoin leap month month.mem_all with first | ⟨previous, member, lower, adjoins⟩
  · omega
  · have sorted := all_sorted
    rw [split] at member sorted
    have fromMonth := List.pairwise_cons.1 (List.pairwise_append.1 sorted).2.1
    have inBefore : previous ∈ before := by
      rcases List.mem_append.1 member with inBefore | inRest
      · exact inBefore
      · rcases List.mem_cons.1 inRest with rfl | inAfter
        · omega
        · have higher := fromMonth.1 previous inAfter
          omega
    have ended := passed previous inBefore
    simp only [Bool.not_eq_true', decide_eq_false_iff_not] at ended
    omega

/-- A date falls into its month. -/
theorem inMonth_month (date : Date) : InMonth date.year.isLeap date.dayOfYear date.month := by
  obtain ⟨positive, bounded⟩ := date.dayOfYear_bounds
  dsimp only [month]
  cases found : Month.all.find? fun month =>
      date.dayOfYear ≤ month.daysBefore date.year.isLeap + month.length date.year.isLeap with
  | some month => exact inMonth_of_find? positive found
  | none =>
    have missed := List.find?_eq_none.1 found .december Month.december.mem_all
    rw [Month.daysBefore_december, decide_eq_true_eq] at missed
    omega

theorem month_eq {date : Date} {month : Month}
    (inMonth : InMonth date.year.isLeap date.dayOfYear month) : date.month = month :=
  date.inMonth_month.unique inMonth

/-! ### Year, month and day -/

/-- The place of a date in the count of days, from its year, its month and its day. -/
theorem ordinal_eq (date : Date) : date.ordinal =
    daysBeforeYear date.yearNumber + date.month.daysBefore date.year.isLeap + date.day := by
  have reached := date.daysBeforeYear_yearNumber_lt
  have begun := date.inMonth_month.1
  unfold day
  unfold dayOfYear at *
  omega

theorem day_bounds (date : Date) :
    1 ≤ date.day ∧ date.day ≤ date.month.length date.year.isLeap := by
  obtain ⟨begun, lasts⟩ := date.inMonth_month
  unfold day
  omega

/-- A place inside a month of a year is a date of that year and month. -/
theorem fields_of_ordinal {date : Date} {year : Year} {month : Month} {day : Nat}
    (positive : 1 ≤ day) (bounded : day ≤ month.length year.isLeap)
    (place : date.ordinal = daysBeforeYear year.number + month.daysBefore year.isLeap + day) :
    date.year = year ∧ date.month = month ∧ date.day = day := by
  have yearEnd := daysBeforeYear_succ year.number year.one_le
  have monthEnd := month.daysBefore_add_length_le year.isLeap
  have sameNumber : date.yearNumber = year.number := by
    refine yearNumber_eq (by omega) ?_
    rw [yearEnd]
    change _ ≤ _ + if year.isLeap then 366 else 365
    omega
  have sameYear : date.year = year := Year.eq_of_number sameNumber
  have dayOfYear : date.dayOfYear = month.daysBefore year.isLeap + day := by
    unfold Date.dayOfYear
    rw [sameNumber]
    omega
  have sameMonth : date.month = month := by
    refine month_eq ?_
    rw [sameYear, dayOfYear]
    unfold InMonth
    omega
  refine ⟨sameYear, sameMonth, ?_⟩
  rw [Date.day, sameMonth, sameYear, dayOfYear]
  omega

/-- The calendar holds each day of each month of its years. -/
theorem exists_fields_iff (year month day : Nat) :
    (∃ date : Date, date.yearNumber = year ∧ date.month.number = month ∧ date.day = day) ↔
      (1 ≤ year ∧ year ≤ lastYear) ∧ ∃ found : Month, found.number = month ∧
        1 ≤ day ∧ day ≤ found.length (isLeapYear year) := by
  constructor
  · rintro ⟨date, rfl, rfl, rfl⟩
    exact ⟨⟨date.one_le_yearNumber, date.yearNumber_le_last⟩, date.month, rfl, date.day_bounds⟩
  · rintro ⟨⟨positive, bounded⟩, found, rfl, inMonth⟩
    let known : Year := ⟨year, positive, bounded⟩
    have yearEnd := daysBeforeYear_add_le known
    have monthEnd := found.daysBefore_add_length_le known.isLeap
    have lasts : day ≤ found.length known.isLeap := inMonth.2
    let date : Date :=
      ⟨daysBeforeYear known.number + found.daysBefore known.isLeap + day, by omega, by omega⟩
    have place : date.ordinal =
        daysBeforeYear known.number + found.daysBefore known.isLeap + day := rfl
    obtain ⟨sameYear, sameMonth, sameDay⟩ := fields_of_ordinal inMonth.1 lasts place
    exact ⟨date, congrArg Year.number sameYear, congrArg Month.number sameMonth, sameDay⟩

/-- Reading a date from its three numbers finds the one date that has them. -/
theorem ofNumbers?_eq_some_iff (year month day : Nat) (date : Date) :
    ofNumbers? year month day = some date ↔
      date.yearNumber = year ∧ date.month.number = month ∧ date.day = day := by
  constructor
  · intro read
    simp only [ofNumbers?, Option.bind_eq_bind, Option.bind_eq_some_iff] at read
    obtain ⟨foundYear, isYear, foundMonth, isMonth, isDate⟩ := read
    split at isDate
    case isFalse => cases isDate
    rename_i inMonth
    have place := (ofOrdinal?_eq_some_iff _ date).1 isDate
    obtain ⟨sameYear, sameMonth, sameDay⟩ :=
      fields_of_ordinal inMonth.1 inMonth.2 (Int.ofNat.inj place)
    have yearIs := (Year.ofNumber?_eq_some_iff _ _).1 isYear
    have monthIs := List.find?_some isMonth
    simp only [decide_eq_true_eq] at monthIs
    refine ⟨?_, ?_, sameDay⟩
    · have : date.yearNumber = foundYear.number := congrArg Year.number sameYear
      omega
    · rw [sameMonth]
      omega
  · rintro ⟨rfl, rfl, rfl⟩
    have isYear : Year.ofNumber? date.yearNumber = some date.year :=
      (Year.ofNumber?_eq_some_iff _ _).2 rfl
    simp only [ofNumbers?, isYear, date.month.ofNumber?_number, Option.bind_eq_bind,
      Option.bind_some, if_pos date.day_bounds]
    refine (ofOrdinal?_eq_some_iff _ date).2 ?_
    exact congrArg Int.ofNat date.ordinal_eq

end Date

end Almanac
