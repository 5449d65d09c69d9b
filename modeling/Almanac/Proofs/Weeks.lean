/-
This file says which dates the questions about weeks and last days answer with, in
an endless count of days that continues the calendar on both sides. Each answer is
the run between two places of that count if the calendar holds both of them, and
otherwise the error that the calendar ends. The detours that the questions take, a
step back to the start of a week and steps forward from there, leave no other trace.
-/

import Almanac.Calendar.Period
import Almanac.Proofs.Dates
import Almanac.Proofs.Outcomes
import Almanac.Proofs.RunsOfDates

namespace Almanac

/-! ### Runs between two places -/

namespace Days

/-- The run of dates between two places in an endless count of days, if the calendar holds it. -/
def spanning (first last : Int) : Except CalendarError Days :=
  if within : 1 ≤ first ∧ first ≤ last ∧ last ≤ lastOrdinal then
    .ok ⟨⟨first.toNat, by omega, by omega⟩, ⟨last.toNat, by omega, by omega⟩,
      Int.toNat_le_toNat within.2.1⟩
  else
    .error .outsideCalendar

theorem ext_ordinals {days other : Days} (sameFirst : days.first.ordinal = other.first.ordinal)
    (sameLast : days.last.ordinal = other.last.ordinal) : days = other := by
  obtain ⟨first, last, _⟩ := days
  obtain ⟨otherFirst, otherLast, _⟩ := other
  cases Date.ext sameFirst
  cases Date.ext sameLast
  rfl

theorem spanning_eq_ok_iff (first last : Int) (days : Days) :
    spanning first last = .ok days ↔
      (days.first.ordinal : Int) = first ∧ (days.last.ordinal : Int) = last := by
  have positive := days.first.one_le
  have bounded := days.last.le_last
  have ordered : days.first.ordinal ≤ days.last.ordinal := days.first_le_last
  unfold spanning
  constructor
  · intro spans
    split at spans
    · rw [← Except.ok.inj spans]
      simp only
      omega
    · cases spans
  · rintro ⟨rfl, rfl⟩
    rw [dif_pos (by omega)]
    exact congrArg Except.ok (ext_ordinals rfl rfl)

theorem exists_spanning_eq {first last : Int} (positive : 1 ≤ first) (ordered : first ≤ last)
    (bounded : last ≤ lastOrdinal) : ∃ days, spanning first last = .ok days := by
  unfold spanning
  rw [dif_pos ⟨positive, ordered, bounded⟩]
  exact ⟨_, rfl⟩

theorem spanning_eq_error_iff (first last : Int) (error : CalendarError) :
    spanning first last = .error error ↔
      error = .outsideCalendar ∧ ¬(1 ≤ first ∧ first ≤ last ∧ last ≤ lastOrdinal) := by
  unfold spanning
  split
  · next within => simp [within]
  · next without => simp [without, eq_comm]

theorem spanning_eq_error {first last : Int}
    (without : ¬(1 ≤ first ∧ first ≤ last ∧ last ≤ lastOrdinal)) :
    spanning first last = .error .outsideCalendar :=
  (spanning_eq_error_iff first last _).2 ⟨rfl, without⟩

theorem startingAt_eq (first : Date) (more : Nat) :
    startingAt first more = spanning first.ordinal (first.ordinal + more) := by
  have positive := first.one_le
  unfold startingAt
  split
  · exact ((spanning_eq_ok_iff _ _ _).2 ⟨rfl, by simp⟩).symm
  · exact (spanning_eq_error (by omega)).symm

theorem endingAt_eq (last : Date) (more : Nat) :
    endingAt last more = spanning (last.ordinal - more) last.ordinal := by
  have bounded := last.le_last
  unfold endingAt
  split
  · exact ((spanning_eq_ok_iff _ _ _).2 ⟨by simp only; omega, rfl⟩).symm
  · exact (spanning_eq_error (by omega)).symm

end Days

/-! ### Steps from a date -/

namespace Date

theorem shift_eq_ok_iff (date shifted : Date) (days : Int) :
    date.shift days = .ok shifted ↔ (shifted.ordinal : Int) = date.ordinal + days := by
  rw [← ofOrdinal?_eq_some_iff]
  unfold shift
  cases ofOrdinal? (date.ordinal + days) <;> simp

theorem shift_eq_error_iff (date : Date) (days : Int) (error : CalendarError) :
    date.shift days = .error error ↔ error = .outsideCalendar ∧
      ¬(1 ≤ (date.ordinal + days : Int) ∧ (date.ordinal + days : Int) ≤ lastOrdinal) := by
  rw [← ofOrdinal?_eq_none_iff]
  unfold shift
  cases ofOrdinal? (date.ordinal + days) <;> simp [eq_comm]

/-- A run that starts a number of days after a date. -/
theorem shift_bind_startingAt (date : Date) (days : Int) (more : Nat) :
    (date.shift days >>= fun start => Days.startingAt start more) =
      Days.spanning (date.ordinal + days) (date.ordinal + days + more) := by
  cases shifted : date.shift days with
  | ok start =>
    have place := (shift_eq_ok_iff date start days).1 shifted
    change Days.startingAt start more = _
    rw [Days.startingAt_eq, place]
  | error error =>
    obtain ⟨rfl, without⟩ := (shift_eq_error_iff date days error).1 shifted
    exact (Days.spanning_eq_error (by omega)).symm

/-- The run of the one date that lies a number of days after a date. -/
theorem map_single_shift (date : Date) (days : Int) :
    (date.shift days).map Days.single =
      Days.spanning (date.ordinal + days) (date.ordinal + days) := by
  cases shifted : date.shift days with
  | ok start =>
    have place := (shift_eq_ok_iff date start days).1 shifted
    exact ((Days.spanning_eq_ok_iff _ _ _).2 ⟨place, place⟩).symm
  | error error =>
    obtain ⟨rfl, without⟩ := (shift_eq_error_iff date days error).1 shifted
    exact (Days.spanning_eq_error (by omega)).symm

end Date

/-! ### Weeks in the endless count -/

/-- The place on which the week of a place starts, in the endless count of days. -/
def weekPlace (place : Int) (firstDay : FirstDay) : Int := place - (place - firstDay.weekday) % 7

theorem FirstDay.weekday_lt (firstDay : FirstDay) : firstDay.weekday < 7 := by
  cases firstDay <;> decide

/-- The week of a place starts on it or on one of the six places before it. -/
theorem weekPlace_bounds (place : Int) (firstDay : FirstDay) :
    weekPlace place firstDay ≤ place ∧ place < weekPlace place firstDay + 7 := by
  unfold weekPlace
  omega

/-- Weeks start on the first weekday. -/
theorem weekPlace_emod (place : Int) (firstDay : FirstDay) :
    weekPlace place firstDay % 7 = firstDay.weekday := by
  have small := firstDay.weekday_lt
  unfold weekPlace
  omega

theorem weekPlace_add_weeks (place weeks : Int) (firstDay : FirstDay) :
    weekPlace (place + 7 * weeks) firstDay = weekPlace place firstDay + 7 * weeks := by
  unfold weekPlace
  omega

/-- The week of a place starts on the one place that starts a week and is it or one of the six places
before it. -/
theorem eq_weekPlace {start place : Int} {firstDay : FirstDay}
    (starts : start % 7 = firstDay.weekday) (notAfter : start ≤ place) (within : place < start + 7) :
    start = weekPlace place firstDay := by
  have bounds := weekPlace_bounds place firstDay
  have same := weekPlace_emod place firstDay
  omega

namespace Days

theorem sub_daysIntoWeek (date : Date) (firstDay : FirstDay) :
    (date.ordinal : Int) + -(date.daysIntoWeek firstDay : Int) =
      weekPlace date.ordinal firstDay := by
  have small := firstDay.weekday_lt
  unfold weekPlace Date.daysIntoWeek Date.weekday
  omega

theorem weekStart_eq_ok_iff (date start : Date) (firstDay : FirstDay) :
    date.weekStart firstDay = .ok start ↔
      (start.ordinal : Int) = weekPlace date.ordinal firstDay := by
  unfold Date.weekStart
  rw [Date.shift_eq_ok_iff, sub_daysIntoWeek]

theorem weekStart_eq_error_iff (date : Date) (firstDay : FirstDay) (error : CalendarError) :
    date.weekStart firstDay = .error error ↔
      error = .outsideCalendar ∧ weekPlace date.ordinal firstDay < 1 := by
  have bounds := weekPlace_bounds date.ordinal firstDay
  have bounded := date.le_last
  unfold Date.weekStart
  rw [Date.shift_eq_error_iff, sub_daysIntoWeek]
  refine and_congr_right fun _ => ?_
  omega

theorem week_eq (date : Date) (firstDay : FirstDay) :
    week date firstDay = spanning (weekPlace date.ordinal firstDay)
      (weekPlace date.ordinal firstDay + 6) := by
  rw [← sub_daysIntoWeek]
  exact date.shift_bind_startingAt _ 6

/-- The week before that of a date, which is found from the date seven days before. -/
theorem week_before_eq (date : Date) (firstDay : FirstDay) :
    (date.shift (-7) >>= fun before => week before firstDay) =
      spanning (weekPlace date.ordinal firstDay - 7) (weekPlace date.ordinal firstDay - 1) := by
  have bounds := weekPlace_bounds date.ordinal firstDay
  cases shifted : date.shift (-7) with
  | ok before =>
    have place := (Date.shift_eq_ok_iff date before (-7)).1 shifted
    change week before firstDay = _
    rw [week_eq, place, show (-7 : Int) = 7 * -1 from rfl, weekPlace_add_weeks]
    congr 1
    omega
  | error error =>
    obtain ⟨rfl, without⟩ := (Date.shift_eq_error_iff date (-7) error).1 shifted
    have bounded := date.le_last
    exact (spanning_eq_error (by omega)).symm

/-- The last days up to a date, for a positive count. -/
theorem lastDays_eq (date : Date) (count : Int) (positive : 1 ≤ count) :
    lastDays date count = spanning (date.ordinal - count + 1) date.ordinal := by
  unfold lastDays
  rw [if_neg (by omega), endingAt_eq]
  congr 1
  omega

end Days

end Almanac
