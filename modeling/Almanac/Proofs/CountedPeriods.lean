/-
This file proves that periods which are counted from a moment are runs of dates on its
clock. Whole days lead from a moment to the same time of another date, and the time of
day is dropped before the bounds are compared, so the bounds found are the ends of the
run that the date alone leads to, and they pass the check of every period. The limit on
the length of a time is wider than the calendar, so it refuses nothing that the calendar
does not refuse for the same cause.
-/

import Almanac.Proofs.Periods
import Almanac.Proofs.Weeks

namespace Almanac

/-! ### Whole days -/

namespace Moment

theorem wholeDays_of_le {days : Int} (held : days.natAbs ≤ 999999999) :
    wholeDays days = .ok (days * microsecondsPerDay) := if_pos held

/-- Whole days lead from a moment to the same time of another day. -/
theorem shiftDays_eq (moment : Moment) (days : Int) :
    moment.shiftDays days =
      (moment.date.shift days).map fun date => { moment with date := date } := by
  unfold shiftDays
  by_cases held : days.natAbs ≤ 999999999
  · rw [wholeDays_of_le held]
    exact moment.shift_wholeDays days
  · have positive := moment.date.one_le
    have bounded := moment.date.le_last
    have leaves : moment.date.shift days = .error .outsideCalendar :=
      (Date.shift_eq_error_iff _ _ _).2 ⟨rfl, by unfold lastOrdinal at *; omega⟩
    unfold wholeDays
    rw [if_neg held, leaves]
    rfl

/-- The limit on the length of a time is never met: whole days that exceed it leave the calendar. -/
theorem shiftDays_eq_shift (moment : Moment) (days : Int) :
    moment.shiftDays days = moment.shift (days * microsecondsPerDay) := by
  rw [shiftDays_eq, shift_wholeDays]

theorem shiftDays_atStart (date : Date) (offset : Option Offset) (days : Int) :
    (atStart date offset).shiftDays days =
      (date.shift days).map fun shifted => atStart shifted offset :=
  shiftDays_eq _ _

end Moment

/-! ### The ends of a run -/

namespace Days

theorem map_last_startingAt (first : Date) (more : Nat) :
    (startingAt first more).map Days.last = first.shift more := by
  rw [startingAt_eq]
  cases spans : spanning first.ordinal (first.ordinal + more) with
  | ok days =>
    exact ((Date.shift_eq_ok_iff _ _ _).2 ((spanning_eq_ok_iff _ _ _).1 spans).2).symm
  | error error =>
    obtain ⟨rfl, without⟩ := (spanning_eq_error_iff _ _ _).1 spans
    have positive := first.one_le
    exact ((Date.shift_eq_error_iff _ _ _).2 ⟨rfl, by omega⟩).symm

theorem map_first_endingAt (last : Date) (more : Nat) :
    (endingAt last more).map Days.first = last.shift (-more) := by
  rw [endingAt_eq]
  cases spans : spanning (last.ordinal - more) last.ordinal with
  | ok days =>
    exact ((Date.shift_eq_ok_iff _ _ _).2 ((spanning_eq_ok_iff _ _ _).1 spans).1).symm
  | error error =>
    obtain ⟨rfl, without⟩ := (spanning_eq_error_iff _ _ _).1 spans
    have bounded := last.le_last
    exact ((Date.shift_eq_error_iff _ _ _).2 ⟨rfl, by omega⟩).symm

theorem first_of_startingAt {first : Date} {more : Nat} {days : Days}
    (starts : startingAt first more = .ok days) : days.first = first := by
  rw [startingAt_eq, spanning_eq_ok_iff] at starts
  exact Date.ext (Int.ofNat.inj starts.1)

theorem last_of_endingAt {last : Date} {more : Nat} {days : Days}
    (ends : endingAt last more = .ok days) : days.last = last := by
  rw [endingAt_eq, spanning_eq_ok_iff] at ends
  exact Date.ext (Int.ofNat.inj ends.2)

/-! ### Runs on a clock -/

theorem fromTo_toPeriod (days : Days) (offset : Option Offset) :
    Period.fromTo (.atStart days.first offset) (.atEnd days.last offset) =
      .ok (days.toPeriod offset) := by
  unfold Period.fromTo
  rw [days.between_toPeriod offset]
  rfl

/-- A run can be read back from its period. -/
theorem days?_toPeriod (days : Days) (offset : Option Offset) :
    (days.toPeriod offset).days? = some days :=
  dif_pos days.first_le_last

/-- The period from the start of a date to the end of the run that starts there. -/
theorem fromTo_startingAt (first : Date) (more : Nat) (offset : Option Offset) :
    (((startingAt first more).map fun days => Moment.atEnd days.last offset) >>= fun finish =>
      Period.fromTo (Moment.atStart first offset) finish) =
        (startingAt first more).map fun days => days.toPeriod offset := by
  cases run : startingAt first more with
  | error error => rfl
  | ok days =>
    rw [← first_of_startingAt run]
    exact days.fromTo_toPeriod offset

end Days

/-! ### Periods around a moment -/

namespace Moment

theorem day_eq (moment : Moment) :
    moment.day = .ok ((Days.single moment.date).toPeriod moment.offset) :=
  (Days.single moment.date).fromTo_toPeriod moment.offset

theorem startOfWeek_eq (moment : Moment) (firstDay : FirstDay) :
    moment.startOfWeek firstDay =
      (moment.date.weekStart firstDay).map fun date => atStart date moment.offset :=
  shiftDays_atStart _ _ _

theorem endOfWeek_eq (moment : Moment) (firstDay : FirstDay) :
    moment.endOfWeek firstDay =
      (Days.week moment.date firstDay).map fun days => atEnd days.last moment.offset := by
  unfold endOfWeek Days.week
  rw [startOfWeek_eq, bind_map_eq, map_bind_eq]
  refine bind_congr fun start => ?_
  have ends : (Days.startingAt start 6).map Days.last = start.shift 6 :=
    Days.map_last_startingAt start 6
  rw [shiftDays_atStart, ← ends]
  cases Days.startingAt start 6 <;> rfl

theorem week_eq (moment : Moment) (firstDay : FirstDay) :
    moment.week firstDay =
      (Days.week moment.date firstDay).map fun days => days.toPeriod moment.offset := by
  unfold week
  rw [startOfWeek_eq, endOfWeek_eq, bind_map_eq]
  unfold Days.week
  cases moment.date.weekStart firstDay with
  | error error => rfl
  | ok start => exact Days.fromTo_startingAt start 6 moment.offset

theorem lastDays_eq (moment : Moment) (count : Int) :
    moment.lastDays count =
      (Days.lastDays moment.date count).map fun days => days.toPeriod moment.offset := by
  unfold lastDays Days.lastDays
  by_cases positive : count < 1
  · rw [if_pos positive, if_pos positive]
    rfl
  · rw [if_neg positive, if_neg positive]
    have back : -(count - 1) = -((count - 1).toNat : Int) := by omega
    change (moment.shiftDays (-(count - 1)) >>= fun first =>
      Period.fromTo first.startOfDay moment.endOfDay) = _
    rw [shiftDays_eq, back, ← Days.map_first_endingAt, bind_map_eq, bind_map_eq]
    cases run : Days.endingAt moment.date (count - 1).toNat with
    | error error => rfl
    | ok days =>
      change Period.fromTo (atStart days.first moment.offset) (atEnd moment.date moment.offset) = _
      rw [← Days.last_of_endingAt run]
      exact days.fromTo_toPeriod moment.offset

end Moment

end Almanac
