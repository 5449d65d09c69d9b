/-
This file relates moments to the count of microseconds on their clocks, and runs of
dates to the periods that they become there. A run can be read back from its period,
its bounds pass the check of a period, it lasts one microsecond less than its whole
days, and two runs that adjoin become periods with one microsecond between them.
-/

import Almanac.Calendar.Period
import Almanac.Proofs.Dates

namespace Almanac

/-! ### Moments on their clocks -/

namespace Moment

theorem time_atStart (date : Date) (offset : Option Offset) :
    ((atStart date offset).hour, (atStart date offset).minute, (atStart date offset).second,
      (atStart date offset).fraction) = (0, 0, 0, 0) := by
  have first : (atStart date offset).microsecond = 0 := rfl
  rw [hour, minute, second, fraction, first]

theorem time_atEnd (date : Date) (offset : Option Offset) :
    ((atEnd date offset).hour, (atEnd date offset).minute, (atEnd date offset).second,
      (atEnd date offset).fraction) = (23, 59, 59, 999999) := by
  have last : (atEnd date offset).microsecond = 86399999999 := rfl
  rw [hour, minute, second, fraction, last]

/-- A clock shows each count of microseconds as one moment. -/
theorem eq_of_clock {moment other : Moment} (sameClock : moment.clock = other.clock)
    (sameOffset : moment.offset = other.offset) : moment = other := by
  have small := moment.microsecond_lt
  have otherSmall := other.microsecond_lt
  unfold clock at sameClock
  unfold microsecondsPerDay at *
  have sameDate : moment.date = other.date := Date.ext (by omega)
  rw [sameDate] at sameClock
  have sameRest : moment.microsecond = other.microsecond := by omega
  cases moment
  cases other
  cases sameDate
  cases sameRest
  cases sameOffset
  rfl

theorem shift_eq_ok_iff (moment shifted : Moment) (microseconds : Int) :
    moment.shift microseconds = .ok shifted ↔
      shifted.clock = moment.clock + microseconds ∧ shifted.offset = moment.offset := by
  have small := shifted.microsecond_lt
  have positive := shifted.date.one_le
  have bounded := shifted.date.le_last
  unfold shift
  generalize moment.clock + microseconds = place
  dsimp only
  split
  · next date found =>
    have inDay := (Date.ofOrdinal?_eq_some_iff _ _).1 found
    constructor
    · intro same
      rw [← Except.ok.inj same]
      refine ⟨?_, rfl⟩
      unfold clock
      dsimp only
      unfold microsecondsPerDay at *
      omega
    · rintro ⟨reached, sameOffset⟩
      refine congrArg Except.ok (eq_of_clock ?_ sameOffset.symm)
      rw [reached]
      unfold clock
      dsimp only
      unfold microsecondsPerDay at *
      omega
  · next found =>
    have outside := (Date.ofOrdinal?_eq_none_iff _).1 found
    simp only [reduceCtorEq, false_iff, not_and]
    intro reached
    exfalso
    unfold clock at reached
    unfold microsecondsPerDay at *
    omega

/-- Whole days lead to the same time of another date. -/
theorem shift_to_date {moment : Moment} {date : Date} {days : Int}
    (later : (date.ordinal : Int) = moment.date.ordinal + days) :
    moment.shift (days * microsecondsPerDay) = .ok { moment with date := date } := by
  refine (shift_eq_ok_iff _ _ _).2 ⟨?_, rfl⟩
  unfold clock microsecondsPerDay
  dsimp only
  omega

/-- A shift is undone by the shift the other way. -/
theorem shift_back {moment shifted : Moment} {microseconds : Int}
    (shifts : moment.shift microseconds = .ok shifted) :
    shifted.shift (-microseconds) = .ok moment := by
  obtain ⟨clock, onClock⟩ := (shift_eq_ok_iff _ _ _).1 shifts
  exact (shift_eq_ok_iff _ _ _).2 ⟨by omega, onClock.symm⟩

/-- Moments on clocks of one offset are as far from each other as their clocks show. -/
theorem position_sub_position {first second : Moment}
    (sameOffset : first.offset = second.offset) :
    first.position - second.position = first.clock - second.clock := by
  unfold position
  rw [sameOffset]
  cases second.offset with
  | none => rfl
  | some offset =>
    dsimp only
    omega

/-- Moments on clocks of one offset are in the order that their clocks show. -/
theorem position_le_iff {first second : Moment} (sameOffset : first.offset = second.offset) :
    first.position ≤ second.position ↔ first.clock ≤ second.clock := by
  have apart := position_sub_position sameOffset
  omega

/-- Whole days lead from a moment to the same time of another day, so they leave the calendar
exactly if they do so from its date. -/
theorem shift_wholeDays (moment : Moment) (days : Int) :
    moment.shift (days * microsecondsPerDay) =
      (moment.date.shift days).map fun date => { moment with date := date } := by
  have small := moment.microsecond_lt
  have place : (moment.clock + days * microsecondsPerDay) / microsecondsPerDay =
      moment.date.ordinal + days := by
    unfold clock microsecondsPerDay at *
    omega
  have rest : ((moment.clock + days * microsecondsPerDay) % microsecondsPerDay).toNat =
      moment.microsecond := by
    unfold clock microsecondsPerDay at *
    omega
  unfold shift Date.shift
  generalize moment.clock + days * microsecondsPerDay = reached at *
  dsimp only
  rw [place]
  cases Date.ofOrdinal? (moment.date.ordinal + days) with
  | some date => exact congrArg Except.ok (eq_of_clock (by simp only [clock, rest]) rfl)
  | none => rfl

end Moment

/-! ### Moments in a period -/

theorem Period.contains_eq_true_iff (period : Period) (moment : Moment) :
    period.contains moment = .ok true ↔ period.start.Comparable moment ∧
      period.start.position ≤ moment.position ∧ moment.position ≤ period.finish.position := by
  unfold contains
  split
  · next comparable => simp [comparable]
  · next mixed => simp [mixed]

/-- No moment lies in both of two periods. -/
def Period.Disjoint (first second : Period) : Prop :=
  ∀ moment, ¬(first.contains moment = .ok true ∧ second.contains moment = .ok true)

theorem Period.Disjoint.symm {first second : Period} (disjoint : first.Disjoint second) :
    second.Disjoint first :=
  fun moment both => disjoint moment both.symm

/-- Two periods are disjoint if one ends before the other starts. -/
theorem Period.disjoint_of_lt {first second : Period}
    (before : first.finish.position < second.start.position) : first.Disjoint second := by
  rintro moment ⟨inFirst, inSecond⟩
  have upTo := ((first.contains_eq_true_iff moment).1 inFirst).2.2
  have since := ((second.contains_eq_true_iff moment).1 inSecond).2.1
  omega

/-! ### Runs of dates on a clock -/

namespace Days

theorem toPeriod_injective {days other : Days} {offset : Option Offset}
    (same : days.toPeriod offset = other.toPeriod offset) : days = other := by
  have sameFirst : days.first = other.first := congrArg (fun period => period.start.date) same
  have sameLast : days.last = other.last := congrArg (fun period => period.finish.date) same
  obtain ⟨first, last, _⟩ := days
  cases sameFirst
  cases sameLast
  rfl

/-- The bounds of a run on a clock pass the check that every period passes. -/
theorem between_toPeriod (days : Days) (offset : Option Offset) :
    Period.between (Moment.atStart days.first offset) (Moment.atEnd days.last offset) =
      .ok (days.toPeriod offset) := by
  have ordered : (Moment.atStart days.first offset).position ≤
      (Moment.atEnd days.last offset).position := (days.toPeriod offset).ordered
  have comparable : (Moment.atStart days.first offset).Comparable
      (Moment.atEnd days.last offset) := rfl
  unfold Period.between
  rw [dif_pos comparable, dif_pos ordered]
  rfl

/-- A run on the clock of a moment holds the moment exactly if it holds its date. -/
theorem contains_toPeriod (days : Days) (moment : Moment) :
    (days.toPeriod moment.offset).contains moment = .ok (decide (moment.date ∈ days)) := by
  have small := moment.microsecond_lt
  have comparable : (days.toPeriod moment.offset).start.Comparable moment := rfl
  have starts : (days.toPeriod moment.offset).start.offset = moment.offset := rfl
  have finishes : moment.offset = (days.toPeriod moment.offset).finish.offset := rfl
  unfold Period.contains
  rw [if_pos comparable]
  refine congrArg Except.ok (Bool.eq_iff_iff.2 ?_)
  rw [Bool.and_eq_true, decide_eq_true_eq, decide_eq_true_eq, decide_eq_true_eq,
    Moment.position_le_iff starts, Moment.position_le_iff finishes]
  change _ ↔ days.first.ordinal ≤ moment.date.ordinal ∧ moment.date.ordinal ≤ days.last.ordinal
  simp only [toPeriod, Moment.clock, Moment.atStart, Moment.atEnd]
  unfold microsecondsPerDay at *
  omega

/-- Runs that lie apart become disjoint periods on one clock. -/
theorem disjoint_toPeriod {days later : Days} (apart : days.last.ordinal < later.first.ordinal)
    (offset : Option Offset) : (days.toPeriod offset).Disjoint (later.toPeriod offset) := by
  have sameOffset : (days.toPeriod offset).finish.offset = (later.toPeriod offset).start.offset :=
    rfl
  have distance := Moment.position_sub_position sameOffset
  refine Period.disjoint_of_lt ?_
  simp only [toPeriod, Moment.clock, Moment.atStart, Moment.atEnd] at distance ⊢
  unfold microsecondsPerDay at *
  omega

theorem start_position_lt {days later : Days} (apart : days.first.ordinal < later.first.ordinal)
    (offset : Option Offset) :
    (days.toPeriod offset).start.position < (later.toPeriod offset).start.position := by
  have sameOffset : (days.toPeriod offset).start.offset = (later.toPeriod offset).start.offset :=
    rfl
  have distance := Moment.position_sub_position sameOffset
  simp only [toPeriod, Moment.clock, Moment.atStart] at distance ⊢
  unfold microsecondsPerDay at *
  omega

theorem one_le_size (days : Days) : 1 ≤ days.size := Nat.le_add_left 1 _

/-- A run lasts one microsecond less than its whole days. -/
theorem length_toPeriod (days : Days) (offset : Option Offset) :
    (days.toPeriod offset).length + 1 = days.size * microsecondsPerDay := by
  have ordered : days.first.ordinal ≤ days.last.ordinal := days.first_le_last
  cases offset <;>
    simp only [Period.length, toPeriod, Moment.position, Moment.clock, Moment.atStart,
      Moment.atEnd, size, microsecondsPerDay] <;>
    omega

theorem duration_toPeriod (days : Days) (offset : Option Offset) :
    (days.toPeriod offset).duration = ⟨days.size - 1, 86399, 999999⟩ := by
  have lasts := days.length_toPeriod offset
  have positive := days.one_le_size
  unfold microsecondsPerDay at lasts
  unfold Period.duration Duration.ofMicroseconds microsecondsPerDay
  rw [Duration.mk.injEq]
  omega

/-- One microsecond after the end of a run the run that adjoins it starts. -/
theorem shift_finish_toPeriod {before after : Days}
    (adjoins : after.first.ordinal = before.last.ordinal + 1) (offset : Option Offset) :
    (before.toPeriod offset).finish.shift 1 = .ok (after.toPeriod offset).start := by
  refine (Moment.shift_eq_ok_iff _ _ _).2 ⟨?_, rfl⟩
  simp only [toPeriod, Moment.clock, Moment.atStart, Moment.atEnd, microsecondsPerDay, adjoins]
  omega

end Days

/-- On one clock, whatever its offset, two dates bound a period exactly if they are in order. -/
theorem Period.exists_between_iff (first last : Date) (offset : Option Offset) :
    (∃ period, Period.between (Moment.atStart first offset) (Moment.atEnd last offset) =
      .ok period) ↔ first ≤ last := by
  constructor
  · rintro ⟨period, bounded⟩
    unfold Period.between at bounded
    split at bounded
    case isFalse => cases bounded
    split at bounded
    case isFalse => cases bounded
    rename_i ordered
    have oneClock : (Moment.atStart first offset).offset = (Moment.atEnd last offset).offset := rfl
    have clocks := (Moment.position_le_iff oneClock).1 ordered
    simp only [Moment.clock, Moment.atStart, Moment.atEnd, microsecondsPerDay] at clocks
    change first.ordinal ≤ last.ordinal
    omega
  · intro ordered
    exact ⟨_, Days.between_toPeriod ⟨first, last, ordered⟩ offset⟩

end Almanac
