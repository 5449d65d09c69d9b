/-
This file proves that a period is a closed interval of the time line. Two moments bound a
period if their clocks can be compared and they are in order there. Whether the period
holds a moment then depends only on how far the moment lies behind its start; so moments
that are one instant, on clocks of different offsets, are all held or none is, also where
the instant lies outside the calendar on some clock. A period of whole days leaves no
instant between a day and the next one, so it holds the instants that its own clock shows
on one of its days.
-/

import Almanac.Proofs.WrittenDates

namespace Almanac

/-! ### Instants -/

namespace Moment

/-- Two moments are one instant, whatever the offsets of their clocks are. -/
def SameInstant (first second : Moment) : Prop :=
  first.Comparable second ∧ first.position = second.position

/-- How far a moment lies behind another one on the time line, in microseconds. -/
def since (moment other : Moment) : Int := moment.position - other.position

/-- How far a clock is ahead of the time line, in microseconds. -/
def lead : Option Offset → Int
  | some offset => offset.microseconds
  | none => 0

theorem position_eq (moment : Moment) : moment.position = moment.clock - lead moment.offset := by
  unfold position lead
  cases moment.offset with
  | some offset => rfl
  | none => exact (Int.sub_zero _).symm

end Moment

/-- Each count that a clock reaches from the start of a run of dates to its end is shown as a moment
on one of the dates. -/
theorem Days.exists_moment_of_clock (days : Days) (offset : Option Offset) {count : Int}
    (since : (Moment.atStart days.first offset).clock ≤ count)
    (upTo : count ≤ (Moment.atEnd days.last offset).clock) :
    ∃ shown : Moment, shown.clock = count ∧ shown.offset = offset ∧ shown.date ∈ days := by
  have positive := days.first.one_le
  have bounded := days.last.le_last
  simp only [Moment.clock, Moment.atStart, Moment.atEnd, microsecondsPerDay] at since upTo
  let date : Date := ⟨(count / 86400000000).toNat, by omega, by omega⟩
  have place : (date.ordinal : Int) = count / 86400000000 := Int.toNat_of_nonneg (by omega)
  refine ⟨⟨date, (count % microsecondsPerDay).toNat, Moment.rest_of_day_lt count, offset⟩, ?_, rfl,
    ?_⟩
  · unfold Moment.clock microsecondsPerDay
    dsimp only
    omega
  · change days.first.ordinal ≤ date.ordinal ∧ date.ordinal ≤ days.last.ordinal
    omega

/-! ### Lengths of time -/

namespace Duration

/-- The microseconds of a length of time, all its parts together. -/
def inMicroseconds (duration : Duration) : Nat :=
  duration.days * microsecondsPerDay + duration.seconds * 1000000 + duration.microseconds

theorem inMicroseconds_ofMicroseconds (microseconds : Nat) :
    (ofMicroseconds microseconds).inMicroseconds = microseconds := by
  unfold inMicroseconds ofMicroseconds microsecondsPerDay
  dsimp only
  omega

theorem ofMicroseconds_eq_zero_iff (microseconds : Nat) :
    ofMicroseconds microseconds = ⟨0, 0, 0⟩ ↔ microseconds = 0 := by
  constructor
  · intro zero
    rw [← inMicroseconds_ofMicroseconds microseconds, zero]
    rfl
  · rintro rfl
    rfl

end Duration

namespace Period

/-! ### Bounds -/

section Bounds

variable (start finish : Moment)

theorem between_eq_mixedOffsets_iff :
    between start finish = .error .mixedOffsets ↔ ¬start.Comparable finish := by
  unfold between
  split
  · next comparable => split <;> simp [comparable]
  · next mixed => simp [mixed]

theorem between_eq_reversed_iff : between start finish = .error .reversed ↔
    start.Comparable finish ∧ finish.position < start.position := by
  unfold between
  split
  · next comparable =>
    split
    · next ordered => simp [ordered]
    · next reversed => simp [comparable, Int.not_le.1 reversed]
  · next mixed => simp [mixed]

/-- Moments that can be compared and are in order bound the period from one to the other. -/
theorem exists_between_bounds_iff :
    (∃ period, between start finish = .ok period ∧ period.start = start ∧
      period.finish = finish) ↔ start.Comparable finish ∧ start.position ≤ finish.position := by
  constructor
  · rintro ⟨period, -, rfl, rfl⟩
    exact ⟨period.comparable, period.ordered⟩
  · rintro ⟨comparable, ordered⟩
    refine ⟨⟨start, finish, comparable, ordered⟩, ?_, rfl, rfl⟩
    rw [between, dif_pos comparable, dif_pos ordered]

end Bounds

/-! ### The length of a period -/

variable (period : Period)

theorem length_eq_since : (period.length : Int) = period.finish.since period.start :=
  Int.toNat_of_nonneg (Int.sub_nonneg.2 period.ordered)

theorem inMicroseconds_duration :
    (period.duration.inMicroseconds : Int) = period.finish.since period.start := by
  rw [duration, Duration.inMicroseconds_ofMicroseconds, length_eq_since]

/-- A period has no length exactly if its bounds are one instant. -/
theorem duration_eq_zero_iff :
    period.duration = ⟨0, 0, 0⟩ ↔ period.start.SameInstant period.finish := by
  have length := period.length_eq_since
  have comparable := period.comparable
  unfold Moment.since at length
  unfold Moment.SameInstant
  rw [duration, Duration.ofMicroseconds_eq_zero_iff]
  constructor
  · intro zero
    exact ⟨comparable, by omega⟩
  · rintro ⟨-, same⟩
    omega

/-! ### Moments in a period -/

theorem contains_eq_error_iff (moment : Moment) (error : BoundsError) :
    period.contains moment = .error error ↔
      ¬period.start.Comparable moment ∧ error = .mixedOffsets := by
  unfold contains
  split
  · next comparable => simp [comparable]
  · next mixed => simp [mixed, eq_comm]

/-- A period holds the moments that lie behind its start, by its length at most. -/
theorem contains_eq_true_iff_since (moment : Moment) :
    period.contains moment = .ok true ↔ period.start.Comparable moment ∧
      0 ≤ moment.since period.start ∧
      moment.since period.start ≤ period.duration.inMicroseconds := by
  rw [contains_eq_true_iff, inMicroseconds_duration]
  unfold Moment.since
  refine and_congr_right fun _ => ?_
  omega

theorem contains_start : period.contains period.start = .ok true :=
  (period.contains_eq_true_iff _).2 ⟨rfl, Int.le_refl _, period.ordered⟩

theorem contains_finish : period.contains period.finish = .ok true :=
  (period.contains_eq_true_iff _).2 ⟨period.comparable, period.ordered, Int.le_refl _⟩

/-- A period asks of a moment only which instant it is. -/
theorem contains_congr {moment other : Moment} (same : moment.SameInstant other) :
    period.contains moment = period.contains other := by
  obtain ⟨comparable, samePosition⟩ := same
  have sameTest : period.start.Comparable moment ↔ period.start.Comparable other :=
    ⟨fun known => Eq.trans known comparable, fun known => Eq.trans known (Eq.symm comparable)⟩
  unfold contains
  rw [samePosition]
  by_cases known : period.start.Comparable other
  · rw [if_pos known, if_pos (sameTest.2 known)]
  · rw [if_neg known, if_neg (mt sameTest.1 known)]

end Period

/-- A run of dates on a clock holds the instants that the clock shows on one of the dates. -/
theorem Days.contains_toPeriod_iff (days : Days) (offset : Option Offset) (moment : Moment) :
    (days.toPeriod offset).contains moment = .ok true ↔
      ∃ shown : Moment, shown.offset = offset ∧ shown.SameInstant moment ∧ shown.date ∈ days := by
  constructor
  · intro held
    obtain ⟨comparable, since, upTo⟩ := (Period.contains_eq_true_iff _ _).1 held
    rw [(days.toPeriod offset).start.position_eq] at since
    rw [(days.toPeriod offset).finish.position_eq] at upTo
    -- what the clock of the run shows at the moment
    obtain ⟨shown, clock, onClock, onDate⟩ := days.exists_moment_of_clock offset
      (Int.le_add_of_sub_right_le since) (Int.add_le_of_le_sub_right upTo)
    refine ⟨shown, onClock, ⟨?_, ?_⟩, onDate⟩
    · unfold Moment.Comparable
      rw [onClock]
      exact comparable
    · rw [Moment.position_eq, clock, onClock]
      exact Int.add_sub_cancel _ _
  · rintro ⟨shown, rfl, same, onDate⟩
    rw [← Period.contains_congr _ same, contains_toPeriod, decide_eq_true onDate]

/-! ### Closed intervals -/

/-- Periods are closed intervals of the time line. Two moments bound one if their clocks can be
compared and they are in order there, and it lasts from one to the other. It holds the moments that
lie behind its start by its length at most, so both its bounds, and it cannot tell moments apart that
are one instant. The answer to a specification holds the instants that its clock shows on one of its
dates. -/
theorem periods_are_closed_intervals :
    (∀ start finish : Moment,
      (Period.between start finish = .error .mixedOffsets ↔ ¬start.Comparable finish) ∧
      (Period.between start finish = .error .reversed ↔
        start.Comparable finish ∧ finish.position < start.position) ∧
      ((∃ period, Period.between start finish = .ok period ∧ period.start = start ∧
        period.finish = finish) ↔ start.Comparable finish ∧ start.position ≤ finish.position)) ∧
    (∀ period : Period,
      (∀ (moment : Moment) (error : BoundsError), period.contains moment = .error error ↔
        ¬period.start.Comparable moment ∧ error = .mixedOffsets) ∧
      (∀ moment : Moment, period.contains moment = .ok true ↔
        period.start.Comparable moment ∧ 0 ≤ moment.since period.start ∧
          moment.since period.start ≤ period.duration.inMicroseconds) ∧
      (period.contains period.start = .ok true ∧ period.contains period.finish = .ok true) ∧
      (∀ moment other : Moment, moment.SameInstant other →
        period.contains moment = period.contains other) ∧
      (0 ≤ period.finish.since period.start ∧
        period.duration.inMicroseconds = period.finish.since period.start) ∧
      (period.duration = ⟨0, 0, 0⟩ ↔ period.start.SameInstant period.finish)) ∧
    ∀ (resolver : Resolver) (text : Option String) (resolution : Resolution),
      resolver.resolve? text = .ok (some resolution) →
      resolution.period.start.offset = resolver.now.offset ∧
      ∀ moment : Moment, resolution.period.contains moment = .ok true ↔
        ∃ shown : Moment, shown.offset = resolver.now.offset ∧ shown.SameInstant moment ∧
          resolution.period.start.date ≤ shown.date ∧
            shown.date ≤ resolution.period.finish.date := by
  refine ⟨fun start finish => ?_, fun period => ?_, ?_⟩
  · exact ⟨Period.between_eq_mixedOffsets_iff start finish,
      Period.between_eq_reversed_iff start finish, Period.exists_between_bounds_iff start finish⟩
  · have lasts := period.inMicroseconds_duration
    refine ⟨period.contains_eq_error_iff, period.contains_eq_true_iff_since,
      ⟨period.contains_start, period.contains_finish⟩, fun moment other => period.contains_congr,
      ⟨?_, lasts⟩, period.duration_eq_zero_iff⟩
    rw [← lasts]
    exact Int.natCast_nonneg _
  · intro resolver text resolution answers
    rw [← resolver.offset_of_answer answers]
    exact ⟨rfl, fun moment => resolution.days.contains_toPeriod_iff resolution.offset moment⟩

/-- A period can start before year 1 and end behind year 9999 on a clock without lead, and it holds
the instant at which year 1 starts there, however that is written. On January 3, 2024, today on a
clock that is fourteen hours ahead holds ten o'clock of January 2 on that one. -/
theorem periods_across_clocks :
    let ahead : Offset := ⟨50400000000, by decide, by decide⟩
    let level : Offset := ⟨0, by decide, by decide⟩
    let behind : Offset := ⟨-43200000000, by decide, by decide⟩
    let start : Moment := .atStart ⟨1, by decide, by decide⟩ (some ahead)
    let finish : Moment := .atEnd ⟨3652059, by decide, by decide⟩ (some behind)
    let midnight : Moment := .atStart ⟨1, by decide, by decide⟩ (some level)
    let afternoon : Moment := ⟨⟨1, by decide, by decide⟩, 50400000000, by decide, some ahead⟩
    let morning : Moment := ⟨⟨738887, by decide, by decide⟩, 36000000000, by decide, some level⟩
    let resolver : Resolver :=
      ⟨.monday, .standard, .atStart ⟨738888, by decide, by decide⟩ (some ahead)⟩
    (∃ period, Period.between start finish = .ok period ∧ midnight.SameInstant afternoon ∧
      period.contains midnight = .ok true ∧ period.contains afternoon = .ok true) ∧
    ∃ resolution, resolver.resolve? (some "today") = .ok (some resolution) ∧
      resolution.period.contains morning = .ok true := by
  let ahead : Offset := ⟨50400000000, by decide, by decide⟩
  let level : Offset := ⟨0, by decide, by decide⟩
  let behind : Offset := ⟨-43200000000, by decide, by decide⟩
  let start : Moment := .atStart ⟨1, by decide, by decide⟩ (some ahead)
  let finish : Moment := .atEnd ⟨3652059, by decide, by decide⟩ (some behind)
  let midnight : Moment := .atStart ⟨1, by decide, by decide⟩ (some level)
  let afternoon : Moment := ⟨⟨1, by decide, by decide⟩, 50400000000, by decide, some ahead⟩
  let resolver : Resolver :=
    ⟨.monday, .standard, .atStart ⟨738888, by decide, by decide⟩ (some ahead)⟩
  obtain ⟨bounds, holds, answers⟩ := periods_are_closed_intervals
  have inOrder : start.Comparable finish ∧ start.position ≤ finish.position := ⟨rfl, by decide⟩
  obtain ⟨period, isPeriod, starts, finishes⟩ := (bounds start finish).2.2.2 inOrder
  obtain ⟨-, -, -, congr, -⟩ := holds period
  have sameInstant : midnight.SameInstant afternoon := ⟨rfl, by decide⟩
  have held : period.contains midnight = .ok true := by
    rw [period.contains_eq_true_iff, starts, finishes]
    decide
  have isToday : resolver.resolve? (some "today") =
      .ok (some ⟨.keyword, .single resolver.now.date, some ahead⟩) := resolver.resolve?_today
  exact ⟨⟨period, isPeriod, sameInstant, held, (congr _ _ sameInstant).symm.trans held⟩, _, isToday,
    ((answers resolver _ _ isToday).2 _).2 ⟨resolver.now, rfl, ⟨rfl, by decide⟩, by decide,
      by decide⟩⟩

end Almanac
