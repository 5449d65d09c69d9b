/-
This file proves that the periods around a reference moment fit together. Each of the
specifications that are relative to today is found by a way of its own, but what it
finds is a run between two places that can be told from the place of today and the
place on which its week starts. How the periods lie to each other is then a matter of
these places: they adjoin if the places do, and one is the other a number of days later
if its places are.
-/

import Almanac.Proofs.Answers
import Almanac.Proofs.Periods

namespace Almanac

open Text

/-! ### How two periods lie to each other -/

namespace Period

/-- The second of two periods starts one microsecond after the first one ends. -/
def Adjoins (before after : Period) : Prop := before.finish.shift 1 = .ok after.start

/-- The second of two periods is the first one, a number of days later. -/
def ShiftedBy (period : Period) (days : Int) (later : Period) : Prop :=
  period.start.shift (days * microsecondsPerDay) = .ok later.start ∧
    period.finish.shift (days * microsecondsPerDay) = .ok later.finish

/-- The second of two periods lies inside the first one. -/
def Includes (outer inner : Period) : Prop :=
  outer.start.position ≤ inner.start.position ∧ inner.finish.position ≤ outer.finish.position

end Period

/-- Runs that lie some days apart become periods that do. -/
theorem Days.shiftedBy_toPeriod {days later : Days} {count : Int}
    (firstLater : (later.first.ordinal : Int) = days.first.ordinal + count)
    (lastLater : (later.last.ordinal : Int) = days.last.ordinal + count) (offset : Option Offset) :
    (days.toPeriod offset).ShiftedBy count (later.toPeriod offset) :=
  ⟨Moment.shift_to_date firstLater, Moment.shift_to_date lastLater⟩

/-! ### Answers by their places -/

/-- An answer is the run between two places in the count of days, on the clock with an offset. -/
structure Resolution.Spans (resolution : Resolution) (offset : Option Offset) (first last : Int) :
    Prop where
  offset_eq : resolution.offset = offset
  first_eq : (resolution.days.first.ordinal : Int) = first
  last_eq : (resolution.days.last.ordinal : Int) = last

namespace Resolution.Spans

variable {resolution other : Resolution} {offset : Option Offset}
  {first last otherFirst otherLast : Int}

section One

variable (spans : resolution.Spans offset first last)
include spans

/-- The start of the answer on its clock. -/
theorem start_spec : resolution.period.start.clock = first * microsecondsPerDay ∧
    resolution.period.start.offset = offset := by
  obtain ⟨sameOffset, sameFirst, -⟩ := spans
  refine ⟨?_, sameOffset⟩
  rw [← sameFirst]
  exact Int.add_zero _

/-- The end of the answer on its clock, one microsecond before a day starts. -/
theorem finish_spec : resolution.period.finish.clock + 1 = (last + 1) * microsecondsPerDay ∧
    resolution.period.finish.offset = offset := by
  obtain ⟨sameOffset, -, sameLast⟩ := spans
  refine ⟨?_, sameOffset⟩
  have isClock : resolution.period.finish.clock =
      resolution.days.last.ordinal * microsecondsPerDay + (microsecondsPerDay - 1 : Nat) := rfl
  rw [isClock, sameLast]
  unfold microsecondsPerDay
  omega

theorem first_le_last : first ≤ last := by
  have ordered : resolution.days.first.ordinal ≤ resolution.days.last.ordinal :=
    resolution.days.first_le_last
  rw [← spans.first_eq, ← spans.last_eq]
  exact Int.ofNat_le.2 ordered

theorem contains_eq {moment : Moment} (onClock : moment.offset = offset) :
    resolution.period.contains moment =
      .ok (decide (first ≤ moment.date.ordinal ∧ moment.date.ordinal ≤ last)) := by
  obtain ⟨sameOffset, sameFirst, sameLast⟩ := spans
  rw [Resolution.period, sameOffset, ← onClock, Days.contains_toPeriod]
  refine congrArg Except.ok (decide_eq_decide.2 ?_)
  change resolution.days.first.ordinal ≤ moment.date.ordinal ∧
    moment.date.ordinal ≤ resolution.days.last.ordinal ↔ _
  omega

end One

section Two

variable (spans : resolution.Spans offset first last)
  (otherSpans : other.Spans offset otherFirst otherLast)
include spans otherSpans

theorem start_eq (same : first = otherFirst) :
    resolution.period.start = other.period.start := by
  obtain ⟨clock, onClock⟩ := spans.start_spec
  obtain ⟨otherClock, otherOnClock⟩ := otherSpans.start_spec
  exact Moment.eq_of_clock (by rw [clock, otherClock, same]) (onClock.trans otherOnClock.symm)

theorem finish_eq (same : last = otherLast) :
    resolution.period.finish = other.period.finish := by
  obtain ⟨clock, onClock⟩ := spans.finish_spec
  obtain ⟨otherClock, otherOnClock⟩ := otherSpans.finish_spec
  refine Moment.eq_of_clock ?_ (onClock.trans otherOnClock.symm)
  rw [same] at clock
  omega

theorem period_eq (sameFirst : first = otherFirst) (sameLast : last = otherLast) :
    resolution.period = other.period := by
  have sameDays : resolution.days = other.days := by
    refine Days.ext_ordinals (Int.ofNat.inj ?_) (Int.ofNat.inj ?_)
    · exact spans.first_eq.trans (sameFirst.trans otherSpans.first_eq.symm)
    · exact spans.last_eq.trans (sameLast.trans otherSpans.last_eq.symm)
  rw [Resolution.period, Resolution.period, spans.offset_eq, otherSpans.offset_eq, sameDays]

theorem adjoins (next : otherFirst = last + 1) : resolution.period.Adjoins other.period := by
  obtain ⟨clock, onClock⟩ := spans.finish_spec
  obtain ⟨otherClock, otherOnClock⟩ := otherSpans.start_spec
  refine (Moment.shift_eq_ok_iff _ _ _).2 ⟨?_, otherOnClock.trans onClock.symm⟩
  rw [otherClock, clock, next]

theorem shiftedBy {days : Int} (firstLater : otherFirst = first + days)
    (lastLater : otherLast = last + days) : resolution.period.ShiftedBy days other.period := by
  obtain ⟨sameOffset, isFirst, isLast⟩ := spans
  obtain ⟨otherOffset, isOtherFirst, isOtherLast⟩ := otherSpans
  rw [Resolution.period, Resolution.period, sameOffset, otherOffset]
  exact Days.shiftedBy_toPeriod (by omega) (by omega) offset

theorem start_shift {days : Int} (later : otherFirst = first + days) :
    resolution.period.start.shift (days * microsecondsPerDay) = .ok other.period.start := by
  obtain ⟨sameOffset, isFirst, -⟩ := spans
  obtain ⟨otherOffset, isOtherFirst, -⟩ := otherSpans
  have daysLater : (other.days.first.ordinal : Int) = resolution.days.first.ordinal + days := by
    omega
  rw [Resolution.period, Resolution.period, sameOffset, otherOffset]
  exact Moment.shift_to_date daysLater

theorem includes (startsEarlier : first ≤ otherFirst) (endsLater : otherLast ≤ last) :
    resolution.period.Includes other.period := by
  obtain ⟨start, onClock⟩ := spans.start_spec
  obtain ⟨otherStart, otherOnClock⟩ := otherSpans.start_spec
  obtain ⟨finish, finishOnClock⟩ := spans.finish_spec
  obtain ⟨otherFinish, otherFinishOnClock⟩ := otherSpans.finish_spec
  unfold microsecondsPerDay at *
  constructor
  · rw [Moment.position_le_iff (onClock.trans otherOnClock.symm)]
    omega
  · rw [Moment.position_le_iff (otherFinishOnClock.trans finishOnClock.symm)]
    omega

end Two

end Resolution.Spans

/-! ### What is found around today -/

namespace Resolver

variable (resolver : Resolver)

/-- What the resolver finds for a specification is the run between two places, if the calendar holds
it. -/
def Finds (specification : Specification) (first last : Int) : Prop :=
  ∀ days, resolver.days specification = .ok (some days) ↔
    (days.first.ordinal : Int) = first ∧ (days.last.ordinal : Int) = last

theorem finds_of_spanning {specification : Specification} {first last : Int}
    (given : resolver.days specification = (Days.spanning first last).map some) :
    resolver.Finds specification first last := by
  intro days
  rw [given, map_some_eq_some_iff, Days.spanning_eq_ok_iff]

theorem finds_today : resolver.Finds .today resolver.place resolver.place := by
  have spans : Days.spanning resolver.place resolver.place = .ok (.single resolver.now.date) :=
    (Days.spanning_eq_ok_iff _ _ _).2 ⟨rfl, rfl⟩
  exact resolver.finds_of_spanning (by rw [spans, days_today]; rfl)

theorem finds_yesterday :
    resolver.Finds .yesterday (resolver.place - 1) (resolver.place - 1) :=
  resolver.finds_of_spanning resolver.days_yesterday

theorem finds_thisWeek :
    resolver.Finds .thisWeek resolver.weekStart (resolver.weekStart + 6) :=
  resolver.finds_of_spanning resolver.days_thisWeek

theorem finds_lastWeek :
    resolver.Finds .lastWeek (resolver.weekStart - 7) (resolver.weekStart - 1) :=
  resolver.finds_of_spanning resolver.days_lastWeek

theorem finds_lastDays (count : Nat) :
    resolver.Finds (.lastDays count) (resolver.place - count + 1) resolver.place := by
  intro days
  have ordered : days.first.ordinal ≤ days.last.ordinal := days.first_le_last
  rw [days_lastDays_eq_some_iff, Days.spanning_eq_ok_iff]
  omega

variable {resolver}

/-- A text that spells what is found between two places is answered with the run between them. -/
theorem Finds.resolve?_eq_some_iff {specification : Specification} {first last : Int}
    (finds : resolver.Finds specification first last) {text : Option String} {form : Form}
    (spells : form.Spells (Specification.normalize text) specification)
    (notMonth : form ≠ .monthYear) (notWeek : form ≠ .weekNumber) (resolution : Resolution) :
    resolver.resolve? text = .ok (some resolution) ↔
      resolution.form = form ∧ resolution.Spans resolver.now.offset first last := by
  rw [resolve?_eq_some_iff_of_spells resolver spells notMonth notWeek]
  simp only [finds _]
  constructor
  · rintro ⟨days, ⟨sameFirst, sameLast⟩, rfl⟩
    exact ⟨rfl, rfl, sameFirst, sameLast⟩
  · rintro ⟨sameForm, sameOffset, sameFirst, sameLast⟩
    refine ⟨resolution.days, ⟨sameFirst, sameLast⟩, ?_⟩
    rw [← sameForm, ← sameOffset]

/-! ### How they fit together -/

section Keywords

variable (resolver : Resolver) (resolution : Resolution)

theorem resolve?_today_iff : resolver.resolve? (some "today") = .ok (some resolution) ↔
    resolution.form = .keyword ∧
      resolution.Spans resolver.now.offset resolver.place resolver.place :=
  resolver.finds_today.resolve?_eq_some_iff .today (by decide) (by decide) resolution

theorem resolve?_yesterday_iff : resolver.resolve? (some "yesterday") = .ok (some resolution) ↔
    resolution.form = .keyword ∧
      resolution.Spans resolver.now.offset (resolver.place - 1) (resolver.place - 1) :=
  resolver.finds_yesterday.resolve?_eq_some_iff .yesterday (by decide) (by decide) resolution

theorem resolve?_thisWeek_iff : resolver.resolve? (some "thisweek") = .ok (some resolution) ↔
    resolution.form = .keyword ∧
      resolution.Spans resolver.now.offset resolver.weekStart (resolver.weekStart + 6) :=
  resolver.finds_thisWeek.resolve?_eq_some_iff .thisWeek (by decide) (by decide) resolution

theorem resolve?_lastWeek_iff : resolver.resolve? (some "lastweek") = .ok (some resolution) ↔
    resolution.form = .keyword ∧
      resolution.Spans resolver.now.offset (resolver.weekStart - 7) (resolver.weekStart - 1) :=
  resolver.finds_lastWeek.resolve?_eq_some_iff .lastWeek (by decide) (by decide) resolution

end Keywords

variable (resolver : Resolver)

/-- The places of the last days. -/
theorem spans_of_lastDays {text : Option String} {count : Nat} {resolution : Resolution}
    (spells : Form.relativeDays.Spells (Specification.normalize text) (.lastDays count))
    (answers : resolver.resolve? text = .ok (some resolution)) :
    resolution.Spans resolver.now.offset (resolver.place - count + 1) resolver.place :=
  (((resolver.finds_lastDays count).resolve?_eq_some_iff spells (by decide) (by decide)
    resolution).1 answers).2

/-- The last days with one day more end alike and start one day earlier. -/
theorem one_day_more {offset : Option Offset} {place : Int} {count : Nat}
    {lastDays longer : Resolution} (spans : lastDays.Spans offset (place - count + 1) place)
    (spansLonger : longer.Spans offset (place - (count + 1 : Nat) + 1) place) :
    longer.period.finish = lastDays.period.finish ∧
      longer.period.start.shift microsecondsPerDay = .ok lastDays.period.start := by
  have oneLater : place - count + 1 = place - (count + 1 : Nat) + 1 + 1 := by omega
  have shifted := spansLonger.start_shift spans oneLater
  rw [Int.one_mul] at shifted
  exact ⟨spansLonger.finish_eq spans rfl, shifted⟩

/-- With the last two days the calendar holds yesterday, the first of the two. -/
theorem exists_yesterday_of_two {lastDays : Resolution}
    (spans : lastDays.Spans resolver.now.offset (resolver.place - (2 : Nat) + 1) resolver.place) :
    ∃ yesterday, resolver.resolve? (some "yesterday") = .ok (some yesterday) := by
  have isFirst : (lastDays.days.first.ordinal : Int) = resolver.place - 1 :=
    spans.first_eq.trans (by omega)
  exact ⟨⟨.keyword, .single lastDays.days.first, resolver.now.offset⟩,
    (resolver.resolve?_yesterday_iff _).2 ⟨rfl, rfl, isFirst, isFirst⟩⟩

/-- Today holds the reference moment, and yesterday ends where it starts. This week holds the moment
and includes today, and last week is the week that ends where this week starts. The last days hold
the moment and end with today; one day more starts them one day earlier, one day is today, and two
days are yesterday and today. -/
theorem relative_periods_fit :
    ∃ today, resolver.resolve? (some "today") = .ok (some today) ∧
      today.period.contains resolver.now = .ok true ∧
      (∀ yesterday, resolver.resolve? (some "yesterday") = .ok (some yesterday) →
        yesterday.period.Adjoins today.period) ∧
      (∀ week, resolver.resolve? (some "thisweek") = .ok (some week) →
        week.period.contains resolver.now = .ok true ∧ week.period.Includes today.period) ∧
      (∀ before, resolver.resolve? (some "lastweek") = .ok (some before) →
        before.period.contains resolver.now = .ok false ∧
        ∀ week, resolver.resolve? (some "thisweek") = .ok (some week) →
          before.period.Adjoins week.period ∧ before.period.ShiftedBy 7 week.period) ∧
      ∀ (text : Option String) (count : Nat) (lastDays : Resolution),
        Form.relativeDays.Spells (Specification.normalize text) (.lastDays count) →
        resolver.resolve? text = .ok (some lastDays) →
        lastDays.period.contains resolver.now = .ok true ∧
        lastDays.period.finish = today.period.finish ∧
        (∀ (longerText : Option String) (longer : Resolution),
          Form.relativeDays.Spells (Specification.normalize longerText) (.lastDays (count + 1)) →
          resolver.resolve? longerText = .ok (some longer) →
          longer.period.finish = lastDays.period.finish ∧
            longer.period.start.shift microsecondsPerDay = .ok lastDays.period.start) ∧
        (count = 1 → lastDays.period = today.period) ∧
        (count = 2 → ∃ yesterday,
          resolver.resolve? (some "yesterday") = .ok (some yesterday) ∧
            lastDays.period.start = yesterday.period.start ∧
            yesterday.period.Adjoins today.period) := by
  have place : resolver.place = resolver.now.date.ordinal := rfl
  have weekBounds : resolver.weekStart ≤ resolver.place ∧
      resolver.place < resolver.weekStart + 7 :=
    weekPlace_bounds resolver.place resolver.firstDay
  obtain ⟨today, answersToday⟩ : ∃ today, resolver.resolve? (some "today") = .ok (some today) :=
    ⟨⟨.keyword, .single resolver.now.date, resolver.now.offset⟩,
      (resolver.resolve?_today_iff _).2 ⟨rfl, rfl, rfl, rfl⟩⟩
  have spansToday := ((resolver.resolve?_today_iff today).1 answersToday).2
  refine ⟨today, answersToday, ?_, ?_, ?_, ?_, ?_⟩
  · rw [spansToday.contains_eq rfl, decide_eq_true (by omega)]
  · intro yesterday answers
    have spans := ((resolver.resolve?_yesterday_iff yesterday).1 answers).2
    exact spans.adjoins spansToday (by omega)
  · intro week answers
    have spans := ((resolver.resolve?_thisWeek_iff week).1 answers).2
    refine ⟨?_, spans.includes spansToday (by omega) (by omega)⟩
    rw [spans.contains_eq rfl, decide_eq_true (by omega)]
  · intro before answers
    have spans := ((resolver.resolve?_lastWeek_iff before).1 answers).2
    refine ⟨?_, fun week answersWeek => ?_⟩
    · rw [spans.contains_eq rfl, decide_eq_false (by omega)]
    · have spansWeek := ((resolver.resolve?_thisWeek_iff week).1 answersWeek).2
      exact ⟨spans.adjoins spansWeek (by omega), spans.shiftedBy spansWeek (by omega) (by omega)⟩
  · intro text count lastDays spells answers
    have spans := resolver.spans_of_lastDays spells answers
    have ordered := spans.first_le_last
    refine ⟨?_, spans.finish_eq spansToday rfl, ?_, ?_, ?_⟩
    · rw [spans.contains_eq rfl, decide_eq_true (by omega)]
    · intro longerText longer spellsLonger answersLonger
      exact one_day_more spans (resolver.spans_of_lastDays spellsLonger answersLonger)
    · rintro rfl
      exact spans.period_eq spansToday (by omega) rfl
    · rintro rfl
      obtain ⟨yesterday, answersYesterday⟩ := resolver.exists_yesterday_of_two spans
      have spansYesterday := ((resolver.resolve?_yesterday_iff yesterday).1 answersYesterday).2
      exact ⟨yesterday, answersYesterday, spans.start_eq spansYesterday (by omega),
        spansYesterday.adjoins spansToday (by omega)⟩

/-- Around Wednesday, January 3, 2024. -/
theorem periods_around_january_3_2024 :
    let resolver : Resolver := ⟨.monday, .standard, .atStart ⟨738888, by decide, by decide⟩ none⟩
    ∃ today yesterday week before two three,
      resolver.resolve? (some "today") = .ok (some today) ∧
      resolver.resolve? (some "yesterday") = .ok (some yesterday) ∧
      resolver.resolve? (some "thisweek") = .ok (some week) ∧
      resolver.resolve? (some "lastweek") = .ok (some before) ∧
      resolver.resolve? (some "last 2 days") = .ok (some two) ∧
      resolver.resolve? (some "last 3 days") = .ok (some three) ∧
      today.period.contains resolver.now = .ok true ∧
      yesterday.period.Adjoins today.period ∧
      week.period.Includes today.period ∧
      before.period.contains resolver.now = .ok false ∧
      before.period.Adjoins week.period ∧ before.period.ShiftedBy 7 week.period ∧
      two.period.finish = today.period.finish ∧
      three.period.start.shift microsecondsPerDay = .ok two.period.start := by
  let resolver : Resolver := ⟨.monday, .standard, .atStart ⟨738888, by decide, by decide⟩ none⟩
  have yesterday : resolver.resolve? (some "yesterday") =
      .ok (some ⟨.keyword, .single ⟨738887, by decide, by decide⟩, none⟩) := by decide +kernel
  have week : resolver.resolve? (some "thisweek") = .ok (some ⟨.keyword,
      ⟨⟨738886, by decide, by decide⟩, ⟨738892, by decide, by decide⟩, by decide⟩, none⟩) := by
    decide +kernel
  have before : resolver.resolve? (some "lastweek") = .ok (some ⟨.keyword,
      ⟨⟨738879, by decide, by decide⟩, ⟨738885, by decide, by decide⟩, by decide⟩, none⟩) := by
    decide +kernel
  have two : resolver.resolve? (some "last 2 days") = .ok (some ⟨.relativeDays,
      ⟨⟨738887, by decide, by decide⟩, ⟨738888, by decide, by decide⟩, by decide⟩, none⟩) := by
    decide +kernel
  have three : resolver.resolve? (some "last 3 days") = .ok (some ⟨.relativeDays,
      ⟨⟨738886, by decide, by decide⟩, ⟨738888, by decide, by decide⟩, by decide⟩, none⟩) := by
    decide +kernel
  have spellsTwo : Form.relativeDays.Spells (Specification.normalize (some "last 2 days"))
      (.lastDays 2) :=
    (Form.read?_eq_some_iff (Specification.isTrimmed_normalize _) _).1 (by decide +kernel)
  have spellsThree : Form.relativeDays.Spells (Specification.normalize (some "last 3 days"))
      (.lastDays 3) :=
    (Form.read?_eq_some_iff (Specification.isTrimmed_normalize _) _).1 (by decide +kernel)
  obtain ⟨today, isToday, holds, afterYesterday, thisWeek, lastWeek, lastDays⟩ :=
    resolver.relative_periods_fit
  obtain ⟨without, adjoins⟩ := lastWeek _ before
  obtain ⟨-, endsToday, longer, -⟩ := lastDays _ 2 _ spellsTwo two
  exact ⟨today, _, _, _, _, _, isToday, yesterday, week, before, two, three, holds,
    afterYesterday _ yesterday, (thisWeek _ week).2, without, (adjoins _ week).1,
    (adjoins _ week).2, endsToday, (longer _ _ spellsThree three).2⟩

end Resolver

end Almanac
