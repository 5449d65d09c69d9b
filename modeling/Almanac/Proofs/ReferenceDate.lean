/-
This file proves that of the reference moment a resolver reads the date alone, and that
the offset only labels what is found. The periods are found from the moment itself: whole
days are counted from its time of day, and the bounds are compared on the time line. For
each specification the outcome is a run of dates that the date alone leads to, put on
the clock of the moment, or the failure that the date alone leads to.
-/

import Almanac.Proofs.Months
import Almanac.Proofs.WeekNumbers
import Almanac.Resolver

namespace Almanac

namespace Resolver

theorem forgive_map {Found Image : Type} (forgiven : CalendarError → Bool)
    (given : Except CalendarError Found) (image : Found → Image) :
    forgive forgiven (given.map image) = (forgive forgiven given).map (Option.map image) := by
  cases given with
  | ok found => rfl
  | error error =>
    unfold Except.map forgive
    dsimp only
    split <;> rfl

/-- The dates that a specification asks for, found without the time of day and the offset of the
reference moment. -/
def daysByDate (resolver : Resolver) : Specification → Except CalendarError (Option Days)
  | .today => .ok (some (.single resolver.now.date))
  | .yesterday => do pure (some (.single (← resolver.now.date.shift (-1))))
  | .thisWeek => do pure (some (← Days.week resolver.now.date resolver.firstDay))
  | .lastWeek => do pure (some (← Days.week (← resolver.now.date.shift (-7)) resolver.firstDay))
  | .month name year =>
    match resolver.lexicon.lookup? name with
    | some month => forgive (fun _ => true) (Days.numberedMonth year month.number)
    | none => .ok none
  | .week number year =>
    if 1 ≤ number ∧ number ≤ 53 then
      let year := year.getD resolver.now.date.yearNumber
      forgive (fun _ => true) (Days.numberedWeek year number resolver.firstDay)
    else
      .ok none
  | .dates first last => .ok (Days.between? first last)
  | .date date => .ok (some (.single date))
  | .lastDays count =>
    if count < 1 then .ok none
    else forgive CalendarError.isOutside (Days.lastDays resolver.now.date count)

variable (resolver : Resolver)

/-- What is found from the reference moment is what its date leads to, on its clock. -/
theorem period?_eq_daysByDate (specification : Specification) :
    resolver.period? specification = (resolver.daysByDate specification).map
      (Option.map fun days => days.toPeriod resolver.now.offset) := by
  cases specification with
  | today =>
    rw [period?, Moment.day_eq]
    rfl
  | yesterday =>
    rw [period?, daysByDate, Moment.shiftDays_eq, bind_map_eq, map_bind_eq]
    refine bind_congr fun date => ?_
    rw [Moment.day_eq]
    rfl
  | thisWeek =>
    rw [period?, daysByDate, Moment.week_eq, bind_map_eq, map_bind_eq]
    rfl
  | lastWeek =>
    rw [period?, daysByDate, Moment.shiftDays_eq, bind_map_eq, map_bind_eq]
    refine bind_congr fun date => ?_
    rw [Moment.week_eq, bind_map_eq, map_bind_eq]
    rfl
  | month name year =>
    rw [period?, daysByDate]
    cases resolver.lexicon.lookup? name with
    | none => rfl
    | some month => simp only [Period.numberedMonth_eq, forgive_map]
  | week number year =>
    rw [period?, daysByDate]
    split
    · simp only [Period.numberedWeek_eq, forgive_map]
    · rfl
  | dates first last =>
    rw [period?, daysByDate, Days.between?]
    split
    · next ordered =>
      let run : Days := ⟨first, last, ordered⟩
      change (Period.fromTo (.atStart run.first resolver.now.offset)
        (.atEnd run.last resolver.now.offset) >>= fun period => pure (some period)) = _
      rw [run.fromTo_toPeriod]
      rfl
    · rfl
  | date date =>
    rw [period?, Moment.day_eq]
    rfl
  | lastDays count =>
    rw [period?, daysByDate]
    split
    · rfl
    · rw [Moment.lastDays_eq, forgive_map]

theorem days_eq_daysByDate (specification : Specification) :
    resolver.days specification = resolver.daysByDate specification := by
  rw [days, period?_eq_daysByDate]
  cases resolver.daysByDate specification with
  | error error => rfl
  | ok found =>
    cases found with
    | none => rfl
    | some days => exact congrArg Except.ok (days.days?_toPeriod resolver.now.offset)

/-- The period that is found for a specification is that of its dates on the clock of the reference
moment, so nothing of it is lost in the dates. -/
theorem period?_eq (specification : Specification) :
    resolver.period? specification = (resolver.days specification).map
      (Option.map fun days => days.toPeriod resolver.now.offset) := by
  rw [days_eq_daysByDate, period?_eq_daysByDate]

end Resolver

end Almanac
