/-
This file resolves time specifications to periods. A resolver is bound to a
reference moment, a first weekday and a lexicon; the forms of specifications are
tried in order, and the first one that names a period of the calendar decides.
-/

import Almanac.Calendar.Period
import Almanac.Language.Lexicon
import Almanac.Specification.Form

namespace Almanac

/-- What time specifications are resolved against. -/
structure Resolver where
  firstDay : FirstDay
  lexicon : Lexicon
  now : Moment

/-- The answer to a time specification: the form in which it was written and the dates of the period
it asks for, on the clock of the resolver. -/
structure Resolution where
  form : Form
  days : Days
  offset : Option Offset
deriving DecidableEq

/-- The period of an answer. -/
def Resolution.period (resolution : Resolution) : Period :=
  resolution.days.toPeriod resolution.offset

/-- A cause for which a time specification has no answer. -/
inductive ResolveError where
  /-- No form accepts the text. -/
  | unsupported (text : Option String)
  /-- A keyword asks for dates outside the calendar. -/
  | calendar (error : CalendarError)
deriving DecidableEq

def ResolveError.message : ResolveError → String
  | unsupported text => "unsupported time specification: " ++ text.getD "None"
  | calendar error => error.message

namespace Resolver

/-- What is found, if something is. An error of a forgiven kind counts as nothing; any other one stays
an error. -/
def forgive {Found : Type} (forgiven : CalendarError → Bool) :
    Except CalendarError Found → Except CalendarError (Option Found)
  | .ok found => .ok (some found)
  | .error error => if forgiven error then .ok none else .error error

/-- The period that a specification asks for. Yesterday, last week and the last days are counted
from the reference moment itself, before its time of day is dropped. A keyword that leaves the
calendar is an error. Months and numbered weeks forgive every error of the calendar, the last days
only that it ends. -/
def period? (resolver : Resolver) : Specification → Except CalendarError (Option Period)
  | .today => do pure (some (← resolver.now.day))
  | .yesterday => do pure (some (← (← resolver.now.shiftDays (-1)).day))
  | .thisWeek => do pure (some (← resolver.now.week resolver.firstDay))
  | .lastWeek => do pure (some (← (← resolver.now.shiftDays (-7)).week resolver.firstDay))
  | .month name year =>
    match resolver.lexicon.lookup? name with
    | some month =>
      forgive (fun _ => true) (Period.numberedMonth year month.number resolver.now.offset)
    | none => .ok none
  | .week number year =>
    if 1 ≤ number ∧ number ≤ 53 then
      let year := year.getD resolver.now.date.yearNumber
      forgive (fun _ => true)
        (Period.numberedWeek year number resolver.firstDay resolver.now.offset)
    else
      .ok none
  | .dates first last => do
    if first ≤ last then
      let start := Moment.atStart first resolver.now.offset
      let finish := Moment.atStart last resolver.now.offset
      pure (some (← Period.fromTo start.startOfDay finish.endOfDay))
    else
      pure none
  | .date date => do pure (some (← (Moment.atStart date resolver.now.offset).day))
  | .lastDays count =>
    if count < 1 then .ok none
    else forgive CalendarError.isOutside (resolver.now.lastDays count)

/-- The dates of the period that a specification asks for. -/
def days (resolver : Resolver) (specification : Specification) :
    Except CalendarError (Option Days) :=
  (resolver.period? specification).map fun found => found.bind Period.days?

/-- The answer to a normalized text, if it is written in a form. -/
def attempt (resolver : Resolver) (text : List Char) (form : Form) :
    Except CalendarError (Option Resolution) :=
  match form.read? text with
  | none => .ok none
  | some specification => do
    let days ← resolver.days specification
    pure (days.map fun days => ⟨form, days, resolver.now.offset⟩)

/-- The answer to a normalized text by the first form that has one. -/
def firstAnswer (resolver : Resolver) (text : List Char) :
    List Form → Except CalendarError (Option Resolution)
  | [] => .ok none
  | form :: rest => do
    match ← resolver.attempt text form with
    | some resolution => pure (some resolution)
    | none => resolver.firstAnswer text rest

/-- The answer to a time specification, if it has one. -/
def resolve? (resolver : Resolver) (text : Option String) :
    Except CalendarError (Option Resolution) :=
  resolver.firstAnswer (Specification.normalize text) Form.all

/-- The answer to a time specification, or the cause why there is none. -/
def resolve (resolver : Resolver) (text : Option String) : Except ResolveError Resolution :=
  match resolver.resolve? text with
  | .ok (some resolution) => .ok resolution
  | .ok none => .error (.unsupported text)
  | .error error => .error (.calendar error)

end Resolver

end Almanac
