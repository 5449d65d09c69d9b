/-
This file proves when the resolver fails. No form but the keywords ever does, and a
keyword does if the run of dates that it asks for leaves the calendar; the failure is
always the same error. So a text that is no such keyword either has an answer or is
reported as unsupported, as it was given.
-/

import Almanac.Proofs.Answers
import Almanac.Proofs.Periods

namespace Almanac

open Text

namespace Resolver

variable (resolver : Resolver)

/-- The keywords that ask for dates outside the calendar. -/
def LeavesCalendar (text : List Char) : Prop :=
  (text = "yesterday".toList ∧ ¬InCalendar (resolver.place - 1) (resolver.place - 1)) ∨
    (text = "thisweek".toList ∧ ¬InCalendar resolver.weekStart (resolver.weekStart + 6)) ∨
    (text = "lastweek".toList ∧ ¬InCalendar (resolver.weekStart - 7) (resolver.weekStart - 1))

/-! ### Failing keywords -/

theorem leavesCalendar_iff (text : List Char) : resolver.LeavesCalendar text ↔
    ∃ specification, Form.keyword.Spells text specification ∧
      ¬resolver.Answerable specification := by
  constructor
  · rintro (⟨rfl, outside⟩ | ⟨rfl, outside⟩ | ⟨rfl, outside⟩)
    · exact ⟨_, .yesterday, outside⟩
    · exact ⟨_, .thisWeek, outside⟩
    · exact ⟨_, .lastWeek, outside⟩
  · rintro ⟨_, spells, outside⟩
    cases spells with
    | today => exact absurd trivial outside
    | yesterday => exact Or.inl ⟨rfl, outside⟩
    | thisWeek => exact Or.inr (Or.inl ⟨rfl, outside⟩)
    | lastWeek => exact Or.inr (Or.inr ⟨rfl, outside⟩)

/-- The reference dates for which a keyword leaves the calendar. The calendar begins on a Monday and
ends on a Friday, so its end cuts off a week, and so does its start if weeks start on Sunday. -/
theorem leavesCalendar_iff_place (text : List Char) : resolver.LeavesCalendar text ↔
    (text = "yesterday".toList ∧ resolver.place = 1) ∨
      (text = "thisweek".toList ∧ match resolver.firstDay with
        | .monday => lastOrdinal - 4 ≤ resolver.place
        | .sunday => resolver.place ≤ 6 ∨ lastOrdinal - 5 ≤ resolver.place) ∨
      (text = "lastweek".toList ∧ match resolver.firstDay with
        | .monday => resolver.place ≤ 7
        | .sunday => resolver.place ≤ 13) := by
  have positive : 1 ≤ resolver.place := Int.ofNat_le.2 resolver.now.date.one_le
  have bounded : resolver.place ≤ lastOrdinal := Int.ofNat_le.2 resolver.now.date.le_last
  have holds := weekPlace_bounds resolver.place resolver.firstDay
  have starts := weekPlace_emod resolver.place resolver.firstDay
  unfold LeavesCalendar InCalendar weekStart
  unfold lastOrdinal at *
  refine or_congr (and_congr_right' (by omega)) (or_congr (and_congr_right' ?_)
    (and_congr_right' ?_))
  all_goals
    cases first : resolver.firstDay <;> rw [first] at holds starts <;>
      simp only [FirstDay.weekday] at starts ⊢ <;> omega

theorem isKeyword_iff {form : Form} {text : List Char} {specification : Specification}
    (spells : form.Spells text specification) : IsKeyword specification ↔ form = .keyword := by
  cases spells <;> simp [IsKeyword]

/-- In a form, a text fails exactly if it is a keyword that leaves the calendar. -/
theorem attempt_fails_iff {text : List Char} (trimmed : IsTrimmed text) (form : Form)
    (error : CalendarError) : resolver.attempt text form = .error error ↔
      error = .outsideCalendar ∧ form = .keyword ∧ resolver.LeavesCalendar text := by
  simp only [attempt_eq_error_iff resolver trimmed, leavesCalendar_iff, days_eq_error_iff]
  constructor
  · rintro ⟨specification, spells, rfl, isKeyword, outside⟩
    obtain rfl := (isKeyword_iff spells).1 isKeyword
    exact ⟨rfl, rfl, specification, spells, outside⟩
  · rintro ⟨rfl, rfl, specification, spells, outside⟩
    exact ⟨specification, spells, rfl, (isKeyword_iff spells).2 rfl, outside⟩

/-- A normalized text fails in all forms together exactly if it fails as a keyword. -/
theorem firstAnswer_fails_iff {text : List Char} (trimmed : IsTrimmed text)
    (error : CalendarError) : resolver.firstAnswer text Form.all = .error error ↔
      error = .outsideCalendar ∧ resolver.LeavesCalendar text := by
  have distinct : Form.all.Nodup := by decide
  rw [firstAnswer_eq_iff resolver distinct (by simp)]
  simp only [attempt_fails_iff resolver trimmed]
  constructor
  · rintro ⟨form, -, ⟨rfl, -, leaves⟩, -⟩
    exact ⟨rfl, leaves⟩
  · rintro ⟨rfl, leaves⟩
    refine ⟨.keyword, by decide, ⟨rfl, rfl, leaves⟩, fun earlier order => ?_⟩
    -- no form comes before the keywords
    exact absurd order (by cases earlier <;> decide)

/-! ### When the resolver fails -/

/-- The resolver never fails on a text that is no keyword for dates outside the calendar, and then
reports the text as it was given if it has no answer. On the other texts it fails. -/
theorem answers_or_unsupported_iff (text : Option String) :
    ((∃ answer, resolver.resolve? text = .ok answer) ∧
      ((∃ resolution, resolver.resolve text = .ok resolution) ∨
        resolver.resolve text = .error (.unsupported text))) ↔
      ¬resolver.LeavesCalendar (Specification.normalize text) := by
  have fails := resolver.firstAnswer_fails_iff (Specification.isTrimmed_normalize text)
  have sameAnswer : resolver.firstAnswer (Specification.normalize text) Form.all =
      resolver.resolve? text := rfl
  rw [sameAnswer] at fails
  unfold resolve
  cases outcome : resolver.resolve? text with
  | error error =>
    have leaves := ((fails error).1 outcome).2
    simp [leaves]
  | ok answer =>
    have stays : ¬resolver.LeavesCalendar (Specification.normalize text) := by
      intro leaves
      rw [(fails .outsideCalendar).2 ⟨rfl, leaves⟩] at outcome
      cases outcome
    cases answer with
    | none => simp [stays]
    | some resolution => simp [stays]

/-- There is no day before the first one of the calendar, and asking for it is an error that is
neither an answer nor a report of unsupported text. -/
theorem yesterday_fails_on_first_day :
    let resolver : Resolver :=
      ⟨.sunday, .standard, .atStart ⟨1, by decide, by decide⟩ none⟩
    resolver.resolve? (some "yesterday") = .error .outsideCalendar ∧
      resolver.resolve (some "yesterday") = .error (.calendar .outsideCalendar) :=
  ⟨rfl, rfl⟩

/-- The resolver fails on the keywords for dates outside the calendar, in one way, and on nothing
else. Among the forms only that of the keywords ever fails, and every run of dates is a valid period
on the clock of the resolver. -/
theorem fails_iff_leavesCalendar :
    (∀ (text : Option String) (error : CalendarError), resolver.resolve? text = .error error ↔
      error = .outsideCalendar ∧ resolver.LeavesCalendar (Specification.normalize text)) ∧
    (∀ (text : Option String) (form : Form) (error : CalendarError), form ≠ .keyword →
      resolver.attempt (Specification.normalize text) form ≠ .error error) ∧
    ∀ days : Days, Period.between (Moment.atStart days.first resolver.now.offset)
      (Moment.atEnd days.last resolver.now.offset) = .ok (days.toPeriod resolver.now.offset) := by
  refine ⟨?_, ?_, ?_⟩
  · intro text error
    exact resolver.firstAnswer_fails_iff (Specification.isTrimmed_normalize text) error
  · intro text form error other fails
    have trimmed := Specification.isTrimmed_normalize text
    exact other ((resolver.attempt_fails_iff trimmed form error).1 fails).2.1
  · exact fun days => days.between_toPeriod resolver.now.offset

end Resolver

end Almanac
