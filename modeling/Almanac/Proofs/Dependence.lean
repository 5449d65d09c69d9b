/-
This file proves what an answer depends on. Of the reference moment only the date
matters, and the offset only labels the answer, so two resolvers on one date answer alike.
The date itself, the first weekday and the month names are read by some texts only: a
text that does not ask for days around today, for a week, or for a month by its name
has the same answer whatever these are.
-/

import Almanac.Proofs.FormOrder
import Almanac.Proofs.Periods
import Almanac.Proofs.WrittenDates

namespace Almanac

open Text

/-! ### What a text reads -/

/-- The word `week` and a number. -/
def IsWeek (text number : List Char) : Prop :=
  ∃ gap, text = "week".toList ++ gap ++ number ∧ IsGap gap ∧ IsNumeral 1 9 number

/-- The word `week`, a number and a year. -/
def IsWeekOfYear (text number year : List Char) : Prop :=
  ∃ gap nextGap, text = "week".toList ++ gap ++ (number ++ nextGap ++ year) ∧
    IsGap gap ∧ IsNumeral 1 9 number ∧ IsGap nextGap ∧ IsNumeral 4 4 year

/-- The word `last`, a number, and the word `day` or `days`. -/
def IsLastDays (text number : List Char) : Prop :=
  ∃ gap nextGap unit, text = "last".toList ++ gap ++ (number ++ nextGap ++ unit) ∧
    IsGap gap ∧ IsNumeral 1 9 number ∧ IsGap nextGap ∧
    (unit = "day".toList ∨ unit = "days".toList)

theorem IsWeek.spells {text number : List Char} (isWeek : IsWeek text number) :
    Form.weekNumber.Spells text (.week (valueOf number) none) := by
  obtain ⟨gap, rfl, isGap, isNumber⟩ := isWeek
  exact .week isGap isNumber

theorem IsWeekOfYear.spells {text number year : List Char}
    (isWeek : IsWeekOfYear text number year) :
    Form.weekNumber.Spells text (.week (valueOf number) (some (valueOf year))) := by
  obtain ⟨gap, nextGap, rfl, isGap, isNumber, isNextGap, isYear⟩ := isWeek
  exact .weekOfYear isGap isNumber isNextGap isYear

theorem IsLastDays.spells {text number : List Char} (isLast : IsLastDays text number) :
    Form.relativeDays.Spells text (.lastDays (valueOf number)) := by
  obtain ⟨gap, nextGap, unit, rfl, isGap, isNumber, isNextGap, isUnit⟩ := isLast
  exact .lastDays isGap isNumber isNextGap isUnit

/-- The texts that ask for days around today: the keywords, a week without its year, and the last
days. -/
def AsksAroundToday (text : List Char) : Prop :=
  text ∈ ["today".toList, "yesterday".toList, "thisweek".toList, "lastweek".toList] ∨
    (∃ number, IsWeek text number) ∨ ∃ number, IsLastDays text number

/-- The texts that ask for a week. -/
def AsksForWeek (text : List Char) : Prop :=
  text ∈ ["thisweek".toList, "lastweek".toList] ∨
    (∃ number, IsWeek text number) ∨ ∃ number year, IsWeekOfYear text number year

/-- The text is a name before or behind a year. -/
def NamesMonth (text : List Char) (name : String) : Prop :=
  ∃ gap year, IsName name.toList ∧ IsGap gap ∧ IsNumeral 4 4 year ∧
    (text = name.toList ++ gap ++ year ∨ text = year ++ gap ++ name.toList)

theorem NamesMonth.spells {text : List Char} {name : String} (names : NamesMonth text name) :
    ∃ year, Form.monthYear.Spells text (.month name year) := by
  obtain ⟨gap, year, isName, isGap, isYear, rfl | rfl⟩ := names
  · have spells := Form.Spells.nameYear isName isGap isYear
    rw [String.ofList_toList] at spells
    exact ⟨_, spells⟩
  · have spells := Form.Spells.yearName isYear isGap isName
    rw [String.ofList_toList] at spells
    exact ⟨_, spells⟩

namespace Resolver

/-- Two resolvers agree on whatever a text asks them for: the date of today, the first weekday, and
the month of a name. -/
structure AgreeOn (text : List Char) (resolver other : Resolver) : Prop where
  date : AsksAroundToday text → resolver.now.date = other.now.date
  firstDay : AsksForWeek text → resolver.firstDay = other.firstDay
  month : ∀ name, NamesMonth text name →
    resolver.lexicon.lookup? name = other.lexicon.lookup? name

variable {resolver other : Resolver}

/-- Resolvers that agree on a text find the same dates for what it spells. -/
theorem AgreeOn.days_eq {text : List Char} (agree : AgreeOn text resolver other) {form : Form}
    {specification : Specification} (spells : form.Spells text specification) :
    resolver.days specification = other.days specification := by
  rw [days_eq_daysByDate, days_eq_daysByDate]
  cases spells with
  | today =>
    have sameDate := agree.date (Or.inl (by simp))
    simp only [daysByDate, sameDate]
  | yesterday =>
    have sameDate := agree.date (Or.inl (by simp))
    simp only [daysByDate, sameDate]
  | thisWeek =>
    have sameDate := agree.date (Or.inl (by simp))
    have sameFirstDay := agree.firstDay (Or.inl (by simp))
    simp only [daysByDate, sameDate, sameFirstDay]
  | lastWeek =>
    have sameDate := agree.date (Or.inl (by simp))
    have sameFirstDay := agree.firstDay (Or.inl (by simp))
    simp only [daysByDate, sameDate, sameFirstDay]
  | @nameYear name gap year isName isGap isYear =>
    have sameMonth := agree.month (String.ofList name)
      ⟨gap, year, by rwa [String.toList_ofList], isGap, isYear,
        Or.inl (by rw [String.toList_ofList])⟩
    simp only [daysByDate, sameMonth]
  | @yearName year gap name isYear isGap isName =>
    have sameMonth := agree.month (String.ofList name)
      ⟨gap, year, by rwa [String.toList_ofList], isGap, isYear,
        Or.inr (by rw [String.toList_ofList])⟩
    simp only [daysByDate, sameMonth]
  | week isGap isNumber =>
    have sameDate := agree.date (Or.inr (Or.inl ⟨_, _, rfl, isGap, isNumber⟩))
    have sameFirstDay := agree.firstDay (Or.inr (Or.inl ⟨_, _, rfl, isGap, isNumber⟩))
    simp only [daysByDate, sameDate, sameFirstDay]
  | weekOfYear isGap isNumber isNextGap isYear =>
    have sameFirstDay := agree.firstDay
      (Or.inr (Or.inr ⟨_, _, _, _, rfl, isGap, isNumber, isNextGap, isYear⟩))
    simp only [daysByDate, sameFirstDay, Option.getD_some]
  | dates _ _ _ _ => rfl
  | date _ => rfl
  | lastDays isGap isNumber isNextGap isUnit =>
    have sameDate := agree.date
      (Or.inr (Or.inr ⟨_, _, _, _, rfl, isGap, isNumber, isNextGap, isUnit⟩))
    simp only [daysByDate, sameDate]

/-- All resolvers agree on a text with a hyphen, such as a date. -/
theorem AgreeOn.of_hyphen {text : List Char} (hyphen : '-' ∈ text) :
    AgreeOn text resolver other := by
  have noKeyword : ∀ keyword ∈ ["today".toList, "yesterday".toList, "thisweek".toList,
      "lastweek".toList], '-' ∉ keyword := by decide
  refine ⟨?_, ?_, ?_⟩
  · rintro (isKeyword | ⟨_, isWeek⟩ | ⟨_, isLast⟩)
    · exact absurd hyphen (noKeyword text isKeyword)
    · exact absurd hyphen isWeek.spells.mark.1
    · exact absurd hyphen isLast.spells.mark.1
  · rintro (isKeyword | ⟨_, isWeek⟩ | ⟨_, _, isWeek⟩)
    · exact absurd hyphen (noKeyword text (List.mem_cons_of_mem _ (List.mem_cons_of_mem _ isKeyword)))
    · exact absurd hyphen isWeek.spells.mark.1
    · exact absurd hyphen isWeek.spells.mark.1
  · intro name names
    obtain ⟨_, spells⟩ := names.spells
    exact absurd hyphen spells.mark.1

/-! ### Answers on two clocks -/

/-- Resolvers that agree on a text answer it alike in each form, on their own clocks. -/
theorem AgreeOn.attempt_eq {text : List Char} (agree : AgreeOn text resolver other)
    (trimmed : IsTrimmed text) (form : Form) :
    other.attempt text form = (resolver.attempt text form).map
      (Option.map fun resolution => { resolution with offset := other.now.offset }) := by
  unfold attempt
  cases read : form.read? text with
  | none => rfl
  | some specification =>
    have spells := (Form.read?_eq_some_iff trimmed form).1 read
    dsimp only
    rw [agree.days_eq spells]
    cases other.days specification with
    | error error => rfl
    | ok found => cases found <;> rfl

theorem AgreeOn.firstAnswer_eq {text : List Char} (agree : AgreeOn text resolver other)
    (trimmed : IsTrimmed text) (forms : List Form) :
    other.firstAnswer text forms = (resolver.firstAnswer text forms).map
      (Option.map fun resolution => { resolution with offset := other.now.offset }) := by
  induction forms with
  | nil => rfl
  | cons form rest inductionHypothesis =>
    rw [firstAnswer, firstAnswer, agree.attempt_eq trimmed, inductionHypothesis]
    cases resolver.attempt text form with
    | error error => rfl
    | ok found => cases found <;> rfl

theorem AgreeOn.resolve?_eq {text : Option String}
    (agree : AgreeOn (Specification.normalize text) resolver other) :
    other.resolve? text = (resolver.resolve? text).map
      (Option.map fun resolution => { resolution with offset := other.now.offset }) :=
  agree.firstAnswer_eq (Specification.isTrimmed_normalize text) Form.all

theorem AgreeOn.resolve?_eq_of_offset {text : Option String}
    (agree : AgreeOn (Specification.normalize text) resolver other)
    (sameOffset : resolver.now.offset = other.now.offset) :
    resolver.resolve? text = other.resolve? text := by
  rw [agree.resolve?_eq]
  cases outcome : resolver.resolve? text with
  | error error => rfl
  | ok found =>
    cases found with
    | none => rfl
    | some resolution =>
      rw [← sameOffset, ← resolver.offset_of_answer outcome]
      rfl

/-- One period on two clocks: the clocks show the same bounds, and each bound has the offset of its own
clock. -/
structure ShownAlike (offset otherOffset : Option Offset) (period again : Period) : Prop where
  sameStart : again.start.clock = period.start.clock
  sameFinish : again.finish.clock = period.finish.clock
  offsets : period.start.offset = offset ∧ period.finish.offset = offset
  otherOffsets : again.start.offset = otherOffset ∧ again.finish.offset = otherOffset

theorem shownAlike_toPeriod (days : Days) (offset otherOffset : Option Offset) :
    ShownAlike offset otherOffset (days.toPeriod offset) (days.toPeriod otherOffset) :=
  ⟨rfl, rfl, ⟨rfl, rfl⟩, ⟨rfl, rfl⟩⟩

/-- Two answers in the same form, with one period on two clocks. -/
def AnsweredAlike (offset otherOffset : Option Offset) (resolution again : Resolution) : Prop :=
  again.form = resolution.form ∧
    ShownAlike offset otherOffset resolution.period again.period

/-- The outcomes of two resolvers correspond: both are nothing, both the same error, or both something,
and what they are is alike. -/
inductive Corresponds {Found : Type} (Alike : Found → Found → Prop) :
    Except CalendarError (Option Found) → Except CalendarError (Option Found) → Prop
  | nothing : Corresponds Alike (.ok none) (.ok none)
  | failure (error : CalendarError) : Corresponds Alike (.error error) (.error error)
  | found {first again : Found} (alike : Alike first again) :
      Corresponds Alike (.ok (some first)) (.ok (some again))

/-- The dates of a specification depend on the date of the reference moment alone. -/
theorem daysByDate_eq_of_date (firstDay : FirstDay) (lexicon : Lexicon) {now other : Moment}
    (sameDate : now.date = other.date) (specification : Specification) :
    daysByDate ⟨firstDay, lexicon, now⟩ specification =
      daysByDate ⟨firstDay, lexicon, other⟩ specification := by
  cases specification <;> simp only [daysByDate, sameDate]

/-- What is found from two moments of one date is alike. -/
theorem period?_corresponds (firstDay : FirstDay) (lexicon : Lexicon) {now other : Moment}
    (sameDate : now.date = other.date) (specification : Specification) :
    Corresponds (ShownAlike now.offset other.offset)
      (period? ⟨firstDay, lexicon, now⟩ specification)
      (period? ⟨firstDay, lexicon, other⟩ specification) := by
  rw [period?_eq_daysByDate, period?_eq_daysByDate,
    daysByDate_eq_of_date firstDay lexicon sameDate specification]
  cases daysByDate ⟨firstDay, lexicon, other⟩ specification with
  | error error => exact .failure error
  | ok found =>
    cases found with
    | none => exact .nothing
    | some days => exact .found (shownAlike_toPeriod days now.offset other.offset)

/-- The texts are answered alike from two moments of one date. -/
theorem resolve?_corresponds (firstDay : FirstDay) (lexicon : Lexicon) {now other : Moment}
    (sameDate : now.date = other.date) (text : Option String) :
    Corresponds (AnsweredAlike now.offset other.offset)
      (resolve? ⟨firstDay, lexicon, now⟩ text) (resolve? ⟨firstDay, lexicon, other⟩ text) := by
  let resolver : Resolver := ⟨firstDay, lexicon, now⟩
  let twin : Resolver := ⟨firstDay, lexicon, other⟩
  have agree : AgreeOn (Specification.normalize text) resolver twin :=
    ⟨fun _ => sameDate, fun _ => rfl, fun _ _ => rfl⟩
  change Corresponds _ (resolver.resolve? text) (twin.resolve? text)
  rw [agree.resolve?_eq]
  cases outcome : resolver.resolve? text with
  | error error => exact .failure error
  | ok found =>
    cases found with
    | none => exact .nothing
    | some resolution =>
      have onClock : resolution.offset = now.offset := resolver.offset_of_answer outcome
      have alike := shownAlike_toPeriod resolution.days now.offset other.offset
      rw [← onClock] at alike
      rw [← onClock]
      exact .found ⟨rfl, alike⟩

/-- Two resolvers whose reference moments have the same date have corresponding outcomes, whatever
the times of day and the offsets are. This holds of the texts, and of the periods that are found for
specifications by counting from the moments themselves; and the period of an answer is one of these.
Nor does the time of day or the offset move a bound on the way: whole days lead to the same date or
out of the calendar from both moments, and two dates bound a period on both clocks or on neither. -/
theorem outcomes_correspond (firstDay : FirstDay) (lexicon : Lexicon) (now other : Moment)
    (sameDate : now.date = other.date) :
    let resolver : Resolver := ⟨firstDay, lexicon, now⟩
    let twin : Resolver := ⟨firstDay, lexicon, other⟩
    (∀ text : Option String, Corresponds (AnsweredAlike now.offset other.offset)
      (resolver.resolve? text) (twin.resolve? text)) ∧
    (∀ specification : Specification, Corresponds (ShownAlike now.offset other.offset)
      (resolver.period? specification) (twin.period? specification)) ∧
    (∀ (text : Option String) (resolution : Resolution),
      resolver.resolve? text = .ok (some resolution) → ∃ specification,
        resolution.form.read? (Specification.normalize text) = some specification ∧
        resolver.period? specification = .ok (some resolution.period)) ∧
    (∀ days : Int, (now.shiftDays days).map Moment.date = (other.shiftDays days).map Moment.date) ∧
    ∀ first last : Date,
      (∃ period, Period.between (.atStart first now.offset) (.atEnd last now.offset) =
        .ok period) ↔
      ∃ period, Period.between (.atStart first other.offset) (.atEnd last other.offset) =
        .ok period := by
  refine ⟨resolve?_corresponds firstDay lexicon sameDate,
    period?_corresponds firstDay lexicon sameDate, ?_, ?_, ?_⟩
  · exact fun text resolution => period?_of_answer _
  · intro days
    rw [Moment.shiftDays_eq, Moment.shiftDays_eq, sameDate]
    cases other.date.shift days <;> rfl
  · intro first last
    rw [Period.exists_between_iff, Period.exists_between_iff]

/-- Last week, asked for in the first moment of a day and in the last one of the same day on a clock
that is fourteen hours ahead. -/
theorem last_week_on_two_clocks :
    let now := Moment.atStart ⟨738888, by decide, by decide⟩ none
    let late := Moment.atEnd ⟨738888, by decide, by decide⟩
      (some ⟨50400000000, by decide, by decide⟩)
    now.date = late.date ∧
      (∃ resolution again,
        Resolver.resolve? ⟨.monday, .standard, now⟩ (some "lastweek") = .ok (some resolution) ∧
        Resolver.resolve? ⟨.monday, .standard, late⟩ (some "lastweek") = .ok (some again) ∧
        Corresponds (AnsweredAlike now.offset late.offset) (.ok (some resolution))
          (.ok (some again)) ∧
        Resolver.period? ⟨.monday, .standard, now⟩ .lastWeek = .ok (some resolution.period)) ∧
      (now.shiftDays (-738888)).map Moment.date = (late.shiftDays (-738888)).map Moment.date := by
  let now := Moment.atStart ⟨738888, by decide, by decide⟩ none
  let late := Moment.atEnd ⟨738888, by decide, by decide⟩
    (some ⟨50400000000, by decide, by decide⟩)
  let week : Days := ⟨⟨738879, by decide, by decide⟩, ⟨738885, by decide, by decide⟩, by decide⟩
  have answers : Resolver.resolve? ⟨.monday, .standard, now⟩ (some "lastweek") =
      .ok (some ⟨.keyword, week, none⟩) := by decide +kernel
  have answersLate : Resolver.resolve? ⟨.monday, .standard, late⟩ (some "lastweek") =
      .ok (some ⟨.keyword, week, late.offset⟩) := by decide +kernel
  obtain ⟨corresponds, -, counted, steps, -⟩ :=
    outcomes_correspond .monday .standard now late rfl
  have both := corresponds (some "lastweek")
  obtain ⟨specification, isLastWeek, found⟩ := counted _ _ answers
  rw [answers, answersLate] at both
  have same : Specification.lastWeek = specification := Option.some.inj isLastWeek
  rw [← same] at found
  exact ⟨rfl, ⟨_, _, answers, answersLate, both, found⟩, steps (-738888)⟩

/-! ### Weeks of this year -/

section Weeks

variable {text : List Char} (trimmed : IsTrimmed text) {number year : List Char}
include trimmed

/-- A week without its year is nothing else, unless a month is named `week` and the number is one
that a year can have. -/
theorem attempt_of_isWeek (isWeek : IsWeek text number)
    (unnamed : number.length = 4 → resolver.lexicon.lookup? "week" = none) (form : Form)
    (different : form ≠ .weekNumber) : resolver.attempt text form = .ok none := by
  have spells := isWeek.spells
  refine (attempt_eq_none_iff resolver trimmed form).2 fun _ spellsOther => ?_
  rcases spellsOther.form_eq spells with same | ⟨rfl, -⟩ | ⟨-, isMonth⟩
  · exact absurd same different
  · obtain ⟨value, weekYear⟩ := spellsOther.isWeekYear spells
    rw [weekYear.spells_month.unique trimmed spellsOther]
    obtain ⟨gap, isText, isGap, isNumber⟩ := isWeek
    obtain ⟨otherGap, digits, isOtherText, isOtherGap, isYear, -⟩ := weekYear
    have sameWords := (words_pair Form.isWord_week isGap (isNumber.isWord (by decide))).symm.trans
      ((congrArg words (isText.symm.trans isOtherText)).trans
        (words_pair Form.isWord_week isOtherGap (isYear.isWord (by decide))))
    have sameNumber : number = digits := by simpa using sameWords
    have four : number.length = 4 :=
      sameNumber ▸ Nat.le_antisymm isYear.le_most isYear.least_le
    simp only [days_eq_daysByDate, daysByDate, unnamed four]
  · cases isMonth

/-- A week with its year is nothing else. -/
theorem attempt_of_isWeekOfYear (isWeek : IsWeekOfYear text number year) (form : Form)
    (different : form ≠ .weekNumber) : resolver.attempt text form = .ok none := by
  obtain ⟨gap, nextGap, rfl, isGap, isNumber, isNextGap, isYear⟩ := isWeek
  have spells := Form.Spells.weekOfYear isGap isNumber isNextGap isYear
  refine (attempt_eq_none_iff resolver trimmed form).2 fun _ spellsOther => ?_
  rcases spellsOther.form_eq spells with same | ⟨rfl, -⟩ | ⟨-, isMonth⟩
  · exact absurd same different
  · -- a month has two words, and these are three
    obtain ⟨-, two⟩ := spellsOther.mark
    rw [words_triple Form.isWord_week isGap (isNumber.isWord (by decide)) isNextGap
      (isYear.isWord (by decide))] at two
    cases two
  · cases isMonth

end Weeks

/-- A week without its year is the week with that number of the current year. -/
theorem resolve?_of_isWeek {text dated : Option String} {number : List Char}
    (isWeek : IsWeek (Specification.normalize text) number)
    (isDated : IsWeekOfYear (Specification.normalize dated) number
      (padded 4 resolver.now.date.yearNumber))
    (unnamed : number.length = 4 → resolver.lexicon.lookup? "week" = none) :
    resolver.resolve? text = resolver.resolve? dated := by
  have trimmed := Specification.isTrimmed_normalize text
  have trimmedDated := Specification.isTrimmed_normalize dated
  rw [resolve?_eq_attempt resolver (attempt_of_isWeek trimmed isWeek unnamed),
    resolve?_eq_attempt resolver (attempt_of_isWeekOfYear trimmedDated isDated)]
  have small : resolver.now.date.yearNumber < Nat.pow 10 4 :=
    resolver.now.date.yearNumber_le_last.trans_lt (by decide)
  have reads := (Form.read?_eq_some_iff trimmed _).2 isWeek.spells
  have readsDated := (Form.read?_eq_some_iff trimmedDated _).2 isDated.spells
  unfold attempt
  rw [reads, readsDated, valueOf_padded_of_lt small]
  rfl

/-- Resolvers on clocks of one offset have the same outcome for every text on which they agree. They
only need to agree on the date for the keywords, weeks without a year and last days, on the first
weekday for weeks, and on the month of a name for that name before or behind a year. A week without
a year has the outcome of the same week of the current year, unless it is read as a month. -/
theorem outcome_depends_on_agreement :
    (∀ (resolver other : Resolver) (text : Option String),
      resolver.now.offset = other.now.offset →
      AgreeOn (Specification.normalize text) resolver other →
      resolver.resolve? text = other.resolve? text) ∧
    ∀ (resolver : Resolver) (text dated : Option String) (number : List Char),
      IsWeek (Specification.normalize text) number →
      IsWeekOfYear (Specification.normalize dated) number
        (padded 4 resolver.now.date.yearNumber) →
      (number.length = 4 → resolver.lexicon.lookup? "week" = none) →
      resolver.resolve? text = resolver.resolve? dated := by
  refine ⟨?_, fun resolver text dated number => resolve?_of_isWeek⟩
  intro resolver other text sameOffset agree
  exact agree.resolve?_eq_of_offset sameOffset

/-- The answer to a date is the same whatever the date of today, the first weekday and the month
names are. Week 32 is that of the current year, unless it has four digits and a month is named
`week`. -/
theorem week_32_is_of_this_year :
    let resolver : Resolver := ⟨.monday, .standard, .atStart ⟨738888, by decide, by decide⟩ none⟩
    let other : Resolver := ⟨.sunday, .ofVocabularies [], .atEnd ⟨1, by decide, by decide⟩ none⟩
    (resolver.now.offset = other.now.offset ∧
      AgreeOn (Specification.normalize (some "2024-02-29")) resolver other ∧
      resolver.resolve? (some "2024-02-29") = other.resolve? (some "2024-02-29")) ∧
    IsWeek (Specification.normalize (some "week 32")) "32".toList ∧
      IsWeekOfYear (Specification.normalize (some "Week 32 2024")) "32".toList
        (padded 4 resolver.now.date.yearNumber) ∧
      resolver.resolve? (some "week 32") = resolver.resolve? (some "Week 32 2024") := by
  let resolver : Resolver := ⟨.monday, .standard, .atStart ⟨738888, by decide, by decide⟩ none⟩
  let other : Resolver := ⟨.sunday, .ofVocabularies [], .atEnd ⟨1, by decide, by decide⟩ none⟩
  have agree : AgreeOn (Specification.normalize (some "2024-02-29")) resolver other :=
    .of_hyphen (by decide)
  have isGap : IsGap " ".toList := ⟨by decide, List.forall_mem_singleton.2 rfl⟩
  have isNumber : IsNumeral 1 9 "32".toList := ⟨List.all_eq_true.1 rfl, by decide, by decide⟩
  have isWeek : IsWeek (Specification.normalize (some "week 32")) "32".toList :=
    ⟨" ".toList, rfl, isGap, isNumber⟩
  have isDated : IsWeekOfYear (Specification.normalize (some "Week 32 2024")) "32".toList
      (padded 4 resolver.now.date.yearNumber) :=
    ⟨" ".toList, " ".toList, by decide +kernel, isGap, isNumber, isGap, isNumeral_padded 4 _⟩
  exact ⟨⟨rfl, agree, outcome_depends_on_agreement.1 resolver other _ rfl agree⟩, isWeek, isDated,
    outcome_depends_on_agreement.2 resolver _ _ _ isWeek isDated (fun four => absurd four (by decide))⟩

end Resolver

end Almanac
