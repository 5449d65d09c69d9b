/-
This file proves which texts the resolver answers. The forms are tried in order, and
a form is passed over as long as what the text spells in it has no answer; so a text
is answered by the first form in which it spells something answerable. As two forms
rarely spell alike, the order matters only for numbered weeks behind months.
-/

import Almanac.Proofs.Answerable
import Almanac.Proofs.Forms

namespace Almanac

open Text

namespace Resolver

variable (resolver : Resolver)

/-! ### One form -/

section Attempts

variable {text : List Char} (trimmed : IsTrimmed text) (form : Form)
include trimmed

theorem attempt_eq_some_iff (resolution : Resolution) :
    resolver.attempt text form = .ok (some resolution) ↔
      ∃ specification days, form.Spells text specification ∧
        resolver.days specification = .ok (some days) ∧
        resolution = ⟨form, days, resolver.now.offset⟩ := by
  simp only [← Form.read?_eq_some_iff trimmed, attempt]
  cases form.read? text with
  | none => simp
  | some specification =>
    simp only [Option.some_inj, exists_and_left, exists_eq_left']
    cases resolver.days specification with
    | error error => simp [bind, Except.bind]
    | ok found => cases found <;> simp [bind, Except.bind, pure, Except.pure, eq_comm]

theorem attempt_eq_error_iff (error : CalendarError) :
    resolver.attempt text form = .error error ↔
      ∃ specification, form.Spells text specification ∧
        resolver.days specification = .error error := by
  simp only [← Form.read?_eq_some_iff trimmed, attempt]
  cases form.read? text with
  | none => simp
  | some specification =>
    simp only [Option.some_inj, exists_eq_left']
    cases resolver.days specification with
    | error error => simp [bind, Except.bind]
    | ok found => simp [bind, Except.bind, pure, Except.pure]

theorem attempt_eq_none_iff :
    resolver.attempt text form = .ok none ↔
      ∀ specification, form.Spells text specification → resolver.days specification = .ok none := by
  simp only [← Form.read?_eq_some_iff trimmed, attempt]
  cases form.read? text with
  | none => simp
  | some specification =>
    simp only [Option.some_inj, forall_eq']
    cases resolver.days specification with
    | error error => simp [bind, Except.bind]
    | ok found => cases found <;> simp [bind, Except.bind, pure, Except.pure]

end Attempts

/-! ### All forms in order -/

/-- A form that has no answer leaves the text to the forms behind it. -/
theorem firstAnswer_cons_of_none {text : List Char} {form : Form} (rest : List Form)
    (passed : resolver.attempt text form = .ok none) :
    resolver.firstAnswer text (form :: rest) = resolver.firstAnswer text rest := by
  rw [firstAnswer, passed]
  rfl

theorem firstAnswer_cons_of_settled {text : List Char} {form : Form} (rest : List Form)
    (settled : resolver.attempt text form ≠ .ok none) :
    resolver.firstAnswer text (form :: rest) = resolver.attempt text form := by
  rw [firstAnswer]
  cases outcome : resolver.attempt text form with
  | error error => rfl
  | ok found =>
    cases found with
    | none => exact absurd outcome settled
    | some resolution => rfl

/-- An answer or an error is that of a form behind forms without one. -/
theorem firstAnswer_eq_iff {text : List Char} {forms : List Form} (distinct : forms.Nodup)
    {outcome : Except CalendarError (Option Resolution)} (settled : outcome ≠ .ok none) :
    resolver.firstAnswer text forms = outcome ↔ ∃ form ∈ forms,
      resolver.attempt text form = outcome ∧
        ∀ earlier, List.Sublist [earlier, form] forms →
          resolver.attempt text earlier = .ok none := by
  induction forms with
  | nil => simpa [firstAnswer] using settled.symm
  | cons head rest inductionHypothesis =>
    obtain ⟨fresh, distinctRest⟩ := List.nodup_cons.1 distinct
    by_cases passed : resolver.attempt text head = .ok none
    · rw [firstAnswer_cons_of_none resolver rest passed, inductionHypothesis distinctRest]
      constructor
      · rintro ⟨form, member, answers, before⟩
        refine ⟨form, List.mem_cons_of_mem _ member, answers, fun earlier order => ?_⟩
        cases order with
        | cons _ order => exact before earlier order
        | cons_cons _ order => exact passed
      · rintro ⟨form, member, answers, before⟩
        rcases List.mem_cons.1 member with rfl | member
        · exact absurd (answers.symm.trans passed) settled
        · exact ⟨form, member, answers, fun earlier order => before earlier (order.cons _)⟩
    · rw [firstAnswer_cons_of_settled resolver rest passed]
      constructor
      · intro answers
        refine ⟨head, List.mem_cons_self, answers, fun earlier order => ?_⟩
        -- nothing comes before the head
        cases order with
        | cons _ order => exact absurd (order.subset (by simp)) fresh
        | cons_cons _ order => exact absurd (List.singleton_sublist.1 order) fresh
      · rintro ⟨form, member, answers, before⟩
        rcases List.mem_cons.1 member with rfl | member
        · exact answers
        · exact absurd (before head ((List.singleton_sublist.2 member).cons_cons _)) passed

/-! ### The texts that are answered -/

/-- The text spells something in a form that has an answer. -/
def Offers (form : Form) (text : List Char) : Prop :=
  ∃ specification, form.Spells text specification ∧ resolver.Answerable specification

/-- The texts that are answered in a form: they spell something answerable in it, and a numbered
week is not a month before that. -/
def Accepts (form : Form) (text : List Char) : Prop :=
  resolver.Offers form text ∧ (form = .weekNumber → ¬resolver.Offers .monthYear text)

theorem exists_attempt_iff {text : List Char} (trimmed : IsTrimmed text) (form : Form) :
    (∃ resolution, resolver.attempt text form = .ok (some resolution)) ↔
      resolver.Offers form text := by
  simp only [attempt_eq_some_iff resolver trimmed, Offers, ← exists_days_iff]
  constructor
  · rintro ⟨_, specification, days, spells, given, -⟩
    exact ⟨specification, spells, days, given⟩
  · rintro ⟨specification, spells, days, given⟩
    exact ⟨_, specification, days, spells, given, rfl⟩

/-- An answer is that of the form that it names. -/
theorem form_of_attempt {text : List Char} (trimmed : IsTrimmed text) {form : Form}
    {resolution : Resolution} (answers : resolver.attempt text form = .ok (some resolution)) :
    resolution.form = form := by
  obtain ⟨_, _, _, _, rfl⟩ := (attempt_eq_some_iff resolver trimmed form resolution).1 answers
  rfl

/-- An answer of the resolver is that of the form that it names. -/
theorem attempt_of_answer {text : Option String} {resolution : Resolution}
    (answers : resolver.resolve? text = .ok (some resolution)) :
    resolver.attempt (Specification.normalize text) resolution.form = .ok (some resolution) := by
  have trimmed := Specification.isTrimmed_normalize text
  have distinct : Form.all.Nodup := by decide
  obtain ⟨form, -, attempted, -⟩ :=
    (firstAnswer_eq_iff resolver distinct (by simp)).1 answers
  rw [form_of_attempt resolver trimmed attempted]
  exact attempted

/-- Every answer is on the clock of the resolver. -/
theorem offset_of_answer {text : Option String} {resolution : Resolution}
    (answers : resolver.resolve? text = .ok (some resolution)) :
    resolution.offset = resolver.now.offset := by
  have trimmed := Specification.isTrimmed_normalize text
  obtain ⟨_, _, -, -, same⟩ :=
    (attempt_eq_some_iff resolver trimmed _ _).1 (attempt_of_answer resolver answers)
  rw [same]

/-- The period of an answer is the one that is found for what the text spells in its form. -/
theorem period?_of_answer {text : Option String} {resolution : Resolution}
    (answers : resolver.resolve? text = .ok (some resolution)) :
    ∃ specification, resolution.form.read? (Specification.normalize text) = some specification ∧
      resolver.period? specification = .ok (some resolution.period) := by
  have trimmed := Specification.isTrimmed_normalize text
  obtain ⟨specification, days, spells, given, same⟩ :=
    (attempt_eq_some_iff resolver trimmed _ _).1 (attempt_of_answer resolver answers)
  refine ⟨specification, (Form.read?_eq_some_iff trimmed _).2 spells, ?_⟩
  rw [period?_eq, given, same]
  rfl

/-- A text that all forms but one pass over has the outcome of that form. -/
theorem resolve?_eq_attempt {text : Option String} {form : Form}
    (alone : ∀ other, other ≠ form →
      resolver.attempt (Specification.normalize text) other = .ok none) :
    resolver.resolve? text = resolver.attempt (Specification.normalize text) form := by
  have distinct : Form.all.Nodup := by decide
  by_cases passed : resolver.attempt (Specification.normalize text) form = .ok none
  · rw [passed]
    by_contra settled
    obtain ⟨other, -, attempted, -⟩ := (firstAnswer_eq_iff resolver distinct settled).1 rfl
    refine settled (attempted.symm.trans ?_)
    by_cases same : other = form
    · rw [same, passed]
    · exact alone other same
  · refine (firstAnswer_eq_iff resolver distinct passed).2
      ⟨form, by cases form <;> decide, rfl, fun earlier order => alone earlier ?_⟩
    rintro rfl
    exact absurd order (by cases earlier <;> decide)

/-- A form is passed over by a text that spells nothing in it. -/
theorem attempt_eq_none_of_accepts {text : List Char} (trimmed : IsTrimmed text)
    {form earlier : Form} (accepts : resolver.Accepts form text)
    (order : List.Sublist [earlier, form] Form.all) : resolver.attempt text earlier = .ok none := by
  obtain ⟨⟨specification, spells, -⟩, noMonth⟩ := accepts
  refine (attempt_eq_none_iff resolver trimmed earlier).2 fun other spellsOther => ?_
  rcases spellsOther.form_eq spells with rfl | ⟨rfl, rfl⟩ | ⟨rfl, rfl⟩
  · exact absurd order (by cases earlier <;> decide)
  · refine days_eq_none_of_not_answerable resolver (fun answerable => ?_) ?_
    · exact noMonth rfl ⟨other, spellsOther, answerable⟩
    · cases spellsOther <;> exact id
  · exact absurd order (by decide)

/-- What a text spells is its answer if it has dates; only a numbered week can be a month before
that. -/
theorem resolve?_of_spells {text : Option String} {form : Form} {specification : Specification}
    {days : Days} (spells : form.Spells (Specification.normalize text) specification)
    (given : resolver.days specification = .ok (some days)) (notWeek : form ≠ .weekNumber) :
    resolver.resolve? text = .ok (some ⟨form, days, resolver.now.offset⟩) := by
  have trimmed := Specification.isTrimmed_normalize text
  have answerable := (resolver.exists_days_iff specification).1 ⟨days, given⟩
  have accepts : resolver.Accepts form (Specification.normalize text) :=
    ⟨⟨specification, spells, answerable⟩, fun isWeek => absurd isWeek notWeek⟩
  have distinct : Form.all.Nodup := by decide
  refine (firstAnswer_eq_iff resolver distinct (by simp)).2 ⟨form, ?_, ?_, ?_⟩
  · cases form <;> decide
  · exact (attempt_eq_some_iff resolver trimmed form _).2 ⟨_, _, spells, given, rfl⟩
  · exact fun earlier order => attempt_eq_none_of_accepts resolver trimmed accepts order

/-- What a text spells in a form other than months and numbered weeks decides its answer: no other
form is spelled like that. -/
theorem resolve?_eq_some_iff_of_spells {text : Option String} {form : Form}
    {specification : Specification} (spells : form.Spells (Specification.normalize text) specification)
    (notMonth : form ≠ .monthYear) (notWeek : form ≠ .weekNumber) (resolution : Resolution) :
    resolver.resolve? text = .ok (some resolution) ↔
      ∃ days, resolver.days specification = .ok (some days) ∧
        resolution = ⟨form, days, resolver.now.offset⟩ := by
  have trimmed := Specification.isTrimmed_normalize text
  have alone : ∀ other, other ≠ form →
      resolver.attempt (Specification.normalize text) other = .ok none := by
    intro other different
    refine (attempt_eq_none_iff resolver trimmed other).2 fun _ spellsOther => ?_
    rcases spells.form_eq spellsOther with same | ⟨isMonth, -⟩ | ⟨isWeek, -⟩
    · exact absurd same.symm different
    · exact absurd isMonth notMonth
    · exact absurd isWeek notWeek
  rw [resolve?_eq_attempt resolver alone, attempt_eq_some_iff resolver trimmed]
  constructor
  · rintro ⟨other, days, spellsOther, given, same⟩
    rw [spells.unique trimmed spellsOther] at given
    exact ⟨days, given, same⟩
  · rintro ⟨days, given, same⟩
    exact ⟨specification, days, spells, given, same⟩

/-- A text is answered in a form exactly if it is accepted in it. -/
theorem answered_iff_accepts (text : Option String) (form : Form) :
    (∃ resolution, resolver.resolve? text = .ok (some resolution) ∧ resolution.form = form) ↔
      resolver.Accepts form (Specification.normalize text) := by
  have trimmed := Specification.isTrimmed_normalize text
  have distinct : Form.all.Nodup := by decide
  have settled (resolution : Resolution) :
      (.ok (some resolution) : Except CalendarError (Option Resolution)) ≠ .ok none := by simp
  simp only [resolve?, firstAnswer_eq_iff resolver distinct (settled _)]
  constructor
  · rintro ⟨resolution, ⟨found, -, answers, before⟩, rfl⟩
    obtain rfl := form_of_attempt resolver trimmed answers
    have offers := (exists_attempt_iff resolver trimmed _).1 ⟨resolution, answers⟩
    refine ⟨offers, fun isWeek isMonth => ?_⟩
    obtain ⟨other, answersMonth⟩ := (exists_attempt_iff resolver trimmed .monthYear).2 isMonth
    have passed := before .monthYear (by rw [isWeek]; decide)
    exact settled other (answersMonth.symm.trans passed)
  · intro accepts
    obtain ⟨resolution, answers⟩ := (exists_attempt_iff resolver trimmed form).2 accepts.1
    refine ⟨resolution, ⟨form, ?_, answers, fun earlier order => ?_⟩, ?_⟩
    · cases form <;> decide
    · exact attempt_eq_none_of_accepts resolver trimmed accepts order
    · exact form_of_attempt resolver trimmed answers

end Resolver

end Almanac
