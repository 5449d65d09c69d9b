/-
This file proves that every date is written in one way. Digits of a fixed number give back
the text from which their value was read, so a text that is read as a date is the one that
the date is written as. What is read can also be said without dates: four digits, two and
two with hyphens between them, whose values are those of a day that the calendar has.
-/

import Mathlib.Data.List.Induction
import Almanac.Proofs.WrittenDates

namespace Almanac

open Text

/-! ### Digits and their values -/

namespace Text

theorem digit_facts_of_isDigit {character : Char} (isDigit : isDigit character = true) :
    digitValue character < 10 ∧ digit (digitValue character) = character := by
  have bounds := (isDigit_iff character).1 isDigit
  unfold digitValue digit
  refine ⟨by omega, ?_⟩
  rw [Nat.add_sub_cancel' bounds.1, Char.ofNat_toNat]

theorem valueOf_append_singleton (front : List Char) (last : Char) :
    valueOf (front ++ [last]) = 10 * valueOf front + digitValue last := by
  rw [valueOf, List.foldl_append]
  rfl

/-- Digits are written again as they were, if as many are written. -/
theorem padded_valueOf {digits : List Char}
    (areDigits : ∀ character ∈ digits, isDigit character = true) :
    padded digits.length (valueOf digits) = digits := by
  induction digits using List.reverseRecOn with
  | nil => rfl
  | append_singleton front last inductionHypothesis =>
    obtain ⟨small, same⟩ := digit_facts_of_isDigit (areDigits last (by simp))
    have restored := inductionHypothesis fun character member =>
      areDigits character (List.mem_append_left _ member)
    have quotient : (10 * valueOf front + digitValue last) / 10 = valueOf front := by omega
    have remainder : (10 * valueOf front + digitValue last) % 10 = digitValue last := by omega
    rw [valueOf_append_singleton, List.length_append, List.length_singleton, padded, quotient,
      remainder, restored, same]

end Text

theorem IsNumeral.padded_valueOf {width : Nat} {digits : List Char}
    (numeral : IsNumeral width width digits) : padded width (valueOf digits) = digits := by
  have length : digits.length = width := Nat.le_antisymm numeral.le_most numeral.least_le
  rw [← length]
  exact Text.padded_valueOf numeral.digits

/-! ### Texts of dates -/

/-- What a date is read from is what it is written as. -/
theorem IsIsoDate.toIso_eq {text : List Char} {date : Date} (isDate : IsIsoDate text date) :
    date.toIso = text := by
  obtain ⟨year, month, day, rfl, isYear, isMonth, isDay, sameYear, sameMonth, sameDay⟩ := isDate
  rw [Date.toIso, sameYear, sameMonth, sameDay, isYear.padded_valueOf, isMonth.padded_valueOf,
    isDay.padded_valueOf, List.append_assoc, List.cons_append]

theorem Date.ofIso?_eq_some_iff_toIso (text : List Char) (date : Date) :
    Date.ofIso? text = some date ↔ date.toIso = text := by
  rw [ofIso?_eq_some_iff]
  constructor
  · exact IsIsoDate.toIso_eq
  · rintro rfl
    exact date.isIsoDate_toIso

/-- The calendar has a day with this number in the month with this number of a year. -/
def IsCalendarDay (year month day : Nat) : Prop :=
  (1 ≤ year ∧ year ≤ lastYear) ∧
    ∃ found : Month, found.number = month ∧ 1 ≤ day ∧ day ≤ found.length (isLeapYear year)

/-- Four ASCII digits, two and two with hyphens between them, the values of which are those of a day
of the calendar. -/
def IsDateText (text : List Char) : Prop :=
  ∃ year month day : List Char, text = year ++ '-' :: (month ++ '-' :: day) ∧
    IsNumeral 4 4 year ∧ IsNumeral 2 2 month ∧ IsNumeral 2 2 day ∧
    IsCalendarDay (valueOf year) (valueOf month) (valueOf day)

theorem exists_isIsoDate_iff (text : List Char) :
    (∃ date, IsIsoDate text date) ↔ IsDateText text := by
  constructor
  · rintro ⟨date, year, month, day, isText, isYear, isMonth, isDay, fields⟩
    exact ⟨year, month, day, isText, isYear, isMonth, isDay,
      (Date.exists_fields_iff _ _ _).1 ⟨date, fields⟩⟩
  · rintro ⟨year, month, day, isText, isYear, isMonth, isDay, isCalendarDay⟩
    obtain ⟨date, fields⟩ := (Date.exists_fields_iff _ _ _).2 isCalendarDay
    exact ⟨date, year, month, day, isText, isYear, isMonth, isDay, fields⟩

theorem Date.ofIso?_eq_none_iff (text : List Char) :
    Date.ofIso? text = none ↔ ¬IsDateText text := by
  simp only [Option.eq_none_iff_forall_ne_some, Ne, ofIso?_eq_some_iff, ← exists_isIsoDate_iff,
    not_exists]

theorem isCalendarDay_leapDay_iff (year : Nat) :
    IsCalendarDay year 2 29 ↔ (1 ≤ year ∧ year ≤ lastYear) ∧ isLeapYear year = true := by
  refine and_congr_right fun _ => ?_
  constructor
  · rintro ⟨found, isFebruary, -, lasts⟩
    obtain rfl : found = .february := Date.number_injective isFebruary
    revert lasts
    cases isLeapYear year <;> decide
  · intro isLeap
    refine ⟨.february, rfl, by decide, ?_⟩
    rw [isLeap]
    decide

/-! ### One text for each date -/

/-- A text is read as a date exactly if the date is written like that, so each date is read from one
text. Any other text is refused: one that is not four digits, two and two with hyphens between them,
in particular one of another length or with any other character, and one of which the values are not
those of a day of the calendar, such as those of February 29 in a common year. -/
theorem dates_have_one_text :
    (∀ (text : List Char) (date : Date), Date.ofIso? text = some date ↔ date.toIso = text) ∧
    (∀ text : List Char, Date.ofIso? text = none ↔ ¬IsDateText text) ∧
    (∀ text : List Char, text.length ≠ 10 ∨
        (∃ character ∈ text, isDigit character = false ∧ character ≠ '-') →
      Date.ofIso? text = none) ∧
    ∀ year : Nat, IsCalendarDay year 2 29 ↔
      (1 ≤ year ∧ year ≤ lastYear) ∧ isLeapYear year = true := by
  refine ⟨Date.ofIso?_eq_some_iff_toIso, Date.ofIso?_eq_none_iff, fun text odd => ?_,
    isCalendarDay_leapDay_iff⟩
  refine Option.eq_none_iff_forall_ne_some.2 fun date read => ?_
  have isDate := (Date.ofIso?_eq_some_iff text date).1 read
  rcases odd with length | ⟨character, member, noDigit, noHyphen⟩
  · exact length isDate.length
  · rcases isDate.digit_or_hyphen character member with digit | hyphen
    · rw [digit] at noDigit
      cases noDigit
    · exact noHyphen hyphen

/-- February 29, 2024 is written in one way: neither a blank in front of it nor a digit of another
script is accepted, and 2023 has no such day. -/
theorem leapDay_of_2024_has_one_text :
    let leapDay : Date := ⟨738945, by decide, by decide⟩
    Date.ofIso? "2024-02-29".toList = some leapDay ∧ leapDay.toIso = "2024-02-29".toList ∧
      " 2024-02-29".toList.length ≠ 10 ∧ Date.ofIso? " 2024-02-29".toList = none ∧
      isDigit '４' = false ∧ Date.ofIso? "202４-02-29".toList = none ∧
      ¬IsDateText "2023-02-29".toList := by
  let leapDay : Date := ⟨738945, by decide, by decide⟩
  obtain ⟨isRead, isRefused, isOdd, -⟩ := dates_have_one_text
  have written : leapDay.toIso = "2024-02-29".toList := by decide +kernel
  have long : " 2024-02-29".toList.length ≠ 10 := by decide
  have noDigit : isDigit '４' = false := by decide
  exact ⟨(isRead _ leapDay).2 written, written, long, isOdd _ (Or.inl long), noDigit,
    isOdd _ (Or.inr ⟨'４', by decide, noDigit, by decide⟩), (isRefused _).1 (by decide +kernel)⟩

end Almanac
