/-
This file says how time specifications are spelled, one rule for each way of writing
one, and proves that the readers of the forms read exactly these spellings. A text
has at most one form, save that a month name `week` before a year is spelled like a
week with a number of four digits.
-/

import Almanac.Proofs.Characters
import Almanac.Proofs.Dates
import Almanac.Specification.Form

namespace Almanac

open Text

/-! ### Numerals, names and dates -/

/-- ASCII digits, as many as two bounds allow. -/
structure IsNumeral (least most : Nat) (text : List Char) : Prop where
  digits : ∀ character ∈ text, isDigit character = true
  least_le : least ≤ text.length
  le_most : text.length ≤ most

/-- Letters, and at least one. -/
structure IsName (text : List Char) : Prop where
  nonempty : text ≠ []
  letters : ∀ character ∈ text, isLetter character = true

/-- Four digits for the year, two for the month and two for the day of a date, with hyphens between
them. -/
def IsIsoDate (text : List Char) (date : Date) : Prop :=
  ∃ year month day : List Char, text = year ++ '-' :: (month ++ '-' :: day) ∧
    IsNumeral 4 4 year ∧ IsNumeral 2 2 month ∧ IsNumeral 2 2 day ∧
    date.yearNumber = valueOf year ∧ date.month.number = valueOf month ∧ date.day = valueOf day

theorem IsNumeral.isWord {least most : Nat} {text : List Char} (numeral : IsNumeral least most text)
    (positive : 1 ≤ least) : IsWord text := by
  refine ⟨?_, fun character member => isBlank_of_isDigit (numeral.digits character member)⟩
  rintro rfl
  exact absurd (positive.trans numeral.least_le) (by decide)

theorem IsName.isWord {text : List Char} (name : IsName text) : IsWord text :=
  ⟨name.nonempty, fun character member => isBlank_of_isLetter (name.letters character member)⟩

/-- No text is a name and a numeral as well. -/
theorem IsName.not_isNumeral {least most : Nat} {text : List Char} (name : IsName text) :
    ¬IsNumeral least most text := by
  intro numeral
  have first := List.head_mem name.nonempty
  have noLetter := isLetter_of_isDigit (numeral.digits _ first)
  rw [name.letters _ first] at noLetter
  cases noLetter

/-! ### Hyphens and points -/

theorem IsNumeral.hyphen_not_mem {least most : Nat} {text : List Char}
    (numeral : IsNumeral least most text) : '-' ∉ text := by
  intro member
  have digit := numeral.digits _ member
  revert digit
  decide

theorem IsName.hyphen_not_mem {text : List Char} (name : IsName text) : '-' ∉ text := by
  intro member
  have letter := name.letters _ member
  rw [isLetter_eq_false (by decide) (by decide)] at letter
  cases letter

theorem Text.IsGap.hyphen_not_mem {text : List Char} (isGap : IsGap text) : '-' ∉ text := by
  intro member
  have blank := isGap.2 _ member
  revert blank
  decide

namespace Form

theorem digits?_eq_some_iff (least most : Nat) (word : List Char) (value : Nat) :
    digits? least most word = some value ↔ IsNumeral least most word ∧ valueOf word = value := by
  rw [digits?, Option.ite_none_right_eq_some, Option.some_inj, List.all_eq_true]
  refine and_congr_left' ⟨?_, ?_⟩
  · rintro ⟨digits, least_le, le_most⟩
    exact ⟨digits, least_le, le_most⟩
  · rintro ⟨digits, least_le, le_most⟩
    exact ⟨digits, least_le, le_most⟩

theorem name?_eq_some_iff (word : List Char) (name : String) :
    name? word = some name ↔ IsName word ∧ String.ofList word = name := by
  rw [name?, Option.ite_none_right_eq_some, Option.some_inj, List.all_eq_true]
  refine and_congr_left' ⟨?_, ?_⟩
  · rintro ⟨nonempty, letters⟩
    exact ⟨nonempty, letters⟩
  · rintro ⟨nonempty, letters⟩
    exact ⟨nonempty, letters⟩

theorem year?_of_isNumeral {word : List Char} (numeral : IsNumeral 4 4 word) :
    year? word = some (valueOf word) :=
  (digits?_eq_some_iff 4 4 word _).2 ⟨numeral, rfl⟩

theorem count?_of_isNumeral {word : List Char} (numeral : IsNumeral 1 9 word) :
    count? word = some (valueOf word) :=
  (digits?_eq_some_iff 1 9 word _).2 ⟨numeral, rfl⟩

theorem name?_of_isName {word : List Char} (name : IsName word) :
    name? word = some (String.ofList word) :=
  (name?_eq_some_iff word _).2 ⟨name, rfl⟩

theorem name?_eq_none {least most : Nat} {word : List Char} (numeral : IsNumeral least most word) :
    name? word = none := by
  cases read : name? word with
  | none => rfl
  | some name => exact absurd numeral ((name?_eq_some_iff word name).1 read).1.not_isNumeral

end Form

theorem number?_eq_some_iff (text : List Char) (value : Nat) :
    number? text = some value ↔
      (text ≠ [] ∧ ∀ character ∈ text, isDigit character = true) ∧ valueOf text = value := by
  rw [number?, Option.ite_none_right_eq_some, Option.some_inj, List.all_eq_true]

theorem number?_of_isNumeral {least most : Nat} {text : List Char}
    (numeral : IsNumeral least most text) (positive : 1 ≤ least) :
    number? text = some (valueOf text) :=
  (number?_eq_some_iff text _).2 ⟨⟨(numeral.isWord positive).1, numeral.digits⟩, rfl⟩

/-- The reader of dates accepts the dates that are written out in full. -/
theorem Date.ofIso?_eq_some_iff (text : List Char) (date : Date) :
    Date.ofIso? text = some date ↔ IsIsoDate text date := by
  constructor
  · intro read
    unfold ofIso? at read
    split at read
    case h_2 => cases read
    simp only [Option.bind_eq_bind, Option.bind_eq_some_iff, number?_eq_some_iff] at read
    obtain ⟨_, ⟨⟨-, yearDigits⟩, rfl⟩, _, ⟨⟨-, monthDigits⟩, rfl⟩, _, ⟨⟨-, dayDigits⟩, rfl⟩,
      found⟩ := read
    obtain ⟨sameYear, sameMonth, sameDay⟩ := (ofNumbers?_eq_some_iff _ _ _ _).1 found
    exact ⟨_, _, _, rfl, ⟨yearDigits, Nat.le_refl 4, Nat.le_refl 4⟩,
      ⟨monthDigits, Nat.le_refl 2, Nat.le_refl 2⟩, ⟨dayDigits, Nat.le_refl 2, Nat.le_refl 2⟩,
      sameYear, sameMonth, sameDay⟩
  · rintro ⟨year, month, day, rfl, isYear, isMonth, isDay, sameYear, sameMonth, sameDay⟩
    have found := (ofNumbers?_eq_some_iff _ _ _ _).2 ⟨sameYear, sameMonth, sameDay⟩
    have readYear := number?_of_isNumeral isYear (by decide)
    have readMonth := number?_of_isNumeral isMonth (by decide)
    have readDay := number?_of_isNumeral isDay (by decide)
    obtain ⟨y₁, y₂, y₃, y₄, rfl⟩ :=
      List.length_eq_four.1 (Nat.le_antisymm isYear.le_most isYear.least_le)
    obtain ⟨m₁, m₂, rfl⟩ := List.length_eq_two.1 (Nat.le_antisymm isMonth.le_most isMonth.least_le)
    obtain ⟨d₁, d₂, rfl⟩ := List.length_eq_two.1 (Nat.le_antisymm isDay.le_most isDay.least_le)
    simp only [ofIso?, List.cons_append, List.nil_append, readYear, readMonth, readDay,
      Option.bind_eq_bind, Option.bind_some, found]

theorem IsIsoDate.length {text : List Char} {date : Date} (isDate : IsIsoDate text date) :
    text.length = 10 := by
  obtain ⟨year, month, day, rfl, isYear, isMonth, isDay, -⟩ := isDate
  have yearLength := Nat.le_antisymm isYear.le_most isYear.least_le
  have monthLength := Nat.le_antisymm isMonth.le_most isMonth.least_le
  have dayLength := Nat.le_antisymm isDay.le_most isDay.least_le
  simp only [List.length_append, List.length_cons]
  omega

/-- A date is written with digits and hyphens only. -/
theorem IsIsoDate.digit_or_hyphen {text : List Char} {date : Date} (isDate : IsIsoDate text date) :
    ∀ character ∈ text, isDigit character = true ∨ character = '-' := by
  obtain ⟨year, month, day, rfl, isYear, isMonth, isDay, -⟩ := isDate
  intro character member
  simp only [List.mem_append, List.mem_cons] at member
  rcases member with inYear | rfl | inMonth | rfl | inDay
  · exact Or.inl (isYear.digits character inYear)
  · exact Or.inr rfl
  · exact Or.inl (isMonth.digits character inMonth)
  · exact Or.inr rfl
  · exact Or.inl (isDay.digits character inDay)

theorem IsIsoDate.isWord {text : List Char} {date : Date} (isDate : IsIsoDate text date) :
    IsWord text := by
  refine ⟨?_, fun character member => ?_⟩
  · rintro rfl
    cases isDate.length
  · rcases isDate.digit_or_hyphen character member with digit | rfl
    · exact isBlank_of_isDigit digit
    · decide

theorem IsIsoDate.hyphen_mem {text : List Char} {date : Date} (isDate : IsIsoDate text date) :
    '-' ∈ text := by
  obtain ⟨year, month, day, rfl, -⟩ := isDate
  exact List.mem_append_right _ List.mem_cons_self

theorem IsIsoDate.point_not_mem {text : List Char} {date : Date} (isDate : IsIsoDate text date) :
    '.' ∉ text := by
  intro member
  rcases isDate.digit_or_hyphen _ member with digit | same
  · revert digit
    decide
  · cases same

/-! ### Spellings -/

namespace Form

/-- How a text in a form spells what it asks for. -/
inductive Spells : Form → List Char → Specification → Prop
  | today : Spells keyword "today".toList .today
  | yesterday : Spells keyword "yesterday".toList .yesterday
  | thisWeek : Spells keyword "thisweek".toList .thisWeek
  | lastWeek : Spells keyword "lastweek".toList .lastWeek
  | nameYear {name gap year : List Char} (isName : IsName name) (isGap : IsGap gap)
      (isYear : IsNumeral 4 4 year) :
      Spells monthYear (name ++ gap ++ year) (.month (String.ofList name) (valueOf year))
  | yearName {year gap name : List Char} (isYear : IsNumeral 4 4 year) (isGap : IsGap gap)
      (isName : IsName name) :
      Spells monthYear (year ++ gap ++ name) (.month (String.ofList name) (valueOf year))
  | week {gap number : List Char} (isGap : IsGap gap) (isNumber : IsNumeral 1 9 number) :
      Spells weekNumber ("week".toList ++ gap ++ number) (.week (valueOf number) none)
  | weekOfYear {gap number nextGap year : List Char} (isGap : IsGap gap)
      (isNumber : IsNumeral 1 9 number) (isNextGap : IsGap nextGap) (isYear : IsNumeral 4 4 year) :
      Spells weekNumber ("week".toList ++ gap ++ (number ++ nextGap ++ year))
        (.week (valueOf number) (some (valueOf year)))
  | dates {first before behind last : List Char} {firstDate lastDate : Date}
      (isFirst : IsIsoDate first firstDate) (isBefore : IsBlankRun before)
      (isBehind : IsBlankRun behind) (isLast : IsIsoDate last lastDate) :
      Spells dateRange (first ++ (before ++ '.' :: '.' :: (behind ++ last)))
        (.dates firstDate lastDate)
  | date {text : List Char} {date : Date} (isDate : IsIsoDate text date) :
      Spells singleDate text (.date date)
  | lastDays {gap number nextGap unit : List Char} (isGap : IsGap gap)
      (isNumber : IsNumeral 1 9 number) (isNextGap : IsGap nextGap)
      (isUnit : unit = "day".toList ∨ unit = "days".toList) :
      Spells relativeDays ("last".toList ++ gap ++ (number ++ nextGap ++ unit))
        (.lastDays (valueOf number))

theorem isWord_week : IsWord "week".toList := isWord_of_any (by decide) rfl

theorem isWord_last : IsWord "last".toList := isWord_of_any (by decide) rfl

theorem isWord_points : IsWord ['.', '.'] := isWord_of_any (by decide) rfl

theorem isWord_unit {unit : List Char} (isUnit : unit = "day".toList ∨ unit = "days".toList) :
    IsWord unit := by
  rcases isUnit with rfl | rfl <;> exact isWord_of_any (by decide) rfl

/-! ### What each reader reads -/

section Readers

variable {text : List Char} {specification : Specification}

theorem readKeyword_eq_some_iff :
    readKeyword text = some specification ↔ Spells keyword text specification := by
  constructor
  · intro read
    obtain ⟨before, after, split, -⟩ := List.lookup_eq_some_iff.1 read
    have member : (String.ofList text, specification) ∈ keywords := by
      rw [split]
      exact List.mem_append_right _ List.mem_cons_self
    rw [← String.toList_ofList (l := text)]
    simp only [keywords, List.mem_cons, Prod.mk.injEq, List.not_mem_nil, or_false] at member
    rcases member with ⟨same, rfl⟩ | ⟨same, rfl⟩ | ⟨same, rfl⟩ | ⟨same, rfl⟩ <;> rw [same]
    · exact .today
    · exact .yesterday
    · exact .thisWeek
    · exact .lastWeek
  · intro spells
    cases spells <;> rfl

theorem readMonthYear_eq_some_iff (trimmed : IsTrimmed text) :
    readMonthYear text = some specification ↔ Spells monthYear text specification := by
  unfold readMonthYear
  constructor
  · intro read
    split at read
    case h_2 => cases read
    rename_i first second split
    obtain ⟨-, -, gap, isGap, rfl⟩ :=
      (spaced_pair_iff _ _ _).1 ((words_eq_iff trimmed _).1 split)
    split at read
    · next readName readYear =>
      obtain ⟨isName, rfl⟩ := (name?_eq_some_iff _ _).1 readName
      obtain ⟨isYear, rfl⟩ := (digits?_eq_some_iff _ _ _ _).1 readYear
      rw [← Option.some.inj read]
      exact .nameYear isName isGap isYear
    · split at read
      · next readYear readName =>
        obtain ⟨isName, rfl⟩ := (name?_eq_some_iff _ _).1 readName
        obtain ⟨isYear, rfl⟩ := (digits?_eq_some_iff _ _ _ _).1 readYear
        rw [← Option.some.inj read]
        exact .yearName isYear isGap isName
      · cases read
  · intro spells
    cases spells with
    | nameYear isName isGap isYear =>
      have split := words_pair isName.isWord isGap (isYear.isWord (by decide))
      have readName := name?_of_isName isName
      have readYear := year?_of_isNumeral isYear
      simp only [split, readName, readYear]
    | yearName isYear isGap isName =>
      have split := words_pair (isYear.isWord (by decide)) isGap isName.isWord
      have readName := name?_of_isName isName
      have readYear := year?_of_isNumeral isYear
      -- the year in front is no name, so the order of name and year is not tried on it
      have noName := name?_eq_none isYear
      simp only [split, noName, readName, readYear]

theorem readWeekNumber_eq_some_iff (trimmed : IsTrimmed text) :
    readWeekNumber text = some specification ↔ Spells weekNumber text specification := by
  unfold readWeekNumber
  constructor
  · intro read
    split at read
    · next head number split =>
      obtain ⟨-, -, gap, isGap, rfl⟩ :=
        (spaced_pair_iff _ _ _).1 ((words_eq_iff trimmed _).1 split)
      simp only [Option.ite_none_right_eq_some, Option.map_eq_some_iff] at read
      obtain ⟨rfl, _, readNumber, rfl⟩ := read
      obtain ⟨isNumber, rfl⟩ := (digits?_eq_some_iff _ _ _ _).1 readNumber
      exact .week isGap isNumber
    · next head number year split =>
      obtain ⟨-, -, -, gap, isGap, nextGap, isNextGap, rfl⟩ :=
        (spaced_triple_iff _ _ _ _).1 ((words_eq_iff trimmed _).1 split)
      simp only [Option.bind_eq_bind, Option.ite_none_right_eq_some,
        Option.bind_eq_some_iff] at read
      obtain ⟨rfl, _, readNumber, _, readYear, same⟩ := read
      obtain ⟨isNumber, rfl⟩ := (digits?_eq_some_iff _ _ _ _).1 readNumber
      obtain ⟨isYear, rfl⟩ := (digits?_eq_some_iff _ _ _ _).1 readYear
      rw [← Option.some.inj same]
      exact .weekOfYear isGap isNumber isNextGap isYear
    · cases read
  · intro spells
    cases spells with
    | week isGap isNumber =>
      have split := words_pair isWord_week isGap (isNumber.isWord (by decide))
      have readNumber := count?_of_isNumeral isNumber
      simp only [split, readNumber, if_true, Option.map_some]
    | weekOfYear isGap isNumber isNextGap isYear =>
      have split := words_triple isWord_week isGap (isNumber.isWord (by decide)) isNextGap
        (isYear.isWord (by decide))
      have readNumber := count?_of_isNumeral isNumber
      have readYear := year?_of_isNumeral isYear
      simp only [split, readNumber, readYear, if_true, Option.bind_eq_bind, Option.bind_some]

theorem readRelativeDays_eq_some_iff (trimmed : IsTrimmed text) :
    readRelativeDays text = some specification ↔ Spells relativeDays text specification := by
  unfold readRelativeDays
  constructor
  · intro read
    split at read
    · next head number unit split =>
      obtain ⟨-, -, -, gap, isGap, nextGap, isNextGap, rfl⟩ :=
        (spaced_triple_iff _ _ _ _).1 ((words_eq_iff trimmed _).1 split)
      simp only [Option.ite_none_right_eq_some, Option.map_eq_some_iff] at read
      obtain ⟨⟨rfl, isUnit⟩, _, readNumber, rfl⟩ := read
      obtain ⟨isNumber, rfl⟩ := (digits?_eq_some_iff _ _ _ _).1 readNumber
      exact .lastDays isGap isNumber isNextGap isUnit
    · cases read
  · intro spells
    cases spells with
    | lastDays isGap isNumber isNextGap isUnit =>
      have split := words_triple isWord_last isGap (isNumber.isWord (by decide)) isNextGap
        (isWord_unit isUnit)
      have readNumber := count?_of_isNumeral isNumber
      simp only [split, readNumber, isUnit, and_self, if_true, Option.map_some]

theorem readSingleDate_eq_some_iff :
    readSingleDate text = some specification ↔ Spells singleDate text specification := by
  unfold readSingleDate
  simp only [Option.map_eq_some_iff, Date.ofIso?_eq_some_iff]
  constructor
  · rintro ⟨date, isDate, rfl⟩
    exact .date isDate
  · rintro ⟨⟩
    next isDate => exact ⟨_, isDate, rfl⟩

theorem readDateRange_eq_some_iff :
    readDateRange text = some specification ↔ Spells dateRange text specification := by
  unfold readDateRange
  simp only [Option.bind_eq_bind, Option.bind_eq_some_iff, Date.ofIso?_eq_some_iff]
  constructor
  · rintro ⟨first, isFirst, read⟩
    split at read
    case h_2 => cases read
    rename_i behind points
    simp only [Option.bind_eq_some_iff, Date.ofIso?_eq_some_iff] at read
    obtain ⟨last, isLast, same⟩ := read
    rw [← Option.some.inj same, ← List.take_append_drop 10 text,
      ← List.takeWhile_append_dropWhile (p := isBlank) (l := text.drop 10), points,
      ← List.takeWhile_append_dropWhile (p := isBlank) (l := behind)]
    exact .dates isFirst (fun _ => List.mem_takeWhile_imp) (fun _ => List.mem_takeWhile_imp) isLast
  · intro spells
    cases spells with
    | @dates first before behind last firstDate lastDate isFirst isBefore isBehind isLast =>
      refine ⟨firstDate, ?_, ?_⟩
      · rw [List.take_left' isFirst.length]
        exact isFirst
      · have points : (before ++ '.' :: '.' :: (behind ++ last)).dropWhile isBlank =
            '.' :: '.' :: (behind ++ last) := by
          exact dropWhile_append_of_head isBefore rfl (by decide)
        obtain ⟨digit, begins, noBlank⟩ := isLast.isWord.isTrimmed.head
        have readLast := (Date.ofIso?_eq_some_iff last lastDate).2 isLast
        rw [List.drop_left' isFirst.length, points]
        simp only [dropWhile_append_of_head isBehind begins noBlank, readLast, Option.bind_some]

/-- The reader of a form reads the spellings of that form, and nothing else. -/
theorem read?_eq_some_iff (trimmed : IsTrimmed text) (form : Form) :
    form.read? text = some specification ↔ Spells form text specification := by
  cases form with
  | keyword => exact readKeyword_eq_some_iff
  | monthYear => exact readMonthYear_eq_some_iff trimmed
  | weekNumber => exact readWeekNumber_eq_some_iff trimmed
  | dateRange => exact readDateRange_eq_some_iff
  | singleDate => exact readSingleDate_eq_some_iff
  | relativeDays => exact readRelativeDays_eq_some_iff trimmed

/-- In one form a text spells one thing only. -/
theorem Spells.unique {form : Form} {other : Specification} (trimmed : IsTrimmed text)
    (spells : Spells form text specification) (spellsOther : Spells form text other) :
    other = specification := by
  have read := (read?_eq_some_iff trimmed form).2 spells
  rw [(read?_eq_some_iff trimmed form).2 spellsOther] at read
  exact Option.some.inj read

end Readers

/-! ### The form of a text -/

/-- What shows the form of a text: its hyphens and points, how many words it has, and the first of
them. -/
def Mark : Form → List Char → Prop
  | keyword, text => '-' ∉ text ∧ (words text).length = 1
  | monthYear, text => '-' ∉ text ∧ (words text).length = 2
  | weekNumber, text =>
    '-' ∉ text ∧ 1 < (words text).length ∧ (words text).head? = some "week".toList
  | dateRange, text => '-' ∈ text ∧ '.' ∈ text
  | singleDate, text => '-' ∈ text ∧ '.' ∉ text
  | relativeDays, text =>
    '-' ∉ text ∧ (words text).length = 3 ∧ (words text).head? = some "last".toList

theorem Spells.mark {form : Form} {text : List Char} {specification : Specification}
    (spells : Spells form text specification) : form.Mark text := by
  cases spells with
  | today => exact ⟨by decide, by decide⟩
  | yesterday => exact ⟨by decide, by decide⟩
  | thisWeek => exact ⟨by decide, by decide⟩
  | lastWeek => exact ⟨by decide, by decide⟩
  | nameYear isName isGap isYear =>
    rw [Mark, words_pair isName.isWord isGap (isYear.isWord (by decide))]
    simp [isName.hyphen_not_mem, isGap.hyphen_not_mem, isYear.hyphen_not_mem]
  | yearName isYear isGap isName =>
    rw [Mark, words_pair (isYear.isWord (by decide)) isGap isName.isWord]
    simp [isName.hyphen_not_mem, isGap.hyphen_not_mem, isYear.hyphen_not_mem]
  | week isGap isNumber =>
    rw [Mark, words_pair isWord_week isGap (isNumber.isWord (by decide))]
    simp [isGap.hyphen_not_mem, isNumber.hyphen_not_mem]
  | weekOfYear isGap isNumber isNextGap isYear =>
    rw [Mark, words_triple isWord_week isGap (isNumber.isWord (by decide)) isNextGap
      (isYear.isWord (by decide))]
    simp [isGap.hyphen_not_mem, isNumber.hyphen_not_mem, isNextGap.hyphen_not_mem,
      isYear.hyphen_not_mem]
  | dates isFirst isBefore isBehind isLast =>
    rw [Mark]
    simp [isFirst.hyphen_mem]
  | date isDate => exact ⟨isDate.hyphen_mem, isDate.point_not_mem⟩
  | lastDays isGap isNumber isNextGap isUnit =>
    rw [Mark, words_triple isWord_last isGap (isNumber.isWord (by decide)) isNextGap
      (isWord_unit isUnit)]
    rcases isUnit with rfl | rfl <;>
      simp [isGap.hyphen_not_mem, isNumber.hyphen_not_mem, isNextGap.hyphen_not_mem]

/-- Only months and numbered weeks are ever spelled alike. -/
theorem Spells.form_eq {form other : Form} {text : List Char}
    {specification otherSpecification : Specification} (spells : Spells form text specification)
    (spellsOther : Spells other text otherSpecification) :
    form = other ∨ (form = monthYear ∧ other = weekNumber) ∨
      (form = weekNumber ∧ other = monthYear) := by
  have mark := spells.mark
  have otherMark := spellsOther.mark
  cases form <;> cases other <;> simp_all [Mark]

end Form

end Almanac
