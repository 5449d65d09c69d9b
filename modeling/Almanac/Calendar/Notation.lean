/-
This file writes dates and moments in the international form, year first and
with leading zeros, and reads them back. The reader of dates accepts exactly what
the writer produces.
-/

import Almanac.Calendar.Moment
import Almanac.Text.Decimal

namespace Almanac

open Text (padded number?)

/-! ### Dates -/

namespace Date

/-- A date as four digits of the year, two of the month and two of the day. -/
def toIso (date : Date) : List Char :=
  padded 4 date.yearNumber ++ '-' :: padded 2 date.month.number ++ '-' :: padded 2 date.day

/-- The date that a text writes. -/
def ofIso? (text : List Char) : Option Date := do
  match text with
  | [y₁, y₂, y₃, y₄, '-', m₁, m₂, '-', d₁, d₂] =>
    ofNumbers? (← number? [y₁, y₂, y₃, y₄]) (← number? [m₁, m₂]) (← number? [d₁, d₂])
  | _ => none

end Date

/-! ### Moments -/

/-- What is free in the form of a moment: the character between date and time, and whether a full
second is written with its fraction. -/
structure MomentStyle where
  separator : Char
  fullFraction : Bool

namespace MomentStyle

/-- The form in which moments are handed on. -/
def exchange : MomentStyle := ⟨'T', true⟩

/-- The form in which moments are shown in a journal. -/
def journal : MomentStyle := ⟨' ', false⟩

end MomentStyle

/-- An offset as a sign, hours and minutes, with its seconds only if it is not of whole minutes, and
their fraction only if it is not of whole seconds. -/
def Offset.toText (offset : Offset) : List Char :=
  let size := offset.microseconds.natAbs
  let sign := if offset.microseconds < 0 then '-' else '+'
  let fraction := if size % 1000000 = 0 then [] else '.' :: padded 6 (size % 1000000)
  let seconds :=
    if size % 60000000 = 0 then [] else ':' :: padded 2 (size / 1000000 % 60) ++ fraction
  sign :: padded 2 (size / 3600000000) ++ ':' :: padded 2 (size / 60000000 % 60) ++ seconds

namespace Moment

/-- The hour and the minute of a moment. -/
def hourMinute (moment : Moment) : List Char :=
  padded 2 moment.hour ++ ':' :: padded 2 moment.minute

/-- A moment as its date, its time of day, and the offset of its clock. -/
def toText (style : MomentStyle) (moment : Moment) : List Char :=
  let fraction :=
    if style.fullFraction ∨ moment.fraction ≠ 0 then '.' :: padded 6 moment.fraction else []
  let offset := match moment.offset with
    | some offset => offset.toText
    | none => []
  moment.date.toIso ++ style.separator :: moment.hourMinute ++ ':' :: padded 2 moment.second ++
    fraction ++ offset

end Moment

/-- The offset at the end of a text; the outer `none` stands for a text that is none. -/
def Offset.ofText? (text : List Char) : Option (Option Offset) := do
  match text with
  | [] => some none
  | sign :: h₁ :: h₂ :: ':' :: m₁ :: m₂ :: rest =>
    let behind ← match rest with
      | [] => some 0
      | [':', s₁, s₂] => (number? [s₁, s₂]).map fun seconds => seconds * 1000000
      | [':', s₁, s₂, '.', f₁, f₂, f₃, f₄, f₅, f₆] => do
        some ((← number? [s₁, s₂]) * 1000000 + (← number? [f₁, f₂, f₃, f₄, f₅, f₆]))
      | _ => none
    let minutes := (← number? [h₁, h₂]) * 60 + (← number? [m₁, m₂])
    let size : Int := minutes * 60000000 + behind
    if sign = '+' then some (some (← ofMicroseconds? size))
    else if sign = '-' then some (some (← ofMicroseconds? (-size)))
    else none
  | _ => none

/-- The moment that a text in exchange form writes; the fraction may be missing. -/
def Moment.ofText? (text : List Char) : Option Moment := do
  let date ← Date.ofIso? (text.take 10)
  match text.drop 10 with
  | 'T' :: h₁ :: h₂ :: ':' :: m₁ :: m₂ :: ':' :: s₁ :: s₂ :: rest =>
    let (fraction, rest) ← match rest with
      | '.' :: behind => (number? (behind.take 6)).map fun fraction => (fraction, behind.drop 6)
      | _ => some (0, rest)
    let clock := (← number? [h₁, h₂]) * 3600 + (← number? [m₁, m₂]) * 60 + (← number? [s₁, s₂])
    let offset ← Offset.ofText? rest
    let microsecond := clock * 1000000 + fraction
    if within : microsecond < microsecondsPerDay then
      some ⟨date, microsecond, within, offset⟩
    else
      none
  | _ => none

end Almanac
