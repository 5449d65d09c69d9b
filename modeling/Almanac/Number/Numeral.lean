/-
This file reads numerals. A numeral with a point or a power of ten stands for a
double; any other stands for a whole number, however long it is.
-/

import Almanac.Number.Double
import Almanac.Text.Decimal

namespace Almanac

open Text (isDigit number? valueOf)

/-- What a numeral stands for. -/
inductive Numeral where
  | whole (number : Int)
  | double (number : Double)
deriving DecidableEq, Repr

namespace Numeral

/-- A whole number with a sign or without one. -/
def signed? (text : List Char) : Option Int :=
  match text with
  | '-' :: digits => (number? digits).map fun number => -(number : Int)
  | '+' :: digits => (number? digits).map Int.ofNat
  | digits => (number? digits).map Int.ofNat

/-- The power of ten at the end of a numeral; without one it is zero. -/
def power? (text : List Char) : Option Int :=
  match text with
  | [] => some 0
  | mark :: power => if mark = 'e' ∨ mark = 'E' then signed? power else none

/-- A numeral without a sign. -/
def unsigned? (negative : Bool) (text : List Char) : Option Numeral :=
  let whole := text.takeWhile isDigit
  let double (fraction power : List Char) : Option Numeral :=
    (power? power).map fun power =>
      let decimal : Decimal := ⟨valueOf (whole ++ fraction), power - fraction.length⟩
      .double ⟨negative, .ofDecimal decimal⟩
  match whole, text.dropWhile isDigit with
  | [], _ => none
  | _, [] => some (.whole (if negative then -(valueOf whole : Int) else valueOf whole))
  | _, '.' :: rest =>
    match rest.takeWhile isDigit with
    | [] => none
    | fraction => double fraction (rest.dropWhile isDigit)
  | _, power => double [] power

/-- The numeral that a text is. -/
def ofText? (text : List Char) : Option Numeral :=
  match text with
  | '-' :: rest => unsigned? true rest
  | _ => unsigned? false text

end Numeral

end Almanac
