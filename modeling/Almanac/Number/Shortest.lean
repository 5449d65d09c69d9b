/-
This file writes doubles. A double is written with the fewest digits that no
other double is nearest to, and of those with the ones nearest to it.
-/

import Almanac.Number.Double

namespace Almanac

/-! ### Shortest digits -/

/-- The decimal nearest to a positive number on the grid of a power of ten, if the number is the
double nearest to it. All is measured in quarters of the last binary place: the doubles beside the
number are four of them away, but only two below a power of two. The points half way to them belong
to the double with the even significand. -/
def Decimal.onGrid? (significand : Nat) (exponent place : Int) : Option Decimal :=
  let step := powerOfTen place.toNat * powerOfTwo (2 - exponent).toNat
  let quarter := powerOfTen (-place).toNat * powerOfTwo (exponent - 2).toNat
  let value := 4 * significand * quarter
  let narrow := significand = Magnitude.leastSignificand ∧ exponent ≠ Magnitude.leastExponent
  let low := if narrow then value - quarter else value - 2 * quarter
  let high := value + 2 * quarter
  let isNearest (digits : Nat) : Bool :=
    let point := digits * step
    if significand % 2 = 0 then low ≤ point && point ≤ high else low < point && point < high
  let below := value / step
  if isNearest below && isNearest (below + 1) then some ⟨roundedQuotient value step, place⟩
  else if isNearest below then some ⟨below, place⟩
  else if isNearest (below + 1) then some ⟨below + 1, place⟩
  else none

/-- The decimal of a finite double with the fewest digits: the grids are tried from the coarsest
to the finest, and on the finest one every double has a decimal. -/
def Decimal.shortest (significand : Nat) (exponent : Int) : Decimal :=
  let places := (List.range 640).map fun (index : Nat) => (309 : Int) - index
  let found := places.findSome? fun place => Decimal.onGrid? significand exponent place
  if significand = 0 then ⟨0, 0⟩ else found.getD ⟨0, 0⟩

/-! ### Texts -/

/-- Where a number changes from a point among its digits to a power of ten behind them. -/
structure NumberLayout where
  /-- The least power of ten of a leading digit that is written with a point. -/
  least : Int
  /-- The first power of ten of a leading digit that is too large for it. -/
  limit : Int

/-- Numbers from a ten-thousandth up to below ten to the sixteenth are written with a point. -/
def NumberLayout.standard : NumberLayout := ⟨-4, 16⟩

/-- A power of ten behind digits, with its sign and two digits at least. -/
def powerText (exponent : Int) : List Char :=
  let digits := (toString exponent.natAbs).toList
  let sign := if exponent < 0 then '-' else '+'
  'e' :: sign :: (if digits.length < 2 then '0' :: digits else digits)

/-- The text of a decimal. With a point, there is a digit on both sides of it; with a power of ten,
the point stands behind the leading digit, if there are more. -/
def Decimal.toText (layout : NumberLayout) (decimal : Decimal) : List Char :=
  let digits := (toString decimal.digits).toList
  let leading := decimal.exponent + digits.length - 1
  if leading < layout.least ∨ layout.limit ≤ leading then
    let fraction := digits.drop 1
    digits.take 1 ++ (if fraction = [] then [] else '.' :: fraction) ++ powerText leading
  else if leading < 0 then
    "0.".toList ++ List.replicate (-leading - 1).toNat '0' ++ digits
  else
    let padded := digits ++ List.replicate decimal.exponent.toNat '0'
    let whole := padded.take (leading.toNat + 1)
    let fraction := padded.drop (leading.toNat + 1)
    whole ++ '.' :: (if fraction = [] then ['0'] else fraction)

namespace Double

def isZero (number : Double) : Bool := number.magnitude.isZero

/-- The text of a double. -/
def toText (number : Double) : List Char :=
  let size :=
    match number.magnitude with
    | .finite significand exponent =>
      (Decimal.shortest significand exponent).toText .standard
    | .infinite => "inf".toList
  if number.negative then '-' :: size else size

end Double

end Almanac
