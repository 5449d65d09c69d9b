/-
This file defines doubles, the numbers with a binary significand of 53 digits
that callers hand over as fractions, and rounds a decimal number to one. A
number half way between two doubles goes to the one with the even significand.
-/

namespace Almanac

/-! ### Powers and quotients -/

def powerOfTwo (exponent : Nat) : Nat := Nat.pow 2 exponent

def powerOfTen (exponent : Nat) : Nat := Nat.pow 10 exponent

/-- The whole number nearest to a quotient; a half goes to the even neighbour. -/
def roundedQuotient (numerator denominator : Nat) : Nat :=
  let below := numerator / denominator
  let twice := 2 * (numerator % denominator)
  if twice < denominator ∨ (twice = denominator ∧ below % 2 = 0) then below else below + 1

/-! ### Numbers -/

/-- A decimal number without a sign: its digits times a power of ten. -/
structure Decimal where
  digits : Nat
  exponent : Int
deriving DecidableEq, Repr

/-- The size of a double. -/
inductive Magnitude where
  /-- A significand times a power of two. -/
  | finite (significand : Nat) (exponent : Int)
  /-- What is too large for any significand. -/
  | infinite
deriving DecidableEq, Repr

/-- A double. Zero has a sign too. -/
structure Double where
  negative : Bool
  magnitude : Magnitude
deriving DecidableEq, Repr

/-- The least exponent of a double. -/
def Magnitude.leastExponent : Int := -1074

/-- The greatest exponent of a double. -/
def Magnitude.greatestExponent : Int := 971

/-- The least significand of a double above the least exponent; all have the same length. -/
def Magnitude.leastSignificand : Nat := powerOfTwo 52

namespace Magnitude

def zero : Magnitude := finite 0 leastExponent

/-- The exponent of the greatest power of two that is at most a quotient of positive numbers. -/
def quotientExponent (numerator denominator : Nat) : Int :=
  let exponent : Int := (numerator.log2 : Int) - denominator.log2
  if numerator * powerOfTwo (-exponent).toNat < denominator * powerOfTwo exponent.toNat then
    exponent - 1
  else exponent

/-- The double nearest to a quotient of positive numbers. -/
def ofQuotient (numerator denominator : Nat) : Magnitude :=
  let wanted := quotientExponent numerator denominator - 52
  let exponent := if wanted < leastExponent then leastExponent else wanted
  let significand := roundedQuotient (numerator * powerOfTwo (-exponent).toNat)
    (denominator * powerOfTwo exponent.toNat)
  let carries := significand = 2 * leastSignificand
  let significand := if carries then leastSignificand else significand
  let exponent := if carries then exponent + 1 else exponent
  if greatestExponent < exponent then infinite else finite significand exponent

/-- The double nearest to a decimal number. All doubles lie far within the powers of ten that are
looked at. -/
def ofDecimal (decimal : Decimal) : Magnitude :=
  if decimal.digits = 0 ∨ decimal.exponent + decimal.digits.log2 < -400 then zero
  else if 400 < decimal.exponent then infinite
  else
    ofQuotient (decimal.digits * powerOfTen decimal.exponent.toNat)
      (powerOfTen (-decimal.exponent).toNat)

def isZero : Magnitude → Bool
  | finite significand _ => significand = 0
  | infinite => false

end Magnitude

end Almanac
