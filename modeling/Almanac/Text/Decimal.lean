/-
This file reads and writes decimal numbers with ASCII digits. Numbers of a fixed
width are written with leading zeros, and reading takes back what was written.
-/

namespace Almanac.Text

/-- Whether a character is an ASCII digit. -/
def isDigit (character : Char) : Bool := 48 ≤ character.toNat && character.toNat ≤ 57

/-- The digit of a number below ten. -/
def digit (number : Nat) : Char := Char.ofNat (48 + number)

/-- The number of a digit. -/
def digitValue (character : Char) : Nat := character.toNat - 48

/-- The last `width` decimal digits of a number, with leading zeros. -/
def padded : Nat → Nat → List Char
  | 0, _ => []
  | width + 1, number => padded width (number / 10) ++ [digit (number % 10)]

/-- The number that a run of digits stands for. -/
def valueOf (digits : List Char) : Nat :=
  digits.foldl (fun value character => 10 * value + digitValue character) 0

/-- The number that a text stands for, if it is a nonempty run of ASCII digits. -/
def number? (text : List Char) : Option Nat :=
  if text ≠ [] ∧ text.all isDigit then some (valueOf text) else none

theorem length_padded (width number : Nat) : (padded width number).length = width := by
  induction width generalizing number with
  | zero => rfl
  | succ width inductionHypothesis => simp [padded, inductionHypothesis]

theorem digit_facts : ∀ number ∈ List.range 10,
    isDigit (digit number) = true ∧ digitValue (digit number) = number := by
  decide

theorem all_isDigit_padded (width number : Nat) : (padded width number).all isDigit = true := by
  induction width generalizing number with
  | zero => rfl
  | succ width inductionHypothesis =>
    have last := digit_facts (number % 10) (List.mem_range.2 (Nat.mod_lt _ (by decide)))
    simp [padded, inductionHypothesis, last.1]

theorem valueOf_padded (width number : Nat) :
    valueOf (padded width number) = number % Nat.pow 10 width := by
  induction width generalizing number with
  | zero => simp [padded, valueOf, Nat.mod_one]
  | succ width inductionHypothesis =>
    have last := digit_facts (number % 10) (List.mem_range.2 (Nat.mod_lt _ (by decide)))
    have front := inductionHypothesis (number / 10)
    simp only [valueOf] at front
    simp only [padded, valueOf, List.foldl_append, List.foldl_cons, List.foldl_nil, front, last.2]
    have power : Nat.pow 10 (width + 1) = 10 * Nat.pow 10 width := Nat.mul_comm _ _
    rw [power, Nat.mod_mul]
    omega

end Almanac.Text
