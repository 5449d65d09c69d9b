/-
This file defines mappings between characters as the case tables of a character
standard write them: runs of code points that move in parallel, and single code
points that turn into several.
-/

namespace Almanac.Text

/-- Code points that move in parallel: every `step`-th one from `first` to `last`, the first of
them to `image`. -/
structure CaseRun where
  first : Nat
  last : Nat
  step : Nat
  image : Nat

/-- Where a code point moves; runs ascend, and a code point outside all runs stays. -/
def CaseRun.move : List CaseRun → Nat → Nat
  | [], code => code
  | run :: rest, code =>
    if code < run.first then code
    else if code ≤ run.last ∧ (code - run.first) % run.step = 0 then
      run.image + (code - run.first)
    else
      move rest code

/-- A mapping of characters to texts: the code points that turn into several, and the runs that
move the others. -/
structure CaseMapping where
  several : List (Nat × List Nat)
  runs : List CaseRun

/-- The image of one character. -/
def CaseMapping.image (mapping : CaseMapping) (character : Char) : List Char :=
  match mapping.several.lookup character.toNat with
  | some codes => codes.map Char.ofNat
  | none => [Char.ofNat (CaseRun.move mapping.runs character.toNat)]

/-- The image of a text, character by character. -/
def CaseMapping.apply (mapping : CaseMapping) (text : List Char) : List Char :=
  text.flatMap mapping.image

end Almanac.Text
