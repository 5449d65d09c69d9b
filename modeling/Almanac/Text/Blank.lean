/-
This file says which characters are blank, and how blanks delimit: stripping
takes them off both ends of a text, and words are the runs between them.
-/

import Almanac.Text.CodeRanges

namespace Almanac.Text

/-! ### Blank characters -/

/-- The blank characters: white space, line and paragraph ends, and the four ASCII information
separators. -/
def blankRanges : CodeRanges :=
  [(0x0009, 0x000D), (0x001C, 0x0020), (0x0085, 0x0085), (0x00A0, 0x00A0), (0x1680, 0x1680),
   (0x2000, 0x200A), (0x2028, 0x2029), (0x202F, 0x202F), (0x205F, 0x205F), (0x3000, 0x3000)]

/-- Whether a character is blank. -/
def isBlank (character : Char) : Bool := blankRanges.contains character.toNat

/-! ### Stripping -/

/-- A text without the blanks at its end. -/
def stripEnd (text : List Char) : List Char := (text.reverse.dropWhile isBlank).reverse

/-- A text without the blanks at its two ends. -/
def strip (text : List Char) : List Char := stripEnd (text.dropWhile isBlank)

/-! ### Pieces and words -/

/-- The pieces of a text between the characters that separate; a text without a separator is one
piece. -/
def pieces (separates : Char → Bool) : List Char → List (List Char)
  | [] => [[]]
  | character :: rest =>
    if separates character then
      [] :: pieces separates rest
    else
      match pieces separates rest with
      | [] => [[character]]
      | piece :: others => (character :: piece) :: others

/-- The words of a text: its longest runs without a blank. -/
def words (text : List Char) : List (List Char) :=
  (pieces isBlank text).filter fun piece => !piece.isEmpty

end Almanac.Text
