/-
This file writes texts in quotes, with escapes for what cannot be shown: the
form in which messages and journal lines give a text back.
-/

import Almanac.Text.Printable

namespace Almanac.Text

/-- The digit of a number below sixteen, with small letters. -/
def hexDigit (number : Nat) : Char :=
  if number < 10 then Char.ofNat (48 + number) else Char.ofNat (87 + number)

/-- The last `width` hexadecimal digits of a number. -/
def hexPadded : Nat → Nat → List Char
  | 0, _ => []
  | width + 1, number => hexPadded width (number / 16) ++ [hexDigit (number % 16)]

/-- The mark around a text: the single quote, unless the text holds single quotes and no double
one. -/
def quoteMark (text : List Char) : Char :=
  if text.contains '\'' && !text.contains '"' then '"' else '\''

/-- A character inside quotes: the mark and the backslash take a backslash, line ends and tabs
have letters, and any other character that is not printable is given by its code point in two,
four or eight digits. -/
def escaped (mark character : Char) : List Char :=
  if character = mark ∨ character = '\\' then ['\\', character]
  else if character = '\n' then ['\\', 'n']
  else if character = '\r' then ['\\', 'r']
  else if character = '\t' then ['\\', 't']
  else if isPrintable character then [character]
  else
    let code := character.toNat
    if code < 0x100 then '\\' :: 'x' :: hexPadded 2 code
    else if code < 0x10000 then '\\' :: 'u' :: hexPadded 4 code
    else '\\' :: 'U' :: hexPadded 8 code

/-- A text in quotes. -/
def quoted (text : String) : String :=
  let mark := quoteMark text.toList
  String.ofList (mark :: text.toList.flatMap (escaped mark) ++ [mark])

/-- A text in quotes, or the word for a missing one. -/
def quotedOrNone : Option String → String
  | some text => quoted text
  | none => "None"

end Almanac.Text
