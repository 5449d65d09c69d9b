/-
This file reads the arguments of the command. They are the words of a time
specification; the only option asks for help, and may be shortened as long as it
stays recognisable.
-/

import Almanac.Text.DecimalDigit
import Almanac.Text.Quoted

namespace Almanac.CommandLine

open Text (isDecimalDigit quoted)

/-! ### Kinds of arguments -/

/-- What an argument before the end of the options is. -/
inductive Argument where
  /-- A word of the specification. -/
  | word
  | help
  /-- The option for help with something joined to it that it does not take. -/
  | helpWith (excess : List Char)
  | unknownOption
deriving DecidableEq, Repr

/-- Whether a text is a minus sign and a number, which is whole or has a point before its last
digits. A line feed may follow. -/
def isNegativeNumber (text : List Char) : Bool :=
  match text with
  | '-' :: number =>
    let number := if number.getLast? = some '\n' then number.dropLast else number
    let behind := number.dropWhile isDecimalDigit
    match behind with
    | [] => !number.isEmpty
    | '.' :: fraction => !fraction.isEmpty && fraction.all isDecimalDigit
    | _ => false
  | _ => false

/-- What follows the letter of the short option: that letter again, any number of times, and then
at most what the option does not take. -/
def shortTail : List Char → Argument
  | [] => .help
  | 'h' :: rest => shortTail rest
  | excess => .helpWith excess

/-- The kind of an argument before the end of the options. An equals sign right behind the short
option joins the rest to it; after the long option it sets off a value. -/
def classify (argument : String) : Argument :=
  match argument.toList with
  | '-' :: '-' :: name =>
    let name' := name.takeWhile (· ≠ '=')
    if name'.isPrefixOf "help".toList then
      match name.dropWhile (· ≠ '=') with
      | [] => .help
      | _ :: excess => .helpWith excess
    else if name.contains ' ' then .word
    else .unknownOption
  | ['-', 'h', '='] => .helpWith []
  | '-' :: 'h' :: '=' :: tail => shortTail tail
  | '-' :: 'h' :: tail => shortTail tail
  | '-' :: rest =>
    if rest = [] ∨ isNegativeNumber ('-' :: rest) ∨ rest.contains ' ' then .word
    else .unknownOption
  | _ => .word

/-! ### Requests -/

/-- A cause for which arguments are refused. -/
inductive Refusal where
  | excess (value : List Char)
  | unrecognized (arguments : List String)
deriving DecidableEq, Repr

def Refusal.message : Refusal → String
  | excess value =>
    "argument -h/--help: ignored explicit argument " ++ quoted (String.ofList value)
  | unrecognized arguments => "unrecognized arguments: " ++ " ".intercalate arguments

/-- What the arguments ask for. -/
inductive Request where
  | help
  | resolve (words : List String)
  | refused (cause : Refusal)
deriving DecidableEq, Repr

/-- The arguments that are left over when the first run of words is taken; `true` marks options. -/
def leftOver (arguments : List (String × Bool)) : List String :=
  let fromFirstWord := arguments.dropWhile fun argument => argument.2
  let behindWords := fromFirstWord.dropWhile fun argument => !argument.2
  ((arguments.takeWhile fun argument => argument.2) ++ behindWords).map Prod.fst

/-- What the arguments ask for. A double dash ends the options and is dropped; before it, the first
option that asks for help decides, and after that no other option may be left over. -/
def read (arguments : List String) : Request :=
  let before := arguments.takeWhile (· ≠ "--")
  let behind := arguments.dropWhile (· ≠ "--")
  let asksForHelp := (before.map classify).findSome? fun
    | .help => some Request.help
    | .helpWith excess => some (.refused (.excess excess))
    | .word | .unknownOption => none
  let marked :=
    (before.map fun argument => (argument, decide (classify argument = .unknownOption))) ++
      behind.map fun argument => (argument, false)
  match asksForHelp, leftOver marked with
  | some request, _ => request
  | none, [] => .resolve (before ++ behind.drop 1)
  | none, arguments => .refused (.unrecognized arguments)

end Almanac.CommandLine
