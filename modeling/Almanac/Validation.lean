/-
This file describes what can be wrong with the fields that a caller fills in,
and checks the two records that consist of nothing but such fields: a first
weekday, and the bounds of a period.
-/

import Almanac.Calendar.Period
import Almanac.Language.BuiltIn
import Almanac.Value

namespace Almanac

/-- What is wrong with a field, or with all fields together. -/
inductive Fault where
  | unknownFirstDay (unknown : UnknownFirstDay)
  | noLocales
  | unknownLocale (unknown : UnknownLocale)
  /-- The start is later than the end. -/
  | reversed
  /-- The value is none of those on offer. -/
  | notOffered
  /-- There is no such field. -/
  | unexpected
  | missing
  | notText
deriving DecidableEq, Repr

namespace Fault

/-- The label of the kind of a fault. -/
def kind : Fault → String
  | unknownFirstDay _ | noLocales | unknownLocale _ | reversed => "value_error"
  | notOffered => "enum"
  | unexpected => "extra_forbidden"
  | missing => "missing"
  | notText => "string_type"

/-- The wording of a fault. -/
def message : Fault → String
  | unknownFirstDay unknown => "Value error, " ++ unknown.message
  | noLocales => "Value error, LOCALES must name at least one locale"
  | unknownLocale unknown => "Value error, " ++ unknown.message
  | reversed => "Value error, start must be <= end"
  | notOffered => "Input should be 'sunday' or 'monday'"
  | unexpected => "Extra inputs are not permitted"
  | missing => "Field required"
  | notText => "Input should be a valid string"

end Fault

/-- A fault and the field it is found in; a fault of all fields together has none. -/
structure Violation where
  field : Option String
  fault : Fault
deriving DecidableEq, Repr

/-- The violations of fields that do not exist. -/
def Violation.ofUnexpected (names : List String) : List Violation :=
  names.map fun name => ⟨some name, .unexpected⟩

/-! ### A first weekday -/

/-- The first weekday of a record with the one field `week_start`, which may be missing. Only the
exact names are on offer here. -/
def FirstDay.ofFields (fields : List (String × Value)) : Except (List Violation) FirstDay :=
  let offered : Except (List Violation) FirstDay :=
    match fields.lookup "week_start" with
    | none => .ok .monday
    | some (.text name) =>
      match ofName? name with
      | some firstDay => .ok firstDay
      | none => .error [⟨some "week_start", .notOffered⟩]
    | some _ => .error [⟨some "week_start", .notOffered⟩]
  let unexpected := Violation.ofUnexpected
    ((fields.map Prod.fst).filter fun name => name ≠ "week_start")
  match offered with
  | .ok firstDay => if unexpected = [] then .ok firstDay else .error unexpected
  | .error violations => .error (violations ++ unexpected)

/-! ### The bounds of a period -/

/-- A cause for which fields make no period. -/
inductive PeriodFieldsError where
  | invalid (violations : List Violation)
  /-- One clock has an offset and the other has none. -/
  | mixedOffsets
deriving DecidableEq, Repr

/-- The period of a record with a start and an end, and with the names of fields that do not belong
there. The bounds are compared only if each field is right on its own. -/
def Period.ofFields (start finish : Option Moment) (extra : List String) :
    Except PeriodFieldsError Period :=
  let unexpected := Violation.ofUnexpected extra
  let missing (name : String) (bound : Option Moment) : List Violation :=
    if bound.isNone then [⟨some name, .missing⟩] else []
  match start, finish, unexpected with
  | some start, some finish, [] =>
    match Period.between start finish with
    | .ok period => .ok period
    | .error .reversed => .error (.invalid [⟨none, .reversed⟩])
    | .error .mixedOffsets => .error .mixedOffsets
  | start, finish, unexpected =>
    .error (.invalid (missing "start" start ++ missing "end" finish ++ unexpected))

end Almanac
