/-
This file holds the vocabularies that are always at hand, English and German,
and finds them by the codes of their languages.
-/

import Almanac.Language.Vocabulary

namespace Almanac

open Text (quoted quotedOrNone)

namespace Vocabulary

/-- The English month names, full and short. -/
def english : Vocabulary where
  code := "en"
  months := Table.ofList
    [("january", .january), ("february", .february), ("march", .march), ("april", .april),
     ("may", .may), ("june", .june), ("july", .july), ("august", .august),
     ("september", .september), ("october", .october), ("november", .november),
     ("december", .december), ("jan", .january), ("feb", .february), ("mar", .march),
     ("apr", .april), ("jun", .june), ("jul", .july), ("aug", .august), ("sep", .september),
     ("sept", .september), ("oct", .october), ("nov", .november), ("dec", .december)]

/-- The German month names, full and where they differ from the full name also short. -/
def german : Vocabulary where
  code := "de"
  months := Table.ofList
    [("januar", .january), ("februar", .february), ("märz", .march), ("april", .april),
     ("mai", .may), ("juni", .june), ("juli", .july), ("august", .august),
     ("september", .september), ("oktober", .october), ("november", .november),
     ("dezember", .december), ("jan", .january), ("feb", .february), ("mär", .march),
     ("okt", .october), ("dez", .december)]

/-- The vocabularies that are always at hand. -/
def builtIn : List Vocabulary := [english, german]

end Vocabulary

/-- A code that is that of no vocabulary at hand; the code may be missing. -/
structure UnknownLocale where
  given : Option String
deriving DecidableEq, Repr

/-- The wording of the fault, which is itself put in quotes. -/
def UnknownLocale.message (unknown : UnknownLocale) : String :=
  quoted ("unknown locale: " ++ quotedOrNone unknown.given)

/-- The vocabulary at hand with a code, in any letter case and with blanks around it. -/
def Vocabulary.ofCode (code : Option String) : Except UnknownLocale Vocabulary :=
  let key := codeKey (code.getD "")
  match builtIn.find? fun vocabulary => vocabulary.code = key with
  | some vocabulary => .ok vocabulary
  | none => .error ⟨code⟩

end Almanac
