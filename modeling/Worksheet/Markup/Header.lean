import Worksheet.Markup.Token

namespace Worksheet
namespace Markup

/-!
# The header of a document

A document may begin with a header that states a version, an encoding and
whether the document stands alone, in this order.  The version is required, and
which one it is does not matter.
-/

structure Header where
  encoding : Option (List Char)
  standsAlone : Bool
deriving DecidableEq

namespace Header

/-- The header of a document that has none. -/
def absent : Header := ⟨none, false⟩

/-- Whether a character may stand in a value of a header. -/
def isValueChar (char : Char) : Bool :=
  char.isAlphanum || char == '.' || char == '-' || char == '_'

/-- Split a name and its value off the inside of a header.  Space must come
before the name.  Nothing but space yields no name. -/
def takeEntry (chars : List Char) : Option (Option (List Char × List Char) × List Char) :=
  match skipSpace chars with
  | [] => some (none, [])
  | rest =>
      if (chars.head?.map isSpace).getD false then do
        let isNamePart := fun char => !isSpace char && char != '='
        let name := rest.takeWhile isNamePart
        match skipSpace (rest.dropWhile isNamePart) with
        | '=' :: rest => do
            let (value, rest) ← takeEnclosed (skipSpace rest)
            if name ≠ [] ∧ value.all isValueChar then return (some (name, value), rest) else none
        | _ => none
      else none

/-- Read the last entry of a header, which states whether the document stands
alone. -/
def readStandalone (encoding : Option (List Char)) (name value rest : List Char) :
    Option Header :=
  if name = "standalone".toList ∧ (skipSpace rest).isEmpty then
    if value = "yes".toList then some ⟨encoding, true⟩
    else if value = "no".toList then some ⟨encoding, false⟩
    else none
  else none

/-- Read the entries behind the version. -/
def readEntries (chars : List Char) : Option Header := do
  match ← takeEntry chars with
  | (none, _) => return absent
  | (some (name, value), rest) =>
      if name = "encoding".toList then
        if (value.head?.map Char.isAlpha).getD false then
          match ← takeEntry rest with
          | (none, _) => return ⟨some value, false⟩
          | (some (name, last), rest) => readStandalone (some value) name last rest
        else none
      else readStandalone none name value rest

/-- Read the inside of a header. -/
def ofInside (chars : List Char) : Option Header := do
  match ← takeEntry chars with
  | (some (name, _), rest) => if name = "version".toList then readEntries rest else none
  | (none, _) => none

/-- Split a header off a document.  A document that begins otherwise, also with
an instruction whose name only begins like a header, has none. -/
def take (chars : List Char) : Option (Header × List Char) :=
  match dropWord "<?xml".toList chars with
  | none => some (absent, chars)
  | some rest =>
      if (rest.head?.map isSpace).getD false then do
        let (inside, rest) ← cutAt ['?', '>'] rest
        return (← ofInside inside, rest)
      else some (absent, chars)

end Header
end Markup
end Worksheet
