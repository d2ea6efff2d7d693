import Worksheet.Markup.Portion
import Worksheet.Text.CodePoint
import Worksheet.Text.Numeral

namespace Worksheet
namespace Markup

open Text

/-!
# Faults of encoding

A document that breaks a rule is merely unreadable.  Beside that it may turn out that
a text cannot be encoded, that nobody knows the encoding of a document, or that a
part of it is no longer UTF-8 when it is passed on.
-/

inductive Fault where
  | notEncodable (surrogates : Surrogates)
  | unknownEncoding (name : String)
  | notDecodable (severed : Severed)
deriving DecidableEq, Repr

namespace Fault

/-- Something that fills some places, from the first to the last. -/
def atPlaces (first last : Nat) : String :=
  " in position " ++ String.ofList (decimalDigits first) ++
    (if first = last then "" else "-" ++ String.ofList (decimalDigits last))

/-- The surrogates that cannot be encoded.  A single one is shown. -/
def describeSurrogates (surrogates : Surrogates) : String :=
  (if surrogates.more = 0 then
    "character '\\u" ++ String.ofList (lowerHexadecimal 4 (0xD800 + surrogates.first.val)) ++ "'"
  else "characters") ++
    atPlaces surrogates.position (surrogates.position + surrogates.more)

/-- The bytes that are left of a character.  A single one is shown. -/
def describeSevered (severed : Severed) : String :=
  (if severed.char.utf8Size = 2 then
    "byte 0x" ++ String.ofList (lowerHexadecimal 2 (0xC0 + severed.char.toNat / 64))
  else "bytes") ++
    atPlaces severed.position (severed.position + severed.char.utf8Size - 2)

def message : Fault → String
  | notEncodable surrogates =>
      "'utf-8' codec can't encode " ++ describeSurrogates surrogates ++ ": surrogates not allowed"
  | unknownEncoding name => "unknown encoding: " ++ name
  | notDecodable severed =>
      "'utf-8' codec can't decode " ++ describeSevered severed ++ ": unexpected end of data"

end Fault
end Markup
end Worksheet
