import Worksheet.Markup.Character
import Worksheet.Markup.Encoding

namespace Worksheet
namespace Markup

/-!
# Sources of text

A text to be read stands in a document or in the declaration of an entity.
What an entity stands for is kept in UTF-8, and its line ends were made single
line feeds when it was declared.  A carriage return that is left in it was given
by its number and is no line end.
-/

inductive Source where
  | document (encoding : Encoding)
  | entity

namespace Source

/-- Whether the text is in UTF-8. -/
def isUtf8 : Source → Bool
  | document encoding => encoding.isUtf8
  | entity => true

/-- A stretch of the text with its line ends made single line feeds. -/
def endLines : Source → List Char → List Char
  | document _, chars => normalizeLineEnds chars
  | entity, chars => chars

theorem endLines_eq_self (source : Source) {chars : List Char} (clean : '\r' ∉ chars) :
    source.endLines chars = chars := by
  cases source with
  | document encoding => exact normalizeLineEnds_eq_self clean
  | entity => rfl

end Source
end Markup
end Worksheet
