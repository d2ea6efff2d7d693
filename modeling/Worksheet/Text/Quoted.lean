import Worksheet.Text.Numeral
import Worksheet.Text.Printable

namespace Worksheet
namespace Text

/-!
# Quoted text

Messages show a text between quotation marks.  The apostrophe is the mark
unless the text holds an apostrophe and no double quotation mark.  Inside, the
mark and the backslash are preceded by a backslash, three control characters
have a letter of their own, and every other character that is not printable is
shown by its code point in the shortest of three hexadecimal forms.
-/

namespace Quoted

def apostrophe : Char := '\x27'

def quotationMark : Char := '\x22'

/-- The mark that encloses the text. -/
def enclosure (chars : List Char) : Char :=
  if chars.contains apostrophe && !chars.contains quotationMark then quotationMark
  else apostrophe

/-- A code point in the shortest form that holds it. -/
def escapeCode (code : Nat) : List Char :=
  if code < 0x100 then '\\' :: 'x' :: lowerHexadecimal 2 code
  else if code < 0x10000 then '\\' :: 'u' :: lowerHexadecimal 4 code
  else '\\' :: 'U' :: lowerHexadecimal 8 code

/-- One character as it stands between two marks. -/
def escape (mark char : Char) : List Char :=
  if char = mark ∨ char = '\\' then ['\\', char]
  else if char = '\n' then ['\\', 'n']
  else if char = '\r' then ['\\', 'r']
  else if char = '\t' then ['\\', 't']
  else if isPrintable char then [char]
  else escapeCode char.toNat

end Quoted

/-- The text between quotation marks. -/
def quoted (text : String) : String :=
  let chars := text.toList
  let mark := Quoted.enclosure chars
  String.ofList (mark :: chars.flatMap (Quoted.escape mark) ++ [mark])

end Text
end Worksheet
