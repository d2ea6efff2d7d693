import Worksheet.Markup.Element
import Worksheet.Markup.Header
import Worksheet.Markup.Prolog

namespace Worksheet
namespace Markup

/-!
# Reading documents

A document is a header, a prolog, one element, and nothing but space, comments
and processing instructions after it.  The tokens of the element are cut from
the text, the texts of declared entities are put in, and the tokens are
assembled to a tree.  Whatever breaks a rule makes the whole document
unreadable; no partial tree is ever returned.

The first bytes of a document tell how wide its characters are and, if they are
two bytes wide, in which order.  A document of single bytes is in UTF-8 unless
its header states one of the two other encodings that are known.  A header that
contradicts the first bytes makes the document unreadable, as do bytes that the
encoding does not allow.
-/

/-- Whether nothing but space, comments and processing instructions is left. -/
def isEpilog (source : Source) : (steps : Nat) → List Char → Bool
  | 0, _ => false
  | steps + 1, chars =>
      match skipSpace chars with
      | [] => true
      | '<' :: '?' :: rest =>
          match skipInstruction source rest with
          | some rest => isEpilog source steps rest
          | none => false
      | '<' :: '!' :: '-' :: '-' :: rest =>
          match skipComment rest with
          | some rest => isEpilog source steps rest
          | none => false
      | _ => false

/-- A mark that may stand before everything else in a document. -/
def byteOrderMark : Char := '\ufeff'

def dropByteOrderMark : List Char → List Char
  | [] => []
  | char :: rest => if char = byteOrderMark then rest else char :: rest

/-- Read a document of some bytes in an encoding from its characters without the
byte order mark. -/
def readChars (encoding : Encoding) (size : Nat) (chars : List Char) : Option Node := do
  if chars.all isLegal then
    let source := Source.document encoding
    let (header, rest) ← Header.take chars
    let (marks, rest) ← marksOfProlog source (rest.length + 1) rest
    let declarations ← readProlog source (Declarations.none size header.standsAlone) marks
    let (tokens, behind) ← tokensOfElement source (rest.length + 1) 0 rest
    if isEpilog source (behind.length + 1) behind
        && isTolerable encoding declarations tokens rest then
      assemble declarations [] (← expandContent declarations tokens)
    else none
  else none

/-! ## Documents as bytes -/

/-- Read a document of single bytes from what follows its byte order mark. -/
def readNarrow (size : Nat) (bytes : List UInt8) : Option Node := do
  let (header, _) ← Header.take (Encoding.ofLatin bytes)
  let encoding ← match header.encoding with
    | none => some .utf8
    | some name => Encoding.ofName? name
  readChars encoding size (← encoding.decode bytes)

/-- Read a document of pairs of bytes from what follows its byte order mark. -/
def readWide (bigEndian : Bool) (size : Nat) (bytes : List UInt8) : Option Node := do
  let chars ← (Encoding.wide bigEndian).decode bytes
  let (header, _) ← Header.take chars
  if header.encoding.all (Encoding.allowsName bigEndian) then
    readChars (.wide bigEndian) size chars
  else none

/-- The byte order of a document of pairs of bytes, for which the first bytes speak,
and what follows the byte order mark of a document. -/
def layoutOf : List UInt8 → Option Bool × List UInt8
  | 0xFE :: 0xFF :: rest => (some true, rest)
  | 0xFF :: 0xFE :: rest => (some false, rest)
  | 0xEF :: 0xBB :: 0xBF :: rest => (none, rest)
  | 0 :: second :: rest => (some true, 0 :: second :: rest)
  | first :: 0 :: rest => (some false, first :: 0 :: rest)
  | bytes => (none, bytes)

/-- Read a document from its bytes. -/
def readBytes (bytes : List UInt8) : Option Node :=
  match layoutOf bytes with
  | (some bigEndian, rest) => readWide bigEndian bytes.length rest
  | (none, rest) => readNarrow bytes.length rest

/-! ## Documents as text -/

/-- The byte order for which the first two bytes of a text in UTF-8 speak,
because one of them is zero. -/
def byteOrder? : List Char → Option Bool
  | '\x00' :: _ :: _ => some true
  | first :: '\x00' :: _ => if first.utf8Size = 1 then some false else none
  | _ => none

/-- Read a document from a text.  It is read from the bytes of the text, but the
encoding that its header states has no meaning. -/
def readText (text : String) : Option Node :=
  let encoding := ((byteOrder? text.toList).map Encoding.wide).getD .utf8
  let bytes := bytesOfText text
  (encoding.decode bytes).bind fun chars =>
    readChars encoding bytes.length (dropByteOrderMark chars)

/-- A text whose first two bytes speak for no byte order is read as it stands. -/
theorem readText_eq_readChars {text : String} (plain : byteOrder? text.toList = none) :
    readText text =
      readChars .utf8 (bytesOfText text).length (dropByteOrderMark text.toList) := by
  simp only [readText, plain, Option.map_none, Option.getD_none, decode_bytesOfText,
    Option.bind_some]

end Markup
end Worksheet
