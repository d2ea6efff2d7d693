namespace Worksheet
namespace Markup

/-!
# Encodings

A document is a sequence of bytes, and its encoding says which characters they
stand for.  A character takes one byte in two of the encodings, one to four
bytes in UTF-8, and two or four bytes in the wide encoding, which has two byte
orders.
-/

inductive Encoding where
  | utf8
  | latin
  | ascii
  | wide (bigEndian : Bool)
deriving DecidableEq, Repr

namespace Encoding

/-- Whether documents in an encoding are in UTF-8 as well. -/
def isUtf8 : Encoding → Bool
  | utf8 | ascii => true
  | latin | wide _ => false

/-- The number of bytes of a character. -/
def width (encoding : Encoding) (char : Char) : Nat :=
  match encoding with
  | utf8 => char.utf8Size
  | latin | ascii => 1
  | wide _ => if char.toNat < 0x10000 then 2 else 4

/-- The number of bytes of a text. -/
def size (encoding : Encoding) (chars : List Char) : Nat :=
  chars.foldl (fun total char => total + encoding.width char) 0

/-! ## Bytes to characters -/

def ofLatin (bytes : List UInt8) : List Char :=
  bytes.map fun byte => Char.ofNat byte.toNat

/-- Pairs of bytes as numbers of two bytes. -/
def units (bigEndian : Bool) : List UInt8 → Option (List Nat)
  | [] => some []
  | [_] => none
  | first :: second :: later =>
      let (high, low) := if bigEndian then (first, second) else (second, first)
      (units bigEndian later).map ((256 * high.toNat + low.toNat) :: ·)

def isLeadingSurrogate (unit : Nat) : Bool := 0xD800 ≤ unit && unit < 0xDC00

def isTrailingSurrogate (unit : Nat) : Bool := 0xDC00 ≤ unit && unit < 0xE000

/-- Numbers of two bytes as characters.  A leading surrogate takes the ten low
bits of the number behind it, whichever number that is; a trailing surrogate
stands for nothing by itself. -/
def ofUnits : List Nat → Option (List Char)
  | [] => some []
  | unit :: later =>
      if isLeadingSurrogate unit then
        match later with
        | second :: later =>
            let code := 0x10000 + 0x400 * (unit % 0x400) + second % 0x400
            (ofUnits later).map (Char.ofNat code :: ·)
        | [] => none
      else if isTrailingSurrogate unit then none
      else (ofUnits later).map (Char.ofNat unit :: ·)

/-- The characters that bytes stand for. -/
def decode (encoding : Encoding) (bytes : List UInt8) : Option (List Char) :=
  match encoding with
  | utf8 => (String.fromUTF8? ⟨bytes.toArray⟩).map String.toList
  | latin => some (ofLatin bytes)
  | ascii => if bytes.all (· < 128) then some (ofLatin bytes) else none
  | wide bigEndian => (units bigEndian bytes).bind ofUnits

/-! ## Names of encodings -/

/-- The encoding that is meant by a name for a document of single bytes.  There are
further encodings of single bytes, which are given by tables, such as `windows-1252`
and `ISO-8859-15`, and other names for encodings, such as `latin1` and `utf8`.  These
are not known here, although a reader that looks for tables elsewhere may know them. -/
def ofName? (name : List Char) : Option Encoding :=
  let name := name.map Char.toUpper
  if name = "UTF-8".toList then some utf8
  else if name = "ISO-8859-1".toList then some latin
  else if name = "US-ASCII".toList then some ascii
  else none

/-- Whether a name may be stated in a document of pairs of bytes. -/
def allowsName (bigEndian : Bool) (name : List Char) : Bool :=
  let name := name.map Char.toUpper
  name == "UTF-16".toList
    || name == (if bigEndian then "UTF-16BE" else "UTF-16LE").toList

/-- Whether a name means an encoding, if perhaps not the one of the document that
states it. -/
def isKnownName (name : List Char) : Bool :=
  (ofName? name).isSome || allowsName true name || allowsName false name

end Encoding

/-- The bytes of a text. -/
def bytesOfText (text : String) : List UInt8 :=
  text.toByteArray.data.toList

theorem fromUTF8?_bytesOfText (text : String) :
    String.fromUTF8? ⟨(bytesOfText text).toArray⟩ = some text := by
  rw [bytesOfText, Array.toArray_toList]
  exact dif_pos text.isValidUTF8

/-- A text is what its bytes stand for in UTF-8. -/
theorem decode_bytesOfText (text : String) :
    Encoding.utf8.decode (bytesOfText text) = some text.toList := by
  rw [Encoding.decode, fromUTF8?_bytesOfText]
  rfl

end Markup
end Worksheet
