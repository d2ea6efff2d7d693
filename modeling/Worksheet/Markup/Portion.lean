import Worksheet.Markup.Encoding

namespace Worksheet
namespace Markup

/-!
# Portions

Parts of a document that belong to nothing in its tree are passed on.  If the
document is not in UTF-8, they are put into UTF-8 first and passed on in portions
that hold as many whole characters as fit.

A portion that begins with an ampersand is taken for a reference to something that
is not declared, which makes the document unreadable.  The last byte of the portion
is taken for the semicolon of the reference and dropped.  If it is the last one of
several bytes of a character, what remains is no UTF-8, and this is what is
complained about.
-/

/-- The number of bytes that a portion holds at most. -/
def portionSize : Nat := 1024

/-- The portions of a text behind the characters that the first one holds already,
the last of them first, and their number of bytes. -/
def portionsBehind (used : Nat) (held : List Char) : List Char → List (List Char)
  | [] => [held.reverse]
  | char :: rest =>
      if used + char.utf8Size ≤ portionSize then
        portionsBehind (used + char.utf8Size) (char :: held) rest
      else held.reverse :: portionsBehind char.utf8Size [char] rest

/-- The portions in which a text is passed on. -/
def portionsOf (text : List Char) : List (List Char) :=
  portionsBehind 0 [] text

/-- The portion of a text that is taken for a reference. -/
def mistaken? (text : List Char) : Option (List Char) :=
  (portionsOf text).find? fun portion => portion.head? == some '&'

/-- A character without its last byte. -/
structure Severed where
  char : Char
  /-- The number of bytes between the ampersand and the character. -/
  position : Nat
deriving DecidableEq, Repr

/-- The character that is severed when a portion is taken for a reference. -/
def severedIn? (portion : List Char) : Option Severed :=
  match portion.getLast? with
  | some last =>
      if last.utf8Size = 1 then none
      else some ⟨last, Encoding.utf8.size portion.dropLast - 1⟩
  | none => none

/-- The character that is severed when a text is passed on. -/
def severed? (text : List Char) : Option Severed :=
  (mistaken? text).bind severedIn?

end Markup
end Worksheet
