import Worksheet.Markup.Name

namespace Worksheet
namespace Markup

/-!
# References

A reference stands for a character, given by its number, or for an entity, given
by its name.  Five names are declared from the beginning and stand for single
characters; all others are declared by the document.
-/

inductive Reference where
  | character (char : Char)
  | entity (name : List Char)
deriving DecidableEq

/-- The value of a digit in a base of at most sixteen. -/
def digitIn? (base : Nat) (char : Char) : Option Nat :=
  let value :=
    if '0' ≤ char ∧ char ≤ '9' then char.toNat - '0'.toNat
    else if 'a' ≤ char ∧ char ≤ 'f' then char.toNat - 'a'.toNat + 10
    else if 'A' ≤ char ∧ char ≤ 'F' then char.toNat - 'A'.toNat + 10
    else base
  if value < base then some value else none

/-- The number that a text of digits shows, if there is at least one. -/
def numberIn? (base : Nat) : List Char → Option Nat
  | [] => none
  | digits => digits.foldlM (fun total char => (base * total + ·) <$> digitIn? base char) 0

/-- The legal character with a number. -/
def legalChar? (code : Nat) : Option Char :=
  if code.isValidChar ∧ isLegal (Char.ofNat code) then some (Char.ofNat code) else none

/-- The character that a predeclared name stands for. -/
def predeclared? (name : List Char) : Option Char :=
  if name = "amp".toList then some '&'
  else if name = "lt".toList then some '<'
  else if name = "gt".toList then some '>'
  else if name = "quot".toList then some '\x22'
  else if name = "apos".toList then some '\x27'
  else none

/-- Split a reference off a text that begins behind its ampersand. -/
def takeReference (source : Source) (chars : List Char) : Option (Reference × List Char) := do
  let (inner, rest) ← cutAt [';'] chars
  match inner with
  | '#' :: 'x' :: digits => do
      let char ← legalChar? (← numberIn? 16 digits)
      return (.character char, rest)
  | '#' :: digits => do
      let char ← legalChar? (← numberIn? 10 digits)
      return (.character char, rest)
  | inner =>
      match takeName source inner with
      | some (name, []) => return (.entity name, rest)
      | _ => none

/-! ## Values of attributes -/

/-- A character of a value, or an entity whose text belongs there. -/
inductive Piece where
  | char (char : Char)
  | entity (name : List Char)

def Piece.isChar : Piece → Bool
  | char _ => true
  | entity _ => false

/-- Cut a value with single line ends into pieces.  White space becomes a space;
a character given by its number stays as it is. -/
def cutValue (source : Source) : (steps : Nat) → List Char → Option (List Piece)
  | 0, _ => none
  | _ + 1, [] => some []
  | steps + 1, '&' :: rest => do
      let (reference, rest) ← takeReference source rest
      let later ← cutValue source steps rest
      match reference with
      | .character char => return .char char :: later
      | .entity name => return .entity name :: later
  | steps + 1, char :: rest =>
      if char = '<' then none
      else (cutValue source steps rest).map (.char (if isSpace char then ' ' else char) :: ·)

/-- The pieces of a value. -/
def piecesOfValue (source : Source) (value : List Char) : Option (List Piece) :=
  let chars := source.endLines value
  cutValue source (chars.length + 1) chars

end Markup
end Worksheet
