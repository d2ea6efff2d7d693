import Worksheet.Markup.Reference

namespace Worksheet
namespace Markup

/-!
# Tokens of content

The content of an element is cut into tags, stretches of text and references to
entities.  References to characters and sections of literal text are resolved at
once; comments and processing instructions leave no token.

A text is cut in steps that each use up at least one character, so the length
of the text bounds their number.
-/

/-- An attribute of a tag. -/
structure RawAttribute where
  name : QualifiedName
  /-- The value as it is spelled between its marks. -/
  spelling : List Char
  pieces : List Piece

inductive Token where
  | text (chars : List Char)
  | entity (name : List Char)
  /-- A tag that opens an element.  One that closes it as well is followed by a
  token that does so. -/
  | opening (name : QualifiedName) (attributes : List RawAttribute) (closed : Bool)
  | closing (spelling : List Char)

/-- The quotation mark and the apostrophe enclose values. -/
def isEnclosure (char : Char) : Bool :=
  char == '\x22' || char == '\x27'

/-- Split a value off a text that begins with one of the two marks. -/
def takeEnclosed : List Char → Option (List Char × List Char)
  | [] => none
  | mark :: rest => if isEnclosure mark then cutAt [mark] rest else none

/-- Split an attribute off a text. -/
def takeAttribute (source : Source) (chars : List Char) : Option (RawAttribute × List Char) := do
  let (name, rest) ← takeQualifiedName source chars
  match skipSpace rest with
  | '=' :: rest => do
      let (spelling, rest) ← takeEnclosed (skipSpace rest)
      return (⟨name, spelling, ← piecesOfValue source spelling⟩, rest)
  | _ => none

/-- Read attributes up to the end of a tag.  The flag says whether the tag
closes its element as well. -/
def takeAttributes (source : Source) : (steps : Nat) → List Char →
    Option (List RawAttribute × Bool × List Char)
  | 0, _ => none
  | steps + 1, chars =>
      match skipSpace chars with
      | '>' :: rest => some ([], false, rest)
      | '/' :: '>' :: rest => some ([], true, rest)
      | others =>
          if (chars.head?.map isSpace).getD false then do
            let (first, rest) ← takeAttribute source others
            let (later, closed, rest) ← takeAttributes source steps rest
            return (first :: later, closed, rest)
          else none

/-- Split a tag off a text that begins behind the opening bracket. -/
def takeOpening (source : Source) (steps : Nat) (chars : List Char) :
    Option (List Token × List Char) := do
  let (name, rest) ← takeQualifiedName source chars
  let (attributes, closed, rest) ← takeAttributes source steps rest
  let tag := Token.opening name attributes closed
  return (if closed then [tag, .closing name.spelling] else [tag], rest)

/-- Split a closing tag off a text that begins behind the stroke. -/
def takeClosing (source : Source) (chars : List Char) : Option (List Token × List Char) := do
  let (name, rest) ← takeQualifiedName source chars
  match skipSpace rest with
  | '>' :: rest => return ([.closing name.spelling], rest)
  | _ => none

/-- What follows a comment, in a text that begins behind the opening of the
comment.  Two hyphens end it and must be followed by a bracket. -/
def skipComment (chars : List Char) : Option (List Char) := do
  let (_, rest) ← cutAt ['-', '-'] chars
  match rest with
  | '>' :: rest => return rest
  | _ => none

/-- Whether a name is the word `xml` in any mixture of cases, which no
processing instruction may have. -/
def isReservedTarget (name : List Char) : Bool :=
  name.map Char.toLower == "xml".toList

/-- What follows a processing instruction, in a text that begins with the name
of the instruction. -/
def skipInstruction (source : Source) (chars : List Char) : Option (List Char) := do
  let (name, rest) ← takeName source chars
  if isReservedTarget name then none
  else
    match rest with
    | '?' :: '>' :: rest => return rest
    | char :: _ =>
        if isSpace char then do
          let (_, rest) ← cutAt ['?', '>'] rest
          return rest
        else none
    | [] => none

/-- Whether a character of a text is neither a bracket nor an ampersand. -/
def isPlain (char : Char) : Bool :=
  char != '<' && char != '&'

/-- Split the tokens of one part of content off a text that is not empty.  A
stretch of text must not hold the end mark of a section of literal text.  The
steps are enough if they are at least as many as the characters. -/
def takePart (source : Source) (steps : Nat) : List Char → Option (List Token × List Char)
  | '<' :: '/' :: rest => takeClosing source rest
  | '<' :: '?' :: rest => do return ([], ← skipInstruction source rest)
  | '<' :: '!' :: rest =>
      match dropWord "--".toList rest, dropWord "[CDATA[".toList rest with
      | some rest, _ => do return ([], ← skipComment rest)
      | none, some rest => do
          let (chars, rest) ← cutAt "]]>".toList rest
          return ([.text (source.endLines chars)], rest)
      | none, none => none
  | '<' :: rest => takeOpening source steps rest
  | '&' :: rest => do
      let (reference, rest) ← takeReference source rest
      match reference with
      | .character char => return ([.text [char]], rest)
      | .entity name => return ([.entity name], rest)
  | chars =>
      let plain := chars.takeWhile isPlain
      if (cutAt "]]>".toList plain).isSome then none
      else some ([.text (source.endLines plain)], chars.dropWhile isPlain)

/-- The number of open elements after some tokens, or nothing if one of them
closes an element that is not open. -/
def depthAfter : (depth : Nat) → List Token → Option Nat
  | depth, [] => some depth
  | depth, .opening _ _ _ :: later => depthAfter (depth + 1) later
  | 0, .closing _ :: _ => none
  | depth + 1, .closing _ :: later => depthAfter depth later
  | depth, _ :: later => depthAfter depth later

/-- The tokens of the text of an entity, in which every element is closed. -/
def tokensOfFragment : (steps depth : Nat) → List Char → Option (List Token)
  | 0, _, _ => none
  | _ + 1, depth, [] => if depth = 0 then some [] else none
  | steps + 1, depth, chars => do
      let (tokens, rest) ← takePart .entity steps chars
      let depth ← depthAfter depth tokens
      return tokens ++ (← tokensOfFragment steps depth rest)

/-- The tokens of one element at the beginning of a text, and what follows the
element. -/
def tokensOfElement (source : Source) : (steps depth : Nat) → List Char →
    Option (List Token × List Char)
  | 0, _, _ => none
  | steps + 1, depth, chars => do
      if chars.isEmpty then none
      let (tokens, rest) ← takePart source steps chars
      let depth ← depthAfter depth tokens
      if depth = 0 then return (tokens, rest)
      let (later, rest) ← tokensOfElement source steps depth rest
      return (tokens ++ later, rest)

end Markup
end Worksheet
