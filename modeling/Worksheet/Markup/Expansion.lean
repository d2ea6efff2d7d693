import Worksheet.Markup.Declaration
import Worksheet.Markup.Token

namespace Worksheet
namespace Markup

/-!
# Texts put in for entities

The text of an entity is read where the entity is referred to: as content in
content, as a part of the value in the value of an attribute.  An entity must
not be met within its own text, which the depth takes care of.
-/

/-- Replace the entities among the pieces of a value by their texts. -/
def expandPieces (declarations : Declarations) : (depth : Nat) → List Piece → Option (List Char)
  | 0, _ => none
  | depth + 1, pieces => do
      let parts ← pieces.mapM fun piece =>
        match piece with
        | .char char => some [char]
        | .entity name =>
            match declarations.entity? name with
            | some (.character char) => some [char]
            | some (.within text) => do
                expandPieces declarations depth (← piecesOfValue .entity text)
            | some .outside | some .unparsed => none
            | none => if declarations.strict then none else some []
      return parts.flatten

/-- The value of an attribute from its pieces. -/
def expandValue (declarations : Declarations) (pieces : List Piece) : Option (List Char) :=
  expandPieces declarations (declarations.depth + 1) pieces

/-- The tokens of the text of an entity. -/
def tokensOfText (text : List Char) : Option (List Token) :=
  tokensOfFragment (text.length + 1) 0 text

/-- Replace the entities among some tokens by their texts.  In the text of an
entity every element must be closed. -/
def expandTokens (declarations : Declarations) : (depth : Nat) → List Token →
    Option (List Token)
  | 0, _ => none
  | depth + 1, tokens => do
      let parts ← tokens.mapM fun token =>
        match token with
        | .entity name =>
            match declarations.entity? name with
            | some (.character char) => some [.text [char]]
            | some (.within text) => do expandTokens declarations depth (← tokensOfText text)
            | _ => none
        | token => some [token]
      return parts.flatten

/-- The content of an element from its tokens. -/
def expandContent (declarations : Declarations) (tokens : List Token) : Option (List Token) :=
  expandTokens declarations (declarations.depth + 1) tokens

end Markup
end Worksheet
