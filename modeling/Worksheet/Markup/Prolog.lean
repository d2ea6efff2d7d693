import Worksheet.Markup.Portion
import Worksheet.Markup.Volume

namespace Worksheet
namespace Markup

/-!
# The prolog

Before its root element a document may hold comments, processing instructions
and one declaration of its type, with further declarations inside.  The text is
first cut into marks.  Most marks must be followed by certain characters, so
that two of them do not run into each other.
-/

inductive Mark where
  | space
  /-- A comment or a processing instruction. -/
  | remark
  | opening (keyword : List Char)
  | closing
  | leftBracket
  | rightBracket
  | leftParenthesis
  | rightParenthesis (repetition : Option Char)
  | comma
  | bar
  | percent
  | parameter
  | pound (name : List Char)
  | literal (chars : List Char)
  | name (name : List Char)
  | qualified (name : QualifiedName)
  /-- A name with a sign of repetition. -/
  | repeatedName
  /-- A text of name characters that is no name. -/
  | nameToken
deriving DecidableEq

/-- Whether a text goes on with a space or one of the given characters. -/
def goesOn (allowed : List Char) : List Char → Bool
  | [] => false
  | char :: _ => isSpace char || allowed.contains char

/-- Whether a character is a sign of repetition. -/
def isRepetition (char : Char) : Bool :=
  char == '?' || char == '*' || char == '+'

/-- Whether a character may stand in the keyword of a declaration. -/
def isKeywordChar (char : Char) : Bool :=
  char.isAlpha || char == '_'

/-- The kind of a text of name characters and colons. -/
def Mark.ofNameChars (source : Source) (chars : List Char) : Mark :=
  match takeName source chars with
  | none => nameToken
  | some (first, []) => name first
  | some (first, rest) =>
      let localPart := rest.drop 1
      if localPart ≠ [] ∧ localPart.all (isNameChar source) then qualified ⟨some first, localPart⟩
      else nameToken

/-- Split a mark that begins with a character of names or a colon off a text. -/
def takeNameMark (source : Source) (chars : List Char) : Option (Mark × List Char) :=
  let belongs := fun char => isNameChar source char || char == ':'
  let mark := Mark.ofNameChars source (chars.takeWhile belongs)
  match chars.dropWhile belongs with
  | [] => none
  | next :: rest =>
      if isRepetition next then if mark = .nameToken then none else some (.repeatedName, rest)
      else if goesOn ['>', ')', ',', '|', '[', '%'] (next :: rest) then some (mark, next :: rest)
      else none

/-- Split one mark off a text that is not empty. -/
def takeMark (source : Source) : List Char → Option (Mark × List Char)
  | '<' :: '?' :: rest => do return (.remark, ← skipInstruction source rest)
  | '<' :: '!' :: rest =>
      match dropWord "--".toList rest with
      | some rest => do return (.remark, ← skipComment rest)
      | none =>
          let keyword := rest.takeWhile isKeywordChar
          let rest := rest.dropWhile isKeywordChar
          if keyword ≠ [] ∧ goesOn [] rest then some (.opening keyword, rest) else none
  | '>' :: rest => some (.closing, rest)
  | '[' :: rest => some (.leftBracket, rest)
  | ']' :: rest => some (.rightBracket, rest)
  | '(' :: rest => some (.leftParenthesis, rest)
  | ')' :: next :: rest =>
      if isRepetition next then some (.rightParenthesis (some next), rest)
      else if goesOn ['>', ',', '|', ')'] (next :: rest) then
        some (.rightParenthesis none, next :: rest)
      else none
  | ',' :: rest => some (.comma, rest)
  | '|' :: rest => some (.bar, rest)
  | '%' :: rest =>
      if goesOn ['%'] rest then some (.percent, rest)
      else do
        let (_, rest) ← takeName source rest
        match rest with
        | ';' :: rest => return (.parameter, rest)
        | _ => none
  | '#' :: rest => do
      let (name, rest) ← takeName source rest
      if goesOn [')', '>', '%', '|'] rest then return (.pound name, rest) else none
  | char :: rest =>
      if isSpace char then some (.space, skipSpace rest)
      else if isEnclosure char then do
        let (chars, rest) ← cutAt [char] rest
        if goesOn ['>', '%', '['] rest then return (.literal chars, rest) else none
      else if isNameChar source char || char == ':' then takeNameMark source (char :: rest)
      else none
  | [] => none

/-- Whether a text begins with an element. -/
def beginsElement (source : Source) : List Char → Bool
  | '<' :: char :: _ => isNameStart source char
  | _ => false

/-- The marks before the root element, and the text from there on. -/
def marksOfProlog (source : Source) : (steps : Nat) → List Char →
    Option (List Mark × List Char)
  | 0, _ => none
  | steps + 1, chars =>
      if beginsElement source chars then some ([], chars)
      else do
        let (mark, rest) ← takeMark source chars
        let (marks, rest) ← marksOfProlog source steps rest
        return (mark :: marks, rest)

/-! ## Declarations in marks -/

/-- Whether a character may stand in a public identifier. -/
def isPublicChar (char : Char) : Bool :=
  char.isAlphanum || " \n\r-()+,./:=?;!*#@$_%\x27".toList.contains char

def isPublicIdentifier (chars : List Char) : Bool :=
  chars.all isPublicChar

/-- Whether marks name something outside of the document. -/
def isOutside : List Mark → Bool
  | [.name keyword, .literal _] => keyword == "SYSTEM".toList
  | [.name keyword, .literal identifier, .literal _] =>
      keyword == "PUBLIC".toList && isPublicIdentifier identifier
  | _ => false

/-- Read the declaration of an entity, which may be one for use in declarations
alone. -/
def readEntity (source : Source) (declarations : Declarations) (marks : List Mark) :
    Option Declarations :=
  let declareText := fun declare literal =>
    if declarations.counting then
      (entityText? source literal).map fun text => if declare then some (Entity.within text) else none
    else some none
  let finish := fun name entity =>
    match entity with
    | some entity =>
        if declarations.counting then declarations.declareEntity name entity else declarations
    | none => declarations
  match marks with
  | [.name name, .literal literal] => (declareText true literal).map (finish name)
  | [.percent, .name _, .literal literal] => (declareText false literal).map fun _ => declarations
  | .percent :: .name _ :: outside => if isOutside outside then some declarations else none
  | .name name :: outside =>
      let unparsed := match outside.reverse with
        | .name _ :: .name keyword :: front => keyword == "NDATA".toList && isOutside front.reverse
        | _ => false
      if isOutside outside then some (finish name (some .outside))
      else if unparsed then some (finish name (some .unparsed))
      else none
  | _ => none

/-- Whether marks declare a notation. -/
def isNotation : List Mark → Bool
  | [.name _, .name keyword, .literal identifier] =>
      keyword == "SYSTEM".toList || (keyword == "PUBLIC".toList && isPublicIdentifier identifier)
  | .name _ :: outside => isOutside outside
  | _ => false

/-- Whether marks are the rest of a model of mixed content. -/
def isMixedModel : List Mark → Bool
  | [.rightParenthesis (some sign)] => sign == '*'
  | .bar :: .name _ :: later => isMixedModel later
  | .bar :: .qualified _ :: later => isMixedModel later
  | _ => false

/-- Whether marks are the rest of a model of content.  The list holds the
connector of each open group, the innermost first; the flag says whether an
item is expected. -/
def isModel : (groups : List (Option Mark)) → (needsItem : Bool) → List Mark → Bool
  | groups, true, .leftParenthesis :: later => isModel (none :: groups) true later
  | groups, true, .name _ :: later => isModel groups false later
  | groups, true, .qualified _ :: later => isModel groups false later
  | groups, true, .repeatedName :: later => isModel groups false later
  | [_], false, [.rightParenthesis _] => true
  | _ :: outer :: groups, false, .rightParenthesis _ :: later => isModel (outer :: groups) false later
  | connector :: groups, false, .comma :: later =>
      connector != some .bar && isModel (some .comma :: groups) true later
  | connector :: groups, false, .bar :: later =>
      connector != some .comma && isModel (some .bar :: groups) true later
  | _, _, _ => false

/-- Whether marks declare the content of an element. -/
def isElementModel : List Mark → Bool
  | [_, .name keyword] => keyword == "EMPTY".toList || keyword == "ANY".toList
  | _ :: .leftParenthesis :: .pound keyword :: later =>
      keyword == "PCDATA".toList && (later == [.rightParenthesis none] || isMixedModel later)
  | _ :: .leftParenthesis :: later => isModel [none] true later
  | _ => false

/-- The spelling of a mark that is a name. -/
def Mark.spelling? : Mark → Option (List Char)
  | name chars => some chars
  | qualified pair => some pair.spelling
  | _ => none

/-- The qualified name of a mark that is a name. -/
def Mark.qualifiedName? : Mark → Option QualifiedName
  | name chars => some ⟨none, chars⟩
  | qualified pair => some pair
  | _ => none

/-- What follows a list of alternatives. -/
def skipAlternatives (isItem : Mark → Bool) : List Mark → Option (List Mark)
  | item :: .rightParenthesis none :: later => if isItem item then some later else none
  | item :: .bar :: later => if isItem item then skipAlternatives isItem later else none
  | _ => none

/-- The types of attributes that have a name of their own. -/
def attributeTypes : List (List Char) :=
  ["CDATA", "ID", "IDREF", "IDREFS", "ENTITY", "ENTITIES", "NMTOKEN", "NMTOKENS"].map String.toList

/-- Read the type of an attribute: whether blanks are reduced, and what
follows. -/
def takeAttributeType : List Mark → Option (Bool × List Mark)
  | .leftParenthesis :: later =>
      (skipAlternatives (fun mark => mark.spelling?.isSome || mark == .nameToken) later).map
        ((true, ·))
  | .name keyword :: later =>
      if keyword = "NOTATION".toList then
        match later with
        | .leftParenthesis :: later =>
            (skipAlternatives (fun mark => match mark with | .name _ => true | _ => false) later).map
              ((true, ·))
        | _ => none
      else if attributeTypes.contains keyword then some (keyword != "CDATA".toList, later)
      else none
  | _ => none

/-- Read what an attribute has without being given: no value, or the value that
is spelled. -/
def takeDefault : List Mark → Option (Option (List Char) × List Mark)
  | .literal literal :: later => some (some literal, later)
  | .pound keyword :: later =>
      if keyword = "IMPLIED".toList ∨ keyword = "REQUIRED".toList then some (none, later)
      else if keyword = "FIXED".toList then
        match later with
        | .literal literal :: later => some (some literal, later)
        | _ => none
      else none
  | _ => none

/-- The default value of an attribute, and the declarations with what its
references bring in.  Nothing is put in beyond the limit. -/
def readDefault (source : Source) (declarations : Declarations) (reduced : Bool)
    (literal : List Char) : Option (List Char × Declarations) := do
  let pieces ← piecesOfValue source literal
  let weights : Weights := if pieces.all Piece.isChar then [] else declarations.weights
  let added := declarations.added + weights.ofPieces pieces
  if added < declarations.limit then do
    let value ← expandValue declarations pieces
    return (if reduced then reduceSpaces value else value, { declarations with added := added })
  else none

/-- Read the declarations of the attributes of an element. -/
def readAttributes (source : Source) (element : List Char) : (steps : Nat) → Declarations →
    List Mark → Option Declarations
  | _, declarations, [] => some declarations
  | 0, _, _ => none
  | steps + 1, declarations, mark :: later => do
      let name ← mark.qualifiedName?
      let (reduced, later) ← takeAttributeType later
      let (literal, later) ← takeDefault later
      if declarations.counting then
        match literal with
        | none =>
            readAttributes source element steps
              (declarations.declareAttribute ⟨element, name, reduced, none⟩) later
        | some literal => do
            let (value, declarations) ← readDefault source declarations reduced literal
            readAttributes source element steps
              (declarations.declareAttribute ⟨element, name, reduced, some value⟩) later
      else readAttributes source element steps declarations later

/-- Read one declaration from its keyword and its marks without spaces. -/
def readDeclaration (source : Source) (declarations : Declarations) (keyword : List Char)
    (marks : List Mark) : Option Declarations :=
  if keyword = "ENTITY".toList then readEntity source declarations marks
  else if keyword = "NOTATION".toList then if isNotation marks then some declarations else none
  else
    match marks with
    | [] => none
    | mark :: later => do
        let element ← mark.spelling?
        if keyword = "ATTLIST".toList then
          readAttributes source element later.length declarations later
        else if keyword = "ELEMENT".toList then
          if isElementModel marks then return declarations else none
        else none

/-- The declarations after a reference to declarations that are not read. -/
def Declarations.afterReference (declarations : Declarations) : Declarations :=
  { declarations with
    refersOutside := true
    counting := declarations.counting && declarations.standsAlone }

/-- A literal as it stands in a document, between its marks. -/
def enclosed (chars : List Char) : List Char :=
  '\x22' :: (chars ++ ['\x22'])

/-- Whether a mark within a declaration can be passed on. -/
def Mark.passes (source : Source) : Mark → Bool
  | literal chars => source.isUtf8 || (mistaken? (enclosed chars)).isNone
  | _ => true

/-- Read the declarations between the brackets, and what follows them. -/
def readSubset (source : Source) : (steps : Nat) → Declarations → List Mark →
    Option (Declarations × List Mark)
  | 0, _, _ => none
  | steps + 1, declarations, marks =>
      match marks with
      | .rightBracket :: later => some (declarations, later)
      | .space :: later => readSubset source steps declarations later
      | .remark :: later => readSubset source steps declarations later
      | .parameter :: later => readSubset source steps declarations.afterReference later
      | .opening keyword :: later =>
          let body := later.takeWhile (· != .closing)
          match later.dropWhile (· != .closing) with
          | .closing :: later =>
              if body.all (Mark.passes source) then do
                let marks := body.filter (· != .space)
                let declarations ← readDeclaration source declarations keyword marks
                readSubset source steps declarations later
              else none
          | _ => none
      | _ => none

/-- Whether marks stand outside of declarations. -/
def areRemarks (marks : List Mark) : Bool :=
  marks.all fun mark => mark == .space || mark == .remark

/-- Read what stands before the brackets of the declaration of the type of a
document, and tell what follows it. -/
def readDoctypeHeader (declarations : Declarations) (marks : List Mark) :
    Option (Declarations × List Mark) := do
  let isHeader := fun (mark : Mark) => mark != .closing && mark != .leftBracket
  let header := (marks.takeWhile isHeader).filter (· != .space)
  let refersOutside ← match header with
    | [] => none
    | name :: outside => do
        let _ ← name.spelling?
        if outside.isEmpty then some false
        else if isOutside outside then some true
        else none
  return ({ declarations with refersOutside := refersOutside }, marks.dropWhile isHeader)

/-- Read the declaration of the type of a document, behind its keyword. -/
def readDoctype (source : Source) (declarations : Declarations) (marks : List Mark) :
    Option Declarations := do
  let (declarations, marks) ← readDoctypeHeader declarations marks
  match marks with
  | .closing :: later => if areRemarks later then return declarations else none
  | .leftBracket :: later => do
      let (declarations, later) ← readSubset source (later.length + 1) declarations later
      match later.dropWhile (· == .space) with
      | .closing :: later => if areRemarks later then return declarations else none
      | _ => none
  | _ => none

/-- Read the marks of a prolog, given the declarations of a document without one. -/
def readProlog (source : Source) (declarations : Declarations) (marks : List Mark) :
    Option Declarations :=
  match marks.dropWhile fun mark => mark == .space || mark == .remark with
  | [] => some declarations
  | .opening keyword :: later =>
      if keyword = "DOCTYPE".toList then readDoctype source declarations later else none
  | _ => none

end Markup
end Worksheet
