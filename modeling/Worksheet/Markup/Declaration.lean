import Worksheet.Markup.Reference

namespace Worksheet
namespace Markup

/-!
# Declarations of a document

A document may declare entities, which stand for texts, and attributes, which
may have default values and may have their blanks reduced.  Of two declarations
of one entity or of one attribute the first counts.

A document may also refer to declarations outside of it.  These are not read.
Unless the document says that it stands alone, an entity without a declaration
may then be declared there: in the value of an attribute it counts as empty,
and declarations behind such a reference count for nothing.
-/

inductive Entity where
  /-- The entity stands for a character, as the predeclared ones do. -/
  | character (char : Char)
  /-- The entity stands for a text within the document. -/
  | within (text : List Char)
  /-- The entity stands for something outside of the document. -/
  | outside
  /-- The entity stands for something outside of the document that is no text. -/
  | unparsed

structure AttributeDeclaration where
  element : List Char
  name : QualifiedName
  /-- Whether the blanks of a value are reduced. -/
  reduced : Bool
  default : Option (List Char)

structure Declarations where
  /-- The number of bytes of the document. -/
  size : Nat
  standsAlone : Bool
  /-- Whether the document refers to declarations outside of it. -/
  refersOutside : Bool
  /-- Whether declarations still count. -/
  counting : Bool
  /-- The number of bytes that references in default values have brought in. -/
  added : Nat
  entities : List (List Char × Entity)
  attributes : List AttributeDeclaration

namespace Declarations

def none (size : Nat) (standsAlone : Bool) : Declarations :=
  ⟨size, standsAlone, false, true, 0, [], []⟩

/-- Whether every entity must have been declared. -/
def strict (declarations : Declarations) : Bool :=
  declarations.standsAlone || !declarations.refersOutside

/-- What a name stands for.  The predeclared names cannot be given away. -/
def entity? (declarations : Declarations) (name : List Char) : Option Entity :=
  match predeclared? name with
  | some char => some (.character char)
  | Option.none => declarations.entities.lookup name

/-- A depth to which references can be followed without meeting one entity
within itself. -/
def depth (declarations : Declarations) : Nat :=
  declarations.entities.length + 1

/-- Declare an entity.  An earlier declaration of the name is found first. -/
def declareEntity (declarations : Declarations) (name : List Char) (entity : Entity) :
    Declarations :=
  { declarations with entities := declarations.entities ++ [(name, entity)] }

/-- The declaration that counts for an attribute of an element. -/
def attribute? (declarations : Declarations) (element : List Char) (name : QualifiedName) :
    Option AttributeDeclaration :=
  declarations.attributes.find? fun declaration =>
    declaration.element == element && declaration.name == name

/-- The attributes of an element that have a default value. -/
def defaults (declarations : Declarations) (element : List Char) :
    List (QualifiedName × List Char) :=
  declarations.attributes.filterMap fun declaration =>
    if declaration.element == element then declaration.default.map ((declaration.name, ·))
    else Option.none

def declareAttribute (declarations : Declarations) (declaration : AttributeDeclaration) :
    Declarations :=
  if (declarations.attribute? declaration.element declaration.name).isSome then declarations
  else { declarations with attributes := declarations.attributes ++ [declaration] }

end Declarations

/-! ## Values of attributes -/

/-- Drop the spaces that follow a space or begin the value. -/
def joinSpaces : (afterSpace : Bool) → List Char → List Char
  | _, [] => []
  | afterSpace, char :: rest =>
      if char = ' ' then if afterSpace then joinSpaces true rest else ' ' :: joinSpaces true rest
      else char :: joinSpaces false rest

/-- The value without spaces at its ends and with single spaces within. -/
def reduceSpaces (value : List Char) : List Char :=
  let joined := joinSpaces true value
  if joined.getLast? = some ' ' then joined.dropLast else joined

/-! ## Texts of entities -/

/-- Put the characters that are given by their number into the text of an
entity, a carriage return like any other.  References to entities stay for
later. -/
def resolveText (source : Source) : (steps : Nat) → List Char → Option (List Char)
  | 0, _ => none
  | _ + 1, [] => some []
  | steps + 1, '&' :: rest => do
      let (reference, rest) ← takeReference source rest
      let later ← resolveText source steps rest
      match reference with
      | .character char => return char :: later
      | .entity name => return '&' :: name ++ ';' :: later
  | steps + 1, char :: rest =>
      if char = '%' then none else (resolveText source steps rest).map (char :: ·)

/-- The text of an entity that is declared with a literal. -/
def entityText? (source : Source) (literal : List Char) : Option (List Char) :=
  let chars := source.endLines literal
  resolveText source (chars.length + 1) chars

end Markup
end Worksheet
