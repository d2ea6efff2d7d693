import Worksheet.Markup.Expansion
import Worksheet.Markup.Namespace
import Worksheet.Markup.Node

namespace Worksheet
namespace Markup

/-!
# Elements from tokens

Tokens in which no entity is left are assembled to the tree of an element.  Its
attributes are those of its tag and those that have a default value, and its
names are understood in the scope of its place.
-/

/-- An element that is still open. -/
structure OpenElement where
  spelling : List Char
  tag : String
  attributes : List (String × String)
  scope : Scope
  /-- The content so far, the last node first. -/
  content : List Node

namespace OpenElement

def add (element : OpenElement) (node : Node) : OpenElement :=
  { element with content := node :: element.content }

def close (element : OpenElement) : Node :=
  .element element.tag element.attributes element.content.reverse

end OpenElement

/-- The attributes that are given in a tag and those that have a default value,
with their values. -/
def attributeValues (declarations : Declarations) (name : QualifiedName)
    (raw : List RawAttribute) : Option (List (QualifiedName × List Char)) := do
  let element := name.spelling
  let names := raw.map RawAttribute.name
  if names.eraseDups.length ≠ names.length then none
  let given ← raw.mapM fun entry => do
    let value ← expandValue declarations entry.pieces
    let reduced := ((declarations.attribute? element entry.name).map (·.reduced)).getD false
    return (entry.name, if reduced then reduceSpaces value else value)
  return given ++ (declarations.defaults element).filter fun entry => !names.contains entry.1

/-- Open an element in a scope. -/
def openElement (declarations : Declarations) (scope : Scope) (name : QualifiedName)
    (raw : List RawAttribute) : Option OpenElement := do
  let entries ← attributeValues declarations name raw
  let scope ← scope.extend entries
  return ⟨name.spelling, ← scope.tag? name, ← scope.attributes? entries, scope, []⟩

/-- The scope within the innermost open element. -/
def innermostScope : List OpenElement → Scope
  | [] => Scope.outermost
  | element :: _ => element.scope

/-- Assemble tokens to the tree of the first element.  The list holds the open
elements, the innermost first. -/
def assemble (declarations : Declarations) : List OpenElement → List Token → Option Node
  | element :: outer, .text chars :: later =>
      assemble declarations (element.add (.text (String.ofList chars)) :: outer) later
  | elements, .opening name raw _ :: later => do
      let element ← openElement declarations (innermostScope elements) name raw
      assemble declarations (element :: elements) later
  | [element], [.closing spelling] =>
      if spelling = element.spelling then some element.close else none
  | element :: parent :: outer, .closing spelling :: later =>
      if spelling = element.spelling then
        assemble declarations (parent.add element.close :: outer) later
      else none
  | _, _ => none

end Markup
end Worksheet
