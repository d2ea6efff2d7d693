namespace Worksheet
namespace Markup

/-!
# Documents as trees

An element has a tag, attributes and content; the content is a list of elements
and stretches of text.  Comments and processing instructions are no part of the
tree, and two stretches of text may be neighbours.
-/

inductive Node where
  | text (text : String)
  | element (tag : String) (attributes : List (String × String)) (content : List Node)

namespace Node

def tag : Node → String
  | text _ => ""
  | element tag _ _ => tag

def content : Node → List Node
  | text _ => []
  | element _ _ content => content

/-- The value of an attribute. -/
def attribute? (name : String) : Node → Option String
  | text _ => none
  | element _ attributes _ => attributes.lookup name

def isElementWith (name : String) : Node → Bool
  | text _ => false
  | element tag _ _ => tag == name

/-- The elements with a tag in the content of a node, in their order. -/
def children (name : String) (node : Node) : List Node :=
  node.content.filter (isElementWith name)

/-- The characters that stand before the first element of a content. -/
def charsBeforeElements : List Node → List Char
  | text stretch :: later => stretch.toList ++ charsBeforeElements later
  | _ => []

/-- The text of a node before its first element. -/
def leadingText (node : Node) : String :=
  String.ofList (charsBeforeElements node.content)

end Node
end Markup
end Worksheet
