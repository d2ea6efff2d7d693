import Worksheet.Markup.Node

namespace Worksheet
namespace Markup

/-!
# Writing documents

A tree is written without a declaration and without added white space, or as a
file with a declaration and with every element on a line of its own.  In texts
the three characters of markup are replaced; in attributes also the quotation
mark and the characters that reading would change.  An element without content
is written as an empty tag.
-/

/-- A character as it stands in a text. -/
def escapeText (char : Char) : List Char :=
  match char with
  | '&' => "&amp;".toList
  | '<' => "&lt;".toList
  | '>' => "&gt;".toList
  | other => [other]

/-- A character as it stands in the value of an attribute. -/
def escapeAttribute (char : Char) : List Char :=
  match char with
  | '\x22' => "&quot;".toList
  | '\r' => "&#13;".toList
  | '\n' => "&#10;".toList
  | '\t' => "&#09;".toList
  | other => escapeText other

/-- An attribute with a space before it. -/
def writeAttribute (entry : String × String) : List Char :=
  ' ' :: entry.1.toList ++ '=' :: '\x22' :: entry.2.toList.flatMap escapeAttribute ++ ['\x22']

mutual

/-- A node without added white space. -/
def Node.write : Node → List Char
  | .text stretch => stretch.toList.flatMap escapeText
  | .element tag attributes [] =>
      '<' :: tag.toList ++ attributes.flatMap writeAttribute ++ [' ', '/', '>']
  | .element tag attributes (first :: later) =>
      '<' :: tag.toList ++ attributes.flatMap writeAttribute ++ '>' :: Node.writeAll (first :: later)
        ++ '<' :: '/' :: tag.toList ++ ['>']

def Node.writeAll : List Node → List Char
  | [] => []
  | node :: later => node.write ++ Node.writeAll later

end

/-- A new line with two spaces for each level. -/
def lineBreak (level : Nat) : Node :=
  .text (String.ofList ('\n' :: List.replicate (2 * level) ' '))

def Node.isText : Node → Bool
  | .text _ => true
  | .element _ _ _ => false

mutual

/-- Put every element within a node on a line of its own.  Content that holds
text is left as it is. -/
def Node.indent (level : Nat) : Node → Node
  | .text stretch => .text stretch
  | .element tag attributes content =>
      if content.any Node.isText || content.isEmpty then .element tag attributes content
      else .element tag attributes (Node.indentAll (level + 1) content ++ [lineBreak level])

def Node.indentAll (level : Nat) : List Node → List Node
  | [] => []
  | node :: later => lineBreak level :: node.indent level :: Node.indentAll level later

end

/-- A document as text alone. -/
def Node.toText (root : Node) : String :=
  String.ofList root.write

/-- A document as a file: a declaration and an indented tree. -/
def Node.toFile (root : Node) : String :=
  "<?xml version='1.0' encoding='utf-8'?>\n" ++ String.ofList (root.indent 0).write

end Markup
end Worksheet
