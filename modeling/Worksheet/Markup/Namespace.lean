import Worksheet.Markup.Token

namespace Worksheet
namespace Markup

/-!
# Namespaces

Attributes named `xmlns`, alone or as a qualifier, bind qualifiers to namespaces
for an element and everything within it.  A bound name is spelled with its
namespace in braces before the local part.  Attributes without a qualifier are
in no namespace.
-/

/-- The namespaces of qualifiers, the innermost binding first.  The empty
qualifier stands for names without one. -/
abbrev Scope := List (List Char × List Char)

/-- The qualifier that is bound from the beginning. -/
def reservedQualifier : List Char := "xml".toList

/-- The qualifier that binds others. -/
def bindingQualifier : List Char := "xmlns".toList

def reservedNamespace : List Char := "http://www.w3.org/XML/1998/namespace".toList

def bindingNamespace : List Char := "http://www.w3.org/2000/xmlns/".toList

def Scope.outermost : Scope := [(reservedQualifier, reservedNamespace)]

/-- The qualifier that an attribute binds, if it binds one. -/
def boundQualifier? (name : QualifiedName) : Option (List Char) :=
  match name.qualifier with
  | none => if name.localPart = bindingQualifier then some [] else none
  | some qualifier => if qualifier = bindingQualifier then some name.localPart else none

/-- Whether a qualifier may be bound to a namespace. -/
def mayBind (qualifier space : List Char) : Bool :=
  !(qualifier != [] && space == []) && qualifier != bindingQualifier
    && (qualifier == reservedQualifier) == (space == reservedNamespace)
    && space != bindingNamespace && !space.contains '\x7d'

/-- Add the bindings among some attributes to a scope. -/
def Scope.extend (scope : Scope) : List (QualifiedName × List Char) → Option Scope
  | [] => some scope
  | (name, value) :: later =>
      match boundQualifier? name with
      | none => scope.extend later
      | some qualifier =>
          if mayBind qualifier value then Scope.extend ((qualifier, value) :: scope) later
          else none

/-- The spelling of a local part in a namespace. -/
def spellIn (space localPart : List Char) : String :=
  String.ofList ('\x7b' :: space ++ '\x7d' :: localPart)

/-- The tag of an element. -/
def Scope.tag? (scope : Scope) (name : QualifiedName) : Option String :=
  match name.qualifier with
  | none =>
      match scope.lookup [] with
      | none | some [] => some (String.ofList name.localPart)
      | some space => some (spellIn space name.localPart)
  | some qualifier => (scope.lookup qualifier).map (spellIn · name.localPart)

/-- The name of an attribute that binds nothing. -/
def Scope.attributeName? (scope : Scope) (name : QualifiedName) : Option String :=
  match name.qualifier with
  | none => some (String.ofList name.localPart)
  | some qualifier => (scope.lookup qualifier).map (spellIn · name.localPart)

/-- The attributes of an element, without those that bind qualifiers.  No two
may have one name. -/
def Scope.attributes? (scope : Scope) (entries : List (QualifiedName × List Char)) :
    Option (List (String × String)) := do
  let named ← (entries.filter fun entry => (boundQualifier? entry.1).isNone).mapM fun entry =>
    (scope.attributeName? entry.1).map fun name => (name, String.ofList entry.2)
  let names := named.map Prod.fst
  if names.eraseDups.length = names.length then some named else none

end Markup
end Worksheet
