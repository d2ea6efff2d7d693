import Worksheet.Grid.Cell

namespace Worksheet

/-!
# Entries

An entry is what somebody assigns to a cell, before it is known whether it
suits.  A text can only be assigned from a text, a color only from an integer in
range; every other kind of entry is refused by the name of its type.
-/

/-- A kind of entry that suits nowhere. -/
inductive EntryKind where
  | fraction
  | truth
  | absence
  | sequence
  | mapping
deriving DecidableEq, Repr

inductive Entry where
  | text (text : String)
  | integer (number : Int)
  | other (kind : EntryKind)
deriving DecidableEq, Repr

namespace Entry

/-- The name of the type of an entry. -/
def typeName : Entry → String
  | text _ => "str"
  | integer _ => "int"
  | other .fraction => "float"
  | other .truth => "bool"
  | other .absence => "NoneType"
  | other .sequence => "list"
  | other .mapping => "dict"

/-- The entry that assigns a color. -/
def ofColor (color : Color) : Entry :=
  integer color.val

end Entry
end Worksheet
