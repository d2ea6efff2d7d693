import Worksheet.Grid.Size

namespace Worksheet
namespace Archive

open Text

/-!
# Faults of a saved worksheet

A document is examined as a whole before anything is changed, in the order in
which these causes are listed, except that the records are examined one after
the other.
-/

inductive Fault where
  | malformed
  | wrongRoot (tag : String)
  | unnamedCell
  | key (fault : Size.KeyFault)
  | invalidColor (raw name : String)
  | colorOutOfRange (name : String)
deriving DecidableEq, Repr

def Fault.message : Fault → String
  | malformed => "Malformed spreadsheet document"
  | wrongRoot tag => "Expected <spreadsheet> root, got <" ++ tag ++ ">"
  | unnamedCell => "<cell> element without a name attribute"
  | key fault => fault.message
  | invalidColor raw name => "Invalid background color " ++ quoted raw ++ " for cell " ++ name
  | colorOutOfRange name => "Background color out of range for cell " ++ name

end Archive
end Worksheet
