import Worksheet.Archive.Fault
import Worksheet.Markup.Fault
import Worksheet.Session.Entry

namespace Worksheet

open Text

/-!
# Faults of a session

Everything that can end an operation of a session before it is complete.
-/

inductive Fault where
  | size (fault : Size.Fault)
  | key (fault : Size.KeyFault)
  /-- A document was handed in whose encoding is at fault. -/
  | markup (fault : Markup.Fault)
  | archive (fault : Archive.Fault)
  /-- A text was assigned from something else. -/
  | notText (entry : Entry)
  /-- A color was assigned from something else. -/
  | notColor (entry : Entry)
  | colorOutOfRange (code : Int)
  /-- A command was made without a cell. -/
  | cellRequired
  | notSubscribed
  | unknownCommand (id : String)
  /-- A script gave up on its own account. -/
  | raised (message : String)
deriving DecidableEq, Repr

namespace Fault

/-- An integer in hexadecimal with its mark and, below zero, its sign. -/
def hexadecimal (number : Int) : String :=
  (if number < 0 then "-0x" else "0x") ++ String.ofList (Nat.toDigits 16 number.natAbs)

def message : Fault → String
  | size fault => fault.message
  | key fault => fault.message
  | markup fault => fault.message
  | archive fault => fault.message
  | notText entry => "Cell text must be str, got " ++ entry.typeName
  | notColor entry => "Background color must be int, got " ++ entry.typeName
  | colorOutOfRange code => "Background color out of range: " ++ hexadecimal code
  | cellRequired => "cell is required"
  | notSubscribed => "list.remove(x): x not in list"
  | unknownCommand id => id
  | raised message => message

end Fault
end Worksheet
