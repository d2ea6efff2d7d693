import Worksheet.Archive.Record
import Worksheet.Markup.Input
import Worksheet.Session.Editing

namespace Worksheet
namespace Engine

/-!
# Restoring a saved worksheet

A document is examined as a whole before the sheet is touched.  Then the sheet
and its history are cleared, the records are entered in their order, and all
formulas are recomputed.
-/

variable {size : Size}

/-- Enter the color and then the text of one record. -/
def enterRecord (announce : Announcement size) (record : Archive.Record size) :
    Engine size Unit := do
  assignColor announce record.position record.color
  assignText announce record.position record.text

/-- Make records the whole content of the sheet. -/
def enterRecords (announce : Announcement size) (records : List (Archive.Record size)) :
    Engine size Unit := do
  clearAll announce
  clearHistory
  records.forM (enterRecord announce)
  let _ ← evaluateAll announce

/-- Make a document the whole content of the sheet, if all its records are in
order. -/
def restore (announce : Announcement size) (document : Option Markup.Node) :
    Engine size Unit := do
  let records ← lift Fault.archive (Archive.ofDocument size document)
  enterRecords announce records

end Engine

/-- The ways to hand the content of one sheet to another. -/
def Passage.document (passage : Passage) (root : Markup.Node) : Option Markup.Node :=
  match passage with
  | .string => Markup.readText root.toText
  | .bytes => Markup.readBytes (Markup.bytesOfText root.toFile)

/-- The announcement that nobody hears. -/
def unheard {size : Size} : Announcement size :=
  fun _ _ => pure ()

end Worksheet
