import Worksheet.Number.Display

namespace Worksheet
namespace Formula

/-!
# The outcome of a formula

Evaluating a formula ends with a number or with one of four kinds of mishap,
some of which carry a detail.  The outcome is shown as the value of the cell.
-/

inductive Mishap where
  | selfReference
  | circularReference
  | invalidReference
  | evaluation
deriving DecidableEq, Repr

/-- The words by which a mishap begins. -/
def Mishap.title : Mishap → String
  | selfReference => "Self-reference detected"
  | circularReference => "Circular reference detected"
  | invalidReference => "Invalid cell reference"
  | evaluation => "Error"

inductive Outcome where
  /-- Nothing has been computed; this shows as zero. -/
  | nothing
  | number (value : Float)
  | failed (mishap : Mishap) (detail : String)
deriving DecidableEq

namespace Outcome

def number? : Outcome → Option Float
  | number value => some value
  | _ => none

def mishap? : Outcome → Option Mishap
  | failed mishap _ => some mishap
  | _ => none

def detail : Outcome → String
  | failed _ detail => detail
  | _ => ""

/-- The value that a cell with this outcome shows. -/
def display : Outcome → String
  | nothing => Number.display 0.0
  | number value => Number.display value
  | failed .invalidReference detail => Mishap.invalidReference.title ++ " '" ++ detail ++ "'"
  | failed .evaluation detail => Mishap.evaluation.title ++ ": " ++ detail
  | failed mishap _ => mishap.title

end Outcome
end Formula
end Worksheet
