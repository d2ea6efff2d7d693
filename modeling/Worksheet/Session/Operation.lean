import Worksheet.Session.Entry
import Worksheet.Text.CodePoint

namespace Worksheet

/-!
# Operations and rules

An operation is one request to a session.  Cells are named by keys, which are
looked up when the operation runs.  A script is a list of rules, and a rule is
a list of operations that run when a matching change is announced, at most a
given number of times.

Operations and rules contain each other to any finite depth.  The number of
reactions that a rule can ever cause, including those of the scripts it
subscribes, is therefore a number that can be computed beforehand.
-/

/-- The properties of a cell whose changes are announced. -/
inductive Property where
  | text
  | value
  | color
deriving DecidableEq, Repr

def Property.name : Property → String
  | text => "text"
  | value => "value"
  | color => "background_color"

/-- What a command changes. -/
inductive EditKind where
  | text
  | color
deriving DecidableEq, Repr

/-- A command that is still to be made.  Without a former entry the current one
of the cell is taken. -/
structure Draft where
  kind : EditKind
  cell : Option String
  former : Option Entry
  latter : Entry

/-- The ways to hand the content of one sheet to another. -/
inductive Passage where
  | string
  | bytes

mutual

inductive Operation where
  | assignText (cell : String) (entry : Entry)
  | assignColor (cell : String) (entry : Entry)
  | cellAt (row column : Int)
  | cell (cell : String)
  | describeCell (cell : String)
  | describeSheet
  | dimensions
  | records
  | names
  | define (id : String) (draft : Draft)
  | add (id : String)
  | execute (id : String)
  | revert (id : String)
  | edit (draft : Draft)
  | undo
  | redo
  | clearHistory
  | clearAll
  | evaluateAll
  | subscribe (id : String) (rules : List Rule)
  | unsubscribe (id : String)
  | giveUp (message : String)
  | recalculate (cell : String)
  | updateValue (cell : String)
  | updateDependents (cell : String)
  | evaluateFormula (cell : String)
  | guard (name : String)
  | guarded
  | resolve (token : String)
  | references (cell : String)
  | dependsOn (cell source : String)
  | leadsIntoLoop (cell : String)
  | dependents (cell : String)
  | formulaCells
  | writeText
  | writeBytes
  | readText (document : Text.Loose)
  | readBytes (document : List UInt8)
  | transfer (rows columns : Int) (passage : Passage)

/-- A rule for announced changes.  An absent cell or property matches all. -/
inductive Rule where
  | mk (cell property : Option String) (limit : Nat) (actions : List Operation)

end

namespace Rule

def cell : Rule → Option String
  | mk cell _ _ _ => cell

def property : Rule → Option String
  | mk _ property _ _ => property

/-- How often the rule may be used. -/
def limit : Rule → Nat
  | mk _ _ limit _ => limit

def actions : Rule → List Operation
  | mk _ _ _ actions => actions

/-- Whether the rule is about a property of a cell with the given name. -/
def concerns (rule : Rule) (name : String) (property : Property) : Bool :=
  (rule.cell.all (· == name)) && (rule.property.all (· == property.name))

end Rule

mutual

/-- How many reactions the uses of a rule that remain can cause. -/
def Rule.reactions (uses : Nat) : Rule → Nat
  | .mk _ _ limit actions => (limit - uses) * (1 + Operation.reactionsOfAll actions)

/-- How many reactions the scripts that an operation subscribes can cause. -/
def Operation.reactions : Operation → Nat
  | .subscribe _ rules => Rule.reactionsOfAll rules
  | _ => 0

def Operation.reactionsOfAll : List Operation → Nat
  | [] => 0
  | operation :: later => operation.reactions + Operation.reactionsOfAll later

def Rule.reactionsOfAll : List Rule → Nat
  | [] => 0
  | rule :: later => rule.reactions 0 + Rule.reactionsOfAll later

end

end Worksheet
