import Worksheet.Number.Display
import Worksheet.Text.Quoted

namespace Worksheet
namespace Formula

open Text

/-!
# Arithmetic expressions

An expression is a number, a name, or one of four binary operations.  Its value
is a binary64 number; a name without a binding counts as zero, and every
operation is total, division by zero included.
-/

inductive Operator where
  | plus
  | minus
  | times
  | divide
deriving DecidableEq, Repr

namespace Operator

def symbol : Operator → Char
  | plus => '+'
  | minus => '-'
  | times => '*'
  | divide => '/'

def ofSymbol? : Char → Option Operator
  | '+' => some plus
  | '-' => some minus
  | '*' => some times
  | '/' => some divide
  | _ => none

/-- An operator that is spelled by a whole text. -/
def ofText? (text : String) : Option Operator :=
  match text.toList with
  | [char] => ofSymbol? char
  | _ => none

/-- What is said of a text that spells no operator. -/
def unknownMessage (text : String) : String :=
  "Invalid operator: " ++ quoted text

theorem ofSymbol?_symbol (operator : Operator) : ofSymbol? operator.symbol = some operator := by
  cases operator <;> rfl

theorem eq_symbol_of_ofSymbol? {char : Char} {operator : Operator}
    (found : ofSymbol? char = some operator) : char = operator.symbol := by
  unfold ofSymbol? at found
  split at found <;> cases found <;> rfl

/-- The operation of binary64 arithmetic.  A number divided by zero is an
infinity with the sign of the exact quotient; zero by zero is not a number. -/
def apply : Operator → Float → Float → Float
  | plus, left, right => left + right
  | minus, left, right => left - right
  | times, left, right => left * right
  | divide, left, right => left / right

end Operator

inductive Expression where
  | number (value : Float)
  | name (text : String)
  | binary (operator : Operator) (left right : Expression)
deriving DecidableEq

/-- The numbers that stand for names. -/
abbrev Bindings := List (String × Float)

/-- The number that a name stands for. -/
def Bindings.value (bindings : Bindings) (name : String) : Float :=
  (bindings.lookup name).getD 0.0

namespace Expression

def evaluate (bindings : Bindings) : Expression → Float
  | number value => value
  | name text => bindings.value text
  | binary operator left right =>
      operator.apply (left.evaluate bindings) (right.evaluate bindings)

/-- All names from left to right, as often as they occur. -/
def names : Expression → List String
  | number _ => []
  | name text => [text]
  | binary _ left right => left.names ++ right.names

/-- All names in the order in which they first occur. -/
def distinctNames (expression : Expression) : List String :=
  expression.names.eraseDups

/-- One node of an expression without its operands. -/
inductive Node where
  | number (value : Float)
  | name (text : String)
  | operator (operator : Operator)
deriving DecidableEq

/-- The nodes, each after the nodes of its operands. -/
def postorder : Expression → List Node
  | number value => [.number value]
  | name text => [.name text]
  | binary operator left right => left.postorder ++ right.postorder ++ [.operator operator]

/-- The nested description of an expression. -/
def describe : Expression → String
  | number value => "ConstantNode(value=" ++ Number.written value ++ ")"
  | name text => "VariableNode(name=" ++ quoted text ++ ")"
  | binary operator left right =>
      "OperatorNode(op=" ++ quoted (String.ofList [operator.symbol]) ++ ", left="
        ++ left.describe ++ ", right=" ++ right.describe ++ ")"

/-- The description of an expression as a whole. -/
def describeTree (expression : Expression) : String :=
  "<ExpressionTree " ++ expression.describe ++ ">"

theorem evaluate_congr {first second : Bindings} {expression : Expression}
    (agree : ∀ text ∈ expression.names, first.value text = second.value text) :
    expression.evaluate first = expression.evaluate second := by
  induction expression with
  | number value => rfl
  | name text => exact agree text List.mem_cons_self
  | binary operator left right leftHypothesis rightHypothesis =>
    simp only [evaluate]
    rw [leftHypothesis fun text member => agree text (List.mem_append_left _ member),
      rightHypothesis fun text member => agree text (List.mem_append_right _ member)]

end Expression
end Formula
end Worksheet
