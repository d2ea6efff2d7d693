import Worksheet.Proofs.Formula.Operands
import Worksheet.Proofs.Number.Division
import Worksheet.Proofs.Occurrence

namespace Worksheet
namespace Formula

open Text

/-!
# What a formula depends on

The names of a formula are the identifiers in its text, from left to right, however the operators
group them and wherever parentheses stand.  Its value depends on the numbers of these names only.

Every formula has a value.  The one operation that could be left without a result is the division
by zero, and the division looks at its divisor before it forms a quotient.
-/

/-! ## Names in the order of the text -/

/-- The name that a run is if it is an identifier and no number. -/
def identifier? (chars : List Char) : Option String :=
  if Decimal.read? false chars = none ∧ isName chars = true then some (String.ofList chars)
  else none

/-- The identifiers among some lexemes, from left to right. -/
def Lexeme.identifiers (lexemes : List Lexeme) : List String :=
  (runs lexemes).filterMap identifier?

/-- In a formula what is no number is an identifier. -/
theorem identifier?_eq_nameOf? {chars : List Char} (spelled : (Lexeme.run chars).IsSpelled) :
    identifier? chars = nameOf? chars := by
  rw [identifier?, nameOf?]
  cases number : Decimal.read? false chars with
  | some decimal => rfl
  | none =>
    rcases spelled with ⟨spelling, same⟩ | identifier
    · rw [Decimal.read?_eq_some_iff.mpr ⟨spelling, same, rfl⟩] at number
      cases number
    · rw [if_pos ⟨rfl, isName_iff.mpr identifier⟩]

/-- The names of a tree are the identifiers of its lexemes. -/
theorem Derives.names_eq_identifiers {phrase : Phrase} {lexemes : List Lexeme} {tree : Expression}
    (derives : Derives phrase lexemes tree) : tree.names = Lexeme.identifiers lexemes := by
  rw [derives.names_eq, Lexeme.identifiers]
  apply List.filterMap_congr
  intro chars member
  exact (identifier?_eq_nameOf? (derives.isSpelled _ (Lexeme.mem_runs.mp member))).symm

/-! ## Values that may be missing -/

/-- The result of an operation, if it has one. -/
def Operator.apply? : Operator → Float → Float → Option Float
  | plus, left, right => some (left + right)
  | minus, left, right => some (left - right)
  | times, left, right => some (left * right)
  | divide, left, right => Number.divide? left right

theorem Operator.apply?_eq_some (operator : Operator) (left right : Float) :
    operator.apply? left right = some (operator.apply left right) := by
  cases operator with
  | divide => exact Number.divide?_eq_some left right
  | _ => rfl

namespace Expression

/-- The value of an expression, if every operation in it has a result. -/
def evaluate? (bindings : Bindings) : Expression → Option Float
  | number value => some value
  | name text => some (bindings.value text)
  | binary operator left right => do
      let first ← left.evaluate? bindings
      let second ← right.evaluate? bindings
      operator.apply? first second

/-- No operation is left without a result. -/
theorem evaluate?_eq_some (bindings : Bindings) (expression : Expression) :
    expression.evaluate? bindings = some (expression.evaluate bindings) := by
  induction expression with
  | number value => rfl
  | name text => rfl
  | binary operator left right leftHypothesis rightHypothesis =>
    rw [evaluate?, leftHypothesis, rightHypothesis]
    exact operator.apply?_eq_some _ _

end Expression

/-- The names of a formula that is read are the identifiers of its text, ordered by where they
first occur.  Where two bindings have the same numbers for the names of an expression, a missing
one counting as zero, the expression has the same value, bit for bit.  And every expression has
a value under all bindings, since no division is left without a quotient. -/
theorem valued_by_names :
    (∀ text tree, read text = .ok tree →
      Lexeme.IsCut (withoutBlanks text.toList) (Lexeme.split (withoutBlanks text.toList)) ∧
      KeepsFirst tree.distinctNames
        (Lexeme.identifiers (Lexeme.split (withoutBlanks text.toList)))) ∧
    (∀ (tree : Expression) (first second : Bindings),
      (∀ name ∈ tree.distinctNames, first.value name = second.value name) →
        tree.evaluate? first = tree.evaluate? second) ∧
    ∀ (tree : Expression) (bindings : Bindings),
      tree.evaluate? bindings = some (tree.evaluate bindings) := by
  refine ⟨fun text tree accepted => ?_, fun tree first second agree => ?_, fun tree bindings =>
    tree.evaluate?_eq_some bindings⟩
  · rcases isCut_of_read accepted with ⟨cut, derives⟩
    rw [← derives.names_eq_identifiers]
    exact ⟨cut, keepsFirst_eraseDups tree.names⟩
  · rw [Expression.evaluate?_eq_some, Expression.evaluate?_eq_some]
    apply congrArg some
    exact Expression.evaluate_congr fun name member => agree name (List.mem_eraseDups.mpr member)

/-- Two names, one of them twice, with blanks among them and a zero to divide by. -/
def quotientText : String := "(B1 / 0) - r ate * B1"

/-- The tree of `quotientText`. -/
def quotientTree : Expression :=
  .binary .minus (.binary .divide (.name "B1") (.number 0.0))
    (.binary .times (.name "rate") (.name "B1"))

theorem valued_by_names_of_quotient :
    read quotientText = .ok quotientTree ∧
    KeepsFirst quotientTree.distinctNames ["B1", "rate", "B1"] ∧
    (∀ name ∈ quotientTree.distinctNames,
      Bindings.value [("B1", -2.0), ("A1", 7.0)] name =
        Bindings.value [("rate", 0.0), ("B1", -2.0)] name) ∧
    quotientTree.evaluate? [("B1", -2.0), ("A1", 7.0)] =
      quotientTree.evaluate? [("rate", 0.0), ("B1", -2.0)] ∧
    quotientTree.evaluate? [("B1", -2.0), ("A1", 7.0)] = some (Number.infinity true) := by
  have accepted : read quotientText = .ok quotientTree := by decide +kernel
  have agree : ∀ name ∈ quotientTree.distinctNames,
      Bindings.value [("B1", -2.0), ("A1", 7.0)] name =
        Bindings.value [("rate", 0.0), ("B1", -2.0)] name := by decide +kernel
  have value : quotientTree.evaluate [("B1", -2.0), ("A1", 7.0)] = Number.infinity true := by
    decide +kernel
  have identifiers : Lexeme.identifiers (Lexeme.split (withoutBlanks quotientText.toList)) =
      ["B1", "rate", "B1"] := by decide +kernel
  rcases valued_by_names with ⟨listed, determined, valued⟩
  have names := (listed quotientText quotientTree accepted).2
  rw [identifiers] at names
  refine ⟨accepted, names, agree, determined quotientTree _ _ agree, ?_⟩
  rw [valued, value]

end Formula
end Worksheet
