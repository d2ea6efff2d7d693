import Worksheet.Proofs.Formula.Spelling

namespace Worksheet
namespace Formula

/-!
# The grammar of formulas

An expression is a term followed by any number of terms with a plus or minus in
front; a term is a factor followed by any number of factors with a times or
divide in front; a factor is a number, a name, or an expression in parentheses.
A derivation carries the tree it stands for, in which what follows is joined to
what stands before it from left to right.

Two lemmas let a derivation grow at its end by one more factor or one more term,
in the direction in which a formula is read.  Whether every derivation is found
by reading, and whether there is one tree only, is left to the reader of formulas.
-/

/-- The kinds of phrases. -/
inductive Phrase where
  | expression
  | term
  | factor

/-- Whether an operator joins factors to a term. -/
def Operator.isScaling : Operator → Bool
  | times | divide => true
  | plus | minus => false

/-- An operator and the phrase that it joins to what stands before it. -/
structure Continuation where
  operator : Operator
  lexemes : List Lexeme
  tree : Expression

namespace Continuation

def spelled (next : Continuation) : List Lexeme :=
  .operator next.operator :: next.lexemes

def join (before : Expression) (next : Continuation) : Expression :=
  .binary next.operator before next.tree

end Continuation

/-- The lexemes are a phrase of the given kind, and the tree is what it stands
for. -/
inductive Derives : Phrase → List Lexeme → Expression → Prop
  | number (spelling : Spelling) :
      Derives .factor [.run spelling.chars] (.number spelling.decimal.toFloat)
  | name {chars : List Char} (noNumber : ∀ spelling : Spelling, spelling.chars ≠ chars)
      (identifier : IsIdentifier chars) :
      Derives .factor [.run chars] (.name (String.ofList chars))
  | parentheses {lexemes : List Lexeme} {tree : Expression} :
      Derives .expression lexemes tree →
      Derives .factor (.opening :: lexemes ++ [.closing]) tree
  | term {first : List Lexeme} {tree : Expression} {rest : List Continuation} :
      Derives .factor first tree → (∀ next ∈ rest, next.operator.isScaling = true) →
      (∀ next ∈ rest, Derives .factor next.lexemes next.tree) →
      Derives .term (first ++ rest.flatMap Continuation.spelled)
        (rest.foldl Continuation.join tree)
  | expression {first : List Lexeme} {tree : Expression} {rest : List Continuation} :
      Derives .term first tree → (∀ next ∈ rest, next.operator.isScaling = false) →
      (∀ next ∈ rest, Derives .term next.lexemes next.tree) →
      Derives .expression (first ++ rest.flatMap Continuation.spelled)
        (rest.foldl Continuation.join tree)

/-- A lexeme that can belong to a formula: a run that is a number or an identifier, an operator
or a parenthesis. -/
def Lexeme.IsSpelled : Lexeme → Prop
  | run chars => (∃ spelling : Spelling, spelling.chars = chars) ∨ IsIdentifier chars
  | stray _ => False
  | _ => True

namespace Derives

/-- A run is a factor if it spells an operand. -/
theorem of_operand? {chars : List Char} {factor : Expression}
    (read : operand? chars = some factor) : Derives .factor [.run chars] factor := by
  rcases operand?_eq_some_iff.mp read with ⟨spelling, spelled, same⟩ | ⟨noNumber, identifier, same⟩
  · subst chars factor
    exact .number spelling
  · subst factor
    exact .name noNumber identifier

variable {first last : List Lexeme} {left right : Expression} {operator : Operator}

theorem term_of_factor (factor : Derives .factor first left) : Derives .term first left := by
  have single := @Derives.term first left [] factor (fun _ absent => nomatch absent)
    fun _ absent => nomatch absent
  rwa [List.flatMap_nil, List.append_nil] at single

theorem expression_of_term (term : Derives .term first left) : Derives .expression first left := by
  have single := @Derives.expression first left [] term (fun _ absent => nomatch absent)
    fun _ absent => nomatch absent
  rwa [List.flatMap_nil, List.append_nil] at single

/-- One more part at the end of a list keeps what holds of all parts. -/
private theorem forall_mem_concat {kind : Continuation → Prop} {rest : List Continuation}
    (final : Continuation) (all : ∀ next ∈ rest, kind next) (also : kind final) :
    ∀ next ∈ rest ++ [final], kind next := by
  intro next member
  rcases List.mem_append.mp member with before | here
  · exact all next before
  · exact List.mem_singleton.mp here ▸ also

/-- A term can be scaled by one more factor. -/
theorem scale (term : Derives .term first left) (scaling : operator.isScaling = true)
    (factor : Derives .factor last right) :
    Derives .term (first ++ .operator operator :: last) (.binary operator left right) := by
  cases term with
  | @term first tree rest begun allScaling allFactors =>
    have longer := Derives.term begun
      (forall_mem_concat ⟨operator, last, right⟩ allScaling scaling)
      (forall_mem_concat ⟨operator, last, right⟩ allFactors factor)
    rw [List.flatMap_append, List.foldl_append, ← List.append_assoc] at longer
    rwa [List.flatMap_singleton] at longer

/-- One more term can be added to an expression. -/
theorem add (expression : Derives .expression first left) (adding : operator.isScaling = false)
    (term : Derives .term last right) :
    Derives .expression (first ++ .operator operator :: last) (.binary operator left right) := by
  cases expression with
  | @expression first tree rest begun allAdding allTerms =>
    have longer := Derives.expression begun
      (forall_mem_concat ⟨operator, last, right⟩ allAdding adding)
      (forall_mem_concat ⟨operator, last, right⟩ allTerms term)
    rw [List.flatMap_append, List.foldl_append, ← List.append_assoc] at longer
    rwa [List.flatMap_singleton] at longer

/-- Every lexeme of a phrase can belong to a formula. -/
theorem isSpelled {phrase : Phrase} {lexemes : List Lexeme} {tree : Expression}
    (derives : Derives phrase lexemes tree) : ∀ lexeme ∈ lexemes, lexeme.IsSpelled := by
  have chain : ∀ {first : List Lexeme} {rest : List Continuation},
      (∀ lexeme ∈ first, lexeme.IsSpelled) →
      (∀ next ∈ rest, ∀ lexeme ∈ next.lexemes, lexeme.IsSpelled) →
      ∀ lexeme ∈ first ++ rest.flatMap Continuation.spelled, lexeme.IsSpelled := by
    intro first rest allFirst allLater lexeme member
    rcases List.mem_append.mp member with here | behind
    · exact allFirst lexeme here
    · rcases List.mem_flatMap.mp behind with ⟨next, among, there⟩
      rcases List.mem_cons.mp there with rfl | within
      · exact trivial
      · exact allLater next among lexeme within
  induction derives with
  | number spelling => simpa using .inl ⟨spelling, rfl⟩
  | name noNumber identifier => simpa using .inr identifier
  | parentheses _ hypothesis =>
    intro lexeme member
    rcases List.mem_append.mp member with before | shut
    · rcases List.mem_cons.mp before with rfl | within
      · exact trivial
      · exact hypothesis lexeme within
    · exact List.mem_singleton.mp shut ▸ trivial
  | term _ _ _ hypothesis hypotheses => exact chain hypothesis hypotheses
  | expression _ _ _ hypothesis hypotheses => exact chain hypothesis hypotheses

/-- No phrase contains a stray character. -/
theorem not_stray {phrase : Phrase} {lexemes : List Lexeme} {tree : Expression}
    (derives : Derives phrase lexemes tree) (char : Char) : .stray char ∉ lexemes :=
  fun member => derives.isSpelled (.stray char) member

end Derives

end Formula
end Worksheet
