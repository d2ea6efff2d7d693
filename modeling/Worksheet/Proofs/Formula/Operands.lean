import Worksheet.Proofs.Formula.Recognition

namespace Worksheet
namespace Formula

open Text

/-!
# The operands of a formula

The runs of a formula are the leaves of its tree, in the same order.  A run that reads as
a number is a number, and every other one is a name, so the names of the tree can be told
from the text without deriving it.
-/

namespace Lexeme

/-- The characters of a run. -/
def run? : Lexeme → Option (List Char)
  | run chars => some chars
  | _ => none

/-- The runs among some lexemes. -/
def runs (lexemes : List Lexeme) : List (List Char) :=
  lexemes.filterMap run?

theorem runs_append (first second : List Lexeme) :
    runs (first ++ second) = runs first ++ runs second :=
  List.filterMap_append

theorem mem_runs {lexemes : List Lexeme} {chars : List Char} :
    chars ∈ runs lexemes ↔ run chars ∈ lexemes := by
  rw [runs, List.mem_filterMap]
  constructor
  · rintro ⟨lexeme, member, found⟩
    cases lexeme with
    | run chars =>
      cases found
      exact member
    | _ => cases found
  · exact fun member => ⟨run chars, member, rfl⟩

end Lexeme

/-- The name that a run is, unless it is a number. -/
def nameOf? (chars : List Char) : Option String :=
  match Decimal.read? false chars with
  | some _ => none
  | none => some (String.ofList chars)

theorem nameOf?_spelling (spelling : Spelling) : nameOf? spelling.chars = none := by
  rw [nameOf?, Decimal.read?_eq_some_iff.mpr ⟨spelling, rfl, rfl⟩]

theorem nameOf?_of_noNumber {chars : List Char}
    (noNumber : ∀ spelling : Spelling, spelling.chars ≠ chars) :
    nameOf? chars = some (String.ofList chars) := by
  rw [nameOf?]
  split
  · next decimal read =>
    rcases Decimal.read?_eq_some_iff.mp read with ⟨spelling, spelled, _⟩
    exact absurd spelled (noNumber spelling)
  · rfl

/-- What is no name is a number. -/
theorem exists_spelling_or_nameOf? (chars : List Char) :
    (∃ spelling : Spelling, spelling.chars = chars) ∨
      nameOf? chars = some (String.ofList chars) := by
  by_cases spelled : ∃ spelling : Spelling, spelling.chars = chars
  · exact .inl spelled
  · exact .inr (nameOf?_of_noNumber fun spelling same => spelled ⟨spelling, same⟩)

theorem names_foldl_join (tree : Expression) (rest : List Continuation) :
    (rest.foldl Continuation.join tree).names =
      tree.names ++ rest.flatMap fun next => next.tree.names := by
  induction rest generalizing tree with
  | nil => rw [List.foldl_nil, List.flatMap_nil, List.append_nil]
  | cons next later hypothesis =>
    rw [List.foldl_cons, hypothesis, List.flatMap_cons, ← List.append_assoc]
    rfl

/-- The names of a tree are those of its runs, from left to right. -/
theorem Derives.names_eq {phrase : Phrase} {lexemes : List Lexeme} {tree : Expression}
    (derives : Derives phrase lexemes tree) :
    tree.names = (Lexeme.runs lexemes).filterMap nameOf? := by
  have chain : ∀ {first : List Lexeme} {begun : Expression} {rest : List Continuation},
      begun.names = (Lexeme.runs first).filterMap nameOf? →
      (∀ next ∈ rest, next.tree.names = (Lexeme.runs next.lexemes).filterMap nameOf?) →
      (rest.foldl Continuation.join begun).names =
        (Lexeme.runs (first ++ rest.flatMap Continuation.spelled)).filterMap nameOf? := by
    intro first begun rest same all
    rw [names_foldl_join, Lexeme.runs_append, List.filterMap_append, same]
    congr 1
    induction rest with
    | nil => rfl
    | cons next later hypothesis =>
      rw [List.flatMap_cons, List.flatMap_cons, Lexeme.runs_append, List.filterMap_append,
        all next List.mem_cons_self,
        hypothesis fun other member => all other (List.mem_cons_of_mem next member)]
      rfl
  induction derives with
  | number spelling =>
    change [] = [spelling.chars].filterMap nameOf?
    rw [List.filterMap_cons, nameOf?_spelling]
    rfl
  | @name chars noNumber identifier =>
    change [String.ofList chars] = [chars].filterMap nameOf?
    rw [List.filterMap_cons, nameOf?_of_noNumber noNumber]
    rfl
  | @parentheses lexemes tree _ hypothesis =>
    have within : Lexeme.runs (.opening :: lexemes ++ [.closing]) = Lexeme.runs lexemes := by
      rw [Lexeme.runs_append]
      exact List.append_nil (Lexeme.runs lexemes)
    rw [within, hypothesis]
  | term _ _ _ hypothesis hypotheses => exact chain hypothesis hypotheses
  | expression _ _ _ hypothesis hypotheses => exact chain hypothesis hypotheses

end Formula
end Worksheet
