import Worksheet.Formula.Reading
import Worksheet.Proofs.Formula.Cut
import Worksheet.Proofs.Formula.Grammar

namespace Worksheet
namespace Formula

open Text

/-!
# Formulas are read by the grammar

The machine that reads formulas knows neither terms nor derivations.  What it
has read so far is stated for each of its stages, so that every step extends a
derivation; conversely it takes every derivation through, from any frame and any
level of parentheses.

A text is therefore read exactly when it can be cut and derived.  Both the cut and
the tree are then unique, since reading is a function.
-/

/-! ## What the machine has read -/

/-- A pending operation was read from a phrase of the given kind and an operator. -/
inductive Pending.Reads (phrase : Phrase) (scaling : Bool) :
    Option Pending → List Lexeme → Prop
  | none : Reads phrase scaling none []
  | some {left : List Lexeme} {pending : Pending} :
      Derives phrase left pending.left → pending.operator.isScaling = scaling →
      Reads phrase scaling (some pending) (left ++ [.operator pending.operator])

/-- A frame was read from the pending sum and the pending product. -/
structure Frame.Reads (frame : Frame) (sums products : List Lexeme) : Prop where
  sum : Pending.Reads .expression false frame.sum sums
  product : Pending.Reads .term true frame.product products

/-- The enclosing frames were read each before an opening parenthesis. -/
inductive Frame.ReadsAll : List Frame → List Lexeme → Prop
  | nil : ReadsAll [] []
  | cons {frame : Frame} {enclosing : List Frame} {before sums products : List Lexeme} :
      ReadsAll enclosing before → frame.Reads sums products →
      ReadsAll (frame :: enclosing) (before ++ (sums ++ products) ++ [.opening])

/-- A stage was read from the enclosing frames, the present one, and the operand
if there is one. -/
inductive Stage.Reads : Stage → List Lexeme → Prop
  | operand {frame : Frame} {enclosing : List Frame} {before sums products : List Lexeme} :
      Frame.ReadsAll enclosing before → frame.Reads sums products →
      Reads (.operand frame enclosing) (before ++ (sums ++ products))
  | operator {frame : Frame} {enclosing : List Frame} {factor : Expression}
      {before sums products last : List Lexeme} :
      Frame.ReadsAll enclosing before → frame.Reads sums products → Derives .factor last factor →
      Reads (.operator factor frame enclosing) (before ++ (sums ++ products) ++ last)

theorem Frame.reads_empty : Frame.empty.Reads [] [] :=
  ⟨.none, .none⟩

namespace Frame.Reads

variable {frame : Frame} {sums products last : List Lexeme} {factor : Expression}

/-- The last summand is a term. -/
theorem summand (reads : frame.Reads sums products) (derives : Derives .factor last factor) :
    Derives .term (products ++ last) (frame.summand factor) := by
  rcases frame with ⟨_, pending⟩
  rcases reads with ⟨_, product⟩
  change Derives .term (products ++ last) (Pending.complete pending factor)
  cases product with
  | none => exact derives.term_of_factor
  | some term scaling =>
    rw [List.append_assoc]
    exact term.scale scaling derives

/-- The level as a whole is an expression. -/
theorem close (reads : frame.Reads sums products) (derives : Derives .factor last factor) :
    Derives .expression (sums ++ products ++ last) (frame.close factor) := by
  have term := reads.summand derives
  rcases frame with ⟨pending, product⟩
  rcases reads with ⟨sum, _⟩
  change Derives .expression _ (Pending.complete pending (Frame.summand ⟨pending, product⟩ factor))
  rw [List.append_assoc]
  cases sum with
  | none => exact term.expression_of_term
  | some expression adding =>
    rw [List.append_assoc]
    exact expression.add adding term

/-- The frame after an operator was read from what was there and the operator. -/
theorem push (reads : frame.Reads sums products) (derives : Derives .factor last factor)
    (operator : Operator) :
    ∃ sumsAfter productsAfter, (frame.push factor operator).Reads sumsAfter productsAfter ∧
      sumsAfter ++ productsAfter = sums ++ products ++ last ++ [.operator operator] := by
  cases scaling : operator.isScaling with
  | true =>
    refine ⟨sums, products ++ last ++ [.operator operator], ?_, by simp only [List.append_assoc]⟩
    have pending : Pending.Reads .term true (some ⟨frame.summand factor, operator⟩)
        (products ++ last ++ [.operator operator]) :=
      .some (reads.summand derives) scaling
    cases operator with
    | times => exact ⟨reads.sum, pending⟩
    | divide => exact ⟨reads.sum, pending⟩
    | plus => cases scaling
    | minus => cases scaling
  | false =>
    refine ⟨sums ++ products ++ last ++ [.operator operator], [], ?_, List.append_nil _⟩
    have pending : Pending.Reads .expression false (some ⟨frame.close factor, operator⟩)
        (sums ++ products ++ last ++ [.operator operator]) :=
      .some (reads.close derives) scaling
    cases operator with
    | times => cases scaling
    | divide => cases scaling
    | plus => exact ⟨pending, .none⟩
    | minus => exact ⟨pending, .none⟩

end Frame.Reads
/-- Every step of the machine reads one more lexeme. -/
theorem Stage.Reads.advance {position : Nat} {stage next : Stage} {lexemes : List Lexeme}
    {lexeme : Lexeme} (reads : stage.Reads lexemes)
    (step : stage.advance position lexeme = .ok next) : next.Reads (lexemes ++ [lexeme]) := by
  cases reads with
  | @operand frame enclosing before sums products outer inner =>
    cases lexeme with
    | opening =>
      cases step
      have reads := Stage.Reads.operand (outer.cons inner) Frame.reads_empty
      rwa [List.append_nil, List.append_nil] at reads
    | run chars =>
      cases read : operand? chars with
      | none =>
        simp only [Stage.advance, read] at step
        cases step
      | some factor =>
        simp only [Stage.advance, read] at step
        cases step
        exact .operator outer inner (.of_operand? read)
    | operator symbol => cases step
    | closing => cases step
    | stray char => cases step
  | @operator frame enclosing factor before sums products last outer inner derives =>
    cases lexeme with
    | operator symbol =>
      cases step
      rcases inner.push derives symbol with ⟨sumsAfter, productsAfter, pushed, same⟩
      have reads := Stage.Reads.operand outer pushed
      rw [same] at reads
      simpa only [List.append_assoc] using reads
    | closing =>
      cases outer with
      | nil => cases step
      | @cons frameOutside enclosing beforeOutside sumsOutside productsOutside outside around =>
        cases step
        have reads := Stage.Reads.operator outside around (.parentheses (inner.close derives))
        simpa only [List.append_assoc, List.cons_append, List.nil_append] using reads
    | opening => cases step
    | run chars => cases step
    | stray char => cases step

/-- What is read to the end is an expression. -/
theorem Stage.Reads.derives_of_run {position : Nat} {stage : Stage} {before lexemes : List Lexeme}
    {tree : Expression} (reads : stage.Reads before)
    (ended : stage.run position lexemes = .ok tree) :
    Derives .expression (before ++ lexemes) tree := by
  induction lexemes generalizing position stage before with
  | nil =>
    rw [List.append_nil]
    cases reads with
    | operand outer inner => cases ended
    | operator outer inner derives =>
      cases outer with
      | nil =>
        cases ended
        exact inner.close derives
      | cons outside around => cases ended
  | cons lexeme later hypothesis =>
    rw [Stage.run] at ended
    cases step : stage.advance position lexeme with
    | error fault =>
      rw [step] at ended
      cases ended
    | ok next =>
      rw [step] at ended
      have derives := hypothesis (reads.advance step) ended
      rwa [List.append_assoc] at derives

/-! ## The machine takes every derivation through -/

/-- From any position, what is between two stages is read with whatever follows. -/
def Stage.Passes (first : Stage) (lexemes : List Lexeme) (last : Stage) : Prop :=
  ∀ position after, ∃ later, first.run position (lexemes ++ after) = last.run later after

namespace Stage.Passes

variable {first middle last : Stage} {lexemes more : List Lexeme}

theorem refl (stage : Stage) : stage.Passes [] stage :=
  fun position _ => ⟨position, rfl⟩

theorem trans (earlier : first.Passes lexemes middle) (later : middle.Passes more last) :
    first.Passes (lexemes ++ more) last := by
  intro position after
  rcases earlier position (more ++ after) with ⟨between, read⟩
  rcases later between after with ⟨behind, readMore⟩
  exact ⟨behind, by rw [List.append_assoc, read, readMore]⟩

theorem single {lexeme : Lexeme} (step : ∀ position, first.advance position lexeme = .ok last) :
    first.Passes [lexeme] last := by
  intro position after
  refine ⟨position + lexeme.width, ?_⟩
  rw [List.singleton_append, Stage.run, step position]

end Stage.Passes

/-- Where the machine stands behind a phrase that it entered at its beginning: a
factor is the present operand, a term the last summand of the present level, and
an expression the whole level. -/
def Phrase.IsPassed : Phrase → List Lexeme → Expression → Prop
  | .factor, lexemes, tree => ∀ frame enclosing,
      (Stage.operand frame enclosing).Passes lexemes (.operator tree frame enclosing)
  | .term, lexemes, tree => ∀ sum enclosing, ∃ factor product,
      Frame.summand ⟨sum, product⟩ factor = tree ∧
      (Stage.operand ⟨sum, none⟩ enclosing).Passes lexemes
        (.operator factor ⟨sum, product⟩ enclosing)
  | .expression, lexemes, tree => ∀ enclosing, ∃ factor frame, Frame.close frame factor = tree ∧
      (Stage.operand .empty enclosing).Passes lexemes (.operator factor frame enclosing)

/-- More factors are joined to the last summand. -/
theorem exists_passes_factors {rest : List Continuation}
    (scaling : ∀ next ∈ rest, next.operator.isScaling = true)
    (passed : ∀ next ∈ rest, Phrase.IsPassed .factor next.lexemes next.tree)
    (sum product : Option Pending) (enclosing : List Frame) (factor : Expression) :
    ∃ factorAfter productAfter, Frame.summand ⟨sum, productAfter⟩ factorAfter =
        rest.foldl Continuation.join (Frame.summand ⟨sum, product⟩ factor) ∧
      (Stage.operator factor ⟨sum, product⟩ enclosing).Passes (rest.flatMap Continuation.spelled)
        (.operator factorAfter ⟨sum, productAfter⟩ enclosing) := by
  induction rest generalizing product factor with
  | nil => exact ⟨factor, product, rfl, .refl _⟩
  | cons next later hypothesis =>
    have step : (Stage.operator factor ⟨sum, product⟩ enclosing).Passes [.operator next.operator]
        (.operand ⟨sum, some ⟨Frame.summand ⟨sum, product⟩ factor, next.operator⟩⟩ enclosing) := by
      apply Stage.Passes.single
      intro position
      have isScaling := scaling next List.mem_cons_self
      cases symbol : next.operator with
      | times => rfl
      | divide => rfl
      | plus => rw [symbol] at isScaling; cases isScaling
      | minus => rw [symbol] at isScaling; cases isScaling
    have here := passed next List.mem_cons_self
      ⟨sum, some ⟨Frame.summand ⟨sum, product⟩ factor, next.operator⟩⟩ enclosing
    rcases hypothesis (fun other member => scaling other (List.mem_cons_of_mem next member))
      (fun other member => passed other (List.mem_cons_of_mem next member))
      (some ⟨Frame.summand ⟨sum, product⟩ factor, next.operator⟩) next.tree with
      ⟨factorAfter, productAfter, tree, behind⟩
    exact ⟨factorAfter, productAfter, tree, (step.trans here).trans behind⟩

/-- More terms are joined to the whole level. -/
theorem exists_passes_terms {rest : List Continuation}
    (adding : ∀ next ∈ rest, next.operator.isScaling = false)
    (passed : ∀ next ∈ rest, Phrase.IsPassed .term next.lexemes next.tree)
    (frame : Frame) (enclosing : List Frame) (factor : Expression) :
    ∃ factorAfter frameAfter, Frame.close frameAfter factorAfter =
        rest.foldl Continuation.join (Frame.close frame factor) ∧
      (Stage.operator factor frame enclosing).Passes (rest.flatMap Continuation.spelled)
        (.operator factorAfter frameAfter enclosing) := by
  induction rest generalizing frame factor with
  | nil => exact ⟨factor, frame, rfl, .refl _⟩
  | cons next later hypothesis =>
    have step : (Stage.operator factor frame enclosing).Passes [.operator next.operator]
        (.operand ⟨some ⟨frame.close factor, next.operator⟩, none⟩ enclosing) := by
      apply Stage.Passes.single
      intro position
      have isAdding := adding next List.mem_cons_self
      cases symbol : next.operator with
      | times => rw [symbol] at isAdding; cases isAdding
      | divide => rw [symbol] at isAdding; cases isAdding
      | plus => rfl
      | minus => rfl
    rcases passed next List.mem_cons_self (some ⟨frame.close factor, next.operator⟩) enclosing with
      ⟨last, product, summand, here⟩
    rcases hypothesis (fun other member => adding other (List.mem_cons_of_mem next member))
      (fun other member => passed other (List.mem_cons_of_mem next member))
      ⟨some ⟨frame.close factor, next.operator⟩, product⟩ last with
      ⟨factorAfter, frameAfter, tree, behind⟩
    refine ⟨factorAfter, frameAfter, ?_, (step.trans here).trans behind⟩
    rw [tree, List.foldl_cons, Frame.close, summand]
    rfl

theorem Derives.isPassed {phrase : Phrase} {lexemes : List Lexeme} {tree : Expression}
    (derives : Derives phrase lexemes tree) : phrase.IsPassed lexemes tree := by
  induction derives with
  | number spelling =>
    intro frame enclosing
    have read := operand?_eq_some_iff.mpr (.inl ⟨spelling, rfl, rfl⟩)
    exact .single fun position => by simp only [Stage.advance, read]
  | name noNumber identifier =>
    intro frame enclosing
    have read := operand?_eq_some_iff.mpr (.inr ⟨noNumber, identifier, rfl⟩)
    exact .single fun position => by simp only [Stage.advance, read]
  | parentheses _ hypothesis =>
    intro frame enclosing
    rcases hypothesis (frame :: enclosing) with ⟨factor, inner, closed, passes⟩
    have opened : (Stage.operand frame enclosing).Passes [.opening]
        (.operand .empty (frame :: enclosing)) := .single fun _ => rfl
    have shut : (Stage.operator factor inner (frame :: enclosing)).Passes [.closing]
        (.operator (inner.close factor) frame enclosing) := .single fun _ => rfl
    rw [closed] at shut
    exact (opened.trans passes).trans shut
  | term _ scaling _ hypothesis hypotheses =>
    intro sum enclosing
    rcases exists_passes_factors scaling hypotheses sum none enclosing _ with
      ⟨factor, product, tree, passes⟩
    exact ⟨factor, product, tree, (hypothesis ⟨sum, none⟩ enclosing).trans passes⟩
  | expression _ adding _ hypothesis hypotheses =>
    intro enclosing
    rcases hypothesis none enclosing with ⟨last, product, summand, begun⟩
    rcases exists_passes_terms adding hypotheses ⟨none, product⟩ enclosing last with
      ⟨factor, frame, tree, passes⟩
    refine ⟨factor, frame, ?_, begun.trans passes⟩
    rw [tree, Frame.close, summand]
    rfl

/-! ## Reading a text -/

theorem run_eq_ok_iff {lexemes : List Lexeme} {tree : Expression} :
    (Stage.operand .empty []).run 0 lexemes = .ok tree ↔ Derives .expression lexemes tree := by
  constructor
  · exact (Stage.Reads.operand .nil Frame.reads_empty).derives_of_run
  · intro derives
    rcases derives.isPassed [] with ⟨factor, frame, closed, passes⟩
    rcases passes 0 [] with ⟨later, read⟩
    rw [List.append_nil] at read
    rw [read, ← closed]
    rfl

variable {text : String} {lexemes : List Lexeme} {tree : Expression}

theorem isCut_of_read (ended : read text = .ok tree) :
    Lexeme.IsCut (withoutBlanks text.toList) (Lexeme.split (withoutBlanks text.toList)) ∧
      Derives .expression (Lexeme.split (withoutBlanks text.toList)) tree := by
  have derives := run_eq_ok_iff.mp ended
  exact ⟨Lexeme.isCut_split derives.not_stray, derives⟩

theorem read_of_isCut (cut : Lexeme.IsCut (withoutBlanks text.toList) lexemes)
    (derives : Derives .expression lexemes tree) :
    lexemes = Lexeme.split (withoutBlanks text.toList) ∧ read text = .ok tree := by
  have same := cut.eq_split
  exact ⟨same, run_eq_ok_iff.mpr (same ▸ derives)⟩

/-- A text is read as a tree exactly when, without its blanks, it can be cut into
lexemes that derive the tree; then there is no other cut and no other tree.  Every
other text is refused. -/
theorem read_eq_ok_iff (text : String) :
    (∀ tree, read text = .ok tree ↔
      ∃ lexemes, Lexeme.IsCut (withoutBlanks text.toList) lexemes ∧
        Derives .expression lexemes tree ∧
        ∀ otherLexemes otherTree, Lexeme.IsCut (withoutBlanks text.toList) otherLexemes ∧
            Derives .expression otherLexemes otherTree →
          otherLexemes = lexemes ∧ otherTree = tree) ∧
    ((∃ fault, read text = .error fault) ↔
      ¬ ∃ lexemes tree, Lexeme.IsCut (withoutBlanks text.toList) lexemes ∧
        Derives .expression lexemes tree) := by
  constructor
  · intro tree
    constructor
    · intro ended
      rcases isCut_of_read ended with ⟨cut, derives⟩
      refine ⟨_, cut, derives, ?_⟩
      rintro otherLexemes otherTree ⟨otherCut, otherDerives⟩
      rcases read_of_isCut otherCut otherDerives with ⟨same, otherEnded⟩
      rw [ended, Except.ok.injEq] at otherEnded
      exact ⟨same, otherEnded.symm⟩
    · rintro ⟨lexemes, cut, derives, _⟩
      exact (read_of_isCut cut derives).2
  · constructor
    · rintro ⟨fault, refused⟩ ⟨lexemes, tree, cut, derives⟩
      rw [(read_of_isCut cut derives).2] at refused
      cases refused
    · intro underivable
      cases ended : read text with
      | error fault => exact ⟨fault, rfl⟩
      | ok tree => exact absurd ⟨_, tree, isCut_of_read ended⟩ underivable

end Formula
end Worksheet
