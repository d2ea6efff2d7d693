import Mathlib.Data.List.Chain
import Worksheet.Formula.Lexeme

namespace Worksheet
namespace Formula

open Text

/-!
# Cutting a formula

A text can be cut in one way at most into operators, parentheses and maximal
runs of alphanumeric characters and points.  The lexemes of the text are that
cut, unless they contain a stray character; then there is none.

The lexemes end where no run goes on, and at such a seam a text can be divided:
its lexemes are those of the one part and those of the other.
-/

namespace Lexeme

def isRun : Lexeme → Bool
  | run _ => true
  | _ => false

/-- A lexeme of a cut: no stray character, and no run that is empty or holds
other characters. -/
def IsProper : Lexeme → Prop
  | run chars => chars ≠ [] ∧ ∀ char ∈ chars, isRunChar char = true
  | stray _ => False
  | _ => True

/-- Proper lexemes that spell a text, no run next to another. -/
structure IsCut (text : List Char) (lexemes : List Lexeme) : Prop where
  spells : lexemes.flatMap chars = text
  proper : ∀ lexeme ∈ lexemes, lexeme.IsProper
  maximal : lexemes.IsChain fun first second => ¬ (first.isRun = true ∧ second.isRun = true)

theorem isRunChar_symbol (symbol : Operator) : isRunChar symbol.symbol = false := by
  cases symbol <;> decide +kernel

theorem isRunChar_opening : isRunChar '(' = false := by
  decide +kernel

theorem isRunChar_closing : isRunChar ')' = false := by
  decide +kernel

/-- A lexeme other than a run is cut off by itself. -/
theorem split_of_not_isRun {lexeme : Lexeme} (proper : lexeme.IsProper)
    (other : lexeme.isRun = false) (rest : List Char) :
    split (lexeme.chars ++ rest) = lexeme :: split rest := by
  cases lexeme with
  | operator symbol =>
    rw [chars, List.singleton_append, split, isRunChar_symbol, ofChar, Operator.ofSymbol?_symbol]
    rfl
  | opening =>
    rw [chars, List.singleton_append, split, isRunChar_opening]
    rfl
  | closing =>
    rw [chars, List.singleton_append, split, isRunChar_closing]
    rfl
  | run chars => cases other
  | stray char => cases proper

theorem extend_of_not_isRun (char : Char) {later : List Lexeme}
    (other : ∀ lexeme ∈ later.head?, lexeme.isRun = false) :
    extend char later = run [char] :: later := by
  cases later with
  | nil => rfl
  | cons first later =>
    have notRun := other first rfl
    cases first with
    | run chars => cases notRun
    | _ => rfl

/-- A character of runs stands alone unless a run follows, which it then begins. -/
theorem extend_cases (char : Char) (later : List Lexeme) :
    (extend char later = run [char] :: later ∧ ∀ lexeme ∈ later.head?, lexeme.isRun = false) ∨
      ∃ chars others, later = run chars :: others ∧
        extend char later = run (char :: chars) :: others := by
  by_cases other : ∀ lexeme ∈ later.head?, lexeme.isRun = false
  · exact .inl ⟨extend_of_not_isRun char other, other⟩
  · cases later with
    | nil => exact absurd (fun _ absent => nomatch absent) other
    | cons first others =>
      cases first with
      | run chars => exact .inr ⟨chars, others, rfl, rfl⟩
      | _ => exact absurd (by rintro _ ⟨⟩; rfl) other

/-- A run is cut off as a whole if no other run follows. -/
theorem split_run {chars rest : List Char} (nonempty : chars ≠ [])
    (all : ∀ char ∈ chars, isRunChar char = true)
    (other : ∀ lexeme ∈ (split rest).head?, lexeme.isRun = false) :
    split (chars ++ rest) = run chars :: split rest := by
  induction chars with
  | nil => exact absurd rfl nonempty
  | cons first later hypothesis =>
    have within := all first List.mem_cons_self
    rw [List.cons_append, split, if_pos within]
    cases later with
    | nil => rw [List.nil_append, extend_of_not_isRun first other]
    | cons second later =>
      rw [hypothesis (List.cons_ne_nil second later)
        fun char member => all char (List.mem_cons_of_mem first member)]
      rfl

/-- There is no other cut than the lexemes of the text. -/
theorem IsCut.eq_split {text : List Char} {lexemes : List Lexeme} (cut : IsCut text lexemes) :
    lexemes = split text := by
  induction lexemes generalizing text with
  | nil =>
    rw [← cut.spells]
    rfl
  | cons first later hypothesis =>
    have maximal := List.isChain_cons.mp cut.maximal
    have rest : later = split (later.flatMap chars) :=
      hypothesis ⟨rfl, fun lexeme member => cut.proper lexeme (List.mem_cons_of_mem first member),
        maximal.2⟩
    have proper := cut.proper first List.mem_cons_self
    rw [← cut.spells, List.flatMap_cons]
    cases isRun : first.isRun with
    | false => rw [split_of_not_isRun proper isRun, ← rest]
    | true =>
      have other : ∀ lexeme ∈ (split (later.flatMap chars)).head?, lexeme.isRun = false := by
        rw [← rest]
        intro lexeme next
        rw [← Bool.not_eq_true]
        exact fun again => maximal.1 lexeme next ⟨isRun, again⟩
      cases first with
      | run chars => rw [Lexeme.chars, split_run proper.1 proper.2 other, ← rest]
      | _ => cases isRun

/-! ## The lexemes are a cut -/

theorem mem_extend {char : Char} {later : List Lexeme} {lexeme : Lexeme}
    (member : lexeme ∈ extend char later) :
    lexeme ∈ later ∨ ∃ chars, lexeme = run (char :: chars) ∧ (chars = [] ∨ run chars ∈ later) := by
  rcases extend_cases char later with ⟨alone, _⟩ | ⟨chars, others, rfl, extended⟩
  · rw [alone, List.mem_cons] at member
    rcases member with same | behind
    · exact .inr ⟨[], same, .inl rfl⟩
    · exact .inl behind
  · rw [extended, List.mem_cons] at member
    rcases member with same | behind
    · exact .inr ⟨chars, same, .inr List.mem_cons_self⟩
    · exact .inl (List.mem_cons_of_mem _ behind)

theorem isProper_ofChar {char : Char} (notStray : ofChar char ≠ stray char) :
    (ofChar char).IsProper := by
  unfold ofChar at notStray ⊢
  split
  · trivial
  · next notOperator =>
    simp only [notOperator] at notStray
    split
    · trivial
    · split
      · trivial
      · next notOpening notClosing =>
        rw [if_neg notOpening, if_neg notClosing] at notStray
        exact absurd rfl notStray

/-- Every lexeme of a text is proper unless it is a stray character. -/
theorem isProper_of_mem_split {text : List Char} {lexeme : Lexeme} (member : lexeme ∈ split text)
    (notStray : ∀ char, lexeme ≠ stray char) : lexeme.IsProper := by
  induction text generalizing lexeme with
  | nil => cases member
  | cons char rest hypothesis =>
    rw [split] at member
    split at member
    · next within =>
      rcases mem_extend member with behind | ⟨chars, same, begun⟩
      · exact hypothesis behind notStray
      · subst lexeme
        refine ⟨List.cons_ne_nil char chars, fun other here => ?_⟩
        rcases List.mem_cons.mp here with same | old
        · exact same ▸ within
        · rcases begun with empty | member
          · rw [empty] at old
            cases old
          · exact (hypothesis member fun _ same => by cases same).2 other old
    · rcases List.mem_cons.mp member with same | behind
      · subst lexeme
        exact isProper_ofChar (notStray char)
      · exact hypothesis behind notStray

theorem isRun_ofChar (char : Char) : (ofChar char).isRun = false := by
  unfold ofChar
  split
  · rfl
  · split
    · rfl
    · split <;> rfl

/-- No run stands next to another among the lexemes. -/
theorem isChain_split (text : List Char) :
    (split text).IsChain fun first second => ¬ (first.isRun = true ∧ second.isRun = true) := by
  induction text with
  | nil => exact .nil
  | cons char rest hypothesis =>
    rw [split]
    split
    · rcases extend_cases char (split rest) with ⟨alone, other⟩ | ⟨chars, others, begun, extended⟩
      · rw [alone]
        refine List.isChain_cons.mpr ⟨?_, hypothesis⟩
        rintro lexeme member ⟨_, again⟩
        rw [other lexeme member] at again
        cases again
      · rw [begun, List.isChain_cons] at hypothesis
        rw [extended]
        exact List.isChain_cons.mpr hypothesis
    · refine List.isChain_cons.mpr ⟨?_, hypothesis⟩
      rintro _ _ ⟨isRun, _⟩
      rw [isRun_ofChar] at isRun
      cases isRun

/-- The lexemes of a text are its cut if none of them is stray. -/
theorem isCut_split {text : List Char} (noStray : ∀ char, stray char ∉ split text) :
    IsCut text (split text) where
  spells := flatMap_chars_split text
  proper := fun _ member =>
    isProper_of_mem_split member fun char same => noStray char (same ▸ member)
  maximal := isChain_split text

/-! ## Seams -/

/-- A place in a text over which no run goes on. -/
def IsSeam (before after : List Char) : Prop :=
  ∀ last ∈ before.getLast?, ∀ first ∈ after.head?,
    ¬ (isRunChar last = true ∧ isRunChar first = true)

theorem isSeam_nil (after : List Char) : IsSeam [] after :=
  fun _ absent => nomatch absent

theorem isSeam_singleton {char : Char} {after : List Char} :
    IsSeam [char] after ↔
      ∀ first ∈ after.head?, ¬ (isRunChar char = true ∧ isRunChar first = true) := by
  simp [IsSeam]

theorem isSeam_cons_cons {char second : Char} {before after : List Char} :
    IsSeam (char :: second :: before) after ↔ IsSeam (second :: before) after := by
  rw [IsSeam, IsSeam, List.getLast?_cons_cons]

theorem isSeam_cons {char : Char} {before after : List Char} (seam : IsSeam before after)
    (alone : before = [] → IsSeam [char] after) : IsSeam (char :: before) after := by
  cases before with
  | nil => exact alone rfl
  | cons second later => exact isSeam_cons_cons.mpr seam

/-- The lexemes begin with a run only if the text begins with a character of runs. -/
theorem isRun_of_head?_split (text : List Char) :
    (∀ lexeme ∈ (split text).head?, lexeme.isRun = false) ↔
      ∀ first ∈ text.head?, isRunChar first = false := by
  cases text with
  | nil => simp [split]
  | cons char rest =>
    rw [split]
    split
    · next within =>
      cases split rest with
      | nil => simp [extend, isRun, within]
      | cons lexeme later => cases lexeme <;> simp [extend, isRun, within]
    · next outside => simp [isRun_ofChar, outside]

theorem extend_append {char : Char} {first : List Lexeme} (nonempty : first ≠ [])
    (later : List Lexeme) : extend char (first ++ later) = extend char first ++ later := by
  cases first with
  | nil => exact absurd rfl nonempty
  | cons lexeme first => cases lexeme <;> rfl

theorem split_ne_nil (char : Char) (rest : List Char) : split (char :: rest) ≠ [] := by
  intro empty
  have spelled := flatMap_chars_split (char :: rest)
  rw [empty] at spelled
  cases spelled

/-- A text is cut into lexemes on both sides of a seam. -/
theorem split_append {before after : List Char} (seam : IsSeam before after) :
    split (before ++ after) = split before ++ split after := by
  induction before with
  | nil => rfl
  | cons char rest hypothesis =>
    cases rest with
    | nil =>
      rw [isSeam_singleton] at seam
      rw [List.singleton_append, split, split, split]
      split
      · next within =>
        have outside : ∀ first ∈ after.head?, isRunChar first = false := fun first member =>
          Bool.eq_false_iff.mpr fun also => seam first member ⟨within, also⟩
        exact extend_of_not_isRun char ((isRun_of_head?_split after).mpr outside)
      · rfl
    | cons second rest =>
      rw [isSeam_cons_cons] at seam
      rw [List.cons_append, split, split, hypothesis seam]
      split
      · exact extend_append (split_ne_nil second rest) _
      · rfl

/-- Where lexemes end there is a seam in the text. -/
theorem exists_of_split_eq_append {text : List Char} {first later : List Lexeme}
    (cut : split text = first ++ later) :
    ∃ before after, text = before ++ after ∧ IsSeam before after ∧
      split before = first ∧ split after = later := by
  induction text generalizing first with
  | nil =>
    rcases List.nil_eq_append_iff.mp cut with ⟨rfl, rfl⟩
    exact ⟨[], [], rfl, isSeam_nil _, rfl, rfl⟩
  | cons char rest hypothesis =>
    cases first with
    | nil => exact ⟨[], char :: rest, rfl, isSeam_nil _, rfl, cut⟩
    | cons lexeme first =>
      rw [split] at cut
      split at cut
      · next within =>
        rcases extend_cases char (split rest) with ⟨alone, other⟩ | ⟨chars, others, begun, extended⟩
        · rw [alone, List.cons_append, List.cons.injEq] at cut
          rcases hypothesis cut.2 with ⟨before, after, rfl, seam, same, sameAfter⟩
          refine ⟨char :: before, after, rfl, isSeam_cons seam ?_, ?_, sameAfter⟩
          · rintro rfl
            rw [List.nil_append, isRun_of_head?_split] at other
            rw [isSeam_singleton]
            intro first member both
            rw [other first member] at both
            exact Bool.false_ne_true both.2
          · have single : ∀ lexeme ∈ first.head?, lexeme.isRun = false := by
              intro lexeme member
              apply other
              rw [cut.2, List.head?_append, member]
              rfl
            rw [split, if_pos within, same, extend_of_not_isRun char single, cut.1]
        · rw [extended, List.cons_append, List.cons.injEq] at cut
          rw [cut.2] at begun
          rcases hypothesis (begun.trans (List.cons_append ..).symm) with
            ⟨before, after, rfl, seam, same, sameAfter⟩
          refine ⟨char :: before, after, rfl, isSeam_cons seam ?_, ?_, sameAfter⟩
          · rintro rfl
            cases same
          · rw [split, if_pos within, same, extend, cut.1]
      · next outside =>
        rw [List.cons_append, List.cons.injEq] at cut
        rcases hypothesis cut.2 with ⟨before, after, rfl, seam, same, sameAfter⟩
        refine ⟨char :: before, after, rfl, isSeam_cons seam fun _ => ?_, ?_, sameAfter⟩
        · exact isSeam_singleton.mpr fun _ _ both => outside both.1
        · rw [split, if_neg outside, same, cut.1]

/-- The first lexeme begins with the first character, and is an operator only if that
character is one. -/
theorem exists_split_cons (char : Char) (rest : List Char) :
    ∃ lexeme later, split (char :: rest) = lexeme :: later ∧ lexeme.chars.head? = some char ∧
      ∀ symbol, lexeme = .operator symbol ↔ Operator.ofSymbol? char = some symbol := by
  rw [split]
  split
  · next within =>
    have noSymbol : ∀ symbol, Operator.ofSymbol? char ≠ some symbol := by
      intro symbol found
      rw [Operator.eq_symbol_of_ofSymbol? found, isRunChar_symbol] at within
      cases within
    rcases extend_cases char (split rest) with ⟨alone, _⟩ | ⟨chars, others, _, extended⟩
    · exact ⟨_, _, alone, rfl, fun symbol => by simp [noSymbol]⟩
    · exact ⟨_, _, extended, rfl, fun symbol => by simp [noSymbol]⟩
  · refine ⟨ofChar char, split rest, rfl, ?_, fun symbol => ?_⟩
    · rw [chars_ofChar]
      rfl
    · unfold ofChar
      split
      · next found => simp [found]
      · next absent =>
        split_ifs <;> simp [absent]

end Lexeme
end Formula
end Worksheet
