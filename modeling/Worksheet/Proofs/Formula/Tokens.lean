import Worksheet.Proofs.Formula.Operands
import Worksheet.Proofs.Recalculation.Outcome

namespace Worksheet

open Text

/-!
# What a formula refers to

A formula is read without its blanks, but its reference tokens are looked for in the text as
it stands, and not in names only.  The two agree on names that have the shape of an address.
Beside these, a longer name may end like an address, the exponent of a number may look like
one, and a blank in front of its digits hides an address from the search.

As long as no blank cuts digits off, these are all the differences: every token comes from a
name or from an exponent, blanks do not matter, and a name of the shape of an address stands
for the number of its cell.
-/

/-! ## Tokens of a text and of its parts -/

namespace Reference

theorem bounds_of_isColumnLetter {char : Char} (letter : isColumnLetter char = true) :
    65 ≤ char.toNat ∧ char.toNat < 91 := by
  rw [isColumnLetter, Address.columnOfLetter?] at letter
  split at letter
  · next bounds => exact bounds
  · cases letter

theorem isDecimalDigit_of_isColumnLetter {char : Char} (letter : isColumnLetter char = true) :
    isDecimalDigit char = false := by
  have bounds := bounds_of_isColumnLetter letter
  rw [isDecimalDigit, digitValue?, digitZeros, digitAmong, if_neg (by omega), if_neg (by omega),
    digitAmong, if_pos (by omega)]
  rfl

theorem isColumnLetter_of_isDecimalDigit {char : Char} (digit : isDecimalDigit char = true) :
    isColumnLetter char = false := by
  cases letter : isColumnLetter char with
  | false => rfl
  | true =>
    rw [isDecimalDigit_of_isColumnLetter letter] at digit
    cases digit

theorem isRunChar_of_isColumnLetter {char : Char} (letter : isColumnLetter char = true) :
    Formula.Lexeme.isRunChar char = true := by
  have bounds := bounds_of_isColumnLetter letter
  have isLetter : isLetter char = true := by
    rw [isLetter, letterRanges, CodeRange.cover, if_neg (by simp; omega), if_pos (by simp; omega)]
  rw [Formula.Lexeme.isRunChar, isAlphanumeric_of_isLetter isLetter, Bool.true_or]

/-- No blank is part of a token. -/
theorem plain_of_isBlank {char : Char} (blank : isBlank char = true) :
    isColumnLetter char = false ∧ isDecimalDigit char = false := by
  have apart : ∀ range ∈ blankRanges,
      ∀ code ∈ List.range' range.first (range.last + 1 - range.first),
        (code < 65 ∨ 91 ≤ code) ∧ digitAmong digitZeros code = none := by decide
  rcases CodeRange.exists_of_cover blank with ⟨range, member, low, high⟩
  have parts := apart range member char.toNat (List.mem_range'_1.mpr ⟨low, by omega⟩)
  constructor
  · cases letter : isColumnLetter char with
    | false => rfl
    | true =>
      have bounds := bounds_of_isColumnLetter letter
      omega
  · rw [isDecimalDigit, digitValue?, parts.2]
    rfl

theorem tokensOf_cons_of_not_letter {char : Char} (other : isColumnLetter char = false)
    (rest : List Char) : tokensOf (char :: rest) = tokensOf rest := by
  rw [tokensOf, other]
  rfl

theorem tokensOf_append_of_not_letter {first : List Char}
    (others : ∀ char ∈ first, isColumnLetter char = false) (rest : List Char) :
    tokensOf (first ++ rest) = tokensOf rest := by
  induction first with
  | nil => rfl
  | cons char later hypothesis =>
    rw [List.cons_append, tokensOf_cons_of_not_letter (others char List.mem_cons_self),
      hypothesis fun other member => others other (List.mem_cons_of_mem char member)]

theorem tokensOf_eq_nil {text : List Char} (others : ∀ char ∈ text, isColumnLetter char = false) :
    tokensOf text = [] := by
  have alone := tokensOf_append_of_not_letter others []
  rwa [List.append_nil] at alone

/-- A text is searched in two parts if no digit begins the second one. -/
theorem tokensOf_append {first rest : List Char}
    (stop : ∀ char ∈ rest.head?, isDecimalDigit char = false) :
    tokensOf (first ++ rest) = tokensOf first ++ tokensOf rest := by
  have noMore : rest.takeWhile isDecimalDigit = [] := by
    cases rest with
    | nil => rfl
    | cons char rest => exact List.takeWhile_cons_of_neg (by simp [stop char rfl])
  induction first with
  | nil => rfl
  | cons char later hypothesis =>
    have digits : (later ++ rest).takeWhile isDecimalDigit = later.takeWhile isDecimalDigit := by
      rw [List.takeWhile_append, noMore, List.append_nil]
      split
      · next same => exact ((List.takeWhile_prefix isDecimalDigit).eq_of_length same).symm
      · rfl
    rw [List.cons_append, tokensOf, tokensOf, digits, hypothesis]
    split
    · split
      · rfl
      · rfl
    · rfl

/-- One column letter and one or more decimal digits. -/
def isAddressShaped : List Char → Bool
  | [] => false
  | letter :: digits => isColumnLetter letter && (!digits.isEmpty && digits.all isDecimalDigit)

/-- What has the shape of an address is its only token. -/
theorem tokensOf_of_isAddressShaped {chars : List Char} (shaped : isAddressShaped chars = true) :
    tokensOf chars = [chars] := by
  cases chars with
  | nil => cases shaped
  | cons letter digits =>
    rw [isAddressShaped, Bool.and_eq_true, Bool.and_eq_true, List.all_eq_true] at shaped
    rcases shaped with ⟨isLetter, nonempty, all⟩
    have whole : digits.takeWhile isDecimalDigit = digits := by
      rw [List.takeWhile_eq_self_iff]
      exact all
    have none : tokensOf digits = [] :=
      tokensOf_eq_nil fun char member => isColumnLetter_of_isDecimalDigit (all char member)
    rw [tokensOf, if_pos isLetter, whole, none]
    cases digits with
    | nil => cases nonempty
    | cons first later => rfl

theorem mem_tokens {text token : String} :
    token ∈ tokens text ↔ token.toList ∈ tokensOf text.toList := by
  rw [tokens, List.mem_map]
  constructor
  · rintro ⟨chars, member, same⟩
    rw [← same, String.toList_ofList]
    exact member
  · exact fun member => ⟨token.toList, member, String.ofList_toList⟩

end Reference

namespace Spelling

/-- The capital mark of an exponent with its digits, which looks like an address. -/
def exponentToken? (spelling : Spelling) : Option (List Char) :=
  match spelling.power with
  | some ('E', digits) => some ('E' :: digits)
  | _ => none

variable (spelling : Spelling)

theorem isColumnLetter_of_mem_digits {digits : List Char}
    (all : ∀ char ∈ digits, isDecimalDigit char = true) {char : Char} (member : char ∈ digits) :
    Reference.isColumnLetter char = false :=
  Reference.isColumnLetter_of_isDecimalDigit (all char member)

/-- There is no column letter in front of the exponent. -/
theorem isColumnLetter_of_mem_front {char : Char}
    (member : char ∈ spelling.whole ++ fractionChars spelling.fraction) :
    Reference.isColumnLetter char = false := by
  have fractionDigits := spelling.fraction_digits
  rcases List.mem_append.mp member with whole | behind
  · exact isColumnLetter_of_mem_digits spelling.whole_digits whole
  · cases fraction : spelling.fraction with
    | none =>
      rw [fraction] at behind
      cases behind
    | some digits =>
      rw [fraction] at behind fractionDigits
      rcases List.mem_cons.mp behind with point | within
      · rw [point]
        decide
      · exact isColumnLetter_of_mem_digits fractionDigits within

/-- The only column letter of a number is the capital mark of its exponent. -/
theorem isColumnLetter_of_mem_chars (noExponent : spelling.exponentToken? = none) {char : Char}
    (member : char ∈ spelling.chars) : Reference.isColumnLetter char = false := by
  rw [chars, ← List.append_assoc] at member
  rcases List.mem_append.mp member with front | behind
  · exact spelling.isColumnLetter_of_mem_front front
  · cases power : spelling.power with
    | none =>
      rw [power] at behind
      cases behind
    | some both =>
      rcases both with ⟨mark, digits⟩
      rw [exponentToken?, power] at noExponent
      rw [power] at behind
      rcases spelling.is_power mark digits power with ⟨small | capital, _, all⟩
      · subst mark
        rcases List.mem_cons.mp behind with same | within
        · rw [same]
          decide
        · exact isColumnLetter_of_mem_digits all within
      · subst mark
        cases noExponent

/-- The only token that a number can hold is its exponent. -/
theorem tokensOf_chars :
    Reference.tokensOf spelling.chars = spelling.exponentToken?.toList := by
  cases exponent : spelling.exponentToken? with
  | none =>
    exact Reference.tokensOf_eq_nil fun char member =>
      spelling.isColumnLetter_of_mem_chars exponent member
  | some token =>
    rw [exponentToken?] at exponent
    split at exponent
    · next digits power =>
      cases exponent
      rcases spelling.is_power 'E' digits power with ⟨_, nonempty, all⟩
      have isLetter : Reference.isColumnLetter 'E' = true := by decide
      rw [chars, ← List.append_assoc, Reference.tokensOf_append_of_not_letter
        fun char member => spelling.isColumnLetter_of_mem_front member, power]
      apply Reference.tokensOf_of_isAddressShaped
      change Reference.isAddressShaped ('E' :: digits) = true
      rw [Reference.isAddressShaped, isLetter, List.all_eq_true.mpr all,
        List.isEmpty_eq_false_iff.mpr nonempty]
      rfl
    · cases exponent

end Spelling

namespace Formula

namespace Lexeme

/-- A lexeme other than a run neither holds a column letter nor begins with a digit. -/
theorem plain_of_isProper {lexeme : Lexeme} (proper : lexeme.IsProper)
    (other : lexeme.isRun = false) {char : Char} (member : char ∈ lexeme.chars) :
    Reference.isColumnLetter char = false ∧ isDecimalDigit char = false := by
  have outside : isRunChar char = false := by
    cases lexeme with
    | operator symbol => rw [List.mem_singleton.mp member, isRunChar_symbol]
    | opening => rw [List.mem_singleton.mp member, isRunChar_opening]
    | closing => rw [List.mem_singleton.mp member, isRunChar_closing]
    | run chars => cases other
    | stray char => cases proper
  constructor
  · cases letter : Reference.isColumnLetter char with
    | false => rfl
    | true =>
      rw [Reference.isRunChar_of_isColumnLetter letter] at outside
      cases outside
  · cases digit : isDecimalDigit char with
    | false => rfl
    | true =>
      rw [isRunChar, isAlphanumeric_of_isDecimalDigit digit] at outside
      cases outside

/-- The tokens of a cut are those of its runs. -/
theorem IsCut.tokensOf_eq {text : List Char} {lexemes : List Lexeme} (cut : IsCut text lexemes) :
    Reference.tokensOf text = (runs lexemes).flatMap Reference.tokensOf := by
  induction lexemes generalizing text with
  | nil =>
    rw [← cut.spells]
    rfl
  | cons first later hypothesis =>
    have maximal := List.isChain_cons.mp cut.maximal
    have proper := cut.proper first List.mem_cons_self
    have properLater : ∀ lexeme ∈ later, lexeme.IsProper :=
      fun lexeme member => cut.proper lexeme (List.mem_cons_of_mem first member)
    have rest := hypothesis ⟨rfl, properLater, maximal.2⟩
    rw [← cut.spells, List.flatMap_cons]
    cases isRun : first.isRun with
    | false =>
      have noRun : runs (first :: later) = runs later := by
        cases first with
        | run chars => cases isRun
        | _ => rfl
      rw [Reference.tokensOf_append_of_not_letter
        fun char member => (plain_of_isProper proper isRun member).1, rest, noRun]
    | true =>
      have stop : ∀ char ∈ (later.flatMap chars).head?, isDecimalDigit char = false := by
        cases later with
        | nil => exact fun _ absent => nomatch absent
        | cons second others =>
          intro char begins
          have notRun : second.isRun = false := by
            rw [← Bool.not_eq_true]
            exact fun again => maximal.1 second rfl ⟨isRun, again⟩
          have properSecond := properLater second List.mem_cons_self
          have within : char ∈ second.chars := by
            cases second with
            | run chars => cases notRun
            | stray char => cases properSecond
            | _ =>
              cases begins
              exact List.mem_singleton_self _
          exact (plain_of_isProper properSecond notRun within).2
      cases first with
      | run chars =>
        rw [Lexeme.chars, Reference.tokensOf_append stop, rest]
        rfl
      | _ => cases isRun

end Lexeme

/-! ## Blanks -/

/-- No blanks cut digits off from a column letter, or from the digits that it has. -/
def isUnbroken : List Char → Bool
  | [] => true
  | char :: rest =>
      !(Reference.isColumnLetter char &&
        ((rest.dropWhile isDecimalDigit).dropWhile isBlank).head?.any isDecimalDigit) &&
      isUnbroken rest

theorem withoutBlanks_cons_of_isBlank {char : Char} (blank : isBlank char = true)
    (rest : List Char) : withoutBlanks (char :: rest) = withoutBlanks rest := by
  rw [withoutBlanks, List.filter_cons_of_neg (by simp [blank])]
  rfl

theorem withoutBlanks_cons {char : Char} (solid : isBlank char = false) (rest : List Char) :
    withoutBlanks (char :: rest) = char :: withoutBlanks rest := by
  rw [withoutBlanks, List.filter_cons_of_pos (by simp [solid])]
  rfl

theorem withoutBlanks_dropWhile (text : List Char) :
    withoutBlanks (text.dropWhile isBlank) = withoutBlanks text := by
  induction text with
  | nil => rfl
  | cons char rest hypothesis =>
    cases blank : isBlank char with
    | true =>
      rw [List.dropWhile_cons_of_pos blank, hypothesis, withoutBlanks_cons_of_isBlank blank]
    | false => rw [List.dropWhile_cons_of_neg (by simp [blank])]

/-- A text begins with the same digits without its blanks, unless blanks stand between these
digits and others. -/
theorem takeWhile_withoutBlanks {text : List Char}
    (stop : ((text.dropWhile isDecimalDigit).dropWhile isBlank).head?.any isDecimalDigit = false) :
    (withoutBlanks text).takeWhile isDecimalDigit = text.takeWhile isDecimalDigit := by
  induction text with
  | nil => rfl
  | cons next later hypothesis =>
    cases digit : isDecimalDigit next with
    | true =>
      have solid : isBlank next = false := by
        cases blank : isBlank next with
        | false => rfl
        | true =>
          rw [(Reference.plain_of_isBlank blank).2] at digit
          cases digit
      rw [List.dropWhile_cons_of_pos digit] at stop
      rw [withoutBlanks_cons solid, List.takeWhile_cons_of_pos digit,
        List.takeWhile_cons_of_pos digit, hypothesis stop]
    | false =>
      rw [List.dropWhile_cons_of_neg (by simp [digit])] at stop
      rw [List.takeWhile_cons_of_neg (by simp [digit]), ← withoutBlanks_dropWhile]
      cases behind : (next :: later).dropWhile isBlank with
      | nil => rfl
      | cons first others =>
        rw [behind] at stop
        have noDigit : isDecimalDigit first = false := stop
        have solid : isBlank first = false := by
          have head := List.head?_dropWhile_not isBlank (next :: later)
          rw [behind] at head
          simpa using head
        rw [withoutBlanks_cons solid, List.takeWhile_cons_of_neg (by simp [noDigit])]

/-- Blanks do not matter for the tokens unless they cut digits off. -/
theorem tokensOf_withoutBlanks {text : List Char} (unbroken : isUnbroken text = true) :
    Reference.tokensOf (withoutBlanks text) = Reference.tokensOf text := by
  induction text with
  | nil => rfl
  | cons char rest hypothesis =>
    rw [isUnbroken, Bool.and_eq_true] at unbroken
    rcases unbroken with ⟨apart, later⟩
    cases letter : Reference.isColumnLetter char with
    | false =>
      rw [Reference.tokensOf_cons_of_not_letter letter, ← hypothesis later]
      cases blank : isBlank char with
      | true => rw [withoutBlanks_cons_of_isBlank blank]
      | false =>
        rw [withoutBlanks_cons blank, Reference.tokensOf_cons_of_not_letter letter]
    | true =>
      have solid : isBlank char = false := by
        cases blank : isBlank char with
        | false => rfl
        | true =>
          rw [(Reference.plain_of_isBlank blank).1] at letter
          cases letter
      rw [letter, Bool.true_and, Bool.not_eq_true'] at apart
      rw [withoutBlanks_cons solid, Reference.tokensOf, Reference.tokensOf,
        takeWhile_withoutBlanks apart, hypothesis later]

end Formula

/-! ## Bindings -/

namespace Grid

variable {size : Size} {grid : Grid size}

/-- A token that has been bound stands for the number of its cell. -/
theorem exists_of_bind {tokens : List String} {bindings : Formula.Bindings} {token : String}
    (bound : grid.bind tokens = .ok bindings) (member : token ∈ tokens) :
    ∃ position, size.resolve? token = some position ∧
      bindings.value token = grid.numberAt position := by
  induction tokens generalizing bindings with
  | nil => cases member
  | cons first later hypothesis =>
    rw [bind] at bound
    cases resolved : size.resolve? first with
    | none =>
      rw [resolved] at bound
      cases bound
    | some position =>
      rw [resolved] at bound
      cases rest : grid.bind later with
      | error fault =>
        rw [rest] at bound
        cases bound
      | ok others =>
        rw [rest] at bound
        cases bound
        by_cases same : token = first
        · subst token
          refine ⟨position, resolved, ?_⟩
          rw [Formula.Bindings.value, List.lookup_cons_self]
          rfl
        · rcases hypothesis rest ((List.mem_cons.mp member).resolve_left same) with
            ⟨other, found, valued⟩
          refine ⟨other, found, ?_⟩
          rw [← valued, Formula.Bindings.value, Formula.Bindings.value, List.lookup_cons,
            beq_eq_false_iff_ne.mpr same]

/-- A number is the value of the tree under bindings for all tokens. -/
theorem exists_of_evaluateBody {body : String} {number : Float} {tree : Formula.Expression}
    (accepted : Formula.read body = .ok tree)
    (evaluated : grid.evaluateBody body = .number number) :
    ∃ bindings, grid.bind (Reference.tokens body) = .ok bindings ∧
      number = tree.evaluate bindings := by
  rw [evaluateBody, accepted] at evaluated
  dsimp only at evaluated
  split at evaluated
  · cases evaluated
  · next bindings bound =>
    cases evaluated
    exact ⟨bindings, bound, rfl⟩

end Grid

namespace Formula

variable {text : String} {tree : Expression}

/-- The tokens of the runs are those of the names and the exponents. -/
theorem mem_tokensOf_runs (accepted : read text = .ok tree) {token : String} :
    (∃ chars ∈ Lexeme.runs (Lexeme.split (withoutBlanks text.toList)),
        token.toList ∈ Reference.tokensOf chars) ↔
      (∃ name ∈ tree.distinctNames, token ∈ Reference.tokens name) ∨
      ∃ spelling : Spelling,
        .run spelling.chars ∈ Lexeme.split (withoutBlanks text.toList) ∧
          spelling.exponentToken? = some token.toList := by
  have names := (isCut_of_read accepted).2.names_eq
  constructor
  · rintro ⟨chars, member, found⟩
    rcases exists_spelling_or_nameOf? chars with ⟨spelling, same⟩ | named
    · subst same
      rw [Spelling.tokensOf_chars, Option.mem_toList] at found
      exact .inr ⟨spelling, Lexeme.mem_runs.mp member, found⟩
    · left
      refine ⟨String.ofList chars, ?_, ?_⟩
      · rw [Expression.distinctNames, List.mem_eraseDups, names]
        exact List.mem_filterMap.mpr ⟨chars, member, named⟩
      · rwa [Reference.mem_tokens, String.toList_ofList]
  · rintro (⟨name, among, found⟩ | ⟨spelling, member, found⟩)
    · rw [Expression.distinctNames, List.mem_eraseDups, names] at among
      rcases List.mem_filterMap.mp among with ⟨chars, member, named⟩
      refine ⟨chars, member, ?_⟩
      rcases exists_spelling_or_nameOf? chars with ⟨spelling, same⟩ | itself
      · rw [← same, nameOf?_spelling] at named
        cases named
      · rw [itself, Option.some.injEq] at named
        rwa [← named, Reference.mem_tokens, String.toList_ofList] at found
    · refine ⟨spelling.chars, Lexeme.mem_runs.mpr member, ?_⟩
      rw [Spelling.tokensOf_chars, Option.mem_toList]
      exact found

/-- A formula without names and without exponents that look like an address holds no
token, wherever its blanks stand. -/
theorem tokens_eq_nil (accepted : read text = .ok tree) (noName : tree.distinctNames = [])
    (noExponent : ∀ spelling : Spelling,
      .run spelling.chars ∈ Lexeme.split (withoutBlanks text.toList) →
        spelling.exponentToken? = none) :
    Reference.tokens text = [] := by
  rcases isCut_of_read accepted with ⟨cut, derives⟩
  have noLetter : ∀ char ∈ text.toList, Reference.isColumnLetter char = false := by
    intro char member
    cases blank : isBlank char with
    | true => exact (Reference.plain_of_isBlank blank).1
    | false =>
      have kept : char ∈ withoutBlanks text.toList := List.mem_filter.mpr ⟨member, by simp [blank]⟩
      rw [← cut.spells] at kept
      rcases List.mem_flatMap.mp kept with ⟨lexeme, among, within⟩
      cases isRun : lexeme.isRun with
      | false => exact (Lexeme.plain_of_isProper (cut.proper lexeme among) isRun within).1
      | true =>
        cases lexeme with
        | run chars =>
          rcases exists_spelling_or_nameOf? chars with ⟨spelling, same⟩ | named
          · subst same
            exact spelling.isColumnLetter_of_mem_chars (noExponent spelling among) within
          · have name : String.ofList chars ∈ tree.distinctNames := by
              rw [Expression.distinctNames, List.mem_eraseDups, derives.names_eq]
              exact List.mem_filterMap.mpr ⟨chars, Lexeme.mem_runs.mpr among, named⟩
            rw [noName] at name
            cases name
        | _ => cases isRun
  rw [Reference.tokens, Reference.tokensOf_eq_nil noLetter]
  rfl

/-- What the tokens of a formula that is read have to do with the names in it.

A formula without names holds no token, unless an exponent with a capital mark looks like one.

If no blanks cut a digit off, the tokens are those of the text without blanks.  They are
the names that have the shape of an address, the tokens within other names, and the exponents
with a capital mark.  When the formula of a cell comes to a number, then under bindings that
give to each name of the shape of an address the number of its cell. -/
theorem tokens_of_read (accepted : read text = .ok tree) :
    (tree.distinctNames = [] →
      (∀ spelling : Spelling, .run spelling.chars ∈ Lexeme.split (withoutBlanks text.toList) →
        spelling.exponentToken? = none) →
      Reference.tokens text = []) ∧
    (isUnbroken text.toList = true →
      Reference.tokens text = Reference.tokens (String.ofList (withoutBlanks text.toList)) ∧
      (∀ token, token ∈ Reference.tokens text ↔
        (token ∈ tree.distinctNames ∧ Reference.isAddressShaped token.toList = true) ∨
        (∃ name ∈ tree.distinctNames, Reference.isAddressShaped name.toList = false ∧
          token ∈ Reference.tokens name) ∨
        ∃ spelling : Spelling, .run spelling.chars ∈ Lexeme.split (withoutBlanks text.toList) ∧
          spelling.exponentToken? = some token.toList) ∧
      ∀ (size : Size) (grid : Grid size) number, grid.evaluateBody text = .number number →
        ∃ bindings, number = tree.evaluate bindings ∧
          ∀ name ∈ tree.distinctNames, Reference.isAddressShaped name.toList = true →
            ∃ position, size.resolve? name = some position ∧
              bindings.value name = grid.numberAt position) := by
  refine ⟨tokens_eq_nil accepted, fun unbroken => ?_⟩
  have solid := tokensOf_withoutBlanks unbroken
  have members : ∀ token, token ∈ Reference.tokens text ↔
      (∃ name ∈ tree.distinctNames, token ∈ Reference.tokens name) ∨
      ∃ spelling : Spelling,
        .run spelling.chars ∈ Lexeme.split (withoutBlanks text.toList) ∧
          spelling.exponentToken? = some token.toList := by
    intro token
    rw [Reference.mem_tokens, ← solid, (isCut_of_read accepted).1.tokensOf_eq, List.mem_flatMap]
    exact mem_tokensOf_runs accepted
  have shaped : ∀ {name token : String}, Reference.isAddressShaped name.toList = true →
      (token ∈ Reference.tokens name ↔ token = name) := by
    intro name token shaped
    rw [Reference.mem_tokens, Reference.tokensOf_of_isAddressShaped shaped, List.mem_singleton,
      String.toList_inj]
  refine ⟨?_, fun token => ?_, fun size grid number evaluated => ?_⟩
  · rw [Reference.tokens, Reference.tokens, String.toList_ofList, solid]
  · rw [members, ← or_assoc]
    refine or_congr_left ⟨?_, ?_⟩
    · rintro ⟨name, among, found⟩
      cases shape : Reference.isAddressShaped name.toList with
      | true =>
        have same := (shaped shape).mp found
        subst same
        exact .inl ⟨among, shape⟩
      | false => exact .inr ⟨name, among, shape, found⟩
    · rintro (⟨among, shape⟩ | ⟨name, among, _, found⟩)
      · exact ⟨token, among, (shaped shape).mpr rfl⟩
      · exact ⟨name, among, found⟩
  · rcases Grid.exists_of_evaluateBody accepted evaluated with ⟨bindings, bound, same⟩
    refine ⟨bindings, same, fun name among shape => ?_⟩
    apply Grid.exists_of_bind bound
    exact (members name).mpr (.inl ⟨name, among, (shaped shape).mpr rfl⟩)

/-- An address and a longer name that ends like one. -/
def mixedText : String := "A1 + AB12"

theorem tokens_of_read_mixedText :
    read mixedText = .ok (.binary .plus (.name "A1") (.name "AB12")) ∧
    isUnbroken mixedText.toList = true ∧
    "A1" ∈ Reference.tokens mixedText ∧ "B12" ∈ Reference.tokens mixedText ∧
    Reference.tokens mixedText = Reference.tokens "A1+AB12" := by
  have accepted : read mixedText = .ok (.binary .plus (.name "A1") (.name "AB12")) := rfl
  have unbroken : isUnbroken mixedText.toList = true := by decide +kernel
  have found := (tokens_of_read accepted).2 unbroken
  refine ⟨accepted, unbroken, ?_, ?_, found.1⟩
  · exact (found.2.1 "A1").mpr (.inl ⟨by decide, by decide⟩)
  · exact (found.2.1 "B12").mpr (.inr (.inl ⟨"AB12", by decide, by decide, by decide⟩))

/-- A token may come from the end of a longer name or from an exponent, and a blank may hide
an address. -/
theorem tokens_ne_addresses :
    (read "AB12" = .ok (.name "AB12") ∧ Reference.isAddressShaped "AB12".toList = false ∧
      Reference.tokens "AB12" = ["B12"]) ∧
    ((∃ number, read "1E5" = .ok (.number number)) ∧ Reference.tokens "1E5" = ["E5"]) ∧
    read "A 1" = .ok (.name "A1") ∧ Reference.isAddressShaped "A1".toList = true ∧
      Reference.tokens "A 1" = [] := by
  refine ⟨⟨rfl, by decide, by decide⟩, ⟨⟨_, rfl⟩, by decide⟩, rfl, by decide, by decide⟩

end Formula
end Worksheet
