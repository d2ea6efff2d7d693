import Mathlib.Data.Bool.AllAny
import Mathlib.Data.List.Basic
import Mathlib.Data.List.TakeWhile
import Worksheet.Markup.Token
import Worksheet.Markup.Writing

namespace Worksheet
namespace Markup

/-!
# Cutting what was written

A written tree is cut into the tokens that it was written from.  The tag of an
element yields one token, and so does each stretch of its text: the characters
of markup stand alone as references, and what lies between two of them is one
stretch.

Nothing is assumed of the length of a tree.  The cutting counts its steps, so
the laws hold for every number of steps that exceeds the number of characters.
-/

variable {source : Source}

/-! ## Where a name ends -/

/-- A stretch of some kind in front of a text that begins otherwise. -/
theorem span_append_of_stop (kind : Char → Bool) {front rest : List Char}
    (all : ∀ char ∈ front, kind char = true) (stop : ∀ char ∈ rest.head?, kind char = false) :
    (front ++ rest).takeWhile kind = front ∧ (front ++ rest).dropWhile kind = rest := by
  have noMore : rest.takeWhile kind = [] ∧ rest.dropWhile kind = rest := by
    cases rest with
    | nil => exact ⟨rfl, rfl⟩
    | cons first rest =>
      have other := stop first rfl
      exact ⟨List.takeWhile_cons_of_neg (by simp [other]),
        List.dropWhile_cons_of_neg (by simp [other])⟩
  rw [List.takeWhile_append_of_pos all, List.dropWhile_append_of_pos all, noMore.1, noMore.2,
    List.append_nil]
  exact ⟨rfl, rfl⟩

/-- Whether a text is a simple name as a whole. -/
def isSimpleName (source : Source) : List Char → Bool
  | [] => false
  | first :: later => isNameStart source first && later.all (isNameChar source)

/-- Characters that end a name and do not join it to another one. -/
def nameStops : List Char :=
  [' ', '\t', '\n', '\r', '<', '>', '/', '=', ';', '?', '!', '&', '\x22', '\x27']

theorem isNameChar_of_mem_nameStops {char : Char} (stop : char ∈ nameStops) :
    isNameChar source char = false := by
  have each : (nameStops.all fun char => isNameChar source char = false) = true := by
    unfold isNameChar isNameStart
    cases source.isUtf8 <;> decide
  exact List.all_iff_forall_prop.mp each char stop

theorem not_mem_nameStops {char : Char} (inName : isNameChar source char = true) :
    char ∉ nameStops := by
  intro stop
  rw [isNameChar_of_mem_nameStops stop] at inName
  cases inName

theorem isNameChar_of_isNameStart {char : Char} (start : isNameStart source char = true) :
    isNameChar source char = true := by
  rw [isNameChar, start, Bool.true_or]

/-- A simple name begins with a character that begins names. -/
theorem exists_of_isSimpleName {name : List Char} (simple : isSimpleName source name = true) :
    ∃ first later, name = first :: later ∧ isNameStart source first = true ∧
      ∀ char ∈ later, isNameChar source char = true := by
  cases name with
  | nil => cases simple
  | cons first later =>
    rw [isSimpleName, Bool.and_eq_true, List.all_eq_true] at simple
    exact ⟨first, later, rfl, simple⟩

theorem takeName_append {name rest : List Char} (simple : isSimpleName source name = true)
    (stop : ∀ char ∈ rest.head?, char ∈ nameStops) :
    takeName source (name ++ rest) = some (name, rest) := by
  obtain ⟨first, later, same, start, all⟩ := exists_of_isSimpleName simple
  subst name
  have parts := span_append_of_stop (isNameChar source) all
    fun char head => isNameChar_of_mem_nameStops (stop char head)
  rw [List.cons_append, takeName, if_pos start, parts.1, parts.2]

theorem takeQualifiedName_append {name rest : List Char}
    (simple : isSimpleName source name = true) (stop : ∀ char ∈ rest.head?, char ∈ nameStops) :
    takeQualifiedName source (name ++ rest) = some (⟨none, name⟩, rest) := by
  rw [takeQualifiedName, takeName_append simple stop]
  cases rest with
  | nil => rfl
  | cons next rest =>
    have member := stop next rfl
    have notColon : next ≠ ':' := by
      rintro rfl
      revert member
      decide
    simp only [Option.bind_eq_bind, Option.bind_some]
    split
    · next same => exact absurd (List.cons.inj same).1 notColon
    · rfl

/-- A simple name in front of a character that ends it. -/
theorem takeQualifiedName_stop {name : List Char} {stop : Char}
    (simple : isSimpleName source name = true) (ends : stop ∈ nameStops) (rest : List Char) :
    takeQualifiedName source (name ++ stop :: rest) = some (⟨none, name⟩, stop :: rest) := by
  apply takeQualifiedName_append simple
  rintro _ ⟨⟩
  exact ends

/-! ## Attributes -/

/-- Characters that do not stand for themselves in the value of an attribute. -/
def valueMarks : List Char :=
  ['&', '<', '>', '\x22', '\r', '\n', '\t']

/-- Whether a character stands for itself in the value of an attribute. -/
def isPlainInValue (char : Char) : Bool :=
  !valueMarks.contains char

/-- An attribute that is written as it is: it has a simple name, it binds no
qualifier, and every character of its value stands for itself. -/
structure IsPlainAttribute (source : Source) (entry : String × String) : Prop where
  simple : isSimpleName source entry.1.toList = true
  binds_nothing : entry.1.toList ≠ "xmlns".toList
  plain : ∀ char ∈ entry.2.toList, isLegal char = true ∧ isPlainInValue char = true

/-- An attribute as it is cut from a tag. -/
def rawAttribute (entry : String × String) : RawAttribute :=
  ⟨⟨none, entry.1.toList⟩, entry.2.toList, entry.2.toList.map .char⟩

theorem escapeAttribute_of_plain {char : Char} (plain : isPlainInValue char = true) :
    escapeAttribute char = [char] := by
  unfold escapeAttribute escapeText
  split <;> first | cases plain | skip
  split <;> first | cases plain | rfl

/-- What is escaped as itself stays as it is. -/
theorem flatMap_eq_self {escape : Char → List Char} {chars : List Char}
    (itself : ∀ char ∈ chars, escape char = [char]) : chars.flatMap escape = chars := by
  rw [List.flatMap_congr itself, List.flatMap_singleton']

/-- Cutting ends at the first occurrence of a mark of one character. -/
theorem cutAt_append {mark : Char} {front rest : List Char} (absent : mark ∉ front) :
    cutAt [mark] (front ++ mark :: rest) = some (front, rest) := by
  induction front with
  | nil => simp [cutAt]
  | cons first later hypothesis =>
    rw [List.mem_cons, not_or] at absent
    simp [cutAt, absent.1, hypothesis absent.2]

/-- A mark is not found without its last character. -/
theorem cutAt_eq_none {mark chars : List Char} (char : Char) (inMark : char ∈ mark)
    (absent : char ∉ chars) : cutAt mark chars = none := by
  induction chars with
  | nil =>
    rw [cutAt, if_neg]
    rintro rfl
    cases inMark
  | cons first later hypothesis =>
    have notHere : ¬ mark.isPrefixOf (first :: later) = true := by
      rw [List.isPrefixOf_iff_prefix]
      exact fun here => absent (here.subset inMark)
    rw [List.mem_cons, not_or] at absent
    rw [cutAt, if_neg notHere, hypothesis absent.2, Option.map_none]

theorem cutValue_of_plain {value : List Char}
    (plain : ∀ char ∈ value, isPlainInValue char = true) {steps : Nat}
    (enough : value.length < steps) : cutValue source steps value = some (value.map .char) := by
  induction value generalizing steps with
  | nil =>
    cases steps with
    | zero => cases enough
    | succ steps => rfl
  | cons first later hypothesis =>
    cases steps with
    | zero => cases enough
    | succ steps =>
      have here := plain first List.mem_cons_self
      have onward := hypothesis (fun char member => plain char (List.mem_cons_of_mem first member))
        (Nat.lt_of_succ_lt_succ enough)
      have kept : (if isSpace first then ' ' else first) = first := by
        split
        · next space =>
          simp only [isSpace, Bool.or_eq_true, beq_iff_eq] at space
          rcases space with ((same | same) | same) | same
          · exact same.symm
          all_goals subst first; cases here
        · rfl
      have noReference : first ≠ '&' := by
        rintro rfl
        cases here
      have noTag : first ≠ '<' := by
        rintro rfl
        cases here
      rw [cutValue.eq_4 _ _ _ _ noReference, if_neg noTag, onward, kept]
      rfl

theorem piecesOfValue_of_plain {value : List Char}
    (plain : ∀ char ∈ value, isPlainInValue char = true) :
    piecesOfValue source value = some (value.map .char) := by
  have clean : '\r' ∉ value := by
    intro member
    cases plain _ member
  rw [piecesOfValue, source.endLines_eq_self clean]
  exact cutValue_of_plain plain (Nat.lt_succ_self _)

theorem skipSpace_of_isNameStart {name rest : List Char}
    (simple : isSimpleName source name = true) : skipSpace (name ++ rest) = name ++ rest := by
  obtain ⟨first, later, same, start, _⟩ := exists_of_isSimpleName simple
  subst name
  rw [skipSpace, List.cons_append, List.dropWhile_cons_of_neg]
  intro space
  have stops := not_mem_nameStops (isNameChar_of_isNameStart start)
  simp only [isSpace, Bool.or_eq_true, beq_iff_eq] at space
  rcases space with ((same | same) | same) | same <;> subst first <;> exact stops (by decide)

theorem takeAttribute_write {entry : String × String} (plain : IsPlainAttribute source entry)
    (rest : List Char) :
    takeAttribute source (entry.1.toList ++ '=' :: '\x22' :: (entry.2.toList ++ '\x22' :: rest)) =
      some (rawAttribute entry, rest) := by
  have noMark : '\x22' ∉ entry.2.toList := by
    intro member
    cases (plain.plain _ member).2
  have name := takeQualifiedName_stop plain.simple (by decide : '=' ∈ nameStops)
    ('\x22' :: (entry.2.toList ++ '\x22' :: rest))
  rw [takeAttribute, name]
  simp only [Option.bind_eq_bind, Option.bind_some]
  have equals : skipSpace ('=' :: '\x22' :: (entry.2.toList ++ '\x22' :: rest)) =
      '=' :: '\x22' :: (entry.2.toList ++ '\x22' :: rest) := rfl
  have enclosure : skipSpace ('\x22' :: (entry.2.toList ++ '\x22' :: rest)) =
      '\x22' :: (entry.2.toList ++ '\x22' :: rest) := rfl
  have marked : isEnclosure '\x22' = true := rfl
  simp only [equals, enclosure, takeEnclosed, marked, if_true, cutAt_append noMark,
    piecesOfValue_of_plain fun char member => (plain.plain char member).2, Option.bind_some]
  rfl

/-- How a tag ends, with or without closing its element. -/
def tagEnd (closed : Bool) : List Char :=
  if closed then [' ', '/', '>'] else ['>']

theorem takeAttributes_write {attributes : List (String × String)}
    (plain : ∀ entry ∈ attributes, IsPlainAttribute source entry) (closed : Bool) (rest : List Char)
    {steps : Nat} (enough : attributes.length < steps) :
    takeAttributes source steps (attributes.flatMap writeAttribute ++ (tagEnd closed ++ rest)) =
      some (attributes.map rawAttribute, closed, rest) := by
  induction attributes generalizing steps with
  | nil =>
    cases steps with
    | zero => cases enough
    | succ steps => cases closed <;> rfl
  | cons entry later hypothesis =>
    cases steps with
    | zero => cases enough
    | succ steps =>
      have here := plain entry List.mem_cons_self
      have onward := hypothesis (fun other member => plain other (List.mem_cons_of_mem entry member))
        (Nat.lt_of_succ_lt_succ enough)
      generalize tail : later.flatMap writeAttribute ++ (tagEnd closed ++ rest) = behind at onward
      have spelled : (entry :: later).flatMap writeAttribute ++ (tagEnd closed ++ rest) =
          ' ' :: (entry.1.toList ++ '=' :: '\x22' :: (entry.2.toList ++ '\x22' :: behind)) := by
        rw [← tail, List.flatMap_cons, writeAttribute,
          flatMap_eq_self fun char member => escapeAttribute_of_plain (here.plain char member).2]
        simp only [List.cons_append, List.append_assoc, List.nil_append]
      have skipped : skipSpace (' ' :: (entry.1.toList ++
          '=' :: '\x22' :: (entry.2.toList ++ '\x22' :: behind))) =
            entry.1.toList ++ '=' :: '\x22' :: (entry.2.toList ++ '\x22' :: behind) :=
        skipSpace_of_isNameStart here.simple
      obtain ⟨first, name, same, start, _⟩ := exists_of_isSimpleName here.simple
      have stops := not_mem_nameStops (isNameChar_of_isNameStart start)
      have taken := takeAttribute_write here behind
      rw [spelled, takeAttributes.eq_2, skipped]
      rw [same, List.cons_append] at taken ⊢
      split
      · next closes => exact absurd ((List.cons.inj closes).1 ▸ by decide) stops
      · next closes => exact absurd ((List.cons.inj closes).1 ▸ by decide) stops
      · have spaced : (Option.map isSpace (' ' :: (first :: (name ++
            '=' :: '\x22' :: (entry.2.toList ++ '\x22' :: behind)))).head?).getD false = true := rfl
        rw [if_pos spaced, taken]
        simp only [Option.bind_eq_bind, Option.bind_some, onward, List.map_cons]
        rfl

/-! ## Tags -/

/-- The tokens of a tag with a simple name. -/
def tagTokens (tag : List Char) (attributes : List (String × String)) (closed : Bool) :
    List Token :=
  let opening := Token.opening ⟨none, tag⟩ (attributes.map rawAttribute) closed
  if closed then [opening, .closing tag] else [opening]

/-- What is written of the attributes or of the end of a tag ends a name. -/
theorem mem_nameStops_of_attributes (attributes : List (String × String)) (closed : Bool)
    (rest : List Char) :
    ∀ char ∈ (attributes.flatMap writeAttribute ++ (tagEnd closed ++ rest)).head?,
      char ∈ nameStops := by
  cases attributes with
  | nil => cases closed <;> rintro _ ⟨⟩ <;> decide
  | cons entry later =>
    rintro _ ⟨⟩
    decide

theorem takePart_opening {tag : List Char} {attributes : List (String × String)}
    (simple : isSimpleName source tag = true)
    (plain : ∀ entry ∈ attributes, IsPlainAttribute source entry) (closed : Bool) (rest : List Char)
    {steps : Nat} (enough : attributes.length < steps) :
    takePart source steps
        ('<' :: (tag ++ (attributes.flatMap writeAttribute ++ (tagEnd closed ++ rest)))) =
      some (tagTokens tag attributes closed, rest) := by
  have name := takeQualifiedName_append simple
    (mem_nameStops_of_attributes attributes closed rest)
  obtain ⟨first, later, same, start, _⟩ := exists_of_isSimpleName simple
  have stops := not_mem_nameStops (isNameChar_of_isNameStart start)
  have other : ∀ mark ∈ nameStops, ∀ behind, tag ++ (attributes.flatMap writeAttribute ++
      (tagEnd closed ++ rest)) = mark :: behind → False := by
    intro mark member behind begins
    rw [same, List.cons_append] at begins
    exact stops ((List.cons.inj begins).1 ▸ member)
  rw [takePart.eq_4 _ _ _ (other '/' (by decide)) (other '?' (by decide)) (other '!' (by decide)),
    takeOpening, name]
  simp only [Option.bind_eq_bind, Option.bind_some, takeAttributes_write plain closed rest enough]
  rfl

theorem takePart_closing {tag : List Char} (simple : isSimpleName source tag = true)
    (rest : List Char) (steps : Nat) :
    takePart source steps ('<' :: '/' :: (tag ++ '>' :: rest)) = some ([.closing tag], rest) := by
  have name := takeQualifiedName_stop simple (by decide : '>' ∈ nameStops) rest
  rw [takePart.eq_1, takeClosing, name]
  rfl

/-! ## Texts -/

/-- The name of the reference that is written for a character of markup. -/
def referenceName? : Char → Option (List Char)
  | '&' => some "amp".toList
  | '<' => some "lt".toList
  | '>' => some "gt".toList
  | _ => none

/-- The stretches that a text is cut into: every character of markup by itself,
and the longest stretches without one. -/
def stretches : List Char → List (List Char)
  | [] => []
  | char :: rest =>
      if (referenceName? char).isSome then [char] :: stretches rest
      else (char :: rest.takeWhile fun char => (referenceName? char).isNone) ::
        stretches (rest.dropWhile fun char => (referenceName? char).isNone)
termination_by chars => chars.length
decreasing_by
  · exact Nat.lt_succ_self _
  · exact Nat.lt_succ_of_le (List.length_dropWhile_le _ _)

/-- The stretches of a text make up the text. -/
theorem flatten_stretches (chars : List Char) : (stretches chars).flatten = chars := by
  fun_induction stretches chars with
  | case1 => rfl
  | case2 char rest marked hypothesis => rw [List.flatten_cons, hypothesis]; rfl
  | case3 char rest plain hypothesis =>
    rw [List.flatten_cons, hypothesis, List.cons_append, List.takeWhile_append_dropWhile]

/-- The token of a stretch as it is cut: a reference for a character of markup. -/
def stretchToken : List Char → Token
  | [char] =>
      match referenceName? char with
      | some name => .entity name
      | none => .text [char]
  | stretch => .text stretch

theorem stretchToken_of_plain {stretch : List Char}
    (plain : ∀ char ∈ stretch, referenceName? char = none) : stretchToken stretch = .text stretch := by
  unfold stretchToken
  split
  · next only => simp only [plain only List.mem_cons_self]
  · rfl

theorem escapeText_eq (char : Char) :
    escapeText char =
      match referenceName? char with
      | some name => '&' :: (name ++ [';'])
      | none => [char] := by
  unfold escapeText
  split
  · rfl
  · rfl
  · rfl
  · next notReference notTag notEnd =>
    rw [referenceName?.eq_4 char notReference notTag notEnd]

theorem escapeText_of_plain {char : Char} (plain : referenceName? char = none) :
    escapeText char = [char] := by
  rw [escapeText_eq, plain]

/-- The longest stretch without a character of markup ends in front of one. -/
theorem mem_head?_of_dropWhile (chars rest : List Char) (tagNext : ∀ char ∈ rest.head?, char = '<') :
    ∀ next ∈ ((chars.dropWhile fun char => (referenceName? char).isNone).flatMap escapeText ++
      rest).head?, next = '<' ∨ next = '&' := by
  have marked := List.head?_dropWhile_not (fun char => (referenceName? char).isNone) chars
  intro next head
  cases others : chars.dropWhile fun char => (referenceName? char).isNone with
  | nil =>
    rw [others] at head
    exact .inl (tagNext next head)
  | cons first later =>
    rw [others] at head marked
    obtain ⟨name, found⟩ := Option.isSome_iff_exists.mp (Option.isNone_eq_false_iff.mp marked)
    rw [List.flatMap_cons, escapeText_eq, found] at head
    exact .inr (Option.some.inj head).symm

theorem takePart_reference {char : Char} {name : List Char}
    (marked : referenceName? char = some name) (rest : List Char) (steps : Nat) :
    takePart source steps ('&' :: (name ++ ';' :: rest)) = some ([.entity name], rest) := by
  unfold referenceName? at marked
  split at marked <;> cases marked <;> cases source <;> rfl

theorem takePart_plain {plain rest : List Char} (inhabited : plain ≠ [])
    (all : ∀ char ∈ plain, referenceName? char = none)
    (stop : ∀ char ∈ rest.head?, char = '<' ∨ char = '&') (steps : Nat) :
    takePart source steps (plain ++ rest) = some ([.text (source.endLines plain)], rest) := by
  have absent : ∀ mark, (referenceName? mark).isSome = true → mark ∉ plain := by
    intro mark marked member
    rw [all mark member] at marked
    cases marked
  have unmarked : ∀ char ∈ plain, isPlain char = true := by
    intro char member
    have notTag : char ≠ '<' := fun same => absent '<' rfl (same ▸ member)
    have notReference : char ≠ '&' := fun same => absent '&' rfl (same ▸ member)
    simp only [isPlain, Bool.and_eq_true, bne_iff_ne]
    exact ⟨notTag, notReference⟩
  have marked : ∀ char ∈ rest.head?, isPlain char = false := by
    intro char head
    rcases stop char head with same | same <;> subst char <;> rfl
  have parts := span_append_of_stop isPlain unmarked marked
  obtain ⟨first, later, same⟩ := List.exists_cons_of_ne_nil inhabited
  have notFirst : ∀ mark, (referenceName? mark).isSome = true →
      ∀ behind, plain ++ rest = mark :: behind → False := by
    intro mark marked behind begins
    apply absent mark marked
    rw [same, List.cons_append] at begins
    rw [same, (List.cons.inj begins).1]
    exact List.mem_cons_self
  rw [takePart.eq_6 _ _ _ (fun _ => notFirst '<' rfl _) (fun _ => notFirst '<' rfl _)
    (fun _ => notFirst '<' rfl _) (notFirst '<' rfl) (notFirst '&' rfl), parts.1, parts.2,
    cutAt_eq_none '>' (by decide) (absent '>' rfl)]
  rfl

/-! ## Line ends in texts -/

/-- What is read in front of a character that is no line feed does not change how that
is read. -/
theorem joinLineEnds_append (afterReturn : Bool) (front : List Char) {back : List Char}
    (stop : ∀ char ∈ back.head?, char ≠ '\n') :
    joinLineEnds afterReturn (front ++ back) =
      joinLineEnds afterReturn front ++ joinLineEnds false back := by
  induction front generalizing afterReturn with
  | nil =>
    cases back with
    | nil => rfl
    | cons first later => simp only [List.nil_append, joinLineEnds, stop first rfl, false_and, if_false]
  | cons first later hypothesis =>
    simp only [List.cons_append, joinLineEnds, hypothesis]
    split
    · rfl
    · split <;> rfl

theorem mem_joinLineEnds {afterReturn : Bool} {chars : List Char} {char : Char}
    (member : char ∈ joinLineEnds afterReturn chars) : char ∈ chars ∨ char = '\n' := by
  induction chars generalizing afterReturn with
  | nil => cases member
  | cons first later hypothesis =>
    rw [joinLineEnds] at member
    split at member
    · rcases List.mem_cons.mp member with same | within
      · exact .inr same
      · exact (hypothesis within).imp_left (List.mem_cons_of_mem first)
    · split at member
      · exact (hypothesis member).imp_left (List.mem_cons_of_mem first)
      · rcases List.mem_cons.mp member with same | within
        · exact .inl (same ▸ List.mem_cons_self)
        · exact (hypothesis within).imp_left (List.mem_cons_of_mem first)

namespace Source

variable (source : Source)

theorem endLines_append (front : List Char) {back : List Char}
    (stop : ∀ char ∈ back.head?, char ≠ '\n') :
    source.endLines (front ++ back) = source.endLines front ++ source.endLines back := by
  cases source with
  | document encoding => exact joinLineEnds_append false front stop
  | entity => rfl

theorem endLines_cons {char : Char} (noReturn : char ≠ '\r') (rest : List Char) :
    source.endLines (char :: rest) = char :: source.endLines rest := by
  cases source with
  | document encoding =>
    simp only [endLines, normalizeLineEnds, joinLineEnds, noReturn, Bool.false_eq_true, and_false,
      if_false]
  | entity => rfl

theorem mem_endLines {chars : List Char} {char : Char} (member : char ∈ source.endLines chars) :
    char ∈ chars ∨ char = '\n' := by
  cases source with
  | document encoding => exact mem_joinLineEnds member
  | entity => exact .inl member

theorem endLines_eq_nil_iff {chars : List Char} : source.endLines chars = [] ↔ chars = [] := by
  constructor
  · cases chars with
    | nil => exact fun _ => rfl
    | cons first later =>
      cases source with
      | document encoding =>
        simp only [endLines, normalizeLineEnds, joinLineEnds, Bool.false_eq_true, and_false,
          if_false]
        split
        · exact fun none => absurd none (List.cons_ne_nil _ _)
        · exact fun none => absurd none (List.cons_ne_nil _ _)
      | entity => exact fun none => absurd none (List.cons_ne_nil first later)
  · rintro rfl
    cases source <;> rfl

end Source

theorem ne_of_marked {char : Char} (marked : (referenceName? char).isSome = true) :
    char ≠ '\r' ∧ char ≠ '\n' := by
  constructor <;> rintro rfl <;> cases marked

theorem unmarked_endLines {stretch : List Char}
    (unmarked : ∀ char ∈ stretch, referenceName? char = none) :
    ∀ char ∈ source.endLines stretch, referenceName? char = none := by
  intro char member
  rcases source.mem_endLines member with within | same
  · exact unmarked char within
  · exact same ▸ rfl

/-- The first stretch of a text that begins without a character of markup, and what
follows it. -/
theorem first_stretch {char : Char} (rest : List Char)
    (plain : ¬ (referenceName? char).isSome = true) :
    char :: rest = (char :: rest.takeWhile fun char => (referenceName? char).isNone) ++
      rest.dropWhile (fun char => (referenceName? char).isNone) ∧
    (∀ other ∈ char :: rest.takeWhile fun char => (referenceName? char).isNone,
      referenceName? other = none) ∧
    ∀ next ∈ (rest.dropWhile fun char => (referenceName? char).isNone).head?,
      (referenceName? next).isSome = true := by
  refine ⟨?_, ?_, ?_⟩
  · rw [List.cons_append, List.takeWhile_append_dropWhile]
  · intro other member
    rcases List.mem_cons.mp member with same | within
    · rw [same]
      exact Option.not_isSome_iff_eq_none.mp plain
    · have isNone := List.mem_takeWhile_imp (p := fun char => (referenceName? char).isNone) within
      exact Option.isNone_iff_eq_none.mp isNone
  · intro next head
    have stop := List.head?_dropWhile_not (fun char => (referenceName? char).isNone) rest
    rw [Option.mem_def.mp head] at stop
    exact Option.isNone_eq_false_iff.mp stop

/-- A stretch without a character of markup in front of one. -/
theorem stretches_append {front back : List Char} (inhabited : front ≠ [])
    (plain : ∀ char ∈ front, referenceName? char = none)
    (stop : ∀ char ∈ back.head?, (referenceName? char).isSome = true) :
    stretches (front ++ back) = front :: stretches back := by
  obtain ⟨first, later, rfl⟩ := List.exists_cons_of_ne_nil inhabited
  have isNone : ∀ char ∈ later, (referenceName? char).isNone = true := fun char member =>
    Option.isNone_iff_eq_none.mpr (plain char (List.mem_cons_of_mem first member))
  have parts := span_append_of_stop (fun char => (referenceName? char).isNone) isNone
    fun char head => Option.isNone_eq_false_iff.mpr (stop char head)
  have unmarked : ¬ (referenceName? first).isSome = true := by
    rw [plain first List.mem_cons_self]
    exact Bool.false_ne_true
  rw [List.cons_append, stretches, if_neg unmarked, parts.1, parts.2]

/-- A text with its line ends made line feeds has the same stretches with theirs made
so. -/
theorem stretches_endLines (source : Source) (chars : List Char) :
    stretches (source.endLines chars) = (stretches chars).map source.endLines := by
  fun_induction stretches chars with
  | case1 => rw [source.endLines_eq_nil_iff.mpr rfl, stretches, List.map_nil]
  | case2 char rest marked hypothesis =>
    have alone : source.endLines [char] = [char] := by
      rw [source.endLines_cons (ne_of_marked marked).1, source.endLines_eq_nil_iff.mpr rfl]
    rw [source.endLines_cons (ne_of_marked marked).1, stretches, if_pos marked, hypothesis,
      List.map_cons, alone]
  | case3 char rest plain hypothesis =>
    obtain ⟨whole, unmarked, marked⟩ := first_stretch rest plain
    generalize front : char :: rest.takeWhile (fun char => (referenceName? char).isNone) = stretch
      at whole unmarked
    generalize rest.dropWhile (fun char => (referenceName? char).isNone) = others
      at hypothesis whole marked
    have inhabited : source.endLines stretch ≠ [] := by
      rw [ne_eq, source.endLines_eq_nil_iff, ← front]
      exact List.cons_ne_nil _ _
    have markedToo : ∀ next ∈ (source.endLines others).head?, (referenceName? next).isSome = true := by
      cases others with
      | nil =>
        rw [source.endLines_eq_nil_iff.mpr rfl]
        rintro _ ⟨⟩
      | cons next later =>
        rw [source.endLines_cons (ne_of_marked (marked next rfl)).1]
        exact marked
    rw [whole, source.endLines_append stretch fun next head => (ne_of_marked (marked next head)).2,
      stretches_append inhabited (unmarked_endLines unmarked) markedToo, hypothesis, List.map_cons]

/-! ## Trees -/

mutual

/-- A tree is plain if its tags are simple names, its attributes are plain and
no two have one name, and its texts are legal.  Of two texts side by side the border
would be lost. -/
def Node.IsPlain (source : Source) : Node → Prop
  | .text stretch => ∀ char ∈ stretch.toList, isLegal char = true
  | .element tag attributes content =>
      isSimpleName source tag.toList = true ∧
        (∀ entry ∈ attributes, IsPlainAttribute source entry) ∧
        (attributes.map Prod.fst).Nodup ∧ Node.ArePlain source content

def Node.ArePlain (source : Source) : List Node → Prop
  | [] => True
  | node :: later =>
      node.IsPlain source ∧ (node.isText = true → ∀ next ∈ later.head?, next.isText = false) ∧
        Node.ArePlain source later

end

mutual

/-- The tree whose texts have single line feeds for line ends. -/
def Node.endLines (source : Source) : Node → Node
  | .text stretch => .text (String.ofList (source.endLines stretch.toList))
  | .element tag attributes content => .element tag attributes (Node.endLinesAll source content)

def Node.endLinesAll (source : Source) : List Node → List Node
  | [] => []
  | node :: later => node.endLines source :: Node.endLinesAll source later

end

mutual

/-- The tokens of a tree, given those of a text. -/
def Node.tokens (ofText : List Char → List Token) : Node → List Token
  | .text stretch => ofText stretch.toList
  | .element tag attributes content =>
      .opening ⟨none, tag.toList⟩ (attributes.map rawAttribute) content.isEmpty ::
        (Node.tokensOf ofText content ++ [.closing tag.toList])

def Node.tokensOf (ofText : List Char → List Token) : List Node → List Token
  | [] => []
  | node :: later => node.tokens ofText ++ Node.tokensOf ofText later

end

/-- The tokens of a text as they are cut. -/
def textTokens (chars : List Char) : List Token :=
  (stretches chars).map stretchToken

/-- Within an open element, a text is cut into some tokens and what follows the
outermost element, whatever number of steps is allowed. -/
def CutsInto (source : Source) (depth : Nat) (chars : List Char) (tokens : List Token)
    (behind : List Char) : Prop :=
  ∀ steps, chars.length < steps →
    tokensOfElement source steps depth chars = some (tokens, behind)

/-- What is left to cut behind a part: nothing if the outermost element is closed. -/
def GoesOn (source : Source) (depth : Nat) (chars : List Char) (tokens : List Token)
    (behind : List Char) : Prop :=
  if depth = 0 then tokens = [] ∧ behind = chars else CutsInto source depth chars tokens behind

/-- One part is cut, and then the rest. -/
theorem GoesOn.cutsInto {depth next : Nat} {chars rest behind : List Char}
    {tokens later : List Token} (onward : GoesOn source next rest later behind)
    (shorter : rest.length < chars.length)
    (part : ∀ steps, chars.length ≤ steps → takePart source steps chars = some (tokens, rest))
    (depthAfter : depthAfter depth tokens = some next) :
    CutsInto source depth chars (tokens ++ later) behind := by
  intro steps enough
  cases steps with
  | zero => cases enough
  | succ steps =>
    have inhabited : chars.isEmpty = false := by
      cases chars with
      | nil => cases shorter
      | cons first later => rfl
    rw [tokensOfElement]
    simp only [inhabited, Bool.false_eq_true, if_false, part steps (Nat.le_of_lt_succ enough),
      Option.bind_eq_bind, Option.bind_some, depthAfter]
    rw [GoesOn] at onward
    split at onward
    · next closed =>
      rw [if_pos closed, onward.1, onward.2, List.append_nil]
      rfl
    · next notClosed =>
      rw [if_neg notClosed, onward steps (by omega)]
      rfl

theorem CutsInto.goesOn {depth : Nat} {chars behind : List Char} {tokens : List Token}
    (cut : CutsInto source (depth + 1) chars tokens behind) :
    GoesOn source (depth + 1) chars tokens behind := by
  rw [GoesOn, if_neg (Nat.succ_ne_zero depth)]
  exact cut

/-- A text within an element is cut into its stretches, and the line ends in them are
made line feeds. -/
theorem CutsInto.text {depth : Nat} {chars rest behind : List Char} {later : List Token}
    (onward : CutsInto source (depth + 1) rest later behind)
    (tagNext : ∀ char ∈ rest.head?, char = '<') :
    CutsInto source (depth + 1) (chars.flatMap escapeText ++ rest)
      (textTokens (source.endLines chars) ++ later) behind := by
  rw [textTokens, stretches_endLines]
  fun_induction stretches chars with
  | case1 => exact onward
  | case2 char chars marked hypothesis =>
    obtain ⟨name, found⟩ := Option.isSome_iff_exists.mp marked
    have spelled : (char :: chars).flatMap escapeText ++ rest =
        '&' :: (name ++ ';' :: (chars.flatMap escapeText ++ rest)) := by
      rw [List.flatMap_cons, escapeText_eq, found]
      simp only [List.cons_append, List.append_assoc, List.nil_append]
    have token : stretchToken (source.endLines [char]) = .entity name := by
      rw [source.endLines_cons (ne_of_marked marked).1, source.endLines_eq_nil_iff.mpr rfl]
      simp only [stretchToken, found]
    rw [spelled, List.map_cons, List.map_cons, token]
    refine hypothesis.goesOn.cutsInto ?_ (fun steps _ => takePart_reference found _ steps) rfl
    simp only [List.length_cons, List.length_append]
    omega
  | case3 char chars plain hypothesis =>
    have stop := mem_head?_of_dropWhile chars rest tagNext
    obtain ⟨whole, unmarked, _⟩ := first_stretch chars plain
    generalize front : char :: chars.takeWhile (fun char => (referenceName? char).isNone) = stretch
      at whole unmarked
    generalize chars.dropWhile (fun char => (referenceName? char).isNone) = others
      at hypothesis stop whole
    have kept := flatMap_eq_self fun other member => escapeText_of_plain (unmarked other member)
    have inhabited : stretch ≠ [] := by
      rw [← front]
      exact List.cons_ne_nil _ _
    have token : stretchToken (source.endLines stretch) = .text (source.endLines stretch) :=
      stretchToken_of_plain (unmarked_endLines unmarked)
    rw [whole, List.flatMap_append, kept, List.append_assoc, List.map_cons, List.map_cons, token]
    refine hypothesis.goesOn.cutsInto ?_ (fun steps _ => takePart_plain inhabited unmarked stop steps)
      rfl
    have positive := List.length_pos_iff.mpr inhabited
    simp only [List.length_append]
    omega

/-- What is written of an element begins with a bracket. -/
theorem Node.head?_write {node : Node} (element : node.isText = false) (rest : List Char) :
    (node.write ++ rest).head? = some '<' := by
  cases node with
  | text stretch => cases element
  | element tag attributes content => cases content <;> rfl

theorem Node.head?_writeAll {nodes : List Node} {rest : List Char}
    (element : ∀ node ∈ nodes.head?, node.isText = false) (tagNext : ∀ char ∈ rest.head?, char = '<') :
    ∀ char ∈ (Node.writeAll nodes ++ rest).head?, char = '<' := by
  cases nodes with
  | nil => exact tagNext
  | cons node later =>
    intro char head
    rw [Node.writeAll, List.append_assoc, Node.head?_write (element node rfl)] at head
    exact (Option.some.inj head).symm

theorem length_le_flatMap_writeAttribute (attributes : List (String × String)) :
    attributes.length ≤ (attributes.flatMap writeAttribute).length := by
  induction attributes with
  | nil => exact Nat.le_refl 0
  | cons entry later hypothesis =>
    simp only [List.length_cons, List.flatMap_cons, List.length_append, writeAttribute]
    omega

mutual

/-- A written element is cut into its tokens, with the line ends of its texts made line
feeds. -/
theorem Node.cutsInto_write : ∀ (node : Node), node.IsPlain source → node.isText = false →
    ∀ {depth : Nat} {rest behind : List Char} {later : List Token},
      GoesOn source depth rest later behind →
        CutsInto source depth (node.write ++ rest)
          ((node.endLines source).tokens textTokens ++ later) behind
  | .text _, _, notText, _, _, _, _, _ => nomatch notText
  | .element tag attributes [], plain, _, depth, rest, behind, later, onward => by
    obtain ⟨simple, plainAttributes, _, _⟩ := plain
    have enough := length_le_flatMap_writeAttribute attributes
    have spelled : (Node.element tag attributes []).write ++ rest =
        '<' :: (tag.toList ++ (attributes.flatMap writeAttribute ++ (tagEnd true ++ rest))) := by
      simp only [Node.write, tagEnd, if_true, List.cons_append, List.append_assoc]
    rw [spelled]
    refine onward.cutsInto ?_ (fun steps bound => takePart_opening simple plainAttributes true rest ?_)
      rfl
    · simp only [List.length_cons, List.length_append]
      omega
    · simp only [List.length_cons, List.length_append] at bound
      omega
  | .element tag attributes (first :: others), plain, _, depth, rest, behind, later, onward => by
    obtain ⟨simple, plainAttributes, _, plainContent⟩ := plain
    have enough := length_le_flatMap_writeAttribute attributes
    have spelled : (Node.element tag attributes (first :: others)).write ++ rest =
        '<' :: (tag.toList ++ (attributes.flatMap writeAttribute ++ (tagEnd false ++
          (Node.writeAll (first :: others) ++ '<' :: '/' :: (tag.toList ++ '>' :: rest))))) := by
      simp only [Node.write, tagEnd, Bool.false_eq_true, if_false, List.cons_append,
        List.append_assoc, List.nil_append]
    have closing : CutsInto source (depth + 1) ('<' :: '/' :: (tag.toList ++ '>' :: rest))
        ([.closing tag.toList] ++ later) behind := by
      refine onward.cutsInto ?_ (fun steps _ => takePart_closing simple rest steps) rfl
      simp only [List.length_cons, List.length_append]
      omega
    have content := Node.cutsInto_writeAll (first :: others) plainContent
      (by rintro _ ⟨⟩; rfl) closing
    rw [spelled]
    have tokens : ((Node.element tag attributes (first :: others)).endLines source).tokens
        textTokens ++ later = tagTokens tag.toList attributes false ++
          (Node.tokensOf textTokens (Node.endLinesAll source (first :: others)) ++
            ([.closing tag.toList] ++ later)) := by
      simp only [Node.endLines, Node.endLinesAll, Node.tokens, tagTokens, List.isEmpty_cons,
        Bool.false_eq_true, if_false, List.cons_append, List.append_assoc, List.nil_append]
    rw [tokens]
    refine content.goesOn.cutsInto ?_
      (fun steps bound => takePart_opening simple plainAttributes false _ ?_) rfl
    · simp only [List.length_cons, List.length_append]
      omega
    · simp only [List.length_cons, List.length_append] at bound
      omega

/-- Written content is cut into its tokens. -/
theorem Node.cutsInto_writeAll : ∀ (nodes : List Node), Node.ArePlain source nodes →
    ∀ {depth : Nat} {rest behind : List Char} {later : List Token},
      (∀ char ∈ rest.head?, char = '<') → CutsInto source (depth + 1) rest later behind →
        CutsInto source (depth + 1) (Node.writeAll nodes ++ rest)
          (Node.tokensOf textTokens (Node.endLinesAll source nodes) ++ later) behind
  | [], _, _, _, _, _, _, onward => onward
  | .text stretch :: others, ⟨plain, alone, plainOthers⟩, depth, rest, behind, later, tagNext,
      onward => by
    have others' := Node.cutsInto_writeAll others plainOthers tagNext onward
    have begins := Node.head?_writeAll (alone rfl) tagNext
    simp only [Node.writeAll, Node.write, Node.endLinesAll, Node.endLines, Node.tokensOf,
      Node.tokens, String.toList_ofList, List.append_assoc]
    exact others'.text begins
  | .element tag attributes content :: others, ⟨plain, _, plainOthers⟩, depth, rest, behind, later,
      tagNext, onward => by
    have others' := Node.cutsInto_writeAll others plainOthers tagNext onward
    simp only [Node.writeAll, Node.endLinesAll, Node.tokensOf, List.append_assoc]
    exact Node.cutsInto_write (.element tag attributes content) plain rfl others'.goesOn

end

end Markup
end Worksheet
