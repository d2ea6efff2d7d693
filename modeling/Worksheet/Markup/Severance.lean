import Worksheet.Markup.Document

namespace Worksheet
namespace Markup

/-!
# Documents in which a character is severed

A document is read from its beginning, and what is found first decides.  A part of
it that is passed on is taken for a reference only if nothing before that part
breaks a rule; what stands behind does not matter any more.  So a document is
examined here as far as it can be cut.

Two kinds of parts can be taken for references: the literals of declarations, and
references to entities of which the document does not say what they stand for.
Whether the marks or tokens before such a part are in order is seen from what the
reader makes of them: a declaration is cut off behind the literal, and an element
is closed in front of the reference.
-/

/-! ## Declarations -/

/-- The marks before the root element, as far as they can be cut, and what follows. -/
def marksAsFar (source : Source) : (steps : Nat) → List Char → List Mark × List Char
  | 0, chars => ([], chars)
  | steps + 1, chars =>
      if beginsElement source chars then ([], chars)
      else
        match takeMark source chars with
        | none => ([], chars)
        | some (mark, rest) =>
            let (marks, rest) := marksAsFar source steps rest
            (mark :: marks, rest)

/-- The character that is severed when a mark is passed on. -/
def Mark.severed? : Mark → Option Severed
  | literal chars => Markup.severed? (enclosed chars)
  | _ => none

/-- Whether a declaration is in order as far as it goes.  The identifier that it ends
with may have to be followed by another one. -/
def isBegun (source : Source) (declarations : Declarations) (keyword : List Char)
    (marks : List Mark) : Bool :=
  (readDeclaration source declarations keyword marks).isSome
    || (readDeclaration source declarations keyword (marks ++ [.literal []])).isSome

/-- The character that is severed while the declarations between the brackets are
read. -/
def severedInSubset (source : Source) : (steps : Nat) → Declarations → List Mark →
    Option Severed
  | 0, _, _ => none
  | steps + 1, declarations, marks =>
      match marks with
      | .space :: later => severedInSubset source steps declarations later
      | .remark :: later => severedInSubset source steps declarations later
      | .parameter :: later => severedInSubset source steps declarations.afterReference later
      | .opening keyword :: later =>
          let body := later.takeWhile (· != .closing)
          match body.dropWhile (Mark.passes source) with
          | literal :: _ =>
              let before := body.takeWhile (Mark.passes source) ++ [literal]
              if isBegun source declarations keyword (before.filter (· != .space)) then
                literal.severed?
              else none
          | [] =>
              match later.dropWhile (· != .closing) with
              | .closing :: later => do
                  let marks := body.filter (· != .space)
                  let declarations ← readDeclaration source declarations keyword marks
                  severedInSubset source steps declarations later
              | _ => none
      | _ => none

/-- The character that is severed while the marks of a prolog are read. -/
def severedInProlog (source : Source) (declarations : Declarations) (marks : List Mark) :
    Option Severed :=
  match marks.dropWhile fun mark => mark == .space || mark == .remark with
  | .opening keyword :: later =>
      if keyword = "DOCTYPE".toList then do
        let (declarations, marks) ← readDoctypeHeader declarations later
        match marks with
        | .leftBracket :: later => severedInSubset source (later.length + 1) declarations later
        | _ => none
      else none
  | _ => none

/-! ## Content -/

/-- The tokens of the parts of an element, as far as they can be cut. -/
def partsAsFar (source : Source) : (steps depth : Nat) → List Char → List (List Token)
  | 0, _, _ => []
  | steps + 1, depth, chars =>
      match takePart source steps chars with
      | none => []
      | some (tokens, rest) =>
          match depthAfter depth tokens with
          | none => []
          | some 0 => [tokens]
          | some (depth + 1) => tokens :: partsAsFar source steps (depth + 1) rest

/-- Whether a reference in content is passed on: the document declares that the
entity stands for a text outside of it, or it leaves the declaration to others. -/
def Declarations.passesOn (declarations : Declarations) (name : List Char) : Bool :=
  match declarations.entity? name with
  | some .outside => true
  | some _ => false
  | Option.none => !declarations.strict

/-- The name of the entity to which a part refers. -/
def referenceOf? : List Token → Option (List Char)
  | [.entity name] => some name
  | _ => none

/-- The spellings of the elements that are open behind some tokens, the innermost
first. -/
def openBehind : (spellings : List (List Char)) → List Token → List (List Char)
  | spellings, [] => spellings
  | spellings, .opening name _ _ :: later => openBehind (name.spelling :: spellings) later
  | _ :: spellings, .closing _ :: later => openBehind spellings later
  | spellings, _ :: later => openBehind spellings later

/-- Whether the element at the beginning of a text is in order within its first parts.
The text belongs to the end of what has been read of a document of some bytes. -/
def isOpened (encoding : Encoding) (declarations : Declarations) (size : Nat)
    (parts : List (List Token)) (chars : List Char) : Bool :=
  let tokens := parts.flatten
  let closing := (openBehind [] tokens).map Token.closing
  let tree := (expandContent declarations tokens).bind fun tokens =>
    assemble declarations [] (tokens ++ closing)
  tree.isSome &&
    (declarations.entities.isEmpty ||
      staysTolerable encoding declarations.weights size (parts.length + 1) 0 declarations.added
        chars)

/-- The character that is severed while the content of an element is read. -/
def severedInContent (encoding : Encoding) (declarations : Declarations) (size : Nat)
    (chars : List Char) : Option Severed :=
  let parts := partsAsFar (.document encoding) (chars.length + 1) 0 chars
  let isOwn := fun part => !(referenceOf? part).any declarations.passesOn
  let before := parts.takeWhile isOwn
  match (parts.drop before.length).head?.bind referenceOf? with
  | some name =>
      if isOpened encoding declarations size before chars then severed? ('&' :: (name ++ [';']))
      else none
  | none => none

/-! ## Documents -/

/-- The characters that are read of a document before an illegal one.  Space behind
the end of a document changes nothing, but it ends the last mark. -/
def legalPart (whole : Bool) (chars : List Char) : List Char :=
  if whole && chars.all isLegal then chars ++ [' '] else chars.takeWhile isLegal

/-- The character that is severed while a document is read from its characters behind
some bytes.  The flag says whether these characters are the whole document. -/
def severedInChars (encoding : Encoding) (behind : Nat) (whole : Bool) (chars : List Char) :
    Option Severed := do
  let source := Source.document encoding
  if source.isUtf8 then none
  else
    let chars := legalPart whole chars
    let size := behind + encoding.size chars
    let (header, rest) ← Header.take chars
    let (marks, rest) := marksAsFar source (rest.length + 1) rest
    let declarations := Declarations.none size header.standsAlone
    match severedInProlog source declarations marks with
    | some severed => some severed
    | none => do
        let declarations ← readProlog source declarations marks
        if beginsElement source rest then severedInContent encoding declarations size rest
        else none

/-- The characters at the beginning of some numbers of two bytes, and whether all of
these stand for characters. -/
def charsAsFar : List Nat → List Char × Bool
  | [] => ([], true)
  | unit :: later =>
      if Encoding.isLeadingSurrogate unit then
        match later with
        | second :: later =>
            let code := 0x10000 + 0x400 * (unit % 0x400) + second % 0x400
            let (chars, whole) := charsAsFar later
            (Char.ofNat code :: chars, whole)
        | [] => ([], false)
      else if Encoding.isTrailingSurrogate unit then ([], false)
      else
        let (chars, whole) := charsAsFar later
        (Char.ofNat unit :: chars, whole)

/-- The characters at the beginning of a document of pairs of bytes, and whether there
is nothing behind them but a single byte. -/
def decodeAsFar (bigEndian : Bool) (bytes : List UInt8) : List Char × Bool :=
  charsAsFar ((Encoding.units bigEndian (bytes.take (2 * (bytes.length / 2)))).getD [])

/-- The character that is severed while a document is read from its bytes. -/
def severedInBytes (bytes : List UInt8) : Option Severed :=
  let (order?, rest) := layoutOf bytes
  let behind := bytes.length - rest.length
  match order? with
  | some bigEndian =>
      let (chars, whole) := decodeAsFar bigEndian rest
      match Header.take chars with
      | some (header, _) =>
          if header.encoding.all (Encoding.allowsName bigEndian) then
            severedInChars (.wide bigEndian) behind whole chars
          else none
      | none => none
  | none => do
      let (header, _) ← Header.take (Encoding.ofLatin rest)
      if header.encoding.bind Encoding.ofName? = some .latin then
        severedInChars .latin behind true (Encoding.ofLatin rest)
      else none

/-- The character that is severed while a document is read from a text. -/
def severedInText (text : String) : Option Severed :=
  match byteOrder? text.toList with
  | none => none
  | some bigEndian =>
      let (chars, whole) := decodeAsFar bigEndian (bytesOfText text)
      severedInChars (.wide bigEndian) 0 whole (dropByteOrderMark chars)

/-- The name that a document of bytes gives for its encoding. -/
def statedEncoding? (bytes : List UInt8) : Option (List Char) := do
  let (order?, rest) := layoutOf bytes
  let chars := match order? with
    | some bigEndian => (decodeAsFar bigEndian rest).1
    | none => Encoding.ofLatin rest
  (← Header.take chars).1.encoding

end Markup
end Worksheet
