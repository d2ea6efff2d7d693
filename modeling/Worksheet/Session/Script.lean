import Worksheet.Session.State

namespace Worksheet

/-!
# Scripts

A script follows the announcements of a session by its rules.  When a change is
announced, every rule that concerns it and has uses left is used: its operations
run in order, after the name and the present value of the cell have been put in
for two marks.  A use is counted before the operations run, so changes that they
cause themselves find one use less.
-/

namespace Text

/-- Put a text in for every occurrence of a mark.  The first argument counts the
characters that still belong to the occurrence before. -/
def substituteFrom (mark replacement : List Char) : (skip : Nat) → List Char → List Char
  | _, [] => []
  | skip + 1, _ :: rest => substituteFrom mark replacement skip rest
  | 0, char :: rest =>
      if mark.isPrefixOf (char :: rest) then
        replacement ++ substituteFrom mark replacement (mark.length - 1) rest
      else char :: substituteFrom mark replacement 0 rest

/-- Put a text in for every occurrence of a mark that is not empty. -/
def substitute (mark replacement text : String) : String :=
  String.ofList (substituteFrom mark.toList replacement.toList 0 text.toList)

end Text

/-- The mark for the name of the changed cell. -/
def nameMark : String := "\x7bname\x7d"

/-- The mark for the value of the changed cell. -/
def valueMark : String := "\x7bvalue\x7d"

/-- An entry with a name and a value put in for their marks.  The name comes
first. -/
def Entry.fill (name value : String) : Entry → Entry
  | text chars => text (Text.substitute valueMark value (Text.substitute nameMark name chars))
  | entry => entry

def Draft.fill (name value : String) (draft : Draft) : Draft :=
  { draft with latter := draft.latter.fill name value }

/-- An operation with a name and a value put in for their marks, where it enters
something into a cell. -/
def Operation.fill (name value : String) : Operation → Operation
  | assignText key entry => assignText key (entry.fill name value)
  | define id draft => define id (draft.fill name value)
  | edit draft => edit (draft.fill name value)
  | operation => operation

namespace Engine

variable {size : Size}

/-- The rules of a script with their uses. -/
def scriptOf (id : String) : Engine size (List ActiveRule) := do
  return ((← get).scripts.lookup id).getD []

/-- Change the rules of the script with a name. -/
def modifyScript (id : String) (change : List ActiveRule → List ActiveRule) : Engine size Unit :=
  modify fun session =>
    { session with
      scripts := session.scripts.map fun script =>
        if script.1 == id then (script.1, change script.2) else script }

/-- Count one more use of a rule. -/
def countUse (id : String) (index : Nat) : Engine size Unit :=
  modifyScript id fun rules => rules.modify index fun active => { active with uses := active.uses + 1 }

/-- Run an operation of a rule. -/
def act (perform : Operation → Engine size Unit) (position : Position size)
    (operation : Operation) : Engine size Unit := do
  perform (operation.fill position.name (← cellAt position).value)

/-- Use one rule of a script, if it concerns a change and has uses left. -/
def useRule (perform : Operation → Engine size Unit) (id : String) (position : Position size)
    (property : Property) (index : Nat) : Engine size Unit := do
  match (← scriptOf id)[index]? with
  | none => pure ()
  | some active =>
      if active.rule.concerns position.name property && active.uses < active.rule.limit then
        countUse id index
        active.rule.actions.forM (act perform position)
      else pure ()

/-- Let a script follow the announcement of a change. -/
def follow (perform : Operation → Engine size Unit) (position : Position size)
    (property : Property) (id : String) : Engine size Unit := do
  let rules ← scriptOf id
  (List.range rules.length).forM (useRule perform id position property)

end Engine
end Worksheet
