import SlashCommand.Document.Toml.Fault
import SlashCommand.Text.Split

/-!
# Places in a TOML document

The entries of a document belong to the table that the last header opened.  A `Place` is the way
there from the whole document.  It leads through the tables that are named, and where an array of
tables is named, through its last table.

A header may also lead to a value that is no table.  Such a place has no parts: what is looked for
there is refused in a way that depends on the value.
-/

namespace SlashCommand.Document.Toml

/-- A step on the way to a place. -/
inductive Turn where
  | key (name : String)
  /-- To the last item. -/
  | final
  deriving DecidableEq, Repr

/-- The way from a value to a part of it. -/
abbrev Place :=
  List Turn

/-- An empty table. -/
def emptyTable : Value :=
  .mapping [] false

/-- The last item of a list, or the last character of a text. -/
def finalPart : Value → Except Fault Value
  | .list items =>
    match items.getLast? with
    | some item => .ok item
    | none => .error .shortList
  | .string text =>
    match text.toList.getLast? with
    | some c => .ok (.string (String.singleton c))
    | none => .error .shortText
  | value => .error (.noParts (sortName value))

/-- Whether a name is a key of a table, an item of a list or a part of a text. -/
def hasPart (name : String) : Value → Except Fault Bool
  | .mapping entries _ => .ok (Value.lookup? entries name).isSome
  | .list items => .ok (items.any fun item => item.text? == some name)
  | .string text => .ok (Text.isWithin name.toList text.toList)
  | value => .error (.notSearched (sortName value))

/-- The value under a name. -/
def namedPart (name : String) : Value → Except Fault Value
  | .mapping entries _ =>
    match Value.lookup? entries name with
    | some value => .ok value
    | none => .error .shortList
  | .list _ => .error .keyOfList
  | .string _ => .error .keyOfText
  | value => .error (.noParts (sortName value))

/-- Puts a value under a name. -/
def putPart (name : String) (part : Value) : Value → Except Fault Value
  | .mapping entries inline => .ok (.mapping (Value.put entries (.string name) part) inline)
  | .list _ => .error .keyOfList
  | value => if value.text?.isSome then .error .fixedText else .error (.noParts (sortName value))

/-- The value at a place. -/
def valueAt (value : Value) : Place → Except Fault Value
  | [] => .ok value
  | .key name :: place => do valueAt (← namedPart name value) place
  | .final :: place => do valueAt (← finalPart value) place

/-- Changes the value at a place; what else comes of the change is returned beside it. -/
def changeAt {α : Type} (change : Value → Except Fault (Value × α)) (value : Value) :
    Place → Except Fault (Value × α)
  | [] => change value
  | .key name :: place => do
    let (part, result) ← changeAt change (← namedPart name value) place
    return (← putPart name part value, result)
  | .final :: place => do
    let (part, result) ← changeAt change (← finalPart value) place
    match value with
    | .list items => return (.list (items.dropLast ++ [part]), result)
    | value => return (value, result)

/-- Changes the table at the end of a path of names; tables on the way come to be.  Empty names
are passed over. -/
def changeUnder {α : Type} (change : Value → Except Fault (Value × α)) (value : Value) :
    List String → Except Fault (Value × α)
  | [] => change value
  | name :: names => do
    if name = "" then changeUnder change value names
    else
      let value ← if ← hasPart name value then .ok value else putPart name emptyTable value
      let (part, result) ← changeUnder change (← namedPart name value) names
      return (← putPart name part value, result)

end SlashCommand.Document.Toml
