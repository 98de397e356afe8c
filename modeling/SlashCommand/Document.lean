import SlashCommand.Document.Value

/-!
# Documents

A document is a value together with the parts that values refer to by their numbers.  A part may
be in several places, and even within itself, so a document is a graph that is entered at its
root.

What a document is asked for is answered by a document again: an item of a list, for instance, is
the same parts entered at another root.
-/

namespace SlashCommand

/-- A value with the parts it refers to. -/
structure Document where
  parts : Array Document.Value
  root : Document.Value
  deriving Inhabited

namespace Document

/-- A value that refers to no parts. -/
def ofValue (value : Value) : Document :=
  ⟨#[], value⟩

/-- The same parts, entered at a value. -/
def enter (document : Document) (value : Value) : Document :=
  { document with root := value }

/-- The part with a number. -/
def part (document : Document) (number : Nat) : Value :=
  document.parts.getD number .null

/-- The value that a document is: that of the part if its root refers to one. -/
def value (document : Document) : Value :=
  match document.root with
  | .part number => document.part number
  | value => value

/-- The number of the part that a document is. -/
def number? (document : Document) : Option Nat :=
  match document.root with
  | .part number => some number
  | _ => none

/-- The items of a list. -/
def items? (document : Document) : Option (List Document) :=
  document.value.items?.map (·.map document.enter)

/-- Whether a document is a mapping. -/
def isMapping (document : Document) : Bool :=
  document.value.entries?.isSome

/-- The value under a text as key, if the document is a mapping that has it. -/
def field? (document : Document) (name : String) : Option Document :=
  (document.value.entries?.bind fun entries => Value.lookup? entries name).map document.enter

/-! ## As messages show them -/

/-- How many parts may be shown within each other. -/
def displayRoom : Nat :=
  990

/-- A part as messages show it, within some others and with room for some more. -/
def displayPart (document : Document) : Nat → List Nat → Nat → Option String
  | 0, _, _ => none
  | room + 1, around, number =>
    let value := document.part number
    if around.contains number then some value.ellipsis
    else value.displayWith (document.displayPart room (number :: around))

/-- A document as messages show it. -/
def display (document : Document) : String :=
  (document.root.displayWith (document.displayPart displayRoom [])).getD document.value.unshown

/-- The name of a document's sort. -/
def sort (document : Document) : String :=
  document.value.sort

end Document

end SlashCommand
