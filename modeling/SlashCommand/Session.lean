import SlashCommand.Completion

/-!
# Completion sessions

What an input field keeps between two keystrokes: the line, what is on offer for it, which
suggestion is highlighted, and whether the list was closed.  Accepting a suggestion completes the
line again at the new cursor, so that one word follows the other.
-/

namespace SlashCommand

open Grammar (Registry)

/-- The state of an input field. -/
structure Session where
  context : Context
  registry : Option Registry
  providers : Providers
  text : String
  completion : Completion
  /-- The highlighted place in the list.  The operations keep it within the list; who sets it by
  hand may leave it. -/
  index : Int
  /-- Whether the list was closed by hand. -/
  dismissed : Bool

namespace Session

/-- A session with an empty line. -/
def new (context : Context) (registry : Option Registry) (providers : Providers) : Session :=
  ⟨context, registry, providers, "", .nothing, 0, false⟩

/-- Whether the list is shown. -/
def isOpen (session : Session) : Bool :=
  !session.dismissed && !session.completion.suggestions.isEmpty

/-- The highlighted suggestion. -/
def selected (session : Session) : Option Suggestion :=
  let suggestions := session.completion.suggestions
  suggestions[Line.clamp (suggestions.length - 1) session.index]?

/-- What is on offer for a line with a cursor in it. -/
def resolve (session : Session) (text : String) (cursor : Int) : Completion :=
  complete text cursor session.context session.registry session.providers

/-- The session with a new offer: its first suggestion is highlighted, and the list is not
closed. -/
def reset (session : Session) (completion : Completion) : Session :=
  { session with completion, index := 0, dismissed := false }

/-- The session after the line has become `text` with a cursor in it; the cursor stands at the
end unless it is given.  A line that is no command is not completed. -/
def update (session : Session) (text : String) (cursor : Option Int) : Session :=
  let session := { session with text }
  if Completion.isCommandLine text then
    session.reset (session.resolve text (cursor.getD text.length))
  else session.reset .nothing

/-- The session with the highlight moved.  A step over either end goes to the other end. -/
def move (session : Session) (delta : Int) : Session :=
  let total : Int := session.completion.suggestions.length
  let index := session.index + delta
  if total = 0 then session
  else if index < 0 then { session with index := total - 1 }
  else if total ≤ index then { session with index := 0 }
  else { session with index }

/-- The line that accepting the highlighted suggestion makes. -/
def accepted (session : Session) : Option Edited :=
  session.selected.map fun suggestion => suggestion.applyTo session.text

/-- The session after the highlighted suggestion was accepted, if there is one.  The new line is
completed at once. -/
def accept (session : Session) : Session :=
  match session.accepted with
  | some edited =>
    let session := { session with text := edited.text }
    session.reset (session.resolve edited.text edited.cursor)
  | none => session

/-- The session with the list closed. -/
def dismiss (session : Session) : Session :=
  { session with dismissed := true, index := 0 }

/-- What is logged while the line is updated. -/
def updateEvents (session : Session) (text : String) (cursor : Option Int) : List Event :=
  if Completion.isCommandLine text then
    completionEvents text (cursor.getD text.length) session.registry session.providers
  else []

/-- What is logged while the highlighted suggestion is accepted. -/
def acceptEvents (session : Session) : List Event :=
  match session.accepted with
  | some edited => completionEvents edited.text edited.cursor session.registry session.providers
  | none => []

end Session

end SlashCommand
