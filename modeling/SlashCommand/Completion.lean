import SlashCommand.Grammar.Builtin
import SlashCommand.Line.Cursor
import SlashCommand.Suggestion
import SlashCommand.Walk

/-!
# Completion

Given a line and a cursor in it, what may be typed there.  The line is first understood as a
`Request`, which says what kind of word is being typed and where; the answer to a request depends
on nothing else of the line.  A line that makes no sense asks for nothing, and is no error.

In the command's own token the request is for a command name, and likewise while that token is
the bare slash, wherever the cursor stands.  Behind it the complete tokens walk the command's
tree, and the state of the walk together with the stem decide between the value of a flag, a
flag, and a node of the tree.
-/

namespace SlashCommand

open Grammar (Command Flag Registry)

/-- What is asked for at a cursor. -/
inductive Request where
  /-- Nothing can be offered. -/
  | nothing
  /-- The line begins with a command that no grammar knows. -/
  | unknownCommand (name : String)
  /-- The name of a command. -/
  | commandName (slot : Slot)
  /-- The value of a flag. -/
  | flagValue (flag : Flag) (slot : Slot) (hint : Option String)
  /-- A flag that is available in a state of the walk. -/
  | flagName (state : Walk.State) (slot : Slot)
  /-- A node that the state of the walk leads to, or also a flag while nothing is typed. -/
  | node (state : Walk.State) (slot : Slot) (hint : Option String)

/-- What is on offer at a cursor. -/
structure Completion where
  suggestions : List Suggestion
  /-- What is shown at the cursor while nothing is typed there. -/
  hint : Option String
  context : ContextKind
  deriving DecidableEq

namespace Completion

/-- Nothing on offer. -/
def nothing : Completion :=
  ⟨[], none, .none⟩

/-- How far flags are put behind nodes where both are on offer. -/
def flagPenalty : Penalty :=
  .whole 100

/-- Whether a line is a command: whether its first character that is not blank is the slash. -/
def isCommandLine (line : String) : Bool :=
  match Text.dropBlank line.toList with
  | '/' :: _ => true
  | _ => false

/-- A text without one slash in front. -/
def dropSlash (s : String) : String :=
  match s.toList with
  | '/' :: cs => String.ofList cs
  | _ => s

end Completion

namespace Request

/-- The request for a word behind a command, in a state of the walk. -/
def ofState (state : Walk.State) (slot : Slot) : Request :=
  let hint := if slot.stem = "" then state.hint else none
  if state.freeText then nothing
  else match state.pending with
    | some flag => flagValue flag slot hint
    | none =>
      if slot.stem.toList.head? = some '-' then flagName state slot else node state slot hint

/-- The request of a cursor behind a command's name, where `command?` is what is known under the
name. -/
def behind (focus : Line.Focus) (name : String) : Option Command → Request
  | none => unknownCommand name
  | some command =>
    ofState (Walk.along command (focus.settled.map (·.text)))
      ⟨focus.stem, focus.start, focus.stop⟩

/-- The name that is looked up for a cursor that sees a line so, and what is known under it.
Nothing is looked up while the name itself is being typed. -/
def lookup? (registry : Registry) (focus : Line.Focus) : Option (String × Option Command) :=
  match focus.tokens with
  | [] => none
  | command :: _ =>
    if focus.active = some 0 || command.text = "/" then none
    else
      let name := Completion.dropSlash command.text
      some (name, registry.get? name)

/-- The request of a cursor that sees a line so. -/
def ofFocus (registry : Registry) (focus : Line.Focus) : Request :=
  match focus.tokens, lookup? registry focus with
  | [], _ => nothing
  | _, some (name, command?) => behind focus name command?
  | command :: _, none =>
    let stem := if focus.active = some 0 then focus.stem else ""
    commandName ⟨Completion.dropSlash stem, command.start, command.stop⟩

/-- The request of a line and a cursor. -/
def ofLine (registry : Registry) (line : String) (cursor : Int) : Request :=
  if Completion.isCommandLine line then ofFocus registry (Line.focus line cursor) else nothing

/-- What is on offer for a request. -/
def answer (registry : Registry) (context : Context) (providers : Providers) :
    Request → Completion
  | nothing => .nothing
  | unknownCommand _ => .nothing
  | commandName slot => ⟨Suggestion.commandNames registry.commands slot, none, .commandName⟩
  | flagValue flag slot hint =>
    ⟨Suggestion.flagValues flag slot context providers, hint, .flagValue⟩
  | flagName state slot =>
    ⟨Suggestion.flags state.availableFlags state.usedFlags slot (.whole 0), none, .flagName⟩
  | node state slot hint =>
    let nodes := Suggestion.nodes state.nodes slot context providers
    let flags :=
      if slot.stem = "" then
        Suggestion.flags state.availableFlags state.usedFlags slot Completion.flagPenalty
      else []
    let suggestions := nodes ++ flags
    ⟨suggestions, hint,
      if suggestions.isEmpty then .none else Suggestion.nodesContext state.nodes⟩

/-- The ids of the providers that are asked for values. -/
def providerIds : Request → List String
  | flagValue flag _ _ => (Suggestion.flagProvider flag).toList
  | node state _ _ => Suggestion.nodeProviders state.nodes
  | _ => []

/-- What is logged while a request is answered. -/
def events (providers : Providers) : Request → List Event
  | unknownCommand name => [.grammarMissing name]
  | request => request.providerIds.flatMap providers.events

end Request

/-- What is on offer at a cursor of a line.  Without a registry, or with an empty one, the
built-in commands are on offer. -/
def complete (line : String) (cursor : Int) (context : Context) (registry : Option Registry)
    (providers : Providers) : Completion :=
  let registry := Registry.orBuiltin registry
  (Request.ofLine registry line cursor).answer registry context providers

/-- What is logged while a line is completed. -/
def completionEvents (line : String) (cursor : Int) (registry : Option Registry)
    (providers : Providers) : List Event :=
  (Request.ofLine (Registry.orBuiltin registry) line cursor).events providers

end SlashCommand
