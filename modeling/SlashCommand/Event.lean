import SlashCommand.Text.Quoted

/-!
# Events

What happens while lines are completed and grammars are loaded, for those who watch.  An event
carries what its log line says and nothing else.  All events are of the level that is meant for
finding out why something was not offered.
-/

namespace SlashCommand

/-- Something worth a line in the log. -/
inductive Event where
  /-- Logging was set up. -/
  | loggingReady (mode : String)
  /-- A registry was built of so many commands, with so many names. -/
  | registryBuilt (commands names : Nat)
  /-- So many commands were read from a document. -/
  | grammarLoaded (commands : Nat) (path : String)
  /-- A line begins with a command that has no grammar. -/
  | grammarMissing (command : String)
  /-- Values were asked of a provider that is not registered. -/
  | providerMissing (id : String)
  /-- A submitted line was refused. -/
  | lineRejected (line code : String)
  deriving DecidableEq, Repr

namespace Event

/-- The text of an event. -/
def message : Event → String
  | loggingReady mode => s!"Logging initialized in '{mode}' mode."
  | registryBuilt commands names =>
    s!"Built command registry with {commands} commands ({names} names)."
  | grammarLoaded commands path => s!"Loaded {commands} command grammars from '{path}'."
  | grammarMissing command => s!"No completion grammar for command '{command}'."
  | providerMissing id => s!"No completion provider registered for '{id}'."
  | lineRejected line code => "Rejected input " ++ Text.quoted line ++ ": " ++ code

/-- The level of an event. -/
def level (_ : Event) : String :=
  "DEBUG"

/-- The name under which events are logged. -/
def source (_ : Event) : String :=
  "slashkit"

end Event

end SlashCommand
