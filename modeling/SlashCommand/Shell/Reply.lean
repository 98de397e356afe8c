import SlashCommand.Shell.Help
import SlashCommand.Submission

/-!
# Replies to submitted lines

The shell understands a submitted line and prints what it understood; it carries nothing out.  A
line that is no command is a message.  Two commands are the shell's own: one ends it, the other
prints help.
-/

namespace SlashCommand.Shell

open Grammar (Registry)

/-- The name of the command that ends the shell. -/
def quitName : String :=
  "quit"

/-- The name of the command that prints help. -/
def helpName : String :=
  "help"

/-- What the shell does about a line. -/
structure Reply where
  /-- Whether the shell goes on. -/
  goesOn : Bool
  output : Output
  events : List Event
  deriving DecidableEq

/-- What is shown as the value of a flag. -/
def showValue : FlagValue → String
  | .set => "True"
  | .text value => Text.quoted value

/-- What is printed about a line that was understood. -/
def echo (submission : Submission) : Output :=
  let heading := printed s!"[command]/{submission.command.name}[/]"
  let words := Markup.escape (Text.quotedList submission.positional)
  let positional :=
    if submission.positional.isEmpty then .ofLines [] else printed s!"  positional: {words}"
  let flags := submission.flags.map fun (name, value) =>
    printed s!"  [flag]--{Markup.escape name}[/] = {Markup.escape (showValue value)}"
  heading ++ positional ++ .concat flags

/-- The reply to a line. -/
def reply (line : String) (registry : Registry) : Reply :=
  if Text.strip line = "" then ⟨true, .ofLines [], []⟩
  else if !Completion.isCommandLine line then
    ⟨true, printed s!"[placeholder]message:[/] {Markup.escape line}", []⟩
  else match Submission.parse line (some registry) with
    | .error refusal =>
      ⟨true, printed s!"[error]{refusal.code}:[/] {Markup.escape refusal.message}",
        [.lineRejected line refusal.code]⟩
    | .ok submission =>
      if submission.command.name = quitName then ⟨false, .ofLines [], []⟩
      else if submission.command.name = helpName then
        ⟨true, help registry submission.positional.head?, []⟩
      else ⟨true, echo submission, []⟩

/-- What the shell prints first. -/
def greeting : Output :=
  printed "Type [command]/help[/] for commands, [command]/quit[/] to exit."

/-- What has come of the lines that were submitted. -/
structure Transcript where
  output : Output
  events : List Event
  /-- How many lines were not asked for. -/
  unread : Nat
  deriving DecidableEq

/-- The replies to submitted lines, until the shell ends.  It also ends where the user breaks off
instead of submitting a line, and where something cannot be printed. -/
def converse (registry : Registry) : List (Option String) → Transcript
  | [] => ⟨.ofLines [], [], 0⟩
  | none :: lines => ⟨.ofLines [], [], lines.length⟩
  | some line :: lines =>
    let first := reply line registry
    if first.goesOn && first.output.fault.isNone then
      let rest := converse registry lines
      ⟨first.output ++ rest.output, first.events ++ rest.events, rest.unread⟩
    else ⟨first.output, first.events, lines.length⟩

end SlashCommand.Shell
