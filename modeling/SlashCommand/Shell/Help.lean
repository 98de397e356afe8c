import SlashCommand.Completion
import SlashCommand.Shell.Table

/-!
# Help

What the shell prints when it is asked for help: a table of all commands, or the description,
usage and aliases of one.  A command is asked for by any of its names, with or without the slash.
-/

namespace SlashCommand.Shell

open Grammar (Command Registry)

/-- The table of all commands. -/
def commandTable (registry : Registry) : Table :=
  { title := "Slash Commands"
    header := ["Command", "Aliases", "Usage", "Description"]
    rows := registry.commands.map fun command =>
      ["/" ++ command.name, ", ".intercalate command.aliases, Markup.escape command.usage,
        Markup.escape command.description] }

/-- What is printed about one command. -/
def describe (command : Command) : Output :=
  let heading := printed s!"[command]/{command.name}[/] {Markup.escape command.description}"
  let usage := printed s!"Usage: {Markup.escape command.usage}"
  let names := ", ".intercalate (command.aliases.map fun name => "/" ++ name)
  let aliases :=
    if command.aliases.isEmpty then Output.ofLines [] else printed s!"Aliases: {names}"
  heading ++ usage ++ aliases

/-- What is printed when help is asked for, possibly about a command. -/
def help (registry : Registry) (name : Option String) : Output :=
  match name.filter (· != "") with
  | none => (commandTable registry).print
  | some name =>
    match registry.get? (Completion.dropSlash name) with
    | some command => describe command
    | none => printed s!"[error]Unknown command:[/] /{Markup.escape name}"

end SlashCommand.Shell
