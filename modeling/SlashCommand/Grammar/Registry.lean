import SlashCommand.Event
import SlashCommand.Grammar.Command
import SlashCommand.Text.CaselessMap

/-!
# The registry of commands

A registry is a sequence of commands no two names of which are equal in lowercase, aliases
included.  It is built once and never changed; adding commands builds another one.  The index
from names to commands is kept beside the commands, and the proof field says that it is theirs.
-/

namespace SlashCommand.Grammar

open Text (CaselessMap)

/-- A name that two commands, or one command twice, lay claim to. -/
structure NameClash where
  /-- The name as the later command spells it. -/
  name : String
  command : Command
  /-- The command that has the name already. -/
  holder : Command

/-- What is said of a clash. -/
def NameClash.message (clash : NameClash) : String :=
  s!"Command name '{clash.name}' of '/{clash.command.name}' is already registered by " ++
    s!"'/{clash.holder.name}'."

/-- The names that commands go by, each with its command. -/
def nameEntries (commands : List Command) : List (String × Command) :=
  commands.flatMap fun command => command.names.map fun name => (name, command)

/-- Adds names to an index, up to the first one that is taken. -/
def addNames (index : CaselessMap Command) :
    List (String × Command) → Except NameClash (CaselessMap Command)
  | [] => .ok index
  | (name, command) :: entries =>
    match index.get? (.text name) with
    | some holder => .error ⟨name, command, holder⟩
    | none => addNames (index.insert (.text name) command) entries

/-- The index of all names of some commands. -/
def indexNames (commands : List Command) : Except NameClash (CaselessMap Command) :=
  addNames .empty (nameEntries commands)

/-- Commands with distinct names. -/
structure Registry where
  commands : List Command
  index : CaselessMap Command
  indexNames_commands : indexNames commands = .ok index

namespace Registry

/-- The registry of some commands, in their order. -/
def ofCommands (commands : List Command) : Except NameClash Registry :=
  match h : indexNames commands with
  | .ok index => .ok ⟨commands, index, h⟩
  | .error clash => .error clash

/-- The registry without commands. -/
def empty : Registry :=
  ⟨[], .empty, rfl⟩

/-- The command that goes by a name.  Blank characters around the name and its letter case do
not matter; a blank name is nobody's. -/
def get? (registry : Registry) (name : String) : Option Command :=
  let stripped := Text.strip name
  if stripped = "" then none else registry.index.get? (.text stripped)

/-- Whether some command goes by a name. -/
def contains (registry : Registry) (name : String) : Bool :=
  (registry.get? name).isSome

/-- The primary names of the commands. -/
def names (registry : Registry) : List String :=
  registry.commands.map (·.name)

/-- The number of commands. -/
def size (registry : Registry) : Nat :=
  registry.commands.length

/-- The registry with more commands behind those that are there. -/
def merged (registry : Registry) (commands : List Command) : Except NameClash Registry :=
  ofCommands (registry.commands ++ commands)

/-- A registry by its primary names. -/
def summary (registry : Registry) : String :=
  "CommandRegistry(" ++ ", ".intercalate registry.names ++ ")"

/-- What is logged when a registry has been built. -/
def built (registry : Registry) : Event :=
  .registryBuilt registry.size registry.index.size

end Registry

end SlashCommand.Grammar
