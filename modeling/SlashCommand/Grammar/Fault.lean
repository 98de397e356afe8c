/-!
# Faults of a grammar

What can be wrong with a single flag, argument or command, whatever else the grammar holds.  Each
fault names the part it is about, so its message needs nothing else.
-/

namespace SlashCommand.Grammar

/-- A reason why a flag, an argument or a command cannot be part of a grammar. -/
inductive Fault where
  /-- A flag's name has no dash in front or nothing behind it. -/
  | flagName (flag : String)
  /-- Another name of a flag has no dash in front or nothing behind it. -/
  | flagAlias (short flag : String)
  /-- A flag takes one of a fixed set of values, and the set is empty. -/
  | flagValues (flag : String)
  /-- A flag takes one of a set of values found while completing, and nobody is named to ask. -/
  | flagProvider (flag : String)
  /-- A keyword is declared as an argument. -/
  | literalArgument (argument : String)
  /-- An argument takes one of a fixed set of values, and the set is empty. -/
  | argumentValues (argument : String)
  /-- An argument takes one of a set of values found while completing, and nobody is named to
  ask. -/
  | argumentProvider (argument : String)
  /-- A command's name is empty, begins with the slash, or holds a blank character. -/
  | commandName (command : String)
  deriving DecidableEq, Repr

/-- What is said of a fault. -/
def Fault.message : Fault → String
  | flagName flag => s!"Flag name '{flag}' must start with '-' and have a body."
  | flagAlias short flag => s!"Alias '{short}' of flag '{flag}' must start with '-'."
  | flagValues flag => s!"Enum flag '{flag}' needs enum_values."
  | flagProvider flag => s!"Dynamic-enum flag '{flag}' needs a provider_id."
  | literalArgument argument =>
    s!"Argument '{argument}' cannot be literal; use a LiteralNode."
  | argumentValues argument => s!"Enum argument '{argument}' needs enum_values."
  | argumentProvider argument => s!"Dynamic-enum argument '{argument}' needs a provider_id."
  | commandName command =>
    s!"Command name '{command}' must be non-empty, without '/' or spaces."

end SlashCommand.Grammar
