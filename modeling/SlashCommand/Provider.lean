import SlashCommand.Event
import SlashCommand.Grammar.Registry

/-!
# Providers of values

Some values are known only while the program runs: which models there are, which themes, which
environments.  The application takes a snapshot of them, a `Context`, and a provider picks the
values it stands for out of the snapshot.  Nothing is ever waited for.
-/

namespace SlashCommand

/-- What the application has to offer at one moment. -/
structure Context where
  models : List String := []
  themes : List String := []
  environments : List String := []
  commands : List String := []
  deriving DecidableEq, Repr

/-- A snapshot whose commands are those of a registry. -/
def Context.ofRegistry (registry : Grammar.Registry)
    (models themes environments : List String) : Context :=
  { models, themes, environments, commands := registry.names }

/-- Picks values out of a snapshot. -/
abbrev Provider :=
  Context → List String

/-- Providers by their ids, in the order in which the ids were first registered. -/
structure Providers where
  entries : List (String × Provider)

namespace Providers

/-- No providers. -/
def empty : Providers :=
  ⟨[]⟩

/-- Registers a provider.  One that was registered under the same id is replaced in its place. -/
def register (providers : Providers) (id : String) (provider : Provider) : Providers :=
  if providers.entries.any (·.1 == id) then
    ⟨providers.entries.map fun entry => if entry.1 == id then (id, provider) else entry⟩
  else ⟨providers.entries ++ [(id, provider)]⟩

/-- The ids that are registered. -/
def ids (providers : Providers) : List String :=
  providers.entries.map (·.1)

/-- The values for an id.  An id that is not registered has none. -/
def resolve (providers : Providers) (id : String) (context : Context) : List String :=
  match providers.entries.lookup id with
  | some provider => provider context
  | none => []

/-- What is logged when values are asked for. -/
def events (providers : Providers) (id : String) : List Event :=
  if (providers.entries.lookup id).isSome then [] else [.providerMissing id]

/-- The providers of what a context holds. -/
def standard : Providers :=
  ⟨[("models", Context.models), ("themes", Context.themes),
    ("environments", Context.environments), ("commands", Context.commands)]⟩

end Providers

end SlashCommand
