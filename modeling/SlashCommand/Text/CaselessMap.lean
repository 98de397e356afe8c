import SlashCommand.Text.Lowercase

/-!
# Maps without letter case

A map from keys to values in which texts that are equal in lowercase are one key, and so are
numbers that are equal, whatever they are written like.  The map remembers the order in which its
keys were first set, and a key that is set again keeps its place.
-/

namespace SlashCommand.Text

/-- A key: a text, a number, or something that has nothing but a name. -/
inductive Key where
  | text (value : String)
  | number (value : Rat)
  | symbol (name : String)
  deriving DecidableEq, Repr

/-- The form of a key under which its value is kept. -/
def Key.folded : Key → Key
  | text value => text (lowercase value)
  | key => key

/-- A map whose keys are folded. -/
structure CaselessMap (α : Type) where
  entries : List (Key × α)

namespace CaselessMap

variable {α : Type}

/-- The map without keys. -/
def empty : CaselessMap α :=
  ⟨[]⟩

/-- The value of a key. -/
def get? (map : CaselessMap α) (key : Key) : Option α :=
  map.entries.lookup key.folded

/-- Whether a key has a value. -/
def contains (map : CaselessMap α) (key : Key) : Bool :=
  (map.get? key).isSome

/-- The map with the value of one key set. -/
def insert (map : CaselessMap α) (key : Key) (value : α) : CaselessMap α :=
  if map.contains key then
    ⟨map.entries.map fun entry =>
      if entry.1 = key.folded then (key.folded, value) else entry⟩
  else ⟨map.entries ++ [(key.folded, value)]⟩

/-- The number of keys. -/
def size (map : CaselessMap α) : Nat :=
  map.entries.length

end CaselessMap

end SlashCommand.Text
