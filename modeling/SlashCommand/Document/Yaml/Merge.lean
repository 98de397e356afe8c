import SlashCommand.Document.Yaml.Fault
import SlashCommand.Document.Yaml.Node

/-!
# Entries that a mapping takes over

Under the merge key a mapping names another one, or a sequence of them, whose entries it takes
over in front of its own.  Completing a mapping takes its merge keys away and puts the entries in.

What is taken over is completed first, and that may well be the mapping itself, which is then
completed within its own completion: it has lost the merge key by then, and whatever the inner
completion puts in the outer one goes on with.  Since no completion ever puts a merge key in, the
turns that are needed are no more than the entries that were written.
-/

namespace SlashCommand.Document.Yaml

/-- A step that changes the graph. -/
abbrev Merging :=
  StateT Graph (Except Fault)

/-- Passes over entries, the first of which has a place, and returns the place of the first with
a merge key.  The key of a mapping's own value is a text like any other from here on. -/
def findMerge : List Entry → Nat → Merging Nat
  | [], place => return place
  | (key, _) :: entries, place => do
    match (← get).tag key with
    | .merge => return place
    | .own =>
      modify fun graph => graph.setTag key .text
      findMerge entries (place + 1)
    | _ => findMerge entries (place + 1)

/-- The number of the entries of a mapping that something is taken over from. -/
def completeSource (complete : NodeId → Merging Unit) (source : NodeId) : Merging Nat := do
  if ((← get).entriesOf? source).isNone then throw .malformed
  complete source
  match (← get).entriesOf? source with
  | some number => return number
  | none => throw .malformed

/-- The entries that are taken over from a node.  Of several mappings the last comes first, so that
the first has the last word. -/
def takeOver (complete : NodeId → Merging Unit) (source : NodeId) : Merging (List Entry) := do
  let sources :=
    match ((← get).node source).content with
    | .sequence items => items
    | _ => [source]
  let numbers ← sources.mapM (completeSource complete)
  let graph ← get
  return numbers.reverse.flatMap graph.entriesAt

/-- Completes a mapping from a place on, with the entries that have been taken over so far. -/
def completeFrom (complete : NodeId → Merging Unit) (mapping : NodeId) (taken : List Entry)
    (place : Nat) : Nat → Merging Unit
  | 0 => return
  | turns + 1 => do
    let number := ((← get).entriesOf? mapping).getD 0
    let place ← findMerge (((← get).entriesAt number).drop place) place
    let graph ← get
    let entries := graph.entriesAt number
    match entries[place]? with
    | none => if !taken.isEmpty then set (graph.setEntries mapping (taken ++ entries))
    | some (_, source) =>
      set (graph.dropEntry number place)
      let more ← takeOver complete source
      completeFrom complete mapping (taken ++ more) place turns

/-- Completes a mapping, with a number of turns that is enough, and as long as there is room for
one completion within another. -/
def completeMapping (turns : Nat) : Nat → NodeId → Merging Unit
  | 0, _ => throw (.tooDeep .reading)
  | room + 1, mapping => completeFrom (completeMapping turns room) mapping [] 0 turns

/-- A number of turns that is enough for every completion. -/
def Graph.turns (graph : Graph) : Nat :=
  (graph.entries.foldl (fun count entries => count + entries.length) 0) + 1

end SlashCommand.Document.Yaml
