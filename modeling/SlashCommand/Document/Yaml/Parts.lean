import SlashCommand.Document
import SlashCommand.Document.Yaml.Meaning
import SlashCommand.Document.Yaml.Merge

/-!
# The values of YAML nodes

Makes a document of the nodes of a text.  The value of a scalar is made where the node is met.  A
collection becomes a part that has nothing in it at first, and is filled in its turn: those that
have been met earlier come earlier.  So of several faults in a document the first is not the
leftmost one but, of those on the highest level, the leftmost.

The value of a node is made once, however often the node is called by its name.
-/

namespace SlashCommand.Document.Yaml

/-- A value, and the node that it is from.  Whatever is spelled as no number is from nowhere. -/
structure Made where
  value : Value
  origin : Option NodeId
  deriving Inhabited

/-- Whether two values are the same key.  What is no number is the same key only as itself. -/
def Made.sameKey (first second : Made) : Bool :=
  first.value.sameKey second.value ||
    (first.value.isNoNumber && second.value.isNoNumber && first.origin == second.origin)

/-- The entries of a mapping with one key set: a key that is there keeps its place. -/
def Made.put (entries : List (Made × Value)) (key : Made) (value : Value) :
    List (Made × Value) :=
  if entries.any fun entry => entry.1.sameKey key then
    entries.map fun entry => if entry.1.sameKey key then (entry.1, value) else entry
  else entries ++ [(key, value)]

/-- How far the values of a document have been made. -/
structure Builder where
  graph : Graph
  /-- The values by their nodes. -/
  made : Array (Option Made)
  /-- The parts by their numbers. -/
  parts : Array Value
  /-- The nodes that wait to be filled, with the numbers of their parts; the last comes first. -/
  waiting : List (NodeId × Nat)

/-- A step of making values. -/
abbrev Build :=
  StateT Builder (Except Fault)

/-! ## Scalars -/

/-- How many mappings may have their own values in each other, or take over entries through each
other. -/
def chainRoom : Nat :=
  983

/-- The characters of a scalar, or of what a mapping has as its own value. -/
def Graph.characters (graph : Graph) : Nat → NodeId → Except Fault (List Char)
  | 0, _ => throw (.tooDeep .reading)
  | room + 1, id =>
    match (graph.node id).content with
    | .scalar cs => return cs
    | .sequence _ => throw .malformed
    | .mapping number =>
      match (graph.entriesAt number).find? fun entry => graph.tag entry.1 = .own with
      | some (_, value) => graph.characters room value
      | none => throw .malformed

/-- The value of a node that should be a scalar.  A moment has to be one. -/
def Graph.scalar (graph : Graph) (id : NodeId) : Except Fault Made := do
  let tag := graph.tag id
  let cs ← graph.characters chainRoom id
  if tag = .timestamp && (graph.entriesOf? id).isSome then throw .mappingMoment
  let value ← scalarValue tag cs
  return ⟨value, if spellsNoNumber cs then none else some id⟩

/-! ## Nodes -/

/-- Adds a part, and returns the value that it is. -/
def addPart (content : Value) : Build Value := do
  let number := (← get).parts.size
  modify fun s => { s with parts := s.parts.push content }
  return .part number

/-- The value of a collection, which is filled in its turn. -/
def collection (id : NodeId) (empty : Value) : Build Made := do
  let number := (← get).parts.size
  let value ← addPart empty
  modify fun s => { s with waiting := (id, number) :: s.waiting }
  return ⟨value, some id⟩

/-- Makes the value of a node that has not been met. -/
def makeNew (id : NodeId) : Build Made := do
  let graph := (← get).graph
  match graph.tag id with
  | .sequence => collection id (.list [])
  | .pairs => collection id (.list [])
  | .mapping => collection id (.mapping [] false)
  | .set => collection id (.set [])
  | .merge => throw .malformed
  | .own => throw .malformed
  | .unknown => throw .malformed
  | _ => graph.scalar id

/-- The value of a node. -/
def make (id : NodeId) : Build Made := do
  match (← get).made.getD id none with
  | some made => return made
  | none =>
    let made ← makeNew id
    modify fun s => { s with made := s.made.setIfInBounds id (some made) }
    return made

/-! ## Collections -/

/-- The nodes that are the items of a sequence. -/
def itemNodes (id : NodeId) : Build (List NodeId) := do
  match ((← get).graph.node id).content with
  | .sequence items => return items
  | _ => throw .malformed

/-- The pair that an item is: the only entry of a mapping. -/
def makePair (item : NodeId) : Build Value := do
  match (← get).graph.entries? item with
  | some [(key, value)] =>
    let key ← make key
    let value ← make value
    addPart (.pair key.value value.value)
  | _ => throw .malformed

/-- The entries of a mapping, once it is complete.  No collection is a key, which is found out in
front of the value. -/
def makeEntries (id : NodeId) : Build (List (Made × Value)) := do
  let graph := (← get).graph
  if (graph.entriesOf? id).isNone then throw .malformed
  let ((), graph) ← (completeMapping graph.turns (chainRoom + 4) id).run graph
  modify fun s => { s with graph }
  let entries ← ((graph.entries? id).getD []).mapM fun (key, value) => do
    let key ← make key
    if key.value matches .part _ then throw .malformed
    return (key, (← make value).value)
  return entries.foldl (fun all (key, value) => Made.put all key value) []

/-- What a collection consists of. -/
def makeContent (id : NodeId) : Build Value := do
  match (← get).graph.tag id with
  | .sequence => return .list (← (← itemNodes id).mapM fun item => (·.value) <$> make item)
  | .pairs => return .list (← (← itemNodes id).mapM makePair)
  | .set => return .set ((← makeEntries id).map (·.1.value))
  | _ => return .mapping ((← makeEntries id).map fun (key, value) => (key.value, value)) false

/-- Fills the collections in their turns: some that were met earlier, and then those that wait. -/
def fillAll (turn : List (NodeId × Nat)) : Nat → Build Unit
  | 0 => return
  | fuel + 1 => do
    match turn with
    | (id, number) :: turn =>
      let content ← makeContent id
      modify fun s => { s with parts := s.parts.setIfInBounds number content }
      fillAll turn fuel
    | [] =>
      let next := (← get).waiting.reverse
      modify fun s => { s with waiting := [] }
      if !next.isEmpty then fillAll next fuel

/-- The document that a node is the root of.  A node is filled once at most, and there are no more
turns than nodes. -/
def Graph.document (graph : Graph) (root : NodeId) : Except Fault Document := do
  let build : Build Value := do
    let made ← make root
    fillAll [] (2 * graph.nodes.size + 2)
    return made.value
  let (value, s) ← build.run ⟨graph, Array.replicate graph.nodes.size none, #[], []⟩
  return ⟨s.parts, value⟩

end SlashCommand.Document.Yaml
