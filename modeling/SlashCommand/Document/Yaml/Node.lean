import SlashCommand.Document.Yaml.Tag

/-!
# Nodes of a YAML document

A node is a scalar, a sequence or a mapping with its sort.  A node may be a part of many others,
and of itself, since it may be called by its name wherever it has been begun.  So the nodes of a
document are a graph, in which each has a number.

The entries of a mapping are kept apart from it under a number of their own: who looks at them
sees what becomes of them later, even if the mapping has been given others in the meantime.
-/

namespace SlashCommand.Document.Yaml

/-- The number of a node. -/
abbrev NodeId :=
  Nat

/-- A key and its value. -/
abbrev Entry :=
  NodeId × NodeId

/-- What a node consists of. -/
inductive Content where
  | scalar (characters : List Char)
  | sequence (items : List NodeId)
  /-- The entries with a number. -/
  | mapping (entries : Nat)

/-- A node with its sort. -/
structure Node where
  tag : Tag
  content : Content

/-- The nodes of a document by their numbers, and the entries of mappings. -/
structure Graph where
  nodes : Array Node
  entries : Array (List Entry)

namespace Graph

/-- The graph without nodes. -/
def empty : Graph :=
  ⟨#[], #[]⟩

/-- The node with a number. -/
def node (graph : Graph) (id : NodeId) : Node :=
  graph.nodes.getD id ⟨.null, .scalar []⟩

/-- The sort of a node. -/
def tag (graph : Graph) (id : NodeId) : Tag :=
  (graph.node id).tag

/-- The graph with one more node, and its number. -/
def add (graph : Graph) (node : Node) : Graph × NodeId :=
  ({ graph with nodes := graph.nodes.push node }, graph.nodes.size)

/-- The graph with another sort of a node. -/
def setTag (graph : Graph) (id : NodeId) (tag : Tag) : Graph :=
  { graph with nodes := graph.nodes.modify id fun node => { node with tag } }

/-- The graph with the items of a sequence. -/
def setItems (graph : Graph) (id : NodeId) (items : List NodeId) : Graph :=
  { graph with nodes := graph.nodes.modify id fun node =>
      { node with content := .sequence items } }

/-- The graph with new entries of a mapping. -/
def setEntries (graph : Graph) (id : NodeId) (entries : List Entry) : Graph :=
  { nodes := graph.nodes.modify id fun node =>
      { node with content := .mapping graph.entries.size }
    entries := graph.entries.push entries }

/-- The number of a mapping's entries. -/
def entriesOf? (graph : Graph) (id : NodeId) : Option Nat :=
  match (graph.node id).content with
  | .mapping entries => some entries
  | _ => none

/-- The entries with a number. -/
def entriesAt (graph : Graph) (number : Nat) : List Entry :=
  graph.entries.getD number []

/-- The entries of a mapping. -/
def entries? (graph : Graph) (id : NodeId) : Option (List Entry) :=
  (graph.entriesOf? id).map graph.entriesAt

/-- The graph without one of the entries with a number. -/
def dropEntry (graph : Graph) (number place : Nat) : Graph :=
  { graph with entries := graph.entries.modify number fun entries => entries.eraseIdx place }

end Graph

end SlashCommand.Document.Yaml
