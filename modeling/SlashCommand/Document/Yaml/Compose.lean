import SlashCommand.Document.Yaml.Node
import SlashCommand.Document.Yaml.Token

/-!
# Composing a YAML document

Makes the nodes of a document from its tokens.  The recursion is bounded by a number that is
larger than that of the tokens; each turn of it reads at least one.

A collection may be called by its name while it is still being read, and then it is a part of
itself.

Collections stand in each other only as long as there is room.  The number `frame` tells how many
steps are open around a node, and `level` how many are open where one of its parts is looked for;
the reader of a part asks for its tokens two steps further in.
-/

namespace SlashCommand.Document.Yaml

/-- How far a document has been composed. -/
structure Composer where
  lexer : Lexer
  graph : Graph
  /-- The nodes that have names. -/
  named : List (String × NodeId)
  /-- What the handles of tags stand for. -/
  handles : List (String × String)

/-- A step of composing. -/
abbrev Compose :=
  StateT Composer (Except Fault)

/-- What handles stand for where a document does not say it. -/
def standardHandles : List (String × String) :=
  [("!", "!"), ("!!", standardTags)]

/-! ## Tokens -/

/-- The next token, asked for at a depth. -/
def next? (depth : Nat) : Compose (Option Token) := do
  let s ← get
  let (token, lexer) ← (nextToken? depth).run s.lexer
  set { s with lexer }
  return token

/-- Passes over the next token, which is known. -/
def drop : Compose Unit := do
  let s ← get
  let ((), lexer) ← dropToken.run s.lexer
  set { s with lexer }

/-- Whether the next token is one of some. -/
def isNext (depth : Nat) (tokens : List Token) : Compose Bool :=
  return (← next? depth).any tokens.contains

/-- Whether one of some tokens comes next, which is passed over. -/
def takeNext (depth : Nat) (tokens : List Token) : Compose Bool := do
  if ← isNext depth tokens then
    drop
    return true
  else return false

/-! ## Nodes of the graph -/

/-- Adds a node. -/
def addNode (tag : Tag) (content : Content) : Compose NodeId := do
  let s ← get
  let (graph, id) := s.graph.add ⟨tag, content⟩
  set { s with graph }
  return id

/-- Adds the node that is there where none is written. -/
def addNothing : Compose NodeId :=
  addNode .null (.scalar [])

/-- Gives a sequence its items. -/
def setItems (id : NodeId) (items : List NodeId) : Compose NodeId := do
  modify fun s => { s with graph := s.graph.setItems id items }
  return id

/-- Gives a mapping its entries. -/
def setEntries (id : NodeId) (entries : List Entry) : Compose NodeId := do
  modify fun s => { s with graph := s.graph.setEntries id entries }
  return id

/-- Adds a node that may have a name, and keeps it under that name. -/
def addNamed (name : Option String) (tag : Tag) (content : Content) : Compose NodeId := do
  let id ← addNode tag content
  if let some name := name then
    modify fun s => { s with named := (name, id) :: s.named }
  return id

/-! ## Properties -/

/-- What a node is given in front of it. -/
structure Properties where
  name : Option String
  /-- The tag; the mark of no sort at all is one as well. -/
  tag : Option String

/-- The tag that a handle and what stands behind it make. -/
def expandTag (handle : Option String) (suffix : String) : Compose String := do
  match handle with
  | none => return suffix
  | some handle =>
    match (← get).handles.lookup handle with
    | some expansion => return expansion ++ suffix
    | none => throw .malformed

/-- Reads a name, if one is given. -/
def readAnchor (depth : Nat) : Compose (Option String) := do
  match ← next? depth with
  | some (.anchor name) =>
    drop
    return some name
  | _ => return none

/-- Reads a tag, if one is given. -/
def readTagToken (depth : Nat) : Compose (Option (Option String × String)) := do
  match ← next? depth with
  | some (.tag handle suffix) =>
    drop
    return some (handle, suffix)
  | _ => return none

/-- Reads the name and the tag of a node, in either order. -/
def readProperties (depth : Nat) : Compose Properties := do
  let first ← readAnchor depth
  let tag ← readTagToken depth
  let second ← if first.isNone && tag.isSome then readAnchor depth else pure none
  let tag ← tag.mapM fun (handle, suffix) => expandTag handle suffix
  return ⟨first <|> second, tag⟩

/-- Finds out whether a name is still free. -/
def checkName (name : Option String) : Compose Unit := do
  let known := (← get).named
  if name.any fun name => (known.lookup name).isSome then throw .malformed

/-- The sort of a node that has one by nature. -/
def Properties.sort (properties : Properties) (natural : Tag) : Tag :=
  match properties.tag with
  | none => natural
  | some "!" => natural
  | some tag => .ofName tag

/-- The sort of a scalar. -/
def Properties.scalarSort (properties : Properties) (cs : List Char) (plain : Bool) : Tag :=
  match properties.tag with
  | none => if plain then .ofSpelling cs else .text
  | some "!" => .ofMarked cs
  | some tag => .ofName tag

/-! ## Nodes -/

/-- The level at which the parts of a collection are looked for; the first one a step further
in. -/
def partLevel (frame : Nat) (first : Bool) : Nat :=
  if first then frame + 4 else frame + 3

/-- The level at which the value of an entry is looked for. -/
def valueLevel (frame : Nat) : Nat :=
  frame + 4

/-- The number of steps around a part of a collection. -/
def partFrame (frame : Nat) : Nat :=
  frame + 2

/-- Passes over the token that a collection begins with. -/
def dropStart (frame : Nat) : Compose Unit := do
  let _ ← next? (frame + 4)
  drop

/-- Whether a mapping begins with a token. -/
def startsMapping (token : Token) : Bool :=
  token = .flowMapping || token = .blockMapping

/-- Whether a collection begins with a token; block collections only stand in blocks. -/
def startsCollection (inBlock : Bool) (token : Token) : Bool :=
  token = .flowSequence || token = .flowMapping ||
    (inBlock && (token = .blockSequence || token = .blockMapping))

mutual

/-- Reads a node, whose tokens are asked for at a depth.  In a block it may be a block collection;
where `dashed`, items may follow without an indentation of their own. -/
def readNode (frame depth : Nat) (inBlock dashed : Bool) : Nat → Compose NodeId
  | 0 => throw .malformed
  | fuel + 1 => do
    if let some (.link name) ← next? depth then
      drop
      match (← get).named.lookup name with
      | some node => return node
      | none => throw .malformed
    let properties ← readProperties depth
    let token ← next? depth
    let natural : Tag := if token.any startsMapping then .mapping else .sequence
    match token with
    | some (.scalar cs plain) =>
      drop
      checkName properties.name
      addNamed properties.name (properties.scalarSort cs plain) (.scalar cs)
    | _ =>
      let isItem := token = some .item && dashed
      let isCollection := isItem || token.any (startsCollection inBlock)
      if isCollection then
        checkName properties.name
        let node ← addNamed properties.name (properties.sort natural) (.sequence [])
        if isItem then setItems node (← readItems frame true false [] fuel)
        else
          dropStart frame
          match token with
          | some .flowSequence => setItems node (← readFlowItems frame true [] fuel)
          | some .flowMapping => setEntries node (← readFlowEntries frame true [] fuel)
          | some .blockSequence => setItems node (← readItems frame false true [] fuel)
          | _ => setEntries node (← readEntries frame true [] fuel)
      else if properties.name.isSome || properties.tag.isSome then
        checkName properties.name
        addNamed properties.name (properties.sort .null) (.scalar [])
      else throw .malformed
termination_by structural fuel => fuel

/-- Reads a part of a collection that may be left out, which it is if one of the tokens `stop`
comes next. -/
def readOptional (frame level : Nat) (inBlock dashed : Bool) (stop : List Token) :
    Nat → Compose NodeId
  | 0 => throw .malformed
  | fuel + 1 => do
    if ← isNext (level + 1) stop then addNothing
    else readNode (partFrame frame) (level + 3) inBlock dashed fuel
termination_by structural fuel => fuel

/-- Reads the items of a block sequence.  One without an indentation of its own ends where no
further item comes, any other one with the end of its block. -/
def readItems (frame : Nat) (dashed first : Bool) (items : List NodeId) :
    Nat → Compose (List NodeId)
  | 0 => throw .malformed
  | fuel + 1 => do
    let level := partLevel frame first
    if ← takeNext (level + 1) [.item] then
      let stop := [.item, .blockEnd] ++ if dashed then [.key, .value] else []
      let item ← readOptional frame level true false stop fuel
      readItems frame dashed false (item :: items) fuel
    else if dashed then return items.reverse
    else if ← takeNext (level + 1) [.blockEnd] then return items.reverse
    else throw .malformed
termination_by structural fuel => fuel

/-- Reads the entries of a block mapping. -/
def readEntries (frame : Nat) (first : Bool) (entries : List Entry) : Nat → Compose (List Entry)
  | 0 => throw .malformed
  | fuel + 1 => do
    let level := partLevel frame first
    let stop : List Token := [.key, .value, .blockEnd]
    if ← takeNext (level + 1) [.key] then
      let key ← readOptional frame level true true stop fuel
      let value ← readEntryValue frame true stop fuel
      readEntries frame false ((key, value) :: entries) fuel
    else if ← takeNext (level + 1) [.blockEnd] then return entries.reverse
    else throw .malformed
termination_by structural fuel => fuel

/-- Reads the value of an entry, which is left out if there is no colon. -/
def readEntryValue (frame : Nat) (inBlock : Bool) (stop : List Token) : Nat → Compose NodeId
  | 0 => throw .malformed
  | fuel + 1 => do
    let level := valueLevel frame
    if ← takeNext (level + 1) [.value] then readOptional frame level inBlock inBlock stop fuel
    else addNothing
termination_by structural fuel => fuel

/-- Reads the items of a flow sequence.  An item with a colon is a mapping of one entry. -/
def readFlowItems (frame : Nat) (first : Bool) (items : List NodeId) :
    Nat → Compose (List NodeId)
  | 0 => throw .malformed
  | fuel + 1 => do
    let level := partLevel frame first
    if ← takeNext (level + 1) [.flowSequenceEnd] then return items.reverse
    if !first then
      if !(← takeNext (level + 1) [.comma]) then throw .malformed
    if ← isNext (level + 1) [.key] then
      let item ← addNode .mapping (.sequence [])
      let entry ← readFlowItem (partFrame frame) fuel
      readFlowItems frame false ((← setEntries item [entry]) :: items) fuel
    else if ← takeNext (level + 1) [.flowSequenceEnd] then return items.reverse
    else
      let item ← readNode (partFrame frame) (level + 3) false false fuel
      readFlowItems frame false (item :: items) fuel
termination_by structural fuel => fuel

/-- Reads the entry that is an item of a flow sequence. -/
def readFlowItem (frame : Nat) : Nat → Compose Entry
  | 0 => throw .malformed
  | fuel + 1 => do
    let stop : List Token := [.comma, .flowSequenceEnd]
    dropStart frame
    let key ← readOptional frame (partLevel frame false) false false (.value :: stop) fuel
    let value ← readEntryValue frame false stop fuel
    let _ ← next? (partLevel frame false + 1)
    return (key, value)
termination_by structural fuel => fuel

/-- Reads the entries of a flow mapping.  An entry without a colon has no value. -/
def readFlowEntries (frame : Nat) (first : Bool) (entries : List Entry) :
    Nat → Compose (List Entry)
  | 0 => throw .malformed
  | fuel + 1 => do
    let level := partLevel frame first
    let stop : List Token := [.comma, .flowMappingEnd]
    if ← takeNext (level + 1) [.flowMappingEnd] then return entries.reverse
    if !first then
      if !(← takeNext (level + 1) [.comma]) then throw .malformed
    if ← takeNext (level + 1) [.key] then
      let key ← readOptional frame level false false (.value :: stop) fuel
      let value ← readEntryValue frame false stop fuel
      readFlowEntries frame false ((key, value) :: entries) fuel
    else if ← takeNext (level + 1) [.flowMappingEnd] then return entries.reverse
    else
      let key ← readNode (partFrame frame) (level + 3) false false fuel
      let _ ← next? (valueLevel frame + 1)
      let value ← addNothing
      readFlowEntries frame false ((key, value) :: entries) fuel
termination_by structural fuel => fuel

end

/-! ## Documents -/

/-- How many steps are open around the outermost node of a document. -/
def rootFrame : Nat :=
  13

/-- How many steps are open where the marks around a document are looked for. -/
def outerDepth : Nat :=
  rootFrame + 2

/-- Reads the directives in front of a document.  The version is told once, and is the first;
every handle is told once. -/
def readDirectives (hasVersion : Bool) (handles : List (String × String)) :
    Nat → Compose (List (String × String))
  | 0 => return handles
  | fuel + 1 => do
    match ← next? outerDepth with
    | some (.version major) =>
      drop
      if hasVersion || major ≠ 1 then throw .malformed
      readDirectives true handles fuel
    | some (.handle name expansion) =>
      drop
      if (handles.lookup name).isSome then throw .malformed
      readDirectives hasVersion ((name, expansion) :: handles) fuel
    | some .directive =>
      drop
      readDirectives hasVersion handles fuel
    | _ => return handles

/-- Whether a directive comes next. -/
def isDirectiveNext : Compose Bool := do
  match ← next? outerDepth with
  | some (.version _) => return true
  | some (.handle ..) => return true
  | some .directive => return true
  | _ => return false

/-- Reads the beginning of a document that is marked. -/
def readDocumentStart (fuel : Nat) : Compose Unit := do
  let handles ← readDirectives false [] fuel
  modify fun s => { s with handles := handles ++ standardHandles }
  if !(← takeNext outerDepth [.documentStart]) then throw .malformed

/-- Reads the node of a document, behind its beginning where that is marked. -/
def readRoot (fuel : Nat) : Compose NodeId := do
  let isMarked ← if ← isNext outerDepth [.documentStart] then pure true else isDirectiveNext
  if isMarked then
    readDocumentStart fuel
    let isEmpty ←
      if ← isNext outerDepth [.documentStart, .documentEnd] then pure true
      else if (← next? outerDepth).isNone then pure true
      else isDirectiveNext
    if isEmpty then addNothing else readNode rootFrame (rootFrame + 5) true false fuel
  else readNode rootFrame (rootFrame + 4) true false fuel

/-- Passes over the marks of the end of a document. -/
def dropDocumentEnds : Nat → Compose Unit
  | 0 => return
  | fuel + 1 => do
    if ← takeNext outerDepth [.documentEnd] then dropDocumentEnds fuel

/-- Reads the one document that there is.  Where there is none at all, it is null. -/
def readDocument (fuel : Nat) : Compose NodeId := do
  if (← next? outerDepth).isNone then addNothing
  else
    let root ← readRoot fuel
    dropDocumentEnds fuel
    if (← next? outerDepth).isSome then
      readDocumentStart fuel
      throw .malformed
    return root

/-- The nodes of a document, and the number of the outermost one. -/
def compose (text : String) : Except Fault (Graph × NodeId) := do
  let lexer := Lexer.ofText text
  let fuel := 8 * lexer.rest.length + 8
  let (root, s) ← (readDocument fuel).run ⟨lexer, .empty, [], standardHandles⟩
  return (s.graph, root)

end SlashCommand.Document.Yaml
