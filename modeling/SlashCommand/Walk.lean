import SlashCommand.Grammar.Command

/-!
# Walking a command's tree

The complete words behind a command move a walk through the command's argument tree, one word at
a time.  The state of the walk says which nodes the next word is matched against and which flags
may be given.  Of a word,

1. nothing is asked once a free-text argument has been reached;
2. behind a flag that takes a value, it is that value;
3. if it is dashed, it is a flag, possibly with its value behind `=`; an unknown flag is passed
   over;
4. if it is a keyword of one of the nodes, the walk descends there;
5. if one of the nodes is a slot, the word fills it and the walk descends there;
6. otherwise nothing more can follow.
-/

namespace SlashCommand

open Grammar (Argument ArgumentKind Command Flag Node)

namespace Walk

/-- How far a walk has come. -/
structure State where
  /-- The nodes that the next word is matched against. -/
  nodes : List Node
  /-- The flags of the command and of all nodes passed. -/
  availableFlags : List Flag
  /-- The names of the flags that were given, in lowercase, each once. -/
  usedFlags : List String
  /-- The flag whose value comes next. -/
  pending : Option Flag
  /-- Whether the rest of the line is free text. -/
  freeText : Bool

/-- The state behind the bare command. -/
def start (command : Command) : State :=
  ⟨command.root, command.flags, [], none, false⟩

namespace State

/-- The state behind a flag. -/
def useFlag (state : State) (flag : Flag) (pending : Option Flag) : State :=
  { state with usedFlags := state.usedFlags.insert flag.key, pending }

/-- The state below a node. -/
def descend (state : State) (node : Node) : State :=
  { nodes := node.children
    availableFlags := state.availableFlags ++ node.flags
    usedFlags := state.usedFlags
    pending := none
    freeText := node.argument?.any fun slot => slot.kind = .freeText }

end State

/-- The characters of a word in front of its first `=`, if it has one. -/
def beforeEquals? (word : String) : Option String :=
  if word.toList.contains '=' then some (String.ofList (word.toList.takeWhile (· != '=')))
  else none

/-- The flag that a dashed word gives, and the flag whose value is still to come. -/
def flagOf? (flags : List Flag) (word : String) : Option (Flag × Option Flag) :=
  match Flag.find? flags word with
  | some flag => some (flag, if flag.takesValue then some flag else none)
  | none => do
    let name ← beforeEquals? word
    let flag ← Flag.find? flags name
    return (flag, none)

/-- The node that a word which is no flag leads to: the first keyword it equals, letter case
aside, or else the first slot. -/
def nodeOf? (nodes : List Node) (word : String) : Option Node :=
  let lowered := Text.lowercase word
  match nodes.find? fun node => node.keyword?.any fun value => Text.lowercase value == lowered with
  | some node => some node
  | none => nodes.find? fun node => node.argument?.isSome

/-- The state behind one more word. -/
def step (state : State) (word : String) : State :=
  if state.freeText then state
  else if state.pending.isSome then { state with pending := none }
  else if Grammar.isDashed word then
    match flagOf? state.availableFlags word with
    | some (flag, pending) => state.useFlag flag pending
    | none => state
  else match nodeOf? state.nodes word with
    | some node => state.descend node
    | none => { state with nodes := [] }

/-- The state behind a command and some words. -/
def along (command : Command) (words : List String) : State :=
  words.foldl step (start command)

/-! ## The hint -/

/-- Options as they are shown: between angle brackets, with bars between them. -/
def optionList (options : List String) : String :=
  "<" ++ "|".intercalate options ++ ">"

/-- What is shown where the next word is about to be typed: the values of a pending flag, the
keywords to choose from, at most five of them, or the placeholder of the first slot that has
one. -/
def State.hint (state : State) : Option String :=
  if state.freeText then none
  else match state.pending with
    | some flag =>
      match flag.kind, flag.enumValues with
      | .enum, some (value :: values) => some (optionList (value :: values))
      | _, _ => some "<value>"
    | none =>
      if state.nodes.isEmpty then none
      else
        let keywords := state.nodes.filterMap Node.keyword?
        if keywords.length = state.nodes.length then
          if keywords.length ≤ 5 then some (optionList keywords)
          else some (optionList (keywords.take 4 ++ ["..."]))
        else state.nodes.findSome? fun node => do
          let slot ← node.argument?
          slot.placeholder.filter (· != "")

end Walk

end SlashCommand
