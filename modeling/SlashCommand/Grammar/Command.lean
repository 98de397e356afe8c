import SlashCommand.Grammar.Flag

/-!
# Commands and their argument trees

Behind a command's name a line follows a path through the command's argument tree.  A node of the
tree is a keyword, which has to be typed as it is, or a slot for an argument; its children say
what may come next, and its flags may be given from there on.  Flags of the command itself may be
given anywhere.

`Command.nodes` lists the nodes of a command with an explicit stack of what is still to be
visited, so that a deep tree needs no deep recursion; `Node.preorder` is the order it visits them
in, by recursion on the tree.
-/

namespace SlashCommand.Grammar

/-- A node of an argument tree. -/
inductive Node where
  /-- A keyword, compared without regard to letter case. -/
  | literal (value : String) (description : Option String) (flags : List Flag)
      (children : List Node)
  /-- A slot for an argument. -/
  | argument (slot : Argument) (flags : List Flag) (children : List Node)

namespace Node

/-- What may come behind a node. -/
def children : Node → List Node
  | literal _ _ _ children => children
  | argument _ _ children => children

/-- The flags that may be given from a node on. -/
def flags : Node → List Flag
  | literal _ _ flags _ => flags
  | argument _ flags _ => flags

/-- What a node is for.  A slot is described by its argument. -/
def description : Node → Option String
  | literal _ description _ _ => description
  | argument slot _ _ => slot.description

/-- The keyword of a literal node. -/
def keyword? : Node → Option String
  | literal value _ _ _ => some value
  | argument .. => none

/-- The argument of a slot. -/
def argument? : Node → Option Argument
  | literal .. => none
  | argument slot _ _ => some slot

mutual

/-- The number of nodes in the tree under a node, itself included. -/
def size : Node → Nat
  | literal _ _ _ children => 1 + sizeAll children
  | argument _ _ children => 1 + sizeAll children

/-- The number of nodes in a forest. -/
def sizeAll : List Node → Nat
  | [] => 0
  | node :: nodes => node.size + sizeAll nodes

end

mutual

/-- A node and all nodes under it, parents first and siblings in order. -/
def preorder : Node → List Node
  | node@(literal _ _ _ children) => node :: preorderAll children
  | node@(argument _ _ children) => node :: preorderAll children

/-- All nodes of a forest, parents first and siblings in order. -/
def preorderAll : List Node → List Node
  | [] => []
  | node :: nodes => node.preorder ++ preorderAll nodes

end

theorem size_eq (node : Node) : node.size = 1 + sizeAll node.children := by
  cases node <;> simp [size, children]

theorem sizeAll_append (first second : List Node) :
    sizeAll (first ++ second) = sizeAll first + sizeAll second := by
  induction first with
  | nil => simp [sizeAll]
  | cons node nodes ih => simp [sizeAll, ih, Nat.add_assoc]

/-- The nodes met while a stack of nodes is worked off from the front: each node that is taken
off leaves its children in its place. -/
def visit : (stack : List Node) → List Node
  | [] => []
  | node :: stack => node :: visit (node.children ++ stack)
termination_by stack => sizeAll stack
decreasing_by
  rw [sizeAll_append, sizeAll, size_eq]
  omega

end Node

/-- Whether a name can be a command's: not empty, without the slash in front, and without blank
characters. -/
def isCommandName (name : String) : Bool :=
  match name.toList with
  | [] => false
  | c :: cs => c != '/' && !(c :: cs).any Text.isBlank

/-- What a grammar says of a command. -/
structure CommandFields where
  /-- The name, without the slash. -/
  name : String
  description : String
  /-- How the command is written; the bare command if nothing is said. -/
  usage : String := ""
  aliases : List String := []
  root : List Node := []
  flags : List Flag := []

/-- The same fields with a usage: the bare command where nothing is said of it. -/
def CommandFields.withUsage (fields : CommandFields) : CommandFields :=
  { fields with usage := if fields.usage = "" then "/" ++ fields.name else fields.usage }

@[simp] theorem CommandFields.name_withUsage (fields : CommandFields) :
    fields.withUsage.name = fields.name :=
  rfl

/-- A command that can be part of a grammar. -/
structure Command extends CommandFields where
  isCommandName_name : isCommandName name = true

namespace Command

/-- The command with the given fields, unless its name cannot be one. -/
def ofFields (fields : CommandFields) : Except Fault Command :=
  if h : isCommandName fields.name = true then .ok ⟨fields.withUsage, h⟩
  else .error (.commandName fields.name)

/-- The name of a command, then its aliases. -/
def names (command : Command) : List String :=
  command.name :: command.aliases

/-- All nodes of a command's argument tree. -/
def nodes (command : Command) : List Node :=
  Node.visit command.root

end Command

end SlashCommand.Grammar
