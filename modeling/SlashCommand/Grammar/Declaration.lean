import SlashCommand.Grammar.Command

/-!
# Declarations

A grammar as somebody writes it down, with kinds spelled as they please, and how it becomes
commands.  Declarations are checked from the inside out: of a node first its children, then its
flags, then its own argument; of a command first its tree, then its flags, then its name.  The
first thing wrong in that order is what is reported.
-/

namespace SlashCommand.Grammar

open Document (Value)

/-- A flag as it is written down. -/
structure FlagDeclaration where
  name : String
  kind : Value := .string "boolean"
  aliases : List String := []
  enumValues : Option (List String) := none
  providerId : Option String := none
  repeatable : Bool := false
  description : Option String := none

/-- An argument as it is written down. -/
structure ArgumentDeclaration where
  name : String
  kind : Value := .string "string"
  isOptional : Bool := false
  enumValues : Option (List String) := none
  providerId : Option String := none
  placeholder : Option String := none
  description : Option String := none

/-- A node as it is written down. -/
inductive NodeDeclaration where
  | literal (value : String) (description : Option String) (children : List NodeDeclaration)
      (flags : List FlagDeclaration)
  | argument (slot : ArgumentDeclaration) (children : List NodeDeclaration)
      (flags : List FlagDeclaration)
  deriving Inhabited

/-- A command as it is written down. -/
structure CommandDeclaration where
  name : String
  description : String
  usage : String := ""
  aliases : List String := []
  root : List NodeDeclaration := []
  flags : List FlagDeclaration := []

/-- Why a declaration is refused. -/
inductive DeclarationError where
  /-- A flag asks for a kind that does not exist. -/
  | flagKind (flag : String) (error : KindError)
  /-- An argument asks for a kind that does not exist. -/
  | argumentKind (argument : String) (error : KindError)
  /-- The kinds exist, but a part has a fault. -/
  | fault (cause : Fault)

/-- What is said of a refused declaration. -/
def DeclarationError.message : DeclarationError → String
  | flagKind _ error => error.message
  | argumentKind _ error => error.message
  | fault cause => cause.message

/-- The declared flag. -/
def FlagDeclaration.build (flag : FlagDeclaration) : Except DeclarationError Flag := do
  let kind ← (FlagKind.read flag.kind).mapError (.flagKind flag.name)
  (Flag.ofFields
    { name := flag.name
      kind := kind
      aliases := flag.aliases
      enumValues := flag.enumValues
      providerId := flag.providerId
      repeatable := flag.repeatable
      description := flag.description }).mapError .fault

/-- The declared argument. -/
def ArgumentDeclaration.build (argument : ArgumentDeclaration) :
    Except DeclarationError Argument := do
  let kind ← (ArgumentKind.read argument.kind).mapError (.argumentKind argument.name)
  (Argument.ofFields
    { name := argument.name
      kind := kind
      isOptional := argument.isOptional
      enumValues := argument.enumValues
      providerId := argument.providerId
      placeholder := argument.placeholder
      description := argument.description }).mapError .fault

/-- The declared flags, in order. -/
def buildFlags : List FlagDeclaration → Except DeclarationError (List Flag)
  | [] => .ok []
  | flag :: flags => do
    let first ← flag.build
    let rest ← buildFlags flags
    return first :: rest

mutual

/-- The declared node. -/
def NodeDeclaration.build : NodeDeclaration → Except DeclarationError Node
  | .literal value description children flags => do
    let children ← buildNodes children
    let flags ← buildFlags flags
    return .literal value description flags children
  | .argument slot children flags => do
    let children ← buildNodes children
    let flags ← buildFlags flags
    let slot ← slot.build
    return .argument slot flags children

/-- The declared nodes, in order. -/
def buildNodes : List NodeDeclaration → Except DeclarationError (List Node)
  | [] => .ok []
  | node :: nodes => do
    let first ← node.build
    let rest ← buildNodes nodes
    return first :: rest

end

/-- The declared command. -/
def CommandDeclaration.build (command : CommandDeclaration) :
    Except DeclarationError Command := do
  let root ← buildNodes command.root
  let flags ← buildFlags command.flags
  (Command.ofFields
    { name := command.name
      description := command.description
      usage := command.usage
      aliases := command.aliases
      root := root
      flags := flags }).mapError .fault

/-- The declared commands, in order. -/
def buildCommands : List CommandDeclaration → Except DeclarationError (List Command)
  | [] => .ok []
  | command :: commands => do
    let first ← command.build
    let rest ← buildCommands commands
    return first :: rest

end SlashCommand.Grammar
