import SlashCommand.Config.Path
import SlashCommand.Config.Schema
import SlashCommand.Document.Toml
import SlashCommand.Document.Yaml
import SlashCommand.Grammar.Builtin
import SlashCommand.Text.Utf8

/-!
# Loading a grammar

From what is found at a path to a registry: the document is read in the format that the path's
suffix tells, its declarations are checked, the commands are built, and a registry is made of
them, behind the built-in commands or without them.  Every step may fail for a reason of its own.

A command may be written with its slash in the document; the slash is not part of its name.
-/

namespace SlashCommand.Config

open Grammar (Command CommandDeclaration DeclarationError NameClash Registry)

/-- What there is at a path. -/
inductive Found where
  | nothing
  | directory
  /-- There can be nothing, because the path is too long. -/
  | overlong
  | text (content : String)
  /-- A file with bytes that stand for no text. -/
  | undecodable (fault : Text.Utf8.Fault)

/-- What there is at the path of a file with given bytes. -/
def Found.ofBytes (bytes : List UInt8) : Found :=
  match Text.Utf8.decode bytes with
  | .ok content => text content
  | .error fault => undecodable fault

/-- A notation for documents. -/
inductive Format where
  | yaml
  | toml
  deriving DecidableEq, Repr

/-- The format of files with a given suffix. -/
def Format.ofSuffix? : String → Option Format
  | ".yaml" => some yaml
  | ".yml" => some yaml
  | ".toml" => some toml
  | _ => none

/-- Why a grammar could not be loaded.  Paths are shown in normal form, but for one of no file,
which is shown as it was given. -/
inductive LoadError where
  | noFile (path : String)
  | overlong (path : String)
  | unsupported (suffix : String)
  | yaml (fault : Document.Yaml.Fault)
  | toml (fault : Document.Toml.Fault)
  /-- The document is no mapping. -/
  | notMapping
  | issues (path : String) (issues : List Issue)
  | declaration (path : String) (error : DeclarationError)
  | clash (cause : NameClash)

/-- What is said of a grammar that could not be loaded; issues are listed elsewhere. -/
def LoadError.message : LoadError → String
  | noFile path => s!"No such config file: {path}"
  | overlong path => s!"[Errno 36] File name too long: {Text.quoted path}"
  | unsupported suffix => s!"Unsupported config format: {suffix}"
  | yaml fault => fault.message
  | toml fault => fault.message
  | notMapping =>
    "Configuration file must contain a dictionary with a list of commands.\n" ++
      "Example:\ncommands:\n  - name: 'deploy'\n    description: 'Deploy a service'"
  | issues path _ => s!"Invalid grammar config '{path}':"
  | declaration _ (.flagKind flag error) => s!"flag '{flag}': " ++ error.message
  | declaration _ (.argumentKind argument error) => s!"argument '{argument}': " ++ error.message
  | declaration path (.fault cause) => s!"Invalid grammar in '{path}': " ++ cause.message
  | clash cause => cause.message

/-- The failures that loading announces. -/
inductive Failure where
  /-- There is no file. -/
  | noFile
  /-- The file holds no document of the kind that is needed. -/
  | document
  /-- The document declares no grammar. -/
  | grammar
  /-- A name is taken. -/
  | nameTaken
  deriving DecidableEq, Repr

/-- The announced failure that a fault of a YAML document is.  That it is no text is announced, and
so is that a number or a moment in it does not exist.  That it is not in the notation is announced
by nobody. -/
def yamlFailure? : Document.Yaml.Fault → Option Failure
  | .undecodable _ => some .document
  | .noCharacter => some .document
  | .notWhole .. => some .document
  | .notNumber _ => some .document
  | .noMoment _ => some .document
  | _ => none

/-- The announced failure that a fault of a TOML document is.  That it is no text is announced, and
so are mistakes in the notation. -/
def tomlFailure? : Document.Toml.Fault → Option Failure
  | .undecodable _ => some .document
  | .malformed _ => some .document
  | _ => none

/-- The announced failure that an error is. -/
def LoadError.failure? : LoadError → Option Failure
  | noFile _ => some .noFile
  | overlong _ => none
  | unsupported _ => some .document
  | yaml fault => yamlFailure? fault
  | toml fault => tomlFailure? fault
  | notMapping => some .document
  | issues .. => some .grammar
  | declaration .. => some .grammar
  | clash _ => some .nameTaken

/-- Whether an error comes from the machine, which looks up no such path.  Loading does not announce
these errors. -/
def LoadError.isSystem : LoadError → Bool
  | overlong _ => true
  | _ => false

/-- Reads a document.  Whatever the machine that wrote it ends its lines with, a line ends in one
way. -/
def Format.read (format : Format) (content : String) : Except LoadError Document :=
  let content := String.ofList (unifyBreaks content.toList)
  match format with
  | yaml => (Document.Yaml.read content).mapError .yaml
  | toml => (Document.Toml.read content).mapError .toml
where
  unifyBreaks : List Char → List Char
    | [] => []
    | '\r' :: '\n' :: cs => '\n' :: unifyBreaks cs
    | '\r' :: cs => '\n' :: unifyBreaks cs
    | c :: cs => c :: unifyBreaks cs

/-- What is said in a format of a file that is no text.  A YAML document is asked for block by
block. -/
def Format.undecodable (fault : Text.Utf8.Fault) : Format → LoadError
  | yaml => .yaml (.undecodable fault.inBlocks)
  | toml => .toml (.undecodable fault)

/-- A declaration with the name of its command as it is typed behind the slash. -/
def dropCommandSlash (command : CommandDeclaration) : CommandDeclaration :=
  match command.name.toList with
  | '/' :: name => { command with name := String.ofList name }
  | _ => command

/-- The commands that declarations from a path declare. -/
def build (path : String) (declarations : List CommandDeclaration) :
    Except LoadError (List Command) :=
  (Grammar.buildCommands (declarations.map dropCommandSlash)).mapError (.declaration path)

/-- The commands that a document from a path declares. -/
def ofDocument (path : String) (document : Document) : Except LoadError (List Command) :=
  if document.isMapping then
    match grammar document with
    | .ok declarations => build path declarations
    | .error issues => .error (.issues path issues)
  else .error .notMapping

/-- The format of the file at a path, which its suffix tells. -/
def formatAt (path : String) : Except LoadError Format :=
  match Format.ofSuffix? (Path.suffix path) with
  | some format => .ok format
  | none => .error (.unsupported (Path.suffix path))

/-- The document that is found at a path.  A file in no format is not read at all. -/
def readDocument (path : String) (found : Found) : Except LoadError Document := do
  match found with
  | .nothing => throw (.noFile path)
  | .directory => throw (.noFile path)
  | .overlong => throw (.overlong (Path.normal path))
  | .text content => (← formatAt path).read content
  | .undecodable fault => throw ((← formatAt path).undecodable fault)

/-- The commands that are declared at a path. -/
def readCommands (path : String) (found : Found) : Except LoadError (List Command) := do
  ofDocument (Path.normal path) (← readDocument path found)

/-- The commands in front of those that are loaded. -/
def baseCommands (includeBuiltin : Bool) : List Command :=
  if includeBuiltin then Registry.builtin.commands else []

/-- The registry of the grammar at a path. -/
def load (path : String) (found : Found) (includeBuiltin : Bool) :
    Except LoadError Registry := do
  let commands ← readCommands path found
  (Registry.ofCommands (baseCommands includeBuiltin ++ commands)).mapError .clash

/-- What is logged while a grammar is loaded. -/
def loadEvents (path : String) (found : Found) (includeBuiltin : Bool) : List Event :=
  match readCommands path found with
  | .error _ => []
  | .ok commands =>
    .grammarLoaded commands.length (Path.normal path) ::
      match Registry.ofCommands (baseCommands includeBuiltin ++ commands) with
      | .ok registry => [registry.built]
      | .error _ => []

end SlashCommand.Config
