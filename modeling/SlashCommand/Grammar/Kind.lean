import SlashCommand.Document.Value
import SlashCommand.Text.Blank
import SlashCommand.Text.Lowercase

/-!
# Kinds of arguments and flags

A kind says what values an argument or a flag takes.  Grammars written by hand or in a document
spell kinds loosely: blank characters around the name, letter case, and `_` for `-` do not matter,
and each kind with a long name has a short one.  `ArgumentKind.read` and `FlagKind.read` take
such a spelling to the kind; what they refuse, they refuse with a `KindError`, whose message lists
the names that would have been accepted.
-/

namespace SlashCommand.Grammar

open Document (Value)

/-- What an argument takes.  A literal kind names no argument: it is the kind of a keyword. -/
inductive ArgumentKind where
  | literal
  | string
  | enum
  | dynamicEnum
  | integer
  | path
  | freeText
  deriving DecidableEq, Repr, Inhabited

/-- What a flag takes.  A boolean flag takes nothing. -/
inductive FlagKind where
  | boolean
  | enum
  | dynamicEnum
  | string
  | integer
  deriving DecidableEq, Repr, Inhabited

/-- A kind that was asked for and does not exist. -/
inductive KindError where
  | argument (asked : Value)
  | flag (asked : Value)

/-- The form in which the spellings of a kind's name are compared. -/
def normalSpelling (s : String) : String :=
  let lowered := Text.lowercase (Text.strip s)
  String.ofList (lowered.toList.map fun c => if c = '_' then '-' else c)

namespace ArgumentKind

/-- All kinds of arguments, in the order in which messages list them. -/
def all : List ArgumentKind :=
  [literal, string, enum, dynamicEnum, integer, path, freeText]

/-- The name of a kind. -/
def name : ArgumentKind → String
  | literal => "literal"
  | string => "string"
  | enum => "enum"
  | dynamicEnum => "dynamic-enum"
  | integer => "integer"
  | path => "path"
  | freeText => "free-text"

/-- The short names of kinds. -/
def shortNames : List (String × ArgumentKind) :=
  [("text", freeText), ("freetext", freeText), ("int", integer), ("dynamic", dynamicEnum)]

/-- The kind with a given name, up to spelling. -/
def ofString? (s : String) : Option ArgumentKind :=
  let spelling := normalSpelling s
  match shortNames.lookup spelling with
  | some kind => some kind
  | none => all.find? fun kind => kind.name == spelling

/-- The kind that a value names. -/
def read (value : Value) : Except KindError ArgumentKind :=
  match value with
  | .string s =>
    match ofString? s with
    | some kind => .ok kind
    | none => .error (.argument value)
  | _ => .error (.argument value)

end ArgumentKind

namespace FlagKind

/-- All kinds of flags, in the order in which messages list them. -/
def all : List FlagKind :=
  [boolean, enum, dynamicEnum, string, integer]

/-- The name of a kind. -/
def name : FlagKind → String
  | boolean => "boolean"
  | enum => "enum"
  | dynamicEnum => "dynamic-enum"
  | string => "string"
  | integer => "integer"

/-- The short names of kinds. -/
def shortNames : List (String × FlagKind) :=
  [("bool", boolean), ("flag", boolean), ("int", integer), ("dynamic", dynamicEnum)]

/-- The kind with a given name, up to spelling. -/
def ofString? (s : String) : Option FlagKind :=
  let spelling := normalSpelling s
  match shortNames.lookup spelling with
  | some kind => some kind
  | none => all.find? fun kind => kind.name == spelling

/-- The kind that a value names. -/
def read (value : Value) : Except KindError FlagKind :=
  match value with
  | .string s =>
    match ofString? s with
    | some kind => .ok kind
    | none => .error (.flag value)
  | _ => .error (.flag value)

/-- Whether the word behind a flag of this kind is its value. -/
def takesValue (kind : FlagKind) : Bool :=
  kind != boolean

end FlagKind

/-- What is said of a kind that does not exist.  A text is shown bare, with the names that exist;
any other value is shown as a value. -/
def KindError.message : KindError → String
  | argument asked => refusal "ArgKind" (ArgumentKind.all.map ArgumentKind.name) asked
  | flag asked => refusal "FlagKind" (FlagKind.all.map FlagKind.name) asked
where
  refusal (sort : String) (names : List String) : Value → String
    | .string s => s!"Invalid {sort}: '{s}'. Must be one of: " ++ ", ".intercalate names
    | other => s!"Invalid {sort}: " ++ other.display

end SlashCommand.Grammar
