import SlashCommand.Document
import SlashCommand.Grammar.Declaration
import SlashCommand.Text.Half

/-!
# The shape of a grammar document

A document with a grammar is a mapping whose `commands` are a list of command declarations.  This
module reads the declarations from the document's values and, where a value is not of the right
sort, reports an `Issue` at its place.  All issues are reported, in the order of the fields;
whatever else a mapping holds is passed over.

A truth value may be given as one, as the numbers 0 and 1, or as one of a few words.  Bytes may
be given for a text that they are the encoding of.  A node is a keyword or a slot, so exactly one
of `literal` and `argument` has to be given.
-/

namespace SlashCommand.Config

open Document (Value)
open Grammar (ArgumentDeclaration CommandDeclaration FlagDeclaration NodeDeclaration)

/-- A step from a value to a part of it. -/
inductive Step where
  | key (name : String)
  | index (number : Nat)
  deriving DecidableEq, Repr

/-- What is wrong with a value. -/
inductive IssueCause where
  /-- A required field is not there. -/
  | missing
  | notText
  /-- Bytes that are the encoding of no text. -/
  | notEncoding
  | notList
  /-- No mapping, where a declaration of some sort is due. -/
  | notDeclaration (sort : String)
  /-- A text or a number that stands for no truth value. -/
  | unclearTruth
  | notTruth
  /-- A node that is both a keyword and a slot, or neither. -/
  | nodeChoice
  /-- A node that is below itself. -/
  | endless
  deriving DecidableEq, Repr

/-- Something wrong at some place of a document, with what was found there.  Where a field is
missing, that is the mapping that has it not. -/
structure Issue where
  place : List Step
  cause : IssueCause
  found : Document

/-- The name of what is wrong. -/
def IssueCause.name : IssueCause → String
  | missing => "missing"
  | notText => "string_type"
  | notEncoding => "string_unicode"
  | notList => "list_type"
  | notDeclaration _ => "model_type"
  | unclearTruth => "bool_parsing"
  | notTruth => "bool_type"
  | nodeChoice => "value_error"
  | endless => "recursion_loop"

/-- What is said of it. -/
def IssueCause.message : IssueCause → String
  | missing => "Field required"
  | notText => "Input should be a valid string"
  | notEncoding =>
    "Input should be a valid string, unable to parse raw data as a unicode string"
  | notList => "Input should be a valid list"
  | notDeclaration sort => s!"Input should be a valid dictionary or instance of {sort}"
  | unclearTruth => "Input should be a valid boolean, unable to interpret input"
  | notTruth => "Input should be a valid boolean"
  | nodeChoice => "Value error, Each node needs exactly one of 'literal' or 'argument'."
  | endless => "Recursion error - cyclic reference detected"

/-- A step as it is shown. -/
def Step.label : Step → String
  | key name => name
  | index number => toString number

/-- The first characters of a text, as many as are encoded in `count` bytes. -/
def encodedWithin (count : Nat) : List Char → List Char
  | [] => []
  | c :: cs => if c.utf8Size ≤ count then c :: encodedWithin (count - c.utf8Size) cs else []

/-- A text without its middle, if it is encoded in more than 50 bytes. -/
def shortened (text : String) : String :=
  if text.utf8ByteSize ≤ 50 then text
  else
    let head := encodedWithin 25 text.toList
    let tail := (encodedWithin 24 text.toList.reverse).reverse
    String.ofList head ++ "..." ++ String.ofList tail

/-- What is said of an issue: its place, the cause with the value that was found, and where more
is said. -/
def Issue.lines (issue : Issue) : List String :=
  let found := s!"input_value={shortened issue.found.display}, input_type={issue.found.sort}"
  [".".intercalate (issue.place.map Step.label),
    s!"  {issue.cause.message} [type={issue.cause.name}, {found}]",
    "    For further information visit https:" ++
      s!"//errors.pydantic.dev/2.14/v/{issue.cause.name}"]

/-- What is said of all issues with a document. -/
def issueLines (issues : List Issue) : List String :=
  let count := issues.length
  let heading := s!"{count} validation error" ++ if count = 1 then "" else "s"
  (heading ++ " for GrammarConfig") :: issues.flatMap Issue.lines

/-! ## Checked values -/

/-- A value of the right shape, or all issues with it. -/
def Checked (α : Type) : Type :=
  Except (List Issue) α

namespace Checked

variable {α β : Type}

/-- A single issue with the value itself. -/
def issue (cause : IssueCause) (found : Document) : Checked α :=
  .error [⟨[], cause, found⟩]

/-- A check of a part, seen from the whole. -/
def within (step : Step) : Checked α → Checked α
  | .ok a => .ok a
  | .error issues => .error (issues.map fun issue => { issue with place := step :: issue.place })

/-- Two checks, of which both report their issues. -/
def both (f : Checked (α → β)) (a : Checked α) : Checked β :=
  match f, a with
  | .ok f, .ok a => .ok (f a)
  | .ok _, .error issues => .error issues
  | .error issues, .ok _ => .error issues
  | .error first, .error second => .error (first ++ second)

instance : Applicative Checked where
  pure a := .ok a
  seq f a := both f (a ())

end Checked

/-! ## Values -/

/-- The text that bytes are the encoding of. -/
def decoded? (bytes : List UInt8) : Option String :=
  String.fromUTF8? (ByteArray.mk bytes.toArray)

/-- Reads a text. -/
def text (found : Document) : Checked String :=
  match found.value with
  | .string s => pure s
  | .binary bytes =>
    match decoded? bytes with
    | some s => pure s
    | none => .issue .notEncoding found
  | _ => .issue .notText found

/-- Reads what may be null. -/
def nullable {α : Type} (read : Document → Checked α) (found : Document) : Checked (Option α) :=
  match found.value with
  | .null => pure none
  | _ => some <$> read found

/-- Reads the items of a list, the first of which has the given number. -/
def itemsFrom {α : Type} (read : Document → Checked α) : Nat → List Document → Checked (List α)
  | _, [] => pure []
  | n, item :: items =>
    List.cons <$> (read item).within (.index n) <*> itemsFrom read (n + 1) items

/-- Reads a list. -/
def listOf {α : Type} (read : Document → Checked α) (found : Document) : Checked (List α) :=
  match found.items? with
  | some items => itemsFrom read 0 items
  | none => .issue .notList found

/-- The words that stand for truth values. -/
def truthWords : List (String × Bool) :=
  [("0", false), ("off", false), ("f", false), ("false", false), ("n", false), ("no", false),
    ("1", true), ("on", true), ("t", true), ("true", true), ("y", true), ("yes", true)]

/-- Whether a number can be written with 64 bits, one of them for the sign. -/
def isSmall (n : Int) : Bool :=
  -0x8000000000000000 ≤ n && n < 0x8000000000000000

/-- The truth value that a whole number stands for. -/
def truthOfNumber (n : Int) (found : Document) : Checked Bool :=
  if n = 0 then pure false
  else if n = 1 then pure true
  else .issue (if isSmall n then .unclearTruth else .notTruth) found

/-- The truth value that a word stands for. -/
def truthOfWord (word : Option String) (found : Document) : Checked Bool :=
  match word.bind fun word => truthWords.lookup (word.map Char.toLower) with
  | some b => pure b
  | none => .issue .unclearTruth found

/-- Reads a truth value.  A text with half a character is no text to look one up with. -/
def truth (found : Document) : Checked Bool :=
  match found.value with
  | .bool b => pure b
  | .int n => truthOfNumber n found
  | .float x =>
    match (Value.wholeOf? x).filter fun n => n.natAbs < 0x8000000000000000 with
    | some n => truthOfNumber n found
    | none => .issue .notTruth found
  | .string s =>
    if s.toList.any Text.isHalf then .issue .notEncoding found else truthOfWord (some s) found
  | .binary bytes => truthOfWord (decoded? bytes) found
  | _ => .issue .notTruth found

/-- Reads a field that has to be there. -/
def required {α : Type} (whole : Document) (name : String) (read : Document → Checked α) :
    Checked α :=
  Checked.within (.key name)
    (match whole.field? name with
    | some found => read found
    | none => .issue .missing whole)

/-- Reads a field that may be left out. -/
def optional {α : Type} (whole : Document) (name : String) (read : Document → Checked α)
    (default : α) : Checked α :=
  match whole.field? name with
  | some found => (read found).within (.key name)
  | none => pure default

/-- Reads a kind, which has to be a text here. -/
def kind (found : Document) : Checked Value :=
  Value.string <$> text found

/-- Reads a mapping as a declaration of some sort. -/
def declaration {α : Type} (sort : String) (read : Document → Checked α) (found : Document) :
    Checked α :=
  if found.isMapping then read found else .issue (.notDeclaration sort) found

/-! ## Declarations -/

/-- Reads a flag. -/
def flag : Document → Checked FlagDeclaration :=
  declaration "RawFlag" fun found =>
    FlagDeclaration.mk <$> required found "name" text
      <*> optional found "kind" kind (.string "boolean")
      <*> optional found "aliases" (listOf text) []
      <*> optional found "enum_values" (nullable (listOf text)) none
      <*> optional found "provider_id" (nullable text) none
      <*> optional found "repeatable" truth false
      <*> optional found "description" (nullable text) none

/-- Reads an argument. -/
def argument : Document → Checked ArgumentDeclaration :=
  declaration "RawArgument" fun found =>
    ArgumentDeclaration.mk <$> required found "name" text
      <*> optional found "kind" kind (.string "string")
      <*> optional found "optional" truth false
      <*> optional found "enum_values" (nullable (listOf text)) none
      <*> optional found "provider_id" (nullable text) none
      <*> optional found "placeholder" (nullable text) none
      <*> optional found "description" (nullable text) none

/-- What a node was given, before it is known whether it is a keyword or a slot. -/
structure NodeFields where
  literal : Option String
  argument : Option ArgumentDeclaration
  description : Option String
  children : List NodeDeclaration
  flags : List FlagDeclaration

/-- The node that was given. -/
def NodeFields.choose (fields : NodeFields) (found : Document) : Checked NodeDeclaration :=
  match fields.literal, fields.argument with
  | some literal, none => pure (.literal literal fields.description fields.children fields.flags)
  | none, some slot => pure (.argument slot fields.children fields.flags)
  | _, _ => .issue .nodeChoice found

/-- Chooses between keyword and slot, once the fields themselves are in order. -/
def chooseNode (found : Document) : Checked NodeFields → Checked NodeDeclaration
  | .ok fields => fields.choose found
  | .error issues => .error issues

/-- How many nodes may stand in each other. -/
def nodeRoom : Nat :=
  254

/-- Reads a node, which stands within some parts of the document, with room for some nodes in each
other. -/
def node : Nat → List Nat → Document → Checked NodeDeclaration
  | 0, _, found => .issue .endless found
  | room + 1, around, found =>
    if found.number?.any around.contains then .issue .endless found
    else
      let children := listOf (node room (found.number?.toList ++ around))
      declaration "RawNode" (fun found =>
        chooseNode found <|
          NodeFields.mk <$> optional found "literal" (nullable text) none
            <*> optional found "argument" (nullable argument) none
            <*> optional found "description" (nullable text) none
            <*> optional found "children" children []
            <*> optional found "flags" (listOf flag) []) found

/-- Reads a command. -/
def command : Document → Checked CommandDeclaration :=
  declaration "RawCommand" fun found =>
    CommandDeclaration.mk <$> required found "name" text
      <*> required found "description" text
      <*> optional found "usage" text ""
      <*> optional found "aliases" (listOf text) []
      <*> optional found "root" (listOf (node nodeRoom [])) []
      <*> optional found "flags" (listOf flag) []

/-- Reads the declarations of a grammar, which is a mapping. -/
def grammar (found : Document) : Checked (List CommandDeclaration) :=
  optional found "commands" (listOf command) []

end SlashCommand.Config
