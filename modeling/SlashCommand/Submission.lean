import SlashCommand.Grammar.Builtin
import SlashCommand.Line.Words

/-!
# Submitted lines

A submitted line is taken apart into a command, its positional words and its flags, or refused
for one reason.

* `--name` gives a flag, `--name=value` a flag with a value.
* `-k=value` gives a flag of one letter with a value, `-abc` several flags of one letter each.

Flags go by their names in lowercase; of a flag that is given again the last value counts, in the
first place.  Whether the command knows the flags is not asked here.
-/

namespace SlashCommand

open Grammar (Command Registry)

/-- What is wrong with a flag. -/
inductive FlagFault where
  /-- Two dashes and nothing else. -/
  | emptyLong
  /-- One dash and nothing else. -/
  | emptyShort
  /-- A value for a long flag without a name. -/
  | unnamed (word : String)
  /-- A value for a short flag that is not of one letter. -/
  | clustered (word : String)
  deriving DecidableEq, Repr

/-- Why a line is refused. -/
inductive Refusal where
  | emptyInput
  | notCommand
  | missingCommand
  | unknownCommand (name : String)
  | openQuote
  | invalidFlag (fault : FlagFault)
  deriving DecidableEq, Repr

/-- What is said of a flag that is refused. -/
def FlagFault.message : FlagFault → String
  | emptyLong => "Long flag cannot be empty."
  | emptyShort => "Short flag cannot be empty."
  | unnamed word => s!"Invalid flag token '{word}'."
  | clustered word => s!"Invalid short flag token '{word}'."

namespace Refusal

/-- The name of the reason. -/
def code : Refusal → String
  | emptyInput => "EMPTY_INPUT"
  | notCommand => "NOT_A_COMMAND"
  | missingCommand => "MISSING_COMMAND"
  | unknownCommand _ => "UNKNOWN_COMMAND"
  | openQuote => "UNTERMINATED_QUOTE"
  | invalidFlag _ => "INVALID_FLAG"

/-- What is said of a refused line. -/
def message : Refusal → String
  | emptyInput => "Input is empty."
  | notCommand => "Input does not start with '/'."
  | missingCommand => "Missing command name after '/'."
  | unknownCommand name => s!"Unknown command '/{Text.lowercase name}'."
  | openQuote => "Command input contains an unterminated quote."
  | invalidFlag fault => fault.message

end Refusal

/-- What a flag was given. -/
inductive FlagValue where
  /-- Nothing: the flag is set. -/
  | set
  | text (value : String)
  deriving DecidableEq, Repr

/-- The flags of a line, each name once, in the order in which the names were first given. -/
abbrev Flags :=
  List (String × FlagValue)

/-- Gives a flag; one that was given already keeps its place. -/
def Flags.give (flags : Flags) (entry : String × FlagValue) : Flags :=
  if flags.any fun other => other.1 == entry.1 then
    flags.map fun other => if other.1 == entry.1 then entry else other
  else flags ++ [entry]

/-- Gives several flags, one after the other. -/
def Flags.giveAll (flags : Flags) (entries : Flags) : Flags :=
  entries.foldl give flags

/-- The name of a flag of one letter. -/
def letterName (c : Char) : String :=
  Text.lowercase (String.singleton c)

/-- The flag that is given by what stands behind two dashes. -/
def longFlag (word : String) (body : List Char) : Except FlagFault Flags :=
  match body.dropWhile (· != '=') with
  | [] =>
    if body.isEmpty then .error .emptyLong
    else .ok [(Text.lowercase (String.ofList body), .set)]
  | _ :: value =>
    let name := Text.lowercase (Text.strip (String.ofList (body.takeWhile (· != '='))))
    if name = "" then .error (.unnamed word) else .ok [(name, .text (String.ofList value))]

/-- The flags that are given by what stands behind one dash. -/
def shortFlags (word : String) (body : List Char) : Except FlagFault Flags :=
  match body with
  | [] => .error .emptyShort
  | first :: rest =>
    if first != '=' && rest.head? == some '=' then
      .ok [(letterName first, .text (String.ofList (rest.drop 1)))]
    else if body.contains '=' then .error (.clustered word)
    else .ok (Flags.giveAll [] (body.map fun c => (letterName c, .set)))

/-- The flags that a dashed word gives.  Of a word that is not dashed the first character is
taken for the dash. -/
def flagsOf (word : String) : Except FlagFault Flags :=
  match word.toList with
  | '-' :: '-' :: body => longFlag word body
  | cs => shortFlags word (cs.drop 1)

/-- A command as it was typed, before anything is known of it. -/
structure TypedCommand where
  /-- The name, without the slash and without blank characters around it. -/
  name : String
  /-- The words behind the name. -/
  arguments : List String
  deriving DecidableEq, Repr

namespace TypedCommand

/-- The command that some words are, unless it has no name. -/
def ofWords (words : List String) : Except Refusal TypedCommand :=
  let name := Text.strip (String.ofList ((words.headD "/").toList.drop 1))
  if name = "" then .error .missingCommand else .ok ⟨name, words.drop 1⟩

/-- The command that a line is. -/
def ofLine (line : String) : Except Refusal TypedCommand :=
  match Text.dropBlank line.toList with
  | [] => .error .emptyInput
  | c :: cs =>
    if c != '/' then .error .notCommand
    else match Line.Reader.fresh.words (c :: cs) with
      | none => .error .openQuote
      | some words => ofWords words

end TypedCommand

/-- A line that was understood. -/
structure Submission where
  /-- The line as it was submitted. -/
  line : String
  /-- The command as it was typed, without the slash. -/
  typed : String
  command : Command
  positional : List String
  flags : Flags

namespace Submission

/-- The flags that the dashed ones among some words give, in order. -/
def collectFlags (flags : Flags) : List String → Except FlagFault Flags
  | [] => .ok flags
  | word :: words =>
    if Grammar.isDashed word then do collectFlags (flags.giveAll (← flagsOf word)) words
    else collectFlags flags words

/-- Understands a line that was typed so, where `command?` is what is known under its name. -/
def ofTyped (line : String) (typed : TypedCommand) : Option Command → Except Refusal Submission
  | none => .error (.unknownCommand typed.name)
  | some command => do
    let flags ← (collectFlags [] typed.arguments).mapError .invalidFlag
    let positional := typed.arguments.filter fun word => !Grammar.isDashed word
    return ⟨line, typed.name, command, positional, flags⟩

/-- Understands a line.  Without a registry, or with an empty one, the built-in commands are
known. -/
def parse (line : String) (registry : Option Registry) : Except Refusal Submission := do
  let typed ← TypedCommand.ofLine line
  ofTyped line typed ((Registry.orBuiltin registry).get? typed.name)

/-- Why a line may not be submitted.  A line that is no command is a message and may be
submitted. -/
def objection? (line : String) (registry : Option Registry) : Option Refusal :=
  match parse line registry with
  | .ok _ => none
  | .error .emptyInput => none
  | .error .notCommand => none
  | .error refusal => some refusal

end Submission

end SlashCommand
