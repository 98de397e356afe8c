import SlashCommand.Number.Nearest
import SlashCommand.Provider
import SlashCommand.Score
import SlashCommand.Text.Half
import SlashCommand.Text.Splice

/-!
# Suggestions

What may be typed in one place of a line, best first.  The place is a `Slot`: the stem that has
been typed there and the range that a suggestion replaces.  Candidates that do not match the stem
are left out; the others are listed by ascending score, and in the order of their labels where
scores are equal.

Accepting a suggestion puts its text in the place of the range, with one space behind it.
-/

namespace SlashCommand

open Grammar (Command Flag Node)

/-- What a suggestion completes. -/
inductive SuggestionKind where
  | command
  | subcommand
  | argument
  | flag
  | flagValue
  deriving DecidableEq, Repr

/-- What is being completed. -/
inductive ContextKind where
  | none
  | commandName
  | subcommand
  | argument
  | flagName
  | flagValue
  deriving DecidableEq, Repr

/-- A place in a line: the stem typed there, and the range that completing it replaces. -/
structure Slot where
  stem : String
  start : Int
  stop : Int
  deriving DecidableEq, Repr

/-- How far suggestions are put behind others. -/
inductive Penalty where
  | whole (distance : Int)
  /-- A double-precision number. -/
  | binary (distance : Rat)

/-- A score with a penalty.  Whole numbers are added exactly; where one of the two is none, both
count as double-precision numbers, and so does their sum. -/
def Penalty.addTo (penalty : Penalty) (score : Rat) (isWhole : Bool) : Rat :=
  match penalty, isWhole with
  | whole 0, _ => score
  | whole distance, true => score + distance
  | whole distance, false => Number.nearest (binaryScore score + Number.nearest distance)
  | binary distance, _ => Number.nearest (binaryScore score + distance)

/-- A word that may be typed in some place. -/
structure Suggestion where
  /-- What is shown in the list. -/
  label : String
  /-- What is put into the line. -/
  insertText : String
  kind : SuggestionKind
  /-- The rank; lower is better. -/
  score : Rat
  start : Int
  stop : Int
  /-- What is shown beside the label. -/
  detail : Option String
  deriving DecidableEq, Repr

namespace Suggestion

/-- Whether one suggestion may be listed in front of another. -/
def precedes (first second : Suggestion) : Bool :=
  first.score < second.score ||
    (first.score == second.score && Text.precedes first.label second.label)

/-- Suggestions in the order of listing.  Equal ones stay in the order they came in. -/
def sorted (suggestions : List Suggestion) : List Suggestion :=
  suggestions.mergeSort precedes

/-- A word as a suggestion for a slot, if it matches the stem. -/
def match? (slot : Slot) (kind : SuggestionKind) (word : String) (detail : Option String) :
    Option Suggestion :=
  (scoreOf slot.stem word).map fun score =>
    ⟨word, word, kind, score, slot.start, slot.stop, detail⟩

/-! ## What is on offer -/

/-- The command names.  The stem is matched without the slash; aliases are not on offer. -/
def commandNames (commands : List Command) (slot : Slot) : List Suggestion :=
  sorted <| commands.filterMap fun command =>
    (scoreOf slot.stem command.name).map fun score =>
      ⟨"/" ++ command.name, "/" ++ command.name, .command, score, slot.start, slot.stop,
        some command.description⟩

/-- Plain values of some kind, each with its own detail. -/
def values (candidates : List String) (slot : Slot) (kind : SuggestionKind)
    (describe : String → Option String) : List Suggestion :=
  sorted <| candidates.filterMap fun candidate => match? slot kind candidate (describe candidate)

/-- The ids of the providers that are asked for the values of some nodes. -/
def nodeProviders (nodes : List Node) : List String :=
  nodes.filterMap fun node => do
    let slot ← node.argument?
    if slot.kind = .dynamicEnum then slot.providerId else none

/-- The values that a node's argument may take, as far as they are known. -/
def argumentValues (context : Context) (providers : Providers) (node : Node) : List String :=
  match node.argument? with
  | none => []
  | some slot =>
    match slot.kind with
    | .enum => slot.enumValues.getD []
    | .dynamicEnum => (slot.providerId.map (providers.resolve · context)).getD []
    | _ => []

/-- The keywords among some nodes. -/
def keywords (nodes : List Node) (slot : Slot) : List Suggestion :=
  nodes.filterMap fun node => do
    let value ← node.keyword?
    match? slot .subcommand value node.description

/-- The values of the slots among some nodes. -/
def arguments (nodes : List Node) (slot : Slot) (context : Context) (providers : Providers) :
    List Suggestion :=
  nodes.flatMap fun node =>
    values (argumentValues context providers node) slot .argument fun _ => node.description

/-- The keywords and the known values of arguments that some nodes accept. -/
def nodes (nodes : List Node) (slot : Slot) (context : Context) (providers : Providers) :
    List Suggestion :=
  sorted (keywords nodes slot ++ arguments nodes slot context providers)

/-- What some nodes complete: subcommands as soon as one of them is a keyword. -/
def nodesContext (nodes : List Node) : ContextKind :=
  if nodes.any fun node => node.keyword?.isSome then .subcommand else .argument

/-- The flags of a list that may be offered: those not used yet or repeatable, and of several
with one name the first. -/
def offered (used : List String) : (seen : List String) → List Flag → List Flag
  | _, [] => []
  | seen, flag :: flags =>
    if seen.contains flag.key || (used.contains flag.key && !flag.repeatable) then
      offered used seen flags
    else flag :: offered used (flag.key :: seen) flags

/-- The names of flags.  A penalty puts them behind other suggestions. -/
def flags (available : List Flag) (used : List String) (slot : Slot) (penalty : Penalty) :
    List Suggestion :=
  sorted <| (offered used [] available).filterMap fun flag =>
    (match? slot .flag flag.name flag.description).map fun suggestion =>
      { suggestion with
        score := penalty.addTo suggestion.score (isWholeScore slot.stem flag.name) }

/-- The provider that is asked for the values of a flag. -/
def flagProvider (flag : Flag) : Option String :=
  if flag.kind = .dynamicEnum then flag.providerId else none

/-- The values that a flag may take, as far as they are known. -/
def flagCandidates (flag : Flag) (context : Context) (providers : Providers) : List String :=
  match flag.kind with
  | .enum => flag.enumValues.getD []
  | .dynamicEnum => (flag.providerId.map (providers.resolve · context)).getD []
  | _ => []

/-- The values of a flag. -/
def flagValues (flag : Flag) (slot : Slot) (context : Context) (providers : Providers) :
    List Suggestion :=
  values (flagCandidates flag context providers) slot .flagValue fun _ => flag.description

end Suggestion

/-! ## Accepting -/

/-- A line and the cursor in it. -/
structure Edited where
  text : String
  cursor : Nat
  deriving DecidableEq, Repr

/-- Puts a suggestion into a line: its text and a space take the place of the range and of the
blank characters behind it, and the cursor goes behind the space. -/
def Suggestion.applyTo (suggestion : Suggestion) (line : String) : Edited :=
  let before := Text.before line.toList suggestion.start
  let after := Text.dropBlank (Text.after line.toList suggestion.stop)
  let inserted := suggestion.insertText.toList ++ [' ']
  ⟨String.ofList (before ++ inserted ++ after), before.length + inserted.length⟩

end SlashCommand
