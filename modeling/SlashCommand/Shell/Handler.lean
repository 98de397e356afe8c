import SlashCommand.Shell.Handler.Token
import SlashCommand.Text.Blank
import SlashCommand.Text.Split

/-!
# Handlers

A tag may name a handler and what it is given, as in `[@click=open('notes', 3)]`.  Nothing is
handled here, but what a handler is given has to be well formed, which is found out when the tag
is closed: texts end, brackets match, and values stand next to each other only with a comma or an
operator between them.

A mistake in a piece comes before a mistake in their order, wherever the two stand.
-/

namespace SlashCommand.Shell.Handler

/-! ## The order of pieces -/

/-- What a pair of brackets holds. -/
inductive Frame where
  /-- Values on their own. -/
  | values
  /-- What is given to a value that stands in front. -/
  | given
  /-- Values, each of which may have a key. -/
  | entries
  deriving DecidableEq

/-- What a value ends with. -/
inductive Ending where
  | name
  | number
  | text
  | other
  deriving DecidableEq

/-- What stands in front of a piece. -/
inductive Before where
  /-- An opening bracket, or nothing. -/
  | start
  | comma
  /-- An operator, behind which a value has to follow. -/
  | operator
  /-- The point in front of a name. -/
  | point
  /-- A value, and whether it is the only piece since the last comma or bracket. -/
  | value (ending : Ending) (isOnly : Bool)
  deriving DecidableEq

/-- Whether a value stands in front. -/
def Before.isValue : Before → Bool
  | value .. => true
  | _ => false

/-- Whether no piece stands in front since the last comma or bracket. -/
def Before.isFresh (before : Before) : Bool :=
  before == .start || before == .comma

/-- A mistake at a place behind which the pieces are looked at that belong to it.  Where these go on
up to a mistake that ends them, that one is noticed first. -/
def reasonAt (reason : Reason) (rest : List Token) : Reason :=
  match rest.getLast? with
  | some (.stop last) =>
    if rest.all fun token => token != .comma && token != .closing then last else reason
  | _ => reason

/-- Whether a piece begins a value. -/
def Token.beginsValue : Token → Bool
  | name | number | text | opening _ => true
  | _ => false

/-- What is wrong with the order of pieces, within the brackets that are open. -/
def misorder? (before : Before) (frames : List Frame) : List Token → Option Reason
  | [] => if before.isValue || before == .comma then none else some .misplaced
  | token :: rest =>
    let isFresh := before.isFresh
    let adjacent := reasonAt (if frames.isEmpty then .misplaced else .missingComma) rest
    match token, before with
    | .stop reason, _ | .fault reason, _ => some reason
    | .name, .point => misorder? (.value .other false) frames rest
    | _, .point => some .misplaced
    | .name, .value .. | .number, .value .. => some adjacent
    | .name, _ => misorder? (.value .name isFresh) frames rest
    | .number, _ => misorder? (.value .number isFresh) frames rest
    | .text, .value .name _ => some .misplaced
    | .text, .value .text isOnly => misorder? (.value .text isOnly) frames rest
    | .text, .value .. => some adjacent
    | .text, _ => misorder? (.value .text isFresh) frames rest
    | .opening '\x7b', .value .. => some adjacent
    | .opening '\x7b', _ => misorder? .start (.entries :: frames) rest
    | .opening '[', .value .. => misorder? .start (.entries :: frames) rest
    | .opening _, .value .. => misorder? .start (.given :: frames) rest
    | .opening _, _ => misorder? .start (.values :: frames) rest
    | .closing, .operator => some .misplaced
    | .closing, _ => misorder? (.value .other false) frames.tail rest
    | .comma, .value .. => misorder? .comma frames rest
    | .point, .value .. => misorder? .point frames rest
    | .colon, .value .. =>
      if frames.head? = some .entries then misorder? .operator frames rest else some .misplaced
    | .assign, .value ending isOnly =>
      match frames.head? with
      | none => some .misplaced
      | some .given =>
        if ending == .name && isOnly then misorder? .operator frames rest
        else some .assignedArgument
      | some _ =>
        some (if !isOnly then .misplaced
          else if ending == .name then reasonAt .equality rest
          else if ending == .other then .misplaced
          else reasonAt .assignedLiteral rest)
    | .sign, .value .. =>
      match rest with
      | .stop reason :: _ => some reason
      | next :: _ => some (if next.beginsValue then adjacent else .misplaced)
      | [] => some .misplaced
    | .sign, _ => misorder? .operator frames rest
    | .star, .value .. => misorder? .operator frames rest
    | .star, _ =>
      if isFresh && !frames.isEmpty then misorder? .operator frames rest else some .misplaced
    | .operator, .value .. => misorder? .operator frames rest
    | .either, _ => misorder? .operator frames rest
    | _, _ => some .misplaced

/-- What is wrong with some pieces. -/
def mistake? (tokens : List Token) : Option Reason :=
  (tokens.findSome? fun
    | .fault reason => some reason
    | _ => none) <|> misorder? .start [] tokens

/-! ## What a handler is given -/

/-- Whether a character may stand in the name of a handler. -/
def isWordChar (c : Char) : Bool :=
  Text.isAlphanumeric c || c == '_'

/-- What a handler with a name is given: behind its name, in round brackets.  Where the whole is
not of this form, it is taken as what some handler is given. -/
def arguments (parameters : List Char) : List Char :=
  let name := parameters.takeWhile fun c => isWordChar c || c == '.'
  match parameters.drop name.length with
  | [] => ['(', ')']
  | '(' :: rest =>
    if rest.getLast? = some ')' && !rest.contains '\n' then '(' :: rest else parameters
  | _ => parameters

/-- What is said of what a handler is given, if it is not well formed. -/
def objection? (parameters : List Char) : Option String :=
  let given := arguments (Text.trimmed Text.isBlank parameters)
  let whole := Text.quoted (String.ofList parameters)
  if given.contains '\x00' then
    some s!"error parsing {whole}; source code string cannot contain null bytes"
  else (mistake? (tokens [] (given.length + 1) given)).map fun reason =>
    s!"error parsing {Text.quoted (String.ofList given)} in {whole}; {reason.message}"

end SlashCommand.Shell.Handler
