import SlashCommand.Document.Toml.Fault
import SlashCommand.Text.Blank
import SlashCommand.Text.Digit

/-!
# The layout of a TOML document

Before the lines of a document can be read one by one, it has to be known where they end.  This
module goes over the characters once and keeps track of keys, texts, headers and brackets.
Comments become blanks, and so do the ends of lines within brackets, so that an array is on one
line.  The end of a line that only opens or closes a text over several lines joins it with the
next one.

Looking back from a character, the last character of the document stands in front of the first
one.
-/

namespace SlashCommand.Document.Toml

/-- Where in the key of an entry a character stands. -/
inductive KeyPlace where
  /-- In no key. -/
  | outside
  | within
  /-- In the space behind a key, where a point or the equals sign has to follow. -/
  | behind
  deriving DecidableEq, Repr

/-- What is known in front of a character. -/
structure Layout where
  characters : Array Char
  /-- The quote of the text that is open. -/
  quote : Option Char := none
  /-- Whether that text may run over several lines. -/
  isLong : Bool := false
  key : KeyPlace := .outside
  /-- Whether the key has several parts. -/
  isPath : Bool := false
  /-- How many brackets of arrays are open. -/
  depth : Int := 0
  /-- Whether the header of a table is open. -/
  inHeader : Bool := false
  /-- Whether the header of a table in an array is open. -/
  inArrayHeader : Bool := false
  /-- Whether nothing but blanks has come yet on the line. -/
  atStart : Bool := true
  /-- Whether the rest of the document is a comment. -/
  ended : Bool := false

namespace Layout

/-- A character `distance` places in front of another one. -/
def back? (characters : Array Char) (index distance : Nat) : Option Char :=
  if distance ≤ index then characters[index - distance]?
  else if distance - index ≤ characters.size then
    characters[characters.size - (distance - index)]?
  else none

/-- The place of a character in front of another one. -/
def backIndex (characters : Array Char) (index distance : Nat) : Nat :=
  if distance ≤ index then index - distance else characters.size - (distance - index)

/-- Whether there is an odd number of backslashes in front of a character, from some distance on.
The number `fuel` bounds the search. -/
def oddBackslashes (characters : Array Char) (index distance : Nat) : (fuel : Nat) → Bool
  | 0 => false
  | fuel + 1 =>
    if back? characters index distance = some '\\' then
      !oddBackslashes characters index (distance + 1) fuel
    else false

/-- Whether the two characters in front of one are a given one as well. -/
def behindTwo (characters : Array Char) (index : Nat) (c : Char) : Bool :=
  back? characters index 1 = some c && back? characters index 2 = some c

/-- A mistake at the character. -/
def mistake {α : Type} (message : String) : Except Fault α :=
  .error (.malformed message)

/-- The place that a point leads to: the next part of the key follows it, unless space or another
point does. -/
def placeBehind (layout : Layout) (index : Nat) : Except Fault KeyPlace :=
  match layout.characters[index + 1]? with
  | none => .error .shortList
  | some next => .ok (if Text.isBlank next || next == '.' then layout.key else .within)

/-- Goes on with the key of an entry.  The answer says whether the character is the equals sign
behind it. -/
def readKey (layout : Layout) (index : Nat) (c : Char) : Except Fault (Layout × Bool) := do
  if c == '\n' then mistake "Key name found without value. Reached end of line."
  if layout.quote.isSome then
    let isEscaped := oddBackslashes (layout.characters.take index) index 1 index
    if layout.quote = some c && !isEscaped then
      return ({ layout with key := .behind, quote := none }, false)
    return (layout, false)
  let passed : Option (Except Fault Layout) :=
    match layout.key with
    | .within =>
      if Text.isBlank c then some (.ok { layout with key := .behind })
      else if c == '.' then some (.ok { layout with isPath := true })
      else if Text.isAlphanumeric c || c == '_' || c == '-' then some (.ok layout)
      else if layout.isPath && back? layout.characters index 1 = some '.' &&
          (c == '"' || c == '\'') then
        some (.ok { layout with quote := some c })
      else none
    | .behind =>
      if Text.isBlank c then
        some (if layout.isPath then do
          return { layout with key := ← layout.placeBehind index }
        else .ok layout)
      else if c == '.' then some do
        return { layout with isPath := true, key := ← layout.placeBehind index }
      else none
    | .outside => none
  match passed with
  | some next => return (← next, false)
  | none =>
    if c == '=' then return ({ layout with key := .outside, isPath := false }, true)
    else
      mistake ("Found invalid character in key name: '" ++ String.singleton c ++
        "'. Try quoting the key name.")

/-- Opens or closes a text at a quote.  Three quotes open a text over several lines. -/
def readQuote (layout : Layout) (index : Nat) (c : Char) : Layout :=
  let wasOpen := layout.quote.isSome
  let isTriple := behindTwo layout.characters index c
  let isEscaped :=
    c == '"' && (isTriple || back? layout.characters index 1 ≠ some c) &&
      oddBackslashes layout.characters index (if isTriple then 3 else 1)
        (layout.characters.size + index + 1)
  if isEscaped then { layout with quote := if wasOpen then some c else none }
  else if isTriple then
    { layout with isLong := !layout.isLong, quote := if layout.isLong then none else some c }
  else { layout with quote := if wasOpen then none else some c }

/-- Makes blanks of a comment that begins at an index.  The number `fuel` bounds its length. -/
def blankComment (layout : Layout) (index : Nat) : (fuel : Nat) → Layout
  | 0 => layout
  | fuel + 1 =>
    match layout.characters[index]? with
    | none => { layout with ended := true }
    | some '\n' => layout
    | some _ =>
      blankComment { layout with characters := layout.characters.setIfInBounds index ' ' }
        (index + 1) fuel

/-- Goes over a bracket outside of texts. -/
def readBracket (layout : Layout) (index : Nat) (c : Char) : Layout :=
  if c == '[' then
    if layout.inHeader || layout.inArrayHeader then layout
    else if !layout.atStart then { layout with depth := layout.depth + 1 }
    else if layout.characters[index + 1]? = some '[' then { layout with inArrayHeader := true }
    else { layout with inHeader := true }
  else if layout.inHeader then { layout with inHeader := false }
  else if layout.inArrayHeader then
    if back? layout.characters index 1 = some ']' then { layout with inArrayHeader := false }
    else layout
  else { layout with depth := layout.depth - 1 }

/-- Goes over the end of a line. -/
def readBreak (layout : Layout) (index : Nat) : Except Fault Layout := do
  let cs := layout.characters
  if layout.quote.isSome || layout.isLong then
    if !layout.isLong then mistake "Unbalanced quotes"
    match back? cs index 1 with
    | some quote =>
      if (quote == '"' || quote == '\'') && back? cs index 2 = some quote then
        let cs := cs.setIfInBounds index quote
        if back? cs index 3 = some quote then
          return { layout with characters := cs.setIfInBounds (backIndex cs index 3) ' ' }
        return { layout with characters := cs }
      return layout
    | none => return layout
  else if layout.depth ≠ 0 then return { layout with characters := cs.setIfInBounds index ' ' }
  else return { layout with atStart := true }

/-- Goes over the first character of a line that is no blank: unless it opens a header, a key
begins with it. -/
def readStart (layout : Layout) (c : Char) : Except Fault Layout := do
  if !layout.atStart || c == ' ' || c == '\t' then return layout
  let layout := { layout with atStart := false }
  if layout.inHeader || layout.inArrayHeader then return layout
  if c == '=' then mistake "Found empty keyname. "
  return { layout with key := .within }

/-- Goes over a character outside of keys. -/
def readPlain (layout : Layout) (index : Nat) (c : Char) : Except Fault Layout := do
  let layout :=
    if (c == '\'' && layout.quote ≠ some '"') || (c == '"' && layout.quote ≠ some '\'') then
      layout.readQuote index c
    else layout
  let isOpen := layout.quote.isSome
  let layout :=
    if c == '#' && !isOpen && !layout.inHeader && !layout.inArrayHeader then
      layout.blankComment index (layout.characters.size + 1)
    else layout
  if layout.ended then return layout
  let layout := if (c == '[' || c == ']') && !isOpen then layout.readBracket index c else layout
  if c == '\n' then layout.readBreak index
  else layout.readStart (layout.characters[index]?.getD ' ')

/-- Goes over a character. -/
def read (layout : Layout) (index : Nat) : Except Fault Layout := do
  if layout.ended then return layout
  let c := layout.characters[index]?.getD ' '
  if layout.key = .outside then layout.readPlain index c
  else
    let (layout, isBehind) ← layout.readKey index c
    if isBehind then layout.readPlain index c else return layout

end Layout

/-- The characters of a document with one logical line on each line. -/
def layOut (document : List Char) : Except Fault (List Char) := do
  let start : Layout := { characters := document.toArray }
  let layout ← (List.range document.length).foldlM
    (fun layout index => (layout.read index).mapError (Fault.at document index)) start
  let unfinished (message : String) : Except Fault (List Char) :=
    .error ((Fault.malformed message).at document document.length)
  if layout.key ≠ .outside then unfinished "Key name found without value. Reached end of file."
  else if layout.quote.isSome then
    unfinished "Unterminated string found. Reached end of file."
  else return layout.characters.toList

end SlashCommand.Document.Toml
