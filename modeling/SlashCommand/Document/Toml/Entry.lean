import SlashCommand.Document.Toml.Place
import SlashCommand.Document.Toml.Scalar

/-!
# Entries of a TOML document

An entry is a key, an equals sign and a value.  The value is a text, an array, an inline table, or
one without quotes and brackets.  Arrays and inline tables are read by cutting them at their
commas first and putting together again what a comma within a text has cut.

The recursion of arrays and inline tables is bounded by a number that is larger than the number
of characters.  How many steps are open where a value or an entry is read is told by its `depth`,
and every reader knows how many more it opens.
-/

namespace SlashCommand.Document.Toml

/-! ## Cutting -/

/-- The parts of a line between its quotes.  Single quotes count up to the first double quote, and
in front of it only in pairs. -/
def quotePieces (cs : List Char) : List (List Char) :=
  match Text.pieces '"' cs with
  | first :: second :: rest =>
    if first.contains '\'' then
      let (single, rest) := pairUp (Text.pieces '\'' first) (second :: rest) (rest.length + 1)
      single ++ afterFirst rest
    else afterFirst (first :: second :: rest)
  | pieces => afterFirst pieces
where
  /-- The pieces between single quotes; where a single quote is left open, the double quote behind
  belongs to the text. -/
  pairUp (single rest : List (List Char)) : Nat → List (List Char) × List (List Char)
    | 0 => (single, rest)
    | fuel + 1 =>
      match rest with
      | next :: rest =>
        if single.length % 2 = 0 then
          let last := single.getLast?.getD [] ++ '"' :: next
          pairUp (single.dropLast ++ Text.pieces '\'' last) rest fuel
        else (single, next :: rest)
      | [] => (single, [])
  /-- The pieces, the first of which is cut at single quotes as well. -/
  afterFirst : List (List Char) → List (List Char)
    | [] => []
    | first :: rest => Text.pieces '\'' first ++ rest

/-- How often a mark stands in the pieces in front of the first one without quotes that has it. -/
def marksBefore (mark : List Char) : (quoted : Bool) → List (List Char) → Nat
  | _, [] => 0
  | quoted, piece :: pieces =>
    if !quoted && Text.isWithin mark piece then 0
    else Text.occurrences mark piece + marksBefore mark (!quoted) pieces

/-- Whether a text ends where it should: with the quote that it begins with, and that one not
behind an odd number of backslashes. -/
def isWhole (cs : List Char) : Bool :=
  match cs with
  | [] => true
  | first :: rest =>
    match rest.reverse with
    | [] => true
    | last :: middle => last == first && (middle.takeWhile (· == '\\')).length % 2 == 0

/-- Whether a text opens with three quotes and does not close with them. -/
def isOpenTriple (cs : List Char) : Bool :=
  match cs, cs.reverse with
  | a :: b :: c :: _, _ :: y :: z :: _ => a == b && b == c && y != a && z != a
  | _, _ => false

/-- Puts together a text that was cut at commas, with as many of the pieces behind it as it
takes. -/
def wholeText (cs : List Char) : List (List Char) → Except Fault (List Char × List (List Char))
  | [] =>
    let text := Text.trimmed Text.isBlank cs
    if !isWhole text || isOpenTriple text then .error .shortList else .ok (cs, [])
  | next :: rest =>
    let text := Text.trimmed Text.isBlank cs
    if !isWhole text || isOpenTriple text then wholeText (cs ++ ',' :: next) rest
    else .ok (cs, next :: rest)

/-- Puts together the texts of an array.  The last piece is left as it is. -/
def wholeTexts : Nat → List (List Char) → Except Fault (List (List Char))
  | 0, pieces => .ok pieces
  | fuel + 1, pieces =>
    match pieces with
    | first :: second :: rest => do
      let (text, rest) ← wholeText first (second :: rest)
      return text :: (← wholeTexts fuel rest)
    | pieces => .ok pieces

/-- The inline tables of an array.  The search goes on from `stop` in a table that began at
`start`, with `depth` braces open. -/
def tablePieces (cs : Array Char) (start stop depth : Nat) (inText : Bool) :
    Nat → List (List Char)
  | 0 => []
  | fuel + 1 =>
    if stop + 1 ≥ cs.size then []
    else
      let c := cs[stop]?.getD ' '
      let inText :=
        if c == '"' || c == '\'' then
          let isEscaped := endsEscaping (cs.toList.take stop)
          if inText && isEscaped then inText else !inText
        else inText
      let depth := if !inText && c == '\x7b' then depth + 1 else depth
      if inText || c != '\x7d' then tablePieces cs start (stop + 1) depth inText fuel
      else if depth > 1 then tablePieces cs start (stop + 1) (depth - 1) inText fuel
      else
        let table := (cs.toList.take (stop + 1)).drop start
        let rest := (cs.toList.take (cs.size - 1)).drop (stop + 2)
        let next := stop + 2 + (rest.takeWhile (· != '\x7b')).length
        table :: tablePieces cs next (next + 1) depth inText fuel

/-- The pieces of an array of arrays, between the commas outside of brackets. -/
def arrayPieces (depth : Int) : List Char → List (List Char)
  | [] => [[]]
  | c :: cs =>
    let depth := if c == '[' then depth + 1 else if c == ']' then depth - 1 else depth
    if c == ',' && depth = 0 then [] :: arrayPieces depth cs
    else match arrayPieces depth cs with
      | piece :: rest => (c :: piece) :: rest
      | [] => [[c]]

/-- Whether the first item of an array is a text. -/
def startsWithText (cs : List Char) : Bool :=
  match Text.dropBlank (inner 1 cs) with
  | c :: _ => c == '"' || c == '\''
  | [] => false

/-- The items of an array, as they are written. -/
def itemPieces (cs : List Char) : Except Fault (List (List Char)) := do
  let body := inner 1 cs
  let before := body.takeWhile (· != '[')
  if body.contains '[' && before.all Text.isBlank then return arrayPieces 0 body
  let pieces :=
    if (Text.dropBlank body).head? = some '\x7b' then
      tablePieces cs.toArray 1 2 (if cs[1]? = some '\x7b' then 1 else 0) false (cs.length + 1)
    else Text.pieces ',' body
  if startsWithText cs then wholeTexts pieces.length pieces else return pieces

/-- Whether the value of an entry in an inline table is complete. -/
def isCompleteValue (cs : List Char) : Except Fault Bool :=
  match cs, cs.getLast? with
  | first :: _, some last =>
    .ok ((first == last && (first == '"' || first == '\'')) ||
      (first.isDigit || first == '-') ||
      cs = "true".toList || cs = "false".toList ||
      (first == '[' && last == ']') || (first == '\x7b' && last == '\x7d'))
  | _, _ => .error .shortText

/-- Puts together the entries of an inline table that was cut at commas. -/
def entryPieces : List Char → List (List Char) → Except Fault (List (List Char))
  | piece, pieces => do
    match Text.piecesUpTo '=' 1 piece with
    | [_, value] =>
      if ← isCompleteValue (Text.trimmed Text.isBlank value) then
        match pieces with
        | [] => return [piece]
        | next :: pieces => return piece :: (← entryPieces next pieces)
      else match pieces with
        | [] => throw (.malformed "Invalid inline table value encountered")
        | next :: pieces => entryPieces (piece ++ ',' :: next) pieces
    | _ => throw (.malformed "Invalid inline table encountered")
termination_by _ pieces => pieces.length

/-- The entries of an inline table, as they are written. -/
def tableEntries (cs : List Char) : Except Fault (List (List Char)) :=
  match Text.pieces ',' (inner 1 cs) with
  | [only] => if only.all Text.isBlank then .ok [] else entryPieces only []
  | first :: rest => entryPieces first rest
  | [] => .ok []

/-! ## Keys -/

/-- Whether a value without a blank in front of it is complete, so that no further equals sign is
looked for. -/
def endsKey (cs : List Char) : Bool :=
  match cs with
  | [] => true
  | first :: _ =>
    let word := Text.trimmed Text.isBlank cs
    " \t'\"[\x7b".toList.contains first || word = "true".toList || word = "false".toList ||
      (Number.readFloat? cs).isSome || (moment? cs).isSome || (timeAt? cs).isSome

/-- The key and the value of a line that is cut at its first `count` equals signs, and whether a
number there is written strictly.  While the value is none, the next equals sign is tried. -/
def cutLine (line : List Char) (value : List Char) (isStrict : Bool) :
    (count fuel : Nat) → Except Fault (List Char × List Char × Bool)
  | _, 0 => .error (.malformed "Invalid date or number")
  | count, fuel + 1 =>
    if endsKey value then
      let key := (Text.piecesUpTo '=' count line).dropLast
      .ok (Text.joined ['='] key, value, isStrict)
    else
      let next := (Text.piecesUpTo '=' (count + 1) line).getLast?.getD []
      if next = value then .error (.malformed "Invalid date or number")
      else cutLine line next (isStrict && isStrictNumber next) (count + 1) fuel

/-- The key and the value of a line, and whether a number there is written strictly. -/
def splitEntry (line : List Char) : Except Fault (List Char × List Char × Bool) := do
  let count := 1 + marksBefore ['='] false (quotePieces line)
  let value := (Text.piecesUpTo '=' count line).getLast?.getD []
  let isStrict := isStrictNumber value
  let value := if value.head?.any Char.isDigit then value.filter (· != '_') else value
  let (key, value, isStrict) ← cutLine line value isStrict count (line.count '=' + 3)
  return (Text.trimmed Text.isBlank key, Text.trimmed Text.isBlank value, isStrict)

/-- The names of the pieces of a key with points, quoted ones as they are. -/
def pathPieces : (quoted : Bool) → List (List Char) → List (List Char)
  | _, [] => []
  | true, piece :: pieces => piece :: pathPieces false pieces
  | false, piece :: pieces =>
    (Text.pieces '.' piece).map (Text.trimmed Text.isBlank) ++ pathPieces true pieces

/-- The tables that a key leads through, and its name in the last of them. -/
def readKey (key : List Char) : Except Fault (List String × String) := do
  if key.contains '.' then
    let names :=
      if key.contains '"' || key.contains '\'' then pathPieces false (quotePieces key)
      else Text.pieces '.' key
    let names := (names.reverse.dropWhile (·.isEmpty)).reverse
    match names.getLast? with
    | some name =>
      return (names.dropLast.map String.ofList,
        String.ofList (Text.trimmed Text.isBlank name))
    | none => throw .shortList
  else match key, key.getLast? with
    | first :: _, some last =>
      if (first == '"' || first == '\'') && last == first then
        return ([], String.ofList (← resolveLetters (inner 1 key)))
      else return ([], String.ofList key)
    | _, _ => throw .shortText

/-! ## Texts over several lines -/

/-- An entry whose value goes on in the lines that follow. -/
structure Pending where
  key : String
  text : List Char
  /-- Whether the next line follows without the blanks at its start. -/
  glued : Bool

/-- The last item of an array that is not closed on its line, from a piece on that begins with a
quote. -/
def lastItem : List Char → List (List Char) → Except Fault (List Char)
  | piece, [] => .ok piece
  | piece, before :: rest =>
    match piece with
    | [] => .error .shortText
    | c :: _ =>
      if c == '"' || c == '\'' then .ok piece else lastItem (before ++ ',' :: piece) rest

/-- Whether a text over several lines is open at the end of a value. -/
def opensLongText (value : List Char) : Except Fault Bool := do
  if value.length < 3 then return false
  let text ←
    if value.head? = some '[' && value.getLast? ≠ some ']' && startsWithText value then
      match (Text.pieces ',' (Text.trimmed Text.isBlank (value.drop 1))).reverse with
      | last :: before => lastItem last before
      | [] => .ok []
    else .ok value
  match text with
  | [] => throw .shortText
  | quote :: rest =>
    if quote != '"' && quote != '\'' then return false
    match rest with
    | [] => throw .shortText
    | second :: rest =>
      if second != quote then return false
      match rest with
      | [] => throw .shortText
      | third :: _ =>
        if third != quote then return false
        return !(text.length > 5 && countAtEnd quote text ≥ 3)

/-- A value that goes on in the next line. -/
def pendingEntry (key : String) (text : List Char) : Pending :=
  if endsEscaping text then ⟨key, text.dropLast, true⟩ else ⟨key, text ++ ['\n'], false⟩

/-! ## Values -/

/-- The sort of an array's items: moments of all forms but times alone are of one sort. -/
def itemSort : Value → String
  | .dateTime .. => "date"
  | value => value.sort

/-- Sets an entry of a table, or announces one that goes on in the next line. -/
def setEntry (name : String) (value : Value ⊕ List Char) (table : Value) :
    Except Fault (Value × Option Pending) := do
  let duplicate : Fault := .malformed "Duplicate keys!"
  match table with
  | .mapping entries inline =>
    if (Value.lookup? entries name).isSome then throw duplicate
    match value with
    | .inl value => return (.mapping (Value.put entries (.string name) value) inline, none)
    | .inr text =>
      if name = "" then throw .unnamedText
      return (table, some (pendingEntry name text))
  | _ => throw duplicate

/-- Finds out whether there is room for a number of open steps. -/
def needRoom (depth : Nat) (last : LastStep) : Except Fault Unit :=
  if depth > stepLimit then .error (.tooDeep last) else .ok ()

/-- Finds out whether there is room for cutting an array.  Where a bracket stands in it, what is in
front of the first one is looked at, and else whether its first item is a text. -/
def needArrayRoom (depth : Nat) (cs : List Char) : Except Fault Unit := do
  let body := inner 1 cs
  if body.contains '[' then needRoom (depth + 1) .comparison
  if !body.contains '[' || !(body.takeWhile (· != '[')).all Text.isBlank then
    needRoom (depth + 1) .reading
    needRoom (depth + 2) .comparison

/-- Whether characters are given by their codes in a text. -/
def hasCodes (cs : List Char) : Bool :=
  Text.isWithin ['\\', 'u'] cs || Text.isWithin ['\\', 'U'] cs

mutual

/-- Reads a value.  A number may have to be written strictly. -/
def readValue (depth : Nat) (isStrict : Bool) (cs : List Char) : Nat → Except Fault Value
  | 0 => .error (.malformed "Empty value is invalid")
  | fuel + 1 => do
    needRoom depth .reading
    match cs with
    | [] => throw (.malformed "Empty value is invalid")
    | first :: _ =>
      if cs = "true".toList then return .bool true
      needRoom (depth + 1) .operation
      let word := Text.lowercaseChars cs
      if cs = "false".toList then return .bool false
      else if word = "true".toList || word = "false".toList then
        throw (.malformed "Only all lowercase booleans allowed")
      else if first == '"' || first == '\'' then
        if first == '"' && hasCodes cs then needRoom (depth + 3) .operation
        return .string (← readText first cs)
      else if first == '[' then
        needArrayRoom (depth + 1) cs
        let pieces := (← itemPieces cs).map (Text.trimmed Text.isBlank)
        return .list (← readItems (depth + 2) none pieces fuel)
      else if first == '\x7b' then
        needRoom (depth + 3) .operation
        readTable (depth + 1) cs (.mapping [] true) fuel
      else
        let value ← readScalar isStrict cs
        if ["date", "datetime"].contains value.sort then needRoom (depth + 2) .operation
        return value
termination_by structural fuel => fuel

/-- Reads the items of an array, which are all of one sort.  Empty ones are passed over. -/
def readItems (depth : Nat) (sort : Option String) (pieces : List (List Char)) :
    Nat → Except Fault (List Value)
  | 0 => .ok []
  | fuel + 1 => do
    match pieces with
    | [] => return []
    | piece :: pieces =>
      if piece.isEmpty then readItems depth sort pieces fuel
      else
        let item ← readValue depth true piece fuel
        if sort.any (· != itemSort item) then throw (.malformed "Not a homogeneous array")
        return item :: (← readItems depth (some (itemSort item)) pieces fuel)
termination_by structural fuel => fuel

/-- Reads an inline table into a table. -/
def readTable (depth : Nat) (cs : List Char) (table : Value) : Nat → Except Fault Value
  | 0 => .ok table
  | fuel + 1 => do readTableEntries (depth + 1) (← tableEntries cs) table fuel
termination_by structural fuel => fuel

/-- Reads the entries of an inline table into a table, up to one that goes on in the next line. -/
def readTableEntries (depth : Nat) (lines : List (List Char)) (table : Value) :
    Nat → Except Fault Value
  | 0 => .ok table
  | fuel + 1 => do
    match lines with
    | [] => return table
    | line :: lines =>
      let (table, pending) ← readEntry depth line table fuel
      if pending.isSome then return table
      readTableEntries depth lines table fuel
termination_by structural fuel => fuel

/-- Reads an entry into a table. -/
def readEntry (depth : Nat) (line : List Char) (table : Value) :
    Nat → Except Fault (Value × Option Pending)
  | 0 => .ok (table, none)
  | fuel + 1 => do
    needRoom (depth + 2) .operation
    let (key, text, isStrict) ← splitEntry line
    let (path, name) ← readKey key
    changeUnder (fun table => do
      if ← opensLongText text then setEntry name (.inr text) table
      else setEntry name (.inl (← readValue (depth + 1) isStrict text fuel)) table) table path
termination_by structural fuel => fuel

end

end SlashCommand.Document.Toml
