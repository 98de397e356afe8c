import SlashCommand.Document
import SlashCommand.Document.Toml.Header
import SlashCommand.Document.Toml.Layout

/-!
# TOML documents

A document is a sequence of entries, each on a line of its own, and of headers that say where the
entries behind them belong: to a table, or to the last table of an array.  Values are texts,
numbers, truth values, moments, arrays and inline tables.

A document is read in two turns.  The first one settles where its lines end, the second one reads
them in order.  The first mistake that is met is reported.
-/

namespace SlashCommand.Document.Toml

/-- How many steps are open where a line is read. -/
def lineDepth : Nat :=
  10

/-- The entry that goes on in the next line, and the document so far. -/
structure Reading where
  progress : Progress
  pending : Option Pending := none

/-- Whether the line is the last one of the text that goes on in it. -/
def closesText (text line : List Char) : Except Fault Bool :=
  match text.head? with
  | none => .error .shortText
  | some '[' =>
    match line.getLast? with
    | none => .error .shortText
    | some last => .ok (last == ']')
  | some quote => .ok (line.length > 2 && countAtEnd quote line ≥ 3)

/-- Goes on with an entry in a line. -/
def Reading.goOn (reading : Reading) (pending : Pending) (line : List Char) :
    Except Fault Reading := do
  let isCut := pending.text.isEmpty || pending.glued || !pending.text.contains '\n'
  let line := if isCut then Text.trimmed Text.isBlank line else line
  if line.isEmpty && pending.glued then return reading
  let text := pending.text ++ line
  if ← closesText text line then
    let value ← readValue lineDepth true text (4 * text.length + 16)
    let (root, _) ← changeAt
      (fun table => do return (← putPart pending.key value table, ()))
      reading.progress.root reading.progress.place
    return ⟨{ reading.progress with root }, none⟩
  else return { reading with pending := some (pendingEntry pending.key text) }

/-- Changes the value that entries belong to. -/
def Progress.change {α : Type} (progress : Progress)
    (change : Value → Except Fault (Value × α)) : Except Fault (Progress × α) := do
  let (root, result) ← changeAt change progress.root progress.place
  return ({ progress with root }, result)

/-- Reads a line. -/
def Reading.readLine (reading : Reading) (line : List Char) : Except Fault Reading := do
  match reading.pending with
  | some pending => reading.goOn pending line
  | none =>
    let line := Text.trimmed Text.isBlank line
    let fuel := 4 * line.length + 16
    match line with
    | [] => return reading
    | first :: _ =>
      if first == '[' then return { reading with progress := ← reading.progress.openHeader line }
      else if first == '\x7b' then
        if line.getLast? ≠ some '\x7d' then
          throw (.malformed "Line breaks are not allowed in inlineobjects")
        let (progress, _) ← reading.progress.change fun table => do
          return (← readTable lineDepth line table fuel, ())
        return { reading with progress }
      else if line.contains '=' then
        let (progress, pending) ← reading.progress.change fun table =>
          readEntry lineDepth line table fuel
        return ⟨progress, pending⟩
      else return reading

/-- Reads the lines of a document, the first of which stands at an offset. -/
def Reading.readLines (document : List Char) (offset : Nat) (reading : Reading) :
    List (List Char) → Except Fault Reading
  | [] => .ok reading
  | line :: lines => do
    let reading ← (reading.readLine line).mapError (Fault.at document offset)
    reading.readLines document (offset + line.length + 1) lines

/-- Reads a TOML document. -/
def read (text : String) : Except Fault Document := do
  let document := text.toList
  let lines := Text.pieces '\n' (← layOut document)
  let reading ← Reading.readLines document 0 ⟨⟨emptyTable, [], []⟩, none⟩ lines
  return .ofValue reading.progress.root

end SlashCommand.Document.Toml
