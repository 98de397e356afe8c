import SlashCommand.Document.Toml.Entry

/-!
# Headers of a TOML document

A header names the table that the entries behind it belong to, by a path of names in brackets.
With two brackets it adds a table to an array.  Tables on the way come to be.  A table may be
opened by a header once, and also if it came to be on the way to another one.
-/

namespace SlashCommand.Document.Toml

/-- Whether a name may stand in a header without quotes. -/
def isBareName (cs : List Char) : Bool :=
  !cs.isEmpty && cs.all fun c => c.isAlphanum || c == '_' || c == '-'

/-- A name in quotes at the front of the pieces of a header, put together from as many of them as
it takes, and the pieces left over.  The number `tries` bounds how many more are tried. -/
def quotedName (pieces : List (List Char)) (text : List Char) (taken tries : Nat) :
    Except Fault (String × List (List Char)) :=
  if text.head? = text.getLast? && text.length ≠ 1 then
    .ok (String.ofList (inner 1 text), pieces.drop taken)
  else match tries with
    | 0 =>
      .error (.malformed
        ("Invalid group name '" ++ String.ofList text ++ "' Something went wrong."))
    | tries + 1 =>
      let longer := Text.joined ['.'] (pieces.take (taken + 1))
      quotedName pieces (Text.trimmed Text.isBlank longer) (taken + 1) tries

/-- Reads the names of a header from its pieces between points. -/
def readNames : (fuel : Nat) → List (List Char) → Except Fault (List String)
  | 0, _ => .ok []
  | _, [] => .ok []
  | fuel + 1, piece :: pieces => do
    let name := Text.trimmed Text.isBlank piece
    if name.head? = some '"' || name.head? = some '\'' then
      let (name, rest) ← quotedName (name :: pieces) name 1 (pieces.length + 2)
      return name :: (← readNames fuel rest)
    else if isBareName name then return String.ofList name :: (← readNames fuel pieces)
    else
      throw (.malformed ("Invalid group name '" ++ String.ofList name ++ "'. Try quoting it."))

/-- A header: the names on the way to a table, and whether the table is one of an array. -/
structure Header where
  names : List String
  isArray : Bool

/-- Reads a header from its line. -/
def Header.ofLine (line : List Char) : Except Fault Header := do
  let (isArray, body, mark) ←
    match line with
    | [_] => throw (.malformed "Opening key group bracket on line by itself.")
    | _ :: '[' :: body => .ok (true, body, [']', ']'])
    | _ :: body => .ok (false, body, [']'])
    | [] => .ok (false, [], [']'])
  let count := 1 + marksBefore mark false (quotePieces body)
  let pieces := Text.piecesBetween mark count (body.length + 1) body
  if pieces.length < count + 1 || !(pieces.getLast?.getD []).all Text.isBlank then
    throw (.malformed "Key group not on a line by itself.")
  let names := Text.pieces '.' (Text.joined mark pieces.dropLast)
  return ⟨← readNames names.length names, isArray⟩

/-- What comes to be under a name of a header: a table, or in the end an array with one. -/
def Header.part (header : Header) (isLast : Bool) : Value :=
  if header.isArray && isLast then .list [emptyTable] else emptyTable

/-- What has been read of a document. -/
structure Progress where
  root : Value
  /-- The place that entries belong to. -/
  place : Place
  /-- The names of the tables that came to be on the way to others. -/
  passing : List String

/-- Adds an empty table to an array. -/
def addTable : Value → Except Fault Value
  | .list items => .ok (.list (items ++ [emptyTable]))
  | _ => .error .noArray

/-- Makes the part of a value with a name, unless it is there. -/
def makePart (header : Header) (name : String) (isLast : Bool) (value : Value) :
    Except Fault Value := do
  if ← hasPart name value then return value else putPart name (header.part isLast) value

/-- Opens a part of a table that is there already at the end of a header.  A table that came to
be on the way to another one may be opened once; an array gets one more table. -/
def openAgain (header : Header) (name : String) (table part : Value) (passing : List String) :
    Except Fault (Value × List String) := do
  if passing.contains name then
    if header.isArray then throw (.malformed "An implicitly defined table can't be an array")
    return (table, passing.erase name)
  else if header.isArray then return (← putPart name (← addTable part) table, passing)
  else throw (.malformed s!"What? {name} already exists?{table.display}")

/-- Opens a part of a table by its name. -/
def openPart (header : Header) (name : String) (isLast : Bool) (table : Value)
    (passing : List String) : Except Fault (Value × List String) := do
  if ← hasPart name table then
    if isLast then openAgain header name table (← namedPart name table) passing
    else return (table, passing)
  else
    let passing := if isLast then passing else passing ++ [name]
    return (← putPart name (header.part isLast) table, passing)

/-- Whether a value is a table. -/
def isTable : Value → Bool
  | .mapping .. => true
  | _ => false

/-- Goes on to the part with a name.  What is no table is entered through its last part, and the
header of a table in an array goes on from the last table of the part. -/
def Progress.enter (progress : Progress) (header : Header) (name : String) (isLast : Bool) :
    Except Fault Progress := do
  if name = "" then throw (.malformed "Can't have a keygroup with an empty name")
  let value ← valueAt progress.root progress.place
  let isNamed := isTable value
  let place := progress.place ++ if isNamed then [] else [.final]
  let change (value : Value) : Except Fault (Value × List String) := do
    if isNamed then openPart header name isLast value progress.passing
    else return (← makePart header name isLast value, progress.passing)
  let (root, passing) ← changeAt change progress.root place
  let place := place ++ [.key name]
  let part ← valueAt root place
  if header.isArray && !isTable part then
    let _ ← finalPart part
    return ⟨root, place ++ [.final], passing⟩
  else return ⟨root, place, passing⟩

/-- Follows the names of a header. -/
def Progress.follow (progress : Progress) (header : Header) :
    List String → Except Fault Progress
  | [] => .ok progress
  | name :: names => do
    (← progress.enter header name names.isEmpty).follow header names

/-- The document behind a header. -/
def Progress.openHeader (progress : Progress) (line : List Char) : Except Fault Progress := do
  let header ← Header.ofLine line
  ({ progress with place := [] } : Progress).follow header header.names

end SlashCommand.Document.Toml
