import SlashCommand.Document.Toml.Fault
import SlashCommand.Number.Numeral
import SlashCommand.Text.Half
import SlashCommand.Text.Lowercase
import SlashCommand.Text.Split

/-!
# Texts of a TOML document

A text stands between quotes, single or double ones, one or three of them on either side.  Within
double quotes a backslash begins an escape.  Escapes of code points are resolved before the
others, so the character that one stands for may itself begin an escape.
-/

namespace SlashCommand.Document.Toml

/-- How many of a character stand at the end. -/
def countAtEnd (c : Char) (cs : List Char) : Nat :=
  (cs.reverse.takeWhile (· == c)).length

/-- Whether an odd number of backslashes stands at the end. -/
def endsEscaping (cs : List Char) : Bool :=
  countAtEnd '\\' cs % 2 == 1

/-- The characters but for some at either end. -/
def inner (count : Nat) (cs : List Char) : List Char :=
  let rest := cs.drop count
  rest.take (rest.length - count)

/-! ## Where a text ends -/

/-- How far the pieces of a text between its quotes have been looked through. -/
structure Closing where
  closed : Bool
  /-- How many empty pieces have come in a row, where the quotes are tripled. -/
  empty : Nat

/-- Looks at a piece.  Nothing but empty pieces may follow the one that closes the text; a piece
that ends with a backslash does not close it. -/
def Closing.look (isTriple : Bool) (state : Closing) (piece : List Char) :
    Except Fault Closing :=
  if piece.isEmpty then
    if isTriple then .ok { state with empty := state.empty + 1 }
    else .ok { state with closed := true }
  else if endsEscaping piece then .ok state
  else if state.closed then
    .error (.malformed "Found tokens after a closed string. Invalid TOML.")
  else if !isTriple || state.empty > 1 then .ok { state with closed := true }
  else .ok { state with empty := 0 }

/-- Checks that a text with its quotes ends at its closing quotes. -/
def checkClosing (quote : Char) (cs : List Char) : Except Fault Unit := do
  let (isTriple, pieces) :=
    match Text.pieces quote (cs.drop 1) with
    | [] :: [] :: pieces => (true, pieces)
    | pieces => (false, pieces)
  let _ ← pieces.foldlM (Closing.look isTriple) ⟨false, 0⟩
  return

/-! ## Escapes -/

/-- The characters that a backslash and one letter stand for. -/
def escapes : List (Char × Char) :=
  [('0', '\x00'), ('b', '\x08'), ('f', '\x0C'), ('n', '\n'), ('r', '\r'), ('t', '\t'), ('"', '"')]

/-- An escape that has no meaning. -/
def reserved {α : Type} : Except Fault α :=
  .error (.malformed "Reserved escape sequence used")

/-- Checks what follows the backslashes of a text, piece by piece; a piece is empty between two
backslashes in a row. -/
def checkEscapes : (isEscaped : Bool) → List (List Char) → Except Fault Unit
  | _, [] => .ok ()
  | isEscaped, [] :: pieces => checkEscapes (!isEscaped) pieces
  | isEscaped, (c :: _) :: pieces =>
    if (escapes.lookup c).isNone && c != 'u' && c != 'U' && !isEscaped then reserved
    else checkEscapes false pieces

/-- Whether a character is a lowercase hexadecimal digit. -/
def isLowerHex (c : Char) : Bool :=
  c.isDigit || ('a' ≤ c && c ≤ 'f')

/-- The character of a code, which may be that of half a character. -/
def charOfCode (code : Nat) : Except Fault Char :=
  if code ≥ 0x80000000 then .error .hugeCode
  else if code ≥ 0x110000 then .error (.malformed "chr() arg not in range(0x110000)")
  else .ok (Text.charOfCode code)

/-- Resolves the escape of a code point at the front of a piece. -/
def resolveCode (width : Nat) (piece : List Char) : Except Fault (List Char) := do
  let code := Text.lowercaseChars (piece.take width)
  let invalid (more : String) : Except Fault (List Char) :=
    .error (.malformed ("Invalid escape sequence: " ++ String.ofList code ++ more))
  if !code.all isLowerHex then return ← invalid ""
  match code with
  | [] => throw .shortText
  | ['d'] => throw .shortText
  | first :: rest =>
    if first == 'd' && rest.head?.any fun c => !('0' ≤ c && c ≤ '7') then
      return ← invalid ". Only scalar unicode points are allowed."
    return (← charOfCode (Number.valueIn 16 code)) :: piece.drop code.length

/-- Resolves the escapes of code points between the pieces of a text.  What stands behind an odd
number of backslashes is none. -/
def resolvePieces (letter : Char) (width : Nat) :
    (isEscaped : Bool) → List (List Char) → Except Fault (List Char)
  | _, [] => .ok []
  | true, piece :: pieces => do
    let rest ← resolvePieces letter width (endsEscaping piece) pieces
    return '\\' :: letter :: piece ++ rest
  | false, piece :: pieces => do
    let resolved ← resolveCode width piece
    return resolved ++ (← resolvePieces letter width false pieces)

/-- Resolves the escapes of code points with one letter and a number of digits. -/
def resolveCodes (letter : Char) (width : Nat) (cs : List Char) : Except Fault (List Char) :=
  match Text.piecesBetween ['\\', letter] (cs.length + 1) (cs.length + 1) cs with
  | first :: pieces => do
    return first ++ (← resolvePieces letter width (endsEscaping first) pieces)
  | [] => .ok []

/-- Resolves the escapes of one letter. -/
def resolveLetters : List Char → Except Fault (List Char)
  | '\\' :: c :: cs => do
    if c == '\\' then return '\\' :: (← resolveLetters cs)
    else if c == 'u' || c == 'U' then return '\\' :: c :: (← resolveLetters cs)
    else match escapes.lookup c with
      | some plain => return plain :: (← resolveLetters cs)
      | none => reserved
  | c :: cs => do return c :: (← resolveLetters cs)
  | [] => .ok []

/-- Resolves all escapes. -/
def resolveEscapes (cs : List Char) : Except Fault (List Char) := do
  checkEscapes false ((Text.pieces '\\' cs).drop 1)
  let cs ← resolveCodes 'u' 4 cs
  let cs ← resolveCodes 'U' 8 cs
  resolveLetters cs

/-- The text that stands within its quotes. -/
def readText (quote : Char) (cs : List Char) : Except Fault String := do
  checkClosing quote cs
  let cs ← if quote == '"' then resolveEscapes cs else .ok cs
  let isTriple :=
    match cs with
    | [_, c] => c == quote
    | _ :: c :: d :: _ => c == quote && d == quote
    | _ => false
  return String.ofList (inner 1 (if isTriple then inner 2 cs else cs))

end SlashCommand.Document.Toml
