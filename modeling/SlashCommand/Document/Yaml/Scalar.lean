import SlashCommand.Document.Yaml.Lexer
import SlashCommand.Text.Half

/-!
# Reading YAML scalars

A scalar is written in one of three ways.  A plain one is words without marks; it ends where an
indicator follows.  A quoted one stands between quotes, where double quotes allow escapes.  A
block scalar is the lines behind its heading that are indented further than what it belongs to.

A single end of a line within a plain or a quoted scalar counts as a blank, and of several the
first is dropped.  A block scalar keeps its lines, unless its heading asks for the same folding.
-/

namespace SlashCommand.Document.Yaml

/-! ## Plain scalars -/

/-- The characters of a plain scalar up to the next blank. -/
def plainWord (inFlow : Bool) : List Char → List Char
  | [] => []
  | c :: cs =>
    if endsWord (some c) ||
        (c == ':' &&
          (endsWord cs.head? || (inFlow && cs.head?.any ",[]\x7b\x7d".toList.contains))) ||
        (inFlow && ",?[]\x7b\x7d".toList.contains c) then []
    else c :: plainWord inFlow cs

/-- Passes over ends of lines and the blanks between them, and returns what they count as; none
if a document ends there. -/
def plainBreaks (breaks : List Char) : Nat → Lex (Option (List Char))
  | 0 => return some breaks
  | fuel + 1 => do
    if atDocumentMark (← get).rest then return none
    skipSpaces
    if (← peek).any isBreak then
      let c ← takeBreak
      plainBreaks (breaks ++ [c]) fuel
    else return some breaks

/-- Passes over the space behind a word of a plain scalar, and returns what it counts as if the
scalar goes on. -/
def plainSpace : Lex (List Char) := do
  let blanks ← takeWhile (· == ' ')
  if (← peek).any isBreak then
    let first ← takeBreak
    modify fun s => { s with keyAllowed := true }
    match ← plainBreaks [] ((← get).left + 1) with
    | none => return []
    | some others => return foldBreaks first others
  else return blanks

/-- Reads the words of a plain scalar. -/
def plainText (text space : List Char) : Nat → Lex (List Char)
  | 0 => return text
  | fuel + 1 => do
    let s ← get
    let word := plainWord s.inFlow s.rest
    if s.rest.head? == some '#' || word.isEmpty then return text
    skip word.length
    modify fun s => { s with keyAllowed := false }
    let text := text ++ space ++ word
    let next ← plainSpace
    let s ← get
    if next.isEmpty || s.rest.head? == some '#' || (!s.inFlow && s.column < s.contentColumn) then
      return text
    plainText text next fuel

/-! ## Quoted scalars -/

/-- The characters that a backslash and one letter stand for. -/
def escapes : List (Char × Char) :=
  [('0', '\x00'), ('a', '\x07'), ('b', '\x08'), ('t', '\t'), ('\t', '\t'), ('n', '\n'),
    ('v', '\x0B'), ('f', '\x0C'), ('r', '\r'), ('e', '\x1B'), (' ', ' '), ('"', '"'),
    ('\\', '\\'), ('/', '/'), ('N', '\u0085'), ('_', '\u00A0'), ('L', '\u2028'), ('P', '\u2029')]

/-- How many hexadecimal digits follow a backslash and one letter. -/
def escapeDigits : Char → Option Nat
  | 'x' => some 2
  | 'u' => some 4
  | 'U' => some 8
  | _ => none

/-- Passes over ends of lines within quotes, with the blanks around them. -/
def quotedBreaks (breaks : List Char) : Nat → Lex (List Char)
  | 0 => return breaks
  | fuel + 1 => do
    if atDocumentMark (← get).rest then malformed
    let _ ← takeWhile fun c => c == ' ' || c == '\t'
    if (← peek).any isBreak then
      let c ← takeBreak
      quotedBreaks (breaks ++ [c]) fuel
    else return breaks

/-- Reads what stands behind a backslash within double quotes.  A code may be that of half a
character. -/
def escaped : Lex (List Char) := do
  match (← get).rest with
  | [] => malformed
  | c :: cs =>
    match escapes.lookup c, escapeDigits c with
    | some plain, _ => skip 1; return [plain]
    | none, some count =>
      match hexNumber? count cs with
      | none => malformed
      | some code =>
        if code ≥ 0x80000000 then throw .hugeCode
        if code ≥ 0x110000 then throw .noCharacter
        skip (count + 1)
        return [Text.charOfCode code]
    | none, none =>
      if isBreak c then
        let _ ← takeBreak
        quotedBreaks [] ((← get).left + 1)
      else malformed

/-- Reads a quoted scalar up to and with its closing quote. -/
def quotedText (quote : Char) (text : List Char) : Nat → Lex (List Char)
  | 0 => malformed
  | fuel + 1 => do
    match (← get).rest with
    | [] => malformed
    | c :: cs =>
      if c == quote then
        if quote == '\'' && cs.head? == some '\'' then
          skip 2
          quotedText quote (text ++ [c]) fuel
        else
          skip 1
          return text
      else if c == '\\' && quote == '"' then
        skip 1
        let more ← escaped
        quotedText quote (text ++ more) fuel
      else if endsWord (some c) then
        let blanks ← takeWhile fun c => c == ' ' || c == '\t'
        if (← peek).any isBreak then
          let first ← takeBreak
          let others ← quotedBreaks [] ((← get).left + 1)
          quotedText quote (text ++ foldBreaks first others) fuel
        else quotedText quote (text ++ blanks) fuel
      else
        skip 1
        quotedText quote (text ++ [c]) fuel

/-! ## Block scalars -/

/-- What becomes of the end of a block scalar's last line, and of the empty lines behind it. -/
inductive Chomping where
  /-- They are dropped. -/
  | strip
  /-- Only the end of the last line is kept. -/
  | clip
  /-- All are kept. -/
  | keep
  deriving DecidableEq

/-- The chomping that a sign asks for. -/
def Chomping.ofSign? : Char → Option Chomping
  | '+' => some keep
  | '-' => some strip
  | _ => none

/-- Reads the chomping, if one is given. -/
def readChomping : Lex (Option Chomping) := do
  let chomping := (← peek).bind Chomping.ofSign?
  if chomping.isSome then skip 1
  return chomping

/-- Reads the indentation, if one is given. -/
def readIncrement : Lex (Option Nat) := do
  match (← peek).filter Char.isDigit with
  | some '0' => malformed
  | some digit => skip 1; return some (digit.toNat - '0'.toNat)
  | none => return none

/-- Reads the heading of a block scalar: chomping and indentation in either order. -/
def readBlockHeading : Lex (Chomping × Option Nat) := do
  let first ← readChomping
  let increment ← readIncrement
  let second ← if first.isNone && increment.isSome then readChomping else pure none
  if !endsPart (← peek) then malformed
  skipLineEnd
  return ((first <|> second).getD .clip, increment)

/-- Passes over the empty lines in front of a block scalar, and returns their ends and the column
of the furthest space on them or in front of the first line. -/
def blockIndentation (breaks : List Char) (column : Nat) : Nat → Lex (List Char × Nat)
  | 0 => return (breaks, column)
  | fuel + 1 => do
    match ← peek with
    | none => return (breaks, column)
    | some c =>
      if c == ' ' then
        skip 1
        blockIndentation breaks (max column (← get).column) fuel
      else if isBreak c then
        let c ← takeBreak
        blockIndentation (breaks ++ [c]) column fuel
      else return (breaks, column)

/-- Passes over the spaces in front of a column. -/
def skipIndentation (column : Nat) : Nat → Lex Unit
  | 0 => return
  | fuel + 1 => do
    let s ← get
    if s.column < column && s.rest.head? == some ' ' then
      skip 1
      skipIndentation column fuel

/-- Passes over empty lines and the indentation of the line behind them, and returns their ends.
-/
def blockBreaks (column : Nat) (breaks : List Char) : Nat → Lex (List Char)
  | 0 => return breaks
  | fuel + 1 => do
    skipIndentation column column
    if (← peek).any isBreak then
      let c ← takeBreak
      blockBreaks column (breaks ++ [c]) fuel
    else return breaks

/-- Whether a line begins with a character that is no space. -/
def startsDense (next : Option Char) : Bool :=
  next != some ' ' && next != some '\t'

/-- Reads the lines of a block scalar from the column of its text on.  The ends of lines in front
of the next one are given as `breaks`.  Returns the text up to the end of the last line, and the
ends of lines behind it. -/
def blockLines (folded : Bool) (column : Nat) (text breaks : List Char) :
    Nat → Lex (List Char × List Char × List Char)
  | 0 => return (text, [], breaks)
  | fuel + 1 => do
    let s ← get
    if s.column != column || s.rest.isEmpty then return (text, [], breaks)
    let isDense := startsDense s.rest.head?
    let line ← takeWhile fun c => !isBreak c
    let text := text ++ breaks ++ line
    if (← peek).isNone then return (text, [], [])
    let first ← takeBreak
    let others ← blockBreaks column [] ((← get).left + 1)
    let s ← get
    if s.column = column && !s.rest.isEmpty then
      let isFolded := folded && first == '\n' && isDense && startsDense s.rest.head?
      let between := if !isFolded then [first] else if others.isEmpty then [' '] else []
      blockLines folded column (text ++ between) others fuel
    else return (text, [first], others)

/-- Reads a block scalar. -/
def blockText (folded : Bool) : Lex (List Char) := do
  skip 1
  let (chomping, increment) ← readBlockHeading
  needRoom 8 notingPlace
  let s ← get
  let least := max s.contentColumn 1
  let fuel := s.left + 1
  let (column, breaks) ←
    match increment with
    | none => do
      let (breaks, column) ← blockIndentation [] 0 fuel
      pure (max least column, breaks)
    | some increment => do
      let column := least + increment - 1
      pure (column, ← blockBreaks column [] fuel)
  let (text, last, others) ← blockLines folded column [] breaks fuel
  return text ++
    match chomping with
    | .strip => []
    | .clip => last
    | .keep => last ++ others

end SlashCommand.Document.Yaml
