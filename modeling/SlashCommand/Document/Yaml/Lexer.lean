import SlashCommand.Document.Yaml.Fault

/-!
# Reading YAML by characters

A document is read into tokens: scalars, the marks of properties, the indicators of collections,
and the two indicators that make a mapping.  This module holds the tokens, the state of reading,
and the steps on single characters that the readers of tokens are made of.

Whether a scalar is a key is known only at the colon behind it.  So every place where a key may
begin is remembered as a `KeyMark`, and at the colon the tokens are completed there.  A token that
stands at such a place waits until it is known.

The text comes in blocks, and a character that may not stand in a document is found when its block
comes.

Reading takes room: a step is taken within another one, and only so many may be open at once.
`Lexer.depth` is how many are open when a token is asked for, and every reader of tokens knows how
many more it opens, and of what sort the last ones are.
-/

namespace SlashCommand.Document.Yaml

/-- A piece of a document. -/
inductive Token where
  /-- The line that tells the version of the notation. -/
  | version (major : Nat)
  /-- A line that says what a handle of tags stands for. -/
  | handle (name expansion : String)
  /-- A line that says something else about the document. -/
  | directive
  | documentStart
  | documentEnd
  | blockSequence
  | blockMapping
  /-- The end of a block collection. -/
  | blockEnd
  | flowSequence
  | flowSequenceEnd
  | flowMapping
  | flowMappingEnd
  /-- The dash in front of an item. -/
  | item
  /-- The comma between items or entries. -/
  | comma
  /-- What follows is the key of an entry. -/
  | key
  /-- What follows is the value of an entry. -/
  | value
  /-- What follows is given a name. -/
  | anchor (name : String)
  /-- What was given a name, once more. -/
  | link (name : String)
  /-- What follows is of a sort. -/
  | tag (handle : Option String) (suffix : String)
  /-- A scalar by its characters; one without quotes is plain. -/
  | scalar (text : List Char) (plain : Bool)
  deriving DecidableEq, Repr

/-- A place where a key may have begun. -/
structure KeyMark where
  /-- How many tokens stand in front of it in the document. -/
  number : Nat
  index : Nat
  line : Nat
  column : Nat
  /-- Whether nothing but a key can stand there. -/
  required : Bool

/-- How far a document has been read. -/
structure Lexer where
  /-- The characters that have not been read.  Of a text that cannot be read to its end they stop
  in front of the block with the first bad character. -/
  rest : List Char
  /-- How many characters can be read in all. -/
  size : Nat
  /-- Whether the text goes on behind the characters. -/
  isCut : Bool
  index : Nat
  line : Nat
  column : Nat
  /-- The columns of the open block collections, innermost first. -/
  indents : List Nat
  /-- Whether a key or a block collection may begin here. -/
  keyAllowed : Bool
  /-- The mark of every open flow collection, innermost first, and last the one outside. -/
  marks : List (Option KeyMark)
  /-- The tokens that wait to be taken. -/
  tokens : List Token
  /-- How many tokens have been taken. -/
  taken : Nat
  /-- Whether all tokens have been read. -/
  done : Bool
  /-- How many steps are open. -/
  depth : Nat

/-- A step of reading. -/
abbrev Lex :=
  StateT Lexer (Except Fault)

/-- The step that finds the document malformed. -/
def malformed {α : Type} : Lex α :=
  throw .malformed

/-! ## Characters -/

/-- Whether a character ends a line. -/
def isBreak (c : Char) : Bool :=
  c == '\n' || c == '\r' || c == '\u0085' || c == '\u2028' || c == '\u2029'

/-- Whether a line ends here. -/
def endsLine : Option Char → Bool
  | none => true
  | some c => isBreak c

/-- Whether a space comes next, or the line ends here. -/
def endsPart (next : Option Char) : Bool :=
  endsLine next || next == some ' '

/-- Whether a space or a tab comes next, or the line ends here. -/
def endsWord (next : Option Char) : Bool :=
  endsPart next || next == some '\t'

/-- Whether a character may stand in a document. -/
def isReadable (c : Char) : Bool :=
  let code := c.toNat
  code == 0x9 || code == 0xA || code == 0xD || (0x20 ≤ code && code ≤ 0x7E) || code == 0x85 ||
    (0xA0 ≤ code && code ≤ 0xFFFD) || 0x10000 ≤ code

/-- Whether a character may stand in a name. -/
def isNameChar (c : Char) : Bool :=
  c.isAlphanum || c == '-' || c == '_'

/-- Whether the characters are three dashes or three points by themselves. -/
def atDocumentMark (cs : List Char) : Bool :=
  (cs.take 3 == ['-', '-', '-'] || cs.take 3 == ['.', '.', '.']) && endsWord cs[3]?

/-- The number of hexadecimal digits, all of which have to be there. -/
def hexNumber? (count : Nat) (cs : List Char) : Option Nat :=
  let digits := cs.take count
  if digits.length = count && digits.all (Number.isDigitOf 16) then
    some (Number.valueIn 16 digits)
  else none

/-! ## Room -/

/-- Finds out whether there is room for some more steps.  The last ones of them may be of certain
sorts, which are given from the very last one on; the others read a part. -/
def needRoom (steps : Nat) (sorts : List LastStep) : Lex Unit := do
  let needed := (← get).depth + steps
  if needed > stepLimit then throw (.tooDeep (sorts.getD (needed - stepLimit - 1) .reading))

/-- The last steps where a place is noted. -/
def notingPlace : List LastStep :=
  [.reading, .operation]

/-! ## Steps -/

/-- The lexer behind one character. -/
def Lexer.advance (s : Lexer) : Lexer :=
  match s.rest with
  | [] => s
  | c :: cs =>
    let s := { s with rest := cs, index := s.index + 1 }
    if isBreak c && !(c == '\r' && cs.head? == some '\n') then
      { s with line := s.line + 1, column := 0 }
    else if c == '\uFEFF' then s
    else { s with column := s.column + 1 }

/-- The lexer behind some characters. -/
def Lexer.skip (s : Lexer) : Nat → Lexer
  | 0 => s
  | n + 1 => s.advance.skip n

/-- Whether a flow collection is open. -/
def Lexer.inFlow (s : Lexer) : Bool :=
  s.marks.length > 1

/-- The least column of what belongs to the innermost block collection. -/
def Lexer.contentColumn (s : Lexer) : Nat :=
  match s.indents with
  | [] => 0
  | column :: _ => column + 1

/-- How many characters have not been read. -/
def Lexer.left (s : Lexer) : Nat :=
  s.size - s.index

/-- The next character. -/
def peek : Lex (Option Char) :=
  return (← get).rest.head?

/-- Passes over characters. -/
def skip (n : Nat) : Lex Unit :=
  modify fun s => s.skip n

/-- Passes over the characters that satisfy a test, and returns them. -/
def takeWhile (test : Char → Bool) : Lex (List Char) := do
  let taken := (← get).rest.takeWhile test
  skip taken.length
  return taken

/-- Passes over spaces. -/
def skipSpaces : Lex Unit := do
  let _ ← takeWhile (· == ' ')

/-- Passes over a comment. -/
def skipComment : Lex Unit := do
  if (← peek) == some '#' then
    let _ ← takeWhile fun c => !isBreak c

/-- Passes over the end of a line, and returns what it counts as in a text. -/
def takeBreak : Lex Char := do
  match (← get).rest with
  | '\r' :: '\n' :: _ => skip 2; return '\n'
  | c :: _ =>
    skip 1
    return if c == '\u2028' || c == '\u2029' then c else '\n'
  | [] => malformed

/-- Passes over what may stand behind a heading on its line: a comment and the end of the line. -/
def skipLineEnd : Lex Unit := do
  skipSpaces
  skipComment
  if !endsLine (← peek) then malformed
  if (← peek).isSome then
    let _ ← takeBreak

/-- What the first end of a line and those behind it count as in a text: a single one is a
blank. -/
def foldBreaks (first : Char) (others : List Char) : List Char :=
  if first != '\n' then first :: others else if others.isEmpty then [' '] else others

/-- The number of the next token that is read. -/
def Lexer.nextNumber (s : Lexer) : Nat :=
  s.taken + s.tokens.length

/-- The waiting tokens with one more in front of that with a number, or behind all of them. -/
def Lexer.insertToken (s : Lexer) (number : Nat) (token : Token) : Lexer :=
  let place := number - s.taken
  { s with tokens := s.tokens.take place ++ token :: s.tokens.drop place }

/-- Adds a token. -/
def emit (token : Token) : Lex Unit :=
  modify fun s => { s with tokens := s.tokens ++ [token] }

end SlashCommand.Document.Yaml
