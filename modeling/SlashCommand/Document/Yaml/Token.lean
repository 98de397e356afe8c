import SlashCommand.Document.Yaml.Property
import SlashCommand.Document.Yaml.Scalar

/-!
# Tokens of a YAML document

A document is read into tokens.  Indentation is made explicit on the way, with a token where a
block collection begins and one where it ends, so that what reads the tokens has no use for
columns.

The mark of a key lasts until the end of its line; in a block collection, where nothing but a key
can stand at the column of the keys, a mark that lapses is an error.

Tokens are read when they are asked for, and no further than it takes to know the next one: of two
mistakes the one that is met first counts.
-/

namespace SlashCommand.Document.Yaml

/-! ## Keys and indentation -/

/-- Drops the innermost mark. -/
def dropMark : Lex Unit := do
  let s ← get
  match s.marks with
  | some mark :: marks =>
    if mark.required then malformed
    set { s with marks := none :: marks }
  | _ => return

/-- The last steps where a key may begin.  In a block collection its column is compared to that of
the keys. -/
def Lexer.notingKey (s : Lexer) : List LastStep :=
  if s.inFlow then notingPlace else notingPlace ++ [.comparison]

/-- Remembers this place as one where a key may begin. -/
def setMark : Lex Unit := do
  let s ← get
  if s.keyAllowed then
    dropMark
    let required := !s.inFlow && s.indents.head? == some s.column
    let mark : KeyMark := ⟨s.nextNumber, s.index, s.line, s.column, required⟩
    modify fun s => { s with marks := some mark :: s.marks.drop 1 }

/-- Drops the marks that have lapsed. -/
def dropLapsedMarks : Lex Unit := do
  let s ← get
  let lapsed (mark : KeyMark) : Bool := mark.line != s.line || s.index - mark.index > 1024
  let lapsedAtRequired (place : Option KeyMark) : Bool :=
    place.any fun mark => lapsed mark && mark.required
  if s.marks.any lapsedAtRequired then malformed
  set { s with marks := s.marks.map (Option.filter fun mark => !lapsed mark) }

/-- Ends the block collections that are indented further than a column.  In a flow collection
indentation has no meaning. -/
def closeBlocks (column? : Option Nat) : Lex Unit := do
  let s ← get
  if !s.inFlow then
    let isInner (indent : Nat) : Bool := column?.all fun column => column < indent
    let inner := s.indents.takeWhile isInner
    if !inner.isEmpty then needRoom 5 []
    set { s with
      indents := s.indents.drop inner.length
      tokens := s.tokens ++ inner.map fun _ => Token.blockEnd }

/-- Begins a block collection at a column, unless the innermost one begins there or further to
the right; its token is put in front of that with a number. -/
def openBlock (column number : Nat) (token : Token) : Lex Unit := do
  let s ← get
  if s.contentColumn ≤ column then
    set { s.insertToken number token with indents := column :: s.indents }

/-- Allows or forbids keys from here on. -/
def allowKey (allowed : Bool) : Lex Unit :=
  modify fun s => { s with keyAllowed := allowed }

/-- Passes over blanks, comments and ends of lines. -/
def skipSpace : Nat → Lex Unit
  | 0 => return
  | fuel + 1 => do
    skipSpaces
    skipComment
    if (← peek).any isBreak then
      let _ ← takeBreak
      modify fun s => if s.inFlow then s else { s with keyAllowed := true }
      skipSpace fuel

/-! ## Tokens -/

/-- Begins a flow collection. -/
def openFlow (token : Token) : Lex Unit := do
  let s ← get
  if s.keyAllowed then needRoom 7 s.notingKey
  else needRoom 6 (if s.inFlow then notingPlace else [.reading, .comparison])
  setMark
  skip 1
  emit token
  modify fun s => { s with marks := none :: s.marks, keyAllowed := true }

/-- Ends a flow collection. -/
def closeFlow (token : Token) : Lex Unit := do
  needRoom 6 notingPlace
  if !(← get).inFlow then malformed
  dropMark
  skip 1
  emit token
  modify fun s => { s with marks := s.marks.drop 1, keyAllowed := false }

/-- Reads the comma behind an item or an entry. -/
def readComma : Lex Unit := do
  needRoom 5 []
  dropMark
  skip 1
  emit .comma
  allowKey true

/-- Reads the dash in front of an item. -/
def readItem : Lex Unit := do
  needRoom 5 []
  let s ← get
  if !s.inFlow then
    if !s.keyAllowed then malformed
    openBlock s.column s.nextNumber .blockSequence
  dropMark
  skip 1
  emit .item
  allowKey true

/-- Reads the question mark in front of a key. -/
def readKey : Lex Unit := do
  needRoom 5 []
  let s ← get
  if !s.inFlow then
    if !s.keyAllowed then malformed
    openBlock s.column s.nextNumber .blockMapping
  dropMark
  skip 1
  emit .key
  allowKey (!s.inFlow)

/-- Reads the colon in front of a value.  If a key may have begun before it, it did. -/
def readValue : Lex Unit := do
  needRoom 5 []
  let s ← get
  match s.marks with
  | some mark :: marks =>
    set { s.insertToken mark.number .key with
      marks := none :: marks
      keyAllowed := false }
    if !s.inFlow then openBlock mark.column mark.number .blockMapping
  | _ =>
    if !s.inFlow then
      if !s.keyAllowed then malformed
      openBlock s.column s.nextNumber .blockMapping
    allowKey (!s.inFlow)
  skip 1
  emit .value

/-- Reads a token that may begin a key, and behind which none may begin. -/
def readAtKey (steps : Nat) (read : Lex Token) : Lex Unit := do
  needRoom steps (← get).notingKey
  setMark
  allowKey false
  emit (← read)

/-- Reads a quoted scalar. -/
def readQuoted (quote : Char) : Lex Token := do
  skip 1
  return .scalar (← quotedText quote [] ((← get).left + 1)) false

/-- Reads a plain scalar.  The end of the last line takes a step more. -/
def readPlain : Lex Token := do
  let before ← get
  let text ← plainText [] [] (before.left + 1)
  let after ← get
  if after.rest.isEmpty && before.rest.getLast?.any isBreak then needRoom 7 []
  return .scalar text true

/-- Reads a block scalar, behind which a key may begin. -/
def readBlock (folded : Bool) : Lex Unit := do
  needRoom 7 notingPlace
  allowKey true
  dropMark
  emit (.scalar (← blockText folded) false)

/-- Reads what stands by itself on a line between documents or in front of them. -/
def readOutside (read : Lex Token) : Lex Unit := do
  needRoom 6 notingPlace
  closeBlocks none
  dropMark
  allowKey false
  emit (← read)

/-- Reads three dashes or points. -/
def readDocumentMark (token : Token) : Lex Token := do
  skip 3
  return token

/-- Whether a plain scalar begins here. -/
def startsPlain (inFlow : Bool) (c : Char) (next : Option Char) : Bool :=
  !endsWord (some c) && !"-?:,[]\x7b\x7d#&*!|>'\"%@\x60".toList.contains c ||
    (!endsWord next && (c == '-' || (!inFlow && (c == '?' || c == ':'))))

/-- Reads the token that begins with a character. -/
def readToken (c : Char) (next : Option Char) : Lex Unit := do
  let s ← get
  if s.column = 0 && c == '%' then readOutside readDirective
  else if s.column = 0 && atDocumentMark s.rest then
    readOutside (readDocumentMark (if c == '-' then .documentStart else .documentEnd))
  else if c == '[' then openFlow .flowSequence
  else if c == '\x7b' then openFlow .flowMapping
  else if c == ']' then closeFlow .flowSequenceEnd
  else if c == '\x7d' then closeFlow .flowMappingEnd
  else if c == ',' then readComma
  else if c == '-' && endsWord next then readItem
  else if c == '?' && (s.inFlow || endsWord next) then readKey
  else if c == ':' && (s.inFlow || endsWord next) then readValue
  else if c == '*' then readAtKey 6 (return .link (← readAnchorName))
  else if c == '&' then readAtKey 6 (return .anchor (← readAnchorName))
  else if c == '!' then readAtKey 6 readTag
  else if (c == '|' || c == '>') && !s.inFlow then readBlock (c == '>')
  else if c == '\'' || c == '"' then readAtKey 7 (readQuoted c)
  else if startsPlain s.inFlow c next then readAtKey 6 readPlain
  else malformed

/-- Reads the next token, and those that come with it. -/
def readNext : Lex Unit := do
  let s ← get
  skipSpace (s.left + 1)
  dropLapsedMarks
  closeBlocks (some (← get).column)
  match (← get).rest with
  | [] =>
    if s.isCut then malformed
    let s ← get
    if s.inFlow || s.indents.isEmpty then needRoom 5 [] else needRoom 6 notingPlace
    closeBlocks none
    dropMark
    modify fun s => { s with done := true }
  | c :: cs =>
    readToken c cs.head?
    if s.isCut && (← get).rest.isEmpty then malformed

/-- Whether a key may begin at the next token. -/
def Lexer.mayBeKey (s : Lexer) : Bool :=
  s.marks.any fun place => place.any fun mark => mark.number == s.taken

/-- Reads on until the next token is known. -/
def awaitToken : Nat → Lex Unit
  | 0 => return
  | fuel + 1 => do
    let s ← get
    if s.done then needRoom 1 []
    else if s.tokens.isEmpty then
      readNext
      awaitToken fuel
    else
      needRoom 2 []
      dropLapsedMarks
      if (← get).mayBeKey then
        readNext
        awaitToken fuel

/-- The next token, asked for at a depth.  There is none behind the end of a document. -/
def nextToken? (depth : Nat) : Lex (Option Token) := do
  modify fun s => { s with depth }
  awaitToken ((← get).left + 2)
  return (← get).tokens.head?

/-- Passes over the next token. -/
def dropToken : Lex Unit :=
  modify fun s => { s with tokens := s.tokens.drop 1, taken := s.taken + 1 }

/-! ## Texts -/

/-- The characters in front of the block with the first one that may not stand in a document.
The first block is twice as long as the others. -/
def readablePart (characters : List Char) : List Char :=
  let good := (characters.takeWhile isReadable).length
  if good = characters.length then characters
  else characters.take (if good < 8192 then 0 else good - good % 4096)

/-- A text that has not been read.  A mark of the order of its bytes may stand in front. -/
def Lexer.ofText (text : String) : Lexer :=
  let characters := text.toList
  let rest := readablePart characters
  let size := rest.length
  let start : Lexer :=
    ⟨rest, size, size < characters.length, 0, 0, 0, [], true, [none], [], 0, false, 0⟩
  if rest.head? = some '\uFEFF' then start.advance else start

end SlashCommand.Document.Yaml
