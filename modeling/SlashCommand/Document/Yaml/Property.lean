import SlashCommand.Document.Yaml.Lexer

/-!
# Names, tags and directives

Readers of what stands around the values of a document: the names that values are given and
called by, the tags that tell their sorts, and the lines in front of a document that begin with a
percent sign.
-/

namespace SlashCommand.Document.Yaml

/-- Reads a name. -/
def readName : Lex String := do
  let name ← takeWhile isNameChar
  if name.isEmpty then malformed
  return String.ofList name

/-- Reads the name behind its mark. -/
def readAnchorName : Lex String := do
  skip 1
  let name ← readName
  let next ← peek
  if !endsWord next && !next.any "?:,]\x7d%@\x60".toList.contains then malformed
  return name

/-! ## Tags -/

/-- Whether a character may stand in a tag. -/
def isTagChar (c : Char) : Bool :=
  c.isAlphanum || "-;/?:@&=+$,_.!~*'()[]".toList.contains c

/-- Reads bytes that are given by numbers behind percent signs. -/
def readEscapedBytes (bytes : List UInt8) : Nat → Lex (List UInt8)
  | 0 => return bytes
  | fuel + 1 => do
    match (← get).rest with
    | '%' :: cs =>
      match hexNumber? 2 cs with
      | some byte =>
        skip 3
        readEscapedBytes (bytes ++ [byte.toUInt8]) fuel
      | none => malformed
    | _ => return bytes

/-- Reads the characters of a tag. -/
def readTagText (text : List Char) : Nat → Lex (List Char)
  | 0 => return text
  | fuel + 1 => do
    let plain ← takeWhile isTagChar
    if (← peek) == some '%' then
      needRoom 8 notingPlace
      let bytes ← readEscapedBytes [] ((← get).left + 1)
      match String.fromUTF8? (ByteArray.mk bytes.toArray) with
      | some escaped => readTagText (text ++ plain ++ escaped.toList) fuel
      | none => malformed
    else return text ++ plain

/-- Reads a tag, or the part of it behind its handle. -/
def readTagSuffix : Lex String := do
  let start := (← get).left
  let text ← readTagText [] (start + 1)
  if (← get).left = start then malformed
  return String.ofList text

/-- Reads the handle of tags: a name between exclamation marks, or one such mark alone. -/
def readHandle : Lex String := do
  if (← peek) != some '!' then malformed
  skip 1
  if (← peek) == some ' ' then return "!"
  let name ← takeWhile isNameChar
  if (← peek) != some '!' then malformed
  skip 1
  return String.ofList ('!' :: name ++ ['!'])

/-- Whether a tag is written with a handle of more than one mark. -/
def hasHandle : List Char → Bool
  | [] => false
  | c :: cs => !endsPart (some c) && (c == '!' || hasHandle cs)

/-- Reads a tag. -/
def readTag : Lex Token := do
  let rest := (← get).rest
  let next := rest[1]?
  let tag ←
    if next == some '<' then
      skip 2
      let suffix ← readTagSuffix
      if (← peek) != some '>' then malformed
      skip 1
      pure (Token.tag none suffix)
    else if endsWord next then
      skip 1
      pure (Token.tag none "!")
    else if hasHandle (rest.drop 1) then
      let handle ← readHandle
      pure (Token.tag (some handle) (← readTagSuffix))
    else
      skip 1
      pure (Token.tag (some "!") (← readTagSuffix))
  if !endsPart (← peek) then malformed
  return tag

/-! ## Directives -/

/-- Reads a number of a version. -/
def readVersionNumber : Lex Nat := do
  let digits ← takeWhile Char.isDigit
  if digits.isEmpty then malformed
  match Number.readDigits 10 digits with
  | .ok number => return number
  | .error error => throw (.notWhole error 10 (String.ofList digits))

/-- Reads the version of the notation. -/
def readVersion : Lex Token := do
  skipSpaces
  let major ← readVersionNumber
  if (← peek) != some '.' then malformed
  skip 1
  let _ ← readVersionNumber
  if !endsPart (← peek) then malformed
  return .version major

/-- Reads what a handle stands for. -/
def readHandleExpansion : Lex Token := do
  skipSpaces
  let handle ← readHandle
  if (← peek) != some ' ' then malformed
  skipSpaces
  let expansion ← readTagSuffix
  if !endsPart (← peek) then malformed
  return .handle handle expansion

/-- Reads a directive and the rest of its line. -/
def readDirective : Lex Token := do
  skip 1
  let name ← readName
  if !endsPart (← peek) then malformed
  let token ←
    if name == "YAML" then readVersion
    else if name == "TAG" then readHandleExpansion
    else
      let _ ← takeWhile fun c => !isBreak c
      pure .directive
  skipLineEnd
  return token

end SlashCommand.Document.Yaml
