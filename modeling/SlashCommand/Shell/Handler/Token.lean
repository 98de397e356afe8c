import SlashCommand.Text.Digit
import SlashCommand.Text.Quoted

/-!
# The pieces of what a handler is given

Values are written as names, as numbers in several bases, and as texts in quotes of either kind,
one or three of them.  Between them stand brackets, commas and operators; what follows a `#` is
a comment.

Most mistakes in a piece are noticed wherever it stands, and some only by who reads up to it.
-/

namespace SlashCommand.Shell.Handler

/-- What is wrong with what a handler is given. -/
inductive Reason where
  | misplaced
  | missingComma
  | neverClosed (bracket : Char)
  | unmatched (bracket : Char)
  | mismatched (bracket opened : Char)
  | endlessText
  | endlessLongText
  | continuation
  | leadingZeros
  | number (base : String)
  | digit (found : Char) (base : String)
  | character (found : Char)
  | equality
  | assignedLiteral
  | assignedArgument
  deriving DecidableEq, Repr

/-- What is said where there is nothing more to say. -/
def invalid : String :=
  "invalid syntax"

/-- What is said of a character that may not stand anywhere. -/
def strangeCharacter (c : Char) : String :=
  let code := "U+" ++ (String.ofList (Text.hexDigits 4 c.toNat)).toUpper
  if Text.isPrintable c then s!"invalid character '{c}' ({code})"
  else s!"invalid non-printable character {code}"

/-- What is said of a mistake. -/
def Reason.message : Reason → String
  | misplaced => invalid
  | missingComma => invalid ++ ". Perhaps you forgot a comma?"
  | neverClosed bracket => s!"'{bracket}' was never closed"
  | unmatched bracket => s!"unmatched '{bracket}'"
  | mismatched bracket opened =>
    s!"closing parenthesis '{bracket}' does not match opening parenthesis '{opened}'"
  | endlessText => "unterminated string literal (detected at line 1)"
  | endlessLongText => "unterminated triple-quoted string literal (detected at line 1)"
  | continuation => "unexpected character after line continuation character"
  | leadingZeros =>
    "leading zeros in decimal integer literals are not permitted; " ++
      "use an 0o prefix for octal integers"
  | number base => s!"invalid {base} literal"
  | digit found base => s!"invalid digit '{found}' in {base} literal"
  | character found => strangeCharacter found
  | equality => invalid ++ ". Maybe you meant '==' or ':=' instead of '='?"
  | assignedLiteral => "cannot assign to literal here. Maybe you meant '==' instead of '='?"
  | assignedArgument => "expression cannot contain assignment, perhaps you meant \"==\"?"

/-- A piece of what a handler is given. -/
inductive Token where
  | name
  | number
  | text
  | opening (bracket : Char)
  | closing
  | comma
  | point
  | colon
  | assign
  /-- A sign or word that may stand in front of a value. -/
  | sign
  /-- A sign or word that stands between two values. -/
  | operator
  /-- A sign that may do both. -/
  | either
  /-- A sign that may also stand in front of a whole value. -/
  | star
  /-- What may not stand anywhere. -/
  | stray
  /-- A mistake that is noticed wherever it stands. -/
  | fault (reason : Reason)
  /-- A mistake that is noticed by who reads up to it. -/
  | stop (reason : Reason)
  deriving DecidableEq, Repr

/-! ## Numbers -/

/-- Whether a character may stand in a name, behind its start. -/
def isNameChar (c : Char) : Bool :=
  c.isAlphanum || c == '_' || 0x80 ≤ c.toNat

/-- The characters behind digits, which single underscores may part; at the start, whether a digit
stands in front. -/
def behindDigits (isDigit : Char → Bool) (reason : List Char → Reason) :
    (behindDigit : Bool) → List Char → Except Reason (List Char)
  | true, '_' :: cs => behindDigits isDigit reason false cs
  | behindDigit, c :: cs =>
    if isDigit c then behindDigits isDigit reason true cs
    else if behindDigit then .ok (c :: cs)
    else .error (reason (c :: cs))
  | behindDigit, [] => if behindDigit then .ok [] else .error (reason [])

/-- Whether the characters begin with a word that may follow a number at once. -/
def isFollower (cs : List Char) : Bool :=
  (["if", "in", "is"].any fun word => word.toList.isPrefixOf cs) ||
    ["and", "else", "for", "or"].any fun word =>
      word.toList.isPrefixOf cs && !(cs.drop word.length).head?.any isNameChar

/-- The characters behind a number, which may not go on like a name. -/
def endNumber (base : String) (cs : List Char) : Except Reason (List Char) :=
  if (cs.head?.any fun c => c.isAlphanum || c == '_') && !isFollower cs then
    .error (.number base)
  else .ok cs

/-- The characters behind a number in another base than ten, behind what announces it. -/
def behindPrefixed (base : String) (isDigit : Char → Bool) (cs : List Char) :
    Except Reason (List Char) := do
  let strange (cs : List Char) : Reason :=
    match cs with
    | c :: _ => if c.isDigit then .digit c base else .number base
    | [] => .number base
  let rest ← behindDigits isDigit strange false (if cs.head? = some '_' then cs.tail else cs)
  match rest with
  | c :: _ => if c.isDigit then throw (strange rest) else endNumber base rest
  | [] => return []

/-- The characters behind more digits of a decimal number. -/
def behindDecimals : (behindDigit : Bool) → List Char → Except Reason (List Char) :=
  behindDigits Char.isDigit fun _ => .number "decimal"

/-- The characters behind the exponent of a decimal number, if there is one, and its end. -/
def behindExponent (cs : List Char) : Except Reason (List Char) := do
  let finish (cs : List Char) : Except Reason (List Char) :=
    match cs with
    | c :: rest =>
      if c == 'j' || c == 'J' then endNumber "imaginary" rest else endNumber "decimal" cs
    | [] => .ok []
  match cs with
  | c :: rest =>
    if c != 'e' && c != 'E' then finish cs
    else match rest with
      | d :: digits =>
        if d == '+' || d == '-' then finish (← behindDecimals false digits)
        else if d.isDigit then finish (← behindDecimals true digits)
        else endNumber "decimal" cs
      | [] => endNumber "decimal" cs
  | [] => return []

/-- The characters behind the point of a decimal number. -/
def behindFraction (cs : List Char) : Except Reason (List Char) := do
  match cs with
  | c :: rest =>
    if c.isDigit then behindExponent (← behindDecimals true rest) else behindExponent cs
  | [] => return []

/-- The characters behind a number that begins with a digit. -/
def behindNumber : List Char → Except Reason (List Char)
  | '0' :: c :: cs => do
    if c == 'x' || c == 'X' then
      behindPrefixed "hexadecimal" (fun c => c.isDigit || ('a' ≤ c.toLower && c.toLower ≤ 'f')) cs
    else if c == 'o' || c == 'O' then
      behindPrefixed "octal" (fun c => '0' ≤ c && c ≤ '7') cs
    else if c == 'b' || c == 'B' then
      behindPrefixed "binary" (fun c => c == '0' || c == '1') cs
    else
      let digits := '0' :: c :: cs
      let rest ← behindDecimals false digits
      let read := digits.take (digits.length - rest.length)
      match rest with
      | '.' :: rest => behindFraction rest
      | d :: _ =>
        if read.any fun c => c != '0' && c != '_' then
          if "eEjJ".toList.contains d then behindExponent rest else throw .leadingZeros
        else behindExponent rest
      | [] => if read.any fun c => c != '0' && c != '_' then throw .leadingZeros else return []
  | cs => do
    match ← behindDecimals false cs with
    | '.' :: rest => behindFraction rest
    | rest => behindExponent rest

/-! ## Texts -/

/-- The characters behind the quote that ends a text on its line. -/
def behindText? (quote : Char) : List Char → Option (List Char)
  | [] => none
  | '\\' :: _ :: cs => behindText? quote cs
  | c :: cs => if c == quote then some cs else if c == '\n' then none else behindText? quote cs

/-- The characters behind the three quotes that end a text. -/
def behindLongText? (quote : Char) : List Char → Option (List Char)
  | [] => none
  | '\\' :: _ :: cs => behindLongText? quote cs
  | c :: cs =>
    if c == quote && cs.take 2 == [quote, quote] then some (cs.drop 2)
    else behindLongText? quote cs

/-- The characters behind a text, behind its first quote. -/
def endText (quote : Char) (cs : List Char) : Except Reason (List Char) :=
  if cs.take 2 == [quote, quote] then
    (behindLongText? quote (cs.drop 2)).elim (.error .endlessLongText) .ok
  else (behindText? quote cs).elim (.error .endlessText) .ok

/-- The words that may stand in front of the first quote of a text. -/
def textPrefixes : List String :=
  ["b", "u", "r", "f", "br", "rb", "fr", "rf"]

/-- The first quote of a text that the characters begin with, and those behind it. -/
def textStart? (cs : List Char) : Option (Char × List Char) :=
  let word := cs.takeWhile Char.isAlpha
  match cs.drop word.length with
  | c :: rest =>
    if (c == '\'' || c == '"') &&
        (word.isEmpty || textPrefixes.contains (String.ofList word).toLower) then
      some (c, rest)
    else none
  | [] => none

/-! ## Pieces -/

/-- The piece that a name is. -/
def wordToken (word : String) : Token :=
  if ["and", "or", "in", "is", "if", "else"].contains word then .operator
  else if word == "not" then .sign
  else if ["as", "assert", "async", "await", "break", "class", "continue", "def", "del", "elif",
      "except", "finally", "for", "from", "global", "import", "lambda", "nonlocal", "pass",
      "raise", "return", "try", "while", "with", "yield"].contains word then .stray
  else if ["None", "True", "False"].contains word then .number
  else .name

/-- The signs of several characters, longest first. -/
def longSigns : List (String × Token) :=
  [("...", .number)] ++
    (["**=", "//=", ">>=", "<<=", "!=", "%=", "&=", "*=", "+=", "-=", "->", "/=", ":=", "<>",
      "@=", "^=", "|="].map fun sign => (sign, if sign == "!=" then .operator else .stray)) ++
    ["**", "//", "<<", "<=", "==", ">=", ">>"].map fun sign => (sign, .operator)

/-- The piece that a sign of one character is. -/
def signToken (c : Char) : Token :=
  if c == ',' then .comma
  else if c == '.' then .point
  else if c == ':' then .colon
  else if c == '=' then .assign
  else if c == '~' then .sign
  else if c == '+' || c == '-' then .either
  else if c == '*' then .star
  else if "/%&|^<>@".toList.contains c then .operator
  else if c.toNat < 0x20 || c.toNat == 0x7F then .fault (.character c)
  else .stray

/-- The bracket that ends what another one begins. -/
def partner : Char → Char
  | '(' => ')'
  | '[' => ']'
  | _ => '\x7d'

/-- The last piece of all, by the brackets that are open, innermost first. -/
def ending : List Char → List Token
  | bracket :: _ => [.stop (.neverClosed bracket)]
  | [] => []

/-- Reads the pieces, with the brackets that are open, innermost first.  Nothing is read behind a
mistake.  The number bounds the characters. -/
def tokens (opened : List Char) : Nat → List Char → List Token
  | 0, _ => []
  | _, [] => ending opened
  | fuel + 1, c :: cs =>
    let after (token : Token) : Except Reason (List Char) → List Token
      | .ok rest => token :: tokens opened fuel rest
      | .error reason => [.fault reason]
    if c == ' ' || c == '\t' || (c == '\n' && !opened.isEmpty) then tokens opened fuel cs
    else if c == '#' then tokens opened fuel (cs.dropWhile (· != '\n'))
    else if c == '\\' then [.stop .continuation]
    else if c == '(' || c == '[' || c == '\x7b' then
      .opening c :: tokens (c :: opened) fuel cs
    else if c == ')' || c == ']' || c == '\x7d' then
      match opened with
      | [] => [.fault (.unmatched c)]
      | bracket :: opened =>
        if partner bracket == c then .closing :: tokens opened fuel cs
        else [.fault (.mismatched c bracket)]
    else if c.isDigit then after .number (behindNumber (c :: cs))
    else if c == '.' && cs.head?.any Char.isDigit then after .number (behindFraction cs)
    else match textStart? (c :: cs) with
      | some (quote, rest) => after .text (endText quote rest)
      | none =>
        if isNameChar c then
          let word := (c :: cs).takeWhile isNameChar
          match word.find? fun c => !(Text.isAlphanumeric c || c == '_') with
          | some strange => [.fault (.character strange)]
          | none => after (wordToken (String.ofList word)) (.ok ((c :: cs).drop word.length))
        else
          match longSigns.find? fun (sign, _) => sign.toList.isPrefixOf (c :: cs) with
          | some (sign, token) => after token (.ok ((c :: cs).drop sign.length))
          | none =>
            match signToken c with
            | .fault reason => [.fault reason]
            | token => after token (.ok cs)

end SlashCommand.Shell.Handler
