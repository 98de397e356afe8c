import SlashCommand.Text.Blank
import SlashCommand.Text.Digit
import SlashCommand.Text.Quoted

/-!
# Numerals

Numbers as they are written in documents.  The digits may be those of any script, a single
underscore may stand between two of them, and blank characters at either end are passed over.

A whole number may be written in another base, with a prefix that tells the base.  One in base
ten may have no more than 4300 digits, because reading it takes time that grows faster than its
length.  A number with a point or an exponent stands for the nearest double-precision number.
-/

namespace SlashCommand.Number

/-- Why a text is no whole number. -/
inductive NumeralError where
  | invalid
  /-- There are more digits than are read. -/
  | tooLong (digits : Nat)
  deriving DecidableEq, Repr

/-- The most digits that are read of a number in base ten. -/
def digitLimit : Nat :=
  4300

/-- What is said of a text that is no whole number in a base; base zero is told by a prefix. -/
def NumeralError.message (error : NumeralError) (base : Nat) (text : List Char) : String :=
  match error with
  | invalid =>
    s!"invalid literal for int() with base {base}: " ++
      ((Text.quoted (String.ofList text)).take 200).toString
  | tooLong digits =>
    s!"Exceeds the limit ({digitLimit} digits) for integer string conversion: value has " ++
      s!"{digits} digits; use sys.set_int_max_str_digits() to increase the limit"

/-- Whether a character may stand around a numeral: the blank ones, but for the four separator
controls. -/
def isMargin (c : Char) : Bool :=
  Text.isBlank c && !('\x1C' ≤ c && c ≤ '\x1F')

/-- The characters of a numeral with digits of all scripts in the same form, and without margins.
-/
def normalize (cs : List Char) : List Char :=
  let inner := ((cs.dropWhile isMargin).reverse.dropWhile isMargin).reverse
  inner.map fun c =>
    match Text.digitValue? c with
    | some value => Char.ofNat ('0'.toNat + value)
    | none => c

/-- The value of a letter or digit as a digit of a large base. -/
def letterValue? (c : Char) : Option Nat :=
  if c.isDigit then some (c.toNat - '0'.toNat)
  else if 'a' ≤ c && c ≤ 'z' then some (c.toNat - 'a'.toNat + 10)
  else if 'A' ≤ c && c ≤ 'Z' then some (c.toNat - 'A'.toNat + 10)
  else none

/-- Whether a character is a digit of a base. -/
def isDigitOf (base : Nat) (c : Char) : Bool :=
  (letterValue? c).any (· < base)

/-- A sign and what stands behind it. -/
def splitSign : List Char → Bool × List Char
  | '-' :: cs => (true, cs)
  | '+' :: cs => (false, cs)
  | cs => (false, cs)

/-- The digits at the front, underscores between them left out, and the characters behind; none if
an underscore stands where none may. -/
def takeDigits? (base : Nat) : (behindDigit : Bool) → List Char → Option (List Char × List Char)
  | behindDigit, '_' :: c :: cs =>
    if behindDigit && isDigitOf base c then
      (takeDigits? base true cs).map fun (digits, rest) => (c :: digits, rest)
    else none
  | _, ['_'] => none
  | _, [] => some ([], [])
  | _, c :: cs =>
    if isDigitOf base c then
      (takeDigits? base true cs).map fun (digits, rest) => (c :: digits, rest)
    else some ([], c :: cs)

/-- The number that digits of a base stand for. -/
def valueIn (base : Nat) (digits : List Char) : Nat :=
  (digits.filterMap letterValue?).foldl (fun n digit => n * base + digit) 0

/-- The base that a prefix tells, and the digits behind it.  Without a prefix the base is ten. -/
def splitBase : List Char → Nat × List Char
  | '0' :: c :: cs =>
    if c == 'x' || c == 'X' then (16, afterPrefix cs)
    else if c == 'o' || c == 'O' then (8, afterPrefix cs)
    else if c == 'b' || c == 'B' then (2, afterPrefix cs)
    else (10, '0' :: c :: cs)
  | cs => (10, cs)
where
  afterPrefix : List Char → List Char
    | '_' :: cs => cs
    | cs => cs

/-- Reads digits of a base, to the end. -/
def readDigits (base : Nat) (cs : List Char) : Except NumeralError Nat :=
  match takeDigits? base false cs with
  | none => .error .invalid
  | some (digits, rest) =>
    if base = 10 && digits.length > digitLimit then .error (.tooLong digits.length)
    else if digits.isEmpty || !rest.isEmpty then .error .invalid
    else .ok (valueIn base digits)

/-- Reads a whole number in base ten. -/
def readDecimal (cs : List Char) : Except NumeralError Int := do
  let (negative, body) := splitSign (normalize cs)
  let size ← readDigits 10 body
  return if negative then -(size : Int) else size

/-- Reads a whole number in the base that its prefix tells.  In base ten only zero begins with a
zero. -/
def readPrefixed (cs : List Char) : Except NumeralError Int := do
  let (negative, body) := splitSign (normalize cs)
  let (base, digits) := splitBase body
  let size ← readDigits base digits
  if base = 10 && digits.head? = some '0' && size ≠ 0 then throw .invalid
  return if negative then -(size : Int) else size

/-- The prefixes that a number in a base other than ten may have. -/
def prefixesOf (base : Nat) : List Char :=
  if base = 16 then ['x', 'X'] else if base = 8 then ['o', 'O'] else if base = 2 then ['b', 'B']
  else []

/-- The digits of a number in a base, the prefix left out if there is one. -/
def withoutPrefix (base : Nat) : List Char → List Char
  | '0' :: c :: cs =>
    if (prefixesOf base).contains c then splitBase.afterPrefix cs else '0' :: c :: cs
  | cs => cs

/-- Reads a whole number in a given base. -/
def readInBase (base : Nat) (cs : List Char) : Except NumeralError Int := do
  let (negative, body) := splitSign (normalize cs)
  let size ← readDigits base (withoutPrefix base body)
  return if negative then -(size : Int) else size

/-- A power of ten beyond which there are only zero and the infinities. -/
def decimalRange : Int :=
  400

/-- The number that a decimal fraction stands for, given by its digits and its power of ten. -/
def ofDecimal (negative : Bool) (digits : Nat) (power : Int) : Float :=
  let count : Int := (Nat.toDigits 10 digits).length
  let size :=
    if digits = 0 || count + power < -decimalRange then 0.0
    else if count + power > decimalRange then 1.0 / 0.0
    else Float.ofScientific digits (power < 0) power.natAbs
  if negative then -size else size

/-- Reads a number with a point, an exponent, both or neither, or a word for an infinity or for no
number. -/
def readFloat? (cs : List Char) : Option Float := do
  let (negative, body) := splitSign (normalize cs)
  let word := String.ofList (body.map Char.toLower)
  let signed (x : Float) : Float := if negative then -x else x
  if word == "inf" || word == "infinity" then some (signed (1.0 / 0.0))
  else if word == "nan" then some (0.0 / 0.0)
  else
    let (whole, rest) ← takeDigits? 10 false body
    let (fraction, rest) ←
      match rest with
      | '.' :: rest => takeDigits? 10 false rest
      | rest => some ([], rest)
    if whole.isEmpty && fraction.isEmpty then none
    let (down, power) ←
      match rest with
      | [] => some (false, ['0'])
      | c :: rest =>
        if c == 'e' || c == 'E' then
          let (down, rest) := splitSign rest
          match takeDigits? 10 false rest with
          | some (digits, []) => if digits.isEmpty then none else some (down, digits)
          | _ => none
        else none
    let power : Int := if down then -(valueIn 10 power : Int) else valueIn 10 power
    some (ofDecimal negative (valueIn 10 (whole ++ fraction)) (power - fraction.length))

end SlashCommand.Number
