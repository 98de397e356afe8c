import SlashCommand.Number.Numeral
import SlashCommand.Text.Split

/-!
# The sorts of YAML scalars

Every value of a document is of a sort, which is told by a tag.  Where no tag is written, the
sort of a plain scalar is told by its spelling.  The spellings are those of YAML 1.1: `yes` and
`off` are truth values, a number may have underscores among its digits, a leading zero makes it
octal, colons make it sexagesimal, and four digits, a dash, two digits, a dash and two digits are
a date.
-/

namespace SlashCommand.Document.Yaml

/-- The sort of a value. -/
inductive Tag where
  | null
  | bool
  | int
  | float
  | binary
  | timestamp
  | text
  | sequence
  | mapping
  /-- A mapping in which no key has a value of its own. -/
  | set
  /-- Entries in an order, as a list of pairs. -/
  | pairs
  /-- The key under which a mapping takes over the entries of others. -/
  | merge
  /-- The key under which a mapping has its own value. -/
  | own
  /-- A sort that is not known here. -/
  | unknown
  deriving DecidableEq, Repr

/-- What the known tags begin with. -/
def standardTags : String :=
  "tag:yaml.org,2002:"

/-- The tags by their names. -/
def tagNames : List (String × Tag) :=
  [("null", .null), ("bool", .bool), ("int", .int), ("float", .float), ("binary", .binary),
    ("timestamp", .timestamp), ("str", .text), ("seq", .sequence), ("map", .mapping),
    ("set", .set), ("omap", .pairs), ("pairs", .pairs), ("merge", .merge), ("value", .own)]

/-- The sort that a tag tells. -/
def Tag.ofName (name : String) : Tag :=
  if standardTags.toList.isPrefixOf name.toList then
    (tagNames.lookup (name.drop standardTags.length).toString).getD unknown
  else unknown

/-! ## Spellings -/

/-- Whether a character is a digit of a base or an underscore. -/
def isSpacedDigit (base : Nat) (c : Char) : Bool :=
  c == '_' || Number.isDigitOf base c

/-- Whether the characters are digits, with underscores among them. -/
def areSpacedDigits (base : Nat) (cs : List Char) : Bool :=
  !cs.isEmpty && cs.all (isSpacedDigit base)

/-- Whether the characters spell a number between 0 and 59 on one or two digits. -/
def isSixtieth : List Char → Bool
  | [c] => c.isDigit
  | [c, d] => '0' ≤ c && c ≤ '5' && d.isDigit
  | _ => false

/-- Whether the characters spell a natural number. -/
def isNatural (cs : List Char) : Bool :=
  match cs with
  | '0' :: 'b' :: ds => areSpacedDigits 2 ds
  | '0' :: 'x' :: ds => areSpacedDigits 16 ds
  | '0' :: ds => ds.all (isSpacedDigit 8)
  | c :: _ =>
    c.isDigit &&
      match Text.pieces ':' cs with
      | first :: rest => areSpacedDigits 10 first && rest.all isSixtieth
      | [] => false
  | [] => false

/-- Whether the characters are nothing or an exponent, which has to have a sign. -/
def isExponent : List Char → Bool
  | [] => true
  | e :: sign :: ds =>
    (e == 'e' || e == 'E') && (sign == '-' || sign == '+') && !ds.isEmpty && ds.all Char.isDigit
  | _ => false

/-- Whether the characters spell a number with a point, or one of the words for an infinity and
for what is no number. -/
def isFraction (cs : List Char) : Bool :=
  let (_, body) := Number.splitSign cs
  if [".inf", ".Inf", ".INF"].contains (String.ofList body) then true
  else if [".nan", ".NaN", ".NAN"].contains (String.ofList cs) then true
  else
    let whole := body.takeWhile fun c => c != '.'
    match body.drop whole.length with
    | [] => false
    | _ :: tail =>
      let fraction := tail.takeWhile (isSpacedDigit 10)
      let rest := tail.drop fraction.length
      match whole with
      | [] => body.length = cs.length && fraction.head?.any Char.isDigit && isExponent rest
      | c :: _ =>
        c.isDigit &&
          match Text.pieces ':' whole with
          | first :: sixtieths =>
            first.all (isSpacedDigit 10) && sixtieths.all isSixtieth &&
              (if sixtieths.isEmpty then isExponent rest else rest.isEmpty)
          | [] => false

/-! ## Moments -/

/-- A moment as it is written: the digits of every part. -/
structure WrittenMoment where
  year : List Char
  month : List Char
  day : List Char
  /-- Hour, minute, second and the part of a second. -/
  time : Option (List Char × List Char × List Char × List Char)
  /-- How far clocks are ahead, if that is said: the hours and minutes, and whether they are
  behind instead.  There are no digits where universal time is meant. -/
  zone : Option (Bool × List Char × List Char)

/-- Takes between `least` and `most` digits from the front. -/
def digitsAt? (least most : Nat) (cs : List Char) : Option (List Char × List Char) :=
  let digits := (cs.take most).takeWhile Char.isDigit
  if digits.length < least then none else some (digits, cs.drop digits.length)

/-- Takes a character from the front. -/
def charAt? (c : Char) : List Char → Option (List Char)
  | d :: cs => if c == d then some cs else none
  | [] => none

/-- Whether a character is a space or a tab. -/
def isSpaceOrTab (c : Char) : Bool :=
  c == ' ' || c == '\t'

/-- Reads a zone. -/
def writtenZone? (cs : List Char) : Option (Bool × List Char × List Char) := do
  match cs with
  | ['Z'] => some (false, [], [])
  | sign :: cs =>
    if sign != '+' && sign != '-' then none
    let (hour, rest) ← digitsAt? 1 2 cs
    if rest.isEmpty then some (sign == '-', hour, [])
    else
      let (minute, rest) ← digitsAt? 2 2 (← charAt? ':' rest)
      if rest.isEmpty then some (sign == '-', hour, minute) else none
  | [] => none

/-- What stands between a date and the time behind it is left out: a letter, or spaces. -/
def behindDate? : List Char → Option (List Char)
  | [] => none
  | c :: cs =>
    if c == 'T' || c == 't' then some cs
    else if isSpaceOrTab c then some (cs.dropWhile isSpaceOrTab)
    else none

/-- Reads a moment: a date, and behind it perhaps a time and a zone. -/
def writtenMoment? (cs : List Char) : Option WrittenMoment := do
  let (year, rest) ← digitsAt? 4 4 cs
  let (month, rest) ← digitsAt? 1 2 (← charAt? '-' rest)
  let (day, rest) ← digitsAt? 1 2 (← charAt? '-' rest)
  if rest.isEmpty then return ⟨year, month, day, none, none⟩
  let (hour, rest) ← digitsAt? 1 2 (← behindDate? rest)
  let (minute, rest) ← digitsAt? 2 2 (← charAt? ':' rest)
  let (second, rest) ← digitsAt? 2 2 (← charAt? ':' rest)
  let tail := (charAt? '.' rest).getD rest
  let fraction := if (charAt? '.' rest).isSome then tail.takeWhile Char.isDigit else []
  let time := (hour, minute, second, fraction)
  let rest := tail.drop fraction.length
  if rest.isEmpty then return ⟨year, month, day, some time, none⟩
  return ⟨year, month, day, some time, some (← writtenZone? (rest.dropWhile isSpaceOrTab))⟩

/-- Whether the characters spell a moment.  A date without a time has two digits for the month
and the day. -/
def isMoment (cs : List Char) : Bool :=
  (writtenMoment? cs).any fun moment =>
    moment.time.isSome || (moment.month.length = 2 && moment.day.length = 2)

/-! ## The sort of a scalar -/

/-- The sort of a scalar by its spelling. -/
def Tag.ofSpelling (cs : List Char) : Tag :=
  let word := String.ofList cs
  if ["", "~", "null", "Null", "NULL"].contains word then null
  else if ["yes", "Yes", "YES", "no", "No", "NO", "true", "True", "TRUE", "false", "False",
      "FALSE", "on", "On", "ON", "off", "Off", "OFF"].contains word then bool
  else if word == "<<" then merge
  else if word == "=" then own
  else if isFraction cs then float
  else if isNatural (Number.splitSign cs).2 then int
  else if isMoment cs then timestamp
  else text

/-- The sort of a scalar that is written with the mark of no sort at all.  One end of a line
behind the spelling of a sort is passed over. -/
def Tag.ofMarked (cs : List Char) : Tag :=
  match cs.reverse with
  | '\n' :: c :: before => ofSpelling (c :: before).reverse
  | _ => ofSpelling cs

end SlashCommand.Document.Yaml
