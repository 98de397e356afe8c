import SlashCommand.Document.Value
import SlashCommand.Document.Yaml.Fault
import SlashCommand.Document.Yaml.Tag
import SlashCommand.Text.Lowercase

/-!
# What YAML scalars mean

The value of a scalar of a known sort.  Where the sort is told by the spelling there is always a
number or a truth value, though not always a moment; a tag may promise anything.
-/

namespace SlashCommand.Document.Yaml

/-- The parts of a sexagesimal number, added up: the last one counts once, and every one before it
sixty times as much. -/
def addSixtieths {α : Type} (nothing : α) (add : α → α → Nat → α) (parts : List α) : α :=
  (parts.foldr (fun part (sum, unit) => (add sum part unit, unit * 60)) (nothing, 1)).1

/-- A whole number in a base. -/
def readWhole (base : Nat) (cs : List Char) : Except Fault Int :=
  let number := if base = 10 then Number.readDecimal cs else Number.readInBase base cs
  number.mapError fun error => .notWhole error base (String.ofList cs)

/-- A sign in front of a number, which is the first of its characters. -/
def takeSign : List Char → Except Fault (Bool × List Char)
  | [] => .error .emptyNumber
  | cs => .ok (Number.splitSign cs)

/-- The whole number that a text is. -/
def readInt (cs : List Char) : Except Fault Int := do
  let (negative, body) ← takeSign (cs.filter (· != '_'))
  let size ←
    match body with
    | [] => .error .emptyNumber
    | ['0'] => .ok 0
    | '0' :: 'b' :: digits => readWhole 2 digits
    | '0' :: 'x' :: digits => readWhole 16 digits
    | '0' :: _ => readWhole 8 body
    | _ =>
      if body.contains ':' then
        let add (sum part : Int) (unit : Nat) : Int := sum + part * unit
        addSixtieths 0 add <$> (Text.pieces ':' body).mapM (readWhole 10)
      else readWhole 10 body
  return if negative then -size else size

/-- A number with a point. -/
def readFraction (cs : List Char) : Except Fault Float :=
  match Number.readFloat? cs with
  | some x => .ok x
  | none => .error (.notNumber (String.ofList cs))

/-- How many parts a sexagesimal number with a point may have: the first one counts a power of
sixty, which has to be a double-precision number. -/
def mostSixtieths : Nat :=
  174

/-- The sign of a number with a point, and the rest of it in lowercase and without underscores. -/
def floatParts (cs : List Char) : Except Fault (Bool × List Char) :=
  takeSign (Text.lowercaseChars (cs.filter (· != '_')))

/-- Whether the characters are the word for what is no number. -/
def spellsNoNumber (cs : List Char) : Bool :=
  match floatParts cs with
  | .ok (_, body) => body == ".nan".toList
  | .error _ => false

/-- The number with a point that a text is. -/
def readFloat (cs : List Char) : Except Fault Float := do
  let (negative, body) ← floatParts cs
  let signed (x : Float) : Float := if negative then -x else x
  if body == ".inf".toList then return signed (1.0 / 0.0)
  else if body == ".nan".toList then return 0.0 / 0.0
  else if body.contains ':' then
    let add (sum part : Float) (unit : Nat) : Float := sum + part * Float.ofNat unit
    let parts ← (Text.pieces ':' body).mapM readFraction
    if parts.length > mostSixtieths then throw .hugePart
    return signed (addSixtieths 0.0 add parts)
  else return signed (← readFraction body)

/-- The truth values of words in lowercase. -/
def truths : List (String × Bool) :=
  [("yes", true), ("no", false), ("true", true), ("false", false), ("on", true), ("off", false)]

/-- The truth value that a text is. -/
def readTruth (cs : List Char) : Except Fault Bool :=
  let word := String.ofList (Text.lowercaseChars cs)
  match truths.lookup word with
  | some truth => .ok truth
  | none => .error (.notTruth word)

/-! ## Bytes -/

/-- The value of a character that stands for six bits. -/
def sixBits? (c : Char) : Option Nat :=
  if 'A' ≤ c && c ≤ 'Z' then some (c.toNat - 'A'.toNat)
  else if 'a' ≤ c && c ≤ 'z' then some (c.toNat - 'a'.toNat + 26)
  else if c.isDigit then some (c.toNat - '0'.toNat + 52)
  else if c == '+' then some 62
  else if c == '/' then some 63
  else none

/-- The bytes of characters that stand for six bits each.  There are `count` characters of a group
of four before the first one, the last of them with bits that are left over, and `pads` equality
signs directly before it; such signs end the text where they fill up a group.  Other characters
are passed over. -/
def bytesOf? (count leftover pads : Nat) : List Char → Option (List UInt8)
  | [] => if count = 0 then some [] else none
  | c :: cs =>
    if c == '=' then
      if 2 ≤ count then
        if 4 ≤ count + pads + 1 then some [] else bytesOf? count leftover (pads + 1) cs
      else bytesOf? count leftover pads cs
    else match sixBits? c, count with
      | none, _ => bytesOf? count leftover pads cs
      | some bits, 0 => bytesOf? 1 bits 0 cs
      | some bits, 1 =>
        (bytesOf? 2 (bits % 16) 0 cs).map ((leftover * 4 + bits / 16).toUInt8 :: ·)
      | some bits, 2 =>
        (bytesOf? 3 (bits % 4) 0 cs).map ((leftover * 16 + bits / 4).toUInt8 :: ·)
      | some bits, _ => (bytesOf? 0 0 0 cs).map ((leftover * 64 + bits).toUInt8 :: ·)

/-- The bytes that a text stands for. -/
def readBytes (cs : List Char) : Except Fault (List UInt8) :=
  if cs.all (·.toNat < 0x80) then
    match bytesOf? 0 0 0 cs with
    | some bytes => .ok bytes
    | none => .error .malformed
  else .error .malformed

/-! ## Moments -/

/-- The zone that is written behind a time.  The hours stand first; clocks may be behind. -/
def WrittenMoment.readZone (moment : WrittenMoment) : Except Fault (Option Zone) :=
  match moment.zone with
  | none => .ok none
  | some (_, [], _) => .ok (some .universal)
  | some (isBehind, hour, minute) =>
    let seconds : Int := Number.valueIn 10 hour * 3600 + Number.valueIn 10 minute * 60
    (some <$> Zone.ofSeconds (if isBehind then -seconds else seconds)).mapError .noMoment

/-- The date or the moment that a text is. -/
def readMoment (cs : List Char) : Except Fault Value := do
  let cs := if cs.getLast? = some '\n' then cs.dropLast else cs
  let number (digits : List Char) : Int := Number.valueIn 10 digits
  match writtenMoment? cs with
  | none => throw .notMoment
  | some moment =>
    let zone ← moment.readZone
    let date ← (Date.ofNumbers (number moment.year) (number moment.month)
      (number moment.day)).mapError .noMoment
    match moment.time with
    | none => return .date date
    | some (hour, minute, second, fraction) =>
      let micro := number ((fraction ++ List.replicate 6 '0').take 6)
      let clock ← (Clock.ofNumbers (number hour) (number minute) (number second)
        micro).mapError .noMoment
      return .dateTime date clock zone

/-! ## Scalars -/

/-- The value of a scalar. -/
def scalarValue (tag : Tag) (cs : List Char) : Except Fault Value :=
  match tag with
  | .null => .ok .null
  | .bool => Value.bool <$> readTruth cs
  | .int => Value.int <$> readInt cs
  | .float => Value.float <$> readFloat cs
  | .binary => Value.binary <$> readBytes cs
  | .timestamp => readMoment cs
  | .text => .ok (.string (String.ofList cs))
  | _ => .error .malformed

end SlashCommand.Document.Yaml
