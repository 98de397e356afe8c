import SlashCommand.Number.Nearest
import SlashCommand.Document.Toml.Text

/-!
# Numbers, truth values and moments of a TOML document

What stands without quotes is a truth value, a time, a date, or else a number.
-/

namespace SlashCommand.Document.Toml

/-- Whether a number is written with all underscores and zeros in places where they may stand. -/
def isStrictNumber (cs : List Char) : Bool :=
  let cs := Text.trimmed Text.isBlank cs
  let unsigned (cs : List Char) : Bool :=
    match cs with
    | '0' :: c :: _ => c == '.'
    | _ => true
  match cs with
  | [] => false
  | ['_'] => false
  | [_] => true
  | first :: second :: _ =>
    first != '_' && cs.getLast? != some '_' &&
      !Text.isWithin ['_', '.'] cs && !Text.isWithin ['.', '_'] cs &&
      (first != '0' || [('.' : Char), 'o', 'b', 'x'].contains second) &&
      ((first != '+' && first != '-') || unsigned (cs.drop 1)) &&
      !Text.isWithin ['_', '_'] (if first == '+' || first == '-' then cs.drop 1 else cs)

/-! ## Moments -/

/-- The number on two digits. -/
def twoDigits? : List Char → Option Nat
  | [c, d] => if c.isDigit && d.isDigit then some (Number.valueIn 10 [c, d]) else none
  | _ => none

/-- The fraction of a second at the front, as it is written: three to six digits behind a
point. -/
def fractionAt (cs : List Char) : Nat :=
  match cs with
  | '.' :: cs =>
    let digits := (cs.take 6).takeWhile Char.isDigit
    if digits.length < 3 then 0 else Number.valueIn 10 digits
  | _ => 0

/-- The time of the day at the front: its numbers, which need not be those of a time that there
is. -/
def timeAt? (cs : List Char) : Option (Nat × Nat × Nat × Nat) := do
  let hour ← twoDigits? (cs.take 2)
  let minute ← twoDigits? ((cs.drop 3).take 2)
  let second ← twoDigits? ((cs.drop 6).take 2)
  if cs[2]? = some ':' && cs[5]? = some ':' then
    some (hour, minute, second, fractionAt (cs.drop 8))
  else none

/-- The whole number that stands in a part of a text. -/
def numberAt? (cs : List Char) (start stop : Nat) : Option Int :=
  (Number.readDecimal ((cs.take stop).drop start)).toOption

/-- Whether a text says how far the clocks of a place are ahead; the sign is not looked at. -/
def zoneSeconds? (cs : List Char) : Option Int :=
  if cs = ['Z'] then some 0
  else do
    let hours ← numberAt? cs 1 3
    let minutes ← numberAt? cs 4 6
    let ahead := hours * 3600 + minutes * 60
    some (if cs.head? = some '-' then -ahead else ahead)

/-- The microseconds that a fraction of a second stands for.  Beyond six digits it counts as a
double-precision number that is cut off. -/
def microseconds? (cs : List Char) : Option Int := do
  let number ← (Number.readDecimal cs).toOption
  if cs.length ≤ 6 then some (number * (Nat.pow 10 (6 - cs.length) : Nat))
  else
    let unit := Number.nearest (mkRat 1 (Nat.pow 10 (cs.length - 6)))
    let product := Number.nearest (Number.nearest number * unit)
    some (Int.tdiv product.num product.den)

/-- What follows the seconds of a moment: the microseconds, and the zone if there is one.  What
cannot be understood counts as neither. -/
def momentTail (cs : List Char) : Int × Option Int :=
  let understood : Option (Int × Option Int) :=
    match cs with
    | [] => some (0, none)
    | '.' :: rest =>
      let signIndex? : Option Nat :=
        match rest.idxOf? '+' with
        | some index => some index
        | none => rest.idxOf? '-'
      if cs.getLast? = some 'Z' || cs.getLast? = some 'z' then
        (microseconds? rest.dropLast).map fun micros => (micros, some 0)
      else match signIndex? with
        | some index => do
          let seconds ← zoneSeconds? (rest.drop index)
          let micros ← microseconds? (rest.take index)
          some (micros, some seconds)
        | none => (microseconds? rest).map fun micros => (micros, none)
    | cs => (zoneSeconds? cs).map fun seconds => (0, some seconds)
  understood.getD (0, none)

/-- The date, or the date and the time, that a text says. -/
def moment? (cs : List Char) : Option Value := do
  if !(cs.drop 1).contains '-' then none
  let date ← (Date.ofNumbers (← numberAt? cs 0 4) (← numberAt? cs 5 7)
    (← numberAt? cs 8 10)).toOption
  if cs.length = 10 then some (.date date)
  else
    let (micros, ahead) := momentTail (cs.drop 19)
    let clock ← (Clock.ofNumbers (← numberAt? cs 11 13) (← numberAt? cs 14 16)
      (← numberAt? cs 17 19) micros).toOption
    some (.dateTime date clock (ahead.map .ahead))

/-! ## Numbers -/

/-- A number that cannot be read. -/
def notNumber {α : Type} (error : Number.NumeralError) (base : Nat) (cs : List Char) :
    Except Fault α :=
  .error (.malformed (error.message base cs))

/-- Reads a number with a point or an exponent. -/
def readFraction (cs : List Char) : Except Fault Float :=
  if cs.contains '.' && (cs.dropWhile (· != '.')).length = 1 then
    .error (.malformed "This float is missing digits after the point")
  else if !cs.head?.any Char.isDigit then
    .error (.malformed "This float doesn't have a leading digit")
  else match Number.readFloat? cs with
    | some x => .ok x
    | none =>
      .error (.malformed ("could not convert string to float: " ++ Text.quoted (String.ofList cs)))

/-- Reads a number. -/
def readNumber (cs : List Char) : Except Fault Value := do
  let (negative, body) := Number.splitSign cs
  let body := body.filter (· != '_')
  let hasExponent := !body.contains 'x' && (body.contains 'e' || body.contains 'E')
  let word := String.ofList (Text.lowercaseChars body)
  if body.contains '.' || hasExponent then
    let x ← readFraction body
    return .float (if negative then 0 - x else x)
  else if word = "inf" || word = "nan" then
    let x := (Number.readFloat? body).getD 0
    return .float (if negative then 0 - x else x)
  else match Number.readPrefixed body with
    | .ok n => return .int (if negative then -n else n)
    | .error error => notNumber error 0 body

/-- Reads what stands without quotes and brackets.  The number may have to be written
strictly. -/
def readScalar (isStrict : Bool) (cs : List Char) : Except Fault Value :=
  match timeAt? cs with
  | some (hour, minute, second, micros) =>
    match Clock.ofNumbers hour minute second micros with
    | .ok clock => .ok (.time clock)
    | .error error => .error (.malformed error.message)
  | none =>
    match moment? cs with
    | some moment => .ok moment
    | none =>
      if isStrict then readNumber cs
      else .error (.malformed "Weirdness with leading zeroes or underscores in your number.")

end SlashCommand.Document.Toml
