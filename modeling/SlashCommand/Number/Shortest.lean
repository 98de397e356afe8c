/-!
# The shortest decimal that reads back

A binary floating-point number stands for an interval of reals: those that are rounded to it.
Its shortest decimal is the one with the fewest significant digits in that interval, and of
several with so few the nearest one.  The search runs over exact rationals.  For every count of
digits it looks at the two neighbours of the number on the grid of decimals with that many
digits; if any point of a grid lies in the interval, one of these two does.
-/

namespace SlashCommand.Number

/-- A positive finite number: a mantissa and a power of two, and the exact ends of the interval
of reals that are rounded to it. -/
structure Rounding where
  value : Rat
  low : Rat
  high : Rat
  /-- Whether the ends themselves are rounded to the number, as they are for an even mantissa. -/
  closed : Bool

/-- The number of fractions of a double-precision number, which take up 52 bits. -/
def fractions : Nat :=
  0x10000000000000

/-- The number of exponents of a double-precision number, which take up 11 bits. -/
def exponents : Nat :=
  0x800

/-- The bit that is the sign of a double-precision number. -/
def signBit : Nat :=
  fractions * exponents

/-- Reads the magnitude of a double-precision number from its bits, sign left out. -/
def Rounding.ofBits (bits : Nat) : Rounding :=
  let fraction : Nat := bits % fractions
  let exponent : Nat := bits / fractions % exponents
  let mantissa : Nat := if exponent = 0 then fraction else fractions + fraction
  let unit : Rat := (2 : Rat) ^ ((max exponent 1 : Nat) - 1075 : Int)
  -- Below a power of two the next number is only half as far away.
  let below : Rat := if fraction = 0 && exponent > 1 then 1 / 4 else 1 / 2
  { value := (mantissa : Rat) * unit
    low := ((mantissa : Rat) - below) * unit
    high := ((mantissa : Rat) + 1 / 2) * unit
    closed := mantissa % 2 == 0 }

/-- Whether a real is rounded to the number. -/
def Rounding.holds (r : Rounding) (x : Rat) : Bool :=
  if r.closed then r.low ≤ x && x ≤ r.high else r.low < x && x < r.high

/-- A positive decimal: its digits as a number, times a power of ten. -/
structure Decimal where
  digits : Nat
  exponent : Int
  deriving Repr, DecidableEq

/-- The number that a decimal stands for. -/
def Decimal.toRat (d : Decimal) : Rat :=
  d.digits * (10 : Rat) ^ d.exponent

/-- The exponent of the leading digit: the `e` with `10 ^ e ≤ x < 10 ^ (e + 1)`, searched from
`start` upwards over at most `fuel` steps. -/
def leadingExponent (x : Rat) : (fuel : Nat) → (start : Int) → Int
  | 0, e => e
  | fuel + 1, e => if x < (10 : Rat) ^ (e + 1) then e else leadingExponent x fuel (e + 1)

/-- The nearer of the two neighbours of the number on the grid of multiples of a power of ten,
if it is rounded to the number.  A tie goes to the even neighbour. -/
def Rounding.onGrid? (r : Rounding) (exponent : Int) : Option Decimal :=
  let scaled := r.value / (10 : Rat) ^ exponent
  let down := scaled.floor.toNat
  let fits (n : Nat) : Bool := r.holds (n * (10 : Rat) ^ exponent)
  let nearerDown := scaled - down < down + 1 - scaled ||
    (scaled - down == down + 1 - scaled && down % 2 == 0)
  match fits down, fits (down + 1) with
  | true, true => some ⟨if nearerDown then down else down + 1, exponent⟩
  | true, false => some ⟨down, exponent⟩
  | false, true => some ⟨down + 1, exponent⟩
  | false, false => none

/-- The shortest decimal of a positive number. -/
def Rounding.shortest (r : Rounding) : Decimal :=
  let lead := leadingExponent r.value 640 (-325)
  let grids := (List.range 17).map fun (n : Nat) => lead - (n : Int)
  (grids.findSome? r.onGrid?).getD ⟨0, 0⟩

/-- The digits of a decimal without trailing zeros, and the exponent of its leading digit. -/
def Decimal.normal (d : Decimal) : List Char × Int :=
  let digits := Nat.toDigits 10 d.digits
  let kept := (digits.reverse.dropWhile (· == '0')).reverse
  (kept, d.exponent + digits.length - 1)

/-- How numbers are laid out: the smallest and largest exponent of the leading digit that are
written without an exponent, and the least number of digits of a written exponent. -/
structure Layout where
  leastPositional : Int
  mostPositional : Int
  exponentDigits : Nat

/-- Digits with a point behind the first `places` of them; missing digits on either side of the
point are zeros, and at least one digit stands on each side. -/
def positional (digits : List Char) (places : Int) : List Char :=
  if places ≤ 0 then
    '0' :: '.' :: List.replicate (-places).toNat '0' ++ digits
  else
    let whole := digits.take places.toNat
    let rest := digits.drop places.toNat
    whole ++ List.replicate (places.toNat - whole.length) '0' ++ '.' ::
      (if rest.isEmpty then ['0'] else rest)

/-- Digits with a point behind the first of them, if more follow, and an exponent of ten with
its sign. -/
def scientific (layout : Layout) (digits : List Char) (exponent : Int) : List Char :=
  let power := Nat.toDigits 10 exponent.natAbs
  digits.take 1 ++ (if digits.length > 1 then '.' :: digits.drop 1 else []) ++
    'e' :: (if exponent < 0 then '-' else '+') ::
    List.replicate (layout.exponentDigits - power.length) '0' ++ power

/-- A double-precision number by its shortest decimal.  Infinities and the numbers that are none
are written as words. -/
def render (layout : Layout) (x : Float) : String :=
  let bits := x.toBits.toNat
  let sign := if bits ≥ signBit then "-" else ""
  let magnitude := bits % signBit
  if magnitude > 0x7FF0000000000000 then "nan"
  else if magnitude = 0x7FF0000000000000 then sign ++ "inf"
  else if magnitude = 0 then sign ++ "0.0"
  else
    let (digits, lead) := (Rounding.ofBits magnitude).shortest.normal
    sign ++ String.ofList
      (if layout.leastPositional ≤ lead && lead ≤ layout.mostPositional then
        positional digits (lead + 1)
      else scientific layout digits lead)

end SlashCommand.Number
