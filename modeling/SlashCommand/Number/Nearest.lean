/-!
# The nearest binary number

A double-precision number has 53 significant binary digits.  Sums of such numbers are rounded to
the nearest one, and to the one with an even last digit where two are equally near.  Here that is
a function on rationals, so what is computed with it can be reasoned about.

Below the smallest normal numbers the distance between neighbours stays the same.  There is no
largest number here.
-/

namespace SlashCommand.Number

/-- The whole number nearest to a quotient; of two, the even one. -/
def nearestQuotient (numerator denominator : Nat) : Nat :=
  let down := numerator / denominator
  let twice := 2 * (numerator % denominator)
  if twice < denominator || (twice == denominator && down % 2 == 0) then down else down + 1

/-- The power of two with an exponent, or one if that is negative. -/
def powerOfTwo (exponent : Int) : Nat :=
  Nat.pow 2 exponent.toNat

/-- The exponent of the distance between the double-precision numbers around a positive quotient:
the distance is that power of two. -/
def spacing (numerator denominator : Nat) : Int :=
  let guess : Int := (numerator.log2 : Int) - denominator.log2 - 53
  let fits (exponent : Int) : Bool :=
    numerator * powerOfTwo (-exponent) < 0x20000000000000 * denominator * powerOfTwo exponent
  max (if fits guess then guess else guess + 1) (-1074)

/-- The double-precision number nearest to a rational. -/
def nearest (x : Rat) : Rat :=
  let numerator := x.num.natAbs
  if numerator = 0 then 0
  else
    let exponent := spacing numerator x.den
    let up := powerOfTwo exponent
    let down := powerOfTwo (-exponent)
    let size := mkRat (nearestQuotient (numerator * down) (x.den * up) * up : Nat) down
    if x < 0 then -size else size

end SlashCommand.Number
