import SlashCommand.Text.CharTable

/-!
# Digits

The decimal digits of all scripts.  In every script they are ten characters in a row, from the
zero on, so a digit's value is its distance from the zero of its script.
-/

namespace SlashCommand.Text

/-- The value of a decimal digit of any script. -/
def digitValue? (c : Char) : Option Nat :=
  let start? := zeros.find? fun start => start ≤ c.toNat && c.toNat < start + 10
  start?.map fun start => c.toNat - start

/-- Whether a character is a decimal digit of some script. -/
def isDigit (c : Char) : Bool :=
  (digitValue? c).isSome

/-- Whether a character is a letter or stands for a number. -/
def isAlphanumeric (c : Char) : Bool :=
  inRanges alphanumericRanges c.toNat

/-- The number that digits stand for, the leading one first.  What is no digit is passed over. -/
def decimalValue (cs : List Char) : Nat :=
  (cs.filterMap digitValue?).foldl (fun n digit => n * 10 + digit) 0

end SlashCommand.Text
