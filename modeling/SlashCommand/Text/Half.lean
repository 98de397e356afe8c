/-!
# Halves of characters

Characters beyond the first 65536 codes may be written as two halves, which have codes of their
own, and a document may hold one half without the other.  A half is no character, so it is carried
by one for private use: that whose code is `carrierShift` more, which nothing else uses.
-/

namespace SlashCommand.Text

/-- How much more the code of the character that carries a half is than that of the half. -/
def carrierShift : Nat :=
  0x100000

/-- Whether a code is that of a half. -/
def isHalfCode (code : Nat) : Bool :=
  0xD800 ≤ code && code < 0xE000

/-- The character with a code, or the one that carries it if it is that of a half. -/
def charOfCode (code : Nat) : Char :=
  Char.ofNat (if isHalfCode code then carrierShift + code else code)

/-- Whether a character carries a half. -/
def isHalf (c : Char) : Bool :=
  carrierShift ≤ c.toNat && isHalfCode (c.toNat - carrierShift)

/-- The code that a character stands for. -/
def codeOfChar (c : Char) : Nat :=
  if isHalf c then c.toNat - carrierShift else c.toNat

/-- The codes that the characters of a text stand for. -/
def codes (text : String) : List Nat :=
  text.toList.map codeOfChar

/-- Whether a text may stand in front of another one in the order of codes. -/
def precedes (first second : String) : Bool :=
  !(codes second < codes first)

end SlashCommand.Text
