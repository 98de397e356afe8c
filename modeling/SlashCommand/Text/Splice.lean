/-!
# Offsets into a text

An offset counts characters.  A negative offset counts from the end of the text, and an offset
beyond either end stands for that end, so every integer names a place in every text.
-/

namespace SlashCommand.Text

/-- The place that an offset names in a sequence of `length` characters. -/
def place (length : Nat) (offset : Int) : Nat :=
  if offset < 0 then (length + offset).toNat else min offset.toNat length

/-- The characters in front of an offset. -/
def before (cs : List Char) (offset : Int) : List Char :=
  cs.take (place cs.length offset)

/-- The characters from an offset on. -/
def after (cs : List Char) (offset : Int) : List Char :=
  cs.drop (place cs.length offset)

@[simp] theorem place_natCast (length n : Nat) : place length (n : Int) = min n length := by
  have h : ¬ (n : Int) < 0 := by omega
  rw [place, if_neg h, Int.toNat_natCast]

end SlashCommand.Text
