import SlashCommand.Text.CharTable

/-!
# Lowercase

Names, keywords and queries are compared in lowercase.  Lowercasing is that of the full character
database: it works on whole texts and not on single characters, for two reasons.

* The dotted capital I becomes two characters, a small i and a combining dot.
* A capital sigma becomes the final form `ς` at the end of a word and `σ` everywhere else.  It
  ends a word if a cased letter stands before it and none after it, where case-ignorable
  characters such as an apostrophe are passed over on both sides.

`lowercaseFrom` carries the characters already read, nearest first, so that the look backwards is
a plain recursion as well.
-/

namespace SlashCommand.Text

/-- The lowercase of a character by itself, where that is one character. -/
def lowerChar (c : Char) : Char :=
  if c.toNat < 0x80 then
    if 0x41 ≤ c.toNat && c.toNat ≤ 0x5A then Char.ofNat (c.toNat + 0x20) else c
  else
    match lowercaseRuns.find? (·.covers c.toNat) with
    | some run => Char.ofNat (Int.toNat (c.toNat + run.offset))
    | none => c

/-- Whether the first character that is not case-ignorable is a cased one. -/
def meetsCased : List Char → Bool
  | [] => false
  | c :: cs =>
    if inRanges caseIgnorableRanges c.toNat then meetsCased cs else inRanges casedRanges c.toNat

/-- The lowercase of `cs` where `before` holds the characters in front of it, nearest first. -/
def lowercaseFrom (before : List Char) : List Char → List Char
  | [] => []
  | c :: cs =>
    let lowered :=
      if c = 'İ' then ['i', '\u0307']
      else if c = 'Σ' then [if meetsCased before && !meetsCased cs then 'ς' else 'σ']
      else [lowerChar c]
    lowered ++ lowercaseFrom (c :: before) cs

/-- The lowercase of a sequence of characters that is a whole text. -/
def lowercaseChars (cs : List Char) : List Char :=
  lowercaseFrom [] cs

/-- The lowercase of a text. -/
def lowercase (s : String) : String :=
  String.ofList (lowercaseChars s.toList)

@[simp] theorem toList_lowercase (s : String) :
    (lowercase s).toList = lowercaseChars s.toList := by
  simp [lowercase]

end SlashCommand.Text
