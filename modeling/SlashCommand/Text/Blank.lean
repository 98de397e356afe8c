/-!
# Blank characters

Blank characters separate the words of a command line.  They are the characters that the
character database calls white space, together with the four separator controls U+001C to
U+001F, so the class is wider than that of any programming notation: the no-break space and the
ideographic space are blank as well.

The functions here cut blank characters from the ends of a text.
-/

namespace SlashCommand.Text

/-- Whether a character is blank. -/
def isBlank (c : Char) : Bool :=
  let code := c.toNat
  (0x9 ≤ code && code ≤ 0xD) || (0x1C ≤ code && code ≤ 0x20) || code == 0x85 || code == 0xA0 ||
    code == 0x1680 || (0x2000 ≤ code && code ≤ 0x200A) || code == 0x2028 || code == 0x2029 ||
    code == 0x202F || code == 0x205F || code == 0x3000

/-- The characters from the first one on that is not blank. -/
def dropBlank (cs : List Char) : List Char :=
  cs.dropWhile isBlank

/-- The characters up to the last one that is not blank. -/
def dropBlankEnd (cs : List Char) : List Char :=
  (dropBlank cs.reverse).reverse

/-- A text without the blank characters at its start. -/
def stripLeft (s : String) : String :=
  String.ofList (dropBlank s.toList)

/-- A text without the blank characters at either end. -/
def strip (s : String) : String :=
  String.ofList (dropBlankEnd (dropBlank s.toList))

/-- Whether a text contains a blank character. -/
def hasBlank (s : String) : Bool :=
  s.toList.any isBlank

@[simp] theorem toList_stripLeft (s : String) : (stripLeft s).toList = dropBlank s.toList := by
  simp [stripLeft]

@[simp] theorem toList_strip (s : String) :
    (strip s).toList = dropBlankEnd (dropBlank s.toList) := by
  simp [strip]

end SlashCommand.Text
