import SlashCommand.Number.Nearest
import SlashCommand.Text.Lowercase

/-!
# Scores

How well a word matches what has been typed.  Lower is better, and letter case does not matter.

* Nothing typed matches everything with score 0.
* A word that begins with what was typed scores 10, and a hundredth more for each character that
  is missing.
* A word that contains it scores 30, and one more for each character in front of it.
* A word in which its characters occur in order scores 50, and one more for each character that
  is skipped before the last of them.

A word in which they do not has no score.  The distances are such that short words are listed
tier by tier.
-/

namespace SlashCommand

/-- The number of characters of `value` that are skipped when the characters of `query` are found
in it one after the other, each as early as possible; none if some character is not found. -/
def gap? : (query value : List Char) → Option Nat
  | [], _ => some 0
  | _ :: _, [] => none
  | q :: query, v :: value =>
    if q = v then gap? query value else (gap? (q :: query) value).map (· + 1)

/-- The offset of the first occurrence of `query` in `value`. -/
def offset? (query : List Char) : (value : List Char) → Option Nat
  | [] => if query.isEmpty then some 0 else none
  | v :: value =>
    if query.isPrefixOf (v :: value) then some 0 else (offset? query value).map (· + 1)

/-- The score of lowercase characters. -/
def scoreChars (query value : List Char) : Option Rat :=
  if query.isEmpty then some 0
  else if query.isPrefixOf value then
    some (10 + ((value.length - query.length : Nat) : Rat) / 100)
  else match offset? query value with
    | some offset => some (30 + (offset : Rat))
    | none => (gap? query value).map fun gap => 50 + (gap : Rat)

/-- The score of a word against what has been typed. -/
def scoreOf (query word : String) : Option Rat :=
  scoreChars (Text.lowercaseChars query.toList) (Text.lowercaseChars word.toList)

/-- Whether the score of a word is a whole number by its kind: whether nothing is typed, or the
word does not begin with what is. -/
def isWholeScore (query word : String) : Bool :=
  let query := Text.lowercaseChars query.toList
  query.isEmpty || !query.isPrefixOf (Text.lowercaseChars word.toList)

/-- A score as the double-precision number that it is computed to: ten is taken off and put back
on, and each result is rounded. -/
def binaryScore (score : Rat) : Rat :=
  Number.nearest (10 + Number.nearest (score - 10))

end SlashCommand
