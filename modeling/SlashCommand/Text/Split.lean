import SlashCommand.Text.Blank

/-!
# Splitting texts

A separator cuts a text into pieces, one more than there are separators.  The pieces of an empty
text are one empty piece.  Blank characters cut a text into words, and words are never empty.
-/

namespace SlashCommand.Text

/-- The pieces between the separators. -/
def pieces (separator : Char) : List Char → List (List Char)
  | [] => [[]]
  | c :: cs =>
    match pieces separator cs with
    | piece :: rest => if c == separator then [] :: piece :: rest else (c :: piece) :: rest
    | [] => [[c]]

/-- The pieces between the first separators, of which at most `count` are looked at; the last
piece is all that is left. -/
def piecesUpTo (separator : Char) : (count : Nat) → List Char → List (List Char)
  | 0, cs => [cs]
  | _ + 1, [] => [[]]
  | count + 1, c :: cs =>
    if c == separator then [] :: piecesUpTo separator count cs
    else match piecesUpTo separator (count + 1) cs with
      | piece :: rest => (c :: piece) :: rest
      | [] => [[c]]

/-- The pieces between separators of several characters, of which at most `count` are looked at.
The number `fuel` bounds the characters. -/
def piecesBetween (separator : List Char) : (count fuel : Nat) → List Char → List (List Char)
  | 0, _, cs => [cs]
  | _, 0, cs => [cs]
  | _, _, [] => [[]]
  | count + 1, fuel + 1, c :: cs =>
    if separator.isPrefixOf (c :: cs) then
      [] :: piecesBetween separator count fuel ((c :: cs).drop separator.length)
    else match piecesBetween separator (count + 1) fuel cs with
      | piece :: rest => (c :: piece) :: rest
      | [] => [[c]]

/-- How often a separator stands in a text, each occurrence behind the one before. -/
def occurrences (separator cs : List Char) : Nat :=
  (piecesBetween separator (cs.length + 1) (cs.length + 1) cs).length - 1

/-- Whether a text stands in another one. -/
def isWithin (part cs : List Char) : Bool :=
  part.isPrefixOf cs ||
    match cs with
    | [] => false
    | _ :: cs => isWithin part cs

/-- The words of a text. -/
def wordsOf (cs : List Char) : List String :=
  let step (c : Char) (words : List (List Char)) : List (List Char) :=
    if isBlank c then [] :: words
    else match words with
      | word :: words => (c :: word) :: words
      | [] => [[c]]
  ((cs.foldr step [[]]).filter fun word => !word.isEmpty).map String.ofList

/-- The pieces with the separator between them. -/
def joined (separator : List Char) (pieces : List (List Char)) : List Char :=
  separator.intercalate pieces

/-- The characters without blank ones at either end. -/
def trimmed (blank : Char → Bool) (cs : List Char) : List Char :=
  ((cs.dropWhile blank).reverse.dropWhile blank).reverse

end SlashCommand.Text
