import SlashCommand.Text.Blank
import SlashCommand.Text.Cluster

/-!
# Fitting lines

A line that is wider than there is room is broken between words.  A word takes the blanks behind
it along, and those that do not fit are dropped.  A word that is wider than a whole line is either
broken as well, or cut off with an ellipsis.
-/

namespace SlashCommand.Shell

/-- What becomes of a word that is wider than a line. -/
inductive Overflow where
  | fold
  | ellipsis
  deriving DecidableEq, Repr

/-! ## Breaking -/

/-- The first word with the blanks around it, and the characters behind; none if there are only
blanks. -/
def takeWord? (cs : List Char) : Option (List Char × List Char) :=
  let blank := cs.takeWhile Text.isBlank
  let rest := cs.drop blank.length
  let word := rest.takeWhile fun c => !Text.isBlank c
  if word.isEmpty then none
  else
    let behind := (rest.drop word.length).takeWhile Text.isBlank
    some (blank ++ word ++ behind, rest.drop (word.length + behind.length))

/-- Cuts clusters into parts that are no wider than a line.  The part that is begun is given with
its width. -/
def chop (width : Nat) (part : List Char) (taken : Nat) : List Text.Cluster → List (List Char)
  | [] => if taken = 0 then [] else [part]
  | cluster :: clusters =>
    if taken + cluster.cells > width then
      part :: chop width cluster.characters cluster.cells clusters
    else chop width (part ++ cluster.characters) (taken + cluster.cells) clusters

/-- The places where a line is broken, and the cells of its last part, where a word begins at
`start` and is wider than a line. -/
def foldWord (start : Nat) : List (List Char) → List Nat × Nat
  | [] => ([], 0)
  | [part] => (if start = 0 then [] else [start], Text.width part)
  | part :: parts =>
    let (places, cells) := foldWord (start + part.length) parts
    (if start = 0 then places else start :: places, cells)

/-- The places where a line is broken, from the word at `start` on; `cells` are taken already.  The
number bounds the words. -/
def breakPlaces (width : Nat) (overflow : Overflow) (start cells : Nat) :
    Nat → List Char → List Nat
  | 0, _ => []
  | fuel + 1, cs =>
    match takeWord? cs with
    | none => []
    | some (word, rest) =>
      let room := Text.width (Text.dropBlankEnd word)
      let behind := start + word.length
      let here := if start = 0 then [] else [start]
      if cells + room ≤ width then
        breakPlaces width overflow behind (cells + Text.width word) fuel rest
      else if room > width then
        if overflow = .fold then
          let (places, last) := foldWord start (chop width [] 0 (Text.clusters word))
          places ++ breakPlaces width overflow behind last fuel rest
        else here ++ breakPlaces width overflow behind (Text.width word) fuel rest
      else if cells ≠ 0 && start ≠ 0 then
        start :: breakPlaces width overflow behind (Text.width word) fuel rest
      else breakPlaces width overflow behind cells fuel rest

/-- A line in parts, broken at some places; `start` is the place where it begins. -/
def partsAt (cs : List Char) (start : Nat) : List Nat → List (List Char)
  | [] => [cs]
  | place :: places => cs.take (place - start) :: partsAt (cs.drop (place - start)) place places

/-! ## Cutting off -/

/-- A line without the blanks at its end that are too many. -/
def dropExcess (width : Nat) (cs : List Char) : List Char :=
  let blanks := cs.length - (Text.dropBlankEnd cs).length
  cs.take (cs.length - min blanks (cs.length - width))

/-- The start of a line that is as wide as wanted; a line that is not wide enough is filled up. -/
def setWidth (width : Nat) (cs : List Char) : List Char :=
  if Text.width cs ≤ width then cs ++ List.replicate (width - Text.width cs) ' '
  else Text.startOf width (Text.clusters cs)

/-- A line that is not wider than there is room. -/
def cutOff (width : Nat) (overflow : Overflow) (cs : List Char) : List Char :=
  if Text.width cs > width then
    match overflow with
    | .fold => setWidth width cs
    | .ellipsis => setWidth (width - 1) cs ++ ['…']
  else cs

/-- The lines that a line is broken into. -/
def wrap (width : Nat) (overflow : Overflow) (cs : List Char) : List (List Char) :=
  let places := breakPlaces width overflow 0 0 (cs.length + 1) cs
  (partsAt cs 0 places).map fun part => cutOff width overflow (dropExcess width part)

end SlashCommand.Shell
