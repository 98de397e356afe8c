import SlashCommand.Text.CellWidth

/-!
# Clusters

Characters that are shown as one stand in a cluster, which is not taken apart.  Marks that take no
cell belong to the character in front of them.  Behind a joiner the next character is shown as a
part of the one before, and takes no cell of its own.  Behind a selector a character that would
take one cell is shown as a pictograph of two.

`width` is the number of cells that a text takes, and `clusters` the clusters that it consists of.
At the very front of a text a joiner has nothing to join, and there the two differ: the width
leaves the next character out, while it is a cluster by itself.
-/

namespace SlashCommand.Text

/-- The character that joins the next one to that in front of it. -/
def joiner : Char :=
  '\u200D'

/-- The character that asks for a pictograph. -/
def selector : Char :=
  '\uFE0F'

/-- The number of cells that characters take, behind one that may take a cell more or not. -/
def widthBehind (grows : Bool) : List Char → Nat
  | [] => 0
  | c :: cs =>
    if c == joiner then
      match cs with
      | [] => 0
      | _ :: cs => widthBehind grows cs
    else if c == selector then (if grows then 1 else 0) + widthBehind false cs
    else
      let cells := charWidth c
      cells + widthBehind (if cells = 0 then grows else isWidened c) cs

/-- The number of cells that a text takes. -/
def width (cs : List Char) : Nat :=
  widthBehind false cs

/-- Characters that are shown as one. -/
structure Cluster where
  characters : List Char
  /-- The number of cells that they take. -/
  cells : Nat
  deriving DecidableEq, Repr

/-- The clusters of a text.  The one that is begun has the given characters, the last one first,
and cells; it may take a cell more or not. -/
def clustersFrom (begun : List Char) (cells : Nat) (grows : Bool) : List Char → List Cluster
  | [] => if begun.isEmpty then [] else [⟨begun.reverse, cells⟩]
  | c :: cs =>
    let own := if c == joiner || c == selector then 0 else charWidth c
    if begun.isEmpty then clustersFrom [c] own (isWidened c) cs
    else if c == joiner then
      match cs with
      | [] => [⟨(c :: begun).reverse, cells⟩]
      | d :: cs => clustersFrom (d :: c :: begun) cells grows cs
    else if c == selector then
      clustersFrom (c :: begun) (cells + if grows then 1 else 0) false cs
    else if own = 0 then clustersFrom (c :: begun) cells grows cs
    else ⟨begun.reverse, cells⟩ :: clustersFrom [c] own (isWidened c) cs

/-- The clusters of a text. -/
def clusters (cs : List Char) : List Cluster :=
  clustersFrom [] 0 false cs

/-- The start of clusters that takes a number of cells.  Of a cluster that stands across the end
only blanks are left. -/
def startOf (cells : Nat) : List Cluster → List Char
  | [] => []
  | cluster :: rest =>
    if cells = 0 then []
    else if cluster.cells ≤ cells then cluster.characters ++ startOf (cells - cluster.cells) rest
    else [' ']

end SlashCommand.Text
