import SlashCommand.Shell.Markup
import SlashCommand.Shell.Wrap

/-!
# The console

What is printed is a list of lines of text, no line wider than the console.  Five control
characters that would move the cursor are left out, and a tab fills its line up to the next
multiple of eight cells.

Where a markup cannot be printed, printing ends there.
-/

namespace SlashCommand.Shell

/-- The width of the console in cells. -/
def consoleWidth : Nat :=
  400

/-- Whether a control character is left out. -/
def isCursorControl (c : Char) : Bool :=
  c == '\x07' || c == '\x08' || c == '\x0B' || c == '\x0C' || c == '\r'

/-- The pieces between tabs, put together.  Each tab is a blank and as many more as it takes to fill
up the line, of which `column` cells are taken already. -/
def fillTabs (column : Nat) : List (List Char) → List Char
  | [] => []
  | [piece] => piece
  | piece :: pieces =>
    let filled := piece ++ [' ']
    let column := column + Text.width filled
    let blanks := (8 - column % 8) % 8
    filled ++ List.replicate blanks ' ' ++ fillTabs (column + blanks) pieces

/-- A line with its tabs filled up. -/
def expandTabs (line : List Char) : List Char :=
  fillTabs 0 (Text.pieces '\t' line)

/-- The text that a markup prints. -/
def rendered (markup : String) : Except Markup.Fault (List Char) :=
  (List.filter fun c => !isCursorControl c) <$> Markup.render markup

/-- A text in lines that are no wider than there is room. -/
def fitLines (width : Nat) (overflow : Overflow) (cs : List Char) : List (List Char) :=
  (Text.pieces '\n' cs).flatMap fun line => wrap width overflow (expandTabs line)

/-! ## Printing -/

/-- What has been printed: lines, and the fault at which printing ended, if it did. -/
structure Output where
  lines : List String
  fault : Option Markup.Fault
  deriving DecidableEq

namespace Output

/-- Lines that are printed. -/
def ofLines (lines : List String) : Output :=
  ⟨lines, none⟩

/-- One output and then another one. -/
def append (first second : Output) : Output :=
  match first.fault with
  | some _ => first
  | none => ⟨first.lines ++ second.lines, second.fault⟩

instance : Append Output :=
  ⟨append⟩

/-- Several outputs in a row. -/
def concat (outputs : List Output) : Output :=
  outputs.foldr append (.ofLines [])

end Output

/-- What printing a markup prints. -/
def printed (markup : String) : Output :=
  match rendered markup with
  | .ok cs => .ofLines ((fitLines consoleWidth .fold cs).map String.ofList)
  | .error fault => ⟨[], some fault⟩

end SlashCommand.Shell
