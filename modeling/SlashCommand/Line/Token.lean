import SlashCommand.Text.Blank

/-!
# Tokens of a line that is being typed

A line under the cursor is read with tolerance: whatever has been typed so far has tokens.  A
token remembers the range of the line it was read from, so that completion knows what to replace.

* A quote of either kind starts a quoted part, in which blank characters are ordinary ones; the
  same quote ends the part but not the token, so `"foo"bar` is the token `foobar`.
* A backslash takes the next character as it is, but only in a quoted part.
* A quoted part that is never closed runs to the end of the line.

The scanner is an automaton with one step per character.  Between tokens it holds nothing, so
what it makes of the rest of a line depends on the rest alone.
-/

namespace SlashCommand.Line

/-- A token and the half-open range of offsets it was read from. -/
structure Token where
  text : String
  start : Nat
  stop : Nat
  /-- Whether any part of the token was quoted. -/
  quoted : Bool
  deriving DecidableEq, Repr

/-- Whether a character opens a quoted part. -/
def isQuote (c : Char) : Bool :=
  c == '"' || c == '\''

/-- Where the scanner stands within a token. -/
inductive Quoting where
  /-- Outside quoted parts. -/
  | bare
  /-- In a part that the given quote will close. -/
  | inside (quote : Char)
  /-- In such a part, behind a backslash. -/
  | escaped (quote : Char)
  deriving DecidableEq, Repr

/-- A token of which the end has not been seen. -/
structure Pending where
  text : List Char
  start : Nat
  quoted : Bool
  quoting : Quoting
  deriving DecidableEq, Repr

/-- The token that ends here. -/
def Pending.token (pending : Pending) (stop : Nat) : Token :=
  ⟨String.ofList pending.text, pending.start, stop, pending.quoted⟩

/-- The pending token with one more character. -/
def Pending.push (pending : Pending) (c : Char) : Pending :=
  { pending with text := pending.text ++ [c] }

/-- The state of the scanner: between tokens, or within one. -/
inductive Scan where
  | gap
  | within (pending : Pending)
  deriving DecidableEq, Repr

namespace Scan

/-- The state behind the character at `offset`, and the token that this character ends. -/
def step (offset : Nat) (c : Char) : Scan → Scan × Option Token
  | gap =>
    if isQuote c then (within ⟨[], offset, true, .inside c⟩, none)
    else if Text.isBlank c then (gap, none)
    else (within ⟨[c], offset, false, .bare⟩, none)
  | within pending =>
    match pending.quoting with
    | .escaped quote => (within { pending.push c with quoting := .inside quote }, none)
    | .inside quote =>
      if c = '\\' then (within { pending with quoting := .escaped quote }, none)
      else if c = quote then (within { pending with quoting := .bare }, none)
      else (within (pending.push c), none)
    | .bare =>
      if isQuote c then (within { pending with quoted := true, quoting := .inside c }, none)
      else if Text.isBlank c then (gap, some (pending.token offset))
      else (within (pending.push c), none)

/-- The token that the end of the line ends. -/
def finish (offset : Nat) : Scan → Option Token
  | gap => none
  | within pending => some (pending.token offset)

/-- The tokens of the characters from `offset` on. -/
def tokens (offset : Nat) (scan : Scan) : List Char → List Token
  | [] => (scan.finish offset).toList
  | c :: cs => (scan.step offset c).2.toList ++ tokens (offset + 1) (scan.step offset c).1 cs

end Scan

/-- The tokens of a line. -/
def tokenize (line : String) : List Token :=
  Scan.tokens 0 .gap line.toList

end SlashCommand.Line
