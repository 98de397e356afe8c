import SlashCommand.Completion

/-!
# Completion in a line editor

A line editor that completes at the cursor only ever replaces text on the left of the cursor, and
it inserts what it is given as it is.  So suggestions are handed to it as replacements that begin
some characters before the cursor, and a text with blank characters is put in quotes to stay one
token.
-/

namespace SlashCommand.Editor

open Grammar (Registry)

/-- What the editor puts in the place of the characters from an offset before the cursor up to
the cursor. -/
structure Replacement where
  text : String
  /-- Where the replaced characters begin, counted from the cursor; never positive. -/
  offset : Int
  label : String
  detail : String
  deriving DecidableEq, Repr

/-- A character as it is written between double quotes. -/
def escapeQuoted (c : Char) : List Char :=
  if c = '\\' || c = '"' then ['\\', c] else [c]

/-- A text that is read back as one token: in quotes if it has blank characters, and as it is if
it has none. -/
def protect (text : String) : String :=
  if Text.hasBlank text then
    String.ofList ('"' :: text.toList.flatMap escapeQuoted ++ ['"'])
  else text

/-- A suggestion as a replacement at a cursor. -/
def Replacement.ofSuggestion (cursor : Nat) (suggestion : Suggestion) : Replacement :=
  { text := protect suggestion.insertText
    offset := min suggestion.start cursor - cursor
    label := suggestion.label
    detail := suggestion.detail.getD "" }

/-- The replacements on offer at a cursor, best first. -/
def replacements (line : String) (cursor : Nat) (context : Context)
    (registry : Option Registry) : List Replacement :=
  (complete line cursor context registry .standard).suggestions.map (.ofSuggestion cursor)

/-- What is shown behind the cursor.  There is room for it only at the end of the line. -/
def hint (line : String) (cursor : Nat) (context : Context) (registry : Option Registry) :
    Option String :=
  if cursor = line.length then (complete line cursor context registry .standard).hint else none

end SlashCommand.Editor
