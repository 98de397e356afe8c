import SlashCommand.Line.Token

/-!
# Words of a submitted line

A submitted line is read strictly.  Its words are separated by blank characters outside quotes;
quotes of either kind are taken away, and a quote that is never closed makes the line unreadable.
Unlike in a line that is being typed, a backslash takes the next character as it is everywhere,
and stands for itself at the end of the line.  A word without characters is no word, quoted or
not.
-/

namespace SlashCommand.Line

/-- The state of the strict reader: the word so far, the quote that is open, and whether a
backslash has just been read. -/
structure Reader where
  word : List Char
  quote : Option Char
  escaping : Bool
  deriving DecidableEq, Repr

namespace Reader

/-- The state at the start of a line and behind every separator. -/
def fresh : Reader :=
  ⟨[], none, false⟩

/-- The word so far, if it has characters. -/
def word? (reader : Reader) : Option String :=
  if reader.word.isEmpty then none else some (String.ofList reader.word)

/-- The state with one more character in the word. -/
def push (reader : Reader) (c : Char) : Reader :=
  { reader with word := reader.word ++ [c] }

/-- The state behind a character, and the word that this character ends. -/
def step (c : Char) (reader : Reader) : Reader × Option String :=
  if reader.escaping then ({ reader.push c with escaping := false }, none)
  else if c = '\\' then ({ reader with escaping := true }, none)
  else match reader.quote with
    | some quote =>
      if c = quote then ({ reader with quote := none }, none) else (reader.push c, none)
    | none =>
      if isQuote c then ({ reader with quote := some c }, none)
      else if Text.isBlank c then ({ reader with word := [] }, reader.word?)
      else (reader.push c, none)

/-- The word that the end of the line ends; nothing can be said of a line that ends in quotes. -/
def finish (reader : Reader) : Option (Option String) :=
  match reader.quote with
  | some _ => none
  | none => some (if reader.escaping then reader.push '\\' else reader).word?

/-- The words of the characters that follow. -/
def words (reader : Reader) : List Char → Option (List String)
  | [] => reader.finish.map Option.toList
  | c :: cs => (words (reader.step c).1 cs).map ((reader.step c).2.toList ++ ·)

end Reader

/-- The words of a line, unless a quote is left open. -/
def words? (line : String) : Option (List String) :=
  Reader.fresh.words line.toList

end SlashCommand.Line
