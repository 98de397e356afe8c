import SlashCommand.Document.Room
import SlashCommand.Document.Value
import SlashCommand.Text.Utf8

/-!
# Faults of TOML documents

Why a TOML document cannot be read.  Most faults are mistakes in the notation, which are reported
with the line and the column where they are.  The others come up where one part of a document
takes another one for something that it is not; they are reported without a place.  What is no text
is reported with the number of its first byte that stands for nothing.
-/

namespace SlashCommand.Document.Toml

/-- Why a document cannot be read. -/
inductive Fault where
  /-- What should be a text is none. -/
  | undecodable (cause : Text.Utf8.Fault)
  /-- The text is not in the notation. -/
  | malformed (message : String)
  /-- A text ends where a character of it is needed. -/
  | shortText
  /-- A list ends where an item of it is needed. -/
  | shortList
  /-- A table is put into an array that is none. -/
  | noArray
  /-- A part is taken from a value of a sort that has no parts. -/
  | noParts (sort : String)
  /-- A part is looked for in a value of a sort that has no parts. -/
  | notSearched (sort : String)
  /-- A part is put into a text. -/
  | fixedText
  /-- An item of a list is named by a key. -/
  | keyOfList
  /-- A character of a text is named by a key. -/
  | keyOfText
  /-- A text over several lines is given no key. -/
  | unnamedText
  /-- A character is given by a number that is far too large. -/
  | hugeCode
  /-- Too many arrays and inline tables stand in each other. -/
  | tooDeep (last : LastStep)
  deriving DecidableEq, Repr

/-- What is said of a fault. -/
def Fault.message : Fault → String
  | undecodable cause => cause.message
  | malformed message => message
  | shortText => "string index out of range"
  | shortList => "list index out of range"
  | noArray => "You can only load a file descriptor, filename or list"
  | noParts sort => s!"'{sort}' object is not subscriptable"
  | notSearched sort => s!"argument of type '{sort}' is not iterable"
  | fixedText => "'str' object does not support item assignment"
  | keyOfList => "list indices must be integers or slices, not str"
  | keyOfText => "string indices must be integers, not 'str'"
  | unnamedText => "cannot access local variable 'value' where it is not associated with a value"
  | hugeCode => "Python int too large to convert to C int"
  | tooDeep last => last.message

/-- A fault at an offset of a document: a mistake in the notation is given its place. -/
def Fault.at (document : List Char) (offset : Nat) : Fault → Fault
  | malformed message =>
    let before := document.take offset
    let line := before.count '\n' + 1
    let column := (before.reverse.takeWhile (· != '\n')).length + 1
    malformed (message ++ s!" (line {line} column {column} char {offset})")
  | fault => fault

/-- The name of a value's sort where parts of it are asked for. -/
def sortName : Value → String
  | .date _ => "datetime.date"
  | .time _ => "datetime.time"
  | .dateTime .. => "datetime.datetime"
  | value => value.sort

end SlashCommand.Document.Toml
