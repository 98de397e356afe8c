import SlashCommand.Document.Moment
import SlashCommand.Document.Room
import SlashCommand.Number.Numeral
import SlashCommand.Text.Utf8

/-!
# Faults of YAML documents

Why a YAML document cannot be read.  Most documents that cannot be read are no YAML at all, or not
even texts.  In the others a character, a number, a truth value or a moment is asked for, by its spelling or by a
tag, that does not exist, or there is no room for all that stands in each other.
-/

namespace SlashCommand.Document.Yaml

/-- Why a document cannot be read. -/
inductive Fault where
  /-- What should be a text is none. -/
  | undecodable (cause : Text.Utf8.Fault)
  /-- The text is not in the notation, or a part of it stands for nothing. -/
  | malformed
  /-- Too many parts stand in each other. -/
  | tooDeep (last : LastStep)
  /-- An escape with the number of no character. -/
  | noCharacter
  /-- An escape with a number that is far too large. -/
  | hugeCode
  /-- A scalar that should be a whole number in a base. -/
  | notWhole (error : Number.NumeralError) (base : Nat) (text : String)
  /-- A scalar that should be a number. -/
  | notNumber (text : String)
  /-- A number without a single digit. -/
  | emptyNumber
  /-- A scalar that should be a truth value. -/
  | notTruth (word : String)
  /-- A scalar that should be a date. -/
  | notMoment
  /-- A mapping that should be a date, though its own value may be one. -/
  | mappingMoment
  /-- A sexagesimal number with a part that counts for more than a double-precision number holds.
  -/
  | hugePart
  /-- A date or a time that does not exist. -/
  | noMoment (error : MomentError)
  deriving DecidableEq, Repr

/-- What is said of a fault. -/
def Fault.message : Fault → String
  | undecodable cause => cause.message
  | malformed => "Malformed YAML document."
  | tooDeep last => last.message
  | noCharacter => "chr() arg not in range(0x110000)"
  | hugeCode => "Python int too large to convert to C int"
  | notWhole error base text => error.message base text.toList
  | notNumber text => "could not convert string to float: " ++ Text.quoted text
  | emptyNumber => "string index out of range"
  | notTruth word => Text.quoted word
  | notMoment => "'NoneType' object has no attribute 'groupdict'"
  | mappingMoment => "expected string or bytes-like object, got 'list'"
  | hugePart => "int too large to convert to float"
  | noMoment error => error.message

end SlashCommand.Document.Yaml
