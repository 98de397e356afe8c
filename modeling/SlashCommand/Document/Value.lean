import SlashCommand.Document.Moment
import SlashCommand.Number.Shortest
import SlashCommand.Text.Quoted

/-!
# Values of a document

The values of a configuration document are texts, numbers, truth values, moments, lists and
mappings.  The two document formats are read into the one type `Value`, and what a grammar says is
then read from there, so nothing behind this type knows in which notation a document was written.

A mapping keeps its entries in the order of the document, each key once.  A key may be any value
without parts; keys that are the same number are the same key, in whatever form it is written.

`Value.display` is the form in which a value that is refused is shown in a message, and
`Value.sort` the name of its sort there.
-/

namespace SlashCommand.Document

/-- A value of a document. -/
inductive Value where
  | null
  | bool (value : Bool)
  | int (value : Int)
  | float (value : Float)
  | string (value : String)
  | binary (bytes : List UInt8)
  | date (day : Date)
  | time (clock : Clock)
  | dateTime (day : Date) (clock : Clock) (zone : Option Zone)
  | list (items : List Value)
  /-- Items of which none is there twice. -/
  | set (items : List Value)
  | pair (first second : Value)
  /-- Entries with their keys.  A mapping may be written inline, as a part of a line. -/
  | mapping (entries : List (Value × Value)) (inline : Bool)
  /-- The part of its document with a number.  A value may be in many places, and even within
  itself. -/
  | part (number : Nat)
  deriving Inhabited

namespace Value

/-- The text that a value is. -/
def text? : Value → Option String
  | string text => some text
  | _ => none

/-- The entries of a mapping. -/
def entries? : Value → Option (List (Value × Value))
  | mapping entries _ => some entries
  | _ => none

/-- The items of a list, or of what may stand for one. -/
def items? : Value → Option (List Value)
  | list items => some items
  | set items => some items
  | _ => none

/-- Whether a value is a number only by its sort. -/
def isNoNumber : Value → Bool
  | float x => x.isNaN
  | _ => false

/-! ## Keys -/

/-- The whole number that a double-precision number is. -/
def wholeOf? (x : Float) : Option Int :=
  let bits := x.toBits.toNat
  let magnitude := bits % Number.signBit
  if magnitude ≥ 0x7FF0000000000000 then none
  else
    let size := (Number.Rounding.ofBits magnitude).value
    if size.den = 1 then some (if bits ≥ Number.signBit then -size.num else size.num) else none

/-- The whole number that a value is. -/
def whole? : Value → Option Int
  | bool b => some (if b then 1 else 0)
  | int n => some n
  | float x => wholeOf? x
  | _ => none

/-- The microseconds from the first day of the calendar to a moment. -/
def instant (date : Date) (clock : Clock) (zone : Option Zone) : Int :=
  let before := date.year - 1
  let days := before * 365 + before / 4 - before / 100 + before / 400 +
    ((List.range (date.month - 1)).map fun month => daysOf date.year (month + 1)).foldl (· + ·) 0 +
    date.day
  let seconds : Int := ((days * 24 + clock.hour) * 60 + clock.minute) * 60 + clock.second
  let ahead :=
    match zone with
    | some (.ahead seconds) => seconds
    | _ => 0
  (seconds - ahead) * 1000000 + clock.microsecond

/-- Whether two values are the same key. -/
def sameKey (first second : Value) : Bool :=
  match first, second with
  | null, null => true
  | string s, string t => s == t
  | binary s, binary t => s == t
  | date d, date e => d == e
  | time c, time d => c == d
  | dateTime d c z, dateTime e f y =>
    z.isSome == y.isSome && instant d c z == instant e f y
  | float x, float y => x == y
  | _, _ =>
    match first.whole?, second.whole? with
    | some m, some n => m == n
    | _, _ => false

/-- The value under a text as key of a mapping. -/
def lookup? (entries : List (Value × Value)) (name : String) : Option Value :=
  (entries.find? fun entry => entry.1.text? == some name).map (·.2)

/-- The entries of a mapping with one key set: a key that is there keeps its place. -/
def put (entries : List (Value × Value)) (key value : Value) : List (Value × Value) :=
  if entries.any fun entry => entry.1.sameKey key then
    entries.map fun entry => if entry.1.sameKey key then (entry.1, value) else entry
  else entries ++ [(key, value)]

/-! ## As messages show them -/

/-- Numbers whose leading digit stands between the fourth place behind the point and the
sixteenth before it are shown without an exponent; an exponent has two digits or more. -/
def numberLayout : Number.Layout :=
  ⟨-4, 15, 2⟩

/-- Bytes as messages show them: those of printed characters as the characters. -/
def displayBytes (bytes : List UInt8) : String :=
  let cs := bytes.map fun byte => Char.ofNat byte.toNat
  let quote := Text.quoteFor cs
  let displayed (c : Char) : List Char :=
    if c.toNat < 0x80 then Text.escapeChar quote c else '\\' :: 'x' :: Text.hexDigits 2 c.toNat
  String.ofList ('b' :: quote :: cs.flatMap displayed ++ [quote])

/-- Whether a whole number has at most as many digits as are shown. -/
def isShort (n : Int) : Bool :=
  n.natAbs < Nat.pow 10 4300

mutual

/-- A value as messages show it, if it can be shown.  It is told how the parts of its document are
shown. -/
def displayWith (shown : Nat → Option String) : Value → Option String
  | null => some "None"
  | bool true => some "True"
  | bool false => some "False"
  | int n => if isShort n then some (toString n) else none
  | float x => some (Number.render numberLayout x)
  | string s => some (Text.quoted s)
  | binary bytes => some (displayBytes bytes)
  | date d => some d.display
  | time c => some c.display
  | dateTime d c z => some (displayMoment d c z)
  | list items => do return "[" ++ ", ".intercalate (← displayItems shown items) ++ "]"
  | set [] => some "set()"
  | set (item :: items) => do
    return "\x7b" ++ ", ".intercalate (← displayItems shown (item :: items)) ++ "\x7d"
  | pair first second => do
    return "(" ++ (← first.displayWith shown) ++ ", " ++ (← second.displayWith shown) ++ ")"
  | mapping entries _ => do
    return "\x7b" ++ ", ".intercalate (← displayEntries shown entries) ++ "\x7d"
  | part number => shown number

/-- The items of a list as messages show them. -/
def displayItems (shown : Nat → Option String) : List Value → Option (List String)
  | [] => some []
  | item :: items => do return (← item.displayWith shown) :: (← displayItems shown items)

/-- The entries of a mapping as messages show them. -/
def displayEntries (shown : Nat → Option String) : List (Value × Value) → Option (List String)
  | [] => some []
  | (key, value) :: entries => do
    let entry := (← key.displayWith shown) ++ ": " ++ (← value.displayWith shown)
    return entry :: (← displayEntries shown entries)

end

/-- How a list or the like is shown within itself. -/
def ellipsis : Value → String
  | list _ => "[...]"
  | set _ => "set(...)"
  | pair .. => "(...)"
  | _ => "\x7b...\x7d"

/-- The name of a value's sort. -/
def sort : Value → String
  | null => "NoneType"
  | bool _ => "bool"
  | int _ => "int"
  | float _ => "float"
  | string _ => "str"
  | binary _ => "bytes"
  | date _ => "date"
  | time _ => "time"
  | dateTime .. => "datetime"
  | list _ => "list"
  | set _ => "set"
  | pair .. => "tuple"
  | mapping _ false => "dict"
  | mapping _ true => "TomlDecoder.get_empty_inline_table.<locals>.DynamicInlineTableDict"
  | part _ => "object"

/-- What is shown instead of a value that cannot be shown. -/
def unshown (value : Value) : String :=
  s!"<unprintable {value.sort} object>"

/-- A value without parts of a document, as messages show it. -/
def display (value : Value) : String :=
  (value.displayWith fun _ => none).getD value.unshown

end Value

end SlashCommand.Document
