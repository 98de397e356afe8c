import SlashCommand.Text.CharTable
import SlashCommand.Text.Half

/-!
# Quoted texts

Texts that are shown as values, in messages, in log lines and where a parsed line is echoed, are
written in quotes so that their ends and their control characters can be seen.

The quote is `'`, unless the text holds a `'` and no `"`.  A backslash, the quote in use, and the
three common controls are written with a backslash; every other character without a printed form
is written with its code point in hexadecimal, on two, four or eight digits.
-/

namespace SlashCommand.Text

/-- Whether a character is written as itself between quotes.  What carries a half is not. -/
def isPrintable (c : Char) : Bool :=
  !inRanges unprintableRanges c.toNat

/-- A number in lowercase hexadecimal, on at least `width` digits. -/
def hexDigits (width n : Nat) : List Char :=
  let digits := Nat.toDigits 16 n
  List.replicate (width - digits.length) '0' ++ digits

/-- The quote around a text: the double one only where it saves an escape. -/
def quoteFor (cs : List Char) : Char :=
  if cs.contains '\'' && !cs.contains '"' then '"' else '\''

/-- How one character is written between two `quote`s. -/
def escapeChar (quote c : Char) : List Char :=
  if c = '\\' || c = quote then ['\\', c]
  else if c = '\n' then ['\\', 'n']
  else if c = '\r' then ['\\', 'r']
  else if c = '\t' then ['\\', 't']
  else if isPrintable c then [c]
  else
    let code := codeOfChar c
    if code < 0x100 then '\\' :: 'x' :: hexDigits 2 code
    else if code < 0x10000 then '\\' :: 'u' :: hexDigits 4 code
    else '\\' :: 'U' :: hexDigits 8 code

/-- A text in quotes. -/
def quoted (s : String) : String :=
  let quote := quoteFor s.toList
  String.ofList (quote :: s.toList.flatMap (escapeChar quote) ++ [quote])

/-- Texts in quotes, as a bracketed list. -/
def quotedList (texts : List String) : String :=
  "[" ++ ", ".intercalate (texts.map quoted) ++ "]"

end SlashCommand.Text
