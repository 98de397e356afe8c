import SlashCommand.Text.Quoted

/-!
# Texts as bytes

A file holds bytes, which stand for a text in UTF-8.  A character is a single byte, or a first byte
that tells how many more there are, and those; each byte adds digits to the code of the character.
A `Reader` takes the bytes one by one.  Not all bytes stand for a text, and the first ones that do
not are the fault that is reported.

No character is written with more bytes than it needs, and halves of characters are not written at
all.  That a half is begun is noticed behind its second byte.
-/

namespace SlashCommand.Text.Utf8

/-! ## Faults -/

/-- What is wrong with bytes that stand for no character. -/
inductive Flaw where
  /-- No character begins so. -/
  | badStart
  /-- A character begins so, and goes on with another byte. -/
  | badContinuation
  /-- A character begins so, and there are no more bytes. -/
  | ended
  deriving DecidableEq, Repr

/-- What is said of a flaw. -/
def Flaw.reason : Flaw → String
  | badStart => "invalid start byte"
  | badContinuation => "invalid continuation byte"
  | ended => "unexpected end of data"

/-- Bytes that stand for no character. -/
structure Fault where
  /-- How many bytes stand in front of them. -/
  position : Nat
  bytes : List UInt8
  flaw : Flaw
  /-- Whether it takes the end of all bytes to notice the fault. -/
  late : Bool
  deriving DecidableEq, Repr

/-- What is said of a fault. -/
def Fault.message (fault : Fault) : String :=
  let first := fault.position
  let place := match fault.bytes with
    | [byte] => s!"byte 0x{String.ofList (hexDigits 2 byte.toNat)} in position {first}"
    | bytes => s!"bytes in position {first}-{first + bytes.length - 1}"
  s!"'utf-8' codec can't decode {place}: {fault.flaw.reason}"

/-- A fault as it is met where the bytes are asked for block by block.  What is begun at the end of
a block is kept, and there is nothing but that when the end of all bytes is met. -/
def Fault.inBlocks (fault : Fault) : Fault :=
  if fault.late then { fault with position := 0 } else fault

/-! ## Characters -/

/-- A character as far as it is read. -/
structure Begun where
  bytes : List UInt8
  /-- The digits of its code that the bytes give. -/
  code : Nat
  /-- How many bytes are missing. -/
  missing : Nat

/-- A character of which the first byte is read. -/
def begin? (first : UInt8) : Option Begun :=
  let n := first.toNat
  if n < 0x80 then some ⟨[first], n, 0⟩
  else if n < 0xC2 then none
  else if n < 0xE0 then some ⟨[first], n - 0xC0, 1⟩
  else if n < 0xF0 then some ⟨[first], n - 0xE0, 2⟩
  else if n < 0xF5 then some ⟨[first], n - 0xF0, 3⟩
  else none

namespace Begun

/-- A character of which one more byte is read. -/
def push (begun : Begun) (byte : UInt8) : Begun :=
  ⟨begun.bytes ++ [byte], begun.code * 64 + (byte.toNat - 0x80), begun.missing - 1⟩

/-- Whether characters go on so behind their first byte.  With a smaller code there would be fewer
bytes, and with a larger one there is no character. -/
def isPossible (begun : Begun) : Bool :=
  match begun.missing with
  | 2 => 0x10 ≤ begun.code && begun.code < 0x110
  | 1 => 0x20 ≤ begun.code
  | _ => true

/-- Whether what is begun can only become a half. -/
def isHalf (begun : Begun) : Bool :=
  begun.missing = 1 && isHalfCode (begun.code * 64)

/-- Whether a character goes on with a byte. -/
def isContinuedBy (begun : Begun) (byte : UInt8) : Bool :=
  !begun.isHalf && 0x80 ≤ byte.toNat && byte.toNat < 0xC0 && (begun.push byte).isPossible

end Begun

/-! ## Reading -/

/-- What is known behind some bytes. -/
structure Reader where
  /-- The characters so far, the last one first. -/
  chars : List Char
  /-- How many bytes they are written with. -/
  position : Nat
  /-- The character that is not complete. -/
  begun : Option Begun

namespace Reader

/-- Nothing is read. -/
def start : Reader :=
  ⟨[], 0, none⟩

/-- The character that is begun goes on so, and may be complete. -/
def take (reader : Reader) (begun : Begun) : Reader :=
  if begun.missing = 0 then
    ⟨Char.ofNat begun.code :: reader.chars, reader.position + begun.bytes.length, none⟩
  else { reader with begun := some begun }

/-- The fault of a character that goes on no further. -/
def fault (reader : Reader) (begun : Begun) (flaw : Flaw) (late : Bool) : Fault :=
  if begun.isHalf then ⟨reader.position, begun.bytes.take 1, .badContinuation, late⟩
  else ⟨reader.position, begun.bytes, flaw, late⟩

/-- Reads a byte. -/
def step (reader : Reader) (byte : UInt8) : Except Fault Reader :=
  match reader.begun with
  | none =>
    match begin? byte with
    | some begun => .ok (reader.take begun)
    | none => .error ⟨reader.position, [byte], .badStart, false⟩
  | some begun =>
    if begun.isContinuedBy byte then .ok (reader.take (begun.push byte))
    else .error (reader.fault begun .badContinuation false)

/-- The text that was read, at the end of all bytes. -/
def finish (reader : Reader) : Except Fault String :=
  match reader.begun with
  | none => .ok (String.ofList reader.chars.reverse)
  | some begun => .error (reader.fault begun .ended true)

end Reader

/-- The text that bytes stand for. -/
def decode (bytes : List UInt8) : Except Fault String := do
  let reader ← bytes.foldlM Reader.step .start
  reader.finish

end SlashCommand.Text.Utf8
