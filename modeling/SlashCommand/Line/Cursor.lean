import SlashCommand.Line.Token

/-!
# The cursor and the token it is in

A cursor stands between characters.  Right behind the last character of a token it still belongs
to the token, so that typing on extends the token; right in front of the first character it
stands in a gap.  The part of a token on the left of the cursor is its stem: that is what has
been typed of it, and what is matched against the words on offer.
-/

namespace SlashCommand.Line

/-- What the cursor sees of a line. -/
structure Focus where
  tokens : List Token
  /-- The index of the token that the cursor is in; none in a gap. -/
  active : Option Nat
  /-- The characters of that token up to the cursor, without an opening quote. -/
  stem : String
  /-- Where the range begins that a completion replaces. -/
  start : Nat
  /-- Where that range ends. -/
  stop : Nat
  deriving DecidableEq, Repr

/-- The nearest place within a line of the given length. -/
def clamp (length : Nat) (cursor : Int) : Nat :=
  min cursor.toNat length

/-- Whether a cursor is in a token. -/
def Token.holds (token : Token) (cursor : Nat) : Bool :=
  token.start < cursor && cursor ≤ token.stop

/-- The characters of a line between two offsets, without a quote in front. -/
def stemBetween (line : List Char) (start cursor : Nat) : List Char :=
  match (line.take cursor).drop start with
  | [] => []
  | c :: cs => if isQuote c then cs else c :: cs

/-- What the cursor sees.  A cursor beyond an end of the line stands at that end. -/
def focus (line : String) (cursor : Int) : Focus :=
  let place := clamp line.length cursor
  let tokens := tokenize line
  match tokens.zipIdx.find? fun (token, _) => token.holds place with
  | some (token, index) =>
    { tokens
      active := some index
      stem := String.ofList (stemBetween line.toList token.start place)
      start := token.start
      stop := token.stop }
  | none => { tokens, active := none, stem := "", start := place, stop := place }

/-- Whether the cursor stands in a gap. -/
def Focus.inGap (focus : Focus) : Bool :=
  focus.active.isNone

/-- The tokens behind the command that are complete: those before the token the cursor is in,
and all of them while the cursor is in a gap. -/
def Focus.settled (focus : Focus) : List Token :=
  match focus.active with
  | some index => (focus.tokens.take index).drop 1
  | none => focus.tokens.drop 1

end SlashCommand.Line
