import SlashCommand.Proofs.Line.Run

/-!
# The scanner as a loop over registers

Tokens can be read by a loop with five registers: the text of a token so far, where it started,
the quote that is open, whether a backslash waits for the next character, and whether anything was
quoted.  Each register is set and cleared by itself.  So the loop cannot tell that a token which
ends has a start: while none is set the register holds -1, and a token that the end of the line
ends without one is put there.

The scanner has these things in one state instead, in which a token that is being read cannot be
without its start.  The two run in step (`step_ofScan`): the registers are always those of a state
of the scanner, `ofScan`, in which a token that has begun holds a character or a quote.  So they
write down the same tokens (`tokens_clear`), and the end of the line is never taken for a start
(`start_nonneg_of_isSome_finish`).
-/

namespace SlashCommand.Line

/-- A token as the loop writes it down, with a start that may not have been set. -/
structure Written where
  text : String
  start : Int
  stop : Nat
  quoted : Bool
  deriving DecidableEq, Repr

/-- A token as the loop should write it down. -/
def Token.written (token : Token) : Written :=
  ⟨token.text, token.start, token.stop, token.quoted⟩

/-- The registers of the loop. -/
structure Registers where
  text : List Char
  /-- Where the token started; -1 while that is not known. -/
  start : Int
  /-- The quote that is open. -/
  quote : Option Char
  /-- Whether a backslash waits for the next character. -/
  escaping : Bool
  quoted : Bool
  deriving DecidableEq, Repr

namespace Registers

/-- The registers in front of a line. -/
def clear : Registers :=
  ⟨[], -1, none, false, false⟩

/-- The registers with one more character of the token. -/
def push (registers : Registers) (c : Char) : Registers :=
  { registers with text := registers.text ++ [c] }

/-- The registers behind the character at `offset`, and the token that this character ends. -/
def step (offset : Nat) (c : Char) (registers : Registers) : Registers × Option Written :=
  if registers.escaping then ({ registers.push c with escaping := false }, none)
  else if c = '\\' ∧ registers.quote ≠ none then ({ registers with escaping := true }, none)
  else match registers.quote with
    | some quote =>
      if c = quote then ({ registers with quote := none }, none) else (registers.push c, none)
    | none =>
      if isQuote c then
        let start : Int :=
          if registers.text = [] ∧ registers.start < 0 then offset else registers.start
        ({ registers with start, quote := some c, quoted := true }, none)
      else if Text.isBlank c then
        ({ registers with text := [], start := -1, quoted := false },
          if registers.text ≠ [] ∨ registers.quoted = true then
            some ⟨String.ofList registers.text, registers.start, offset, registers.quoted⟩
          else none)
      else
        let start : Int := if registers.start < 0 then offset else registers.start
        ({ registers.push c with start }, none)

/-- The token that the end of the line ends.  Without a start it is put at the end. -/
def finish (length : Nat) (registers : Registers) : Option Written :=
  if registers.text ≠ [] ∨ registers.quote ≠ none ∨ registers.quoted = true then
    some ⟨String.ofList registers.text, if 0 ≤ registers.start then registers.start else length,
      length, registers.quoted⟩
  else none

/-- The registers behind some characters, the first of which stands at `offset`. -/
def run (offset : Nat) (registers : Registers) : List Char → Registers
  | [] => registers
  | c :: cs => run (offset + 1) (registers.step offset c).1 cs

/-- The tokens of the characters from `offset` on. -/
def tokens (offset : Nat) (registers : Registers) : List Char → List Written
  | [] => (registers.finish offset).toList
  | c :: cs =>
    (registers.step offset c).2.toList ++ tokens (offset + 1) (registers.step offset c).1 cs

end Registers

/-! ## The registers of a state -/

/-- The quote that is open. -/
def Quoting.quote? : Quoting → Option Char
  | bare => none
  | inside quote => some quote
  | escaped quote => some quote

/-- Whether a backslash waits for the next character. -/
def Quoting.isEscaped : Quoting → Bool
  | escaped _ => true
  | _ => false

/-- Whether a token that is being read holds a character or a quote. -/
def Scan.Marked : Scan → Prop
  | gap => True
  | within pending => pending.text ≠ [] ∨ pending.quoted = true

namespace Registers

/-- The registers that stand for a state of the scanner. -/
def ofScan : Scan → Registers
  | .gap => clear
  | .within pending =>
    ⟨pending.text, pending.start, pending.quoting.quote?, pending.quoting.isEscaped,
      pending.quoted⟩

variable {offset : Nat} {scan : Scan}

/-- A step in a gap is a step of the registers. -/
lemma step_clear (offset : Nat) (c : Char) :
    clear.step offset c =
        (ofScan (Scan.gap.step offset c).1, (Scan.gap.step offset c).2.map Token.written) ∧
      (Scan.gap.step offset c).1.Marked := by
  simp only [step, Scan.step, clear]
  by_cases hquote : isQuote c = true
  · simp [hquote, ofScan, Quoting.quote?, Quoting.isEscaped, Scan.Marked]
  · by_cases hblank : Text.isBlank c = true
    · simp [hquote, hblank, ofScan, clear, Scan.Marked]
    · simp [hquote, hblank, ofScan, push, Quoting.quote?, Quoting.isEscaped, Scan.Marked]

/-- A step within a token is a step of the registers: the start is set, and where a blank
character ends the token there is something to end. -/
lemma step_ofScan_within (offset : Nat) (c : Char) {pending : Pending}
    (hmarked : (Scan.within pending).Marked) :
    (ofScan (.within pending)).step offset c =
        (ofScan ((Scan.within pending).step offset c).1,
          ((Scan.within pending).step offset c).2.map Token.written) ∧
      ((Scan.within pending).step offset c).1.Marked := by
  obtain ⟨text, start, quoted, quoting⟩ := pending
  have hstart : ¬ (start : Int) < 0 := by omega
  cases quoting with
  | escaped quote =>
    simp [step, Scan.step, ofScan, push, Pending.push, Quoting.quote?, Quoting.isEscaped,
      Scan.Marked]
  | inside quote =>
    by_cases hbackslash : c = '\\'
    · simpa [step, Scan.step, ofScan, Quoting.quote?, Quoting.isEscaped, Scan.Marked, hbackslash]
        using hmarked
    · by_cases hclose : c = quote
      · subst hclose
        simpa [step, Scan.step, ofScan, Quoting.quote?, Quoting.isEscaped, Scan.Marked, hbackslash]
          using hmarked
      · simp [step, Scan.step, ofScan, push, Pending.push, Quoting.quote?, Quoting.isEscaped,
          Scan.Marked, hbackslash, hclose]
  | bare =>
    by_cases hquote : isQuote c = true
    · simp [step, Scan.step, ofScan, Quoting.quote?, Quoting.isEscaped, Scan.Marked, hquote, hstart]
    · by_cases hblank : Text.isBlank c = true
      · have hends : text ≠ [] ∨ quoted = true := hmarked
        simp [step, Scan.step, ofScan, clear, Quoting.quote?, Quoting.isEscaped, Scan.Marked,
          hquote, hblank, hends, Token.written, Pending.token]
      · simp [step, Scan.step, ofScan, push, Pending.push, Quoting.quote?, Quoting.isEscaped,
          Scan.Marked, hquote, hblank, hstart]

/-- The loop and the scanner run in step. -/
theorem step_ofScan (offset : Nat) (c : Char) (hmarked : scan.Marked) :
    (ofScan scan).step offset c =
        (ofScan (scan.step offset c).1, (scan.step offset c).2.map Token.written) ∧
      (scan.step offset c).1.Marked := by
  cases scan with
  | gap => exact step_clear offset c
  | within pending => exact step_ofScan_within offset c hmarked

/-- The end of the line ends the same token for both. -/
lemma finish_ofScan (offset : Nat) (hmarked : scan.Marked) :
    (ofScan scan).finish offset = (scan.finish offset).map Token.written := by
  cases scan with
  | gap => rfl
  | within pending =>
    have hends : (ofScan (.within pending)).text ≠ [] ∨
        (ofScan (.within pending)).quote ≠ none ∨ (ofScan (.within pending)).quoted = true :=
      hmarked.imp_right .inr
    have hstart : 0 ≤ (ofScan (.within pending)).start := Int.natCast_nonneg pending.start
    rw [finish, if_pos hends, if_pos hstart]
    rfl

lemma run_ofScan (hmarked : scan.Marked) (cs : List Char) :
    (ofScan scan).run offset cs = ofScan (scan.run offset cs) ∧ (scan.run offset cs).Marked := by
  induction cs generalizing offset scan with
  | nil => exact ⟨rfl, hmarked⟩
  | cons c cs ih =>
    obtain ⟨hstep, hnext⟩ := step_ofScan offset c hmarked
    rw [run, hstep, Scan.run]
    exact ih hnext

/-- From the registers of a state the loop writes down the tokens that are read from the state. -/
theorem tokens_ofScan (hmarked : scan.Marked) (cs : List Char) :
    (ofScan scan).tokens offset cs = (Scan.tokens offset scan cs).map Token.written := by
  induction cs generalizing offset scan with
  | nil => rw [tokens, Scan.tokens, finish_ofScan offset hmarked, Option.toList_map]
  | cons c cs ih =>
    obtain ⟨hstep, hnext⟩ := step_ofScan offset c hmarked
    rw [tokens, Scan.tokens, hstep, ih hnext, List.map_append, Option.toList_map]

/-- The loop writes down the tokens of a line. -/
lemma tokens_clear (line : String) :
    clear.tokens 0 line.toList = (tokenize line).map Token.written := by
  have hgap : Scan.gap.Marked := trivial
  exact tokens_ofScan hgap line.toList

/-- A token that the end of the line ends has a start. -/
lemma start_nonneg_of_isSome_finish {length : Nat} (cs : List Char)
    (h : ((clear.run 0 cs).finish length).isSome = true) : 0 ≤ (clear.run 0 cs).start := by
  have hgap : Scan.gap.Marked := trivial
  have hrun : clear.run 0 cs = ofScan (Scan.gap.run 0 cs) := (run_ofScan hgap cs).1
  rw [hrun] at h ⊢
  cases hscan : Scan.gap.run 0 cs with
  | gap =>
    rw [hscan] at h
    cases h
  | within pending => exact Int.natCast_nonneg pending.start

end Registers

end SlashCommand.Line
