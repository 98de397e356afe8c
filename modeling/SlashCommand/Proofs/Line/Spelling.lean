import SlashCommand.Proofs.Line.Run

/-!
# Words written into a line

A word that is written into a line is to be read back as one token, whatever stands around it.
That is a matter of the written characters alone.  Read from a gap, they have to end no token on
the way and to leave the scanner in the token of the word, outside of quoted parts: then a blank
character or the end of the line ends that token, and what follows is read from a gap as before.
`Spells` says this of some characters and the text they are read as, and `Spells.tokens_append`
what it is good for.

Characters that are neither blank nor quotes spell themselves (`spells_self`).
-/

namespace SlashCommand.Line

open Scan

/-- Whether characters that are read from a gap are one token with the given text, to which
further characters could be added. -/
structure Spells (cs word : List Char) (quoted : Bool) : Prop where
  ended_eq : ∀ offset, gap.ended offset cs = []
  run_eq : ∀ offset, gap.run offset cs = within ⟨word, offset, quoted, .bare⟩

/-! ## The token of a word -/

namespace Scan

lemma step_bare_blank {c : Char} (h : Text.isBlank c = true) (offset : Nat) (text : List Char)
    (start : Nat) (quoted : Bool) :
    (within ⟨text, start, quoted, .bare⟩).step offset c =
      (gap, some ⟨String.ofList text, start, offset, quoted⟩) := by
  simp only [step, isQuote_eq_false_of_isBlank h, h, Bool.false_eq_true, if_false, if_true]
  rfl

/-- A token ends where nothing follows or a blank character does, and what follows is read from a
gap. -/
lemma tokens_bare {cs : List Char} (h : ∀ c ∈ cs.head?, Text.isBlank c = true) (offset : Nat)
    (text : List Char) (start : Nat) (quoted : Bool) :
    tokens offset (within ⟨text, start, quoted, .bare⟩) cs =
      ⟨String.ofList text, start, offset, quoted⟩ :: tokens offset gap cs := by
  cases cs with
  | nil => rfl
  | cons c cs =>
    have hblank : Text.isBlank c = true := h c rfl
    rw [tokens, step_bare_blank hblank, tokens_gap_cons_blank hblank]
    rfl

end Scan

/-- Characters that spell a word are a token of their own between a gap on their left and the end
of the line or a blank character on their right. -/
theorem Spells.tokens_append {cs word rest : List Char} {quoted : Bool}
    (h : Spells cs word quoted) (hrest : ∀ c ∈ rest.head?, Text.isBlank c = true)
    (offset : Nat) :
    tokens offset gap (cs ++ rest) =
      ⟨String.ofList word, offset, offset + cs.length, quoted⟩ ::
        tokens (offset + cs.length) gap rest := by
  rw [Scan.tokens_append, h.ended_eq, h.run_eq, List.nil_append, tokens_bare hrest]

/-! ## Ordinary characters -/

namespace Scan

lemma step_bare_ordinary {c : Char} (hblank : Text.isBlank c = false) (hquote : isQuote c = false)
    (offset : Nat) (text : List Char) (start : Nat) (quoted : Bool) :
    (within ⟨text, start, quoted, .bare⟩).step offset c =
      (within ⟨text ++ [c], start, quoted, .bare⟩, none) := by
  simp only [step, hquote, hblank, Bool.false_eq_true, if_false]
  rfl

lemma step_gap_ordinary {c : Char} (hblank : Text.isBlank c = false) (hquote : isQuote c = false)
    (offset : Nat) : gap.step offset c = (within ⟨[c], offset, false, .bare⟩, none) := by
  simp only [step, hquote, hblank, Bool.false_eq_true, if_false]

/-- Ordinary characters extend a token. -/
lemma run_bare_ordinary {cs : List Char} (hblank : ∀ c ∈ cs, Text.isBlank c = false)
    (hquote : ∀ c ∈ cs, isQuote c = false) (offset : Nat) (text : List Char) (start : Nat)
    (quoted : Bool) :
    (within ⟨text, start, quoted, .bare⟩).run offset cs =
        within ⟨text ++ cs, start, quoted, .bare⟩ ∧
      (within ⟨text, start, quoted, .bare⟩).ended offset cs = [] := by
  induction cs generalizing offset text with
  | nil => exact ⟨by rw [run, List.append_nil], rfl⟩
  | cons c cs ih =>
    obtain ⟨hrun, hended⟩ := ih (fun d hd => hblank d (List.mem_cons_of_mem c hd))
      (fun d hd => hquote d (List.mem_cons_of_mem c hd)) (offset + 1) (text ++ [c])
    have hstep := step_bare_ordinary (hblank c List.mem_cons_self) (hquote c List.mem_cons_self)
      offset text start quoted
    constructor
    · rw [run, hstep, hrun, List.append_assoc, List.singleton_append]
    · rw [ended, hstep, hended]
      rfl

end Scan

/-- Characters of which none is blank and none a quote spell themselves. -/
theorem spells_self {word : List Char} (hne : word ≠ [])
    (hblank : ∀ c ∈ word, Text.isBlank c = false) (hquote : ∀ c ∈ word, isQuote c = false) :
    Spells word word false := by
  rcases word with _ | ⟨c, word⟩
  · exact absurd rfl hne
  · have hstep := fun offset => step_gap_ordinary (hblank c List.mem_cons_self)
      (hquote c List.mem_cons_self) offset
    have hrest := fun offset start => run_bare_ordinary
      (fun d hd => hblank d (List.mem_cons_of_mem c hd))
      (fun d hd => hquote d (List.mem_cons_of_mem c hd)) offset [c] start false
    constructor
    · intro offset
      rw [ended, hstep, (hrest _ _).2]
      rfl
    · intro offset
      rw [run, hstep, (hrest _ _).1]
      rfl

end SlashCommand.Line
