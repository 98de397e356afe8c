import SlashCommand.Proofs.Editor.Replacement
import SlashCommand.Proofs.Line.Loss

/-!
# The two ways to accept a suggestion

An input field accepts a suggestion with `Suggestion.applyTo`: the text goes in as it is, with a
space behind it.  A line editor carries out a replacement: the text goes in protected, with nothing
behind it.  At the end of the line the two agree on the tokens exactly if the text has no blank
characters and leaves no quote open (`map_text_tokenize_applyTo_eq_iff`).  A text with blank
characters is one token in the editor and never that token in the field, and an open quote takes in
the space.

Both lines are the same up to the start of the range, which is a cut, so what is behind it decides
(`map_text_tokens_protect_iff`).
-/

namespace SlashCommand

open Grammar (Registry)
open Line

namespace Line.Scan

variable {offset : Nat} {scan : Scan}

/-- What opened a quoted part is a quote. -/
lemma isQuote_of_mem_quote_run (h : ∀ c ∈ scan.reader.quote, isQuote c = true) (cs : List Char) :
    ∀ c ∈ (scan.run offset cs).reader.quote, isQuote c = true := by
  induction cs generalizing offset scan with
  | nil => exact h
  | cons c cs ih =>
    refine ih ?_
    rcases scan with _ | ⟨text, start, quoted, quoting⟩
    · simp only [step]
      split_ifs with hquote
      · simpa [reader] using hquote
      · simp [reader, Reader.fresh]
      · simp [reader]
    · cases quoting with
      | bare =>
        simp only [step]
        split_ifs with hquote
        · simpa [reader] using hquote
        · simp [reader, Reader.fresh]
        · simp [reader, Pending.push]
      | inside quote =>
        simp only [step]
        split_ifs
        · exact h
        · simp [reader]
        · exact h
      | escaped quote => exact h

/-- A blank character ends the last token where the end of the line would, unless a quote is open:
then it goes into the token. -/
lemma map_text_tokens_blank_iff (h : ∀ c ∈ scan.reader.quote, isQuote c = true) {blank : Char}
    (hblank : Text.isBlank blank = true) :
    (tokens offset scan []).map (·.text) = (tokens offset scan [blank]).map (·.text) ↔
      scan.isOpen = false := by
  have hlonger (text : List Char) : String.ofList text ≠ String.ofList (text ++ [blank]) := by
    simp [← String.toList_inj]
  rcases scan with _ | ⟨text, start, quoted, quoting⟩
  · rw [tokens_gap_cons_blank hblank]
    exact ⟨fun _ => rfl, fun _ => rfl⟩
  · cases quoting with
    | bare =>
      rw [tokens, tokens, step_bare_blank hblank]
      exact ⟨fun _ => rfl, fun _ => rfl⟩
    | inside quote =>
      have hstep : (within ⟨text, start, quoted, .inside quote⟩).step offset blank =
          (within ⟨text ++ [blank], start, quoted, .inside quote⟩, none) := by
        have hquote : blank ≠ quote := by
          rintro rfl
          have hisQuote := h blank rfl
          rw [isQuote_eq_false_of_isBlank hblank] at hisQuote
          exact absurd hisQuote Bool.false_ne_true
        have hbackslash : blank ≠ '\\' := fun hc => absurd (hc ▸ hblank) (by decide)
        simp [step, hquote, hbackslash, Pending.push]
      rw [tokens, tokens, hstep]
      exact ⟨fun htexts => absurd (List.cons.inj htexts).1 (hlonger text), fun hopen =>
        absurd hopen.symm Bool.false_ne_true⟩
    | escaped quote =>
      exact ⟨fun htexts => absurd (List.cons.inj htexts).1 (hlonger text), fun hopen =>
        absurd hopen.symm Bool.false_ne_true⟩

end Line.Scan

namespace Editor

open Scan

/-- A protected word by itself has the tokens of the word with a space behind it exactly if the
word has no blank characters and leaves no quote open. -/
theorem map_text_tokens_protect_iff (word : String) :
    (tokens 0 gap (protect word).toList).map (·.text) =
        (tokens 0 gap (word.toList ++ [' '])).map (·.text) ↔
      Text.hasBlank word = false ∧ (gap.run 0 word.toList).isOpen = false := by
  cases hblank : Text.hasBlank word with
  | true =>
    -- in quotes the word is one token, and without them it never is
    have hone := (spells_protect (.inl hblank)).tokens_append (@nofun : ∀ c ∈ [].head?, _) 0
    have hfalls := @map_text_tokens_ne_singleton 0 word hblank
    rw [List.append_nil] at hone
    rw [hone, List.map_cons, String.ofList_toList]
    exact ⟨fun htexts => absurd htexts.symm hfalls, fun h => nomatch h.1⟩
  | false =>
    -- no character ends the word, so what comes behind it is read from the state it leaves
    have hquote := @isQuote_of_mem_quote_run 0 gap nofun word.toList
    have hread (cs : List Char) : tokens 0 gap (word.toList ++ cs) =
        tokens (0 + word.toList.length) (gap.run 0 word.toList) cs := by
      rw [tokens_append, ended_eq_nil (Text.not_isBlank_of_not_hasBlank hblank), List.nil_append]
    have hword := hread []
    rw [List.append_nil] at hword
    rw [protect_of_not_hasBlank hblank, hword, hread, map_text_tokens_blank_iff hquote (by decide)]
    exact ⟨fun hclosed => ⟨rfl, hclosed⟩, And.right⟩

/-- What stands behind a cut at which both lines part decides whether their tokens agree. -/
lemma map_text_tokens_take_append_iff {line : List Char} {left right : List Token}
    {start stop : Nat} (cut : Cut line left right start stop) (first second : List Char) :
    (tokens 0 gap (line.take start ++ first)).map (·.text) =
        (tokens 0 gap (line.take start ++ second)).map (·.text) ↔
      (tokens 0 gap first).map (·.text) = (tokens 0 gap second).map (·.text) := by
  have hshift (cs : List Char) :
      (tokens start gap cs).map (·.text) = (tokens 0 gap cs).map (·.text) :=
    map_text_eq_of_map_reading_eq (map_reading_tokens_gap start 0 cs)
  rw [cut.tokens_take_append, cut.tokens_take_append, List.map_append, List.map_append,
    List.append_cancel_left_eq, hshift, hshift]

/-- Of a suggestion that replaces all that is behind its start, the line editor and the input field
make the same tokens at the end of the line exactly if its text has no blank characters and leaves
no quote open. -/
theorem map_text_tokenize_applyTo_eq_iff {line : String} {context : Context}
    {given : Option Registry} {providers : Providers} {suggestion : Suggestion}
    (hoffer : suggestion ∈ (complete line line.length context given providers).suggestions)
    (hstop : suggestion.stop = line.length) :
    (tokenize ((Replacement.ofSuggestion line.length suggestion).applyTo line
          line.length)).map (·.text) =
        (tokenize (suggestion.applyTo line).text).map (·.text) ↔
      Text.hasBlank suggestion.insertText = false ∧
        (gap.run 0 suggestion.insertText.toList).isOpen = false := by
  obtain ⟨slot, hslot, hfits, -⟩ := Request.fits_of_mem_answer hoffer
  obtain ⟨left, replaced, right, start, stop, opening, hfirst, hlast⟩ :=
    Request.exists_opening_of_slot?_eq_some hslot
  have hstart : suggestion.start = start := hfits.start_eq.trans hfirst
  obtain rfl : stop = line.length := by
    have := hfits.stop_eq.trans hlast
    omega
  have hnothing : line.toList.drop line.length = [] := by simp [← String.length_toList]
  obtain ⟨hfield, -⟩ := Suggestion.toList_text_applyTo hstart hstop opening.cut.start_le_stop
    opening.cut.stop_le_length
  rw [hnothing, List.append_assoc] at hfield
  have heditor := @toList_applyTo_ofSuggestion line line.length _ _ hstart
    opening.cut.start_le_stop
  rw [hnothing, List.append_nil] at heditor
  rw [tokenize, tokenize, heditor, hfield, map_text_tokens_take_append_iff opening.cut]
  exact map_text_tokens_protect_iff suggestion.insertText

/-- A model name that goes in as it is, with or without a space behind it. -/
theorem map_text_tokenize_applyTo_eq_plain :
    let small : Suggestion :=
      ⟨"gpt-4o", "gpt-4o", .argument, 251 / 25, 7, 9, some "Model to activate"⟩
    small ∈ (complete "/model gp" 9 { models := ["gpt-4o"] } none .standard).suggestions ∧
      small.stop = ("/model gp".length : Nat) ∧
      (Replacement.ofSuggestion 9 small).applyTo "/model gp" 9 = "/model gpt-4o" ∧
      (small.applyTo "/model gp").text = "/model gpt-4o " ∧
      (tokenize ((Replacement.ofSuggestion 9 small).applyTo "/model gp" 9)).map (·.text) =
        (tokenize (small.applyTo "/model gp").text).map (·.text) := by
  intro small
  have hoffer : small ∈
      (complete "/model gp" 9 { models := ["gpt-4o"] } none .standard).suggestions := by
    have hrequest : Request.ofLine (Registry.orBuiltin none) "/model gp" 9 =
        .node (Walk.along Grammar.Builtin.model []) ⟨"gp", 7, 9⟩ none := by
      have hfocus : focus "/model gp" 9 = ⟨tokenize "/model gp", some 1, "gp", 7, 9⟩ := by
        decide +kernel
      rw [Request.ofLine, if_pos (by decide +kernel), hfocus]
      rfl
    rw [complete, hrequest]
    exact List.mem_append_left _ (Suggestion.mem_nodes_of_scoreOf_eq_some List.mem_cons_self
      List.mem_cons_self (by decide +kernel))
  have hstop : small.stop = ("/model gp".length : Nat) := rfl
  refine ⟨hoffer, hstop, by decide +kernel, by decide +kernel, ?_⟩
  exact (map_text_tokenize_applyTo_eq_iff hoffer hstop).mpr (by decide +kernel)

/-- A model name with a blank character is one token in the editor, and two in the field. -/
theorem map_text_tokenize_applyTo_ne_blank :
    let big : Suggestion :=
      ⟨"big model", "big model", .argument, 0, 7, 7, some "Model to activate"⟩
    big ∈ (complete "/model " 7 { models := ["big model"] } none .standard).suggestions ∧
      big.insertText ≠ "" ∧ big.stop = ("/model ".length : Nat) ∧
      (tokenize ((Replacement.ofSuggestion 7 big).applyTo "/model " 7)).map (·.text) =
        ["/model", "big model"] ∧
      (tokenize (big.applyTo "/model ").text).map (·.text) = ["/model", "big", "model"] := by
  intro big
  have hoffer : big ∈
      (complete "/model " 7 { models := ["big model"] } none .standard).suggestions := by
    have hrequest : Request.ofLine (Registry.orBuiltin none) "/model " 7 =
        .node (Walk.along Grammar.Builtin.model []) ⟨"", 7, 7⟩ (some "<model-name>") := rfl
    rw [complete, hrequest]
    exact List.mem_append_left _ (Suggestion.mem_nodes_of_scoreOf_eq_some List.mem_cons_self
      List.mem_cons_self (by decide +kernel))
  exact ⟨hoffer, by decide, rfl, by decide +kernel, by decide +kernel⟩

end Editor

end SlashCommand
