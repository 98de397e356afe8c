import SlashCommand.Proofs.Completion.Opening
import SlashCommand.Proofs.Grammar.Lookup
import SlashCommand.Proofs.Line.Spelling
import SlashCommand.Proofs.Text.Strip

/-!
# Accepting a suggestion

Accepting a suggestion edits one token of the line and no other.  The range that it replaces is
an opening of the line, so the scanner comes to its start with nothing in hand.  A word without
blank characters and quotes is then read as one token, the space behind it ends that token, and
what follows is read from a gap as before, whichever blank characters were dropped from it.
-/

namespace SlashCommand

open Grammar (Registry)
open Line

namespace Line

/-- What a token says, wherever it stands. -/
def Token.reading (token : Token) : String × Bool :=
  (token.text, token.quoted)

lemma map_text_eq_of_map_reading_eq {first second : List Token}
    (h : first.map Token.reading = second.map Token.reading) :
    first.map (·.text) = second.map (·.text) := by
  have htexts := congrArg (List.map Prod.fst) h
  rw [List.map_map, List.map_map] at htexts
  exact htexts

namespace Scan

/-- What the tokens behind a gap say does not depend on where they stand. -/
lemma map_reading_tokens_gap (first second : Nat) (cs : List Char) :
    (tokens first gap cs).map Token.reading = (tokens second gap cs).map Token.reading := by
  rw [tokens_eq_map_shift first, tokens_eq_map_shift second, List.map_map, List.map_map]
  rfl

lemma map_reading_tokens_gap_dropBlank (first second : Nat) (cs : List Char) :
    (tokens first gap (Text.dropBlank cs)).map Token.reading =
      (tokens second gap cs).map Token.reading := by
  obtain ⟨skipped, htokens⟩ := tokens_gap_dropBlank second cs
  rw [htokens]
  exact map_reading_tokens_gap _ _ _

end Scan

/-- A word that is put into a cut is a token of its own between the tokens on both sides, as long
as what is put behind it begins with a blank character and has the tokens on the right. -/
theorem Cut.exists_tokens_put {line : List Char} {left right : List Token} {start stop : Nat}
    (cut : Cut line left right start stop) {cs word after : List Char} {quoted : Bool}
    (hspells : Spells cs word quoted) (hafter : ∀ c ∈ after.head?, Text.isBlank c = true)
    (hright : (Scan.tokens stop .gap after).map Token.reading = right.map Token.reading) :
    ∃ right',
      Scan.tokens 0 .gap (line.take start ++ cs ++ after) =
        left ++ ⟨String.ofList word, start, start + cs.length, quoted⟩ :: right' ∧
      right'.map Token.reading = right.map Token.reading := by
  refine ⟨Scan.tokens (start + cs.length) .gap after, ?_, ?_⟩
  · rw [List.append_assoc, cut.tokens_take_append, hspells.tokens_append hafter]
  · rw [← hright]
    exact Scan.map_reading_tokens_gap _ _ _

end Line

/-! ## One token is edited -/

/-- What accepting a suggestion does to the tokens of a line: those on the left and on the right
of the range stay, and in the place of the token of that range, or between them if the range is
empty, stands the accepted word. -/
structure EditsOneToken (line : String) (suggestion : Suggestion)
    (left replaced right : List Token) : Prop where
  tokenize_line : tokenize line = left ++ replaced ++ right
  replaced_of_eq : suggestion.start = suggestion.stop → replaced = []
  replaced_of_ne : suggestion.start ≠ suggestion.stop →
    ∃ old : Token, replaced = [old] ∧ old.start = suggestion.start ∧ old.stop = suggestion.stop
  stop_lt_of_mem_left : ∀ token ∈ left, (token.stop : Int) < suggestion.start
  stop_le_of_mem_right : ∀ token ∈ right, suggestion.stop ≤ (token.start : Int)
  /-- The new token begins where the range did and ends at the added space. -/
  tokenize_applyTo : ∃ (new : Token) (right' : List Token),
    tokenize (suggestion.applyTo line).text = left ++ new :: right' ∧
    new.reading = (suggestion.insertText, false) ∧
    new.start = suggestion.start ∧ new.stop + 1 = (suggestion.applyTo line).cursor ∧
    right'.map Token.reading = right.map Token.reading
  take_applyTo : (suggestion.applyTo line).text.toList.take suggestion.start.toNat =
    line.toList.take suggestion.start.toNat
  space_applyTo :
    (suggestion.applyTo line).text.toList[(suggestion.applyTo line).cursor - 1]? = some ' '

lemma Suggestion.toList_text_applyTo {line : String} {suggestion : Suggestion} {start stop : Nat}
    (hstart : suggestion.start = start) (hstop : suggestion.stop = stop)
    (hle : start ≤ stop) (hlength : stop ≤ line.toList.length) :
    (suggestion.applyTo line).text.toList =
        line.toList.take start ++ suggestion.insertText.toList ++
          ' ' :: Text.dropBlank (line.toList.drop stop) ∧
      (suggestion.applyTo line).cursor = start + suggestion.insertText.toList.length + 1 := by
  simp only [applyTo, Text.before, Text.after, hstart, hstop, Text.place_natCast,
    min_eq_left hlength, min_eq_left (hle.trans hlength), String.toList_ofList,
    List.length_append, List.length_take, List.length_singleton, List.append_assoc,
    List.singleton_append, true_and]
  omega

/-- The edit at an opening of the line. -/
theorem Opening.editsOneToken {line : String} {left replaced right : List Token}
    {start stop : Nat} (opening : Opening line left replaced right start stop)
    {suggestion : Suggestion} (hstart : suggestion.start = start)
    (hstop : suggestion.stop = stop) (hne : suggestion.insertText ≠ "")
    (hblank : ∀ c ∈ suggestion.insertText.toList, Text.isBlank c = false)
    (hquote : ∀ c ∈ suggestion.insertText.toList, isQuote c = false) :
    EditsOneToken line suggestion left replaced right := by
  have cut := opening.cut
  have hword : suggestion.insertText.toList ≠ [] := by
    rwa [ne_eq, String.toList_eq_nil_iff]
  have hbegin := cut.length_take_start
  obtain ⟨htext, hcursor⟩ := Suggestion.toList_text_applyTo hstart hstop cut.start_le_stop
    cut.stop_le_length
  -- the space behind the word ends it, and the blank characters that are dropped end nothing
  have hright : (Scan.tokens stop .gap (' ' :: Text.dropBlank (line.toList.drop stop))).map
      Token.reading = right.map Token.reading := by
    rw [Scan.tokens_gap_cons_blank (by decide), ← cut.tokens_stop]
    exact Scan.map_reading_tokens_gap_dropBlank _ _ _
  obtain ⟨right', htokens, hreading⟩ := cut.exists_tokens_put
    (spells_self hword hblank hquote) (by simp; decide) hright
  rw [← htext] at htokens
  refine ⟨opening.tokenize_eq, ?_, ?_, ?_, ?_,
    ⟨_, right', htokens, ?_, hstart.symm, hcursor.symm, hreading⟩, ?_, ?_⟩
  · intro hempty
    rw [hstart, hstop, Int.natCast_inj] at hempty
    rcases opening.replaced_eq with ⟨-, hreplaced⟩ | ⟨hlt, -⟩
    · exact hreplaced
    · exact absurd hempty hlt.ne
  · intro hrange
    rcases opening.replaced_eq with ⟨hempty, -⟩ | ⟨-, old, hold, rfl, rfl⟩
    · rw [hstart, hstop, hempty] at hrange
      exact absurd rfl hrange
    · exact ⟨old, hold, hstart.symm, hstop.symm⟩
  · intro token htoken
    rw [hstart, Int.ofNat_lt]
    exact cut.stop_lt_of_mem_left htoken
  · intro token htoken
    rw [hstop, Int.ofNat_le]
    exact cut.stop_le_of_mem_right htoken
  · rw [Token.reading, String.ofList_toList]
  · rw [htext, hstart, Int.toNat_natCast, List.append_assoc]
    exact List.take_left' hbegin
  · rw [htext, hcursor, Nat.add_sub_cancel, List.append_assoc]
    rw [List.getElem?_append_right (by omega), hbegin, Nat.add_sub_cancel_left,
      List.getElem?_append_right le_rfl, Nat.sub_self]
    rfl

/-- Accepting a suggestion whose text has characters, none of them blank and none a quote, edits
exactly one token of the line, whatever the line, the cursor and the grammar. -/
theorem editsOneToken_of_mem_complete {line : String} {cursor : Int} {context : Context}
    {registry : Option Registry} {providers : Providers} {suggestion : Suggestion}
    (hoffer : suggestion ∈ (complete line cursor context registry providers).suggestions)
    (hne : suggestion.insertText ≠ "")
    (hblank : ∀ c ∈ suggestion.insertText.toList, Text.isBlank c = false)
    (hquote : ∀ c ∈ suggestion.insertText.toList, isQuote c = false) :
    ∃ left replaced right, EditsOneToken line suggestion left replaced right := by
  obtain ⟨slot, hslot, ⟨hstart, hstop⟩, -⟩ := Request.fits_of_mem_answer hoffer
  obtain ⟨left, replaced, right, start, stop, opening, hfirst, hlast⟩ :=
    Request.exists_opening_of_slot?_eq_some hslot
  exact ⟨left, replaced, right,
    opening.editsOneToken (hstart.trans hfirst) (hstop.trans hlast) hne hblank hquote⟩

/-- The bare slash is replaced from afar, in front of a quoted part that is never closed. -/
theorem editsOneToken_of_mem_complete_slash :
    let model : Suggestion :=
      ⟨"/model", "/model", .command, 0, 0, 1, some "Switch the active model."⟩
    model ∈ (complete "/ 'mod x" 5 {} none .standard).suggestions ∧ model.insertText ≠ "" ∧
      (∀ c ∈ model.insertText.toList, Text.isBlank c = false) ∧
      (∀ c ∈ model.insertText.toList, isQuote c = false) ∧
      ∃ left replaced right, EditsOneToken "/ 'mod x" model left replaced right := by
  intro model
  have hoffer : model ∈ (complete "/ 'mod x" 5 {} none .standard).suggestions := by
    have hrequest : Request.ofLine (Registry.orBuiltin none) "/ 'mod x" 5 =
        .commandName ⟨"", 0, 1⟩ := rfl
    rw [complete, hrequest, Request.answer, Suggestion.commandNames, Suggestion.mem_sorted,
      List.mem_filterMap]
    exact ⟨Grammar.Builtin.model, by
      rw [Registry.orBuiltin, Registry.commands_builtin, Grammar.Builtin.commands]
      exact List.mem_cons_of_mem _ List.mem_cons_self, rfl⟩
  have hne : model.insertText ≠ "" := by decide
  have hall : ("/model".toList.all fun c => Text.isBlank c == false && isQuote c == false) = true :=
    rfl
  have hboth (c : Char) (hc : c ∈ model.insertText.toList) :
      Text.isBlank c = false ∧ isQuote c = false := by
    have hc' := List.all_eq_true.mp hall c hc
    rwa [Bool.and_eq_true, beq_iff_eq, beq_iff_eq] at hc'
  have hblank : ∀ c ∈ model.insertText.toList, Text.isBlank c = false := fun c hc =>
    (hboth c hc).1
  have hquote : ∀ c ∈ model.insertText.toList, isQuote c = false := fun c hc =>
    (hboth c hc).2
  exact ⟨hoffer, hne, hblank, hquote, editsOneToken_of_mem_complete hoffer hne hblank hquote⟩

end SlashCommand
