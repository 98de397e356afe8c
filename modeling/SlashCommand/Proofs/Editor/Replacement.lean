import SlashCommand.Proofs.Completion.Acceptance
import SlashCommand.Proofs.Editor.Protect

/-!
# What a replacement does to a line

A line editor carries a replacement out by the letter: its text stands where the characters up to
the cursor stood, with no space behind it (`Replacement.applyTo`).  What follows the cursor is
still there and could run into the word.  It does not where the cursor is at the end of its token,
since a token ends in front of a blank character or at the end of the line, nor in a gap with a
blank character or nothing on its right.  There the line with the replacement has the tokens it had
before, and the word in the place that the cursor is in (`textsWith`).

A replacement never begins on the right of the cursor, nor in front of the line.
-/

namespace SlashCommand

open Grammar (Registry)
open Line

namespace Editor

/-! ## The edited line -/

/-- The line in which a replacement has been carried out at a cursor. -/
def Replacement.applyTo (replacement : Replacement) (line : String) (cursor : Nat) : String :=
  String.ofList (line.toList.take (cursor + replacement.offset).toNat ++
    replacement.text.toList ++ line.toList.drop cursor)

variable {line : String} {cursor start : Nat} {suggestion : Suggestion}

/-- A suggestion goes in the place of what stands between its start and the cursor. -/
lemma toList_applyTo_ofSuggestion (hstart : suggestion.start = start) (hle : start ≤ cursor) :
    ((Replacement.ofSuggestion cursor suggestion).applyTo line cursor).toList =
      line.toList.take start ++ (protect suggestion.insertText).toList ++
        line.toList.drop cursor := by
  have hplace : ((cursor : Int) + (min suggestion.start cursor - cursor)).toNat = start := by
    omega
  simp only [Replacement.applyTo, Replacement.ofSuggestion, hplace, String.toList_ofList]

/-- A replacement at an opening that the cursor is at the end of: the tokens on both sides stay,
and between them stands the word, if nothing that could extend it follows. -/
lemma map_text_tokenize_applyTo {left replaced right : List Token}
    (opening : Opening line left replaced right start cursor)
    (hstart : suggestion.start = start)
    (hword : Text.hasBlank suggestion.insertText = true ∨
      suggestion.insertText ≠ "" ∧ ∀ c ∈ suggestion.insertText.toList, isQuote c = false)
    (hbehind : ∀ c ∈ (line.toList.drop cursor).head?, Text.isBlank c = true) :
    (tokenize ((Replacement.ofSuggestion cursor suggestion).applyTo line cursor)).map (·.text) =
      left.map (·.text) ++ suggestion.insertText :: right.map (·.text) := by
  have cut := opening.cut
  obtain ⟨right', htokens, hreading⟩ := cut.exists_tokens_put (spells_protect hword) hbehind
    (congrArg (List.map Token.reading) cut.tokens_stop)
  rw [tokenize, toList_applyTo_ofSuggestion hstart cut.start_le_stop, htokens, List.map_append,
    List.map_cons, map_text_eq_of_map_reading_eq hreading, String.ofList_toList]

/-! ## The place of the word -/

/-- The texts of a line's tokens with a word put in at a cursor: in the place of the token that
the cursor is in, or between the tokens on both sides of the gap that it is in. -/
def textsWith (line : String) (cursor : Nat) (word : String) : List String :=
  match (focus line cursor).active with
  | some index => ((tokenize line).map (·.text)).set index word
  | none =>
    ((tokenize line).filter (·.start < cursor)).map (·.text) ++
      word :: ((tokenize line).filter (cursor ≤ ·.start)).map (·.text)

/-- What the cursor sees at the end of an opening: the token of the opening, or a gap. -/
lemma active_focus_of_opening {left replaced right : List Token}
    (opening : Opening line left replaced right start cursor) :
    (focus line cursor).active = replaced.head?.map fun _ => left.length := by
  have hclamp : clamp line.length cursor = cursor := by
    rw [clamp, Int.toNat_natCast, min_eq_left (String.length_toList ▸ opening.cut.stop_le_length)]
  cases opening with
  | gap htokens cut =>
    rw [focus_of_run_eq_gap (by rw [hclamp]; exact cut.run_start)]
    rfl
  | token htokens cut =>
    have hinside := Scan.inside_of_mem_tokens_gap
      (htokens ▸ List.mem_append_right left List.mem_cons_self)
    have hlt := hinside.start_lt_stop
    have hleft : ∀ other ∈ left, other.stop < clamp line.length _ := fun other hother => by
      rw [hclamp]
      exact (cut.stop_lt_of_mem_left hother).trans hlt
    rw [focus_of_tokenize_eq htokens hleft (by rwa [hclamp]) (by rw [hclamp])]
    rfl

/-- At the end of an opening, the place of the word is that of the opening. -/
lemma textsWith_eq_of_opening {left replaced right : List Token}
    (opening : Opening line left replaced right start cursor) (word : String) :
    textsWith line cursor word = left.map (·.text) ++ word :: right.map (·.text) := by
  rw [textsWith, active_focus_of_opening opening]
  cases opening with
  | gap htokens cut =>
    have hleft : ∀ token ∈ left, token.start < cursor := by
      intro token htoken
      have hinside := Scan.inside_of_mem_tokens_gap (htokens ▸ List.mem_append_left right htoken)
      exact hinside.start_lt_stop.trans (cut.stop_lt_of_mem_left htoken)
    have hright : ∀ token ∈ right, cursor ≤ token.start := fun token =>
      cut.stop_le_of_mem_right
    have hbefore : (tokenize line).filter (·.start < cursor) = left := by
      rw [htokens, List.filter_append, List.filter_eq_self.mpr (by simpa using hleft),
        List.filter_eq_nil_iff.mpr (by simpa using hright), List.append_nil]
    have hbehind : (tokenize line).filter (cursor ≤ ·.start) = right := by
      rw [htokens, List.filter_append, List.filter_eq_nil_iff.mpr (by simpa using hleft),
        List.filter_eq_self.mpr (by simpa using hright), List.nil_append]
    simp only [List.head?_nil, Option.map_none, hbefore, hbehind]
  | token htokens cut =>
    simp [htokens]

/-! ## Everything on offer -/

/-- A cursor that no character can be read into the token from: it is at the end of its token, or
in a gap with nothing or a blank character on its right. -/
def AtEnd (line : String) (cursor : Nat) : Prop :=
  ((focus line cursor).inGap = false ∧ (focus line cursor).stop = cursor) ∨
  ((focus line cursor).inGap = true ∧
    (cursor = line.length ∨ ∃ c, line.toList[cursor]? = some c ∧ Text.isBlank c = true))

lemma AtEnd.isBlank_of_mem_head? (h : AtEnd line cursor) :
    ∀ c ∈ (line.toList.drop cursor).head?, Text.isBlank c = true := by
  rcases h with ⟨hactive, hstop⟩ | ⟨-, rfl | ⟨blank, hget, hblank⟩⟩
  · cases hrun : Scan.gap.run 0 (line.toList.take (clamp line.length cursor)) with
    | gap =>
      rw [inGap_focus_iff.mpr hrun] at hactive
      exact nomatch hactive
    | within pending =>
      obtain ⟨left, token, right, htokens, -, -, -, -, hfocus⟩ := focus_of_run_eq_within hrun
      rw [hfocus] at hstop
      have hmem : token ∈ tokenize line := by
        rw [htokens]
        exact List.mem_append_right left List.mem_cons_self
      rw [← hstop]
      exact (Scan.isBlank_of_mem_tokens hmem).2
  · simp [← String.length_toList]
  · rw [List.head?_drop, hget]
    simpa using hblank

/-- The replacements on offer keep a word one token.  Every one of them begins on the left of the
cursor and not in front of the line.  And wherever the cursor is at the end of its token, or in a
gap with nothing or a blank character on its right, a suggestion that replaces no more than what is
on the left of the cursor leaves the tokens of the line as they are and puts its own text in the
place of the token or into the gap, if the text has blank characters or has characters at all and
none of them is a quote. -/
theorem map_text_tokenize_applyTo_of_mem_complete (line : String) (cursor : Nat)
    (context : Context) (given : Option Registry) :
    (∀ replacement ∈ replacements line cursor context given,
      -(cursor : Int) ≤ replacement.offset ∧ replacement.offset ≤ 0) ∧
    ∀ suggestion ∈ (complete line cursor context given .standard).suggestions,
      AtEnd line cursor → suggestion.stop = cursor →
      (Text.hasBlank suggestion.insertText = true ∨
        suggestion.insertText ≠ "" ∧ ∀ c ∈ suggestion.insertText.toList, isQuote c = false) →
      (tokenize ((Replacement.ofSuggestion cursor suggestion).applyTo line cursor)).map (·.text) =
        textsWith line cursor suggestion.insertText := by
  constructor
  · intro replacement hreplacement
    obtain ⟨suggestion, hoffer, rfl⟩ := List.mem_map.mp hreplacement
    obtain ⟨slot, hslot, hfits, -⟩ := Request.fits_of_mem_answer hoffer
    obtain ⟨-, -, -, start, -, -, hstart, -⟩ := Request.exists_opening_of_slot?_eq_some hslot
    have hbegin : suggestion.start = start := hfits.start_eq.trans hstart
    simp only [Replacement.ofSuggestion, hbegin]
    omega
  · intro suggestion hoffer hend hstop hword
    obtain ⟨slot, hslot, hfits, -⟩ := Request.fits_of_mem_answer hoffer
    obtain ⟨left, replaced, right, start, stop, opening, hfirst, hlast⟩ :=
      Request.exists_opening_of_slot?_eq_some hslot
    obtain rfl : stop = cursor := by
      have := hfits.stop_eq.trans hlast
      omega
    rw [map_text_tokenize_applyTo opening (hfits.start_eq.trans hfirst) hword
      hend.isBlank_of_mem_head?, textsWith_eq_of_opening opening]

/-- A model name with blank characters and quotes goes in the place of the token that is being
typed, in front of a quoted part that is never closed. -/
theorem map_text_tokenize_applyTo_of_mem_complete_quoted :
    let fast : Suggestion :=
      ⟨"fast \"big\" one", "fast \"big\" one", .argument, 1011 / 100, 7, 10,
        some "Model to activate"⟩
    fast ∈ (complete "/model fas  'open" 10 { models := [fast.insertText] } none
        .standard).suggestions ∧
      AtEnd "/model fas  'open" 10 ∧ fast.stop = (10 : Nat) ∧
      Text.hasBlank fast.insertText = true ∧
      (Replacement.ofSuggestion 10 fast).applyTo "/model fas  'open" 10 =
        "/model \"fast \\\"big\\\" one\"  'open" ∧
      (tokenize ((Replacement.ofSuggestion 10 fast).applyTo "/model fas  'open" 10)).map (·.text) =
        ["/model", "fast \"big\" one", "open"] := by
  intro fast
  have hoffer : fast ∈ (complete "/model fas  'open" 10 { models := [fast.insertText] } none
      .standard).suggestions := by
    have hrequest : Request.ofLine (Registry.orBuiltin none) "/model fas  'open" 10 =
        .node (Walk.along Grammar.Builtin.model []) ⟨"fas", 7, 10⟩ none := by
      have hfocus : focus "/model fas  'open" 10 =
          ⟨tokenize "/model fas  'open", some 1, "fas", 7, 10⟩ := by decide +kernel
      rw [Request.ofLine, if_pos (by decide +kernel), hfocus]
      rfl
    rw [complete, hrequest]
    exact List.mem_append_left _ (Suggestion.mem_nodes_of_scoreOf_eq_some List.mem_cons_self
      List.mem_cons_self (by decide +kernel))
  have hend : AtEnd "/model fas  'open" 10 := .inl (by decide +kernel)
  have hblank : Text.hasBlank fast.insertText = true := by decide
  have htexts : textsWith "/model fas  'open" 10 fast.insertText =
      ["/model", "fast \"big\" one", "open"] := by decide +kernel
  refine ⟨hoffer, hend, rfl, hblank, by decide +kernel, ?_⟩
  rw [← htexts]
  exact (map_text_tokenize_applyTo_of_mem_complete "/model fas  'open" 10 _ none).2 fast hoffer
    hend rfl (.inl hblank)

end Editor

end SlashCommand
