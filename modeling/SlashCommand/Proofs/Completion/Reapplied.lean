import SlashCommand.Proofs.Completion.Acceptance
import SlashCommand.Proofs.Completion.Repeats

/-!
# Accepting a suggestion again

Once a suggestion has been accepted, the cursor behind the accepted word finds the same suggestion
on offer, and accepting it again changes nothing.  The accepted word is a token of its own with
the same complete tokens in front of it (`Opening.focus_applyTo`), so the walk comes to the same
state, where the word is on offer again.  The second edit replaces the word by itself, and there
is nothing left behind the space that could be dropped (`Opening.applyTo_applyTo`).

The first cursor has to be in a token or behind the last one.  In a gap with tokens on its right
the offer depends on those as well, and afterwards they stand behind the accepted word and not in
front of it.
-/

namespace SlashCommand

open Grammar (Registry)
open Line

/-- A line without tokens is blank. -/
lemma Line.Scan.dropBlank_eq_nil_of_tokens_eq_nil {cs : List Char} (h : tokens 0 gap cs = []) :
    Text.dropBlank cs = [] := by
  obtain ⟨skipped, htokens⟩ := tokens_gap_dropBlank 0 cs
  cases hdrop : Text.dropBlank cs with
  | nil => rfl
  | cons c rest =>
    -- the first character that is not blank would begin a token
    have hblank := Text.not_isBlank_of_dropBlank_eq_cons hdrop
    rcases step_gap (0 + skipped) c with ⟨-, hc⟩ | ⟨pending, hstep, -, -⟩
    · exact absurd hc (by simp [hblank])
    · obtain ⟨token, hbehind, -⟩ := tokens_within (0 + skipped + 1) pending rest
      rw [hdrop, tokens, hstep, hbehind, h] at htokens
      exact absurd htokens.symm (List.cons_ne_nil token _)

namespace Opening

variable {line : String} {left replaced right : List Token} {start stop : Nat}
  {suggestion : Suggestion}

/-- The edited line: what stood in front of the range, the accepted word, the space, and what
stood behind the range without the blank characters it began with. -/
lemma exists_toList_applyTo (opening : Opening line left replaced right start stop)
    (hstart : suggestion.start = start) (hstop : suggestion.stop = stop) :
    ∃ after, (suggestion.applyTo line).text.toList =
        line.toList.take start ++ suggestion.insertText.toList ++ ' ' :: after ∧
      Text.dropBlank after = after ∧ (line.toList.take start).length = start ∧
      (suggestion.applyTo line).cursor = start + suggestion.insertText.toList.length + 1 := by
  have cut := opening.cut
  obtain ⟨htext, hcursor⟩ := Suggestion.toList_text_applyTo hstart hstop cut.start_le_stop
    cut.stop_le_length
  exact ⟨Text.dropBlank (line.toList.drop stop), htext, Text.dropBlank_dropBlank _,
    cut.length_take_start, hcursor⟩

/-- Accepting a word leaves a command line what it is, where the word is that of a command if no
token stands in front of it. -/
lemma isCommandLine_applyTo (opening : Opening line left replaced right start stop)
    (hstart : suggestion.start = start) (hstop : suggestion.stop = stop)
    (hcommand : Completion.isCommandLine line = true)
    (hslash : left = [] → suggestion.insertText.toList.head? = some '/') :
    Completion.isCommandLine (suggestion.applyTo line).text = true := by
  have cut := opening.cut
  obtain ⟨after, htext, -, hbegin, -⟩ := opening.exists_toList_applyTo hstart hstop
  have htokens := cut.tokenize_take_start
  cases left with
  | cons first rest =>
    -- the command stands in front of the range and is not touched
    have htake : (suggestion.applyTo line).text.toList.take start = line.toList.take start := by
      rw [htext, List.append_assoc]
      exact List.take_left' hbegin
    have hbefore : Completion.isCommandLine (String.ofList (line.toList.take start)) = true := by
      rcases @Completion.isCommandLine_take line start hcommand with ⟨htrue, -⟩ | ⟨-, hnil⟩
      · exact htrue
      · exact absurd (htokens.symm.trans hnil) (List.cons_ne_nil first rest)
    rw [← htake] at hbefore
    exact Completion.isCommandLine_of_isCommandLine_take hbefore
  | nil =>
    -- the range is that of the command, with nothing but blank characters in front of it
    rw [tokenize, String.toList_ofList] at htokens
    have hblank := Scan.dropBlank_eq_nil_of_tokens_eq_nil htokens
    obtain ⟨name, hname⟩ := List.head?_eq_some_iff.mp (hslash rfl)
    have hdrop : Text.dropBlank (suggestion.applyTo line).text.toList =
        '/' :: (name ++ ' ' :: after) := by
      rw [Text.dropBlank] at hblank
      rw [htext, hname, List.append_assoc, Text.dropBlank, List.dropWhile_append, hblank,
        List.isEmpty_nil, if_pos rfl, List.cons_append, ← Text.dropBlank]
      exact Text.dropBlank_cons_of_not_isBlank (by decide) _
    exact Completion.isCommandLine_iff.mpr ⟨_, hdrop⟩

/-- Behind an accepted word, the cursor sees that word as the stem, with the same tokens in front
of it. -/
lemma focus_applyTo (opening : Opening line left replaced right start stop)
    (hstart : suggestion.start = start) (hstop : suggestion.stop = stop)
    (hne : suggestion.insertText ≠ "")
    (hblank : ∀ c ∈ suggestion.insertText.toList, Text.isBlank c = false)
    (hquote : ∀ c ∈ suggestion.insertText.toList, isQuote c = false) :
    ∃ (new : Token) (right' : List Token),
      tokenize (suggestion.applyTo line).text = left ++ new :: right' ∧ new.start = start ∧
      new.stop + 1 = (suggestion.applyTo line).cursor ∧
      focus (suggestion.applyTo line).text ((suggestion.applyTo line).cursor - 1) =
        ⟨tokenize (suggestion.applyTo line).text, some left.length, suggestion.insertText,
          new.start, new.stop⟩ := by
  obtain ⟨after, htext, -, hbegin, hend⟩ := opening.exists_toList_applyTo hstart hstop
  have edits := opening.editsOneToken hstart hstop hne hblank hquote
  obtain ⟨new, right', htokens, -, hnew, hcursor, -⟩ := edits.tokenize_applyTo
  have hinside : new.Inside 0 (0 + (suggestion.applyTo line).text.toList.length) := by
    apply Scan.inside_of_mem_tokens_gap
    rw [← tokenize, htokens]
    exact List.mem_append_right left List.mem_cons_self
  have hlt := hinside.start_lt_stop
  have hlast := hinside.stop_le_last
  rw [String.length_toList] at hlast
  have hnewStart : new.start = start := by omega
  have hnewStop : new.stop = start + suggestion.insertText.toList.length := by omega
  have hclamp : clamp (suggestion.applyTo line).text.length
      ((suggestion.applyTo line).cursor - 1) = new.stop := by
    rw [clamp]
    omega
  have hleft : ∀ other ∈ left, other.stop < new.stop := by
    intro other hother
    have hbefore := opening.cut.stop_lt_of_mem_left hother
    omega
  have hstem : stemBetween (suggestion.applyTo line).text.toList new.start new.stop =
      suggestion.insertText.toList := by
    have htake : (suggestion.applyTo line).text.toList.take new.stop =
        line.toList.take start ++ suggestion.insertText.toList := by
      rw [htext]
      exact List.take_left' (by rw [List.length_append, hbegin, hnewStop])
    have hdrop : ((suggestion.applyTo line).text.toList.take new.stop).drop new.start =
        suggestion.insertText.toList := by
      rw [htake, hnewStart]
      exact List.drop_left' hbegin
    rw [stemBetween, hdrop]
    cases hchars : suggestion.insertText.toList with
    | nil => rfl
    | cons c cs =>
      have hc : isQuote c = false := hquote c (hchars ▸ List.mem_cons_self)
      simp [hc]
  refine ⟨new, right', htokens, hnewStart, hcursor, ?_⟩
  rw [focus_of_tokenize_eq htokens (by rwa [hclamp]) (by rwa [hclamp]) hclamp.le, hclamp, hstem,
    String.ofList_toList]

/-- Accepting a word a second time puts it in its own place. -/
lemma applyTo_applyTo (opening : Opening line left replaced right start stop)
    (hstart : suggestion.start = start) (hstop : suggestion.stop = stop) {again : Suggestion}
    (hrepeats : suggestion.Repeats start ((suggestion.applyTo line).cursor - 1) again) :
    again.applyTo (suggestion.applyTo line).text = suggestion.applyTo line := by
  obtain ⟨after, htext, hafter, hbegin, hend⟩ := opening.exists_toList_applyTo hstart hstop
  have hstop' : again.stop = (start + suggestion.insertText.toList.length : Nat) := by
    rw [hrepeats.stop_eq]
    omega
  have hlength : start + suggestion.insertText.toList.length ≤
      (suggestion.applyTo line).text.toList.length := by
    rw [htext, List.length_append, List.length_append, hbegin]
    omega
  obtain ⟨htext', hend'⟩ := Suggestion.toList_text_applyTo hrepeats.start_eq hstop'
    (Nat.le_add_right _ _) hlength
  have htake : (suggestion.applyTo line).text.toList.take start = line.toList.take start := by
    rw [htext, List.append_assoc]
    exact List.take_left' hbegin
  have hdrop : (suggestion.applyTo line).text.toList.drop
      (start + suggestion.insertText.toList.length) = ' ' :: after := by
    rw [htext]
    exact List.drop_left' (by rw [List.length_append, hbegin])
  have hspace : Text.dropBlank (' ' :: after) = after := by
    rw [Text.dropBlank, List.dropWhile_cons, if_pos (by decide), ← Text.dropBlank, hafter]
  have hsame : (again.applyTo (suggestion.applyTo line).text).text =
      (suggestion.applyTo line).text := by
    rw [← String.toList_inj, htext', htake, hdrop, hspace, hrepeats.insertText_eq, ← htext]
  have hcursor : (again.applyTo (suggestion.applyTo line).text).cursor =
      (suggestion.applyTo line).cursor := by
    rw [hend', hend, hrepeats.insertText_eq]
  exact congrArg₂ Edited.mk hsame hcursor

end Opening

/-! ## The request before and after -/

namespace Request

variable {registry : Registry} {line : String} {cursor : Int}

/-- In a token and behind the last one, the word under the cursor is asked for behind the tokens
in front of it, all of them complete. -/
lemma exists_opening_ofSettled (registry : Registry)
    (hcommand : Completion.isCommandLine line = true)
    (hplace : (∃ token ∈ tokenize line,
        token.start < clamp line.length cursor ∧ clamp line.length cursor ≤ token.stop) ∨
      ∀ token ∈ tokenize line, token.start < clamp line.length cursor) :
    ∃ (left replaced right : List Token) (start stop : Nat) (stem : String),
      Opening line left replaced right start stop ∧
      ofLine registry line cursor = ofSettled registry left ⟨stem, start, stop⟩ := by
  cases hrun : Scan.gap.run 0 (line.toList.take (clamp line.length cursor)) with
  | within pending =>
    obtain ⟨left, token, right, htokens, cut, -, -, -, hfocus⟩ := focus_of_run_eq_within hrun
    exact ⟨left, [token], right, _, _, _, .token htokens cut,
      ofLine_of_active registry hcommand htokens hfocus⟩
  | gap =>
    obtain ⟨left, right, htokens, cut⟩ := cut_of_run_eq_gap (clamp_le_length line cursor) hrun
    have hbehind : ∀ token ∈ tokenize line, token.start < clamp line.length cursor := by
      rcases hplace with ⟨token, htoken, hstart, hstop⟩ | hbehind
      · obtain ⟨pending, hwithin⟩ := exists_run_eq_within_of_mem htoken hstart hstop
        exact nomatch hrun.symm.trans hwithin
      · exact hbehind
    have hright : right = [] := by
      rw [List.eq_nil_iff_forall_not_mem]
      intro token htoken
      have hlt := hbehind token (by rw [tokenize, htokens]; exact List.mem_append_right left htoken)
      have hle := cut.stop_le_of_mem_right htoken
      omega
    have hleft : tokenize line = left := by rw [tokenize, htokens, hright, List.append_nil]
    refine ⟨left, [], right, _, _, "", .gap htokens cut, ?_⟩
    rw [← hleft]
    exact ofLine_of_inGap registry hcommand (focus_of_run_eq_gap hrun)

/-- The same, with the bare slash counted as the word that is typed: a command asked for from
behind the slash is asked for in the place of the slash. -/
lemma exists_opening_ofSettled_ne_slash (registry : Registry)
    (hcommand : Completion.isCommandLine line = true)
    (hplace : (∃ token ∈ tokenize line,
        token.start < clamp line.length cursor ∧ clamp line.length cursor ≤ token.stop) ∨
      ∀ token ∈ tokenize line, token.start < clamp line.length cursor) :
    ∃ (left replaced right : List Token) (start stop : Nat) (stem : String),
      Opening line left replaced right start stop ∧ (∀ first ∈ left.head?, first.text ≠ "/") ∧
      ofLine registry line cursor = ofSettled registry left ⟨stem, start, stop⟩ := by
  obtain ⟨left, replaced, right, start, stop, stem, opening, hrequest⟩ :=
    exists_opening_ofSettled registry hcommand hplace
  cases left with
  | nil => exact ⟨[], replaced, right, start, stop, stem, opening, by simp, hrequest⟩
  | cons first rest =>
    by_cases hslash : first.text = "/"
    · have hfirst : tokenize line = first :: (rest ++ replaced ++ right) := opening.tokenize_eq
      refine ⟨[], [first], _, _, _, "", .token hfirst (cut_of_tokens_eq_cons hfirst), by simp, ?_⟩
      simp only [hrequest, ofSettled, if_pos hslash]
      rfl
    · exact ⟨first :: rest, replaced, right, start, stop, stem, opening, by simpa using hslash,
        hrequest⟩

lemma eq_of_slot?_ofSettled_eq_some {left : List Token}
    (hleft : ∀ first ∈ left.head?, first.text ≠ "/") {slot slot' : Slot}
    (h : (ofSettled registry left slot).slot? = some slot') :
    slot'.start = slot.start ∧ slot'.stop = slot.stop := by
  cases left with
  | nil =>
    obtain rfl := Option.some.inj h
    exact ⟨rfl, rfl⟩
  | cons first rest =>
    rw [ofSettled, if_neg (hleft first rfl)] at h
    cases hcommand : registry.get? (Completion.dropSlash first.text) with
    | none =>
      rw [hcommand] at h
      exact absurd h.symm (Option.some_ne_none slot')
    | some command =>
      rw [hcommand] at h
      obtain rfl := eq_of_slot?_ofState_eq_some h
      exact ⟨rfl, rfl⟩

end Request

/-- Accepting a suggestion is stable.  With the cursor in a token or behind the last one, and a
suggestion whose text has characters, none of them blank and none a quote, and begins with a dash
only if it is that of a flag or of a flag's value: behind the accepted word the same suggestion is
on offer again, and accepting it a second time leaves the line and the cursor as they are. -/
theorem exists_mem_complete_applyTo {line : String} {cursor : Int} {context : Context}
    {given : Option Registry} {providers : Providers} {suggestion : Suggestion}
    (hplace : (∃ token ∈ tokenize line,
        token.start < clamp line.length cursor ∧ clamp line.length cursor ≤ token.stop) ∨
      ∀ token ∈ tokenize line, token.start < clamp line.length cursor)
    (hoffer : suggestion ∈ (complete line cursor context given providers).suggestions)
    (hne : suggestion.insertText ≠ "")
    (hblank : ∀ c ∈ suggestion.insertText.toList, Text.isBlank c = false)
    (hquote : ∀ c ∈ suggestion.insertText.toList, isQuote c = false)
    (hdash : suggestion.insertText.toList.head? = some '-' →
      suggestion.kind = .flag ∨ suggestion.kind = .flagValue) :
    let edited := suggestion.applyTo line
    ∃ again ∈ (complete edited.text (edited.cursor - 1) context given providers).suggestions,
      again.label = suggestion.label ∧ again.insertText = suggestion.insertText ∧
        again.applyTo edited.text = edited := by
  intro edited
  have hcommand : Completion.isCommandLine line = true := by
    by_contra hnot
    rw [complete_of_not_isCommandLine hnot] at hoffer
    exact nomatch hoffer
  obtain ⟨left, replaced, right, start, stop, stem, opening, hleft, hrequest⟩ :=
    Request.exists_opening_ofSettled_ne_slash (Registry.orBuiltin given) hcommand hplace
  simp only [complete, hrequest] at hoffer
  obtain ⟨slot, hslot, hfits, -⟩ := Request.fits_of_mem_answer hoffer
  obtain ⟨hfirst, hlast⟩ := Request.eq_of_slot?_ofSettled_eq_some hleft hslot
  have hstart : suggestion.start = start := hfits.start_eq.trans hfirst
  have hstop : suggestion.stop = stop := hfits.stop_eq.trans hlast
  have hslash : left = [] → suggestion.insertText.toList.head? = some '/' := by
    rintro rfl
    obtain ⟨-, -, command, -, -, htext⟩ := Suggestion.fits_of_mem_commandNames hoffer
    simp [htext]
  -- the second request: behind the same tokens, with the accepted word for a stem
  have hcommand' := opening.isCommandLine_applyTo hstart hstop hcommand hslash
  obtain ⟨new, right', htokens, hbegin, hend, hfocus⟩ :=
    opening.focus_applyTo hstart hstop hne hblank hquote
  have hrequest' :=
    Request.ofLine_of_active (Registry.orBuiltin given) hcommand' htokens hfocus
  obtain ⟨again, hagain, hrepeats⟩ :=
    Request.exists_again_ofSettled hleft hoffer hdash new.start new.stop
  have hcursor : (new.stop : Int) = edited.cursor - 1 := by
    rw [← hend]
    omega
  refine ⟨again, ?_, hrepeats.label_eq, hrepeats.insertText_eq, ?_⟩
  · simp only [complete]
    rwa [hrequest']
  · rw [hbegin, hcursor] at hrepeats
    exact opening.applyTo_applyTo hstart hstop hrepeats

/-- A flag that is listed behind the nodes is asked for among the flags once it is accepted. -/
theorem exists_mem_complete_applyTo_flag :
    let layer : Suggestion :=
      ⟨"--layer", "--layer", .flag, 100, 13, 13, some "Filter by memory layer"⟩
    (∀ token ∈ tokenize "/memory list ", token.start < clamp "/memory list ".length 13) ∧
      layer ∈ (complete "/memory list " 13 {} none .standard).suggestions ∧
      layer.insertText ≠ "" ∧ (∀ c ∈ layer.insertText.toList, Text.isBlank c = false) ∧
      (∀ c ∈ layer.insertText.toList, isQuote c = false) ∧ layer.kind = .flag ∧
      layer.applyTo "/memory list " = ⟨"/memory list --layer ", 21⟩ ∧
      ∃ again ∈ (complete "/memory list --layer " 20 {} none .standard).suggestions,
        again.label = "--layer" ∧ again.insertText = "--layer" ∧
          again.applyTo "/memory list --layer " = ⟨"/memory list --layer ", 21⟩ := by
  intro layer
  have hplace : ∀ token ∈ tokenize "/memory list ",
      token.start < clamp "/memory list ".length 13 := by decide +kernel
  have hoffer : layer ∈ (complete "/memory list " 13 {} none .standard).suggestions := by
    have hrequest : Request.ofLine (Registry.orBuiltin none) "/memory list " 13 =
        .node (Walk.along Grammar.Builtin.memory ["list"]) ⟨"", 13, 13⟩ none := rfl
    have hoffered : Suggestion.offered (Walk.along Grammar.Builtin.memory ["list"]).usedFlags []
        (Walk.along Grammar.Builtin.memory ["list"]).availableFlags =
          Grammar.Builtin.memoryFilters := rfl
    rw [complete, hrequest]
    apply List.mem_append_right
    rw [if_pos rfl, Suggestion.flags, Suggestion.mem_sorted, List.mem_filterMap, hoffered]
    exact ⟨_, List.mem_cons_of_mem _ List.mem_cons_self, by decide +kernel⟩
  have hne : layer.insertText ≠ "" := by decide
  have hall :
      ("--layer".toList.all fun c => Text.isBlank c == false && isQuote c == false) = true := rfl
  have hboth (c : Char) (hc : c ∈ layer.insertText.toList) :
      Text.isBlank c = false ∧ isQuote c = false := by
    have hc' := List.all_eq_true.mp hall c hc
    rwa [Bool.and_eq_true, beq_iff_eq, beq_iff_eq] at hc'
  have hblank : ∀ c ∈ layer.insertText.toList, Text.isBlank c = false := fun c hc =>
    (hboth c hc).1
  have hquote : ∀ c ∈ layer.insertText.toList, isQuote c = false := fun c hc =>
    (hboth c hc).2
  have hedited : layer.applyTo "/memory list " = ⟨"/memory list --layer ", 21⟩ := by
    decide +kernel
  obtain ⟨again, hagain, hlabel, htext, happly⟩ :=
    exists_mem_complete_applyTo (.inr hplace) hoffer hne hblank hquote fun _ => .inl rfl
  rw [hedited] at hagain happly
  exact ⟨hplace, hoffer, hne, hblank, hquote, rfl, hedited, again, hagain, hlabel, htext, happly⟩

end SlashCommand
