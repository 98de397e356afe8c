import SlashCommand.Completion
import SlashCommand.Proofs.Completion.Offer
import SlashCommand.Proofs.Line.Cut
import SlashCommand.Proofs.Text.Strip

/-!
# What a line asks for

`ofLine_cases` says once what a request can be: nothing on a line that is no command, a command
name where the command's token is active or a bare slash, and otherwise whatever the look-up of
the command's name leads to.  The theorems on completion go through it and never open `ofFocus`.

Where the cursor is in a token, or behind the last one, the request depends on the complete tokens
in front of it and on nothing else of the line.  `ofSettled` is the request as a function of those
tokens (`ofLine_of_active`, `ofLine_of_inGap`).

Whatever a request asks for, it asks for it in one slot, and what is on offer replaces the range
of that slot (`fits_of_mem_answer`).
-/

namespace SlashCommand

open Grammar (Command Flag Registry)
open Line

namespace Completion

lemma dropSlash_of_toList_eq_cons {s : String} {name : List Char} (h : s.toList = '/' :: name) :
    dropSlash s = String.ofList name := by
  rw [dropSlash, h]
  rfl

lemma toList_slash_append (name : String) : ("/" ++ name).toList = '/' :: name.toList := by
  rw [String.toList_append]
  rfl

@[simp] lemma dropSlash_slash_append (name : String) : dropSlash ("/" ++ name) = name := by
  rw [dropSlash_of_toList_eq_cons (toList_slash_append name), String.ofList_toList]

lemma isCommandLine_iff {line : String} :
    isCommandLine line = true ↔ ∃ cs, Text.dropBlank line.toList = '/' :: cs := by
  rw [isCommandLine]
  split
  · next cs hline => exact ⟨fun _ => ⟨cs, hline⟩, fun _ => rfl⟩
  · next hline => exact ⟨nofun, fun ⟨cs, hcs⟩ => absurd hcs (hline cs)⟩

/-- A line that begins with the slash is a command line. -/
lemma isCommandLine_slash_append (name rest : String) :
    isCommandLine ("/" ++ name ++ rest) = true := by
  refine isCommandLine_iff.mpr ⟨name.toList ++ rest.toList, ?_⟩
  rw [String.toList_append, toList_slash_append, List.cons_append]
  exact Text.dropBlank_cons_of_not_isBlank (by decide) _

/-- A command line has a first token. -/
lemma exists_tokenize_of_isCommandLine {line : String} (h : isCommandLine line = true) :
    ∃ first rest, tokenize line = first :: rest := by
  obtain ⟨cs, hline⟩ := isCommandLine_iff.mp h
  obtain ⟨first, rest, hfirst, -⟩ := exists_tokenize_eq_cons hline
  exact ⟨first, rest, hfirst⟩

variable {line : String} {place : Nat}

/-- The left part of a command line is a command line, or it is blank and has no tokens. -/
lemma isCommandLine_take (hcommand : isCommandLine line = true) :
    (isCommandLine (String.ofList (line.toList.take place)) = true ∧
      tokenize (String.ofList (line.toList.take place)) ≠ []) ∨
    (isCommandLine (String.ofList (line.toList.take place)) = false ∧
      tokenize (String.ofList (line.toList.take place)) = []) := by
  obtain ⟨cs, hline⟩ := isCommandLine_iff.mp hcommand
  rcases htake : Text.dropBlank (line.toList.take place) with _ | ⟨c, taken⟩
  · refine .inr ⟨?_, ?_⟩
    · rw [isCommandLine, String.toList_ofList, htake]
    · obtain ⟨skipped, htokens⟩ := Scan.tokens_gap_dropBlank 0 (line.toList.take place)
      rw [tokenize, String.toList_ofList, htokens, htake]
      rfl
  · rw [Text.dropBlank_of_dropBlank_take_eq_cons htake] at hline
    obtain rfl := (List.cons.inj hline).1
    have htaken : Text.dropBlank (String.ofList (line.toList.take place)).toList =
        '/' :: taken := by
      rw [String.toList_ofList, htake]
    have hcommand' := isCommandLine_iff.mpr ⟨taken, htaken⟩
    obtain ⟨first, rest, hfirst⟩ := exists_tokenize_of_isCommandLine hcommand'
    refine .inl ⟨hcommand', ?_⟩
    rw [hfirst]
    exact List.cons_ne_nil first rest

lemma isCommandLine_of_isCommandLine_take
    (h : isCommandLine (String.ofList (line.toList.take place)) = true) :
    isCommandLine line = true := by
  obtain ⟨cs, htake⟩ := isCommandLine_iff.mp h
  rw [String.toList_ofList] at htake
  exact isCommandLine_iff.mpr ⟨_, Text.dropBlank_of_dropBlank_take_eq_cons htake⟩

end Completion

namespace Request

/-! ## In a state of the walk

Four conditions on the state and the stem, of which one is met, decide what is asked for. -/

lemma freeText_or_pending_or_dash (state : Walk.State) (slot : Slot) :
    state.freeText = true ∨
    (state.freeText = false ∧ ∃ flag, state.pending = some flag) ∨
    (state.freeText = false ∧ state.pending = none ∧ slot.stem.toList.head? = some '-') ∨
    (state.freeText = false ∧ state.pending = none ∧ slot.stem.toList.head? ≠ some '-') := by
  cases hfree : state.freeText with
  | true => exact .inl rfl
  | false =>
    cases hpending : state.pending with
    | some flag => exact .inr (.inl ⟨rfl, flag, rfl⟩)
    | none =>
      by_cases hdash : slot.stem.toList.head? = some '-'
      · exact .inr (.inr (.inl ⟨rfl, rfl, hdash⟩))
      · exact .inr (.inr (.inr ⟨rfl, rfl, hdash⟩))

section

variable {state : Walk.State} {flag : Flag}

lemma ofState_of_freeText (hfree : state.freeText = true) (slot : Slot) :
    ofState state slot = nothing := by
  simp [ofState, hfree]

lemma ofState_of_pending (hfree : state.freeText = false) (hpending : state.pending = some flag)
    (slot : Slot) :
    ofState state slot = flagValue flag slot (if slot.stem = "" then state.hint else none) := by
  simp [ofState, hfree, hpending]

lemma ofState_of_dash (hfree : state.freeText = false) (hpending : state.pending = none)
    {slot : Slot} (hdash : slot.stem.toList.head? = some '-') :
    ofState state slot = flagName state slot := by
  simp [ofState, hfree, hpending, hdash]

lemma ofState_of_not_dash (hfree : state.freeText = false) (hpending : state.pending = none)
    {slot : Slot} (hdash : slot.stem.toList.head? ≠ some '-') :
    ofState state slot = node state slot (if slot.stem = "" then state.hint else none) := by
  simp [ofState, hfree, hpending, hdash]

end

/-! ## Of a line -/

lemma lookup?_eq_of_tokens_eq_cons {registry : Registry} {focus : Focus} {first : Token}
    {rest : List Token} (hfirst : focus.tokens = first :: rest) :
    lookup? registry focus =
      if focus.active = some 0 ∨ first.text = "/" then none
      else some (Completion.dropSlash first.text,
        registry.get? (Completion.dropSlash first.text)) := by
  simp only [lookup?, hfirst, Bool.or_eq_true, decide_eq_true_eq]

/-- What a request can be. -/
theorem ofLine_cases (registry : Registry) (line : String) (cursor : Int) :
    (Completion.isCommandLine line = false ∧ ofLine registry line cursor = nothing) ∨
    ∃ first rest, Completion.isCommandLine line = true ∧ tokenize line = first :: rest ∧
      (((focus line cursor).active = some 0 ∨ first.text = "/") ∧
          (∃ stem, ofLine registry line cursor = commandName ⟨stem, first.start, first.stop⟩) ∨
        (focus line cursor).active ≠ some 0 ∧ first.text ≠ "/" ∧
          ofLine registry line cursor =
            behind (focus line cursor) (Completion.dropSlash first.text)
              (registry.get? (Completion.dropSlash first.text))) := by
  by_cases hcommand : Completion.isCommandLine line = true
  · obtain ⟨first, rest, hfirst⟩ := Completion.exists_tokenize_of_isCommandLine hcommand
    refine .inr ⟨first, rest, hcommand, hfirst, ?_⟩
    have hfocus : (focus line cursor).tokens = first :: rest := by rw [tokens_focus, hfirst]
    rw [ofLine, if_pos hcommand, ofFocus, lookup?_eq_of_tokens_eq_cons hfocus, hfocus]
    by_cases hname : (focus line cursor).active = some 0 ∨ first.text = "/"
    · rw [if_pos hname]
      exact .inl ⟨hname, _, rfl⟩
    · rw [if_neg hname]
      rw [not_or] at hname
      exact .inr ⟨hname.1, hname.2, rfl⟩
  · rw [ofLine, if_neg hcommand]
    exact .inl ⟨Bool.eq_false_iff.mpr hcommand, rfl⟩

/-! ## Complete tokens and the word behind them -/

/-- The request for the word in a slot, where `left` are the tokens in front of it and all of
them are complete.  The first word of a line is the command itself, and it is the command that is
asked for as long as it is the bare slash. -/
def ofSettled (registry : Registry) : (left : List Token) → Slot → Request
  | [], slot => commandName { slot with stem := Completion.dropSlash slot.stem }
  | first :: rest, slot =>
    if first.text = "/" then commandName ⟨"", first.start, first.stop⟩
    else match registry.get? (Completion.dropSlash first.text) with
      | none => unknownCommand (Completion.dropSlash first.text)
      | some command => ofState (Walk.along command (rest.map (·.text))) slot

variable {line : String} {cursor : Int}

/-- Outside the command's token, a request depends on the command and the complete tokens behind
it, and no others. -/
lemma ofFocus_eq_ofSettled (registry : Registry) {focus : Focus} {first : Token} {more : List Token}
    (hcons : focus.tokens = first :: more) (hactive : focus.active ≠ some 0) :
    ofFocus registry focus =
      ofSettled registry (first :: focus.settled) ⟨focus.stem, focus.start, focus.stop⟩ := by
  rw [ofFocus, lookup?_eq_of_tokens_eq_cons hcons, hcons, ofSettled]
  by_cases hslash : first.text = "/"
  · rw [if_pos (.inr hslash), if_pos hslash]
    simp only [if_neg hactive]
    rfl
  · rw [if_neg (not_or.mpr ⟨hactive, hslash⟩), if_neg hslash]
    cases registry.get? (Completion.dropSlash first.text) <;> rfl

/-- In a token, the tokens in front of it are complete. -/
lemma ofLine_of_active (registry : Registry) (hcommand : Completion.isCommandLine line = true)
    {left right : List Token} {token : Token}
    (htokens : tokenize line = left ++ token :: right) {stem : String}
    (hfocus : focus line cursor =
      ⟨tokenize line, some left.length, stem, token.start, token.stop⟩) :
    ofLine registry line cursor = ofSettled registry left ⟨stem, token.start, token.stop⟩ := by
  rw [ofLine, if_pos hcommand, hfocus, htokens]
  cases left with
  | nil => simp [ofFocus, lookup?, ofSettled]
  | cons first rest =>
    have hrequest := @ofFocus_eq_ofSettled registry
      ⟨first :: (rest ++ token :: right), some (rest.length + 1), stem, token.start, token.stop⟩
      first (rest ++ token :: right) rfl (by simp)
    simpa [Focus.settled] using hrequest

/-- Behind the last token, all tokens are complete. -/
lemma ofLine_of_inGap (registry : Registry) (hcommand : Completion.isCommandLine line = true)
    {place : Nat} (hfocus : focus line cursor = ⟨tokenize line, none, "", place, place⟩) :
    ofLine registry line cursor = ofSettled registry (tokenize line) ⟨"", place, place⟩ := by
  obtain ⟨first, rest, hfirst⟩ := Completion.exists_tokenize_of_isCommandLine hcommand
  rw [ofLine, if_pos hcommand, hfocus, hfirst]
  exact ofFocus_eq_ofSettled registry rfl (by simp)

/-! ## The slot -/

/-- Where the word that is asked for stands. -/
def slot? : Request → Option Slot
  | nothing => none
  | unknownCommand _ => none
  | commandName slot => some slot
  | flagValue _ slot _ => some slot
  | flagName _ slot => some slot
  | node _ slot _ => some slot

lemma eq_of_slot?_ofState_eq_some {state : Walk.State} {slot slot' : Slot}
    (h : (ofState state slot).slot? = some slot') : slot' = slot := by
  rcases freeText_or_pending_or_dash state slot with hfree | ⟨hfree, flag, hpending⟩ |
    ⟨hfree, hpending, hdash⟩ | ⟨hfree, hpending, hdash⟩
  · rw [ofState_of_freeText hfree] at h
    exact nomatch h
  · rw [ofState_of_pending hfree hpending] at h
    exact (Option.some.inj h).symm
  · rw [ofState_of_dash hfree hpending hdash] at h
    exact (Option.some.inj h).symm
  · rw [ofState_of_not_dash hfree hpending hdash] at h
    exact (Option.some.inj h).symm

/-- Whatever is on offer for a request replaces the range of its slot, and a command name on
offer is that of a command of the registry. -/
theorem fits_of_mem_answer {registry : Registry} {context : Context} {providers : Providers}
    {request : Request} {suggestion : Suggestion}
    (h : suggestion ∈ (request.answer registry context providers).suggestions) :
    ∃ slot, request.slot? = some slot ∧ suggestion.Fits slot ∧
      (suggestion.kind = .command →
        ∃ command ∈ registry.commands, suggestion.label = "/" ++ command.name ∧
          suggestion.insertText = "/" ++ command.name) := by
  cases request with
  | nothing => exact nomatch h
  | unknownCommand name => exact nomatch h
  | commandName slot =>
    obtain ⟨hfits, -, hcommand⟩ := Suggestion.fits_of_mem_commandNames h
    exact ⟨slot, rfl, hfits, fun _ => hcommand⟩
  | flagValue flag slot hint =>
    obtain ⟨hfits, hkind⟩ := Suggestion.fits_of_mem_flagValues h
    exact ⟨slot, rfl, hfits, fun hcommand => nomatch hkind.symm.trans hcommand⟩
  | flagName state slot =>
    obtain ⟨hfits, hkind⟩ := Suggestion.fits_of_mem_flags h
    exact ⟨slot, rfl, hfits, fun hcommand => nomatch hkind.symm.trans hcommand⟩
  | node state slot hint =>
    refine ⟨slot, rfl, ?_⟩
    rcases List.mem_append.mp h with hnode | hflag
    · obtain ⟨hfits, hkind | hkind⟩ := Suggestion.fits_of_mem_nodes hnode <;>
        exact ⟨hfits, fun hcommand => nomatch hkind.symm.trans hcommand⟩
    · split_ifs at hflag
      · obtain ⟨hfits, hkind⟩ := Suggestion.fits_of_mem_flags hflag
        exact ⟨hfits, fun hcommand => nomatch hkind.symm.trans hcommand⟩
      · exact nomatch hflag

end Request

/-- Nothing is on offer on a line that is no command. -/
lemma complete_of_not_isCommandLine {line : String} {cursor : Int} {context : Context}
    {given : Option Registry} {providers : Providers}
    (h : ¬ Completion.isCommandLine line = true) :
    complete line cursor context given providers = .nothing := by
  rw [complete, Request.ofLine, if_neg h, Request.answer]

lemma completionEvents_of_not_isCommandLine {line : String} {cursor : Int}
    {given : Option Registry} {providers : Providers}
    (h : ¬ Completion.isCommandLine line = true) :
    completionEvents line cursor given providers = [] := by
  rw [completionEvents, Request.ofLine, if_neg h]
  rfl

end SlashCommand
