import SlashCommand.Proofs.Completion.Opening
import SlashCommand.Proofs.Completion.Order

/-!
# Offers are well formed

Whatever the line, the cursor and the grammar, an offer is one that an editor can show and carry
out.  Its suggestions are in ascending order as one list, all of them replace one range of the
line, and the range holds the cursor unless it is that of the bare slash, which is replaced from
everywhere.  What kind of word is being completed says what kinds of suggestions there are, and a
hint is shown only while nothing is typed.

Order and kinds are properties of the answer to a request, whatever was asked; the range and the
hint are read off the line.  `wellFormed_complete` puts them together.
-/

namespace SlashCommand

open Grammar (Registry)
open Line

/-- What holds of everything that is on offer at a cursor of a line. -/
structure WellFormed (line : String) (cursor : Int) (completion : Completion) : Prop where
  /-- Suggestions ascend by score, and by label where scores are equal. -/
  pairwise_suggestions : completion.suggestions.Pairwise fun first second =>
    first.score < second.score ∨
      first.score = second.score ∧ Text.precedes first.label second.label = true
  /-- One range is common to all suggestions. -/
  exists_range : ∃ start stop : Nat, start ≤ stop ∧ stop ≤ line.length ∧
    (∀ suggestion ∈ completion.suggestions, suggestion.start = start ∧ suggestion.stop = stop) ∧
    ((∃ first rest, tokenize line = first :: rest ∧ first.text = "/") ∨
      start ≤ clamp line.length cursor ∧ clamp line.length cursor ≤ stop)
  kind_of_commandName : completion.context = .commandName →
    ∀ suggestion ∈ completion.suggestions, suggestion.kind = .command
  kind_of_flagName : completion.context = .flagName →
    ∀ suggestion ∈ completion.suggestions, suggestion.kind = .flag
  kind_of_flagValue : completion.context = .flagValue →
    ∀ suggestion ∈ completion.suggestions, suggestion.kind = .flagValue
  suggestions_ne_nil : completion.context = .subcommand ∨ completion.context = .argument →
    completion.suggestions ≠ []
  stem_eq_of_hint : ∀ hint, completion.hint = some hint → (focus line cursor).stem = ""

/-! ## Answers -/

section

variable (registry : Registry) (context : Context) (providers : Providers) (request : Request)

/-- The suggestions for a request are in ascending order. -/
lemma Request.pairwise_answer :
    (request.answer registry context providers).suggestions.Pairwise fun first second =>
      Suggestion.precedes first second = true := by
  cases request with
  | nothing => exact List.Pairwise.nil
  | unknownCommand name => exact List.Pairwise.nil
  | commandName slot => exact Suggestion.pairwise_sorted _
  | flagValue flag slot hint => exact Suggestion.pairwise_sorted _
  | flagName state slot => exact Suggestion.pairwise_sorted _
  | node state slot hint =>
    simp only [answer]
    by_cases hstem : slot.stem = ""
    · -- nothing is typed: the nodes score zero, and the flags behind them the penalty
      rw [if_pos hstem]
      refine List.pairwise_append.mpr
        ⟨Suggestion.pairwise_sorted _, Suggestion.pairwise_sorted _, ?_⟩
      intro node hnode flag hflag
      rw [Suggestion.precedes_iff, Suggestion.score_of_mem_nodes hstem hnode,
        Suggestion.score_of_mem_flags hstem hflag]
      exact .inl (by decide)
    · rw [if_neg hstem, List.append_nil]
      exact Suggestion.pairwise_sorted _

lemma Suggestion.nodesContext_eq (nodes : List Grammar.Node) :
    nodesContext nodes = .subcommand ∨ nodesContext nodes = .argument := by
  unfold nodesContext
  split_ifs
  · exact .inl rfl
  · exact .inr rfl

/-- The context of an offer says which kind its suggestions are of, or that there are some. -/
lemma Request.kind_of_mem_answer :
    let completion := request.answer registry context providers
    (completion.context = .commandName →
      ∀ suggestion ∈ completion.suggestions, suggestion.kind = .command) ∧
    (completion.context = .flagName →
      ∀ suggestion ∈ completion.suggestions, suggestion.kind = .flag) ∧
    (completion.context = .flagValue →
      ∀ suggestion ∈ completion.suggestions, suggestion.kind = .flagValue) ∧
    (completion.context = .subcommand ∨ completion.context = .argument →
      completion.suggestions ≠ []) := by
  cases request with
  | nothing => simp [answer, Completion.nothing]
  | unknownCommand name => simp [answer, Completion.nothing]
  | commandName slot =>
    have hkind := fun suggestion h =>
      (@Suggestion.fits_of_mem_commandNames suggestion slot registry.commands h).2.1
    simpa [answer] using hkind
  | flagValue flag slot hint =>
    have hkind := fun suggestion h =>
      (@Suggestion.fits_of_mem_flagValues suggestion slot flag context providers h).2
    simpa [answer] using hkind
  | flagName state slot =>
    have hkind := fun suggestion h => (@Suggestion.fits_of_mem_flags suggestion slot
      state.availableFlags state.usedFlags (.whole 0) h).2
    simpa [answer] using hkind
  | node state slot hint =>
    -- the context is that of the nodes, which names none of the other lists, or there is none
    simp only [answer]
    generalize Suggestion.nodes state.nodes slot context providers ++ _ = suggestions
    by_cases hempty : suggestions = []
    · simp [hempty]
    · rcases Suggestion.nodesContext_eq state.nodes with hcontext | hcontext
      · simp [hempty, hcontext]
      · simp [hempty, hcontext]

end

/-- A hint is shown for an empty stem only. -/
lemma Request.stem_of_hint_answer_ofState {registry : Registry} {context : Context}
    {providers : Providers} {state : Walk.State} {slot : Slot} {hint : String}
    (h : ((ofState state slot).answer registry context providers).hint = some hint) :
    slot.stem = "" := by
  by_contra hstem
  rcases freeText_or_pending_or_dash state slot with hfree | ⟨hfree, flag, hpending⟩ |
    ⟨hfree, hpending, hdash⟩ | ⟨hfree, hpending, hdash⟩
  · rw [ofState_of_freeText hfree] at h
    exact nomatch h
  · rw [ofState_of_pending hfree hpending, if_neg hstem] at h
    exact nomatch h
  · rw [ofState_of_dash hfree hpending hdash] at h
    exact nomatch h
  · rw [ofState_of_not_dash hfree hpending hdash, if_neg hstem] at h
    exact nomatch h

/-! ## The line -/

/-- A hint is shown only while nothing of the word under the cursor is typed. -/
lemma Request.stem_of_hint_answer {registry : Registry} {line : String} {cursor : Int}
    {context : Context} {providers : Providers} {hint : String}
    (h : ((ofLine registry line cursor).answer registry context providers).hint = some hint) :
    (focus line cursor).stem = "" := by
  rcases ofLine_cases registry line cursor with ⟨-, hrequest⟩ |
    ⟨first, rest, -, -, ⟨-, stem, hrequest⟩ | ⟨-, -, hrequest⟩⟩
  · rw [hrequest] at h
    exact nomatch h
  · rw [hrequest] at h
    exact nomatch h
  · rw [hrequest] at h
    cases hcommand : registry.get? (Completion.dropSlash first.text) with
    | none =>
      rw [hcommand] at h
      exact nomatch h
    | some command =>
      rw [hcommand] at h
      exact stem_of_hint_answer_ofState h

/-- Everything that is on offer is well formed. -/
theorem wellFormed_complete (line : String) (cursor : Int) (context : Context)
    (given : Option Registry) (providers : Providers) :
    WellFormed line cursor (complete line cursor context given providers) := by
  unfold complete
  generalize Registry.orBuiltin given = registry
  obtain ⟨hcommand, hflag, hvalue, hne⟩ := Request.kind_of_mem_answer registry context providers
    (Request.ofLine registry line cursor)
  refine ⟨?_, ?_, hcommand, hflag, hvalue, hne, fun hint => Request.stem_of_hint_answer⟩
  · refine (Request.pairwise_answer registry context providers _).imp ?_
    intro first second hprecedes
    exact Suggestion.precedes_iff.mp hprecedes
  · cases hslot : (Request.ofLine registry line cursor).slot? with
    | none =>
      -- without a slot nothing is on offer, and any range will do
      refine ⟨clamp line.length cursor, clamp line.length cursor, le_rfl, ?_, ?_, ?_⟩
      · exact min_le_right _ _
      · intro suggestion hoffer
        obtain ⟨slot, hsome, -⟩ := Request.fits_of_mem_answer hoffer
        exact nomatch hslot.symm.trans hsome
      · exact .inr ⟨le_rfl, le_rfl⟩
    | some slot =>
      obtain ⟨left, replaced, right, start, stop, opening, hstart, hstop, hcursor⟩ :=
        Request.exists_opening_and_holds_of_slot?_eq_some hslot
      have hlength : stop ≤ line.length := String.length_toList ▸ opening.cut.stop_le_length
      refine ⟨start, stop, opening.cut.start_le_stop, hlength, ?_, hcursor⟩
      intro suggestion hoffer
      obtain ⟨slot', hslot', hfits, -⟩ := Request.fits_of_mem_answer hoffer
      obtain rfl : slot = slot' := Option.some.inj (hslot.symm.trans hslot')
      exact ⟨hfits.start_eq.trans hstart, hfits.stop_eq.trans hstop⟩

end SlashCommand
