import SlashCommand.Proofs.Completion.Request

/-!
# The same word on offer again

A word that was on offer for some stem is on offer for itself as the stem, in the same state of
the walk and behind the same complete tokens.  Every word matches itself (`exists_scoreOf_self`),
and the word is asked for in the list that it came from: a stem that begins with a dash asks for
flags, and flags are the only words on offer that begin with one, as far as no keyword and no
argument does.
-/

namespace SlashCommand

open Grammar (Command Flag Node Registry)
open Line

/-! ## Lists of suggestions -/

/-- Every word matches itself. -/
lemma exists_scoreOf_self (word : String) : ∃ score, scoreOf word word = some score := by
  unfold scoreOf scoreChars
  generalize Text.lowercaseChars word.toList = lowered
  by_cases hempty : lowered.isEmpty = true
  · exact ⟨_, by rw [if_pos hempty]⟩
  · have hprefix : lowered.isPrefixOf lowered = true :=
      List.isPrefixOf_iff_prefix.mpr List.prefix_rfl
    exact ⟨_, by rw [if_neg hempty, if_pos hprefix]⟩

namespace Suggestion

/-- Whether a suggestion is for the same word as another one, in a range of its own. -/
structure Repeats (suggestion : Suggestion) (start stop : Int) (again : Suggestion) : Prop where
  label_eq : again.label = suggestion.label
  insertText_eq : again.insertText = suggestion.insertText
  start_eq : again.start = start
  stop_eq : again.stop = stop

variable {suggestion : Suggestion} {slot : Slot}

/-- The name of a command matches itself behind the slash. -/
lemma exists_mem_commandNames_again {commands : List Command}
    (h : suggestion ∈ commandNames commands slot) (start stop : Int) :
    ∃ again ∈ commandNames commands ⟨Completion.dropSlash suggestion.insertText, start, stop⟩,
      suggestion.Repeats start stop again := by
  obtain ⟨command, hcommand, score, -, rfl⟩ := mem_commandNames_iff.mp h
  obtain ⟨score', hscore⟩ := exists_scoreOf_self command.name
  refine ⟨_, mem_commandNames_iff.mpr ⟨command, hcommand, score', ?_, rfl⟩, ⟨rfl, rfl, rfl, rfl⟩⟩
  rwa [Completion.dropSlash_slash_append]

lemma exists_mem_values_again {candidates : List String} {kind : SuggestionKind}
    {describe : String → Option String} (h : suggestion ∈ values candidates slot kind describe)
    (start stop : Int) :
    ∃ again ∈ values candidates ⟨suggestion.insertText, start, stop⟩ kind describe,
      suggestion.Repeats start stop again := by
  obtain ⟨candidate, hcandidate, score, -, rfl⟩ := mem_values_iff.mp h
  obtain ⟨score', hscore⟩ := exists_scoreOf_self candidate
  exact ⟨_, mem_values_iff.mpr ⟨candidate, hcandidate, score', hscore, rfl⟩,
    ⟨rfl, rfl, rfl, rfl⟩⟩

lemma exists_mem_nodes_again {nodes : List Node} {context : Context} {providers : Providers}
    (h : suggestion ∈ Suggestion.nodes nodes slot context providers) (start stop : Int) :
    ∃ again ∈ Suggestion.nodes nodes ⟨suggestion.insertText, start, stop⟩ context providers,
      suggestion.Repeats start stop again := by
  rcases mem_nodes_iff.mp h with ⟨node, hnode, value, hvalue, score, -, rfl⟩ |
    ⟨node, hnode, hvalue⟩
  · obtain ⟨score', hscore⟩ := exists_scoreOf_self value
    exact ⟨_, mem_nodes_iff.mpr (.inl ⟨node, hnode, value, hvalue, score', hscore, rfl⟩),
      ⟨rfl, rfl, rfl, rfl⟩⟩
  · obtain ⟨again, hagain, hrepeats⟩ := exists_mem_values_again hvalue start stop
    exact ⟨again, mem_nodes_iff.mpr (.inr ⟨node, hnode, hagain⟩), hrepeats⟩

/-- Which flags may be offered does not depend on the stem, nor on where they are listed. -/
lemma exists_mem_flags_again {available : List Flag} {used : List String} {penalty : Penalty}
    (h : suggestion ∈ flags available used slot penalty) (start stop : Int)
    (penalty' : Penalty) :
    suggestion.insertText.toList.head? = some '-' ∧
      ∃ again ∈ flags available used ⟨suggestion.insertText, start, stop⟩ penalty',
        suggestion.Repeats start stop again := by
  obtain ⟨flag, hflag, score, -, rfl⟩ := mem_flags_iff.mp h
  obtain ⟨score', hscore⟩ := exists_scoreOf_self flag.name
  constructor
  · have hdashed := flag.isDashed_name
    unfold Grammar.isDashed at hdashed
    split at hdashed
    · next htext => simp [htext]
    · cases hdashed
  · exact ⟨_, mem_flags_iff.mpr ⟨flag, hflag, score', hscore, rfl⟩, ⟨rfl, rfl, rfl, rfl⟩⟩

end Suggestion

/-! ## Requests -/

namespace Request

variable {registry : Registry} {context : Context} {providers : Providers}
  {suggestion : Suggestion} {slot : Slot}

/-- The name of a flag is asked for among the flags once it is typed, wherever it was listed. -/
lemma exists_again_of_mem_flags {state : Walk.State} (hfree : state.freeText = false)
    (hpending : state.pending = none) {penalty : Penalty}
    (h : suggestion ∈ Suggestion.flags state.availableFlags state.usedFlags slot penalty)
    (start stop : Int) :
    ∃ again ∈ ((ofState state ⟨suggestion.insertText, start, stop⟩).answer registry context
      providers).suggestions, suggestion.Repeats start stop again := by
  obtain ⟨hhead, hagain⟩ := Suggestion.exists_mem_flags_again h start stop (.whole 0)
  have hasked : ofState state ⟨suggestion.insertText, start, stop⟩ =
      flagName state ⟨suggestion.insertText, start, stop⟩ :=
    ofState_of_dash hfree hpending hhead
  rw [hasked]
  exact hagain

/-- In one state of the walk, a word on offer is on offer again once it is typed.  Words that
begin with a dash are asked for among the flags, so none but flags and their values may. -/
lemma exists_again_ofState {state : Walk.State}
    (h : suggestion ∈ ((ofState state slot).answer registry context providers).suggestions)
    (hdash : suggestion.insertText.toList.head? = some '-' →
      suggestion.kind = .flag ∨ suggestion.kind = .flagValue) (start stop : Int) :
    ∃ again ∈ ((ofState state ⟨suggestion.insertText, start, stop⟩).answer registry context
      providers).suggestions, suggestion.Repeats start stop again := by
  rcases freeText_or_pending_or_dash state slot with hfree | ⟨hfree, flag, hpending⟩ |
    ⟨hfree, hpending, hstem⟩ | ⟨hfree, hpending, hstem⟩
  · rw [ofState_of_freeText hfree] at h
    exact nomatch h
  · rw [ofState_of_pending hfree hpending] at h ⊢
    exact Suggestion.exists_mem_values_again h start stop
  · rw [ofState_of_dash hfree hpending hstem] at h
    exact exists_again_of_mem_flags hfree hpending h start stop
  · rw [ofState_of_not_dash hfree hpending hstem] at h
    rcases List.mem_append.mp h with hnode | hflag
    · have hhead : suggestion.insertText.toList.head? ≠ some '-' := by
        intro hhead
        obtain ⟨-, hkind⟩ := Suggestion.fits_of_mem_nodes hnode
        rcases hdash hhead with hflag | hvalue <;> rcases hkind with hkind | hkind <;> simp_all
      obtain ⟨again, hagain, hrepeats⟩ := Suggestion.exists_mem_nodes_again hnode start stop
      have hasked : ofState state ⟨suggestion.insertText, start, stop⟩ =
          node state ⟨suggestion.insertText, start, stop⟩ _ :=
        ofState_of_not_dash hfree hpending hhead
      rw [hasked]
      exact ⟨again, List.mem_append_left _ hagain, hrepeats⟩
    · split_ifs at hflag
      · exact exists_again_of_mem_flags hfree hpending hflag start stop
      · exact nomatch hflag

/-- Behind the same complete tokens, a word on offer is on offer again once it is typed. -/
lemma exists_again_ofSettled {left : List Token}
    (hleft : ∀ first ∈ left.head?, first.text ≠ "/")
    (h : suggestion ∈ ((ofSettled registry left slot).answer registry context
      providers).suggestions)
    (hdash : suggestion.insertText.toList.head? = some '-' →
      suggestion.kind = .flag ∨ suggestion.kind = .flagValue) (start stop : Int) :
    ∃ again ∈ ((ofSettled registry left ⟨suggestion.insertText, start, stop⟩).answer registry
      context providers).suggestions, suggestion.Repeats start stop again := by
  cases left with
  | nil => exact Suggestion.exists_mem_commandNames_again h start stop
  | cons first rest =>
    have hslash : first.text ≠ "/" := hleft first rfl
    simp only [ofSettled, if_neg hslash] at h ⊢
    cases hcommand : registry.get? (Completion.dropSlash first.text) with
    | none =>
      rw [hcommand] at h
      exact absurd h List.not_mem_nil
    | some command =>
      rw [hcommand] at h
      exact exists_again_ofState h hdash start stop

end Request

end SlashCommand
