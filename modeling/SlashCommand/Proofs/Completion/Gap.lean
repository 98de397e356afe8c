import SlashCommand.Proofs.Completion.Request

/-!
# Completion in a gap

In a gap no token is being typed, and every token of the line counts as complete, also those on
the right of the cursor.  The walk goes over them as well, so that what is on offer in the middle
of a line is what could follow at its end.  Taking away what stands on the right of the cursor is
the test for it: the offer stays the same exactly if those tokens are `Unfelt`
(`unplaced_complete_take_iff`).

The two lines that are compared have the same cut at the cursor, the second with nothing on the
right of it (`exists_gap`).  A request in a gap depends on the tokens alone
(`complete_of_tokenize_eq_cons`), and with that the comparison is one between lists of tokens.
-/

namespace SlashCommand

open Grammar (Command Registry)
open Line

/-! ## Offers without their places -/

/-- A suggestion, wherever it is put. -/
def Suggestion.unplaced (suggestion : Suggestion) : Suggestion :=
  { suggestion with start := 0, stop := 0 }

namespace Completion

/-- What is on offer, wherever it is put. -/
def unplaced (completion : Completion) : Completion :=
  { completion with suggestions := completion.suggestions.map Suggestion.unplaced }

@[simp] lemma hint_unplaced (completion : Completion) :
    completion.unplaced.hint = completion.hint :=
  rfl

/-- What is on offer in a gap behind a command and some tokens. -/
def inGap (registry : Registry) (context : Context) (providers : Providers) (place : Nat)
    (command : Command) (tokens : List Token) : Completion :=
  (Request.ofState (Walk.along command (tokens.map (·.text))) ⟨"", place, place⟩).answer
    registry context providers

end Completion

/-- Whether the tokens on the right of a gap make no difference to what is on offer in it.  With
the command itself on the right, nothing may be on offer. -/
def Unfelt (registry : Registry) (context : Context) (providers : Providers) (place : Nat) :
    (left right : List Token) → Prop
  | [], [] => True
  | [], first :: right =>
    first.text ≠ "/" ∧
      ∀ command, registry.get? (Completion.dropSlash first.text) = some command →
        (Completion.inGap registry context providers place command right).unplaced = .nothing
  | first :: left, right =>
    first.text ≠ "/" →
      ∀ command, registry.get? (Completion.dropSlash first.text) = some command →
        (Completion.inGap registry context providers place command (left ++ right)).unplaced =
          (Completion.inGap registry context providers place command left).unplaced

/-! ## The line and its left part -/

/-- A gap divides the tokens of the line, and the left part of the line has the left ones, with
the cursor in the gap at its end. -/
lemma exists_gap {line : String} {cursor : Int} (hgap : (focus line cursor).inGap = true) :
    ∃ left right, tokenize line = left ++ right ∧
      Cut line.toList left right (clamp line.length cursor) (clamp line.length cursor) ∧
      tokenize (String.ofList (line.toList.take (clamp line.length cursor))) = left ∧
      (focus (String.ofList (line.toList.take (clamp line.length cursor)))
        (clamp line.length cursor)).inGap = true ∧
      clamp (String.ofList (line.toList.take (clamp line.length cursor))).length
        (clamp line.length cursor) = clamp line.length cursor := by
  have hrun := inGap_focus_iff.mp hgap
  have hplace := clamp_le_length line cursor
  have hclamp := clamp_length_ofList_take line cursor
  generalize clamp line.length cursor = place at hrun hplace hclamp ⊢
  obtain ⟨left, right, htokens, cut⟩ := cut_of_run_eq_gap hplace hrun
  refine ⟨left, right, htokens, cut, cut.tokenize_take_start, ?_, hclamp⟩
  rw [inGap_focus_iff, hclamp, String.toList_ofList, List.take_take, min_self, hrun]

/-! ## The offer -/

section

variable {line : String} {cursor : Int} {context : Context} {given : Option Registry}
  {providers : Providers}

/-- What is on offer in a gap of a command line. -/
theorem complete_of_tokenize_eq_cons {first : Token} {rest : List Token}
    (hgap : (focus line cursor).inGap = true) (hcommand : Completion.isCommandLine line = true)
    (hfirst : tokenize line = first :: rest) :
    complete line cursor context given providers =
      if first.text = "/" then
        ⟨Suggestion.commandNames (Registry.orBuiltin given).commands
          ⟨"", first.start, first.stop⟩, none, .commandName⟩
      else ((Registry.orBuiltin given).get? (Completion.dropSlash first.text)).elim .nothing
        fun command => Completion.inGap (Registry.orBuiltin given) context providers
          (clamp line.length cursor) command rest := by
  have hfocus := focus_of_run_eq_gap (inGap_focus_iff.mp hgap)
  have htokens : (focus line cursor).tokens = first :: rest := by rw [tokens_focus, hfirst]
  rw [complete, Request.ofLine, if_pos hcommand, Request.ofFocus,
    Request.lookup?_eq_of_tokens_eq_cons htokens, htokens]
  by_cases hslash : first.text = "/"
  · rw [if_pos (.inr hslash), if_pos hslash, hfocus]
    rfl
  · have hactive : (focus line cursor).active ≠ some 0 := by
      rw [hfocus]
      exact (Option.some_ne_none 0).symm
    rw [if_neg (not_or.mpr ⟨hactive, hslash⟩), if_neg hslash]
    cases (Registry.orBuiltin given).get? (Completion.dropSlash first.text) with
    | none => rfl
    | some command =>
      rw [hfocus, hfirst]
      rfl

/-- Two offers behind what is known under a name are the same if they are for every command that
may be known. -/
lemma unplaced_elim_iff (command? : Option Command) (first second : Command → Completion) :
    (command?.elim .nothing first).unplaced = (command?.elim .nothing second).unplaced ↔
      ∀ command, command? = some command →
        (first command).unplaced = (second command).unplaced := by
  cases command? with
  | none => exact ⟨fun _ => nofun, fun _ => rfl⟩
  | some known =>
    constructor
    · intro h command hcommand
      obtain rfl := Option.some.inj hcommand
      exact h
    · exact fun h => h known rfl

lemma elim_nothing (command? : Option Command) :
    (command?.elim .nothing fun _ => Completion.nothing) = .nothing := by
  cases command? <;> rfl

/-- In front of the command nothing may be on offer, and that is how it is exactly if the command
is not felt. -/
lemma unplaced_eq_nothing_iff {first : Token} {rest : List Token}
    (hgap : (focus line cursor).inGap = true) (hcommand : Completion.isCommandLine line = true)
    (hfirst : tokenize line = first :: rest) :
    (complete line cursor context given providers).unplaced = Completion.nothing.unplaced ↔
      Unfelt (Registry.orBuiltin given) context providers (clamp line.length cursor) []
        (first :: rest) := by
  rw [complete_of_tokenize_eq_cons hgap hcommand hfirst, Unfelt]
  by_cases hslash : first.text = "/"
  · rw [if_pos hslash]
    exact ⟨fun h => (nomatch congrArg Completion.context h), fun h => absurd hslash h.1⟩
  · rw [if_neg hslash, and_iff_right hslash]
    have h := unplaced_elim_iff ((Registry.orBuiltin given).get? (Completion.dropSlash first.text))
      (fun command => Completion.inGap (Registry.orBuiltin given) context providers
        (clamp line.length cursor) command rest) fun _ => .nothing
    rwa [elim_nothing] at h

/-- Behind the command two gaps at one place offer the same exactly if the tokens that only one
of the lines has are not felt. -/
lemma unplaced_eq_unplaced_iff {taken : String} {cursor' : Int} {first : Token}
    {left right : List Token} (hgap : (focus line cursor).inGap = true)
    (hgap' : (focus taken cursor').inGap = true)
    (hcommand : Completion.isCommandLine line = true)
    (hcommand' : Completion.isCommandLine taken = true)
    (hplace : clamp taken.length cursor' = clamp line.length cursor)
    (htokens : tokenize line = first :: (left ++ right))
    (htaken : tokenize taken = first :: left) :
    (complete line cursor context given providers).unplaced =
        (complete taken cursor' context given providers).unplaced ↔
      Unfelt (Registry.orBuiltin given) context providers (clamp line.length cursor)
        (first :: left) right := by
  rw [complete_of_tokenize_eq_cons hgap hcommand htokens,
    complete_of_tokenize_eq_cons hgap' hcommand' htaken, hplace, Unfelt]
  by_cases hslash : first.text = "/"
  · rw [if_pos hslash, if_pos hslash]
    exact ⟨fun _ h => absurd hslash h, fun _ => rfl⟩
  · rw [if_neg hslash, if_neg hslash, imp_iff_right hslash]
    exact unplaced_elim_iff _ _ _

end

/-- In a gap, completing the line and completing what stands on the left of the cursor give the
same offer exactly if the tokens on the right are not felt. -/
theorem unplaced_complete_take_iff {line : String} {cursor : Int}
    (hgap : (focus line cursor).inGap = true) (context : Context) (given : Option Registry)
    (providers : Providers) :
    let place := clamp line.length cursor
    let taken := String.ofList (line.toList.take place)
    ∃ left right, tokenize line = left ++ right ∧ tokenize taken = left ∧
      (∀ token ∈ left, token.stop < place) ∧ (∀ token ∈ right, place ≤ token.start) ∧
      ((complete line cursor context given providers).unplaced =
          (complete taken place context given providers).unplaced ↔
        (Completion.isCommandLine line = true →
          Unfelt (Registry.orBuiltin given) context providers place left right)) := by
  intro place taken
  obtain ⟨left, right, htokens, cut, htaken, hgap', hclamp⟩ := exists_gap hgap
  refine ⟨left, right, htokens, htaken, fun token => cut.stop_lt_of_mem_left,
    fun token => cut.stop_le_of_mem_right, ?_⟩
  by_cases hcommand : Completion.isCommandLine line = true
  · rw [imp_iff_right hcommand]
    rcases left with _ | ⟨first, left⟩
    · -- the cursor stands in front of the command: what is left of the line is blank
      have hblank : Completion.isCommandLine taken = false := by
        rcases Completion.isCommandLine_take hcommand with ⟨-, hne⟩ | ⟨hfalse, -⟩
        · exact absurd htaken hne
        · exact hfalse
      rw [complete_of_not_isCommandLine (Bool.eq_false_iff.mp hblank)]
      obtain ⟨first, rest, hfirst⟩ := Completion.exists_tokenize_of_isCommandLine hcommand
      obtain rfl : first :: rest = right := hfirst.symm.trans htokens
      exact unplaced_eq_nothing_iff hgap hcommand hfirst
    · have hcommand' : Completion.isCommandLine taken = true := by
        rcases Completion.isCommandLine_take hcommand with ⟨htrue, -⟩ | ⟨-, hnil⟩
        · exact htrue
        · exact nomatch htaken.symm.trans hnil
      exact unplaced_eq_unplaced_iff hgap hgap' hcommand hcommand' hclamp htokens htaken
  · have hblank : ¬ Completion.isCommandLine taken = true := fun h =>
      hcommand (Completion.isCommandLine_of_isCommandLine_take h)
    rw [complete_of_not_isCommandLine hcommand, complete_of_not_isCommandLine hblank]
    exact ⟨fun _ h => absurd h hcommand, fun _ => rfl⟩

/-- Behind the bare slash command names are on offer, whatever else the line holds. -/
theorem unplaced_complete_take_slash :
    (focus "/ list" 2).inGap = true ∧
      (complete "/ list" 2 {} none .standard).unplaced =
        (complete "/ " 2 {} none .standard).unplaced := by
  have hgap : (focus "/ list" 2).inGap = true := by decide +kernel
  refine ⟨hgap, ?_⟩
  obtain ⟨left, right, -, htaken, -, -, hiff⟩ :=
    unplaced_complete_take_iff hgap {} none .standard
  refine hiff.mpr fun _ => ?_
  obtain rfl : [⟨"/", 0, 1, false⟩] = left := htaken
  exact fun hslash => absurd rfl hslash

/-- The word on the right of the cursor leads on, and what is shown in the gap is not what the
line on its left asks for. -/
theorem unplaced_complete_take_ne :
    (focus "/memory  list" 8).inGap = true ∧
      (complete "/memory  list" 8 {} none .standard).unplaced ≠
        (complete "/memory " 8 {} none .standard).unplaced := by
  refine ⟨by decide +kernel, fun h => ?_⟩
  have hhint := congrArg Completion.hint h
  rw [Completion.hint_unplaced, Completion.hint_unplaced] at hhint
  exact absurd hhint (by decide +kernel)

end SlashCommand
