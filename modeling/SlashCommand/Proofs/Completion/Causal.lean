import SlashCommand.Proofs.Completion.Range

/-!
# Completion in a token

In a token, what is on offer depends on what stands on the left of the cursor alone.  Cutting the
line off at the cursor may leave a quoted part open, or a backslash without the character behind
it, but the scanner has come to the cursor in the same state.  So the tokens that ended before are
the same, and the token it is in began at the same place and has the same stem
(`exists_focus_take`).  Only where that token ends is different, and with it the end of the range
that a suggestion replaces.
-/

namespace SlashCommand

open Grammar (Registry)
open Line

/-- What is on offer, wherever the ranges that it replaces end. -/
def Completion.openEnded (completion : Completion) : Completion :=
  completion.mapRange id fun _ => 0

/-! ## The token under the cursor -/

/-- What a cursor in a token sees of the line, and of the part of the line on its left. -/
lemma exists_focus_take {line : String} {cursor : Int} {held : Token}
    (hheld : held ∈ tokenize line) (hstart : held.start < clamp line.length cursor)
    (hstop : clamp line.length cursor ≤ held.stop) :
    let place := clamp line.length cursor
    let taken := String.ofList (line.toList.take place)
    ∃ (left right : List Token) (token cutToken : Token) (stem : String),
      tokenize line = left ++ token :: right ∧ tokenize taken = left ++ [cutToken] ∧
      cutToken.start = token.start ∧
      focus line cursor = ⟨tokenize line, some left.length, stem, token.start, token.stop⟩ ∧
      focus taken place =
        ⟨tokenize taken, some left.length, stem, cutToken.start, cutToken.stop⟩ := by
  intro place taken
  have hplace : clamp taken.length place = place := clamp_length_ofList_take line cursor
  have htaken : taken.toList = line.toList.take place := String.toList_ofList
  obtain ⟨pending, hrun⟩ := exists_run_eq_within_of_mem hheld hstart hstop
  obtain ⟨left, token, right, htokens, cut, hpending, hbegin, -, hfocus⟩ :=
    focus_of_run_eq_within hrun
  have hrun' : Scan.gap.run 0 (taken.toList.take (clamp taken.length place)) = .within pending := by
    rw [hplace, htaken, List.take_take, min_self, hrun]
  obtain ⟨left', token', right', htokens', cut', hpending', -, hend', hfocus'⟩ :=
    focus_of_run_eq_within hrun'
  rw [hplace] at hend' hfocus'
  have hsame : token'.start = token.start := hpending'.trans hpending.symm
  have hlength : taken.toList.length = place := by
    rw [htaken, List.length_take, min_eq_left (clamp_le_length line cursor)]
  have hstop' : token'.stop = place := le_antisymm (hlength ▸ cut'.stop_le_length) hend'
  have hleft : left' = left := by
    rw [← cut'.ended_start, ← cut.ended_start, hsame, htaken, List.take_take,
      min_eq_left hbegin.le]
  have hright : right' = [] := by
    rw [← cut'.tokens_stop, hstop', List.drop_eq_nil_of_le hlength.le]
    rfl
  have hstem : stemBetween taken.toList token'.start place =
      stemBetween line.toList token.start place := by
    rw [stemBetween, stemBetween, hsame, htaken, List.take_take, min_self]
  rw [hleft, hright] at htokens'
  rw [hleft, hstem] at hfocus'
  exact ⟨left, right, token, token', _, htokens, htokens', hsame, hfocus, hfocus'⟩

/-! ## The offer -/

/-- Where the slot ends makes no difference but to where the ranges end. -/
lemma Request.mapRange_ofSettled (registry : Registry) (left : List Token) (stem : String)
    (start stop stop' : Int) :
    (ofSettled registry left ⟨stem, start, stop⟩).mapRange id (fun _ => 0) =
      (ofSettled registry left ⟨stem, start, stop'⟩).mapRange id fun _ => 0 := by
  cases left with
  | nil => rfl
  | cons first rest =>
    simp only [ofSettled]
    by_cases hslash : first.text = "/"
    · rw [if_pos hslash, if_pos hslash]
    · rw [if_neg hslash, if_neg hslash]
      cases registry.get? (Completion.dropSlash first.text) with
      | none => rfl
      | some command =>
        simp only [mapRange_ofState]
        rfl

/-- With the cursor in a token, completing the line and completing the part of it on the left of
the cursor make the same offer, except for where the replaced ranges end. -/
theorem openEnded_complete_take {line : String} {cursor : Int}
    (hinside : ∃ token ∈ tokenize line,
      token.start < clamp line.length cursor ∧ clamp line.length cursor ≤ token.stop)
    (context : Context) (given : Option Registry) (providers : Providers) :
    let place := clamp line.length cursor
    let taken := String.ofList (line.toList.take place)
    (complete line cursor context given providers).openEnded =
      (complete taken place context given providers).openEnded := by
  intro place taken
  obtain ⟨held, hheld, hstart, hstop⟩ := hinside
  obtain ⟨left, right, token, cutToken, stem, htokens, htokens', hbegin, hfocus, hfocus'⟩ :=
    exists_focus_take hheld hstart hstop
  by_cases hcommand : Completion.isCommandLine line = true
  · -- the left part has a token, so it is a command line as well
    have hcommand' : Completion.isCommandLine taken = true := by
      rcases Completion.isCommandLine_take hcommand with ⟨htrue, -⟩ | ⟨-, hnil⟩
      · exact htrue
      · exact absurd (htokens'.symm.trans hnil) (by simp)
    have hrequest := Request.ofLine_of_active (Registry.orBuiltin given) hcommand htokens hfocus
    have hrequest' : Request.ofLine (Registry.orBuiltin given) taken place =
        Request.ofSettled (Registry.orBuiltin given) left
          ⟨stem, cutToken.start, cutToken.stop⟩ :=
      Request.ofLine_of_active (Registry.orBuiltin given) hcommand' htokens' hfocus'
    rw [hbegin] at hrequest'
    simp only [complete, hrequest, hrequest', Completion.openEnded, Request.mapRange_answer]
    rw [Request.mapRange_ofSettled _ _ _ _ _ cutToken.stop]
  · have hcommand' : ¬ Completion.isCommandLine taken = true := fun h =>
      hcommand (Completion.isCommandLine_of_isCommandLine_take h)
    rw [complete_of_not_isCommandLine hcommand,
      complete_of_not_isCommandLine hcommand']

/-- With the cursor in a quoted part, the left part of the line leaves that part open, and the
flag behind the cursor is not there yet. -/
theorem openEnded_complete_take_quoted :
    (∃ token ∈ tokenize "/memory list --type 'de ma' --limit 5",
      token.start < clamp "/memory list --type 'de ma' --limit 5".length 23 ∧
        clamp "/memory list --type 'de ma' --limit 5".length 23 ≤ token.stop) ∧
      (complete "/memory list --type 'de ma' --limit 5" 23 {} none .standard).openEnded =
        (complete "/memory list --type 'de" 23 {} none .standard).openEnded := by
  have hinside : ∃ token ∈ tokenize "/memory list --type 'de ma' --limit 5",
      token.start < clamp "/memory list --type 'de ma' --limit 5".length 23 ∧
        clamp "/memory list --type 'de ma' --limit 5".length 23 ≤ token.stop :=
    ⟨⟨"de ma", 20, 27, true⟩, by decide +kernel⟩
  exact ⟨hinside, openEnded_complete_take hinside {} none .standard⟩

end SlashCommand
