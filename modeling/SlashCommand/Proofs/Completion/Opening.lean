import SlashCommand.Proofs.Completion.Request

/-!
# Where a word may be put

The range that a suggestion replaces is a cut of the line of one of two sorts, an `Opening`: an
empty range between two tokens, or the range of a token.  What the cursor sees is one
(`exists_opening_focus`), and so is the slot of every request
(`exists_opening_and_holds_of_slot?_eq_some`).  The cursor is in it, with one exception: the bare
slash is replaced wherever the cursor stands.
-/

namespace SlashCommand

open Grammar (Registry)
open Line

/-- A range of a line where a word may be put: between two tokens, or in the place of one. -/
inductive Opening (line : String) : (left replaced right : List Token) → (start stop : Nat) → Prop
  | gap {left right : List Token} {place : Nat} (htokens : tokenize line = left ++ right)
      (cut : Cut line.toList left right place place) : Opening line left [] right place place
  | token {left right : List Token} {token : Token}
      (htokens : tokenize line = left ++ token :: right)
      (cut : Cut line.toList left right token.start token.stop) :
      Opening line left [token] right token.start token.stop

namespace Opening

variable {line : String} {left replaced right : List Token} {start stop : Nat}

lemma cut (opening : Opening line left replaced right start stop) :
    Cut line.toList left right start stop := by
  cases opening <;> assumption

lemma tokenize_eq (opening : Opening line left replaced right start stop) :
    tokenize line = left ++ replaced ++ right := by
  rcases opening with ⟨htokens, -⟩ | ⟨htokens, -⟩
  · rw [htokens, List.append_nil]
  · rw [htokens, List.append_assoc, List.singleton_append]

/-- An opening is an empty range, or that of the one token it is in the place of. -/
lemma replaced_eq (opening : Opening line left replaced right start stop) :
    start = stop ∧ replaced = [] ∨
      start < stop ∧ ∃ old : Token, replaced = [old] ∧ old.start = start ∧ old.stop = stop := by
  rcases opening with ⟨-, -⟩ | ⟨htokens, -⟩
  · exact .inl ⟨rfl, rfl⟩
  · have hinside := Scan.inside_of_mem_tokens_gap
      (htokens ▸ List.mem_append_right left List.mem_cons_self)
    exact .inr ⟨hinside.start_lt_stop, _, rfl, rfl, rfl⟩

end Opening

/-! ## The range under the cursor -/

/-- The range that a cursor sees is an opening. -/
lemma exists_opening_focus (line : String) (cursor : Int) :
    ∃ left replaced right,
      Opening line left replaced right (focus line cursor).start (focus line cursor).stop := by
  cases hrun : Scan.gap.run 0 (line.toList.take (clamp line.length cursor)) with
  | gap =>
    have hplace := clamp_le_length line cursor
    obtain ⟨left, right, htokens, cut⟩ := cut_of_run_eq_gap hplace hrun
    rw [focus_of_run_eq_gap hrun]
    exact ⟨left, [], right, .gap htokens cut⟩
  | within pending =>
    obtain ⟨left, token, right, htokens, cut, -, -, -, hfocus⟩ := focus_of_run_eq_within hrun
    rw [hfocus]
    exact ⟨left, [token], right, .token htokens cut⟩

/-- The cursor is in the range that it sees. -/
lemma clamp_mem_focus (line : String) (cursor : Int) :
    (focus line cursor).start ≤ clamp line.length cursor ∧
      clamp line.length cursor ≤ (focus line cursor).stop := by
  cases hrun : Scan.gap.run 0 (line.toList.take (clamp line.length cursor)) with
  | gap =>
    rw [focus_of_run_eq_gap hrun]
    exact ⟨le_rfl, le_rfl⟩
  | within pending =>
    obtain ⟨left, token, right, -, -, -, hstart, hstop, hfocus⟩ := focus_of_run_eq_within hrun
    rw [hfocus]
    exact ⟨hstart.le, hstop⟩

/-- A cursor in the first token is in the range of that token. -/
lemma clamp_mem_of_active_eq_zero {line : String} {cursor : Int}
    {first : Token} {rest : List Token} (hfirst : tokenize line = first :: rest)
    (hactive : (focus line cursor).active = some 0) :
    first.start ≤ clamp line.length cursor ∧ clamp line.length cursor ≤ first.stop := by
  cases hrun : Scan.gap.run 0 (line.toList.take (clamp line.length cursor)) with
  | gap =>
    rw [focus_of_run_eq_gap hrun] at hactive
    exact nomatch hactive
  | within pending =>
    obtain ⟨left, token, right, htokens, -, -, hstart, hstop, hfocus⟩ :=
      focus_of_run_eq_within hrun
    rw [hfocus] at hactive
    obtain rfl : left = [] := List.eq_nil_of_length_eq_zero (Option.some.inj hactive)
    obtain ⟨rfl, -⟩ := List.cons.inj (hfirst.symm.trans htokens)
    exact ⟨hstart.le, hstop⟩

/-! ## The range of a request -/

/-- The slot of a request is an opening of the line, and the cursor is in its range unless it is
that of the bare slash. -/
theorem Request.exists_opening_and_holds_of_slot?_eq_some {registry : Registry} {line : String}
    {cursor : Int} {slot : Slot} (h : (ofLine registry line cursor).slot? = some slot) :
    ∃ (left replaced right : List Token) (start stop : Nat),
      Opening line left replaced right start stop ∧ slot.start = start ∧ slot.stop = stop ∧
      ((∃ first rest, tokenize line = first :: rest ∧ first.text = "/") ∨
        start ≤ clamp line.length cursor ∧ clamp line.length cursor ≤ stop) := by
  rcases ofLine_cases registry line cursor with ⟨-, hrequest⟩ |
    ⟨first, rest, -, hfirst, ⟨hname, stem, hrequest⟩ | ⟨-, -, hrequest⟩⟩
  · rw [hrequest] at h
    exact nomatch h
  · rw [hrequest] at h
    obtain rfl := Option.some.inj h
    refine ⟨[], [first], rest, _, _, .token hfirst (cut_of_tokens_eq_cons hfirst), rfl, rfl, ?_⟩
    rcases hname with hactive | hslash
    · exact .inr (clamp_mem_of_active_eq_zero hfirst hactive)
    · exact .inl ⟨first, rest, hfirst, hslash⟩
  · rw [hrequest] at h
    obtain ⟨left, replaced, right, opening⟩ := exists_opening_focus line cursor
    cases hcommand : registry.get? (Completion.dropSlash first.text) with
    | none =>
      rw [hcommand] at h
      exact nomatch h
    | some command =>
      rw [hcommand] at h
      obtain rfl := eq_of_slot?_ofState_eq_some h
      exact ⟨left, replaced, right, _, _, opening, rfl, rfl, .inr (clamp_mem_focus line cursor)⟩

/-- The slot of a request is an opening of the line. -/
theorem Request.exists_opening_of_slot?_eq_some {registry : Registry} {line : String}
    {cursor : Int} {slot : Slot} (h : (ofLine registry line cursor).slot? = some slot) :
    ∃ (left replaced right : List Token) (start stop : Nat),
      Opening line left replaced right start stop ∧ slot.start = start ∧ slot.stop = stop := by
  obtain ⟨left, replaced, right, start, stop, opening, hstart, hstop, -⟩ :=
    exists_opening_and_holds_of_slot?_eq_some h
  exact ⟨left, replaced, right, start, stop, opening, hstart, hstop⟩

end SlashCommand
