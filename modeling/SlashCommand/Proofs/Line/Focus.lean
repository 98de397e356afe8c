import SlashCommand.Proofs.Line.Local

/-!
# What the cursor is in

A cursor is in the token that it stands behind a character of, and there is no more than one: right
behind the last character it is still in the token, in front of the first one it is not yet.  It is
in a gap exactly if no token has begun in front of it or a blank character has ended the last one,
and whether a blank character does that is a matter of the scanner's state.  `Classifies` says all
this of what a cursor sees, for every line and every place.

The stem is cut out of the line as it stands, and is not what the scanner reads.  The two are
the same where the characters of the token on the left of the cursor are `Transparent`: then the
stem is the text of the last token of the line on the left of the cursor.
-/

namespace SlashCommand.Line

open Scan

/-! ## Stems -/

/-- Whether the beginning of a token shows what it is read as: it has no quotes, or it has one in
front that does not come again, and no backslash behind it. -/
inductive Transparent : List Char → Prop
  | bare {cs : List Char} (hcs : ∀ c ∈ cs, isQuote c = false) : Transparent cs
  | opened {quote : Char} {cs : List Char} (hquote : isQuote quote = true) (hcs : quote ∉ cs)
      (hbackslash : '\\' ∉ cs) : Transparent (quote :: cs)

section

variable {line : List Char} {start place : Nat}

lemma stemBetween_of_bare (h : ∀ c ∈ (line.take place).drop start, isQuote c = false) :
    stemBetween line start place = (line.take place).drop start := by
  rw [stemBetween]
  split
  · next hslice => rw [hslice]
  · next c cs hslice =>
    have hc : isQuote c = false := h c (hslice ▸ List.mem_cons_self)
    rw [hc, if_neg Bool.false_ne_true, hslice]

lemma stemBetween_of_opened {quote : Char} {cs : List Char}
    (hslice : (line.take place).drop start = quote :: cs) (hquote : isQuote quote = true) :
    stemBetween line start place = cs := by
  rw [stemBetween, hslice]
  exact if_pos hquote

/-- Without quotes, a token that is being read is what was read since its start. -/
lemma verbatim_run {before cs : List Char} {scan : Scan} (hcs : ∀ c ∈ cs, isQuote c = false)
    (hscan : scan.Verbatim before) : (scan.run before.length cs).Verbatim (before ++ cs) := by
  induction cs generalizing before scan with
  | nil => rwa [List.append_nil]
  | cons c cs ih =>
    obtain ⟨hnext, -⟩ := verbatim_step (hcs c List.mem_cons_self) hscan
    have hrest := ih (fun d hd => hcs d (List.mem_cons_of_mem c hd)) hnext
    rwa [List.length_append, List.length_singleton, List.append_assoc,
      List.singleton_append] at hrest

/-- In a quoted part, all characters but its quote and the backslash go into the token. -/
lemma run_inside {quote : Char} {cs : List Char} (hcs : quote ∉ cs) (hbackslash : '\\' ∉ cs)
    (offset : Nat) (text : List Char) (start : Nat) (quoted : Bool) :
    (within ⟨text, start, quoted, .inside quote⟩).run offset cs =
      within ⟨text ++ cs, start, quoted, .inside quote⟩ := by
  induction cs generalizing offset text with
  | nil => rw [run, List.append_nil]
  | cons c cs ih =>
    obtain ⟨hquote, hcs⟩ := not_or.mp (List.mem_cons.not.mp hcs)
    obtain ⟨hc, hbackslash⟩ := not_or.mp (List.mem_cons.not.mp hbackslash)
    have hstep : (within ⟨text, start, quoted, .inside quote⟩).step offset c =
        (within ⟨text ++ [c], start, quoted, .inside quote⟩, none) := by
      simp [step, Ne.symm hc, Ne.symm hquote, Pending.push]
    rw [run, hstep, ih hcs hbackslash, List.append_assoc, List.singleton_append]

/-- A transparent beginning of a token is read as its stem. -/
lemma text_eq_stemBetween (hstart : start ≤ line.length)
    (h : Transparent ((line.take place).drop start)) {pending : Pending}
    (hrun : gap.run start ((line.take place).drop start) = within pending)
    (hpending : pending.start = start) : pending.text = stemBetween line start place := by
  generalize hslice : (line.take place).drop start = slice at h hrun
  cases h with
  | bare hcs =>
    have hlength : (line.take start).length = start := List.length_take_of_le hstart
    have hgap : Scan.gap.Verbatim (line.take start) := trivial
    have hverbatim := verbatim_run hcs hgap
    rw [hlength, hrun] at hverbatim
    rw [stemBetween_of_bare (hslice ▸ hcs), hslice, hverbatim.2.1, hpending,
      List.drop_left' hlength]
  | @opened quote cs hquote hcs hbackslash =>
    have hstep : gap.step start quote = (within ⟨[], start, true, .inside quote⟩, none) := by
      rw [step, if_pos hquote]
    rw [run, hstep, run_inside hcs hbackslash] at hrun
    cases hrun
    rw [stemBetween_of_opened hslice hquote, List.nil_append]

end

/-- A place in a token is at the end of the last token of what stands on its left. -/
lemma getLast?_tokenize_take {line : List Char} {place : Nat} (hplace : place ≤ line.length)
    {pending : Pending} (hrun : gap.run 0 (line.take place) = within pending) :
    (tokenize (String.ofList (line.take place))).getLast? = some (pending.token place) := by
  have hlast : tokenize (String.ofList (line.take place)) =
      gap.ended 0 (line.take place) ++ [pending.token place] := by
    rw [tokenize, String.toList_ofList, tokens_eq_ended_append_finish, hrun, List.length_take,
      min_eq_left hplace, Nat.zero_add]
    rfl
  rw [hlast, List.getLast?_concat]

/-- The scanner comes to the same state if it begins at a cut. -/
lemma Cut.run_drop {line : List Char} {left right : List Token} {start stop place : Nat}
    (cut : Cut line left right start stop) (hstart : start ≤ place) :
    gap.run start ((line.take place).drop start) = gap.run 0 (line.take place) := by
  have htake : line.take place = line.take start ++ (line.take place).drop start := by
    conv_lhs => rw [← List.take_append_drop start (line.take place), List.take_take,
      min_eq_left hstart]
  conv_rhs => rw [htake, run_append, cut.run_start, cut.length_take_start, Nat.zero_add]

/-! ## Tokens and gaps -/

/-- A place is in a gap exactly if it is in front of the line, or behind a blank character that is
met outside of quoted parts. -/
lemma run_take_eq_gap_iff {cs : List Char} {place : Nat} (hplace : place ≤ cs.length) :
    gap.run 0 (cs.take place) = gap ↔
      place = 0 ∨ ∃ before c, place = before + 1 ∧ cs[before]? = some c ∧
        Text.isBlank c = true ∧ (gap.run 0 (cs.take before)).Outside := by
  cases place with
  | zero => exact iff_of_true rfl (.inl rfl)
  | succ before =>
    have hc : cs[before]? = some cs[before] := List.getElem?_eq_getElem hplace
    rw [run_take_succ hc, step_eq_gap_iff]
    constructor
    · exact fun h => .inr ⟨before, _, rfl, hc, h⟩
    · rintro (hzero | ⟨before', c, heq, hc', h⟩)
      · cases hzero
      · obtain rfl := Nat.succ.inj heq
        rw [hc] at hc'
        obtain rfl := Option.some.inj hc'
        exact h

/-- Whether what a cursor sees is what stands at a place of a line: the token that the place is
in, or else a gap. -/
structure Classifies (line : String) (place : Nat) (focus : Focus) : Prop where
  tokens_eq : focus.tokens = tokenize line
  active_eq_some_iff (index : Nat) : focus.active = some index ↔
    ∃ token, (tokenize line)[index]? = some token ∧ token.start < place ∧ place ≤ token.stop
  /-- No two tokens of the line hold the place. -/
  index_eq {i j : Nat} {first second : Token} (hi : (tokenize line)[i]? = some first)
    (hj : (tokenize line)[j]? = some second) (hfirst : first.start < place ∧ place ≤ first.stop)
    (hsecond : second.start < place ∧ place ≤ second.stop) : i = j
  active_eq_none_iff : focus.active = none ↔
    place = 0 ∨ ∃ before c, place = before + 1 ∧ line.toList[before]? = some c ∧
      Text.isBlank c = true ∧ (gap.run 0 (line.toList.take before)).Outside
  start_le_and_le_stop : focus.start ≤ place ∧ place ≤ focus.stop
  eq_of_active_eq_none (hactive : focus.active = none) :
    focus.stem = "" ∧ focus.start = place ∧ focus.stop = place
  /-- Where the token on the left of the place is transparent, the stem is what it is read as. -/
  stem_eq {index : Nat} {token : Token} (hactive : focus.active = some index)
    (htoken : (tokenize line)[index]? = some token)
    (hslice : Transparent ((line.toList.take place).drop token.start)) :
    (tokenize (String.ofList (line.toList.take place))).getLast?.map (·.text) = some focus.stem

variable {line : String} {cursor : Int}

lemma classifies_of_run_eq_gap
    (hrun : gap.run 0 (line.toList.take (clamp line.length cursor)) = gap) :
    Classifies line (clamp line.length cursor) (focus line cursor) := by
  rw [focus_of_run_eq_gap hrun]
  exact
    { tokens_eq := rfl
      active_eq_some_iff := by
        intro index
        refine iff_of_false (Option.some_ne_none index).symm ?_
        -- a token that held the place would be one that the scanner is in
        rintro ⟨token, hindex, hstart, hstop⟩
        obtain ⟨pending, hwithin⟩ :=
          exists_run_eq_within_of_mem (List.mem_of_getElem? hindex) hstart hstop
        rw [hrun] at hwithin
        cases hwithin
      index_eq := index_eq_of_holds
      active_eq_none_iff :=
        iff_of_true rfl ((run_take_eq_gap_iff (clamp_le_length line cursor)).mp hrun)
      start_le_and_le_stop := ⟨le_rfl, le_rfl⟩
      eq_of_active_eq_none := fun _ => ⟨rfl, rfl, rfl⟩
      stem_eq := fun hactive => nomatch hactive }

lemma classifies_of_run_eq_within {pending : Pending}
    (hrun : gap.run 0 (line.toList.take (clamp line.length cursor)) = within pending) :
    Classifies line (clamp line.length cursor) (focus line cursor) := by
  have hplace := clamp_le_length line cursor
  obtain ⟨left, token, right, htokens, cut, hpending, hstart, hstop, hfocus⟩ :=
    focus_of_run_eq_within hrun
  have hindex : (tokenize line)[left.length]? = some token := by
    rw [htokens, List.getElem?_append_right le_rfl, Nat.sub_self]
    rfl
  rw [hfocus]
  generalize clamp line.length cursor = place at *
  exact
    { tokens_eq := rfl
      active_eq_some_iff := by
        intro index
        constructor
        · intro hactive
          obtain rfl := Option.some.inj hactive
          exact ⟨token, hindex, hstart, hstop⟩
        · rintro ⟨other, hother, hholds⟩
          rw [index_eq_of_holds hindex hother ⟨hstart, hstop⟩ hholds]
      index_eq := index_eq_of_holds
      active_eq_none_iff := by
        rw [← run_take_eq_gap_iff hplace, hrun]
        exact iff_of_false (Option.some_ne_none _) (within_ne_gap pending)
      start_le_and_le_stop := ⟨hstart.le, hstop⟩
      eq_of_active_eq_none := fun hactive => nomatch hactive
      stem_eq := by
        intro index other hactive hother hslice
        obtain rfl := Option.some.inj hactive
        obtain rfl := Option.some.inj (hindex.symm.trans hother)
        have hsince := cut.run_drop hstart.le
        rw [hrun] at hsince
        have htext := text_eq_stemBetween (hstart.le.trans hplace) hslice hsince hpending.symm
        rw [getLast?_tokenize_take hplace hrun, Option.map_some, Pending.token, htext] }

/-- A cursor sees the token that it is in, or else a gap: every line is classified as it should be
at the place where the cursor stands, wherever that is. -/
theorem classifies_focus (line : String) (cursor : Int) :
    Classifies line (clamp line.length cursor) (focus line cursor) := by
  cases hrun : gap.run 0 (line.toList.take (clamp line.length cursor)) with
  | gap => exact classifies_of_run_eq_gap hrun
  | within pending => exact classifies_of_run_eq_within hrun

end SlashCommand.Line
