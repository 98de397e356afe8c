import SlashCommand.Line.Cursor
import SlashCommand.Proofs.Line.Run

/-!
# Where a line can be cut

A completion replaces a range of a line.  Whatever it puts there, the other tokens stay what they
are, because the scanner stands in a gap at the start of the range, and what stands behind the
range is read as if from a gap.  A range of that sort is a `Cut`: it comes with the tokens on its
left and on its right.

There are two sorts of cuts that matter.  A place at which the scanner stands in a gap is an
empty cut (`cut_of_run_eq_gap`), and the range of a token is a cut (`cut_of_run_eq_within`,
`cut_of_tokens_eq_cons`).  What the cursor sees follows the same two cases: it is in a gap exactly
if the scanner is (`inGap_focus_iff`), and otherwise in the token that the scanner is in.
-/

namespace SlashCommand.Line

open Scan

/-! ## Ranges of tokens -/

/-- Whether a token that is being read began between two offsets. -/
def Scan.BeganWithin (first offset : Nat) : Scan → Prop
  | gap => True
  | within pending => first ≤ pending.start ∧ pending.start < offset

/-- A range that lies between two offsets and is not empty. -/
structure Token.Inside (first last : Nat) (token : Token) : Prop where
  first_le_start : first ≤ token.start
  start_lt_stop : token.start < token.stop
  stop_le_last : token.stop ≤ last

lemma Token.Inside.mono {first last last' : Nat} {token : Token} (h : token.Inside first last)
    (hlast : last ≤ last') : token.Inside first last' :=
  ⟨h.first_le_start, h.start_lt_stop, h.stop_le_last.trans hlast⟩

namespace Scan

variable {first offset : Nat} {scan : Scan}

lemma beganWithin_step (h : scan.BeganWithin first offset) (hfirst : first ≤ offset) (c : Char) :
    (scan.step offset c).1.BeganWithin first (offset + 1) ∧
      ∀ token ∈ (scan.step offset c).2, token.Inside first offset := by
  cases scan with
  | gap =>
    rcases step_gap offset c with ⟨hstep, -⟩ | ⟨pending, hstep, hstart, -⟩
    · rw [hstep]
      exact ⟨trivial, nofun⟩
    · rw [hstep]
      exact ⟨⟨by omega, by omega⟩, nofun⟩
  | within pending =>
    obtain ⟨hle, hlt⟩ := h
    rcases step_within offset pending c with ⟨next, hstep, hstart, -⟩ | ⟨hstep, -⟩
    · rw [hstep]
      exact ⟨⟨by omega, by omega⟩, nofun⟩
    · rw [hstep]
      refine ⟨trivial, fun token htoken => ?_⟩
      obtain rfl : pending.token offset = token := Option.some.inj htoken
      exact ⟨hle, hlt, le_rfl⟩

lemma inside_of_mem_ended (h : scan.BeganWithin first offset) (hfirst : first ≤ offset)
    {cs : List Char} {token : Token} (htoken : token ∈ scan.ended offset cs) :
    token.Inside first (offset + cs.length - 1) := by
  induction cs generalizing offset scan with
  | nil => exact nomatch htoken
  | cons c cs ih =>
    obtain ⟨hnext, hended⟩ := beganWithin_step h hfirst c
    rw [ended, List.mem_append, Option.mem_toList] at htoken
    rw [List.length_cons]
    rcases htoken with hnow | hlater
    · exact (hended token hnow).mono (by omega)
    · exact (ih hnext (by omega) hlater).mono (by omega)

/-- The tokens that end in front of a place end before it: the character there ends them. -/
lemma inside_of_mem_ended_gap {cs : List Char} {token : Token}
    (h : token ∈ gap.ended offset cs) :
    token.Inside offset (offset + cs.length - 1) ∧ token.stop < offset + cs.length := by
  have hinside := @inside_of_mem_ended offset offset gap trivial le_rfl cs token h
  have hpos : 0 < cs.length := by
    rcases cs with _ | ⟨c, cs⟩
    · exact nomatch h
    · exact Nat.succ_pos _
  exact ⟨hinside, by have := hinside.stop_le_last; omega⟩

lemma inside_of_mem_tokens_gap {cs : List Char} {token : Token}
    (h : token ∈ tokens offset gap cs) : token.Inside offset (offset + cs.length) := by
  rw [tokens_eq_ended_append_finish, List.mem_append, Option.mem_toList] at h
  rcases h with hended | hfinish
  · exact (inside_of_mem_ended_gap hended).1.mono (by omega)
  · cases hrun : gap.run offset cs with
    | gap => rw [hrun] at hfinish; exact nomatch hfinish
    | within pending =>
      obtain ⟨before, c, after, rfl, hstart, -, -⟩ := exists_of_run_eq_within hrun
      rw [hrun] at hfinish
      obtain rfl := Option.some.inj hfinish
      refine ⟨?_, ?_, le_rfl⟩ <;>
        simp only [Pending.token, hstart, List.length_append, List.length_cons] <;> omega

/-- A token ends at the end of the line, or in front of a blank character. -/
lemma isBlank_of_mem_tokens {cs : List Char} {token : Token} (h : token ∈ tokens offset scan cs) :
    offset ≤ token.stop ∧ ∀ c ∈ (cs.drop (token.stop - offset)).head?, Text.isBlank c = true := by
  induction cs generalizing offset scan with
  | nil =>
    cases scan with
    | gap => exact absurd h List.not_mem_nil
    | within pending =>
      obtain rfl := List.mem_singleton.mp h
      exact ⟨le_rfl, by simp⟩
  | cons c cs ih =>
    rw [tokens, List.mem_append, Option.mem_toList] at h
    rcases h with hnow | hlater
    · -- the character that ends the token stands where the token stops
      obtain ⟨rfl, hblank⟩ : token.stop = offset ∧ Text.isBlank c = true := by
        cases scan with
        | gap =>
          rcases step_gap offset c with ⟨hstep, -⟩ | ⟨pending, hstep, -, -⟩ <;> rw [hstep] at hnow
          · exact absurd hnow (Option.not_mem_none token)
          · exact absurd hnow (Option.not_mem_none token)
        | within pending =>
          rcases step_within offset pending c with ⟨next, hstep, -, -⟩ | ⟨hstep, hblank⟩
          · rw [hstep] at hnow
            exact absurd hnow (Option.not_mem_none token)
          · rw [hstep] at hnow
            obtain rfl := Option.some.inj hnow
            exact ⟨rfl, hblank⟩
      refine ⟨le_rfl, ?_⟩
      simpa using hblank
    · obtain ⟨hle, hbehind⟩ := ih hlater
      have hdrop : token.stop - offset = token.stop - (offset + 1) + 1 := by omega
      rw [hdrop, List.drop_succ_cons]
      exact ⟨by omega, hbehind⟩

end Scan

/-! ## Cuts -/

/-- A range of a line at the start of which the scanner stands in a gap, and behind which it
reads as if from a gap, with the tokens on both sides. -/
structure Cut (line : List Char) (left right : List Token) (start stop : Nat) : Prop where
  start_le_stop : start ≤ stop
  stop_le_length : stop ≤ line.length
  run_start : gap.run 0 (line.take start) = gap
  ended_start : gap.ended 0 (line.take start) = left
  tokens_stop : tokens stop gap (line.drop stop) = right

namespace Cut

variable {line : List Char} {left right : List Token} {start stop : Nat}

lemma stop_lt_of_mem_left (cut : Cut line left right start stop) {token : Token}
    (h : token ∈ left) : token.stop < start := by
  rw [← cut.ended_start] at h
  have hstop := (inside_of_mem_ended_gap h).2
  rw [List.length_take] at hstop
  omega

lemma stop_le_of_mem_right (cut : Cut line left right start stop) {token : Token}
    (h : token ∈ right) : stop ≤ token.start := by
  rw [← cut.tokens_stop] at h
  exact (inside_of_mem_tokens_gap h).first_le_start

lemma length_take_start (cut : Cut line left right start stop) :
    (line.take start).length = start :=
  List.length_take_of_le (cut.start_le_stop.trans cut.stop_le_length)

/-- Whatever is put behind the start of a cut is read from a gap, behind the tokens on the left. -/
lemma tokens_take_append (cut : Cut line left right start stop) (cs : List Char) :
    tokens 0 gap (line.take start ++ cs) = left ++ tokens start gap cs := by
  rw [tokens_append, cut.ended_start, cut.run_start, cut.length_take_start, Nat.zero_add]

/-- What stands in front of a cut has the tokens on the left. -/
lemma tokenize_take_start (cut : Cut line left right start stop) :
    tokenize (String.ofList (line.take start)) = left := by
  have htokens := cut.tokens_take_append []
  rw [List.append_nil] at htokens
  rw [tokenize, String.toList_ofList, htokens]
  exact List.append_nil left

end Cut

variable {line : List Char} {place : Nat}

/-- A place at which the scanner stands in a gap. -/
theorem cut_of_run_eq_gap (hplace : place ≤ line.length)
    (hrun : gap.run 0 (line.take place) = gap) :
    ∃ left right, tokens 0 gap line = left ++ right ∧ Cut line left right place place := by
  refine ⟨_, _, ?_, le_rfl, hplace, hrun, rfl, rfl⟩
  conv_lhs => rw [← List.take_append_drop place line]
  rw [tokens_append, hrun, List.length_take, Nat.zero_add, min_eq_left hplace]

/-- The token that the scanner is in at some place: it begins before the place and does not end
before it. -/
theorem cut_of_run_eq_within (hplace : place ≤ line.length) {pending : Pending}
    (hrun : gap.run 0 (line.take place) = within pending) :
    ∃ left token right, tokens 0 gap line = left ++ token :: right ∧
      Cut line left right token.start token.stop ∧ token.start = pending.start ∧
      token.start < place ∧ place ≤ token.stop := by
  have hlength : (line.take place).length = place := by
    rw [List.length_take, min_eq_left hplace]
  obtain ⟨before, c, after, htake, hstart, hbefore, hended⟩ := exists_of_run_eq_within hrun
  obtain ⟨token, htokens, htoken, hle, hstop, -⟩ :=
    tokens_within place pending (line.drop place)
  have hline : line = before ++ c :: after ++ line.drop place := by
    rw [← htake, List.take_append_drop]
  have hbegin : line.take token.start = before := by
    rw [htoken, hstart, Nat.zero_add, hline, List.append_assoc, List.take_left]
  have hshort : token.start < place := by
    have := congrArg List.length htake
    rw [hlength, List.length_append, List.length_cons] at this
    omega
  rw [List.length_drop] at hstop
  refine ⟨gap.ended 0 (line.take place), token,
    tokens token.stop gap ((line.drop place).drop (token.stop - place)), ?_, ?_, htoken, hshort,
    hle⟩
  · conv_lhs => rw [← List.take_append_drop place line]
    rw [tokens_append, hrun, hlength, Nat.zero_add, htokens]
  · refine ⟨by omega, by omega, by rw [hbegin, hbefore], by rw [hbegin, hended], ?_⟩
    rw [List.drop_drop, Nat.add_sub_cancel' hle]

/-- The first token of a line. -/
theorem cut_of_tokens_eq_cons {token : Token} {right : List Token}
    (h : tokens 0 gap line = token :: right) : Cut line [] right token.start token.stop := by
  -- at the end of the first token the scanner is still in it
  have hinside : token.Inside 0 (0 + line.length) :=
    inside_of_mem_tokens_gap (h ▸ List.mem_cons_self)
  obtain ⟨-, hlt, hle⟩ := hinside
  rw [Nat.zero_add] at hle
  cases hrun : gap.run 0 (line.take token.stop) with
  | gap =>
    obtain ⟨left, rest, htokens, cut⟩ := cut_of_run_eq_gap hle hrun
    rw [h] at htokens
    rcases left with _ | ⟨other, left⟩
    · have := cut.stop_le_of_mem_right (htokens ▸ List.mem_cons_self)
      omega
    · obtain ⟨rfl, -⟩ := List.cons.inj htokens
      exact absurd (cut.stop_lt_of_mem_left List.mem_cons_self) (lt_irrefl _)
  | within pending =>
    obtain ⟨left, other, rest, htokens, cut, -, hstart, hstop⟩ := cut_of_run_eq_within hle hrun
    rw [h] at htokens
    rcases left with _ | ⟨first, left⟩
    · obtain ⟨rfl, rfl⟩ := List.cons.inj htokens
      exact cut
    · obtain ⟨rfl, -⟩ := List.cons.inj htokens
      have := cut.stop_lt_of_mem_left List.mem_cons_self
      omega

/-! ## The cursor -/

@[simp] lemma tokens_focus (line : String) (cursor : Int) :
    (focus line cursor).tokens = tokenize line := by
  simp only [focus]
  split <;> rfl

lemma clamp_le_length (line : String) (cursor : Int) :
    clamp line.length cursor ≤ line.toList.length := by
  rw [String.length_toList, clamp]
  exact min_le_right _ _

lemma not_holds_of_stop_lt {token : Token} (h : token.stop < place) :
    token.holds place = false := by
  rw [Token.holds, Bool.and_eq_false_iff, decide_eq_false_iff_not, decide_eq_false_iff_not]
  omega

lemma not_holds_of_le_start {token : Token} (h : place ≤ token.start) :
    token.holds place = false := by
  rw [Token.holds, Bool.and_eq_false_iff, decide_eq_false_iff_not, decide_eq_false_iff_not]
  omega

lemma find?_holds_eq_none {tokens : List Token} {first : Nat}
    (h : ∀ token ∈ tokens, token.holds place = false) :
    (tokens.zipIdx first).find? (fun entry => entry.1.holds place) = none := by
  rw [List.find?_eq_none]
  rintro ⟨token, index⟩ hentry
  rw [h token (List.fst_mem_of_mem_zipIdx hentry)]
  exact Bool.false_ne_true

/-- What the cursor sees where the scanner stands in a gap. -/
theorem focus_of_run_eq_gap {line : String} {cursor : Int}
    (hrun : gap.run 0 (line.toList.take (clamp line.length cursor)) = gap) :
    focus line cursor =
      { tokens := tokenize line
        active := none
        stem := ""
        start := clamp line.length cursor
        stop := clamp line.length cursor } := by
  have hplace := clamp_le_length line cursor
  obtain ⟨left, right, htokens, cut⟩ := cut_of_run_eq_gap hplace hrun
  have hnone : ∀ token ∈ tokenize line, token.holds (clamp line.length cursor) = false := by
    intro token htoken
    rw [tokenize, htokens, List.mem_append] at htoken
    rcases htoken with hleft | hright
    · exact not_holds_of_stop_lt (cut.stop_lt_of_mem_left hleft)
    · exact not_holds_of_le_start (cut.stop_le_of_mem_right hright)
  simp only [focus, find?_holds_eq_none hnone]

/-- A cursor sees the token that holds it, if no token in front of that one reaches as far. -/
lemma focus_of_tokenize_eq {line : String} {cursor : Int} {left right : List Token} {token : Token}
    (htokens : tokenize line = left ++ token :: right)
    (hleft : ∀ other ∈ left, other.stop < clamp line.length cursor)
    (hstart : token.start < clamp line.length cursor)
    (hstop : clamp line.length cursor ≤ token.stop) :
    focus line cursor =
      { tokens := tokenize line
        active := some left.length
        stem := String.ofList
          (stemBetween line.toList token.start (clamp line.length cursor))
        start := token.start
        stop := token.stop } := by
  have hnone : ∀ other ∈ left, other.holds (clamp line.length cursor) = false :=
    fun other hother => not_holds_of_stop_lt (hleft other hother)
  have hholds : token.holds (clamp line.length cursor) = true := by
    rw [Token.holds, decide_eq_true hstart, decide_eq_true hstop]
    rfl
  have hfind :
      (tokenize line).zipIdx.find? (fun entry => entry.1.holds (clamp line.length cursor)) =
        some (token, left.length) := by
    rw [htokens, List.zipIdx_append, List.find?_append, find?_holds_eq_none hnone,
      Option.none_or, List.zipIdx_cons, List.find?_cons]
    simp only [hholds, Nat.zero_add]
  simp only [focus, hfind]

/-- What the cursor sees where the scanner is in a token. -/
theorem focus_of_run_eq_within {line : String} {cursor : Int} {pending : Pending}
    (hrun : gap.run 0 (line.toList.take (clamp line.length cursor)) = within pending) :
    ∃ left token right, tokenize line = left ++ token :: right ∧
      Cut line.toList left right token.start token.stop ∧ token.start = pending.start ∧
      token.start < clamp line.length cursor ∧ clamp line.length cursor ≤ token.stop ∧
      focus line cursor =
        { tokens := tokenize line
          active := some left.length
          stem := String.ofList
            (stemBetween line.toList token.start (clamp line.length cursor))
          start := token.start
          stop := token.stop } := by
  have hplace := clamp_le_length line cursor
  obtain ⟨left, token, right, htokens, cut, hpending, hstart, hstop⟩ :=
    cut_of_run_eq_within hplace hrun
  have hleft : ∀ other ∈ left, other.stop < clamp line.length cursor :=
    fun other hother => (cut.stop_lt_of_mem_left hother).trans hstart
  exact ⟨left, token, right, htokens, cut, hpending, hstart, hstop,
    focus_of_tokenize_eq htokens hleft hstart hstop⟩

/-- The cursor is in a gap exactly if the scanner is. -/
theorem inGap_focus_iff {line : String} {cursor : Int} :
    (focus line cursor).inGap = true ↔
      gap.run 0 (line.toList.take (clamp line.length cursor)) = gap := by
  constructor
  · intro h
    cases hrun : gap.run 0 (line.toList.take (clamp line.length cursor)) with
    | gap => rfl
    | within pending =>
      obtain ⟨left, token, right, -, -, -, -, -, hfocus⟩ := focus_of_run_eq_within hrun
      rw [hfocus] at h
      exact nomatch h
  · intro hrun
    rw [focus_of_run_eq_gap hrun]
    rfl

/-- At a cursor that a token holds, the scanner is in a token. -/
lemma exists_run_eq_within_of_mem {line : String} {cursor : Int} {token : Token}
    (htoken : token ∈ tokenize line) (hstart : token.start < clamp line.length cursor)
    (hstop : clamp line.length cursor ≤ token.stop) :
    ∃ pending, gap.run 0 (line.toList.take (clamp line.length cursor)) = within pending := by
  cases hrun : gap.run 0 (line.toList.take (clamp line.length cursor)) with
  | within pending => exact ⟨pending, rfl⟩
  | gap =>
    obtain ⟨left, right, htokens, cut⟩ := cut_of_run_eq_gap (clamp_le_length line cursor) hrun
    rw [tokenize, htokens, List.mem_append] at htoken
    rcases htoken with hleft | hright
    · have := cut.stop_lt_of_mem_left hleft
      omega
    · have := cut.stop_le_of_mem_right hright
      omega

/-! ## The left part of a line -/

lemma length_ofList_take_clamp (line : String) (cursor : Int) :
    (String.ofList (line.toList.take (clamp line.length cursor))).length =
      clamp line.length cursor := by
  rw [String.length_ofList, List.length_take, min_eq_left (clamp_le_length line cursor)]

/-- A cursor stands at the end of the part of the line on its left. -/
@[simp] lemma clamp_length_ofList_take (line : String) (cursor : Int) :
    clamp (String.ofList (line.toList.take (clamp line.length cursor))).length
      (clamp line.length cursor) = clamp line.length cursor := by
  rw [length_ofList_take_clamp, clamp, Int.toNat_natCast, min_self]

end SlashCommand.Line
