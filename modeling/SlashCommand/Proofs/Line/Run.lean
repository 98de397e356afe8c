import Mathlib.Data.List.Induction
import Mathlib.Data.List.TakeWhile
import Mathlib.Order.Basic
import SlashCommand.Line.Token

/-!
# Runs of the scanner

`Scan.tokens` reads a line to its end.  What is said about cursors, cuts and edits is said of a
line that has been read up to some place, so a reading is split here into the two things it
leaves behind at that place: the state (`Scan.run`) and the tokens that ended on the way
(`Scan.ended`).  `tokens_append` puts the two together again.

Two facts carry everything else.  In a gap the scanner has forgotten what it read, and a reading
does not depend on the offset it started from except in the ranges it writes down
(`tokens_eq_map_shift`).  And the state tells where the token that is being read began:
`exists_of_run_eq_within` finds the gap in front of it, `tokens_within` the gap behind it.
-/

namespace SlashCommand.Line

/-! ## Reading further to the right -/

/-- A token whose line has been put behind `distance` other characters. -/
def Token.shift (distance : Nat) (token : Token) : Token :=
  { token with start := token.start + distance, stop := token.stop + distance }

/-- A pending token whose line has been put behind `distance` other characters. -/
def Pending.shift (distance : Nat) (pending : Pending) : Pending :=
  { pending with start := pending.start + distance }

namespace Scan

/-- A state behind `distance` other characters. -/
def shift (distance : Nat) : Scan → Scan
  | gap => gap
  | within pending => within (pending.shift distance)

/-! ## Runs -/

/-- The state behind some characters. -/
def run (offset : Nat) (scan : Scan) : List Char → Scan
  | [] => scan
  | c :: cs => run (offset + 1) (scan.step offset c).1 cs

/-- The tokens that end among some characters; one that the end of the line would end is not
among them. -/
def ended (offset : Nat) (scan : Scan) : List Char → List Token
  | [] => []
  | c :: cs => (scan.step offset c).2.toList ++ ended (offset + 1) (scan.step offset c).1 cs

variable {offset : Nat} {scan : Scan}

lemma run_append (before after : List Char) :
    scan.run offset (before ++ after) =
      (scan.run offset before).run (offset + before.length) after := by
  induction before generalizing offset scan with
  | nil => rfl
  | cons c cs ih =>
    rw [List.cons_append, run, ih, List.length_cons, Nat.add_right_comm, Nat.add_assoc]
    rfl

lemma ended_append (before after : List Char) :
    scan.ended offset (before ++ after) =
      scan.ended offset before ++
        (scan.run offset before).ended (offset + before.length) after := by
  induction before generalizing offset scan with
  | nil => rfl
  | cons c cs ih =>
    rw [List.cons_append, ended, ih, ended, run, List.length_cons, Nat.add_right_comm,
      Nat.add_assoc, List.append_assoc]

/-- A line is read in two parts: the tokens that end in the first, then those of the second from
the state that the first leaves behind. -/
theorem tokens_append (before after : List Char) :
    tokens offset scan (before ++ after) =
      scan.ended offset before ++
        tokens (offset + before.length) (scan.run offset before) after := by
  induction before generalizing offset scan with
  | nil => rfl
  | cons c cs ih =>
    rw [List.cons_append, tokens, ih, ended, run, List.length_cons, Nat.add_right_comm,
      Nat.add_assoc, List.append_assoc]

lemma tokens_eq_ended_append_finish (cs : List Char) :
    tokens offset scan cs =
      scan.ended offset cs ++ ((scan.run offset cs).finish (offset + cs.length)).toList := by
  have h := @tokens_append offset scan cs []
  rwa [List.append_nil, tokens] at h

/-! ## A reading does not depend on its offset -/

lemma step_shift (distance : Nat) (c : Char) :
    (scan.shift distance).step (offset + distance) c =
      ((scan.step offset c).1.shift distance,
        (scan.step offset c).2.map (Token.shift distance)) := by
  rcases scan with _ | ⟨text, start, quoted, quoting⟩
  · simp only [shift, step]
    split_ifs <;> rfl
  · rcases quoting with _ | quote | quote <;> simp only [shift, Pending.shift, step]
    · split_ifs <;> rfl
    · split_ifs <;> rfl
    · rfl

lemma finish_shift (distance : Nat) :
    (scan.shift distance).finish (offset + distance) =
      (scan.finish offset).map (Token.shift distance) := by
  cases scan <;> rfl

lemma tokens_shift (distance : Nat) (cs : List Char) :
    tokens (offset + distance) (scan.shift distance) cs =
      (tokens offset scan cs).map (Token.shift distance) := by
  induction cs generalizing offset scan with
  | nil => rw [tokens, tokens, finish_shift, Option.toList_map]
  | cons c cs ih =>
    rw [tokens, tokens, step_shift, Nat.add_right_comm, ih, List.map_append, Option.toList_map]

/-- What follows a gap is read as if it were a line of its own, only further to the right. -/
theorem tokens_eq_map_shift (offset : Nat) (cs : List Char) :
    tokens offset gap cs = (tokens 0 gap cs).map (Token.shift offset) := by
  have h := @tokens_shift 0 gap offset cs
  rwa [Nat.zero_add] at h

/-! ## Blank characters in a gap -/

lemma isQuote_eq_false_of_isBlank {c : Char} (h : Text.isBlank c = true) : isQuote c = false := by
  by_contra hc
  rw [Bool.not_eq_false, isQuote, Bool.or_eq_true, beq_iff_eq, beq_iff_eq] at hc
  rcases hc with rfl | rfl <;> exact absurd h (by decide)

lemma step_gap_blank {c : Char} (h : Text.isBlank c = true) : gap.step offset c = (gap, none) := by
  rw [step, isQuote_eq_false_of_isBlank h, if_neg Bool.false_ne_true, if_pos h]

lemma run_gap_blank {cs : List Char} (h : ∀ c ∈ cs, Text.isBlank c = true) :
    gap.run offset cs = gap := by
  induction cs generalizing offset with
  | nil => rfl
  | cons c cs ih =>
    rw [run, step_gap_blank (h c List.mem_cons_self)]
    exact ih fun d hd => h d (List.mem_cons_of_mem c hd)

lemma ended_gap_blank {cs : List Char} (h : ∀ c ∈ cs, Text.isBlank c = true) :
    gap.ended offset cs = [] := by
  induction cs generalizing offset with
  | nil => rfl
  | cons c cs ih =>
    rw [ended, step_gap_blank (h c List.mem_cons_self)]
    exact ih fun d hd => h d (List.mem_cons_of_mem c hd)

/-- In front of a blank character a gap may as well begin behind it. -/
lemma tokens_gap_cons_blank {c : Char} (h : Text.isBlank c = true) (offset : Nat)
    (cs : List Char) : tokens offset gap (c :: cs) = tokens (offset + 1) gap cs := by
  rw [tokens, step_gap_blank h, Option.toList_none, List.nil_append]

/-- Blank characters in a gap leave nothing behind but the offset. -/
lemma tokens_gap_blank_append {blanks : List Char} (h : ∀ c ∈ blanks, Text.isBlank c = true)
    (cs : List Char) :
    tokens offset gap (blanks ++ cs) = tokens (offset + blanks.length) gap cs := by
  rw [tokens_append, ended_gap_blank h, run_gap_blank h, List.nil_append]

lemma tokens_gap_dropBlank (offset : Nat) (cs : List Char) :
    ∃ skipped, tokens offset gap cs = tokens (offset + skipped) gap (Text.dropBlank cs) := by
  refine ⟨(cs.takeWhile Text.isBlank).length, ?_⟩
  have hblank : ∀ c ∈ cs.takeWhile Text.isBlank, Text.isBlank c = true := fun c hc =>
    List.mem_takeWhile_imp hc
  rw [← tokens_gap_blank_append hblank, Text.dropBlank, List.takeWhile_append_dropWhile]

/-! ## The token that is being read -/

/-- A step within a token keeps its start and its text, or it ends the token and is blank. -/
lemma step_within (offset : Nat) (pending : Pending) (c : Char) :
    (∃ next : Pending, (within pending).step offset c = (within next, none) ∧
      next.start = pending.start ∧ pending.text <+: next.text) ∨
    ((within pending).step offset c = (gap, some (pending.token offset)) ∧
      Text.isBlank c = true) := by
  rcases pending with ⟨text, start, quoted, quoting⟩
  cases quoting with
  | bare =>
    simp only [step]
    split_ifs with hquote hblank
    · exact .inl ⟨_, rfl, rfl, List.prefix_rfl⟩
    · exact .inr ⟨rfl, hblank⟩
    · exact .inl ⟨_, rfl, rfl, List.prefix_append text [c]⟩
  | inside quote =>
    -- a backslash or the closing quote adds nothing to the text, any other character itself
    simp only [step]
    split_ifs
    · exact .inl ⟨_, rfl, rfl, List.prefix_rfl⟩
    · exact .inl ⟨_, rfl, rfl, List.prefix_rfl⟩
    · exact .inl ⟨_, rfl, rfl, List.prefix_append text [c]⟩
  | escaped quote => exact .inl ⟨_, rfl, rfl, List.prefix_append text [c]⟩

/-- A step in a gap stays there or begins a token, and ends none. -/
lemma step_gap (offset : Nat) (c : Char) :
    (gap.step offset c = (gap, none) ∧ Text.isBlank c = true) ∨
    ∃ pending : Pending, gap.step offset c = (within pending, none) ∧
      pending.start = offset ∧ Text.isBlank c = false := by
  simp only [step]
  split_ifs with hquote hblank
  · refine .inr ⟨_, rfl, rfl, ?_⟩
    by_contra hblank
    rw [Bool.not_eq_false] at hblank
    rw [isQuote_eq_false_of_isBlank hblank] at hquote
    exact Bool.false_ne_true hquote
  · exact .inl ⟨rfl, hblank⟩
  · exact .inr ⟨_, rfl, rfl, Bool.not_eq_true _ ▸ hblank⟩

/-- Without a blank character to read, no token ends. -/
lemma ended_eq_nil {cs : List Char} (h : ∀ c ∈ cs, Text.isBlank c = false) :
    scan.ended offset cs = [] := by
  induction cs generalizing offset scan with
  | nil => rfl
  | cons c cs ih =>
    have hnone : (scan.step offset c).2 = none := by
      cases scan with
      | gap =>
        rcases step_gap offset c with ⟨hstep, -⟩ | ⟨pending, hstep, -, -⟩ <;> rw [hstep]
      | within pending =>
        rcases step_within offset pending c with ⟨next, hstep, -, -⟩ | ⟨-, hblank⟩
        · rw [hstep]
        · rw [h c List.mem_cons_self] at hblank
          exact nomatch hblank
    rw [ended, hnone, ih fun d hd => h d (List.mem_cons_of_mem c hd)]
    rfl

/-- From within a token, the next token is the one that is being read, and what follows it is
read from a gap at its end. -/
theorem tokens_within (offset : Nat) (pending : Pending) (cs : List Char) :
    ∃ token, tokens offset (within pending) cs =
        token :: tokens token.stop gap (cs.drop (token.stop - offset)) ∧
      token.start = pending.start ∧ offset ≤ token.stop ∧ token.stop ≤ offset + cs.length ∧
      pending.text <+: token.text.toList := by
  induction cs generalizing offset pending with
  | nil =>
    refine ⟨pending.token offset, ?_, rfl, le_rfl, le_rfl, ?_⟩
    · simp only [tokens, finish, List.drop_nil, Option.toList_some, Option.toList_none]
    · simp only [Pending.token, String.toList_ofList, List.prefix_rfl]
  | cons c cs ih =>
    rcases step_within offset pending c with ⟨next, hstep, hstart, htext⟩ |
      ⟨hstep, hblank⟩
    · -- the token goes on behind this character, with the same start and a longer text
      obtain ⟨token, htokens, hnext, hle, hlength, hprefix⟩ := ih (offset + 1) next
      refine ⟨token, ?_, hnext.trans hstart, by omega, by rw [List.length_cons]; omega,
        htext.trans hprefix⟩
      have hdrop : token.stop - offset = token.stop - (offset + 1) + 1 := by omega
      rw [tokens, hstep, hdrop, List.drop_succ_cons]
      exact htokens
    · -- the blank character ends the token; the gap behind it may as well begin in front of it
      refine ⟨pending.token offset, ?_, rfl, le_rfl, Nat.le_add_right _ _, ?_⟩
      · rw [tokens, hstep]
        simp only [Pending.token, Nat.sub_self, List.drop_zero,
          tokens_gap_cons_blank hblank, Option.toList_some, List.singleton_append]
      · simp only [Pending.token, String.toList_ofList, List.prefix_rfl]

/-- A token that is being read began behind a gap, at its start, and no token has ended
since. -/
theorem exists_of_run_eq_within {cs : List Char} {pending : Pending}
    (h : gap.run offset cs = within pending) :
    ∃ before c after, cs = before ++ c :: after ∧ pending.start = offset + before.length ∧
      gap.run offset before = gap ∧ gap.ended offset before = gap.ended offset cs := by
  -- the last character either began the token, or the token was being read in front of it
  induction cs using List.reverseRecOn generalizing pending with
  | nil => exact nomatch h
  | append_singleton cs d ih =>
    rw [run_append] at h
    cases hcs : gap.run offset cs with
    | gap =>
      rw [hcs] at h
      rcases step_gap (offset + cs.length) d with ⟨hstep, -⟩ | ⟨begun, hstep, hstart, -⟩
      · rw [run, run, hstep] at h
        exact nomatch h
      · rw [run, run, hstep] at h
        cases h
        refine ⟨cs, d, [], rfl, hstart, hcs, ?_⟩
        rw [ended_append, hcs, ended, ended, hstep]
        simp
    | within reading =>
      rw [hcs] at h
      rcases step_within (offset + cs.length) reading d with
        ⟨next, hstep, hstart, -⟩ | ⟨hstep, -⟩
      · rw [run, run, hstep] at h
        cases h
        obtain ⟨before, c, after, rfl, hbefore, hrun, hended⟩ := ih hcs
        refine ⟨before, c, after ++ [d], by simp, hstart.trans hbefore, hrun, ?_⟩
        rw [ended_append (before ++ c :: after), hcs, ended, ended, hstep, hended]
        simp
      · rw [run, run, hstep] at h
        exact nomatch h

end Scan

/-- A line whose first character that is not blank is the slash has a first token, which begins
with the slash. -/
theorem exists_tokenize_eq_cons {line : String} {cs : List Char}
    (h : Text.dropBlank line.toList = '/' :: cs) :
    ∃ first rest, tokenize line = first :: rest ∧ ∃ name, first.text.toList = '/' :: name := by
  obtain ⟨skipped, htokens⟩ := Scan.tokens_gap_dropBlank 0 line.toList
  obtain ⟨first, hfirst, -, -, -, name, hname⟩ :=
    Scan.tokens_within (0 + skipped + 1) ⟨['/'], 0 + skipped, false, .bare⟩ cs
  rw [h] at htokens
  exact ⟨first, _, htokens.trans hfirst, name, hname.symm⟩

end SlashCommand.Line
