import SlashCommand.Proofs.Line.Cut
import SlashCommand.Proofs.Line.Registers
import SlashCommand.Proofs.Line.Spelling
import SlashCommand.Text.Split

/-!
# What tokens cover

The ranges of the tokens lie in the line, one behind the other with something between them, and
what they leave out are blank characters.  Which blank characters these are is a matter of the
scanner's state alone: a character is covered exactly if the scanner is in a token behind it
(`exists_covers_iff`), and it is not exactly if the character is blank and was met outside of
quoted parts (`step_eq_gap_iff`).

In a line without quotes there are no quoted parts, a token's text is what it was read from
(`Verbatim`), and the tokens are the words between blank characters
(`map_text_tokens_of_not_isQuote`).
-/

namespace SlashCommand

/-! ## Words between blank characters -/

namespace Text

/-- The words of a text are the pieces between its blank characters, but for the empty ones. -/
lemma wordsOf_eq_splitOnP (cs : List Char) :
    wordsOf cs =
      ((cs.splitOnP isBlank).filter fun word => !word.isEmpty).map String.ofList := by
  simp only [wordsOf]
  congr 2
  induction cs with
  | nil => rw [List.foldr_nil, List.splitOnP_nil]
  | cons c cs ih =>
    rw [List.foldr_cons, ih, List.splitOnP_cons_eq_if_modifyHead]
    cases hrest : cs.splitOnP isBlank with
    | nil => exact absurd hrest (List.splitOnP_ne_nil isBlank cs)
    | cons word words => rfl

lemma wordsOf_cons_of_isBlank {c : Char} (hc : isBlank c = true) (cs : List Char) :
    wordsOf (c :: cs) = wordsOf cs := by
  have hsplit := List.splitOnP_cons_eq_if_modifyHead (p := isBlank) c cs
  rw [if_pos hc] at hsplit
  rw [wordsOf_eq_splitOnP, wordsOf_eq_splitOnP, hsplit]
  rfl

/-- A word that a blank character ends is the first word. -/
lemma wordsOf_append_cons {word : List Char} (hne : word ≠ [])
    (hword : ∀ c ∈ word, isBlank c = false) {c : Char} (hc : isBlank c = true)
    (cs : List Char) : wordsOf (word ++ c :: cs) = String.ofList word :: wordsOf cs := by
  have hkeep : (!word.isEmpty) = true := by simpa using hne
  rw [wordsOf_eq_splitOnP, wordsOf_eq_splitOnP,
    List.splitOnP_append_cons_of_forall_mem hword c hc, List.filter_cons, if_pos hkeep,
    List.map_cons]

lemma wordsOf_of_not_isBlank {word : List Char} (hne : word ≠ [])
    (hword : ∀ c ∈ word, isBlank c = false) : wordsOf word = [String.ofList word] := by
  have hkeep : (!word.isEmpty) = true := by simpa using hne
  rw [wordsOf_eq_splitOnP, List.splitOnP_eq_singleton hword, List.filter_cons, if_pos hkeep]
  rfl

end Text

namespace Line

open Scan

/-! ## Covered characters -/

/-- Whether a token was read from the character at a place, among others. -/
def Token.Covers (token : Token) (place : Nat) : Prop :=
  token.start ≤ place ∧ place < token.stop

/-- The characters of a line that a token was read from. -/
def Token.source (line : String) (token : Token) : String :=
  String.ofList ((line.toList.take token.stop).drop token.start)

/-- Whether the scanner is outside of quoted parts. -/
def Scan.Outside : Scan → Prop
  | gap => True
  | within pending => pending.quoting = .bare

section

variable {line : List Char} {place : Nat}

lemma within_ne_gap (pending : Pending) : Scan.within pending ≠ gap := by
  intro h
  cases h

/-- A character is covered exactly if the scanner is in a token behind it. -/
theorem exists_covers_iff (hplace : place < line.length) :
    (∃ token ∈ tokens 0 gap line, token.Covers place) ↔
      gap.run 0 (line.take (place + 1)) ≠ gap := by
  cases hrun : gap.run 0 (line.take (place + 1)) with
  | gap =>
    -- the tokens on the left have ended, those on the right begin later
    obtain ⟨left, right, htokens, cut⟩ := cut_of_run_eq_gap hplace hrun
    refine iff_of_false ?_ (fun hne => hne rfl)
    rintro ⟨token, htoken, hstart, hstop⟩
    rw [htokens, List.mem_append] at htoken
    rcases htoken with hleft | hright
    · have := cut.stop_lt_of_mem_left hleft
      omega
    · have := cut.stop_le_of_mem_right hright
      omega
  | within pending =>
    obtain ⟨left, token, right, htokens, -, -, hstart, hstop⟩ := cut_of_run_eq_within hplace hrun
    refine iff_of_true ⟨token, ?_, by omega, by omega⟩ (within_ne_gap _)
    rw [htokens]
    exact List.mem_append_right left List.mem_cons_self

/-- Behind a character the scanner is in a gap exactly if the character is blank and no quoted
part is open. -/
theorem step_eq_gap_iff (offset : Nat) (c : Char) (scan : Scan) :
    (scan.step offset c).1 = gap ↔ Text.isBlank c = true ∧ scan.Outside := by
  cases scan with
  | gap =>
    rcases step_gap offset c with ⟨hstep, hblank⟩ | ⟨pending, hstep, -, hblank⟩
    · rw [hstep]
      exact iff_of_true rfl ⟨hblank, trivial⟩
    · rw [hstep, hblank]
      exact iff_of_false (within_ne_gap pending) fun h => Bool.false_ne_true h.1
  | within pending =>
    obtain ⟨text, start, quoted, quoting⟩ := pending
    cases quoting with
    | bare =>
      simp only [step, Outside, and_true]
      split_ifs with hquote hblank
      · -- a quote is not blank
        refine iff_of_false not_false fun hblank => ?_
        rw [isQuote_eq_false_of_isBlank hblank] at hquote
        cases hquote
      · exact iff_of_true rfl hblank
      · exact iff_of_false not_false hblank
    | inside quote =>
      refine iff_of_false ?_ fun h => Quoting.noConfusion h.2
      simp only [step]
      split_ifs <;> exact not_false
    | escaped quote => exact iff_of_false (within_ne_gap _) fun h => Quoting.noConfusion h.2

lemma run_take_succ {scan : Scan} {c : Char} (hc : (line)[place]? = some c) :
    scan.run 0 (line.take (place + 1)) = ((scan.run 0 (line.take place)).step place c).1 := by
  have hlength : (line.take place).length = place := by
    obtain ⟨hlt, -⟩ := List.getElem?_eq_some_iff.mp hc
    rw [List.length_take]
    omega
  rw [List.take_add_one, hc, Option.toList_some, run_append, hlength, Nat.zero_add]
  rfl

/-- No token covers a character exactly if it is blank and no quoted part is open in front of
it. -/
theorem not_covers_iff {c : Char} (hc : (line)[place]? = some c) :
    (∀ token ∈ tokens 0 gap line, ¬ token.Covers place) ↔
      Text.isBlank c = true ∧ (gap.run 0 (line.take place)).Outside := by
  obtain ⟨hplace, -⟩ := List.getElem?_eq_some_iff.mp hc
  have hcovers := exists_covers_iff hplace
  rw [run_take_succ hc, ne_eq, step_eq_gap_iff] at hcovers
  rw [← not_iff_not, ← hcovers]
  push Not
  rfl

end

/-! ## The order of tokens -/

/-- Each token ends in front of the next one, with a character between them. -/
lemma pairwise_tokens (offset : Nat) (scan : Scan) (cs : List Char) :
    (tokens offset scan cs).Pairwise fun first second => first.stop < second.start := by
  induction cs generalizing offset scan with
  | nil =>
    rw [tokens]
    cases scan with
    | gap => exact List.Pairwise.nil
    | within pending => exact List.pairwise_singleton _ _
  | cons c cs ih =>
    rw [tokens, List.pairwise_append]
    refine ⟨?_, ih _ _, fun first hfirst second hsecond => ?_⟩
    · cases (scan.step offset c).2 with
      | none => exact List.Pairwise.nil
      | some token => exact List.pairwise_singleton _ _
    · -- where a token ends, what follows is read from a gap behind this character
      rw [Option.mem_toList] at hfirst
      cases scan with
      | gap =>
        rcases step_gap offset c with ⟨hstep, -⟩ | ⟨pending, hstep, -, -⟩ <;>
          rw [hstep] at hfirst <;> cases hfirst
      | within pending =>
        rcases step_within offset pending c with ⟨next, hstep, -, -⟩ | ⟨hstep, -⟩
        · rw [hstep] at hfirst
          cases hfirst
        · rw [hstep] at hfirst hsecond
          obtain rfl := Option.some.inj hfirst
          have hbegin := (inside_of_mem_tokens_gap hsecond).first_le_start
          have hend : (pending.token offset).stop = offset := rfl
          omega

/-! ## Lines without quotes -/

/-- Whether a token that is being read is what was read since its start. -/
def Scan.Verbatim (before : List Char) : Scan → Prop
  | gap => True
  | within pending =>
    pending.start ≤ before.length ∧ pending.text = before.drop pending.start ∧
      pending.quoted = false ∧ pending.quoting = .bare

/-- Whether a token is what it was read from. -/
def Token.IsVerbatim (cs : List Char) (token : Token) : Prop :=
  token.text = String.ofList ((cs.take token.stop).drop token.start) ∧ token.quoted = false

section

variable {before cs : List Char} {scan : Scan}

/-- A character that is no quote keeps a token what was read, and one that it ends is that. -/
lemma verbatim_step {c : Char} (hc : isQuote c = false) (hscan : scan.Verbatim before) :
    (scan.step before.length c).1.Verbatim (before ++ [c]) ∧
      ∀ token ∈ (scan.step before.length c).2,
        token.stop = before.length ∧ token.IsVerbatim before := by
  cases scan with
  | gap =>
    simp only [step, hc, Bool.false_eq_true, if_false]
    split_ifs
    · exact ⟨trivial, fun token htoken => by cases htoken⟩
    · refine ⟨⟨?_, ?_, rfl, rfl⟩, fun token htoken => by cases htoken⟩
      · simp only [List.length_append]
        omega
      · rw [List.drop_left]
  | within pending =>
    obtain ⟨text, start, quoted, quoting⟩ := pending
    obtain ⟨hstart, htext, hquoted, hquoting⟩ := hscan
    simp only at hstart htext hquoted hquoting
    subst htext hquoted hquoting
    simp only [step, hc, Bool.false_eq_true, if_false]
    split_ifs
    · refine ⟨trivial, fun token htoken => ?_⟩
      obtain rfl := Option.some.inj htoken
      refine ⟨rfl, ?_, rfl⟩
      rw [Pending.token, List.take_length]
    · refine ⟨⟨?_, ?_, rfl, rfl⟩, fun token htoken => by cases htoken⟩
      · simp only [Pending.push, List.length_append]
        omega
      · simp only [Pending.push]
        rw [List.drop_append_of_le_length hstart]

/-- Without quotes, tokens are what they were read from. -/
lemma isVerbatim_of_mem_tokens (hcs : ∀ c ∈ cs, isQuote c = false) (hscan : scan.Verbatim before)
    {token : Token} (htoken : token ∈ tokens before.length scan cs) :
    token.IsVerbatim (before ++ cs) := by
  induction cs generalizing before scan with
  | nil =>
    rw [List.append_nil]
    cases scan with
    | gap => cases htoken
    | within pending =>
      obtain ⟨-, htext, hquoted, -⟩ := hscan
      obtain rfl := List.mem_singleton.mp htoken
      refine ⟨?_, hquoted⟩
      rw [Pending.token, List.take_length, htext]
  | cons c cs ih =>
    obtain ⟨hnext, hended⟩ := verbatim_step (hcs c List.mem_cons_self) hscan
    rw [tokens, List.mem_append, Option.mem_toList] at htoken
    rcases htoken with hnow | hlater
    · obtain ⟨hstop, htext, hquoted⟩ := hended token hnow
      refine ⟨?_, hquoted⟩
      rw [htext, hstop, List.take_length, List.take_left]
    · have hlength : before.length + 1 = (before ++ [c]).length := by
        rw [List.length_append, List.length_singleton]
      rw [hlength] at hlater
      have hrest := ih (fun d hd => hcs d (List.mem_cons_of_mem c hd)) hnext hlater
      rwa [List.append_assoc, List.singleton_append] at hrest

/-- Without quotes, the tokens are the words: read from a gap those of the rest, and from within a
token those of the token and the rest together. -/
theorem map_text_tokens_of_not_isQuote (hcs : ∀ c ∈ cs, isQuote c = false) (offset : Nat) :
    (tokens offset gap cs).map (·.text) = Text.wordsOf cs ∧
      ∀ (text : List Char) (start : Nat), text ≠ [] → (∀ c ∈ text, Text.isBlank c = false) →
        (tokens offset (within ⟨text, start, false, .bare⟩) cs).map (·.text) =
          Text.wordsOf (text ++ cs) := by
  induction cs generalizing offset with
  | nil =>
    refine ⟨rfl, fun text start hne htext => ?_⟩
    rw [List.append_nil, Text.wordsOf_of_not_isBlank hne htext]
    rfl
  | cons c cs ih =>
    obtain ⟨hgap, hwithin⟩ := ih (fun d hd => hcs d (List.mem_cons_of_mem c hd)) (offset + 1)
    have hc : isQuote c = false := hcs c List.mem_cons_self
    by_cases hblank : Text.isBlank c = true
    · constructor
      · rw [tokens_gap_cons_blank hblank, hgap, Text.wordsOf_cons_of_isBlank hblank]
      · intro text start hne htext
        rw [tokens, step_bare_blank hblank, Option.toList_some, List.singleton_append,
          List.map_cons, hgap, Text.wordsOf_append_cons hne htext hblank]
    · rw [Bool.not_eq_true] at hblank
      constructor
      · rw [tokens, step_gap_ordinary hblank hc, Option.toList_none, List.nil_append,
          hwithin [c] offset (List.cons_ne_nil c []) (by simpa using hblank)]
        rfl
      · intro text start hne htext
        have hlonger : ∀ d ∈ text ++ [c], Text.isBlank d = false := by
          intro d hd
          rcases List.mem_append.mp hd with hd | hd
          · exact htext d hd
          · rw [List.mem_singleton.mp hd]
            exact hblank
        rw [tokens, step_bare_ordinary hblank hc, Option.toList_none, List.nil_append,
          hwithin (text ++ [c]) start (by simp) hlonger, List.append_assoc, List.singleton_append]

end

/-! ## Lines -/

/-- Whether tokens are laid out along a line: they lie in it one behind the other, and leave out
nothing but blank characters, namely those outside of quoted parts. -/
structure LaidOut (line : String) (tokens : List Token) : Prop where
  inside : ∀ token ∈ tokens, token.start < token.stop ∧ token.stop ≤ line.length
  apart : tokens.Pairwise fun first second => first.stop < second.start
  isBlank_stop : ∀ token ∈ tokens, token.stop < line.length →
    ∃ c, line.toList[token.stop]? = some c ∧ Text.isBlank c = true
  left_out_iff : ∀ (place : Nat) (c : Char), line.toList[place]? = some c →
    ((∀ token ∈ tokens, ¬ token.Covers place) ↔
      Text.isBlank c = true ∧ (gap.run 0 (line.toList.take place)).Outside)

lemma LaidOut.of_tokenize (line : String) : LaidOut line (tokenize line) where
  inside token htoken := by
    obtain ⟨-, hlt, hle⟩ := inside_of_mem_tokens_gap htoken
    rw [Nat.zero_add, String.length_toList] at hle
    exact ⟨hlt, hle⟩
  apart := pairwise_tokens 0 gap line.toList
  isBlank_stop token htoken hstop := by
    obtain ⟨-, hblank⟩ := isBlank_of_mem_tokens htoken
    rw [← String.length_toList] at hstop
    refine ⟨_, List.getElem?_eq_getElem hstop, hblank _ ?_⟩
    rw [Nat.sub_zero, List.head?_drop, List.getElem?_eq_getElem hstop]
    rfl
  left_out_iff place c hc := not_covers_iff hc

/-- The tokens of every line are laid out along it, and a loop that keeps the start of a token
apart from its text has set it whenever a token ends.  Without quotes in the line the tokens are
its words, each the characters that it was read from. -/
theorem laidOut_tokenize (line : String) :
    LaidOut line (tokenize line) ∧
    (Registers.clear.tokens 0 line.toList = (tokenize line).map Token.written ∧
      (((Registers.clear.run 0 line.toList).finish line.length).isSome = true →
        0 ≤ (Registers.clear.run 0 line.toList).start)) ∧
    ((∀ c ∈ line.toList, isQuote c = false) →
      (tokenize line).map (·.text) = Text.wordsOf line.toList ∧
      ∀ token ∈ tokenize line, token.text = token.source line ∧ token.quoted = false) := by
  refine ⟨.of_tokenize line, ⟨Registers.tokens_clear line,
    Registers.start_nonneg_of_isSome_finish line.toList⟩, fun hline => ⟨?_, ?_⟩⟩
  · exact (map_text_tokens_of_not_isQuote hline 0).1
  · intro token htoken
    have hgap : Scan.gap.Verbatim [] := trivial
    have hverbatim : token.IsVerbatim ([] ++ line.toList) :=
      isVerbatim_of_mem_tokens hline hgap htoken
    rwa [List.nil_append] at hverbatim

end Line

end SlashCommand
