import SlashCommand.Proofs.Line.Coverage
import SlashCommand.Proofs.Line.Reading

/-!
# Reading a line in parts

Neither reader carries anything across a blank character that is met outside of quotes.  What
stands in front of it and what stands behind it are read as two lines, and put side by side they
are what is read of the whole (`tokens_append_blank`, `Reader.words_append_blank`).  The only trace
of the first part in the second is how far to the right its tokens stand.

A token is local in the same way.  Taken out of its line, the characters that it was read from are
read as that token and nothing else (`tokenize_source`), also where a quote is left open in them
or a backslash is their last character.
-/

namespace SlashCommand.Line

open Scan

/-! ## Tokens taken out of their line -/

namespace Scan

variable {offset : Nat} {token : Token}

/-- From within a token, the characters up to where the token stops are enough to read it. -/
lemma tokens_within_take (offset : Nat) (pending : Pending) (cs : List Char) :
    ∃ token rest, tokens offset (within pending) cs = token :: rest ∧ offset ≤ token.stop ∧
      tokens offset (within pending) (cs.take (token.stop - offset)) = [token] := by
  induction cs generalizing offset pending with
  | nil => exact ⟨pending.token offset, [], rfl, le_rfl, by rw [List.take_nil]; rfl⟩
  | cons c cs ih =>
    rcases step_within offset pending c with ⟨next, hstep, -, -⟩ | ⟨hstep, -⟩
    · -- the token goes on behind this character
      obtain ⟨token, rest, htokens, hle, htake⟩ := ih (offset + 1) next
      have hlength : token.stop - offset = token.stop - (offset + 1) + 1 := by omega
      refine ⟨token, rest, ?_, by omega, ?_⟩
      · rw [tokens, hstep, htokens]
        rfl
      · rw [hlength, List.take_succ_cons, tokens, hstep, htake]
        rfl
    · -- the character ends the token, and the end of what is taken does so in its place
      refine ⟨pending.token offset, tokens (offset + 1) gap cs, ?_, le_rfl, ?_⟩
      · rw [tokens, hstep]
        rfl
      · have hstop : (pending.token offset).stop = offset := rfl
        rw [hstop, Nat.sub_self, List.take_zero]
        rfl

/-- From a gap, a token that begins at once is read from the characters up to where it stops. -/
lemma tokens_gap_take {cs : List Char} {rest : List Token}
    (h : tokens offset gap cs = token :: rest) (hstart : token.start = offset) :
    tokens offset gap (cs.take (token.stop - offset)) = [token] := by
  have hinside := inside_of_mem_tokens_gap (h ▸ List.mem_cons_self)
  cases cs with
  | nil => cases h
  | cons c cs =>
    have hlength : token.stop - offset = token.stop - (offset + 1) + 1 := by
      have := hinside.start_lt_stop
      omega
    rcases step_gap offset c with ⟨hstep, hblank⟩ | ⟨pending, hstep, -, -⟩
    · -- a blank character would put the token further to the right
      rw [tokens_gap_cons_blank hblank] at h
      have := (inside_of_mem_tokens_gap (h ▸ List.mem_cons_self)).first_le_start
      omega
    · obtain ⟨first, others, htokens, -, htake⟩ := tokens_within_take (offset + 1) pending cs
      rw [tokens, hstep, htokens] at h
      obtain ⟨rfl, -⟩ := List.cons.inj h
      rw [hlength, List.take_succ_cons, tokens, hstep, htake]
      rfl

end Scan

/-- No two tokens of a line hold one place. -/
lemma index_eq_of_holds {line : List Char} {place i j : Nat} {first second : Token}
    (hi : (tokens 0 gap line)[i]? = some first) (hj : (tokens 0 gap line)[j]? = some second)
    (hfirst : first.start < place ∧ place ≤ first.stop)
    (hsecond : second.start < place ∧ place ≤ second.stop) : i = j := by
  obtain ⟨hi', rfl⟩ := List.getElem?_eq_some_iff.mp hi
  obtain ⟨hj', rfl⟩ := List.getElem?_eq_some_iff.mp hj
  have hapart := List.pairwise_iff_getElem.mp (pairwise_tokens 0 gap line)
  rcases lt_trichotomy i j with hlt | heq | hgt
  · have := hapart i j hi' hj' hlt
    omega
  · exact heq
  · have := hapart j i hj' hi' hgt
    omega

/-- The range of every token is a cut. -/
lemma exists_cut_of_mem {line : List Char} {token : Token} (h : token ∈ tokens 0 gap line) :
    ∃ left right, tokens 0 gap line = left ++ token :: right ∧
      Cut line left right token.start token.stop := by
  obtain ⟨-, hlt, hle⟩ := inside_of_mem_tokens_gap h
  rw [Nat.zero_add] at hle
  cases hrun : gap.run 0 (line.take token.stop) with
  | gap =>
    -- no token reaches a place where the scanner is in a gap
    obtain ⟨left, right, htokens, cut⟩ := cut_of_run_eq_gap hle hrun
    rw [htokens, List.mem_append] at h
    rcases h with hleft | hright
    · exact absurd (cut.stop_lt_of_mem_left hleft) (lt_irrefl _)
    · have := cut.stop_le_of_mem_right hright
      omega
  | within pending =>
    obtain ⟨left, other, right, htokens, cut, -, hstart, hstop⟩ := cut_of_run_eq_within hle hrun
    obtain ⟨index, hindex⟩ := List.mem_iff_getElem?.mp h
    have hother : (tokens 0 gap line)[left.length]? = some other := by
      rw [htokens, List.getElem?_append_right le_rfl, Nat.sub_self]
      rfl
    obtain rfl := index_eq_of_holds hindex hother ⟨hlt, le_rfl⟩ ⟨hstart, hstop⟩
    obtain rfl := Option.some.inj (hother.symm.trans hindex)
    exact ⟨left, right, htokens, cut⟩

/-- The characters that a token was read from are read as that token alone. -/
theorem tokenize_source {line : String} {token : Token} (h : token ∈ tokenize line) :
    tokenize (token.source line) =
      [⟨token.text, 0, token.stop - token.start, token.quoted⟩] := by
  obtain ⟨left, right, htokens, cut⟩ := exists_cut_of_mem h
  -- from its start on, the token is the first one
  have hfirst : tokens token.start gap (line.toList.drop token.start) = token :: right := by
    have htake := cut.tokens_take_append (line.toList.drop token.start)
    rw [List.take_append_drop] at htake
    exact List.append_cancel_left (htake.symm.trans htokens)
  have halone := tokens_gap_take hfirst rfl
  rw [List.take_drop, Nat.add_sub_cancel' cut.start_le_stop, tokens_eq_map_shift,
    List.map_eq_singleton_iff] at halone
  obtain ⟨⟨text, start, stop, quoted⟩, hsource, hshift⟩ := halone
  have htext : text = token.text := congrArg Token.text hshift
  have hquoted : quoted = token.quoted := congrArg Token.quoted hshift
  have hstart : start + token.start = token.start := congrArg Token.start hshift
  have hstop : stop + token.start = token.stop := congrArg Token.stop hshift
  obtain rfl : start = 0 := by omega
  obtain rfl : stop = token.stop - token.start := by omega
  rw [tokenize, Token.source, String.toList_ofList, hsource, htext, hquoted]

/-! ## Lines put together -/

namespace Scan

variable {offset : Nat} {scan : Scan}

/-- Outside of quoted parts a blank character does what the end of the line would do, and leaves a
gap behind. -/
lemma tokens_cons_blank (hclosed : scan.isOpen = false) {blank : Char}
    (hblank : Text.isBlank blank = true) (offset : Nat) (cs : List Char) :
    tokens offset scan (blank :: cs) =
      (scan.finish offset).toList ++ tokens (offset + 1) gap cs := by
  rcases scan with _ | ⟨text, start, quoted, _ | quote | quote⟩
  · rw [tokens_gap_cons_blank hblank]
    rfl
  · rw [tokens, step_bare_blank hblank]
    rfl
  · cases hclosed
  · cases hclosed

/-- What follows a blank character outside of quoted parts is read as if from a gap. -/
theorem tokens_append_blank {before : List Char}
    (hclosed : (scan.run offset before).isOpen = false) {blank : Char}
    (hblank : Text.isBlank blank = true) (after : List Char) :
    tokens offset scan (before ++ blank :: after) =
      tokens offset scan before ++ tokens (offset + before.length + 1) gap after := by
  rw [tokens_append, tokens_cons_blank hclosed hblank, tokens_eq_ended_append_finish before,
    List.append_assoc]

end Scan

/-- What follows a blank character outside of quotes is read afresh, behind the words in front of
it. -/
theorem Reader.words_append_blank {reader : Reader} {before : List Char}
    (hclosed : (reader.run before).quote = none)
    (hescaping : (reader.run before).escaping = false) {blank : Char}
    (hblank : Text.isBlank blank = true) (after : List Char) :
    ∃ words, reader.words before = some words ∧
      reader.words (before ++ blank :: after) = (fresh.words after).map (words ++ ·) := by
  induction before generalizing reader with
  | nil =>
    obtain ⟨word, quote, escaping⟩ := reader
    obtain rfl : quote = none := hclosed
    obtain rfl : escaping = false := hescaping
    refine ⟨_, rfl, ?_⟩
    rw [List.nil_append, words, step_blank word hblank]
    rfl
  | cons c cs ih =>
    obtain ⟨words, hbefore, hwhole⟩ := ih hclosed hescaping
    refine ⟨(reader.step c).2.toList ++ words, ?_, ?_⟩
    · rw [Reader.words, hbefore, Option.map_some]
    · rw [List.cons_append, Reader.words, hwhole, Option.map_map]
      congr 1
      funext rest
      exact (List.append_assoc _ words rest).symm

/-- Both readers are local.  The characters that a token was read from are that token by
themselves.  Where a line goes on behind a blank character that is met outside of quotes, its tokens
are those of the two parts, those of the second part further to the right; and its words are those
of the two parts, so that it can be read exactly if the second part can. -/
theorem tokenize_source_and_append_blank :
    (∀ (line : String), ∀ token ∈ tokenize line,
      tokenize (token.source line) =
        [⟨token.text, 0, token.stop - token.start, token.quoted⟩]) ∧
    ∀ (before after : String) (blank : Char), Text.isBlank blank = true →
      ((Scan.gap.run 0 before.toList).isOpen = false →
        tokenize (before.push blank ++ after) =
          tokenize before ++ (tokenize after).map (Token.shift (before.length + 1))) ∧
      ((Reader.fresh.run before.toList).quote = none →
        (Reader.fresh.run before.toList).escaping = false →
        ∃ words, words? before = some words ∧
          words? (before.push blank ++ after) = (words? after).map (words ++ ·)) := by
  refine ⟨fun line token htoken => tokenize_source htoken, ?_⟩
  intro before after blank hblank
  have hline : (before.push blank ++ after).toList = before.toList ++ blank :: after.toList := by
    rw [String.toList_append, String.toList_push, List.append_assoc, List.singleton_append]
  constructor
  · intro hclosed
    rw [tokenize, hline, tokens_append_blank hclosed hblank, Nat.zero_add, String.length_toList,
      tokens_eq_map_shift (before.length + 1)]
    rfl
  · intro hclosed hescaping
    rw [words?, words?, words?, hline]
    exact Reader.words_append_blank hclosed hescaping hblank after.toList

/-- The first part holds a quoted token without characters, a quote of the other kind, and a
backslash behind a backslash in front of the closing quote.  The second part leaves a quote open:
its tokens are there, but as it cannot be read strictly the whole line cannot. -/
theorem tokenize_source_and_append_blank_quoted :
    let before := "/a '' \"it's \\\\\""
    let after := "b\\ 'no"
    ⟨"it's \\", 6, 15, true⟩ ∈ tokenize before ∧
      tokenize "\"it's \\\\\"" = [⟨"it's \\", 0, 9, true⟩] ∧
      (Scan.gap.run 0 before.toList).isOpen = false ∧
      tokenize (before.push '\u3000' ++ after) =
        tokenize before ++ [⟨"b\\", 16, 18, false⟩, ⟨"no", 19, 22, true⟩] ∧
      (Reader.fresh.run before.toList).quote = none ∧
      (Reader.fresh.run before.toList).escaping = false ∧
      words? (before.push '\u3000' ++ after) = none := by
  intro before after
  obtain ⟨hsource, happend⟩ := tokenize_source_and_append_blank
  obtain ⟨htokens, hwords⟩ := happend before after '\u3000' (by decide)
  have hmem : ⟨"it's \\", 6, 15, true⟩ ∈ tokenize before := by decide +kernel
  have hfrom : Token.source before ⟨"it's \\", 6, 15, true⟩ = "\"it's \\\\\"" := by
    decide +kernel
  have halone := hsource before _ hmem
  rw [hfrom] at halone
  have hclosed : (Scan.gap.run 0 before.toList).isOpen = false := by decide +kernel
  have hquote : (Reader.fresh.run before.toList).quote = none := by decide +kernel
  have hescaping : (Reader.fresh.run before.toList).escaping = false := by decide +kernel
  have hafter : (tokenize after).map (Token.shift (before.length + 1)) =
      [⟨"b\\", 16, 18, false⟩, ⟨"no", 19, 22, true⟩] := by
    decide +kernel
  obtain ⟨words, -, hwhole⟩ := hwords hquote hescaping
  refine ⟨hmem, halone, hclosed, ?_, hquote, hescaping, ?_⟩
  · rw [htokens hclosed, hafter]
  · rw [hwhole, Option.map_eq_none_iff]
    decide +kernel

end SlashCommand.Line
