import SlashCommand.Proofs.Completion.Request
import SlashCommand.Proofs.Grammar.Lookup
import SlashCommand.Submission

/-!
# The two readings of a line agree

A line is read twice in its life: with tolerance while it is typed (`tokenize`), strictly when it
is submitted (`words?`).  The two readers differ in one rule only, what a backslash outside
quotes means.  On a line that has no such backslash they agree: the strict reader refuses the
line exactly if the tolerant one ends in an open quote, and otherwise its words are the texts of
the tokens, less those without characters.

The proof is a simulation.  `Scan.reader` forgets of a scanner's state what the strict reader
does not keep, namely where the token began and whether it was quoted; a step commutes with it
(`step_reader`), so a whole reading does (`words_reader`).  The consequence for commands is
`parse_agrees_complete`: the name that a submitted line is looked up under is the one that
completion uses.
-/

namespace SlashCommand

open Grammar (Registry)

namespace Line

/-- Whether a quoted part is open. -/
def Quoting.isOpen : Quoting → Bool
  | bare => false
  | inside _ => true
  | escaped _ => true

namespace Scan

/-- Whether a quoted part is open. -/
def isOpen : Scan → Bool
  | gap => false
  | within pending => pending.quoting.isOpen

/-- Whether a backslash is read outside of quoted parts. -/
def readsBareBackslash (offset : Nat) (scan : Scan) : List Char → Bool
  | [] => false
  | c :: cs =>
    (!scan.isOpen && c == '\\') || readsBareBackslash (offset + 1) (scan.step offset c).1 cs

/-! ## The simulation -/

/-- What the strict reader keeps of a state. -/
def reader : Scan → Reader
  | gap => .fresh
  | within pending =>
    match pending.quoting with
    | .bare => ⟨pending.text, none, false⟩
    | .inside quote => ⟨pending.text, some quote, false⟩
    | .escaped quote => ⟨pending.text, some quote, true⟩

/-- The texts of some tokens that have characters. -/
def textsOf (tokens : List Token) : List String :=
  (tokens.map (·.text)).filter (· != "")

lemma textsOf_append (first second : List Token) :
    textsOf (first ++ second) = textsOf first ++ textsOf second := by
  rw [textsOf, List.map_append, List.filter_append, textsOf, textsOf]

lemma textsOf_token (pending : Pending) (stop : Nat) :
    textsOf [pending.token stop] = (Reader.word? ⟨pending.text, none, false⟩).toList := by
  rcases pending with ⟨_ | ⟨c, cs⟩, start, quoted, quoting⟩
  · rfl
  · have hne : (String.ofList (c :: cs) != "") = true := by
      rw [bne_iff_ne, ne_eq, ← String.toList_inj, String.toList_ofList]
      exact List.cons_ne_nil c cs
    simp only [textsOf, Pending.token, List.map_cons, List.map_nil, List.filter_cons, hne]
    rfl

variable {offset : Nat} {scan : Scan}

/-- One character moves both readers alike, unless it is a backslash outside quotes. -/
lemma step_reader (offset : Nat) {c : Char} (h : scan.isOpen = true ∨ c ≠ '\\') :
    (scan.reader.step c).1 = (scan.step offset c).1.reader ∧
      (scan.reader.step c).2.toList = textsOf (scan.step offset c).2.toList := by
  cases scan with
  | gap =>
    have hc : c ≠ '\\' := h.resolve_left Bool.false_ne_true
    simp only [reader, Reader.fresh, Reader.step, step, Bool.false_eq_true, if_false, hc]
    split_ifs <;> exact ⟨rfl, rfl⟩
  | within pending =>
    rcases pending with ⟨text, start, quoted, quoting⟩
    cases quoting with
    | bare =>
      have hc : c ≠ '\\' := h.resolve_left Bool.false_ne_true
      simp only [reader, Reader.step, step, Bool.false_eq_true, if_false, hc]
      -- of the three branches only the blank character ends a word, and the token with it
      split_ifs
      · exact ⟨rfl, rfl⟩
      · exact ⟨rfl, (textsOf_token ⟨text, start, quoted, .bare⟩ offset).symm⟩
      · exact ⟨rfl, rfl⟩
    | inside quote =>
      simp only [reader, Reader.step, step, Bool.false_eq_true, if_false]
      split_ifs <;> exact ⟨rfl, rfl⟩
    | escaped quote => exact ⟨rfl, rfl⟩

lemma finish_reader :
    scan.reader.finish.map Option.toList =
      if scan.isOpen = true then none else some (textsOf (scan.finish offset).toList) := by
  cases scan with
  | gap => rfl
  | within pending =>
    rcases pending with ⟨text, start, quoted, quoting⟩
    cases quoting with
    | bare => exact congrArg some (textsOf_token ⟨text, start, quoted, .bare⟩ offset).symm
    | inside quote => rfl
    | escaped quote => rfl

/-- The whole reading: refused in an open quote, and the texts of the tokens otherwise. -/
theorem words_reader {cs : List Char} (h : scan.readsBareBackslash offset cs = false) :
    scan.reader.words cs =
      if (scan.run offset cs).isOpen = true then none
      else some (textsOf (tokens offset scan cs)) := by
  induction cs generalizing offset scan with
  | nil => exact finish_reader
  | cons c cs ih =>
    rw [readsBareBackslash, Bool.or_eq_false_iff, Bool.and_eq_false_iff, Bool.not_eq_false',
      beq_eq_false_iff_ne] at h
    obtain ⟨hc, hcs⟩ := h
    obtain ⟨hstate, hword⟩ := step_reader offset hc
    rw [Reader.words, hstate, hword, ih hcs, run, tokens, textsOf_append]
    split_ifs <;> rfl

end Scan

/-- The strict reading of a line in terms of the tolerant one. -/
lemma words?_eq_ite {line : String} (h : Scan.gap.readsBareBackslash 0 line.toList = false) :
    words? line =
      if (Scan.gap.run 0 line.toList).isOpen = true then none
      else some (Scan.textsOf (tokenize line)) :=
  Scan.words_reader h

/-! ## The command -/

lemma Reader.words_fresh_dropBlank (cs : List Char) :
    fresh.words (Text.dropBlank cs) = fresh.words cs := by
  induction cs with
  | nil => rfl
  | cons c cs ih =>
    rw [Text.dropBlank, List.dropWhile_cons]
    split_ifs with hblank
    · have hstep : fresh.step c = (fresh, none) := by
        have hc : c ≠ '\\' := fun hc => absurd (hc ▸ hblank) (by decide)
        simp only [step, fresh, Scan.isQuote_eq_false_of_isBlank hblank, hblank, hc,
          Bool.false_eq_true, if_false, if_true]
        rfl
      rw [words, hstep, ← ih, Text.dropBlank]
      cases fresh.words (List.dropWhile Text.isBlank cs) <;> rfl
    · rfl

end Line

open Line

/-- A command is read off a line that begins with the slash, and its name is what the first word
holds behind it. -/
theorem TypedCommand.ofLine_eq_ok {line : String} {typed : TypedCommand}
    (h : ofLine line = .ok typed) :
    ∃ cs words, Text.dropBlank line.toList = '/' :: cs ∧
      Reader.fresh.words ('/' :: cs) = some words ∧
      typed.name = Text.strip (String.ofList ((words.headD "/").toList.drop 1)) ∧
      typed.name ≠ "" ∧ typed.arguments = words.drop 1 := by
  rw [ofLine] at h
  split at h
  · exact nomatch h
  · next c cs hline =>
    split_ifs at h with hslash
    rw [bne_iff_ne, not_not] at hslash
    subst hslash
    split at h
    · exact nomatch h
    · next words hwords =>
      simp only [ofWords] at h
      split_ifs at h with hname
      obtain rfl := Except.ok.inj h
      exact ⟨cs, words, hline, hwords, rfl, hname, rfl⟩

/-- The name of a command that is read off a line is what the first token holds behind the
slash. -/
lemma exists_first_of_ofLine_eq_ok {line : String}
    (h : Scan.gap.readsBareBackslash 0 line.toList = false) {typed : TypedCommand}
    (htyped : TypedCommand.ofLine line = .ok typed) :
    ∃ first rest name, tokenize line = first :: rest ∧ first.text.toList = '/' :: name ∧
      typed.name = Text.strip (String.ofList name) ∧ typed.name ≠ "" := by
  obtain ⟨cs, words, hline, hread, hname, hne, -⟩ := TypedCommand.ofLine_eq_ok htyped
  obtain ⟨first, rest, hfirst, name, htext⟩ := exists_tokenize_eq_cons hline
  refine ⟨first, rest, name, hfirst, htext, ?_, hne⟩
  have hsome : words? line = some words := by
    rw [words?, ← Reader.words_fresh_dropBlank, hline, hread]
  have hlist : words = Scan.textsOf (tokenize line) := by
    rw [words?_eq_ite h] at hsome
    split_ifs at hsome
    exact (Option.some.inj hsome).symm
  -- the first token has at least the slash, so the strict reader has it as a word as well
  have htexts : (first.text != "") = true := by
    rw [bne_iff_ne, ne_eq, ← String.toList_inj, htext]
    exact List.cons_ne_nil '/' name
  have hhead : words.headD "/" = first.text := by
    rw [hlist, hfirst, Scan.textsOf, List.map_cons, List.filter_cons, htexts]
    rfl
  rw [hname, hhead, htext, List.drop_one, List.tail_cons]

/-- On a line without a backslash outside quotes the two readings agree.  The strict one refuses
the line exactly if the tolerant one ends in an open quote; otherwise its words are the texts of
the tokens that have characters.  And where reading gets as far as looking a command up, in
whatever registry is in force, what it looks up is the first token without its slash, which is
what completion looks up for every cursor that does not stand in that token. -/
theorem parse_agrees_complete {line : String}
    (h : Scan.gap.readsBareBackslash 0 line.toList = false) :
    (words? line = none ↔ (Scan.gap.run 0 line.toList).isOpen = true) ∧
    ((Scan.gap.run 0 line.toList).isOpen = false →
      words? line = some (((tokenize line).map (·.text)).filter (· != ""))) ∧
    ∀ typed, TypedCommand.ofLine line = .ok typed →
      ∃ first rest, tokenize line = first :: rest ∧
        ∀ given : Option Registry,
          let registry := Registry.orBuiltin given
          let name := Completion.dropSlash first.text
          registry.get? typed.name = registry.get? name ∧
          Submission.parse line given = Submission.ofTyped line typed (registry.get? name) ∧
          ∀ cursor, (focus line cursor).active ≠ some 0 →
            Request.lookup? registry (focus line cursor) = some (name, registry.get? name) := by
  have hwords := words?_eq_ite h
  refine ⟨?_, ?_, ?_⟩
  · rw [hwords]
    split_ifs with hopen
    · exact ⟨fun _ => hopen, fun _ => rfl⟩
    · exact ⟨nofun, fun hnot => absurd hnot hopen⟩
  · intro hclosed
    rw [hwords, hclosed, if_neg Bool.false_ne_true, Scan.textsOf]
  · intro typed htyped
    obtain ⟨first, rest, name, hfirst, htext, hstrip, hne⟩ :=
      exists_first_of_ofLine_eq_ok h htyped
    refine ⟨first, rest, hfirst, fun given => ?_⟩
    have hdrop : Completion.dropSlash first.text = String.ofList name :=
      Completion.dropSlash_of_toList_eq_cons htext
    have hlookup : (Registry.orBuiltin given).get? typed.name =
        (Registry.orBuiltin given).get? (Completion.dropSlash first.text) := by
      rw [hdrop, hstrip, Registry.get?_strip]
    refine ⟨hlookup, ?_, fun cursor hactive => ?_⟩
    · rw [← hlookup, Submission.parse, htyped]
      rfl
    · have hslash : first.text ≠ "/" := by
        intro heq
        rw [heq] at htext
        obtain rfl : name = [] := (List.cons.inj htext).2.symm
        exact hne hstrip
      have hfocus : (focus line cursor).tokens = first :: rest := by rw [tokens_focus, hfirst]
      rw [Request.lookup?_eq_of_tokens_eq_cons hfocus, if_neg (not_or.mpr ⟨hactive, hslash⟩)]

/-- A quote of the other kind, a quote behind a backslash, a word without characters and a quoted
part inside a word. -/
theorem parse_agrees_complete_quoted :
    Scan.gap.readsBareBackslash 0 "/say \"it's \\\" so\" '' 'a b'c".toList = false ∧
    (Scan.gap.run 0 "/say \"it's \\\" so\" '' 'a b'c".toList).isOpen = false ∧
    words? "/say \"it's \\\" so\" '' 'a b'c" = some ["/say", "it's \" so", "a bc"] ∧
    TypedCommand.ofLine "/say \"it's \\\" so\" '' 'a b'c" = .ok ⟨"say", ["it's \" so", "a bc"]⟩ ∧
    ∃ first rest, tokenize "/say \"it's \\\" so\" '' 'a b'c" = first :: rest ∧
      Submission.parse "/say \"it's \\\" so\" '' 'a b'c" none =
        Submission.ofTyped "/say \"it's \\\" so\" '' 'a b'c" ⟨"say", ["it's \" so", "a bc"]⟩
          (Registry.builtin.get? (Completion.dropSlash first.text)) := by
  have hbare : Scan.gap.readsBareBackslash 0 "/say \"it's \\\" so\" '' 'a b'c".toList = false := by
    decide +kernel
  have hclosed : (Scan.gap.run 0 "/say \"it's \\\" so\" '' 'a b'c".toList).isOpen = false := by
    decide +kernel
  have htyped : TypedCommand.ofLine "/say \"it's \\\" so\" '' 'a b'c" =
      .ok ⟨"say", ["it's \" so", "a bc"]⟩ := by
    decide +kernel
  obtain ⟨-, hwords, hlookup⟩ := parse_agrees_complete hbare
  obtain ⟨first, rest, hfirst, hboth⟩ := hlookup _ htyped
  refine ⟨hbare, hclosed, ?_, htyped, first, rest, hfirst, (hboth none).2.1⟩
  rw [hwords hclosed]
  decide +kernel

end SlashCommand
