import SlashCommand.Editor
import SlashCommand.Proofs.Line.Loss
import SlashCommand.Proofs.Line.Spelling

/-!
# Protected words

A word with blank characters is put in quotes before it goes into a line, so that it stays one
word there.  The two readers do not agree on what a backslash is outside quotes, but they do in
quotes, and that is where the word is: `protect` is undone by both.

Two facts about the characters that are written carry this, each of them independent of where the
word is written.  They spell the word (`spells_protect`), so the tolerant reader has it back as a
token.  And they are `Balanced`: they close what quotes they open and have no backslash outside
quotes, so that the strict reader agrees (`balanced_protect`).  A line that is put together from
such words is read back as those words.

Words without blank characters are written as they are.  Of these the strict reader gives back
those that nothing is lost of, which says exactly for which words protection works.
-/

namespace SlashCommand

open Line

namespace Line

/-! ## Balanced characters -/

/-- Whether characters that are read outside quotes lead back there, and have no backslash that is
read outside quotes. -/
def Balanced (cs : List Char) : Prop :=
  ∀ (offset : Nat) (scan : Scan), scan.isOpen = false →
    scan.readsBareBackslash offset cs = false ∧ (scan.run offset cs).isOpen = false

namespace Scan

lemma readsBareBackslash_append (offset : Nat) (scan : Scan) (before after : List Char) :
    scan.readsBareBackslash offset (before ++ after) =
      (scan.readsBareBackslash offset before ||
        (scan.run offset before).readsBareBackslash (offset + before.length) after) := by
  induction before generalizing offset scan with
  | nil => simp [readsBareBackslash, run]
  | cons c cs ih =>
    rw [List.cons_append, readsBareBackslash, ih, readsBareBackslash, run, List.length_cons,
      Bool.or_assoc, Nat.add_right_comm, Nat.add_assoc]

end Scan

lemma Balanced.append {first second : List Char} (hfirst : Balanced first)
    (hsecond : Balanced second) : Balanced (first ++ second) := by
  intro offset scan hclosed
  obtain ⟨hbare, hopen⟩ := hfirst offset scan hclosed
  obtain ⟨hbare', hopen'⟩ := hsecond (offset + first.length) _ hopen
  rw [Scan.readsBareBackslash_append, Scan.run_append, hbare, hbare']
  exact ⟨rfl, hopen'⟩

lemma balanced_of_ordinary {cs : List Char} (hquote : ∀ c ∈ cs, isQuote c = false)
    (hbackslash : ∀ c ∈ cs, c ≠ '\\') : Balanced cs := by
  induction cs with
  | nil => exact fun offset scan hclosed => ⟨rfl, hclosed⟩
  | cons c cs ih =>
    intro offset scan hclosed
    have hstep := Scan.isOpen_step_eq_false offset hclosed (hquote c List.mem_cons_self)
    obtain ⟨hbare, hopen⟩ := ih (fun d hd => hquote d (List.mem_cons_of_mem c hd))
      (fun d hd => hbackslash d (List.mem_cons_of_mem c hd)) (offset + 1) _ hstep
    refine ⟨?_, hopen⟩
    rw [Scan.readsBareBackslash, hbare]
    simp [hbackslash c List.mem_cons_self]

lemma balanced_of_blank {cs : List Char} (h : ∀ c ∈ cs, Text.isBlank c = true) : Balanced cs := by
  refine balanced_of_ordinary (fun c hc => Scan.isQuote_eq_false_of_isBlank (h c hc)) ?_
  rintro c hc rfl
  exact absurd (h _ hc) (by decide)

/-- The strict reading of balanced characters: the tokens that have characters. -/
lemma Balanced.words?_eq {cs : List Char} (h : Balanced cs) :
    words? (String.ofList cs) = some (Scan.textsOf (Scan.tokens 0 .gap cs)) := by
  obtain ⟨hbare, hopen⟩ := h 0 .gap rfl
  rw [words?_eq_ite (by rwa [String.toList_ofList]), String.toList_ofList, hopen,
    if_neg Bool.false_ne_true, tokenize, String.toList_ofList]

end Line

namespace Editor

open Scan

/-! ## Quoted words -/

/-- In double quotes, a character that is written as `escapeQuoted` says is read as itself. -/
lemma run_escapeQuoted (offset : Nat) (text : List Char) (start : Nat) (quoted : Bool) (c : Char) :
    let inside := within ⟨text, start, quoted, .inside '"'⟩
    inside.run offset (escapeQuoted c) = within ⟨text ++ [c], start, quoted, .inside '"'⟩ ∧
      inside.ended offset (escapeQuoted c) = [] ∧
      inside.readsBareBackslash offset (escapeQuoted c) = false := by
  rw [escapeQuoted]
  split_ifs with hspecial
  · -- behind the backslash every character is taken as it is
    exact ⟨rfl, rfl, rfl⟩
  · simp only [Bool.or_eq_true, decide_eq_true_eq, not_or] at hspecial
    obtain ⟨hbackslash, hquote⟩ := hspecial
    simp [run, ended, readsBareBackslash, step, hbackslash, hquote, isOpen, Quoting.isOpen,
      Pending.push]

lemma run_flatMap_escapeQuoted (offset : Nat) (text : List Char) (start : Nat) (quoted : Bool)
    (cs : List Char) :
    let inside := within ⟨text, start, quoted, .inside '"'⟩
    inside.run offset (cs.flatMap escapeQuoted) =
        within ⟨text ++ cs, start, quoted, .inside '"'⟩ ∧
      inside.ended offset (cs.flatMap escapeQuoted) = [] ∧
      inside.readsBareBackslash offset (cs.flatMap escapeQuoted) = false := by
  induction cs generalizing offset text with
  | nil => exact ⟨by rw [List.append_nil]; rfl, rfl, rfl⟩
  | cons c cs ih =>
    obtain ⟨hrun, hended, hbare⟩ := run_escapeQuoted offset text start quoted c
    obtain ⟨hrun', hended', hbare'⟩ := ih (offset + (escapeQuoted c).length) (text ++ [c])
    refine ⟨?_, ?_, ?_⟩
    · rw [List.flatMap_cons, run_append, hrun, hrun', List.append_assoc, List.singleton_append]
    · rw [List.flatMap_cons, ended_append, hrun, hended, hended', List.append_nil]
    · rw [List.flatMap_cons, readsBareBackslash_append, hrun, hbare, hbare', Bool.or_false]

/-- A text as it is written in double quotes. -/
def inQuotes (cs : List Char) : List Char :=
  '"' :: cs.flatMap escapeQuoted ++ ['"']

/-- Outside quotes, a text in double quotes goes into a token as it is. -/
lemma run_inQuotes {offset : Nat} {scan : Scan} {text : List Char} {start : Nat}
    (hopen : scan.step offset '"' = (within ⟨text, start, true, .inside '"'⟩, none))
    (cs : List Char) :
    scan.run offset (inQuotes cs) = within ⟨text ++ cs, start, true, .bare⟩ ∧
      scan.ended offset (inQuotes cs) = [] ∧
      scan.readsBareBackslash offset (inQuotes cs) = false := by
  obtain ⟨hrun, hended, hbare⟩ := run_flatMap_escapeQuoted (offset + 1) text start true cs
  refine ⟨?_, ?_, ?_⟩
  · rw [inQuotes, List.cons_append, run, hopen, run_append, hrun]
    rfl
  · rw [inQuotes, List.cons_append, ended, hopen, ended_append, hended, hrun]
    rfl
  · rw [inQuotes, List.cons_append, readsBareBackslash, hopen, readsBareBackslash_append, hbare,
      hrun]
    simp [readsBareBackslash]

lemma spells_inQuotes (cs : List Char) : Spells (inQuotes cs) cs true := by
  have hopen (offset : Nat) :
      gap.step offset '"' = (within ⟨[], offset, true, .inside '"'⟩, none) := rfl
  exact ⟨fun offset => (run_inQuotes (hopen offset) cs).2.1,
    fun offset => (run_inQuotes (hopen offset) cs).1⟩

lemma balanced_inQuotes (cs : List Char) : Balanced (inQuotes cs) := by
  intro offset scan hclosed
  obtain ⟨text, start, hopen⟩ : ∃ text start,
      scan.step offset '"' = (within ⟨text, start, true, .inside '"'⟩, none) := by
    rcases scan with _ | ⟨text, start, quoted, _ | quote | quote⟩
    · exact ⟨_, _, rfl⟩
    · exact ⟨_, _, rfl⟩
    · exact nomatch hclosed
    · exact nomatch hclosed
  obtain ⟨hrun, -, hbare⟩ := run_inQuotes hopen cs
  rw [hrun]
  exact ⟨hbare, rfl⟩

/-! ## Protected words -/

variable {word : String}

lemma toList_protect_of_hasBlank (h : Text.hasBlank word = true) :
    (protect word).toList = inQuotes word.toList := by
  rw [protect, if_pos h, String.toList_ofList, inQuotes]

lemma protect_of_not_hasBlank (h : Text.hasBlank word = false) : protect word = word := by
  rw [protect, if_neg (Bool.eq_false_iff.mp h)]

/-- A protected word is read back as one token, if it has blank characters, or if it has
characters at all and none of them is a quote. -/
theorem spells_protect
    (h : Text.hasBlank word = true ∨ word ≠ "" ∧ ∀ c ∈ word.toList, isQuote c = false) :
    Spells (protect word).toList word.toList (Text.hasBlank word) := by
  cases hblank : Text.hasBlank word with
  | true =>
    rw [toList_protect_of_hasBlank hblank]
    exact spells_inQuotes word.toList
  | false =>
    rw [hblank] at h
    obtain ⟨hne, hquote⟩ := h.resolve_left Bool.false_ne_true
    rw [protect_of_not_hasBlank hblank]
    refine spells_self ?_ (Text.not_isBlank_of_not_hasBlank hblank) hquote
    rwa [ne_eq, String.toList_eq_nil_iff]

lemma balanced_protect (h : Text.hasBlank word = true ∨
    ∀ c ∈ word.toList, isQuote c = false ∧ c ≠ '\\') : Balanced (protect word).toList := by
  cases hblank : Text.hasBlank word with
  | true =>
    rw [toList_protect_of_hasBlank hblank]
    exact balanced_inQuotes word.toList
  | false =>
    rw [hblank] at h
    have hordinary := h.resolve_left Bool.false_ne_true
    rw [protect_of_not_hasBlank hblank]
    exact balanced_of_ordinary (fun c hc => (hordinary c hc).1) fun c hc => (hordinary c hc).2

/-! ## Lines of protected words -/

/-- Whether a line consists of protected words with runs of blank characters around them, of
which those between two words are not empty. -/
inductive Joined : (words : List String) → (line : List Char) → Prop
  | nil {blanks : List Char} (hblanks : ∀ c ∈ blanks, Text.isBlank c = true) : Joined [] blanks
  | cons {before separator line : List Char} {word : String} {words : List String}
      (hbefore : ∀ c ∈ before, Text.isBlank c = true)
      (hseparator : ∀ c ∈ separator, Text.isBlank c = true)
      (hne : words ≠ [] → separator ≠ []) (hline : Joined words line) :
      Joined (word :: words) (before ++ (protect word).toList ++ separator ++ line)

namespace Joined

variable {words : List String} {line : List Char}

/-- Behind a word there is nothing, or a blank character. -/
lemma isBlank_of_mem_head? {separator : List Char}
    (hseparator : ∀ c ∈ separator, Text.isBlank c = true) (hne : words ≠ [] → separator ≠ [])
    (hline : Joined words line) : ∀ c ∈ (separator ++ line).head?, Text.isBlank c = true := by
  cases separator with
  | cons c separator =>
    intro d hd
    obtain rfl := Option.some.inj hd
    exact hseparator c List.mem_cons_self
  | nil =>
    cases hline with
    | nil hblanks => exact fun c hc => hblanks c (List.mem_of_mem_head? hc)
    | cons => exact absurd rfl (hne (List.cons_ne_nil _ _))

/-- The tokens of a line of protected words are those words. -/
lemma map_text_tokens (h : Joined words line)
    (hwords : ∀ word ∈ words,
      Text.hasBlank word = true ∨ word ≠ "" ∧ ∀ c ∈ word.toList, isQuote c = false)
    (offset : Nat) : (tokens offset gap line).map (·.text) = words := by
  induction h generalizing offset with
  | @nil blanks hblanks =>
    rw [← List.append_nil blanks, tokens_gap_blank_append hblanks]
    rfl
  | @cons before separator line word words hbefore hseparator hne hline ih =>
    have hspells := spells_protect (hwords word List.mem_cons_self)
    have hbehind := isBlank_of_mem_head? hseparator hne hline
    rw [List.append_assoc, List.append_assoc, tokens_gap_blank_append hbefore,
      hspells.tokens_append hbehind, tokens_gap_blank_append hseparator, List.map_cons,
      ih (fun other hother => hwords other (List.mem_cons_of_mem word hother)),
      String.ofList_toList]

lemma balanced (h : Joined words line)
    (hwords : ∀ word ∈ words,
      Text.hasBlank word = true ∨ ∀ c ∈ word.toList, isQuote c = false ∧ c ≠ '\\') :
    Balanced line := by
  induction h with
  | nil hblanks => exact balanced_of_blank hblanks
  | @cons before separator line word words hbefore hseparator hne hline ih =>
    have hword := balanced_protect (hwords word List.mem_cons_self)
    have hrest := ih fun other hother => hwords other (List.mem_cons_of_mem word hother)
    exact (((balanced_of_blank hbefore).append hword).append
      (balanced_of_blank hseparator)).append hrest

end Joined

/-- Whether both readers take a line for some words. -/
structure ReadsAs (line : String) (words : List String) : Prop where
  words?_eq : words? line = some words
  map_text_tokenize : (tokenize line).map (·.text) = words

/-- A line of protected words is read back as those words. -/
lemma Joined.readsAs {words : List String} {line : List Char} (h : Joined words line)
    (hwords : ∀ word ∈ words, Text.hasBlank word = true ∨
      word ≠ "" ∧ ∀ c ∈ word.toList, isQuote c = false ∧ c ≠ '\\') :
    ReadsAs (String.ofList line) words := by
  have htexts := h.map_text_tokens (fun word hword =>
    (hwords word hword).imp_right fun ⟨hne, hchars⟩ => ⟨hne, fun c hc => (hchars c hc).1⟩) 0
  have hbalanced := h.balanced fun word hword => (hwords word hword).imp_right And.right
  constructor
  · -- the strict reader leaves empty words out, and there are none
    rw [hbalanced.words?_eq, textsOf, htexts, List.filter_eq_self.mpr]
    intro word hword
    rw [bne_iff_ne]
    rintro rfl
    rcases hwords "" hword with hblank | ⟨hne, -⟩
    · exact absurd hblank (by decide)
    · exact hne rfl
  · rw [tokenize, String.toList_ofList, htexts]

/-- Protection is undone by both readers.  Words that have blank characters, or that have
characters and among them no quote and no backslash, are read back from every line that they are
joined to, with any blank characters between them and around them.  By itself, a protected word is
read back by the strict reader exactly if it has blank characters, or if it has characters, none of
them a quote, and no backslash but at its end. -/
theorem readsAs_joined_and_words?_protect_iff :
    (∀ (words : List String) (line : List Char), Joined words line →
      (∀ word ∈ words, Text.hasBlank word = true ∨
        word ≠ "" ∧ ∀ c ∈ word.toList, isQuote c = false ∧ c ≠ '\\') →
      ReadsAs (String.ofList line) words) ∧
    ∀ word : String, words? (protect word) = some [word] ↔
      Text.hasBlank word = true ∨
        word ≠ "" ∧ (∀ c ∈ word.toList, isQuote c = false) ∧
          ∀ c ∈ word.toList.dropLast, c ≠ '\\' := by
  refine ⟨fun words line h hwords => h.readsAs hwords, fun word => ?_⟩
  cases hblank : Text.hasBlank word with
  | true =>
    have hjoined : Joined [word] ([] ++ (protect word).toList ++ [] ++ []) :=
      .cons nofun nofun (fun h => absurd rfl h) (.nil nofun)
    have hreads := hjoined.readsAs (by simp [hblank])
    rw [List.nil_append, List.append_nil, List.append_nil, String.ofList_toList] at hreads
    exact ⟨fun _ => .inl rfl, fun _ => hreads.words?_eq⟩
  | false =>
    rw [protect_of_not_hasBlank hblank, words?_eq_singleton_iff hblank,
      or_iff_right Bool.false_ne_true]

/-- Quotes of both kinds and a backslash in front of the closing quote, between blank characters
of several sorts; and a backslash at the end of a word without quotes. -/
theorem readsAs_joined_quoted :
    Joined ["say \"it's\" \\", "x-1"] " \"say \\\"it's\\\" \\\\\"\t x-1\u3000".toList ∧
      (∀ word ∈ ["say \"it's\" \\", "x-1"], Text.hasBlank word = true ∨
        word ≠ "" ∧ ∀ c ∈ word.toList, isQuote c = false ∧ c ≠ '\\') ∧
      ReadsAs " \"say \\\"it's\\\" \\\\\"\t x-1\u3000" ["say \"it's\" \\", "x-1"] ∧
      words? (protect "C:\\") = some ["C:\\"] := by
  have hline : " \"say \\\"it's\\\" \\\\\"\t x-1\u3000".toList =
      [' '] ++ (protect "say \"it's\" \\").toList ++ ['\t', ' '] ++
        ([] ++ (protect "x-1").toList ++ ['\u3000'] ++ []) := by
    decide +kernel
  have hjoined : Joined ["say \"it's\" \\", "x-1"]
      " \"say \\\"it's\\\" \\\\\"\t x-1\u3000".toList := by
    rw [hline]
    exact .cons (List.all_eq_true.mp rfl) (List.all_eq_true.mp rfl) (by simp)
      (.cons nofun (List.all_eq_true.mp rfl) (fun h => absurd rfl h) (.nil nofun))
  have hplain (c : Char) (hc : c ∈ "x-1".toList) : isQuote c = false ∧ c ≠ '\\' := by
    have hall : ("x-1".toList.all fun c => !isQuote c && c != '\\') = true := rfl
    simpa using List.all_eq_true.mp hall c hc
  have hwords : ∀ word ∈ ["say \"it's\" \\", "x-1"], Text.hasBlank word = true ∨
      word ≠ "" ∧ ∀ c ∈ word.toList, isQuote c = false ∧ c ≠ '\\' := by
    rw [List.forall_mem_cons, List.forall_mem_singleton]
    exact ⟨.inl rfl, .inr ⟨by decide, hplain⟩⟩
  have hdrive (c : Char) (hc : c ∈ "C:\\".toList) : isQuote c = false := by
    have hall : ("C:\\".toList.all fun c => !isQuote c) = true := rfl
    simpa using List.all_eq_true.mp hall c hc
  have hlast (c : Char) (hc : c ∈ "C:\\".toList.dropLast) : c ≠ '\\' := by
    have hall : ("C:\\".toList.dropLast.all fun c => c != '\\') = true := rfl
    simpa using List.all_eq_true.mp hall c hc
  obtain ⟨hreads, hiff⟩ := readsAs_joined_and_words?_protect_iff
  refine ⟨hjoined, hwords, ?_, (hiff "C:\\").mpr (.inr ⟨by decide, hdrive, hlast⟩)⟩
  have h := hreads _ _ hjoined hwords
  rwa [String.ofList_toList] at h

end Editor

end SlashCommand
