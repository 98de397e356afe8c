import SlashCommand.Proofs.Line.Loss

/-!
# The end of a strict reading

The strict reader is an automaton, and `run` is its state behind some characters.  Whether a line
is read at all depends on that state alone: it is not exactly if the state has an open quote
(`words_eq_none_iff`).

A word that has begun stays, whatever follows.  So a line that begins with an ordinary character
has a first word, which begins with that character (`exists_first_of_words?_eq_some`), and a line
without blank characters has no other (`words_of_not_isBlank`).
-/

namespace SlashCommand.Line

namespace Reader

variable {reader : Reader} {cs : List Char} {words : List String}

/-- The state behind some characters. -/
def run (reader : Reader) : List Char → Reader
  | [] => reader
  | c :: cs => run (reader.step c).1 cs

/-- Nothing is read exactly if the characters leave a quote open. -/
theorem words_eq_none_iff : reader.words cs = none ↔ (reader.run cs).quote ≠ none := by
  induction cs generalizing reader with
  | nil =>
    rw [Reader.words, run, finish]
    cases reader.quote <;> simp
  | cons c cs ih => rw [Reader.words, Option.map_eq_none_iff, ih, run]

/-- A character either keeps the word so far as the beginning of the next state's word, or is
blank and ends it. -/
lemma step_keeps_or_ends (c : Char) (reader : Reader) :
    ((reader.step c).2 = none ∧ reader.word <+: (reader.step c).1.word) ∨
      (Text.isBlank c = true ∧ (reader.step c).2 = reader.word?) := by
  rcases reader with ⟨word, quote, escaping⟩
  cases escaping with
  | true => exact .inl ⟨rfl, List.prefix_append word [c]⟩
  | false =>
    by_cases hbackslash : c = '\\'
    · subst hbackslash
      rw [step_backslash]
      exact .inl ⟨rfl, List.prefix_rfl⟩
    · cases quote with
      | some quote =>
        simp only [step, hbackslash, Bool.false_eq_true, if_false]
        split_ifs
        · exact .inl ⟨rfl, List.prefix_rfl⟩
        · exact .inl ⟨rfl, List.prefix_append word [c]⟩
      | none =>
        simp only [step, hbackslash, Bool.false_eq_true, if_false]
        split_ifs with hquote hblank
        · exact .inl ⟨rfl, List.prefix_rfl⟩
        · exact .inr ⟨hblank, rfl⟩
        · exact .inl ⟨rfl, List.prefix_append word [c]⟩

lemma word?_eq_some (hword : reader.word ≠ []) :
    reader.word? = some (String.ofList reader.word) := by
  rw [word?, if_neg (List.isEmpty_iff.not.mpr hword)]

/-- A word that has begun is what the first word begins with. -/
theorem exists_first_of_words_eq_some (hword : reader.word ≠ [])
    (h : reader.words cs = some words) :
    ∃ first rest, words = String.ofList first :: rest ∧ reader.word <+: first := by
  induction cs generalizing reader words with
  | nil =>
    obtain ⟨last, hlast, rfl⟩ := Option.map_eq_some_iff.mp h
    rw [finish] at hlast
    split at hlast
    · cases hlast
    · obtain rfl := Option.some.inj hlast
      by_cases hescaping : reader.escaping = true
      · have hpushed : (reader.push '\\').word ≠ [] := by simp [push]
        rw [if_pos hescaping, word?_eq_some hpushed]
        exact ⟨_, [], rfl, List.prefix_append reader.word ['\\']⟩
      · rw [if_neg hescaping, word?_eq_some hword]
        exact ⟨_, [], rfl, List.prefix_rfl⟩
  | cons c cs ih =>
    obtain ⟨rest, hrest, rfl⟩ := Option.map_eq_some_iff.mp h
    rcases step_keeps_or_ends c reader with ⟨hnone, hkeeps⟩ | ⟨-, hends⟩
    · have hnext : (reader.step c).1.word ≠ [] := fun hnil =>
        hword (List.prefix_nil.mp (hnil ▸ hkeeps))
      obtain ⟨first, others, hwords, hprefix⟩ := ih hnext hrest
      rw [hnone, hwords]
      exact ⟨first, others, rfl, hkeeps.trans hprefix⟩
    · rw [hends, word?_eq_some hword]
      exact ⟨reader.word, rest, rfl, List.prefix_rfl⟩

/-- Without blank characters there is no word but the one that the end of the line ends. -/
theorem words_of_not_isBlank (hblank : ∀ c ∈ cs, Text.isBlank c = false) :
    reader.words cs = (reader.run cs).finish.map Option.toList := by
  induction cs generalizing reader with
  | nil => rfl
  | cons c cs ih =>
    have hnone : (reader.step c).2 = none := by
      rcases step_keeps_or_ends c reader with ⟨hnone, -⟩ | ⟨hc, -⟩
      · exact hnone
      · rw [hblank c List.mem_cons_self] at hc
        cases hc
    rw [Reader.words, hnone, ih fun d hd => hblank d (List.mem_cons_of_mem c hd), run,
      Option.map_map]
    rfl

/-- Every character of a word is one that was read. -/
lemma mem_of_mem_word_step {c d : Char} (h : d ∈ (reader.step c).1.word) :
    d ∈ reader.word ∨ d = c := by
  rcases reader with ⟨word, quote, escaping⟩
  cases escaping with
  | true => simpa [step, push] using h
  | false =>
    by_cases hbackslash : c = '\\'
    · subst hbackslash
      rw [step_backslash] at h
      exact .inl h
    · cases quote with
      | some quote =>
        simp only [step, hbackslash, Bool.false_eq_true, if_false] at h
        split_ifs at h
        · exact .inl h
        · simpa [push] using h
      | none =>
        simp only [step, hbackslash, Bool.false_eq_true, if_false] at h
        split_ifs at h
        · exact .inl h
        · cases h
        · simpa [push] using h

lemma mem_of_mem_word_run {d : Char} (h : d ∈ (reader.run cs).word) : d ∈ reader.word ∨ d ∈ cs := by
  induction cs generalizing reader with
  | nil => exact .inl h
  | cons c cs ih =>
    rw [run] at h
    rcases ih h with hstep | hcs
    · rcases mem_of_mem_word_step hstep with hword | rfl
      · exact .inl hword
      · exact .inr List.mem_cons_self
    · exact .inr (List.mem_cons_of_mem c hcs)

lemma toList_of_mem_word? {word : String} (h : word ∈ reader.word?) :
    word.toList = reader.word := by
  rw [word?] at h
  split at h
  · cases h
  · rw [← Option.some.inj h, String.toList_ofList]

/-- The end of the line adds no blank character to the word. -/
lemma not_isBlank_of_finish_eq_some {last : Option String}
    (hword : ∀ c ∈ reader.word, Text.isBlank c = false) (h : reader.finish = some last) :
    ∀ word ∈ last, ∀ c ∈ word.toList, Text.isBlank c = false := by
  rw [finish] at h
  split at h
  · cases h
  · obtain rfl := Option.some.inj h
    intro word hlast c hc
    rw [toList_of_mem_word? hlast] at hc
    split at hc
    · rcases List.mem_append.mp hc with hc | hc
      · exact hword c hc
      · rw [List.mem_singleton.mp hc]
        rfl
    · exact hword c hc

end Reader

/-! ## Lines that begin with the slash -/

variable {line : String} {words : List String}

/-- The first word of a line that begins with the slash begins with the slash. -/
theorem exists_first_of_words?_eq_some {cs : List Char}
    (hline : Text.dropBlank line.toList = '/' :: cs) (h : words? line = some words) :
    ∃ (name : String) (rest : List String), words = ("/" ++ name) :: rest := by
  rw [words?, ← Reader.words_fresh_dropBlank, hline, Reader.words] at h
  have hstep : Reader.fresh.step '/' = (⟨['/'], none, false⟩, none) := rfl
  rw [hstep] at h
  obtain ⟨rest, hrest, rfl⟩ := Option.map_eq_some_iff.mp h
  obtain ⟨first, others, rfl, more, hfirst⟩ :=
    Reader.exists_first_of_words_eq_some (List.cons_ne_nil '/' []) hrest
  refine ⟨String.ofList more, others, ?_⟩
  rw [← hfirst, String.ofList_append]
  rfl

/-- A line without blank characters has one word at most, which has no blank characters either. -/
theorem exists_eq_toList_of_words?_eq_some (hblank : ∀ c ∈ line.toList, Text.isBlank c = false)
    (h : words? line = some words) :
    ∃ last : Option String, words = last.toList ∧
      ∀ word ∈ last, ∀ c ∈ word.toList, Text.isBlank c = false := by
  rw [words?, Reader.words_of_not_isBlank hblank] at h
  obtain ⟨last, hlast, rfl⟩ := Option.map_eq_some_iff.mp h
  refine ⟨last, rfl, Reader.not_isBlank_of_finish_eq_some (fun c hc => ?_) hlast⟩
  rcases Reader.mem_of_mem_word_run hc with hfresh | hline
  · cases hfresh
  · exact hblank c hline

end SlashCommand.Line
