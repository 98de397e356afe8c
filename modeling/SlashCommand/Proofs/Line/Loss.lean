import Mathlib.Data.List.Count
import SlashCommand.Proofs.Line.Agreement

/-!
# What reading takes away

A reader gives out characters of the line and never makes one up.  Blank characters may come or
go with the quotes around them, so it is the other characters that are counted (`Text.solid`): a
step adds at most the one character that it reads to what has been given out and what is still
held.

Each quote that opens or closes a part is lost, and so is each backslash that takes the next
character as it is.  So nothing is lost exactly where none of these is read, and that decides
which lines come back as the one word that they are (`words?_eq_singleton_iff`, and for words with
blank characters `Scan.map_text_tokens_ne_singleton`).
-/

namespace SlashCommand

namespace Text

lemma not_isBlank_of_not_hasBlank {s : String} (h : hasBlank s = false) :
    ∀ c ∈ s.toList, isBlank c = false := by
  simpa [hasBlank] using h

/-- The number of characters that are not blank. -/
def solid (cs : List Char) : Nat :=
  cs.countP fun c => !isBlank c

@[simp] lemma solid_nil : solid [] = 0 := rfl

@[simp] lemma solid_append (first second : List Char) :
    solid (first ++ second) = solid first + solid second :=
  List.countP_append

lemma solid_cons (c : Char) (cs : List Char) : solid (c :: cs) = solid [c] + solid cs :=
  solid_append [c] cs

lemma solid_singleton_le (c : Char) : solid [c] ≤ 1 :=
  List.countP_le_length

lemma solid_singleton_of_isBlank {c : Char} (h : isBlank c = true) : solid [c] = 0 := by
  simp [solid, h]

lemma solid_singleton_of_not_isBlank {c : Char} (h : isBlank c = false) : solid [c] = 1 := by
  simp [solid, h]

end Text

namespace Line

open Text (solid solid_cons)

lemma solid_singleton_of_isQuote {c : Char} (h : isQuote c = true) : solid [c] = 1 := by
  apply Text.solid_singleton_of_not_isBlank
  by_contra hblank
  rw [Bool.not_eq_false] at hblank
  rw [Scan.isQuote_eq_false_of_isBlank hblank] at h
  exact Bool.false_ne_true h

/-! ## The strict reader -/

namespace Reader

/-! Outside quotes a character does one of four things. -/

section

variable {c : Char} (word : List Char)

lemma step_backslash (quote : Option Char) :
    step '\\' ⟨word, quote, false⟩ = (⟨word, quote, true⟩, none) := by
  simp [step]

lemma step_quote (h : isQuote c = true) :
    step c ⟨word, none, false⟩ = (⟨word, some c, false⟩, none) := by
  have hbackslash : c ≠ '\\' := fun hc => absurd (hc ▸ h) (by decide)
  simp [step, hbackslash, h]

lemma step_blank (h : Text.isBlank c = true) :
    step c ⟨word, none, false⟩ = (fresh, word? ⟨word, none, false⟩) := by
  have hbackslash : c ≠ '\\' := fun hc => absurd (hc ▸ h) (by decide)
  simp [step, hbackslash, Scan.isQuote_eq_false_of_isBlank h, h, fresh]

lemma step_ordinary (hbackslash : c ≠ '\\') (hquote : isQuote c = false)
    (hblank : Text.isBlank c = false) :
    step c ⟨word, none, false⟩ = (⟨word ++ [c], none, false⟩, none) := by
  simp [step, hbackslash, hquote, hblank, push]

end

variable {reader : Reader}

/-- What a state may still give out of what has been read.  A backslash that waits for the next
character is counted, as it stands for itself at the end of a line. -/
def held (reader : Reader) : Nat :=
  solid reader.word + if reader.escaping then 1 else 0

@[simp] lemma held_mk (word : List Char) (quote : Option Char) (escaping : Bool) :
    held ⟨word, quote, escaping⟩ = solid word + if escaping then 1 else 0 :=
  rfl

@[simp] lemma solid_word? (reader : Reader) :
    solid (reader.word?.toList.flatMap String.toList) = solid reader.word := by
  rw [word?]
  split_ifs with hempty
  · rw [List.isEmpty_iff.mp hempty]
    rfl
  · simp

lemma held_step_le (c : Char) (reader : Reader) :
    (reader.step c).1.held + solid ((reader.step c).2.toList.flatMap String.toList) ≤
      reader.held + solid [c] := by
  rcases reader with ⟨word, quote, escaping⟩
  cases escaping with
  | true =>
    -- the backslash that was held gives way to the character
    simp [step, push]
  | false =>
    by_cases hbackslash : c = '\\'
    · subst hbackslash
      rw [step_backslash]
      exact le_rfl
    · cases quote with
      | some quote =>
        simp only [step, hbackslash, Bool.false_eq_true, if_false]
        split_ifs
        · simp
        · simp [push]
      | none =>
        simp only [step, hbackslash, Bool.false_eq_true, if_false]
        split_ifs
        · simp
        · simp
        · simp [push]

/-- The words of a line have no more characters than the line. -/
theorem solid_words_le {cs : List Char} {words : List String}
    (h : reader.words cs = some words) :
    solid (words.flatMap String.toList) ≤ reader.held + solid cs := by
  induction cs generalizing reader words with
  | nil =>
    obtain ⟨last, hlast, rfl⟩ := Option.map_eq_some_iff.mp h
    rw [finish] at hlast
    split at hlast
    · exact nomatch hlast
    · obtain rfl := Option.some.inj hlast
      rw [solid_word?]
      rcases reader with ⟨word, quote, _ | _⟩
      · simp
      · simpa [push] using Text.solid_singleton_le '\\'
  | cons c cs ih =>
    obtain ⟨rest, hrest, rfl⟩ := Option.map_eq_some_iff.mp h
    have hstep := held_step_le c reader
    have hwords := ih hrest
    rw [solid_cons, List.flatMap_append, Text.solid_append]
    omega

/-- Only quotes and backslashes that take the next character as it is are lost.  So where all
characters of a line come back, it has no quotes, and no backslash but at its end. -/
theorem ordinary_of_solid_le {word cs : List Char} {words : List String}
    (h : Reader.words ⟨word, none, false⟩ cs = some words)
    (hle : solid word + solid cs ≤ solid (words.flatMap String.toList)) :
    (∀ c ∈ cs, isQuote c = false) ∧ ∀ c ∈ cs.dropLast, c ≠ '\\' := by
  induction cs generalizing word words with
  | nil => exact ⟨List.forall_mem_nil _, List.forall_mem_nil _⟩
  | cons c cs ih =>
    obtain ⟨rest, hrest, rfl⟩ := Option.map_eq_some_iff.mp h
    rw [solid_cons, List.flatMap_append, Text.solid_append] at hle
    by_cases hbackslash : c = '\\'
    · subst hbackslash
      cases cs with
      | nil => exact ⟨by simp [isQuote], List.forall_mem_nil _⟩
      | cons d cs =>
        -- the backslash takes the next character and is lost
        obtain ⟨rest', hrest', rfl⟩ := Option.map_eq_some_iff.mp hrest
        have hone : solid ['\\'] = 1 := rfl
        have hwords := solid_words_le hrest'
        rw [solid_cons d] at hle
        simp [step, push] at hwords hle
        omega
    · by_cases hquote : isQuote c = true
      · -- the quote is lost
        have hone := solid_singleton_of_isQuote hquote
        rw [step_quote word hquote] at hrest hle
        have hwords := solid_words_le hrest
        simp at hwords hle
        omega
      · rw [Bool.not_eq_true] at hquote
        -- what is read behind the character still has to come back as a whole
        have hbehind : ∃ word', Reader.words ⟨word', none, false⟩ cs = some rest ∧
            solid word' + solid cs ≤ solid (rest.flatMap String.toList) := by
          by_cases hblank : Text.isBlank c = true
          · rw [step_blank word hblank] at hrest hle
            have hzero := Text.solid_singleton_of_isBlank hblank
            refine ⟨[], hrest, ?_⟩
            simp at hle ⊢
            omega
          · rw [Bool.not_eq_true] at hblank
            rw [step_ordinary word hbackslash hquote hblank] at hrest hle
            refine ⟨word ++ [c], hrest, ?_⟩
            simp at hle ⊢
            omega
        obtain ⟨word', hwords, hle'⟩ := hbehind
        obtain ⟨hquotes, hbackslashes⟩ := ih hwords hle'
        refine ⟨List.forall_mem_cons.mpr ⟨hquote, hquotes⟩, ?_⟩
        cases cs with
        | nil => exact List.forall_mem_nil _
        | cons d cs =>
          rw [List.dropLast_cons_cons]
          exact List.forall_mem_cons.mpr ⟨hbackslash, hbackslashes⟩

/-- Ordinary characters all come back, and so does a backslash that nothing follows. -/
lemma words_ordinary {cs : List Char} (hblank : ∀ c ∈ cs, Text.isBlank c = false)
    (hquote : ∀ c ∈ cs, isQuote c = false) (hbackslash : ∀ c ∈ cs.dropLast, c ≠ '\\')
    (word : List Char) :
    Reader.words ⟨word, none, false⟩ cs = some (word? ⟨word ++ cs, none, false⟩).toList := by
  induction cs generalizing word with
  | nil =>
    rw [List.append_nil]
    rfl
  | cons c cs ih =>
    by_cases hlast : c = '\\'
    · cases cs with
      | nil =>
        rw [hlast]
        rfl
      | cons d cs => exact absurd hlast (hbackslash c List.mem_cons_self)
    · have hbehind : ∀ d ∈ cs.dropLast, d ≠ '\\' := by
        cases cs with
        | nil => exact nofun
        | cons d cs => exact fun e he => hbackslash e (List.mem_cons_of_mem c he)
      have hrest := ih (fun d hd => hblank d (List.mem_cons_of_mem c hd))
        (fun d hd => hquote d (List.mem_cons_of_mem c hd)) hbehind (word ++ [c])
      rw [words, step_ordinary word hlast (hquote c List.mem_cons_self)
        (hblank c List.mem_cons_self), hrest, List.append_assoc, List.singleton_append]
      rfl

end Reader

/-- A line without blank characters comes back as the one word that it is exactly if nothing in
it is lost. -/
theorem words?_eq_singleton_iff {line : String} (hblank : Text.hasBlank line = false) :
    words? line = some [line] ↔
      line ≠ "" ∧ (∀ c ∈ line.toList, isQuote c = false) ∧
        ∀ c ∈ line.toList.dropLast, c ≠ '\\' := by
  constructor
  · intro h
    refine ⟨?_, Reader.ordinary_of_solid_le h ?_⟩
    · rintro rfl
      exact nomatch h
    · simp
  · rintro ⟨hne, hquote, hbackslash⟩
    rw [words?, Reader.fresh, Reader.words_ordinary (Text.not_isBlank_of_not_hasBlank hblank) hquote
      hbackslash, List.nil_append, Reader.word?]
    simp [hne]

/-! ## The tolerant reader -/

namespace Scan

variable {offset : Nat} {scan : Scan}

/-- The characters of the token that is being read. -/
def held : Scan → List Char
  | gap => []
  | within pending => pending.text

lemma solid_held_step_le (offset : Nat) (scan : Scan) (c : Char) :
    solid (scan.step offset c).1.held +
        solid ((scan.step offset c).2.toList.flatMap fun token => token.text.toList) ≤
      solid scan.held + solid [c] := by
  rcases scan with _ | ⟨text, start, quoted, quoting⟩
  · simp only [step]
    split_ifs <;> simp [held]
  · cases quoting with
    | escaped quote => simp [step, held, Pending.push]
    | inside quote =>
      simp only [step]
      split_ifs <;> simp [held, Pending.push]
    | bare =>
      simp only [step]
      split_ifs <;> simp [held, Pending.push, Pending.token]

/-- The tokens of a line have no more characters than the line. -/
theorem solid_tokens_le (offset : Nat) (scan : Scan) (cs : List Char) :
    solid ((tokens offset scan cs).flatMap fun token => token.text.toList) ≤
      solid scan.held + solid cs := by
  induction cs generalizing offset scan with
  | nil => cases scan <;> simp [tokens, finish, held, Pending.token]
  | cons c cs ih =>
    have hstep := solid_held_step_le offset scan c
    have hrest := ih (offset + 1) (scan.step offset c).1
    rw [tokens, List.flatMap_append, Text.solid_append, solid_cons]
    omega

/-- Outside quotes, a character that is no quote ends the token that is being read if it is blank,
and otherwise goes into it. -/
lemma step_of_not_isQuote (offset : Nat) (h : scan.isOpen = false) {c : Char}
    (hc : isQuote c = false) :
    (Text.isBlank c = true ∧ (scan.step offset c).1 = gap ∧
      ∀ token ∈ (scan.step offset c).2, token.text.toList = scan.held) ∨
    (Text.isBlank c = false ∧ (scan.step offset c).1.isOpen = false ∧
      (scan.step offset c).1.held = scan.held ++ [c] ∧ (scan.step offset c).2 = none) := by
  rcases scan with _ | ⟨text, start, quoted, quoting⟩
  · by_cases hblank : Text.isBlank c = true
    · simp [step, hc, hblank]
    · simp [step, hc, hblank, held, isOpen, Quoting.isOpen]
  · cases quoting with
    | escaped quote => exact absurd h.symm Bool.false_ne_true
    | inside quote => exact absurd h.symm Bool.false_ne_true
    | bare =>
      by_cases hblank : Text.isBlank c = true
      · simp [step, hc, hblank, held, Pending.token]
      · simp [step, hc, hblank, held, isOpen, Quoting.isOpen, Pending.push]

/-- Outside quotes, nothing but a quote opens a quoted part. -/
lemma isOpen_step_eq_false (offset : Nat) (h : scan.isOpen = false) {c : Char}
    (hc : isQuote c = false) : (scan.step offset c).1.isOpen = false := by
  rcases step_of_not_isQuote offset h hc with ⟨-, hgap, -⟩ | ⟨-, hopen, -, -⟩
  · rw [hgap]
    rfl
  · exact hopen

/-- Outside quotes, a quote opens a quoted part and is lost. -/
lemma held_step_of_isQuote (offset : Nat) (h : scan.isOpen = false) {c : Char}
    (hc : isQuote c = true) :
    (scan.step offset c).1.held = scan.held ∧ (scan.step offset c).2 = none := by
  rcases scan with _ | ⟨text, start, quoted, quoting⟩
  · simp [step, hc, held]
  · cases quoting with
    | escaped quote => exact absurd h.symm Bool.false_ne_true
    | inside quote => exact absurd h.symm Bool.false_ne_true
    | bare => simp [step, hc, held]

/-- With a quote to read outside quotes, something is lost. -/
theorem solid_tokens_lt (offset : Nat) {cs : List Char} (hclosed : scan.isOpen = false)
    (hquote : ∃ c ∈ cs, isQuote c = true) :
    solid ((tokens offset scan cs).flatMap fun token => token.text.toList) <
      solid scan.held + solid cs := by
  induction cs generalizing offset scan with
  | nil =>
    obtain ⟨c, hc, -⟩ := hquote
    exact absurd hc List.not_mem_nil
  | cons c cs ih =>
    rw [tokens, List.flatMap_append, Text.solid_append, solid_cons]
    by_cases hc : isQuote c = true
    · obtain ⟨hheld, hnone⟩ := held_step_of_isQuote offset hclosed hc
      have hone := solid_singleton_of_isQuote hc
      have hrest := solid_tokens_le (offset + 1) (scan.step offset c).1 cs
      rw [hheld] at hrest
      simp only [hnone, Option.toList_none, List.flatMap_nil, Text.solid_nil]
      omega
    · rw [Bool.not_eq_true] at hc
      have hlater : ∃ d ∈ cs, isQuote d = true := by
        obtain ⟨d, hd, hisQuote⟩ := hquote
        rcases List.mem_cons.mp hd with rfl | hd
        · rw [hc] at hisQuote
          exact absurd hisQuote Bool.false_ne_true
        · exact ⟨d, hd, hisQuote⟩
      have hstep := solid_held_step_le offset scan c
      have hrest := ih (offset + 1) (isOpen_step_eq_false offset hclosed hc) hlater
      omega

/-- Without quotes, no token has a blank character. -/
theorem not_isBlank_of_mem_tokens {cs : List Char} (hclosed : scan.isOpen = false)
    (hheld : ∀ c ∈ scan.held, Text.isBlank c = false) (hquote : ∀ c ∈ cs, isQuote c = false)
    {token : Token} (h : token ∈ tokens offset scan cs) :
    ∀ c ∈ token.text.toList, Text.isBlank c = false := by
  induction cs generalizing offset scan with
  | nil =>
    cases scan with
    | gap => exact absurd h List.not_mem_nil
    | within pending =>
      obtain rfl := List.mem_singleton.mp h
      simpa [Pending.token, held] using hheld
  | cons c cs ih =>
    have hquotes : ∀ d ∈ cs, isQuote d = false := fun d hd => hquote d (List.mem_cons_of_mem c hd)
    rw [tokens, List.mem_append, Option.mem_toList] at h
    rcases step_of_not_isQuote offset hclosed (hquote c List.mem_cons_self) with
      ⟨-, hgap, htoken⟩ | ⟨hblank, hopen, htext, hnone⟩
    · rcases h with hnow | hlater
      · rw [htoken token hnow]
        exact hheld
      · rw [hgap] at hlater
        exact ih rfl (by simp [held]) hquotes hlater
    · rcases h with hnow | hlater
      · rw [hnone] at hnow
        exact absurd hnow (Option.not_mem_none token)
      · refine ih hopen ?_ hquotes hlater
        rw [htext]
        intro d hd
        rcases List.mem_append.mp hd with hd | hd
        · exact hheld d hd
        · rwa [List.mem_singleton.mp hd]

/-- A word with blank characters does not come back as itself from in front of a space: without
quotes it is cut at the blank characters, and quotes are lost. -/
theorem map_text_tokens_ne_singleton {word : String} (h : Text.hasBlank word = true) :
    (tokens offset gap (word.toList ++ [' '])).map (·.text) ≠ [word] := by
  intro htexts
  by_cases hquote : ∃ c ∈ word.toList, isQuote c = true
  · obtain ⟨c, hc, hisQuote⟩ := hquote
    have hlt := @solid_tokens_lt gap offset (word.toList ++ [' ']) rfl
      ⟨c, List.mem_append_left _ hc, hisQuote⟩
    have hsame : (tokens offset gap (word.toList ++ [' '])).flatMap
        (fun token => token.text.toList) = word.toList := by
      rw [← List.flatMap_map, htexts]
      simp
    rw [hsame, Text.solid_append, Text.solid_singleton_of_isBlank (by decide)] at hlt
    simp [held] at hlt
  · obtain ⟨blank, hmem, hblank⟩ := List.any_eq_true.mp h
    have hquotes : ∀ c ∈ word.toList ++ [' '], isQuote c = false := by
      intro c hc
      rcases List.mem_append.mp hc with hc | hc
      · exact Bool.eq_false_iff.mpr fun hisQuote => hquote ⟨c, hc, hisQuote⟩
      · rw [List.mem_singleton.mp hc]
        rfl
    obtain ⟨token, htoken, rfl⟩ : ∃ token ∈ tokens offset gap (word.toList ++ [' ']),
        token.text = word := by
      rw [← List.mem_map, htexts]
      exact List.mem_singleton_self word
    have hnot := not_isBlank_of_mem_tokens rfl (by simp [held]) hquotes htoken blank hmem
    exact absurd hblank (by simp [hnot])

end Scan

end Line

end SlashCommand
