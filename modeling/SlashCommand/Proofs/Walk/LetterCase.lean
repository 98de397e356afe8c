import SlashCommand.Proofs.Text.Lowercase
import SlashCommand.Walk

/-!
# Letter case on the way

A walk does not see the case of letters: words with the same lowercase take it to the same place,
with the same flags given and the same value waited for (`along_eq_of_map_lowercase_eq`).

Names and keywords are compared in lowercase, and what a word equals is decided by the lowercase of
the whole word.  Two things are asked of the word as it is typed: whether it is dashed, and what
stands in front of its first equals sign.  Both can be seen from the lowercase as well
(`isDashed_lowercase`, `beforeEquals?_lowercase`), although lowercasing changes a letter according
to its neighbours and may make two characters of one.  The dash and the equals sign are separators:
they stay as they are, nothing else becomes one of them, and what stands on either side of one is
lowercased apart.
-/

namespace SlashCommand.Walk

open Grammar (Command Flag Node)

/-! ## What is asked of a word as it is typed -/

lemma isDashed_iff {word : String} :
    Grammar.isDashed word = true ↔ ∃ rest, rest ≠ [] ∧ word.toList = '-' :: rest := by
  rw [Grammar.isDashed]
  split
  · next c cs hword => exact iff_of_true rfl ⟨c :: cs, List.cons_ne_nil c cs, hword⟩
  · next hword =>
    refine iff_of_false Bool.false_ne_true ?_
    rintro ⟨rest, hne, hrest⟩
    obtain ⟨c, cs, rfl⟩ := List.exists_cons_of_ne_nil hne
    exact hword c cs hrest

/-- A word is dashed exactly if its lowercase is. -/
theorem isDashed_lowercase (word : String) :
    Grammar.isDashed (Text.lowercase word) = Grammar.isDashed word := by
  rw [Bool.eq_iff_iff, isDashed_iff, isDashed_iff, Text.toList_lowercase]
  constructor
  · rintro ⟨lowered, hne, hlowered⟩
    obtain ⟨rest, hword, rfl⟩ := Text.isSeparator_dash.lowercaseChars_eq_cons_iff.mp hlowered
    exact ⟨rest, Text.lowercaseChars_eq_nil_iff.not.mp hne, hword⟩
  · rintro ⟨rest, hne, hword⟩
    exact ⟨Text.lowercaseChars rest, Text.lowercaseChars_eq_nil_iff.not.mpr hne,
      Text.isSeparator_dash.lowercaseChars_eq_cons_iff.mpr ⟨rest, hword, rfl⟩⟩

/-- In front of the first equals sign of a lowercase stands the lowercase of what stands there in
the word. -/
theorem beforeEquals?_lowercase (word : String) :
    beforeEquals? (Text.lowercase word) = (beforeEquals? word).map Text.lowercase := by
  have hcontains : (Text.lowercaseChars word.toList).contains '=' = word.toList.contains '=' := by
    rw [Bool.eq_iff_iff, List.contains_iff_mem, List.contains_iff_mem]
    exact Text.isSeparator_equals.mem_lowercaseChars_iff
  rw [beforeEquals?, beforeEquals?, Text.toList_lowercase, hcontains,
    Text.isSeparator_equals.takeWhile_lowercaseChars]
  split_ifs with hequals
  · rw [Option.map_some, Text.lowercase, String.toList_ofList]
  · rfl

/-! ## Words with the same lowercase -/

variable {first second : String} (h : Text.lowercase first = Text.lowercase second)

include h

lemma isDashed_eq_of_lowercase_eq : Grammar.isDashed first = Grammar.isDashed second := by
  rw [← isDashed_lowercase first, h, isDashed_lowercase]

lemma find?_eq_of_lowercase_eq (flags : List Flag) :
    Flag.find? flags first = Flag.find? flags second := by
  simp only [Flag.find?, Flag.answersTo, h]

lemma flagOf?_eq_of_lowercase_eq (flags : List Flag) :
    flagOf? flags first = flagOf? flags second := by
  have hbefore : (beforeEquals? first).map Text.lowercase =
      (beforeEquals? second).map Text.lowercase := by
    rw [← beforeEquals?_lowercase, h, beforeEquals?_lowercase]
  rw [flagOf?, flagOf?, find?_eq_of_lowercase_eq h flags]
  cases hwhole : Flag.find? flags second with
  | some flag => rfl
  | none =>
    cases hfirst : beforeEquals? first with
    | none =>
      rw [hfirst, Option.map_none, eq_comm, Option.map_eq_none_iff] at hbefore
      rw [hbefore]
    | some name =>
      rw [hfirst, Option.map_some, eq_comm, Option.map_eq_some_iff] at hbefore
      obtain ⟨name', hsecond, hname⟩ := hbefore
      simp only [hsecond, Option.bind_eq_bind, Option.bind_some,
        find?_eq_of_lowercase_eq hname flags]

lemma nodeOf?_eq_of_lowercase_eq (nodes : List Node) :
    nodeOf? nodes first = nodeOf? nodes second := by
  simp only [nodeOf?, h]

/-- Words with the same lowercase take a walk from one state to the same state. -/
theorem step_eq_of_lowercase_eq (state : State) : step state first = step state second := by
  rw [step, step, isDashed_eq_of_lowercase_eq h, flagOf?_eq_of_lowercase_eq h,
    nodeOf?_eq_of_lowercase_eq h]

omit h

lemma foldl_step_eq_of_map_lowercase_eq {first second : List String}
    (h : first.map Text.lowercase = second.map Text.lowercase) (state : State) :
    first.foldl step state = second.foldl step state := by
  induction first generalizing second state with
  | nil => rw [List.map_eq_nil_iff.mp h.symm]
  | cons word words ih =>
    obtain ⟨word', words', rfl, hword, hwords⟩ := List.map_eq_cons_iff.mp h.symm
    rw [List.foldl_cons, List.foldl_cons, step_eq_of_lowercase_eq hword.symm, ih hwords.symm]

/-- A walk is blind to letter case: lists of words that are the same word by word in lowercase lead
to the same state. -/
theorem along_eq_of_map_lowercase_eq (command : Command) {first second : List String}
    (h : first.map Text.lowercase = second.map Text.lowercase) :
    along command first = along command second :=
  foldl_step_eq_of_map_lowercase_eq h (start command)

/-- A keyword that ends in a capital sigma and a flag with a dotted capital I in front of the equals
sign, whose lowercase is longer than the flag itself. -/
theorem along_eq_of_map_lowercase_eq_sigma :
    let country : Flag := ⟨{ name := "--ÜLKE", kind := .string, aliases := ["--DİL"] }, rfl⟩
    let travel : Command :=
      ⟨{ name := "travel"
         description := "Plan a journey."
         root := [.literal "ΘΕΣ" none [] [], .literal "ΣΑΜΟΣ" none [country] []] },
        by decide +kernel⟩
    let first := ["ΣΑΜΟΣ", "--DİL=ΤΗΣ", "-X"]
    let second := ["σαμος", "--di\u0307l=της", "-x"]
    first.map Text.lowercase = second.map Text.lowercase ∧
      along travel first = along travel second ∧
      (along travel first).availableFlags = [country] ∧
      (along travel first).usedFlags = ["--ülke"] := by
  intro country travel first second
  have hwords : first.map Text.lowercase = second.map Text.lowercase := by decide +kernel
  have hsame := along_eq_of_map_lowercase_eq travel hwords
  refine ⟨hwords, hsame, ?_, ?_⟩
  · rw [hsame]
    decide +kernel
  · rw [hsame]
    decide +kernel

end SlashCommand.Walk
