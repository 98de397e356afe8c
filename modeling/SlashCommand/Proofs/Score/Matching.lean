import Mathlib.Data.List.Basic
import SlashCommand.Score

/-!
# Which words match

A word has a score exactly if the characters that have been typed occur in it in order, letter
case aside.  Of the four tiers only the last one looks for that, and it finds them whenever they
are there, although it takes each as early as it can (`isSome_gap?_iff`).  That a word begins with
what was typed, or contains it, is a special case.
-/

namespace SlashCommand

/-- Characters can be found one after the other, each as early as possible, exactly if they occur
in this order at all. -/
theorem isSome_gap?_iff {query value : List Char} :
    (gap? query value).isSome = true ↔ query.Sublist value := by
  induction value generalizing query with
  | nil => cases query <;> simp [gap?]
  | cons v value ih =>
    cases query with
    | nil => simp [gap?]
    | cons q query =>
      rw [gap?]
      split_ifs with hfound
      · -- taking the first occurrence never spoils a match
        rw [ih, hfound, List.cons_sublist_cons]
      · rw [Option.isSome_map, ih, List.cons_sublist_cons']
        simp [hfound]

lemma infix_of_offset?_eq_some {query value : List Char} {offset : Nat}
    (h : offset? query value = some offset) : query.IsInfix value := by
  induction value generalizing offset with
  | nil =>
    rw [offset?] at h
    split_ifs at h with hempty
    obtain rfl := List.isEmpty_iff.mp hempty
    exact List.nil_infix
  | cons v value ih =>
    rw [offset?] at h
    split_ifs at h with hprefix
    · exact (List.isPrefixOf_iff_prefix.mp hprefix).isInfix
    · obtain ⟨rest, hrest, -⟩ := Option.map_eq_some_iff.mp h
      exact (ih hrest).trans (List.suffix_cons v value).isInfix

lemma isSome_scoreChars_iff {query value : List Char} :
    (scoreChars query value).isSome = true ↔ query.Sublist value := by
  unfold scoreChars
  by_cases hempty : query.isEmpty = true
  · rw [if_pos hempty, List.isEmpty_iff.mp hempty]
    simp
  rw [if_neg hempty]
  by_cases hprefix : query.isPrefixOf value = true
  · rw [if_pos hprefix]
    have hsublist := (List.isPrefixOf_iff_prefix.mp hprefix).sublist
    simp [hsublist]
  rw [if_neg hprefix]
  cases hoffset : offset? query value with
  | some offset =>
    have hsublist := (infix_of_offset?_eq_some hoffset).sublist
    simp [hsublist]
  | none =>
    rw [← isSome_gap?_iff]
    cases gap? query value <;> rfl

/-- A word matches exactly if the characters typed occur in it in order, letter case aside. -/
theorem isSome_scoreOf_iff {stem word : String} :
    (scoreOf stem word).isSome = true ↔
      (Text.lowercaseChars stem.toList).Sublist (Text.lowercaseChars word.toList) :=
  isSome_scoreChars_iff

end SlashCommand
