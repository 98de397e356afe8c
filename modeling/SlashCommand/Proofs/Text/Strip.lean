import Mathlib.Data.List.DropRight
import SlashCommand.Text.Blank

/-!
# Blank ends

`dropBlank` leaves nothing or a text that begins with a character that is not blank, so cutting
blank ends a second time cuts nothing.
-/

namespace SlashCommand.Text

lemma dropBlank_cons_of_not_isBlank {c : Char} (h : isBlank c = false) (cs : List Char) :
    dropBlank (c :: cs) = c :: cs := by
  rw [dropBlank, List.dropWhile_cons, h, if_neg Bool.false_ne_true]

lemma not_isBlank_of_dropBlank_eq_cons {cs rest : List Char} {c : Char}
    (h : dropBlank cs = c :: rest) : isBlank c = false := by
  have hhead := List.head?_dropWhile_not isBlank cs
  rw [dropBlank] at h
  simpa only [h, List.head?_cons, Bool.not_eq_true] using hhead

/-- A text begins with what its left part begins with, unless that is blank. -/
lemma dropBlank_of_dropBlank_take_eq_cons {cs rest : List Char} {c : Char} {place : Nat}
    (h : dropBlank (cs.take place) = c :: rest) :
    dropBlank cs = c :: (rest ++ cs.drop place) := by
  have hcut : cs = cs.take place ++ cs.drop place := (List.take_append_drop place cs).symm
  rw [dropBlank] at h
  rw [hcut, dropBlank, List.dropWhile_append, h, List.isEmpty_cons, if_neg Bool.false_ne_true,
    ← hcut, List.cons_append]

lemma dropBlank_dropBlank (cs : List Char) : dropBlank (dropBlank cs) = dropBlank cs :=
  List.dropWhile_idempotent isBlank cs

lemma dropBlankEnd_dropBlankEnd (cs : List Char) :
    dropBlankEnd (dropBlankEnd cs) = dropBlankEnd cs := by
  rw [dropBlankEnd, dropBlankEnd, List.reverse_reverse, dropBlank_dropBlank]

lemma dropBlankEnd_prefix (cs : List Char) : dropBlankEnd cs <+: cs := by
  rw [dropBlankEnd, ← List.reverse_suffix, List.reverse_reverse]
  exact List.dropWhile_suffix isBlank

/-- Cutting the end of a text that begins with a character that is not blank leaves its
beginning. -/
lemma dropBlank_dropBlankEnd_dropBlank (cs : List Char) :
    dropBlank (dropBlankEnd (dropBlank cs)) = dropBlankEnd (dropBlank cs) := by
  rcases hend : dropBlankEnd (dropBlank cs) with _ | ⟨c, rest⟩
  · rfl
  · obtain ⟨behind, hbehind⟩ := dropBlankEnd_prefix (dropBlank cs)
    rw [hend, List.cons_append] at hbehind
    exact dropBlank_cons_of_not_isBlank (not_isBlank_of_dropBlank_eq_cons hbehind.symm) rest

@[simp] theorem strip_strip (s : String) : strip (strip s) = strip s := by
  rw [strip, toList_strip, dropBlank_dropBlankEnd_dropBlank, dropBlankEnd_dropBlankEnd, strip]

lemma dropBlank_of_not_isBlank {cs : List Char} (h : ∀ c ∈ cs, isBlank c = false) :
    dropBlank cs = cs := by
  cases cs with
  | nil => rfl
  | cons c cs => exact dropBlank_cons_of_not_isBlank (h c List.mem_cons_self) cs

lemma dropBlank_eq_nil_iff {cs : List Char} :
    dropBlank cs = [] ↔ ∀ c ∈ cs, isBlank c = true :=
  List.dropWhile_eq_nil_iff

/-- Nothing is left of a text exactly if all of it is blank. -/
lemma strip_eq_empty_iff {s : String} : strip s = "" ↔ ∀ c ∈ s.toList, isBlank c = true := by
  rw [← String.toList_inj, toList_strip, ← dropBlank_eq_nil_iff]
  constructor
  · intro hend
    have hblank : ∀ c ∈ dropBlank s.toList, isBlank c = true := by
      rw [String.toList_empty, dropBlankEnd, List.reverse_eq_nil_iff, dropBlank_eq_nil_iff] at hend
      exact fun c hc => hend c (List.mem_reverse.mpr hc)
    cases hdrop : dropBlank s.toList with
    | nil => rfl
    | cons c cs =>
      have hfirst := hblank c (hdrop ▸ List.mem_cons_self)
      rw [not_isBlank_of_dropBlank_eq_cons hdrop] at hfirst
      cases hfirst
  · intro hdrop
    rw [hdrop]
    rfl

/-- Nothing is cut from a text without blank characters. -/
lemma strip_of_not_isBlank {s : String} (h : ∀ c ∈ s.toList, isBlank c = false) : strip s = s := by
  have hreverse : ∀ c ∈ s.toList.reverse, isBlank c = false := fun c hc =>
    h c (List.mem_reverse.mp hc)
  rw [strip, dropBlank_of_not_isBlank h, dropBlankEnd, dropBlank_of_not_isBlank hreverse,
    List.reverse_reverse, String.ofList_toList]

end SlashCommand.Text
