import Mathlib.Algebra.Order.Ring.Rat
import SlashCommand.Proofs.Completion.Request

/-!
# The order of listing

Suggestions are listed by score and, where scores are equal, by label.  That is a total preorder,
so sorting puts each list into ascending order (`pairwise_sorted`).

Nodes and flags are sorted apart and listed one behind the other, and still make up one ascending
list: they are on offer together only while nothing is typed, every word then has score zero, and
the penalty is what flags score.
-/

namespace SlashCommand

open Grammar (Flag Node)

/-! ## Texts -/

namespace Text

lemma precedes_iff {first second : String} :
    precedes first second = true ↔ ¬ codes second < codes first := by
  rw [precedes, Bool.not_eq_true', decide_eq_false_iff_not]

lemma precedes_trans {first second third : String} (h : precedes first second = true)
    (h' : precedes second third = true) : precedes first third = true := by
  rw [precedes_iff, List.not_lt] at h h' ⊢
  exact List.le_trans h h'

lemma precedes_total (first second : String) :
    precedes first second = true ∨ precedes second first = true := by
  rw [precedes_iff, precedes_iff, List.not_lt, List.not_lt]
  exact List.le_total (codes first) (codes second)

end Text

namespace Suggestion

/-! ## Suggestions -/

lemma precedes_iff {first second : Suggestion} :
    precedes first second = true ↔
      first.score < second.score ∨
        first.score = second.score ∧ Text.precedes first.label second.label = true := by
  simp [precedes]

lemma precedes_trans (first second third : Suggestion) (h : precedes first second = true)
    (h' : precedes second third = true) : precedes first third = true := by
  rw [precedes_iff] at h h' ⊢
  rcases h with hlt | ⟨heq, hlabel⟩
  · rcases h' with hlt' | ⟨heq', -⟩
    · exact .inl (hlt.trans hlt')
    · exact .inl (heq' ▸ hlt)
  · rcases h' with hlt' | ⟨heq', hlabel'⟩
    · exact .inl (heq ▸ hlt')
    · exact .inr ⟨heq.trans heq', Text.precedes_trans hlabel hlabel'⟩

lemma precedes_total (first second : Suggestion) :
    (precedes first second || precedes second first) = true := by
  rw [Bool.or_eq_true, precedes_iff, precedes_iff]
  rcases lt_trichotomy first.score second.score with hlt | heq | hgt
  · exact .inl (.inl hlt)
  · rcases Text.precedes_total first.label second.label with hlabel | hlabel
    · exact .inl (.inr ⟨heq, hlabel⟩)
    · exact .inr (.inr ⟨heq.symm, hlabel⟩)
  · exact .inr (.inl hgt)

/-- A sorted list is in ascending order. -/
theorem pairwise_sorted (suggestions : List Suggestion) :
    (sorted suggestions).Pairwise fun first second => precedes first second = true :=
  List.pairwise_mergeSort precedes_trans precedes_total suggestions

/-! ## While nothing is typed -/

variable {suggestion : Suggestion} {slot : Slot}

@[simp] lemma scoreOf_empty (word : String) : scoreOf "" word = some 0 := rfl

@[simp] lemma isWholeScore_empty (word : String) : isWholeScore "" word = true := rfl

lemma score_of_mem_nodes (hstem : slot.stem = "") {nodes : List Node} {context : Context}
    {providers : Providers} (h : suggestion ∈ Suggestion.nodes nodes slot context providers) :
    suggestion.score = 0 := by
  rcases mem_nodes_iff.mp h with ⟨node, -, value, -, score, hscore, rfl⟩ | ⟨node, -, hvalue⟩
  · rw [hstem, scoreOf_empty] at hscore
    exact (Option.some.inj hscore).symm
  · obtain ⟨candidate, -, score, hscore, rfl⟩ := mem_values_iff.mp hvalue
    rw [hstem, scoreOf_empty] at hscore
    exact (Option.some.inj hscore).symm

lemma score_of_mem_flags (hstem : slot.stem = "") {available : List Flag} {used : List String}
    (h : suggestion ∈ flags available used slot Completion.flagPenalty) :
    suggestion.score = 100 := by
  obtain ⟨flag, -, score, hscore, rfl⟩ := mem_flags_iff.mp h
  rw [hstem, scoreOf_empty] at hscore
  obtain rfl := Option.some.inj hscore
  simp [hstem, Completion.flagPenalty, Penalty.addTo]

end Suggestion

end SlashCommand
