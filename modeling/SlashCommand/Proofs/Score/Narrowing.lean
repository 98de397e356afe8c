import Mathlib.Data.List.Infix
import SlashCommand.Proofs.Score.Matching
import SlashCommand.Proofs.Text.Sigma

/-!
# Typing on

Whoever types on expects the list to get shorter: a word that matches what has been typed by now
should have matched what had been typed before.  So it is wherever the lowercase of the stem can
still be found in the lowercase of the longer stem.  That is always the case, whatever is typed on,
unless the stem ends in a capital sigma that closes a word (`narrows_iff`).

Such a sigma is looked for in its final form, and once a cased letter follows it has the other one.
The words that go on behind it are missing from the list, even those that begin with the stem letter
by letter, until more is typed (`not_narrows_sigma`).  Only if the final form and all behind it come
again in what is typed on, the shorter stem is found wherever the longer one is (`Outlasts`).
-/

namespace SlashCommand

/-- Whether the words that match with `rest` typed behind a stem are among those that match the
stem alone. -/
def Narrows (stem rest : String) : Prop :=
  ∀ word, (scoreOf (stem ++ rest) word).isSome = true → (scoreOf stem word).isSome = true

/-- Whether the lowercase of a stem outlasts what is typed on: no word is closed, the closed word
does not go on, or the final sigma is found in what is typed, with all that was behind it. -/
def Outlasts (stem rest : List Char) : Prop :=
  ∀ head tail, Text.ClosesWord stem head tail → Text.meetsCased rest = true →
    ('ς' :: Text.lowercaseChars tail).Sublist (Text.lowercaseFrom stem.reverse rest)

/-! ## Beginnings in lowercase -/

/-- A character that is not among the first ones can only be found behind them. -/
lemma cons_sublist_append_iff {c : Char} {cs front back : List Char} (h : c ∉ front) :
    (c :: cs).Sublist (front ++ back) ↔ (c :: cs).Sublist back := by
  induction front with
  | nil => exact Iff.rfl
  | cons d front ih =>
    rw [List.mem_cons, not_or] at h
    rw [List.cons_append, List.cons_sublist_cons', ih h.2]
    simp [h.1]

variable {stem rest : List Char}

/-- Where a closed word goes on, the final form of its sigma has to be found in what is typed on. -/
lemma lowercaseChars_sublist_append_iff_of_closesWord {head tail : List Char}
    (h : Text.ClosesWord stem head tail) (hcased : Text.meetsCased rest = true) :
    (Text.lowercaseChars stem).Sublist (Text.lowercaseChars (stem ++ rest)) ↔
      ('ς' :: Text.lowercaseChars tail).Sublist (Text.lowercaseFrom stem.reverse rest) := by
  obtain ⟨front, hstem, hlonger⟩ := h.lowercaseChars_append hcased
  have hsigma : 'ς' ∉ 'σ' :: Text.lowercaseChars tail := by
    rw [List.mem_cons, not_or]
    exact ⟨by decide, h.not_mem_lowercaseChars⟩
  rw [hstem, hlonger, List.append_sublist_append_left, ← List.cons_append,
    cons_sublist_append_iff hsigma]

lemma lowercaseChars_sublist_append_iff :
    (Text.lowercaseChars stem).Sublist (Text.lowercaseChars (stem ++ rest)) ↔
      Outlasts stem rest := by
  constructor
  · intro hsublist head tail hcloses hcased
    exact (lowercaseChars_sublist_append_iff_of_closesWord hcloses hcased).mp hsublist
  · intro houtlasts
    by_cases hopen : (∀ head tail, ¬ Text.ClosesWord stem head tail) ∨ Text.meetsCased rest = false
    · rw [Text.lowercaseChars_append hopen]
      exact List.sublist_append_left _ _
    · obtain ⟨hcloses, hcased⟩ := not_or.mp hopen
      obtain ⟨head, tail, hcloses⟩ : ∃ head tail, Text.ClosesWord stem head tail := by
        simpa only [not_forall, not_not] using hcloses
      rw [Bool.not_eq_false] at hcased
      exact (lowercaseChars_sublist_append_iff_of_closesWord hcloses hcased).mpr
        (houtlasts head tail hcloses hcased)

/-! ## The list gets shorter -/

/-- Typing on narrows the list exactly if the stem matches what has been typed in the end, as a
word. -/
lemma narrows_iff_isSome (stem rest : String) :
    Narrows stem rest ↔ (scoreOf stem (stem ++ rest)).isSome = true := by
  constructor
  · intro h
    exact h (stem ++ rest) (isSome_scoreOf_iff.mpr (List.Sublist.refl _))
  · intro h word hword
    exact isSome_scoreOf_iff.mpr
      ((isSome_scoreOf_iff.mp h).trans (isSome_scoreOf_iff.mp hword))

lemma isSome_scoreOf_append_iff (stem rest : String) :
    (scoreOf stem (stem ++ rest)).isSome = true ↔ Outlasts stem.toList rest.toList := by
  rw [isSome_scoreOf_iff, String.toList_append, lowercaseChars_sublist_append_iff]

/-- Typing `rest` behind a stem narrows the list exactly if the stem outlasts it, and that is also
when a word that begins with the stem and goes on with `rest` matches the stem.  The list gets
narrower whatever is typed on exactly if the stem does not close a word with a capital sigma. -/
theorem narrows_iff (stem : String) :
    (∀ rest, (Narrows stem rest ↔ Outlasts stem.toList rest.toList) ∧
      ((scoreOf stem (stem ++ rest)).isSome = true ↔ Outlasts stem.toList rest.toList)) ∧
    ((∀ rest, Narrows stem rest) ↔ ∀ head tail, ¬ Text.ClosesWord stem.toList head tail) := by
  have houtlasts : ∀ rest, Narrows stem rest ↔ Outlasts stem.toList rest.toList := fun rest =>
    (narrows_iff_isSome stem rest).trans (isSome_scoreOf_append_iff stem rest)
  refine ⟨fun rest => ⟨houtlasts rest, isSome_scoreOf_append_iff stem rest⟩, ?_, ?_⟩
  · intro hall head tail hcloses
    -- a single letter that is no sigma is enough to go on with the word
    have hfound := (houtlasts "a").mp (hall "a") head tail hcloses (by decide +kernel)
    have hmem : 'ς' ∈ ['a'] := hfound.subset List.mem_cons_self
    exact absurd hmem (by decide)
  · intro hopen rest
    exact (houtlasts rest).mpr fun head tail hcloses => absurd hcloses (hopen head tail)

/-- The name of a town matches its first five letters, does not match its first three, the last of
which is a sigma, and begins with them all the same. -/
theorem not_narrows_sigma :
    ¬ Narrows "ΘΕΣ" "ΣΑ" ∧
      (scoreOf ("ΘΕΣ" ++ "ΣΑ") "ΘΕΣΣΑΛΟΝΙΚΗ").isSome = true ∧
      scoreOf "ΘΕΣ" "ΘΕΣΣΑΛΟΝΙΚΗ" = none ∧ "ΘΕΣΣΑΛΟΝΙΚΗ" = "ΘΕΣ" ++ "ΣΑΛΟΝΙΚΗ" := by
  have hlonger : (scoreOf ("ΘΕΣ" ++ "ΣΑ") "ΘΕΣΣΑΛΟΝΙΚΗ").isSome = true := by decide +kernel
  have hstem : scoreOf "ΘΕΣ" "ΘΕΣΣΑΛΟΝΙΚΗ" = none := by decide +kernel
  refine ⟨fun hnarrows => ?_, hlonger, hstem, by decide⟩
  have hfound := hnarrows "ΘΕΣΣΑΛΟΝΙΚΗ" hlonger
  rw [hstem] at hfound
  cases hfound

end SlashCommand
