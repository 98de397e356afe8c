import Mathlib.Data.List.Infix
import SlashCommand.Proofs.Text.Lowercase

/-!
# A capital sigma at the end of a text

What a text is in lowercase, it also is as the beginning of a longer text, with one exception.  A
capital sigma that ends the last word of the text (`ClosesWord`) has the final form, and once a
cased letter follows, the word goes on and the sigma has the other form.  Everything in front of it
and behind it stays as it is (`lowercaseChars_append_of_closesWord`).
-/

namespace SlashCommand.Text

variable {cs ds head tail : List Char}

/-! ## Looking for a cased letter -/

lemma meetsCased_append_of_forall
    (h : ∀ c ∈ cs, inRanges caseIgnorableRanges c.toNat = true) (ds : List Char) :
    meetsCased (cs ++ ds) = meetsCased ds := by
  induction cs with
  | nil => rfl
  | cons c cs ih =>
    rw [List.cons_append, meetsCased, if_pos (h c List.mem_cons_self)]
    exact ih fun d hd => h d (List.mem_cons_of_mem c hd)

/-- The first character that is not passed over settles what is found. -/
lemma meetsCased_append_of_not_forall
    (h : ¬ ∀ c ∈ cs, inRanges caseIgnorableRanges c.toNat = true) (ds : List Char) :
    meetsCased (cs ++ ds) = meetsCased cs := by
  induction cs with
  | nil => exact absurd (fun c hc => absurd hc List.not_mem_nil) h
  | cons c cs ih =>
    rw [List.cons_append, meetsCased, meetsCased]
    split_ifs with hignorable
    · exact ih fun hall => h (List.forall_mem_cons.mpr ⟨hignorable, hall⟩)
    · rfl

/-! ## The end of the last word -/

/-- Whether a text ends in a capital sigma in the final form, but for case-ignorable characters. -/
structure ClosesWord (cs head tail : List Char) : Prop where
  eq_append : cs = head ++ 'Σ' :: tail
  meetsCased_head : meetsCased head.reverse = true
  caseIgnorable : ∀ c ∈ tail, inRanges caseIgnorableRanges c.toNat = true

lemma not_mem_sigma_of_forall (h : ∀ c ∈ cs, inRanges caseIgnorableRanges c.toNat = true) :
    'Σ' ∉ cs := by
  intro hmem
  exact absurd (h 'Σ' hmem) (by decide +kernel)

/-- Without a capital sigma, no neighbour matters. -/
lemma lowercaseBetween_eq_of_not_mem (h : 'Σ' ∉ cs) (before after before' after' : List Char) :
    lowercaseBetween before after cs = lowercaseBetween before' after' cs := by
  induction cs generalizing before before' with
  | nil => rfl
  | cons c cs ih =>
    rw [List.mem_cons, not_or] at h
    rw [lowercaseBetween, lowercaseBetween, if_neg (Ne.symm h.1), if_neg (Ne.symm h.1),
      ih h.2 (c :: before) (c :: before')]

lemma lowercaseChars_append_eq (cs ds : List Char) :
    lowercaseChars (cs ++ ds) = lowercaseBetween [] ds cs ++ lowercaseFrom cs.reverse ds := by
  rw [lowercaseChars_eq_lowercaseBetween, lowercaseBetween_append, List.append_nil, List.append_nil,
    lowercaseFrom_eq_lowercaseBetween]

/-- Where no word is closed, or no cased letter follows, a text stays as it is in lowercase. -/
theorem lowercaseChars_append
    (h : (∀ head tail, ¬ ClosesWord cs head tail) ∨ meetsCased ds = false) :
    lowercaseChars (cs ++ ds) = lowercaseChars cs ++ lowercaseFrom cs.reverse ds := by
  have hsame : lowercaseBetween [] ds cs = lowercaseBetween [] [] cs := by
    refine lowercaseBetween_congr fun head tail hcs hcased => ?_
    rw [List.append_nil] at hcased
    by_cases hall : ∀ c ∈ tail, inRanges caseIgnorableRanges c.toNat = true
    · rw [meetsCased_append_of_forall hall, meetsCased_append_of_forall hall]
      exact h.resolve_left fun hopen => hopen head tail ⟨hcs, hcased, hall⟩
    · rw [meetsCased_append_of_not_forall hall, meetsCased_append_of_not_forall hall]
  rw [lowercaseChars_append_eq, hsame, lowercaseChars_eq_lowercaseBetween]

/-- The form of the sigma that closes a word depends on whether a cased letter follows, and nothing
else of the text does. -/
lemma ClosesWord.lowercaseBetween_eq (h : ClosesWord cs head tail) (ds : List Char) :
    lowercaseBetween [] ds cs =
      lowercaseBetween [] ['Σ'] head ++
        (if meetsCased ds then 'σ' else 'ς') :: lowercaseChars tail := by
  have hhead : lowercaseBetween [] ('Σ' :: tail ++ ds) head = lowercaseBetween [] ['Σ'] head := by
    refine lowercaseBetween_congr fun _ between _ _ => ?_
    have hends : ¬ ∀ c ∈ between ++ ['Σ'], inRanges caseIgnorableRanges c.toNat = true :=
      fun hall => not_mem_sigma_of_forall hall (by simp)
    have hbehind := meetsCased_append_of_not_forall hends (tail ++ ds)
    rwa [List.append_assoc] at hbehind
  have hsigma : lowercaseBetween head.reverse ds ('Σ' :: tail) =
      (if meetsCased ds then 'σ' else 'ς') :: lowercaseChars tail := by
    rw [lowercaseBetween, if_neg (by decide), if_pos rfl, h.meetsCased_head, Bool.true_and,
      meetsCased_append_of_forall h.caseIgnorable, lowercaseChars_eq_lowercaseBetween,
      lowercaseBetween_eq_of_not_mem (not_mem_sigma_of_forall h.caseIgnorable) _ _ [] []]
    cases meetsCased ds <;> rfl
  rw [h.eq_append, lowercaseBetween_append, hhead, List.append_nil, hsigma]

/-- Where a cased letter follows, the sigma that closed a word changes its form. -/
theorem ClosesWord.lowercaseChars_append (h : ClosesWord cs head tail)
    (hcased : meetsCased ds = true) :
    ∃ front, lowercaseChars cs = front ++ 'ς' :: lowercaseChars tail ∧
      lowercaseChars (cs ++ ds) =
        front ++ 'σ' :: (lowercaseChars tail ++ lowercaseFrom cs.reverse ds) := by
  refine ⟨lowercaseBetween [] ['Σ'] head, ?_, ?_⟩
  · rw [lowercaseChars_eq_lowercaseBetween, h.lowercaseBetween_eq]
    rfl
  · rw [lowercaseChars_append_eq, h.lowercaseBetween_eq, if_pos hcased, List.append_assoc]
    rfl

/-- The final form of the sigma is not among what follows it. -/
lemma ClosesWord.not_mem_lowercaseChars (h : ClosesWord cs head tail) :
    'ς' ∉ lowercaseChars tail := by
  intro hmem
  rw [lowercaseChars_eq_lowercaseBetween] at hmem
  have htail : 'ς' ∈ tail := mem_of_mem_lowercaseBetween (by decide +kernel) (by decide)
    (fun _ => not_mem_sigma_of_forall h.caseIgnorable) hmem
  exact absurd (h.caseIgnorable 'ς' htail) (by decide +kernel)

end SlashCommand.Text
