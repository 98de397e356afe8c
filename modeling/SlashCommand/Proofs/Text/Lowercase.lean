import Mathlib.Data.List.Basic
import Mathlib.Data.List.TakeWhile
import SlashCommand.Text.Lowercase

/-!
# Lowercase texts

Lowercasing looks at the neighbours of a capital sigma and at nothing else around a character, so
a text cannot in general be lowercased piece by piece.  `lowercaseBetween` is the lowercase of a
piece in its place, between what stands in front of it and what stands behind it, and with that
the pieces make up the whole (`lowercaseBetween_append`).

A character that is neither cased nor case-ignorable is as good as an end of the text to what
stands on either side of it (`lowercaseChars_append_cons`).  The slash is one of these, and the
lowercase of a command's name is the same behind the slash (`lowercase_slash_append`).  The dash and
the equals sign are two more, and no other character has one of them for its lowercase: a text
begins with a dash exactly if its lowercase does, and what stands in front of its first equals sign
has for its lowercase what stands there in the lowercase (`lowercaseChars_takeWhile_ne`).

No character has an empty lowercase.
-/

namespace SlashCommand.Text

/-! ## Pieces of a text -/

/-- The lowercase of `cs` where `before` holds the characters in front of it, nearest first, and
`after` those behind it. -/
def lowercaseBetween (before after : List Char) : List Char → List Char
  | [] => []
  | c :: cs =>
    let lowered :=
      if c = 'İ' then ['i', '\u0307']
      else if c = 'Σ' then
        [if meetsCased before && !meetsCased (cs ++ after) then 'ς' else 'σ']
      else [lowerChar c]
    lowered ++ lowercaseBetween (c :: before) after cs

variable {before after cs : List Char}

lemma lowercaseFrom_eq_lowercaseBetween (before cs : List Char) :
    lowercaseFrom before cs = lowercaseBetween before [] cs := by
  induction cs generalizing before with
  | nil => rfl
  | cons c cs ih => rw [lowercaseFrom, lowercaseBetween, ih, List.append_nil]

lemma lowercaseChars_eq_lowercaseBetween (cs : List Char) :
    lowercaseChars cs = lowercaseBetween [] [] cs :=
  lowercaseFrom_eq_lowercaseBetween [] cs

lemma lowercaseBetween_append (before after cs ds : List Char) :
    lowercaseBetween before after (cs ++ ds) =
      lowercaseBetween before (ds ++ after) cs ++
        lowercaseBetween (cs.reverse ++ before) after ds := by
  induction cs generalizing before with
  | nil => rfl
  | cons c cs ih =>
    rw [List.cons_append, lowercaseBetween, lowercaseBetween, ih, List.reverse_cons,
      List.append_assoc, List.append_assoc, List.append_assoc]
    rfl

/-- What stands behind a piece matters only to a capital sigma with a cased letter in front of it,
and only as far as it decides whether a cased letter follows. -/
lemma lowercaseBetween_congr {after' : List Char}
    (h : ∀ head tail, cs = head ++ 'Σ' :: tail → meetsCased (head.reverse ++ before) = true →
      meetsCased (tail ++ after) = meetsCased (tail ++ after')) :
    lowercaseBetween before after cs = lowercaseBetween before after' cs := by
  induction cs generalizing before with
  | nil => rfl
  | cons c cs ih =>
    have hrest : lowercaseBetween (c :: before) after cs =
        lowercaseBetween (c :: before) after' cs := by
      refine ih fun head tail hcs hcased => h (c :: head) tail (by rw [hcs]; rfl) ?_
      rwa [List.reverse_cons, List.append_assoc]
    rw [lowercaseBetween, lowercaseBetween, hrest]
    by_cases hsigma : c = 'Σ'
    · cases hcased : meetsCased before with
      | false => rfl
      | true => rw [h [] cs (by rw [hsigma]; rfl) hcased]
    · rw [if_neg hsigma, if_neg hsigma]

lemma lowercaseBetween_eq_nil_iff : lowercaseBetween before after cs = [] ↔ cs = [] := by
  cases cs with
  | nil => exact Iff.rfl
  | cons c cs =>
    refine iff_of_false ?_ (List.cons_ne_nil c cs)
    rw [lowercaseBetween]
    split_ifs <;> simp

lemma lowercaseChars_eq_nil_iff : lowercaseChars cs = [] ↔ cs = [] := by
  rw [lowercaseChars_eq_lowercaseBetween, lowercaseBetween_eq_nil_iff]

/-- Only the empty text is empty in lowercase. -/
lemma lowercase_eq_empty_iff {s : String} : lowercase s = "" ↔ s = "" := by
  rw [← String.toList_inj, ← String.toList_inj, toList_lowercase]
  exact lowercaseChars_eq_nil_iff

/-! ## Characters without case -/

/-- Whether a character separates words for the lowercase of a capital sigma. -/
structure IsCaseless (c : Char) : Prop where
  not_caseIgnorable : inRanges caseIgnorableRanges c.toNat = false
  not_cased : inRanges casedRanges c.toNat = false

variable {c m : Char}

lemma isCaseless_slash : IsCaseless '/' where
  not_caseIgnorable := by decide +kernel
  not_cased := by decide +kernel

lemma IsCaseless.ne_of_cased (h : IsCaseless c) {d : Char}
    (hd : inRanges casedRanges d.toNat = true) : c ≠ d := by
  rintro rfl
  rw [h.not_cased] at hd
  exact Bool.false_ne_true hd

/-- A look for a cased letter goes no further than to a caseless character. -/
lemma meetsCased_append_cons (h : IsCaseless c) (cs ds : List Char) :
    meetsCased (cs ++ c :: ds) = meetsCased cs := by
  induction cs with
  | nil => simp [meetsCased, h.not_caseIgnorable, h.not_cased]
  | cons d cs ih => simp only [List.cons_append, meetsCased, ih]

/-- What stands in front of a caseless character does not matter to what stands behind it. -/
lemma lowercaseBetween_append_cons_left (h : IsCaseless c) (before beyond after cs : List Char) :
    lowercaseBetween (before ++ c :: beyond) after cs = lowercaseBetween before after cs := by
  induction cs generalizing before with
  | nil => rfl
  | cons d cs ih =>
    have hrest := ih (d :: before)
    rw [List.cons_append] at hrest
    simp only [lowercaseBetween, meetsCased_append_cons h, hrest]

/-- What stands behind a caseless character does not matter to what stands in front of it. -/
lemma lowercaseBetween_cons_right (h : IsCaseless c) (before beyond cs : List Char) :
    lowercaseBetween before (c :: beyond) cs = lowercaseBetween before [] cs := by
  refine lowercaseBetween_congr fun head tail _ _ => ?_
  rw [meetsCased_append_cons h, List.append_nil]

/-- The parts of a text on either side of a caseless character are lowercased apart. -/
theorem lowercaseChars_append_cons (h : IsCaseless c) (cs ds : List Char) :
    lowercaseChars (cs ++ c :: ds) = lowercaseChars cs ++ lowerChar c :: lowercaseChars ds := by
  have hdotted : c ≠ 'İ' := h.ne_of_cased (by decide +kernel)
  have hsigma : c ≠ 'Σ' := h.ne_of_cased (by decide +kernel)
  have hbehind : lowercaseBetween (c :: cs.reverse) [] ds = lowercaseBetween [] [] ds :=
    lowercaseBetween_append_cons_left h [] cs.reverse [] ds
  simp only [lowercaseChars_eq_lowercaseBetween, lowercaseBetween_append, lowercaseBetween,
    List.append_nil, lowercaseBetween_cons_right h, if_neg hdotted,
    if_neg hsigma, hbehind, List.singleton_append]

/-- The lowercase of a text is the same behind the slash. -/
theorem lowercase_slash_append (s : String) : lowercase ("/" ++ s) = "/" ++ lowercase s := by
  have hslash : lowerChar '/' = '/' := by decide
  have hchars : ("/" ++ s).toList = [] ++ '/' :: s.toList := by
    rw [String.toList_append]
    rfl
  rw [← String.toList_inj, toList_lowercase, hchars, lowercaseChars_append_cons isCaseless_slash,
    hslash, String.toList_append, toList_lowercase]
  rfl

lemma lowercase_slash_append_inj {first second : String} :
    lowercase ("/" ++ first) = lowercase ("/" ++ second) ↔ lowercase first = lowercase second := by
  rw [lowercase_slash_append, lowercase_slash_append, String.append_right_inj]

/-! ## Characters that are no other's lowercase -/

/-- Whether the case map takes no character but `m` itself to `m`, as far as its table goes. -/
def isLone (m : Char) : Bool :=
  0 < m.toNat && (m.toNat < 0x61 || 0x7A < m.toNat) &&
    lowercaseRuns.all fun run => !run.covers (m.toNat - run.offset).toNat

lemma toNat_eq_of_ofNat_eq {n : Nat} (h : Char.ofNat n = m) (hm : 0 < m.toNat) : n = m.toNat := by
  by_cases hvalid : n.isValidChar
  · have hchar : Char.ofNat n = Char.ofNatAux n hvalid := dif_pos hvalid
    rw [← h, hchar]
    rfl
  · -- a code that no character has stands for the character with the code zero
    have hchar : Char.ofNat n = '\x00' := dif_neg hvalid
    rw [← h, hchar] at hm
    exact absurd hm (by decide)

/-- A character that is lowercased to a lone one is that one. -/
lemma eq_of_lowerChar_eq (hm : isLone m = true) (h : lowerChar c = m) : c = m := by
  simp only [isLone, Bool.and_eq_true, Bool.or_eq_true, decide_eq_true_eq, List.all_eq_true,
    Bool.not_eq_true'] at hm
  obtain ⟨⟨hpos, hletter⟩, hruns⟩ := hm
  unfold lowerChar at h
  split_ifs at h with hascii hupper
  · -- a capital letter of ASCII becomes a small one
    have hcode := toNat_eq_of_ofNat_eq h hpos
    simp only [Bool.and_eq_true, decide_eq_true_eq] at hupper
    omega
  · exact h
  · split at h
    · next run hrun =>
      -- going back by the offset of the run leads to a character that it does not cover
      have hcovers : run.covers c.toNat = true := by simpa using List.find?_some hrun
      have hcode := toNat_eq_of_ofNat_eq h hpos
      have hback : (m.toNat - run.offset).toNat = c.toNat := by omega
      have hfree := hruns run (List.mem_of_find?_eq_some hrun)
      rw [hback, hcovers] at hfree
      cases hfree
    · exact h

/-- A lone character of a lowercase stands in the text already, unless it is one of the two that
come of a dotted capital I and of a capital sigma. -/
lemma mem_of_mem_lowercaseBetween (hm : isLone m = true) (hdot : m ≠ '\u0307')
    (hsigma : m = 'ς' → 'Σ' ∉ cs) (h : m ∈ lowercaseBetween before after cs) : m ∈ cs := by
  induction cs generalizing before with
  | nil => exact absurd h List.not_mem_nil
  | cons c cs ih =>
    rw [lowercaseBetween] at h
    rcases List.mem_append.mp h with hlowered | hrest
    · suffices hc : c = m from hc ▸ List.mem_cons_self
      split_ifs at hlowered with hdotted hcapital hends
      · rcases List.mem_pair.mp hlowered with rfl | rfl
        · exact absurd hm (by decide +kernel)
        · exact absurd rfl hdot
      · exact absurd (hcapital ▸ List.mem_cons_self) (hsigma (List.mem_singleton.mp hlowered))
      · obtain rfl := List.mem_singleton.mp hlowered
        exact absurd hm (by decide +kernel)
      · exact eq_of_lowerChar_eq hm (List.mem_singleton.mp hlowered).symm
    · exact List.mem_cons_of_mem c
        (ih (fun heq hmem => hsigma heq (List.mem_cons_of_mem c hmem)) hrest)

/-! ## Separators -/

/-- Whether a character separates words, stays as it is in lowercase, and is the lowercase of no
other character. -/
structure IsSeparator (m : Char) : Prop extends IsCaseless m where
  lowerChar_eq : lowerChar m = m
  isLone : isLone m = true

lemma isSeparator_dash : IsSeparator '-' where
  not_caseIgnorable := by decide +kernel
  not_cased := by decide +kernel
  lowerChar_eq := by decide
  isLone := by decide +kernel

lemma isSeparator_equals : IsSeparator '=' where
  not_caseIgnorable := by decide +kernel
  not_cased := by decide +kernel
  lowerChar_eq := by decide
  isLone := by decide +kernel

namespace IsSeparator

variable (hm : IsSeparator m)

include hm

lemma mem_of_mem_lowercaseBetween (h : m ∈ lowercaseBetween before after cs) : m ∈ cs := by
  have hdot : m ≠ '\u0307' := by
    rintro rfl
    exact absurd hm.not_caseIgnorable (by decide +kernel)
  have hsigma : m ≠ 'ς' := hm.ne_of_cased (by decide +kernel)
  exact Text.mem_of_mem_lowercaseBetween hm.isLone hdot (fun heq => absurd heq hsigma) h

lemma mem_of_mem_lowercaseChars (h : m ∈ lowercaseChars cs) : m ∈ cs := by
  rw [lowercaseChars_eq_lowercaseBetween] at h
  exact hm.mem_of_mem_lowercaseBetween h

lemma lowercaseChars_append_cons (cs ds : List Char) :
    lowercaseChars (cs ++ m :: ds) = lowercaseChars cs ++ m :: lowercaseChars ds := by
  rw [Text.lowercaseChars_append_cons hm.toIsCaseless, hm.lowerChar_eq]

/-- The lowercase of a text begins with a separator exactly if the text does. -/
theorem lowercaseChars_eq_cons_iff {tail : List Char} :
    lowercaseChars cs = m :: tail ↔ ∃ rest, cs = m :: rest ∧ tail = lowercaseChars rest := by
  constructor
  · intro h
    cases cs with
    | nil => cases h
    | cons c cs =>
      -- what the first character is lowercased to begins with the separator
      have hpieces : lowercaseBetween [] cs [c] ++ lowercaseBetween [c] [] cs = m :: tail := by
        have happend := lowercaseBetween_append [] [] [c] cs
        rw [List.append_nil] at happend
        rw [← h, lowercaseChars_eq_lowercaseBetween]
        exact happend.symm
      obtain ⟨d, lowered, hd⟩ : ∃ d lowered, lowercaseBetween [] cs [c] = d :: lowered :=
        List.exists_cons_of_ne_nil (lowercaseBetween_eq_nil_iff.not.mpr (List.cons_ne_nil c []))
      rw [hd, List.cons_append] at hpieces
      obtain rfl := (List.cons.inj hpieces).1
      have hmem : d ∈ lowercaseBetween [] cs [c] := by
        rw [hd]
        exact List.mem_cons_self
      obtain rfl := List.mem_singleton.mp (hm.mem_of_mem_lowercaseBetween hmem)
      have hrest := hm.lowercaseChars_append_cons [] cs
      rw [List.nil_append, h] at hrest
      exact ⟨cs, rfl, (List.cons.inj hrest).2⟩
  · rintro ⟨rest, rfl, rfl⟩
    exact hm.lowercaseChars_append_cons [] rest

lemma mem_lowercaseChars_iff : m ∈ lowercaseChars cs ↔ m ∈ cs := by
  refine ⟨hm.mem_of_mem_lowercaseChars, fun h => ?_⟩
  obtain ⟨front, back, rfl, -⟩ := List.eq_append_cons_of_mem h
  rw [hm.lowercaseChars_append_cons]
  exact List.mem_append_right _ List.mem_cons_self

/-- In front of the first separator of a lowercase stands the lowercase of what stands in front of
the first separator of the text. -/
theorem takeWhile_lowercaseChars :
    (lowercaseChars cs).takeWhile (· != m) = lowercaseChars (cs.takeWhile (· != m)) := by
  have hall : ∀ {ds : List Char}, m ∉ ds → ∀ d ∈ ds, (d != m) = true := by
    intro ds hds d hd
    exact bne_iff_ne.mpr fun heq => hds (heq ▸ hd)
  by_cases hmem : m ∈ cs
  · obtain ⟨front, back, rfl, hfront⟩ := List.eq_append_cons_of_mem hmem
    have hlowered := mt hm.mem_of_mem_lowercaseChars hfront
    rw [hm.lowercaseChars_append_cons, List.takeWhile_append_of_pos (hall hlowered),
      List.takeWhile_append_of_pos (hall hfront)]
    simp
  · rw [List.takeWhile_eq_self_iff.mpr (hall hmem),
      List.takeWhile_eq_self_iff.mpr (hall (mt hm.mem_of_mem_lowercaseChars hmem))]

end IsSeparator

end SlashCommand.Text
