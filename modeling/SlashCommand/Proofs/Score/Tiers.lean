import Mathlib.Data.List.Infix
import Mathlib.Tactic.Linarith
import SlashCommand.Proofs.Completion.Offer
import SlashCommand.Proofs.Completion.Order
import SlashCommand.Proofs.Score.Matching
import SlashCommand.Proofs.Text.Lowercase

/-!
# Tiers

What is typed is found in a word in one of three ways: the word begins with it, or contains it
further on, or has its characters in order with others between them.  These are the tiers.  Within
a tier, the score grows with the rank of a word, which is its length, the place where the query
first occurs, or the gap (`Tier.exists_rank_of_of?_eq_some`).

Each tier has a number that its scores begin at, and nothing keeps them below that of the next tier
but the length of the words: as long as a word is less than twenty characters longer than the query,
neither the characters that are missing nor those in front of the query are enough to get there
(`Tier.score_lt`).  A list of such words is made up of three parts, one for each tier, and each part
is in the order of ranks (`scoreOf_eq_none_iff_and_exists_tiers`).
-/

namespace SlashCommand

/-! ## How a query is found -/

/-- The ways in which a query is found in a word, best first. -/
inductive Tier where
  /-- The word begins with the query. -/
  | beginning
  /-- The word contains the query, and does not begin with it. -/
  | inside
  /-- The characters of the query occur in the word in order, and not all of them together. -/
  | scattered
  deriving DecidableEq

/-- Whether a query first occurs in a word at some place. -/
structure FirstAt (query value : List Char) (place : Nat) : Prop where
  occurs : query <+: value.drop place
  not_occurs : ∀ earlier < place, ¬ query <+: value.drop earlier

namespace Tier

/-- The tier of a word. -/
def of? (query value : List Char) : Option Tier :=
  if query <+: value then some beginning
  else if query <:+: value then some inside
  else if query.Sublist value then some scattered
  else none

/-- What the words of a tier are ranked by: their length, the place where the query first occurs,
or the characters skipped between those of the query. -/
def Rank (query value : List Char) : Tier → Nat → Prop
  | beginning, rank => rank = value.length
  | inside, rank => FirstAt query value rank
  | scattered, rank => gap? query value = some rank

/-- The score of a word by its rank in a tier. -/
def score (query : List Char) : Tier → Nat → Rat
  | beginning, rank => 10 + ((rank - query.length : Nat) : Rat) / 100
  | inside, rank => 30 + rank
  | scattered, rank => 50 + rank

end Tier

variable {query value : List Char}

lemma FirstAt.eq {place place' : Nat} (h : FirstAt query value place)
    (h' : FirstAt query value place') : place = place' := by
  rcases lt_trichotomy place place' with hlt | heq | hgt
  · exact absurd h.occurs (h'.not_occurs place hlt)
  · exact heq
  · exact absurd h'.occurs (h.not_occurs place' hgt)

lemma firstAt_zero_iff : FirstAt query value 0 ↔ query <+: value :=
  ⟨fun h => h.occurs, fun h => ⟨h, fun _ hlt => absurd hlt (Nat.not_lt_zero _)⟩⟩

lemma firstAt_succ_iff {v : Char} {place : Nat} :
    FirstAt query (v :: value) (place + 1) ↔
      ¬ query <+: v :: value ∧ FirstAt query value place := by
  constructor
  · intro h
    exact ⟨h.not_occurs 0 (Nat.succ_pos place), h.occurs, fun earlier hlt =>
      h.not_occurs (earlier + 1) (Nat.succ_lt_succ hlt)⟩
  · rintro ⟨hnot, hoccurs, hrest⟩
    refine ⟨hoccurs, fun earlier hlt => ?_⟩
    cases earlier with
    | zero => exact hnot
    | succ earlier => exact hrest earlier (Nat.lt_of_succ_lt_succ hlt)

/-- The offset of a query is the place where it first occurs. -/
theorem offset?_eq_some_iff {place : Nat} :
    offset? query value = some place ↔ FirstAt query value place := by
  induction value generalizing place with
  | nil =>
    rw [offset?]
    split_ifs with hempty
    · obtain rfl := List.isEmpty_iff.mp hempty
      have hzero : FirstAt [] [] 0 := firstAt_zero_iff.mpr List.nil_prefix
      exact ⟨fun h => Option.some.inj h ▸ hzero, fun h => congrArg some (hzero.eq h)⟩
    · refine iff_of_false not_false fun h => hempty ?_
      have hoccurs := h.occurs
      rw [List.drop_nil, List.prefix_nil] at hoccurs
      exact List.isEmpty_iff.mpr hoccurs
  | cons v value ih =>
    rw [offset?]
    split_ifs with hbegins
    · rw [List.isPrefixOf_iff_prefix, ← firstAt_zero_iff] at hbegins
      exact ⟨fun h => Option.some.inj h ▸ hbegins, fun h => congrArg some (hbegins.eq h)⟩
    · rw [List.isPrefixOf_iff_prefix] at hbegins
      rw [Option.map_eq_some_iff]
      cases place with
      | zero =>
        rw [firstAt_zero_iff]
        refine iff_of_false ?_ hbegins
        rintro ⟨_, -, hzero⟩
        cases hzero
      | succ place =>
        rw [firstAt_succ_iff, ← ih]
        simp [hbegins]

/-- A word that contains the query has a place where it first occurs. -/
lemma exists_firstAt_of_infix (h : query <:+: value) : ∃ place, FirstAt query value place := by
  have hplace : ∃ place, query <+: value.drop place := by
    obtain ⟨front, back, rfl⟩ := h
    refine ⟨front.length, back, ?_⟩
    rw [List.append_assoc, List.drop_left]
  classical
  exact ⟨Nat.find hplace, Nat.find_spec hplace, fun earlier hlt => Nat.find_min hplace hlt⟩

/-! ## Scores by tier -/

namespace Tier

lemma of?_eq_beginning_iff : of? query value = some beginning ↔ query <+: value := by
  unfold of?
  split_ifs <;> simp_all

lemma of?_eq_inside_iff :
    of? query value = some inside ↔ ¬ query <+: value ∧ query <:+: value := by
  unfold of?
  split_ifs <;> simp_all

lemma of?_eq_scattered_iff :
    of? query value = some scattered ↔ ¬ query <:+: value ∧ query.Sublist value := by
  unfold of?
  split_ifs with hbegins hinside <;> simp_all [List.IsPrefix.isInfix]

lemma isSome_of?_iff : (of? query value).isSome = true ↔ query.Sublist value := by
  unfold of?
  split_ifs with hbegins hinside hscattered
  · simp [hbegins.sublist]
  · simp [hinside.sublist]
  · simp [hscattered]
  · simp [hscattered]

/-- The score of a word in a tier is that of its rank. -/
theorem exists_rank_of_of?_eq_some (hne : query ≠ []) {tier : Tier}
    (h : of? query value = some tier) :
    ∃ rank, tier.Rank query value rank ∧ scoreChars query value = some (tier.score query rank) := by
  cases tier with
  | beginning =>
    rw [of?_eq_beginning_iff] at h
    refine ⟨value.length, rfl, ?_⟩
    simp [scoreChars, hne, h, score]
  | inside =>
    obtain ⟨hbegins, hinside⟩ := of?_eq_inside_iff.mp h
    obtain ⟨place, hplace⟩ := exists_firstAt_of_infix hinside
    refine ⟨place, hplace, ?_⟩
    simp [scoreChars, hne, hbegins, offset?_eq_some_iff.mpr hplace, score]
  | scattered =>
    obtain ⟨hinside, hsublist⟩ := of?_eq_scattered_iff.mp h
    obtain ⟨gap, hgap⟩ := Option.isSome_iff_exists.mp (isSome_gap?_iff.mpr hsublist)
    have hoffset : offset? query value = none := by
      rw [Option.eq_none_iff_forall_ne_some]
      exact fun place hplace => hinside (infix_of_offset?_eq_some hplace)
    refine ⟨gap, hgap, ?_⟩
    have hbegins : ¬ query <+: value := fun hbegins => hinside hbegins.isInfix
    simp [scoreChars, hne, hbegins, hoffset, hgap, score]

/-- The place of a tier in the list of tiers. -/
def level : Tier → Nat
  | beginning => 0
  | inside => 1
  | scattered => 2

variable {tier tier' : Tier} {value' : List Char} {rank rank' : Nat}

lemma Rank.eq (h : tier.Rank query value rank) (h' : tier.Rank query value rank') :
    rank = rank' := by
  cases tier with
  | beginning => exact h.trans h'.symm
  | inside => exact FirstAt.eq h h'
  | scattered => exact Option.some.inj (h.symm.trans h')

lemma le_score (tier : Tier) (query : List Char) (rank : Nat) :
    10 + 20 * (tier.level : Rat) ≤ tier.score query rank := by
  have hrank : (0 : Rat) ≤ rank := Nat.cast_nonneg rank
  have hmissing : (0 : Rat) ≤ (rank - query.length : Nat) := Nat.cast_nonneg _
  cases tier with
  | beginning =>
    norm_num [score, level]
    linarith
  | inside =>
    norm_num [score, level]
  | scattered =>
    norm_num [score, level]

/-- Of words that are not much longer than the query, those that do not reach the last tier have no
score that belongs to a later one. -/
lemma score_lt (hne : query ≠ []) (hlength : value.length < query.length + 20)
    (hrank : tier.Rank query value rank) (htier : tier ≠ scattered) :
    tier.score query rank < 30 + 20 * (tier.level : Rat) := by
  cases tier with
  | beginning =>
    obtain rfl := hrank
    have hmissing : ((value.length - query.length : Nat) : Rat) < 20 := by
      exact_mod_cast (by omega : value.length - query.length < 20)
    norm_num [score, level]
    linarith
  | inside =>
    have hpos : 0 < query.length := List.length_pos_iff.mpr hne
    have hfits : query.length ≤ value.length - rank := by
      simpa using hrank.occurs.length_le
    have hplace : (rank : Rat) < 20 := by exact_mod_cast (by omega : rank < 20)
    norm_num [score, level]
    linarith
  | scattered => exact absurd rfl htier

/-- Among such words, no score is reached in an earlier tier and in a later one. -/
lemma level_le_of_score_le (hne : query ≠ []) (hlength : value'.length < query.length + 20)
    (hrank : tier'.Rank query value' rank')
    (hle : tier.score query rank ≤ tier'.score query rank') : tier.level ≤ tier'.level := by
  by_contra hlt
  have htier : tier' ≠ scattered := by
    rintro rfl
    cases tier <;> exact hlt (by decide)
  have hscore := score_lt hne hlength hrank htier
  have hfloor := tier.le_score query rank
  have hlevel : (tier'.level : Rat) + 1 ≤ tier.level := by exact_mod_cast Nat.lt_of_not_le hlt
  linarith

/-- Within a tier, a lower score is that of a lower rank. -/
lemma rank_lt_of_score_lt (h : tier.score query rank < tier.score query rank') : rank < rank' := by
  cases tier with
  | beginning =>
    have hmissing : ((rank - query.length : Nat) : Rat) < (rank' - query.length : Nat) := by
      simp only [score] at h
      linarith
    have := Nat.cast_lt.mp hmissing
    omega
  | inside => simpa [score] using h
  | scattered => simpa [score] using h

/-- Within a tier, words of equal rank alone have equal scores. -/
lemma rank_eq_of_score_eq (htier : of? query value = some tier) (hrank : tier.Rank query value rank)
    (htier' : of? query value' = some tier) (hrank' : tier.Rank query value' rank')
    (h : tier.score query rank = tier.score query rank') : rank = rank' := by
  cases tier with
  | beginning =>
    have hlength := (of?_eq_beginning_iff.mp htier).length_le
    have hlength' := (of?_eq_beginning_iff.mp htier').length_le
    have hmissing : ((rank - query.length : Nat) : Rat) = (rank' - query.length : Nat) := by
      simp only [score] at h
      linarith
    have := Nat.cast_inj.mp hmissing
    rw [← hrank] at hlength
    rw [← hrank'] at hlength'
    omega
  | inside => simpa [score] using h
  | scattered => simpa [score] using h

end Tier

/-! ## Listing by tier -/

/-- How what is typed is found in a word, letter case aside. -/
def tierOf? (stem word : String) : Option Tier :=
  Tier.of? (Text.lowercaseChars stem.toList) (Text.lowercaseChars word.toList)

/-- Whether words of one tier are listed by rank, and by label where ranks are equal. -/
def RankedBy (stem : String) (tier : Tier) (words : List String) : Prop :=
  words.Pairwise fun first second => ∀ rank rank',
    tier.Rank (Text.lowercaseChars stem.toList) (Text.lowercaseChars first.toList) rank →
    tier.Rank (Text.lowercaseChars stem.toList) (Text.lowercaseChars second.toList) rank' →
      rank < rank' ∨ rank = rank' ∧ Text.precedes first second = true

/-- Where a key never falls along a list, what has a low key comes first. -/
lemma eq_filter_append_filter {α : Type} {key : α → Nat} {l : List α}
    (h : l.Pairwise fun a b => key a ≤ key b) (n : Nat) :
    l = l.filter (key · < n) ++ l.filter (n ≤ key ·) := by
  induction l with
  | nil => rfl
  | cons a l ih =>
    obtain ⟨hfirst, hrest⟩ := List.pairwise_cons.mp h
    by_cases ha : key a < n
    · simpa [ha, Nat.not_le.mpr ha] using ih hrest
    · have hlow : l.filter (key · < n) = [] := by
        simp only [List.filter_eq_nil_iff, decide_eq_true_eq]
        exact fun b hb hlt => ha ((hfirst b hb).trans_lt hlt)
      have hhigh : l.filter (n ≤ key ·) = l := by
        simp only [List.filter_eq_self, decide_eq_true_eq]
        exact fun b hb => (Nat.not_lt.mp ha).trans (hfirst b hb)
      simp [ha, Nat.not_lt.mp ha, hlow, hhigh]

/-- Whether one word that matches may be listed in front of another: by score, and by label where
scores are equal. -/
def ListedBefore (stem first second : String) : Prop :=
  ∀ score score', scoreOf stem first = some score → scoreOf stem second = some score' →
    score < score' ∨ score = score' ∧ Text.precedes first second = true

section

variable {stem word first second : String} {tier tier' : Tier} {rank rank' : Nat}

lemma isSome_tierOf?_iff :
    (tierOf? stem word).isSome = true ↔ (scoreOf stem word).isSome = true := by
  rw [tierOf?, Tier.isSome_of?_iff, isSome_scoreOf_iff]

variable (hstem : stem ≠ "")

include hstem

lemma lowercaseChars_ne_nil : Text.lowercaseChars stem.toList ≠ [] := by
  rwa [Ne, Text.lowercaseChars_eq_nil_iff, String.toList_eq_nil_iff]

lemma exists_rank_of_tierOf?_eq_some (h : tierOf? stem word = some tier) :
    ∃ rank, tier.Rank (Text.lowercaseChars stem.toList) (Text.lowercaseChars word.toList) rank ∧
      scoreOf stem word = some (tier.score (Text.lowercaseChars stem.toList) rank) :=
  Tier.exists_rank_of_of?_eq_some (lowercaseChars_ne_nil hstem) h

/-- Of words that are not much longer than the stem, none is listed in front of one of an earlier
tier. -/
lemma ListedBefore.level_le (h : ListedBefore stem first second)
    (hlength : (Text.lowercaseChars second.toList).length <
      (Text.lowercaseChars stem.toList).length + 20)
    (htier : tierOf? stem first = some tier) (htier' : tierOf? stem second = some tier') :
    tier.level ≤ tier'.level := by
  obtain ⟨rank, hrank, hscore⟩ := exists_rank_of_tierOf?_eq_some hstem htier
  obtain ⟨rank', hrank', hscore'⟩ := exists_rank_of_tierOf?_eq_some hstem htier'
  have hle : tier.score (Text.lowercaseChars stem.toList) rank ≤
      tier'.score (Text.lowercaseChars stem.toList) rank' := by
    rcases h _ _ hscore hscore' with hlt | ⟨heq, -⟩
    · exact hlt.le
    · exact heq.le
  exact Tier.level_le_of_score_le (lowercaseChars_ne_nil hstem) hlength hrank' hle

/-- Words of one tier are listed by rank. -/
lemma ListedBefore.rank_lt_or (h : ListedBefore stem first second)
    (htier : tierOf? stem first = some tier) (htier' : tierOf? stem second = some tier)
    (hrank : tier.Rank (Text.lowercaseChars stem.toList) (Text.lowercaseChars first.toList) rank)
    (hrank' : tier.Rank (Text.lowercaseChars stem.toList) (Text.lowercaseChars second.toList)
      rank') :
    rank < rank' ∨ rank = rank' ∧ Text.precedes first second = true := by
  obtain ⟨found, hfound, hscore⟩ := exists_rank_of_tierOf?_eq_some hstem htier
  obtain ⟨found', hfound', hscore'⟩ := exists_rank_of_tierOf?_eq_some hstem htier'
  obtain rfl := hrank.eq hfound
  obtain rfl := hrank'.eq hfound'
  rcases h _ _ hscore hscore' with hlt | ⟨heq, hlabel⟩
  · exact .inl (Tier.rank_lt_of_score_lt hlt)
  · exact .inr ⟨Tier.rank_eq_of_score_eq htier hrank htier' hrank' heq, hlabel⟩

variable {words : List String} (hlisted : words.Pairwise (ListedBefore stem))

include hlisted

lemma rankedBy_filter (tier : Tier) :
    RankedBy stem tier (words.filter (tierOf? stem · = some tier)) := by
  refine (hlisted.filter _).imp_of_mem fun {first second} hfirst hsecond h rank rank' => ?_
  have htier : tierOf? stem first = some tier := by simpa using (List.mem_filter.mp hfirst).2
  have htier' : tierOf? stem second = some tier := by simpa using (List.mem_filter.mp hsecond).2
  exact h.rank_lt_or hstem htier htier'

/-- Words that match and are not much longer than the stem are listed tier by tier. -/
lemma eq_append_filter_of_pairwise
    (hmatch : ∀ word ∈ words, (scoreOf stem word).isSome = true)
    (hlength : ∀ word ∈ words, (Text.lowercaseChars word.toList).length <
      (Text.lowercaseChars stem.toList).length + 20) :
    words = words.filter (tierOf? stem · = some .beginning) ++
      (words.filter (tierOf? stem · = some .inside) ++
        words.filter (tierOf? stem · = some .scattered)) := by
  let level : String → Nat := fun word => (tierOf? stem word).elim 0 Tier.level
  have htiers : ∀ word ∈ words, ∃ tier, tierOf? stem word = some tier := fun word hmem =>
    Option.isSome_iff_exists.mp (isSome_tierOf?_iff.mpr (hmatch word hmem))
  have hlevels : words.Pairwise fun first second => level first ≤ level second := by
    refine hlisted.imp_of_mem fun {first second} hfirst hsecond h => ?_
    obtain ⟨tier, htier⟩ := htiers first hfirst
    obtain ⟨tier', htier'⟩ := htiers second hsecond
    have hle := h.level_le hstem (hlength second hsecond) htier htier'
    simpa only [level, htier, htier', Option.elim_some] using hle
  have hsame : ∀ word ∈ words,
      decide (level word < 1) = decide (tierOf? stem word = some .beginning) ∧
      (decide (level word < 2) && decide (1 ≤ level word)) =
        decide (tierOf? stem word = some .inside) ∧
      (decide (2 ≤ level word) && decide (1 ≤ level word)) =
        decide (tierOf? stem word = some .scattered) := by
    intro word hmem
    obtain ⟨tier, htier⟩ := htiers word hmem
    simp only [level, htier, Option.elim_some]
    cases tier <;> decide
  calc words
      = words.filter (level · < 1) ++ words.filter (1 ≤ level ·) :=
        eq_filter_append_filter hlevels 1
    _ = words.filter (level · < 1) ++ ((words.filter (1 ≤ level ·)).filter (level · < 2) ++
          (words.filter (1 ≤ level ·)).filter (2 ≤ level ·)) := by
        rw [← eq_filter_append_filter (hlevels.filter _) 2]
    _ = _ := by
        rw [List.filter_filter, List.filter_filter,
          List.filter_congr fun word hmem => (hsame word hmem).1,
          List.filter_congr fun word hmem => (hsame word hmem).2.1,
          List.filter_congr fun word hmem => (hsame word hmem).2.2]

end

namespace Suggestion

variable (candidates : List String) (slot : Slot) (kind : SuggestionKind)
  (describe : String → Option String)

/-- Every candidate that matches is listed as often as it is a candidate. -/
lemma perm_map_label_values :
    ((values candidates slot kind describe).map (·.label)).Perm
      (candidates.filter fun candidate => (scoreOf slot.stem candidate).isSome) := by
  have hlabels : (candidates.filterMap fun candidate =>
      match? slot kind candidate (describe candidate)).map (·.label) =
        candidates.filter fun candidate => (scoreOf slot.stem candidate).isSome := by
    induction candidates with
    | nil => rfl
    | cons candidate candidates ih =>
      cases hscore : scoreOf slot.stem candidate <;> simp [match?, hscore] at ih ⊢ <;> exact ih
  rw [← hlabels]
  exact (List.mergeSort_perm _ _).map _

lemma pairwise_map_label_values :
    ((values candidates slot kind describe).map (·.label)).Pairwise (ListedBefore slot.stem) := by
  rw [List.pairwise_map]
  refine (pairwise_sorted _).imp_of_mem fun {first second} hfirst hsecond h => ?_
  intro score score' hscore hscore'
  obtain ⟨_, -, found, hfound, rfl⟩ := mem_values_iff.mp hfirst
  obtain ⟨_, -, found', hfound', rfl⟩ := mem_values_iff.mp hsecond
  obtain rfl := Option.some.inj (hscore.symm.trans hfound)
  obtain rfl := Option.some.inj (hscore'.symm.trans hfound')
  exact precedes_iff.mp h

/-- What is typed matches a word exactly if its characters occur in the word in order, letter case
aside.  Values that are less than twenty characters longer than what is typed are listed in three
parts: those that begin with it, short ones first; then the others that contain it, those first that
have it further in front; and then the other ones that match, those first that skip the fewest
characters.  Where that is equal, they are listed by label.  So every value that matches is listed
as often as it is a candidate, and no other is. -/
theorem scoreOf_eq_none_iff_and_exists_tiers :
    (∀ stem word, scoreOf stem word = none ↔
      ¬ (Text.lowercaseChars stem.toList).Sublist (Text.lowercaseChars word.toList)) ∧
    ∀ (candidates : List String) (slot : Slot) (kind : SuggestionKind)
      (describe : String → Option String), slot.stem ≠ "" →
      (∀ candidate ∈ candidates, (Text.lowercaseChars candidate.toList).length <
        (Text.lowercaseChars slot.stem.toList).length + 20) →
      ∃ words : Tier → List String,
        (values candidates slot kind describe).map (·.label) =
          words .beginning ++ words .inside ++ words .scattered ∧
        (∀ tier, RankedBy slot.stem tier (words tier) ∧ (words tier).Perm
          (candidates.filter fun candidate => tierOf? slot.stem candidate = some tier)) ∧
        ((values candidates slot kind describe).map (·.label)).Perm
          (candidates.filter fun candidate => (scoreOf slot.stem candidate).isSome) ∧
        ∀ suggestion ∈ values candidates slot kind describe,
          match? slot kind suggestion.label (describe suggestion.label) = some suggestion := by
  constructor
  · intro stem word
    rw [← isSome_scoreOf_iff, Bool.not_eq_true, Option.isSome_eq_false_iff,
      Option.isNone_iff_eq_none]
  · intro candidates slot kind describe hstem hlength
    have hperm := perm_map_label_values candidates slot kind describe
    have hlisted := pairwise_map_label_values candidates slot kind describe
    generalize (values candidates slot kind describe).map (·.label) = labels at hperm hlisted ⊢
    have hmem : ∀ word ∈ labels, word ∈ candidates ∧ (scoreOf slot.stem word).isSome = true :=
      fun word hword => List.mem_filter.mp (hperm.mem_iff.mp hword)
    refine ⟨fun tier => labels.filter (tierOf? slot.stem · = some tier), ?_, fun tier => ⟨?_, ?_⟩,
      hperm, ?_⟩
    · rw [List.append_assoc]
      exact eq_append_filter_of_pairwise hstem hlisted (fun word hword => (hmem word hword).2)
        fun word hword => hlength word (hmem word hword).1
    · exact rankedBy_filter hstem hlisted tier
    · -- a word that is in a tier matches
      have hsame : (candidates.filter fun candidate => (scoreOf slot.stem candidate).isSome).filter
          (tierOf? slot.stem · = some tier) =
            candidates.filter (tierOf? slot.stem · = some tier) := by
        rw [List.filter_filter]
        refine List.filter_congr fun candidate _ => ?_
        cases htier : tierOf? slot.stem candidate <;>
          simp [← isSome_tierOf?_iff, htier]
      rw [← hsame]
      exact hperm.filter _
    · intro suggestion hsuggestion
      obtain ⟨candidate, -, score, hscore, rfl⟩ := mem_values_iff.mp hsuggestion
      exact match?_eq_some_iff.mpr ⟨score, hscore, rfl⟩

/-- Words of all three tiers, one of them the stem itself in capitals, one that is a candidate twice
and one that does not match. -/
theorem exists_tiers_claude :
    let candidates := ["Cool", "Uncle", "claude", "gpt-4o", "CL", "Cool", "cold"]
    let slot : Slot := ⟨"cl", 7, 9⟩
    slot.stem ≠ "" ∧
      (∀ candidate ∈ candidates, (Text.lowercaseChars candidate.toList).length <
        (Text.lowercaseChars slot.stem.toList).length + 20) ∧
      ∃ words : Tier → List String,
        (values candidates slot .argument fun _ => none).map (·.label) =
          words .beginning ++ words .inside ++ words .scattered ∧
        (∀ tier, RankedBy slot.stem tier (words tier)) ∧
        (words .beginning).Perm ["claude", "CL"] ∧ (words .inside).Perm ["Uncle"] ∧
        (words .scattered).Perm ["Cool", "Cool", "cold"] := by
  intro candidates slot
  have hstem : slot.stem ≠ "" := by decide
  have hlength : ∀ candidate ∈ candidates, (Text.lowercaseChars candidate.toList).length <
      (Text.lowercaseChars slot.stem.toList).length + 20 := by decide +kernel
  have htier : ∀ tier, (candidates.filter fun candidate =>
      tierOf? slot.stem candidate = some tier) =
        match tier with
        | .beginning => ["claude", "CL"]
        | .inside => ["Uncle"]
        | .scattered => ["Cool", "Cool", "cold"] := by
    intro tier
    cases tier <;> decide +kernel
  obtain ⟨words, hwords, hparts, -⟩ :=
    scoreOf_eq_none_iff_and_exists_tiers.2 candidates slot .argument (fun _ => none) hstem hlength
  have hperm : ∀ tier, (words tier).Perm _ := fun tier => htier tier ▸ (hparts tier).2
  exact ⟨hstem, hlength, words, hwords, fun tier => (hparts tier).1, hperm .beginning,
    hperm .inside, hperm .scattered⟩

end Suggestion

end SlashCommand
