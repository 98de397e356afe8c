import Mathlib.Data.List.Forall2
import Mathlib.Order.Bounds.Basic
import SlashCommand.Proofs.Score.Matching

/-!
# The fewest characters skipped

The characters of a query may be found in a word in many ways, each of them a list of ascending
places (`FoundAt`).  The gap is what the way costs that takes every character as early as it can:
the characters that are skipped in front of the first one and between one and the next.

No way costs less.  The greedy way is nowhere behind any other one (`Earliest`): a way that passes
over a place where the next character could be taken comes to its own place for it later, and what
it finds from there on can be found from the earlier place as well.  And the cost of a way is a
matter of its last place alone, since the characters up to there are either found or skipped
(`skippedFrom_add_length`).
-/

namespace SlashCommand

/-- Whether the characters of `query` are found in `value` at some places, one behind the other. -/
structure FoundAt (query value : List Char) (places : List Nat) : Prop where
  ascending : places.Pairwise (· < ·)
  chars : places.map (value[·]?) = query.map some

/-- Whether the characters of `query` are found at these places, and each of them at no earlier one
in any other way. -/
structure Earliest (query value : List Char) (places : List Nat) : Prop
    extends FoundAt query value places where
  le_of_foundAt : ∀ others, FoundAt query value others → List.Forall₂ (· ≤ ·) places others

/-- The number of characters from `next` on that are skipped on the way over some places. -/
def skippedFrom (next : Nat) : (places : List Nat) → Nat
  | [] => 0
  | place :: places => (place - next) + skippedFrom (place + 1) places

/-- The number of characters that are skipped in front of the first of some places and between one
of them and the next. -/
def skipped (places : List Nat) : Nat :=
  skippedFrom 0 places

/-! ## Where characters are found -/

section

variable {query value : List Char} {q v : Char} {places : List Nat}

lemma FoundAt.length_eq (h : FoundAt query value places) : places.length = query.length := by
  simpa using congrArg List.length h.chars

lemma foundAt_nil_iff : FoundAt [] value places ↔ places = [] := by
  constructor
  · intro h
    exact List.length_eq_zero_iff.mp h.length_eq
  · rintro rfl
    exact ⟨.nil, rfl⟩

/-- Without the first character, the others are still found where they were. -/
lemma FoundAt.tail {place : Nat} (h : FoundAt (q :: query) value (place :: places)) :
    FoundAt query value places where
  ascending := (List.pairwise_cons.mp h.ascending).2
  chars := (List.cons.inj h.chars).2

/-- Behind one more character, all places are one further on. -/
lemma FoundAt.map_succ (h : FoundAt query value places) (v : Char) :
    FoundAt query (v :: value) (places.map (· + 1)) where
  ascending := List.pairwise_map.mpr (h.ascending.imp fun hlt => Nat.succ_lt_succ hlt)
  chars := by
    rw [List.map_map, ← h.chars]
    rfl

/-- A first character is found where it stands. -/
lemma FoundAt.cons (h : FoundAt query value places) (c : Char) :
    FoundAt (c :: query) (c :: value) (0 :: places.map (· + 1)) where
  ascending := by
    refine List.pairwise_cons.mpr ⟨?_, (h.map_succ c).ascending⟩
    intro place hplace
    obtain ⟨place', -, rfl⟩ := List.mem_map.mp hplace
    exact Nat.succ_pos place'
  chars := by
    rw [List.map_cons, (h.map_succ c).chars]
    rfl

/-- Places that are all behind the first character are places behind it. -/
lemma FoundAt.exists_of_pos (h : FoundAt query (v :: value) places)
    (hpos : ∀ place ∈ places, 0 < place) :
    ∃ places', places = places'.map (· + 1) ∧ FoundAt query value places' := by
  have hplaces : places = (places.map (· - 1)).map (· + 1) := by
    rw [List.map_map]
    refine (List.map_id places).symm.trans (List.map_congr_left fun place hplace => ?_)
    exact (Nat.sub_add_cancel (hpos place hplace)).symm
  refine ⟨places.map (· - 1), hplaces, ?_, ?_⟩
  · have hascending := h.ascending
    rw [hplaces, List.pairwise_map] at hascending
    exact hascending.imp fun hlt => Nat.lt_of_succ_lt_succ hlt
  · have hchars := h.chars
    rw [hplaces, List.map_map] at hchars
    exact hchars

/-- A query is found in a word with its first character at the beginning, or all of it behind. -/
lemma FoundAt.cases_cons (h : FoundAt (q :: query) (v :: value) places) :
    (q = v ∧ ∃ places', places = 0 :: places'.map (· + 1) ∧ FoundAt query value places') ∨
      ∃ places', places = places'.map (· + 1) ∧ FoundAt (q :: query) value places' := by
  cases places with
  | nil => cases h.chars
  | cons place places =>
    have hbehind := (List.pairwise_cons.mp h.ascending).1
    rcases Nat.eq_zero_or_pos place with rfl | hpos
    · have hfirst : v = q := Option.some.inj (List.cons.inj h.chars).1
      obtain ⟨places', rfl, hrest⟩ := h.tail.exists_of_pos hbehind
      exact .inl ⟨hfirst.symm, places', rfl, hrest⟩
    · refine .inr (h.exists_of_pos fun other hother => ?_)
      rcases List.mem_cons.mp hother with rfl | hmem
      · exact hpos
      · exact hpos.trans (hbehind other hmem)

end

/-! ## The characters skipped -/

lemma skippedFrom_succ_map (next : Nat) (places : List Nat) :
    skippedFrom (next + 1) (places.map (· + 1)) = skippedFrom next places := by
  induction places generalizing next with
  | nil => rfl
  | cons place places ih =>
    rw [List.map_cons, skippedFrom, skippedFrom, ih, Nat.add_sub_add_right]

/-- In front of a first character that is found where it stands, nothing is skipped. -/
lemma skipped_zero_cons (places : List Nat) :
    skipped (0 :: places.map (· + 1)) = skipped places := by
  rw [skipped, skippedFrom, skippedFrom_succ_map, Nat.sub_zero, Nat.zero_add, skipped]

/-- Behind one more character that is not taken, one more is skipped. -/
lemma skipped_map_succ {places : List Nat} (hne : places ≠ []) :
    skipped (places.map (· + 1)) = skipped places + 1 := by
  obtain ⟨place, places, rfl⟩ := List.exists_cons_of_ne_nil hne
  rw [skipped, skipped, List.map_cons, skippedFrom, skippedFrom, skippedFrom_succ_map]
  omega

/-- Up to the last of some ascending places, every character is at one of them or skipped. -/
lemma skippedFrom_add_length {next : Nat} {places : List Nat}
    (hascending : places.Pairwise (· < ·)) (hnext : ∀ place ∈ places, next ≤ place) :
    next + skippedFrom next places + places.length = places.getLast?.elim next (· + 1) := by
  induction places generalizing next with
  | nil => rfl
  | cons place places ih =>
    obtain ⟨hbehind, hrest⟩ := List.pairwise_cons.mp hascending
    have hplace : next ≤ place := hnext place List.mem_cons_self
    have hlast : place + 1 + skippedFrom (place + 1) places + places.length =
        places.getLast?.getD place + 1 := by
      rw [ih hrest hbehind]
      cases places.getLast? <;> rfl
    rw [skippedFrom, List.length_cons, List.getLast?_cons, Option.elim_some, ← hlast]
    omega

/-- On a way with earlier places, no more characters are skipped. -/
lemma skippedFrom_le {next next' : Nat} {places others : List Nat}
    (hle : List.Forall₂ (· ≤ ·) places others) (hascending : places.Pairwise (· < ·))
    (hnext : ∀ place ∈ places, next ≤ place) (hascending' : others.Pairwise (· < ·))
    (hnext' : ∀ other ∈ others, next' ≤ other) (hstart : next ≤ next') :
    next + skippedFrom next places ≤ next' + skippedFrom next' others := by
  induction hle generalizing next next' with
  | nil => exact hstart
  | @cons place other places others hplace hrest ih =>
    obtain ⟨hbehind, hplaces⟩ := List.pairwise_cons.mp hascending
    obtain ⟨hbehind', hothers⟩ := List.pairwise_cons.mp hascending'
    have hfirst : next ≤ place := hnext place List.mem_cons_self
    have hfirst' : next' ≤ other := hnext' other List.mem_cons_self
    have hskipped : place + 1 + skippedFrom (place + 1) places ≤
        other + 1 + skippedFrom (other + 1) others :=
      ih hplaces hbehind hothers hbehind' (Nat.succ_le_succ hplace)
    rw [skippedFrom, skippedFrom]
    omega

variable {query value : List Char} {places : List Nat}

/-- No way skips fewer characters than the earliest. -/
lemma Earliest.skipped_le (h : Earliest query value places) {others : List Nat}
    (hothers : FoundAt query value others) : skipped places ≤ skipped others := by
  have hle := skippedFrom_le (h.le_of_foundAt others hothers) h.ascending
    (fun place _ => Nat.zero_le place) hothers.ascending (fun other _ => Nat.zero_le other) le_rfl
  rwa [Nat.zero_add, Nat.zero_add] at hle

/-! ## The greedy way -/

lemma earliest_nil (value : List Char) : Earliest [] value [] where
  toFoundAt := foundAt_nil_iff.mpr rfl
  le_of_foundAt := by
    intro others hothers
    rw [foundAt_nil_iff.mp hothers]
    exact .nil

lemma forall₂_map_succ {others : List Nat} (h : List.Forall₂ (· ≤ ·) places others) :
    List.Forall₂ (· ≤ ·) (places.map (· + 1)) (others.map (· + 1)) := by
  rw [List.forall₂_map_left_iff, List.forall₂_map_right_iff]
  exact h.imp fun _ _ hle => Nat.succ_le_succ hle

/-- Where the first character can be taken at once, nothing is lost by doing so. -/
lemma Earliest.cons (h : Earliest query value places) (c : Char) :
    Earliest (c :: query) (c :: value) (0 :: places.map (· + 1)) where
  toFoundAt := h.toFoundAt.cons c
  le_of_foundAt := by
    intro others hothers
    rcases hothers.cases_cons with ⟨-, others', rfl, hrest⟩ | ⟨others', rfl, hrest⟩
    · exact .cons le_rfl (forall₂_map_succ (h.le_of_foundAt others' hrest))
    · -- what the other way finds behind its own first place can be found from the start
      cases others' with
      | nil => cases hrest.chars
      | cons other others' =>
        exact .cons (Nat.zero_le _) (forall₂_map_succ (h.le_of_foundAt others' hrest.tail))

lemma Earliest.map_succ {q v : Char} (h : Earliest (q :: query) value places) (hne : q ≠ v) :
    Earliest (q :: query) (v :: value) (places.map (· + 1)) where
  toFoundAt := h.toFoundAt.map_succ v
  le_of_foundAt := by
    intro others hothers
    rcases hothers.cases_cons with ⟨heq, -⟩ | ⟨others', rfl, hrest⟩
    · exact absurd heq hne
    · exact forall₂_map_succ (h.le_of_foundAt others' hrest)

/-- The gap is what is skipped on the earliest way. -/
theorem exists_earliest_of_gap?_eq_some {gap : Nat} (h : gap? query value = some gap) :
    ∃ places, Earliest query value places ∧ skipped places = gap := by
  induction value generalizing query gap with
  | nil =>
    cases query with
    | nil => exact ⟨[], earliest_nil [], Option.some.inj h⟩
    | cons q query => cases h
  | cons v value ih =>
    cases query with
    | nil => exact ⟨[], earliest_nil (v :: value), Option.some.inj h⟩
    | cons q query =>
      rw [gap?] at h
      split_ifs at h with hfound
      · obtain ⟨places, hplaces, rfl⟩ := ih h
        exact ⟨_, hfound ▸ hplaces.cons q, skipped_zero_cons places⟩
      · obtain ⟨gap, hgap, rfl⟩ := Option.map_eq_some_iff.mp h
        obtain ⟨places, hplaces, rfl⟩ := ih hgap
        refine ⟨_, hplaces.map_succ hfound, skipped_map_succ ?_⟩
        rintro rfl
        cases hplaces.chars

/-- The gap is the fewest characters that can be skipped, although every character is taken as early
as it can.  There is none exactly if the query does not occur in the word in order.  Otherwise no
way to find the query skips fewer characters, the earliest one skips as many, and unless the query
is empty, they are the characters up to its last place without those of the query. -/
theorem gap?_eq_none_iff_and_isLeast (query value : List Char) :
    (gap? query value = none ↔ ¬ query.Sublist value) ∧
    ∀ gap, gap? query value = some gap →
      IsLeast {count | ∃ places, FoundAt query value places ∧ skipped places = count} gap ∧
      ∃ places, Earliest query value places ∧ skipped places = gap ∧
        (query ≠ [] → ∃ last, places.getLast? = some last ∧ gap + query.length = last + 1) := by
  constructor
  · rw [← isSome_gap?_iff, Bool.not_eq_true, Option.isSome_eq_false_iff, Option.isNone_iff_eq_none]
  · intro gap hgap
    obtain ⟨places, hplaces, rfl⟩ := exists_earliest_of_gap?_eq_some hgap
    refine ⟨⟨⟨places, hplaces.toFoundAt, rfl⟩, ?_⟩, places, hplaces, rfl, ?_⟩
    · rintro count ⟨others, hothers, rfl⟩
      exact hplaces.skipped_le hothers
    · intro hne
      have hlength := skippedFrom_add_length hplaces.ascending fun place _ => Nat.zero_le place
      rw [Nat.zero_add, hplaces.length_eq] at hlength
      cases hlast : places.getLast? with
      | none =>
        rw [List.getLast?_eq_none_iff] at hlast
        subst hlast
        exact absurd (List.length_eq_zero_iff.mp hplaces.length_eq.symm) hne
      | some last =>
        rw [hlast] at hlength
        exact ⟨last, rfl, hlength⟩

/-- The greedy way takes the first of two characters that would do. -/
example : gap? ['a', 'c'] ['x', 'a', 'a', 'b', 'c'] = some 3 := by decide

end SlashCommand
