import Mathlib.Data.List.Nodup
import Mathlib.Data.List.Perm.Basic
import SlashCommand.Proofs.Completion.Offer
import SlashCommand.Proofs.Walk.Move

/-!
# Which flags are on offer

Flags of one name, letter case aside, can become available more than once, from the command and
from several nodes on the way down, and some of them may be repeatable where others are not.  The
first of them that may still be given is on offer, and no second one.  So each name is on offer at
most once (`nodup_map_key_offered`), a name that was not given is (`exists_mem_offered`), and one
that was given is only as a repeatable flag (`mem_offered`).

What was given is never forgotten, so the last holds in all later states of a walk as well.
-/

namespace SlashCommand

open Grammar (Command Flag)

namespace Suggestion

/-! ## The flags that may be given -/

variable {used seen : List String} {flag : Flag} {flags : List Flag}

/-- What is offered is one of the flags, has not been met before, and was not given unless it is
repeatable. -/
lemma mem_offered (h : flag ∈ offered used seen flags) :
    flag ∈ flags ∧ flag.key ∉ seen ∧ (flag.key ∈ used → flag.repeatable = true) := by
  induction flags generalizing seen with
  | nil => exact nomatch h
  | cons first flags ih =>
    rw [offered] at h
    split_ifs at h with hskip
    · obtain ⟨hmem, hseen, hused⟩ := ih h
      exact ⟨List.mem_cons_of_mem first hmem, hseen, hused⟩
    · rcases List.mem_cons.mp h with rfl | hrest
      · obtain ⟨hseen, hused⟩ :
            flag.key ∉ seen ∧ (flag.key ∈ used → flag.repeatable = true) := by
          simpa using hskip
        exact ⟨List.mem_cons_self, hseen, hused⟩
      · obtain ⟨hmem, hseen, hused⟩ := ih hrest
        exact ⟨List.mem_cons_of_mem first hmem, List.not_mem_of_not_mem_cons hseen, hused⟩

/-- No two of the flags that are offered have one name. -/
lemma nodup_map_key_offered (used seen : List String) (flags : List Flag) :
    ((offered used seen flags).map Flag.key).Nodup := by
  induction flags generalizing seen with
  | nil => exact List.nodup_nil
  | cons first flags ih =>
    rw [offered]
    split_ifs with hskip
    · exact ih seen
    · rw [List.map_cons, List.nodup_cons]
      refine ⟨?_, ih (first.key :: seen)⟩
      intro hmem
      obtain ⟨other, hother, hkey⟩ := List.mem_map.mp hmem
      exact (mem_offered hother).2.1 (hkey ▸ List.mem_cons_self)

/-- The name of a flag that was neither given nor met before is offered. -/
lemma exists_mem_offered (h : flag ∈ flags) (hseen : flag.key ∉ seen) (hused : flag.key ∉ used) :
    ∃ first ∈ offered used seen flags, first.key = flag.key := by
  induction flags generalizing seen with
  | nil => exact nomatch h
  | cons first flags ih =>
    rw [offered]
    by_cases hkey : first.key = flag.key
    · -- nothing holds the first flag of the name back
      rw [if_neg (by simp [hkey, hseen, hused])]
      exact ⟨first, List.mem_cons_self, hkey⟩
    · have hrest : flag ∈ flags := by
        rcases List.mem_cons.mp h with rfl | hrest
        · exact absurd rfl hkey
        · exact hrest
      split_ifs with hskip
      · exact ih hrest hseen
      · have hseen' : flag.key ∉ first.key :: seen := by
          rw [List.mem_cons, not_or]
          exact ⟨Ne.symm hkey, hseen⟩
        obtain ⟨found, hfound, hname⟩ := ih hrest hseen'
        exact ⟨found, List.mem_cons_of_mem first hfound, hname⟩

/-! ## The suggestions -/

variable {available : List Flag} {slot : Slot} {penalty : Penalty} {suggestion : Suggestion}

/-- Letter case does not matter for a score. -/
lemma scoreOf_eq_of_lowercase_eq {first second : String}
    (h : Text.lowercase first = Text.lowercase second) (stem : String) :
    scoreOf stem first = scoreOf stem second := by
  have hchars := congrArg String.toList h
  rw [Text.toList_lowercase, Text.toList_lowercase] at hchars
  rw [scoreOf, scoreOf, hchars]

/-- The labels on offer are the names of the flags that are offered and match the stem. -/
lemma map_label_flags_perm (available : List Flag) (used : List String) (slot : Slot)
    (penalty : Penalty) :
    ((Suggestion.flags available used slot penalty).map (Text.lowercase ·.label)).Perm
      (((offered used [] available).filter fun flag =>
        (scoreOf slot.stem flag.name).isSome).map Flag.key) := by
  refine ((List.mergeSort_perm _ _).map _).trans (List.Perm.of_eq ?_)
  induction offered used [] available with
  | nil => rfl
  | cons flag flags ih =>
    cases hscore : scoreOf slot.stem flag.name with
    | none =>
      have hmatch : match? slot .flag flag.name flag.description = none := by
        rw [match?, hscore]
        rfl
      simp [hmatch, hscore, ih]
    | some score =>
      have hmatch : match? slot .flag flag.name flag.description =
          some ⟨flag.name, flag.name, .flag, score, slot.start, slot.stop, flag.description⟩ := by
        rw [match?, hscore]
        rfl
      simp [hmatch, hscore, ih, Flag.key]

/-- A label on offer is the name of an available flag that was not given or is repeatable. -/
lemma exists_flag_of_mem_flags (h : suggestion ∈ Suggestion.flags available used slot penalty) :
    ∃ flag ∈ available, flag.name = suggestion.label ∧
      (flag.key ∈ used → flag.repeatable = true) := by
  obtain ⟨flag, hflag, score, -, rfl⟩ := mem_flags_iff.mp h
  obtain ⟨hmem, -, hused⟩ := mem_offered hflag
  exact ⟨flag, hmem, rfl, hused⟩

/-- Letter case aside, no label is on offer twice. -/
lemma nodup_map_label_flags (available : List Flag) (used : List String) (slot : Slot)
    (penalty : Penalty) :
    ((Suggestion.flags available used slot penalty).map (Text.lowercase ·.label)).Nodup := by
  rw [(map_label_flags_perm available used slot penalty).nodup_iff]
  exact (nodup_map_key_offered used [] available).sublist (List.filter_sublist.map Flag.key)

/-- The name of an available flag that was not given and matches the stem is on offer once. -/
lemma count_map_label_flags (h : flag ∈ available) (hused : flag.key ∉ used)
    (hscore : (scoreOf slot.stem flag.name).isSome = true) :
    ((Suggestion.flags available used slot penalty).map (Text.lowercase ·.label)).count
      flag.key = 1 := by
  obtain ⟨first, hfirst, hkey⟩ := exists_mem_offered h List.not_mem_nil hused
  have hmatches : (scoreOf slot.stem first.name).isSome = true := by
    rwa [scoreOf_eq_of_lowercase_eq hkey]
  refine List.count_eq_one_of_mem (nodup_map_label_flags available used slot penalty) ?_
  rw [(map_label_flags_perm available used slot penalty).mem_iff, ← hkey]
  exact List.mem_map_of_mem (List.mem_filter.mpr ⟨hfirst, hmatches⟩)

end Suggestion

namespace Walk

/-! ## Behind a walk -/

/-- Flags that were given are not offered again, and nothing else is withheld.  Once a word of a
walk has given a flag, the flag's name is offered in a later state only if a flag of that name is
available there that is repeatable.  In every state, and for everything that may be typed there,
no name is offered twice, and the name of an available flag that was not given is offered once if
it matches.  Letter case is left aside throughout. -/
theorem repeatable_and_count_flags_along (command : Command) :
    (∀ (before : List String) (word : String) (after : List String) (flag : Flag),
      (along command before).freeText = false → (along command before).pending = none →
      Grammar.isDashed word = true → Gives (along command before).availableFlags word flag →
      let later := along command (before ++ word :: after)
      ∀ (slot : Slot) (penalty : Penalty),
        ∀ suggestion ∈
          Suggestion.flags later.availableFlags later.usedFlags slot penalty,
        Text.lowercase suggestion.label = flag.key →
          ∃ again ∈ later.availableFlags, again.key = flag.key ∧ again.repeatable = true) ∧
    ∀ (words : List String) (slot : Slot) (penalty : Penalty),
      let state := along command words
      let labels := (Suggestion.flags state.availableFlags state.usedFlags slot penalty).map
        (Text.lowercase ·.label)
      labels.Nodup ∧
        ∀ flag ∈ state.availableFlags, flag.key ∉ state.usedFlags →
          (scoreOf slot.stem flag.name).isSome = true → labels.count flag.key = 1 := by
  constructor
  · intro before word after flag hfree hpending hdashed hgives later slot penalty suggestion
      hoffer hlabel
    have hlater : along command (before ++ word :: after) =
        after.foldl step (step (along command before) word) := by
      rw [along, List.foldl_append]
      rfl
    have hused : flag.key ∈ (along command (before ++ word :: after)).usedFlags := by
      rw [hlater]
      exact (grows_foldl _ after).usedFlags_subset
        (hgives.key_mem_usedFlags_step hfree hpending hdashed)
    obtain ⟨again, hmem, hname, hrepeatable⟩ := Suggestion.exists_flag_of_mem_flags hoffer
    have hkey : again.key = flag.key := by rw [Flag.key, hname, hlabel]
    exact ⟨again, hmem, hkey, hrepeatable (hkey ▸ hused)⟩
  · intro words slot penalty
    exact ⟨Suggestion.nodup_map_label_flags _ _ _ _, fun flag hmem hused hscore =>
      Suggestion.count_map_label_flags hmem hused hscore⟩

/-- A flag is given by its alias, in capitals and with a value.  Further down a repeatable flag of
the same name becomes available, and is on offer in its place. -/
theorem repeatable_and_count_flags_along_note :
    let tag : Flag := ⟨{ name := "--tag", kind := .string, aliases := ["-t"] }, rfl⟩
    let tags : Flag := ⟨{ name := "--Tag", kind := .string, repeatable := true }, rfl⟩
    let pinned : Flag := ⟨{ name := "--pinned" }, rfl⟩
    let note : Command :=
      ⟨{ name := "note"
         description := "Keep a note."
         root := [.literal "add" none [tags] []]
         flags := [tag, pinned] }, by decide +kernel⟩
    let later := along note ["-T=home", "add"]
    let offered := Suggestion.flags later.availableFlags later.usedFlags ⟨"--", 18, 20⟩ (.whole 0)
    Gives note.flags "-T=home" tag ∧ later.availableFlags = [tag, pinned, tags] ∧
      later.usedFlags = ["--tag"] ∧
      ⟨"--Tag", "--Tag", .flag, 1003 / 100, 18, 20, none⟩ ∈ offered ∧
      (∃ again ∈ later.availableFlags, again.key = tag.key ∧ again.repeatable = true) ∧
      (offered.map (Text.lowercase ·.label)).Nodup ∧
      (offered.map (Text.lowercase ·.label)).count pinned.key = 1 := by
  intro tag tags pinned note later offered
  have hname : beforeEquals? "-T=home" = some "-T" := by decide +kernel
  have hgives : Gives note.flags "-T=home" tag :=
    .beforeEquals (by decide +kernel) hname (by decide +kernel)
  have havailable : later.availableFlags = [tag, pinned, tags] := by decide +kernel
  have hused : later.usedFlags = ["--tag"] := by decide +kernel
  have hoffer : ⟨"--Tag", "--Tag", .flag, 1003 / 100, 18, 20, none⟩ ∈ offered :=
    Suggestion.mem_flags_iff.mpr
      ⟨tags, by decide +kernel, 1003 / 100, by decide +kernel, by decide +kernel⟩
  obtain ⟨hagain, hcount⟩ := repeatable_and_count_flags_along note
  obtain ⟨hnodup, hone⟩ := hcount ["-T=home", "add"] ⟨"--", 18, 20⟩ (.whole 0)
  refine ⟨hgives, havailable, hused, hoffer, ?_, hnodup, ?_⟩
  · exact hagain [] "-T=home" ["add"] tag rfl rfl (by decide) hgives _ _ _ hoffer
      (by decide +kernel)
  · exact hone pinned (by decide +kernel) (by decide +kernel) (by decide +kernel)

end Walk

end SlashCommand
