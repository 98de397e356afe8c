import Mathlib.Data.List.Basic
import SlashCommand.Proofs.Text.Lowercase
import SlashCommand.Proofs.Text.Strip
import SlashCommand.Submission

/-!
# Words that give flags

A dashed word is long, with two dashes in front, or short, with one.  Either way it is cut at its
first equals sign.  Without one, a long word sets the flag that it names, and a short word sets a
flag for each of its letters; with one, the word gives a value to a single flag, and the name in
front of the sign is that of a long flag or a single letter.  `exists_flagsOf_eq_ok_iff` says
which words are none of this.

A grammar asks less of its flags: a dash, and something behind it.  So what a flag is called and
what its name gives when it is submitted are two things, and `flagsOf_of_mem_names` says how far
they agree.
-/

namespace SlashCommand

open Grammar (Flag isDashed)

/-! ## Flags without values -/

namespace Flags

/-- Flags that are given without values. -/
def plain (names : List String) : Flags :=
  names.map fun name => (name, .set)

lemma give_plain_of_mem {names : List String} {name : String} (h : name ∈ names) :
    (plain names).give (name, .set) = plain names := by
  have hany : (plain names).any (fun other => other.1 == name) = true := by
    simpa [plain] using h
  rw [give, if_pos hany]
  -- the entry that is replaced is the same as the new one
  have hsame : ∀ other ∈ plain names,
      (if other.1 == name then (name, FlagValue.set) else other) = other := by
    intro other hother
    obtain ⟨given, -, rfl⟩ := List.mem_map.mp hother
    by_cases heq : given = name <;> simp [heq]
  exact (List.map_congr_left hsame).trans (List.map_id _)

lemma give_plain_of_not_mem {names : List String} {name : String} (h : name ∉ names) :
    (plain names).give (name, .set) = plain (names ++ [name]) := by
  have hany : ¬ (plain names).any (fun other => other.1 == name) = true := by
    simpa [plain] using h
  rw [give, if_neg hany, plain, plain, List.map_append]
  rfl

/-- Of flags that are given without values, each is kept where it was given first. -/
theorem giveAll_plain (done names : List String) :
    (plain done).giveAll (plain names) = plain (done ++ (names.removeAll done).eraseDups) := by
  induction names generalizing done with
  | nil => simp [plain, giveAll, List.removeAll]
  | cons name names ih =>
    have hstep : (plain done).giveAll (plain (name :: names)) =
        ((plain done).give (name, .set)).giveAll (plain names) := rfl
    by_cases hmem : name ∈ done
    · have hskip : (name :: names).removeAll done = names.removeAll done := by
        simp [List.removeAll, hmem]
      rw [hstep, give_plain_of_mem hmem, ih, hskip]
    · have hkeep : (name :: names).removeAll done = name :: names.removeAll done := by
        simp [List.removeAll, hmem]
      have hrest : names.removeAll (done ++ [name]) =
          (names.removeAll done).filter fun other => !other == name := by
        simp [List.removeAll, List.filter_filter, Bool.and_comm, beq_eq_decide]
      rw [hstep, give_plain_of_not_mem hmem, ih, hkeep, List.eraseDups_cons, hrest,
        List.append_assoc, List.singleton_append]

end Flags

/-! ## Up to the equals sign and behind it -/

lemma ne_equals_of_not_mem {cs : List Char} (h : '=' ∉ cs) : ∀ c ∈ cs, (c != '=') = true := by
  intro c hc
  rw [bne_iff_ne]
  rintro rfl
  exact h hc

section

variable {name value : List Char} (hname : '=' ∉ name)

include hname

lemma takeWhile_ne_equals_append :
    (name ++ '=' :: value).takeWhile (· != '=') = name := by
  rw [List.takeWhile_append_of_pos (ne_equals_of_not_mem hname)]
  simp

lemma dropWhile_ne_equals_append :
    (name ++ '=' :: value).dropWhile (· != '=') = '=' :: value := by
  rw [List.dropWhile_append_of_pos (ne_equals_of_not_mem hname)]
  simp

end

/-! ## Long words and short words -/

variable {word : String} {body letters name value : List Char}

/-- A long word without an equals sign sets one flag, unless it is the two dashes. -/
lemma longFlag_of_not_mem (h : '=' ∉ body) :
    longFlag word body =
      if body = [] then .error .emptyLong
      else .ok [(Text.lowercase (String.ofList body), .set)] := by
  have hdrop : body.dropWhile (· != '=') = [] :=
    List.dropWhile_eq_nil_iff.mpr (ne_equals_of_not_mem h)
  simp only [longFlag, hdrop, List.isEmpty_iff]

/-- A long word with an equals sign gives a value to one flag, unless the name in front of the sign
is blank. -/
lemma longFlag_append (hname : '=' ∉ name) :
    longFlag word (name ++ '=' :: value) =
      if Text.strip (String.ofList name) = "" then .error (.unnamed word)
      else
        .ok [(Text.lowercase (Text.strip (String.ofList name)), .text (String.ofList value))] := by
  simp only [longFlag, takeWhile_ne_equals_append hname, dropWhile_ne_equals_append hname,
    Text.lowercase_eq_empty_iff]

/-- A long word with an equals sign never sets a flag. -/
lemma longFlag_of_mem (h : '=' ∈ body) :
    (∃ fault, longFlag word body = .error fault) ∨
      ∃ name value, longFlag word body = .ok [(name, .text value)] := by
  obtain ⟨name, value, rfl, hname⟩ := List.eq_append_cons_of_mem h
  rw [longFlag_append hname]
  split_ifs
  · exact .inl ⟨_, rfl⟩
  · exact .inr ⟨_, _, rfl⟩

/-- A short word without an equals sign sets a flag for each of its letters. -/
lemma shortFlags_of_not_mem (hne : letters ≠ []) (h : '=' ∉ letters) :
    shortFlags word letters = .ok (Flags.plain (letters.map letterName).eraseDups) := by
  cases letters with
  | nil => exact absurd rfl hne
  | cons first rest =>
    have hhead : (rest.head? == some '=') = false := by
      rw [beq_eq_false_iff_ne]
      exact fun hhead => h (List.mem_cons_of_mem first (List.mem_of_head? hhead))
    have hcontains : ¬ (first :: rest).contains '=' = true := by
      rwa [List.contains_iff_mem]
    have hset : (first :: rest).map (fun c => (letterName c, FlagValue.set)) =
        Flags.plain ((first :: rest).map letterName) := by
      rw [Flags.plain, List.map_map]
      rfl
    have hgive := Flags.giveAll_plain [] ((first :: rest).map letterName)
    rw [List.nil_append, List.removeAll_nil] at hgive
    rw [shortFlags, hhead, Bool.and_false, if_neg Bool.false_ne_true, if_neg hcontains, hset]
    exact congrArg Except.ok hgive

/-- A short word with an equals sign gives a value to one flag if there is exactly one letter in
front of the sign. -/
lemma shortFlags_append (hname : '=' ∉ name) :
    shortFlags word (name ++ '=' :: value) =
      match name with
      | [c] => .ok [(letterName c, .text (String.ofList value))]
      | _ => .error (.clustered word) := by
  have hcontains : (name ++ '=' :: value).contains '=' = true := by simp
  rcases name with _ | ⟨first, _ | ⟨second, rest⟩⟩
  · simp [shortFlags]
  · have hfirst : first ≠ '=' := fun heq => hname (heq ▸ List.mem_singleton_self first)
    simp [shortFlags, hfirst]
  · have hsecond : second ≠ '=' := fun heq =>
      hname (List.mem_cons_of_mem first (heq ▸ List.mem_cons_self))
    simp [shortFlags, hsecond]

/-- A short word with an equals sign never sets a flag. -/
lemma shortFlags_of_mem (h : '=' ∈ letters) :
    (∃ fault, shortFlags word letters = .error fault) ∨
      ∃ name value, shortFlags word letters = .ok [(name, .text value)] := by
  obtain ⟨name, value, rfl, hname⟩ := List.eq_append_cons_of_mem h
  rw [shortFlags_append hname]
  split
  · exact .inr ⟨_, _, rfl⟩
  · exact .inl ⟨_, rfl⟩

/-! ## Dashed words -/

lemma flagsOf_long (h : word.toList = '-' :: '-' :: body) : flagsOf word = longFlag word body := by
  simp only [flagsOf, h]

lemma flagsOf_short (h : word.toList = '-' :: letters) (hfirst : letters.head? ≠ some '-') :
    flagsOf word = shortFlags word letters := by
  unfold flagsOf
  split
  · next hlong =>
    rw [h] at hlong
    rw [(List.cons.inj hlong).2] at hfirst
    exact absurd rfl hfirst
  · rw [h, List.drop_one, List.tail_cons]

/-- A dashed word is long or short. -/
lemma long_or_short (h : isDashed word = true) :
    (∃ body, word.toList = '-' :: '-' :: body) ∨
      ∃ letters, word.toList = '-' :: letters ∧ letters ≠ [] ∧ letters.head? ≠ some '-' := by
  unfold isDashed at h
  split at h
  · next c cs hword =>
    by_cases hc : c = '-'
    · exact .inl ⟨cs, hc ▸ hword⟩
    · refine .inr ⟨c :: cs, hword, List.cons_ne_nil c cs, ?_⟩
      simpa using hc
  · cases h

/-- Whether a dashed word gives no flag. -/
inductive Misflagged : (word : List Char) → Prop
  /-- Two dashes and nothing else. -/
  | bare : Misflagged ['-', '-']
  /-- Nothing but blank characters between two dashes and the first equals sign. -/
  | unnamed {body : List Char} (hequals : '=' ∈ body)
      (hblank : ∀ c ∈ body.takeWhile (· != '='), Text.isBlank c = true) :
      Misflagged ('-' :: '-' :: body)
  /-- One dash, and the first equals sign at another place than the third. -/
  | clustered {letters : List Char} (hfirst : letters.head? ≠ some '-') (hequals : '=' ∈ letters)
      (hplace : ('-' :: letters).idxOf '=' ≠ 2) : Misflagged ('-' :: letters)

lemma misflagged_long_iff :
    Misflagged ('-' :: '-' :: body) ↔
      body = [] ∨ '=' ∈ body ∧ ∀ c ∈ body.takeWhile (· != '='), Text.isBlank c = true := by
  constructor
  · intro h
    cases h with
    | bare => exact .inl rfl
    | unnamed hequals hblank => exact .inr ⟨hequals, hblank⟩
    | clustered hfirst => exact absurd rfl hfirst
  · rintro (rfl | ⟨hequals, hblank⟩)
    · exact .bare
    · exact .unnamed hequals hblank

lemma misflagged_short_iff (hfirst : letters.head? ≠ some '-') :
    Misflagged ('-' :: letters) ↔ '=' ∈ letters ∧ letters.idxOf '=' ≠ 1 := by
  have hplace : ('-' :: letters).idxOf '=' = letters.idxOf '=' + 1 :=
    List.idxOf_cons_ne letters (by decide)
  constructor
  · intro h
    cases h with
    | bare => exact absurd rfl hfirst
    | unnamed => exact absurd rfl hfirst
    | clustered _ hequals hthird => exact ⟨hequals, by omega⟩
  · rintro ⟨hequals, hsecond⟩
    exact .clustered hfirst hequals (by omega)

lemma isDashed_of_misflagged (h : Misflagged word.toList) : isDashed word = true := by
  generalize hchars : word.toList = cs at h
  cases h with
  | bare => simp only [isDashed, hchars]
  | unnamed => simp only [isDashed, hchars]
  | @clustered letters _ hequals _ =>
    cases letters with
    | nil => cases hequals
    | cons first rest => simp only [isDashed, hchars]

lemma exists_longFlag_eq_ok_iff :
    (∃ flags, longFlag word body = .ok flags) ↔ ¬ Misflagged ('-' :: '-' :: body) := by
  rw [misflagged_long_iff]
  by_cases hequals : '=' ∈ body
  · obtain ⟨name, value, rfl, hname⟩ := List.eq_append_cons_of_mem hequals
    have hstrip : Text.strip (String.ofList name) = "" ↔ ∀ c ∈ name, Text.isBlank c = true := by
      rw [Text.strip_eq_empty_iff, String.toList_ofList]
    rw [longFlag_append hname, takeWhile_ne_equals_append hname]
    by_cases hblank : ∀ c ∈ name, Text.isBlank c = true
    · rw [if_pos (hstrip.mpr hblank)]
      refine iff_of_false ?_ (not_not_intro (.inr ⟨hequals, hblank⟩))
      rintro ⟨_, herror⟩
      cases herror
    · rw [if_neg (hstrip.not.mpr hblank)]
      refine iff_of_true ⟨_, rfl⟩ ?_
      rintro (hempty | ⟨-, hall⟩)
      · exact List.append_ne_nil_of_right_ne_nil name (List.cons_ne_nil '=' value) hempty
      · exact hblank hall
  · rw [longFlag_of_not_mem hequals]
    by_cases hempty : body = []
    · simp [hempty]
    · simp [hempty, hequals]

lemma exists_shortFlags_eq_ok_iff (hne : letters ≠ []) (hfirst : letters.head? ≠ some '-') :
    (∃ flags, shortFlags word letters = .ok flags) ↔ ¬ Misflagged ('-' :: letters) := by
  rw [misflagged_short_iff hfirst]
  by_cases hequals : '=' ∈ letters
  · obtain ⟨name, value, rfl, hname⟩ := List.eq_append_cons_of_mem hequals
    have hplace : (name ++ '=' :: value).idxOf '=' = name.length := by
      rw [List.idxOf_append_of_notMem hname, List.idxOf_cons_self, Nat.add_zero]
    rw [shortFlags_append hname, hplace]
    rcases name with _ | ⟨first, _ | ⟨second, rest⟩⟩
    · simp
    · simp
    · simp
  · rw [shortFlags_of_not_mem hne hequals]
    simp [hequals]

/-- A dashed word gives flags unless it is one of three sorts. -/
theorem exists_flagsOf_eq_ok_iff (h : isDashed word = true) :
    (∃ flags, flagsOf word = .ok flags) ↔ ¬ Misflagged word.toList := by
  rcases long_or_short h with ⟨body, hword⟩ | ⟨letters, hword, hne, hfirst⟩
  · rw [flagsOf_long hword, hword]
    exact exists_longFlag_eq_ok_iff
  · rw [flagsOf_short hword hfirst, hword]
    exact exists_shortFlags_eq_ok_iff hne hfirst

/-! ## The names of a flag -/

/-- What stands behind the dashes of a word. -/
def undashed : List Char → List Char
  | '-' :: '-' :: body => body
  | '-' :: letters => letters
  | cs => cs

lemma undashed_short (hfirst : letters.head? ≠ some '-') : undashed ('-' :: letters) = letters := by
  unfold undashed
  split
  · next hlong =>
    rw [(List.cons.inj hlong).2] at hfirst
    exact absurd rfl hfirst
  · next hshort => exact (List.cons.inj hshort).2.symm
  · next hnot => exact absurd rfl (hnot letters)

/-- All names of a flag are dashed. -/
lemma Grammar.Flag.isDashed_of_mem_names (flag : Flag) (h : word ∈ flag.name :: flag.aliases) :
    isDashed word = true := by
  rcases List.mem_cons.mp h with rfl | hshort
  · exact flag.isDashed_name
  · have hsound := flag.sound
    unfold Grammar.FlagFields.fault? at hsound
    split at hsound
    · cases hsound
    · split at hsound
      · cases hsound
      · next hnone => simpa using List.find?_eq_none.mp hnone word hshort

/-- A name of a flag that has no equals sign sets exactly the flag that it names, if it is a long
word with something behind its dashes or has one letter behind its dash.  With one dash and
several letters it is read as a cluster: it sets a flag for each of its letters, in the order in
which they occur first.  A name that has an equals sign gives a value to one flag, or is
refused. -/
theorem flagsOf_of_mem_names (flag : Flag) (hword : word ∈ flag.name :: flag.aliases)
    (hbare : word ≠ "--") :
    let body := undashed word.toList
    ('=' ∉ body → (word.toList.take 2 = ['-', '-'] ∨ body.length = 1) →
      flagsOf word = .ok [(Text.lowercase (String.ofList body), .set)]) ∧
    ('=' ∉ body → word.toList.take 2 ≠ ['-', '-'] →
      flagsOf word = .ok (Flags.plain (body.map letterName).eraseDups)) ∧
    ('=' ∈ body → (∃ fault, flagsOf word = .error fault) ∨
      ∃ name value, flagsOf word = .ok [(name, .text value)]) := by
  rcases long_or_short (flag.isDashed_of_mem_names hword) with
    ⟨body, hchars⟩ | ⟨letters, hchars, hne, hfirst⟩
  · have hsomething : body ≠ [] := by
      rintro rfl
      exact hbare (String.toList_inj.mp hchars)
    rw [flagsOf_long hchars, hchars, undashed]
    refine ⟨fun hequals _ => ?_, fun _ hshort => absurd rfl hshort, longFlag_of_mem⟩
    rw [longFlag_of_not_mem hequals, if_neg hsomething]
  · rw [flagsOf_short hchars hfirst, hchars, undashed_short hfirst]
    refine ⟨fun hequals hone => ?_, fun hequals _ => shortFlags_of_not_mem hne hequals,
      shortFlags_of_mem⟩
    have hlong : ('-' :: letters).take 2 ≠ ['-', '-'] := by
      cases letters with
      | nil => exact absurd rfl hne
      | cons first rest => simpa using hfirst
    obtain ⟨letter, rfl⟩ := List.length_eq_one_iff.mp (hone.resolve_left hlong)
    rw [shortFlags_of_not_mem hne hequals]
    rfl

/-- A long name and a letter in capitals, a cluster in which a letter occurs twice, and a name with
an equals sign. -/
theorem flagsOf_of_mem_names_dry :
    let dry : Flag :=
      ⟨{ name := "--Dry-Run", aliases := ["-N", "-vxV", "--mode=dry"] }, rfl⟩
    (∀ word ∈ dry.name :: dry.aliases, word ≠ "--") ∧
      flagsOf "--Dry-Run" = .ok [("dry-run", .set)] ∧ flagsOf "-N" = .ok [("n", .set)] ∧
      flagsOf "-vxV" = .ok [("v", .set), ("x", .set)] ∧
      ((∃ fault, flagsOf "--mode=dry" = .error fault) ∨
        ∃ name value, flagsOf "--mode=dry" = .ok [(name, .text value)]) := by
  intro dry
  obtain ⟨hlong, -⟩ := flagsOf_of_mem_names dry (show "--Dry-Run" ∈ _ by decide) (by decide)
  obtain ⟨hletter, -⟩ := flagsOf_of_mem_names dry (show "-N" ∈ _ by decide) (by decide)
  obtain ⟨-, hcluster, -⟩ := flagsOf_of_mem_names dry (show "-vxV" ∈ _ by decide) (by decide)
  obtain ⟨-, -, hvalue⟩ := flagsOf_of_mem_names dry (show "--mode=dry" ∈ _ by decide) (by decide)
  refine ⟨by decide, ?_, ?_, ?_, hvalue (by decide)⟩
  · exact hlong (by decide) (.inl (by decide))
  · exact hletter (by decide) (.inr (by decide))
  · exact hcluster (by decide) (by decide)

/-- Three names that do not set the flag that they name: `-rf` is read as the letters `r` and `f`,
`--force=yes` gives a value, and `--` is refused. -/
theorem flagsOf_of_mem_names_cluster :
    let force : Flag := ⟨{ name := "--force", aliases := ["-rf", "--force=yes", "--"] }, rfl⟩
    (∀ word ∈ ["-rf", "--force=yes", "--"], word ∈ force.name :: force.aliases ∧
      ¬ ∃ key, flagsOf word = .ok [(key, .set)]) ∧
    flagsOf "-rf" = .ok [("r", .set), ("f", .set)] ∧
    flagsOf "--force=yes" = .ok [("force", .text "yes")] ∧ flagsOf "--" = .error .emptyLong := by
  intro force
  have hcluster : flagsOf "-rf" = .ok [("r", .set), ("f", .set)] := by decide +kernel
  have hvalue : flagsOf "--force=yes" = .ok [("force", .text "yes")] := by decide +kernel
  have hbare : flagsOf "--" = .error .emptyLong := by decide +kernel
  refine ⟨fun word hword => ⟨List.mem_cons_of_mem _ hword, ?_⟩, hcluster, hvalue, hbare⟩
  rintro ⟨key, hkey⟩
  simp only [List.mem_cons, List.not_mem_nil, or_false] at hword
  obtain rfl | rfl | rfl := hword
  · rw [hcluster] at hkey
    simp at hkey
  · rw [hvalue] at hkey
    simp at hkey
  · rw [hbare] at hkey
    cases hkey

end SlashCommand
