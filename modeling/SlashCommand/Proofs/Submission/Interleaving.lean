import Mathlib.Data.List.Forall2
import SlashCommand.Proofs.Completion.InForce
import SlashCommand.Proofs.Submission.Refusals

/-!
# Arguments in any interleaving

Behind a command, words that give flags and words that do not may stand in any order.  Reading takes
them apart, and what a line comes to depends on the two sequences only, not on how the line mixes
them (`map_withLine_ofTyped`).

The other words are the positional arguments as they are.  The dashed ones give entries, some words
several of them, and the entries are given one after the other.  What that leaves of them is the
invariant `Flags.Settled`: of each name the last value counts, in the place of the first.  The first
word that gives no flag ends it, and the line is refused for that word.

That the words of two lines begin alike does not make both of them commands: a line has to begin
with the slash itself, and one that begins with a quote or a backslash is refused before it is
read word by word.
-/

namespace SlashCommand

open Grammar (Command Registry isDashed)
open Line (words?)

/-! ## Flags that are given again -/

namespace Flags

/-- Whether an entry is the last one for its name. -/
def IsLast (entries : Flags) (entry : String × FlagValue) : Prop :=
  ∃ before after, entries = before ++ entry :: after ∧ ∀ later ∈ after, later.1 ≠ entry.1

/-- Whether flags are what is left of some entries if of each name the last value counts, in the
place of the first. -/
structure Settled (entries flags : Flags) : Prop where
  names_eq : flags.map Prod.fst = (entries.map Prod.fst).eraseDups
  mem_iff : ∀ entry, entry ∈ flags ↔ IsLast entries entry

variable {flags entries : Flags} {entry other : String × FlagValue}

lemma IsLast.mem (h : IsLast entries entry) : entry ∈ entries := by
  obtain ⟨before, after, rfl, -⟩ := h
  exact List.mem_append_right before List.mem_cons_self

lemma isLast_concat_iff :
    IsLast (entries ++ [entry]) other ↔
      other = entry ∨ other.1 ≠ entry.1 ∧ IsLast entries other := by
  constructor
  · rintro ⟨before, after, hentries, hafter⟩
    rcases List.eq_nil_or_concat' after with rfl | ⟨after, last, rfl⟩
    · exact .inl (List.cons.inj (List.append_inj_right' hentries rfl)).1.symm
    · rw [← List.cons_append, ← List.append_assoc] at hentries
      obtain ⟨rfl, hlast⟩ := List.append_inj' hentries rfl
      obtain rfl := (List.cons.inj hlast).1
      refine .inr ⟨(hafter entry (by simp)).symm, before, after, rfl, fun later hlater => ?_⟩
      exact hafter later (List.mem_append_left _ hlater)
  · rintro (rfl | ⟨hne, before, after, rfl, hafter⟩)
    · exact ⟨entries, [], rfl, nofun⟩
    · refine ⟨before, after ++ [entry], by simp, fun later hlater => ?_⟩
      rcases List.mem_append.mp hlater with hlater | hlater
      · exact hafter later hlater
      · rw [List.mem_singleton.mp hlater]
        exact hne.symm

/-- What was given so far under another name stays. -/
lemma mem_give_iff :
    other ∈ flags.give entry ↔ other = entry ∨ other.1 ≠ entry.1 ∧ other ∈ flags := by
  unfold give
  split_ifs with hany
  · obtain ⟨first, hfirst, hname⟩ := List.any_eq_true.mp hany
    rw [List.mem_map]
    constructor
    · rintro ⟨source, hsource, rfl⟩
      by_cases heq : source.1 = entry.1
      · simp [heq]
      · simp [heq, hsource]
    · rintro (rfl | ⟨hne, hmem⟩)
      · exact ⟨first, hfirst, if_pos hname⟩
      · exact ⟨other, hmem, if_neg (by simpa using hne)⟩
  · have hnew : ∀ source ∈ flags, source.1 ≠ entry.1 := fun source hsource heq =>
      hany (List.any_eq_true.mpr ⟨source, hsource, beq_iff_eq.mpr heq⟩)
    rw [List.mem_append, List.mem_singleton, or_comm]
    exact or_congr_right ⟨fun hmem => ⟨hnew other hmem, hmem⟩, And.right⟩

/-- A name that was given before keeps its place, and a new one comes last. -/
lemma map_fst_give :
    (flags.give entry).map Prod.fst =
      flags.map Prod.fst ++ [entry.1].removeAll (flags.map Prod.fst) := by
  unfold give
  split_ifs with hany
  · have hmem : entry.1 ∈ flags.map Prod.fst := by simpa using hany
    have hsame : ∀ source ∈ flags,
        (Prod.fst ∘ fun other => if other.1 == entry.1 then entry else other) source =
          source.1 := by
      intro source _
      by_cases heq : source.1 = entry.1 <;> simp [heq]
    rw [List.map_map, List.map_congr_left hsame]
    simp [List.removeAll, hmem]
  · have hmem : entry.1 ∉ flags.map Prod.fst := by simpa using hany
    simp [List.removeAll, hmem]

lemma Settled.give (h : Settled entries flags) (entry : String × FlagValue) :
    Settled (entries ++ [entry]) (flags.give entry) where
  names_eq := by
    rw [map_fst_give, List.map_append, List.map_singleton, List.eraseDups_append, h.names_eq]
    by_cases hmem : entry.1 ∈ entries.map Prod.fst <;>
      simp [List.removeAll, List.eraseDups_cons, hmem]
  mem_iff := by
    intro other
    rw [mem_give_iff, isLast_concat_iff, h.mem_iff]

/-- However many entries are given, of each name the last value counts, in the place of the
first. -/
theorem settled_giveAll (entries : Flags) : Settled entries (giveAll [] entries) := by
  induction entries using List.reverseRecOn with
  | nil =>
    refine ⟨rfl, fun entry => iff_of_false List.not_mem_nil fun h => ?_⟩
    exact List.not_mem_nil h.mem
  | append_singleton entries entry ih =>
    rw [giveAll, List.foldl_append]
    exact ih.give entry

end Flags

/-! ## Names of flags -/

/-- Whether a name can be that of a flag that was given. -/
def IsFlagName (name : String) : Prop :=
  name ≠ "" ∧ '=' ∉ name.toList

variable {word : String} {given : Flags}

lemma isFlagName_lowercase {name : String} (hne : name ≠ "") (hequals : '=' ∉ name.toList) :
    IsFlagName (Text.lowercase name) := by
  refine ⟨Text.lowercase_eq_empty_iff.not.mpr hne, ?_⟩
  rw [Text.toList_lowercase]
  exact mt Text.isSeparator_equals.mem_of_mem_lowercaseChars hequals

/-- Cutting blank ends brings no equals sign into a name. -/
lemma not_mem_toList_strip {name : String} {c : Char} (h : c ∉ name.toList) :
    c ∉ (Text.strip name).toList := by
  rw [Text.toList_strip]
  intro hmem
  have hprefix := (Text.dropBlankEnd_prefix (Text.dropBlank name.toList)).subset hmem
  exact h ((List.dropWhile_sublist Text.isBlank).subset hprefix)

/-- Whatever flags a dashed word gives, they have names, and there is no equals sign in them. -/
lemma isFlagName_of_flagsOf_eq_ok (hdashed : isDashed word = true) (h : flagsOf word = .ok given) :
    ∀ entry ∈ given, IsFlagName entry.1 := by
  rcases long_or_short hdashed with ⟨body, hword⟩ | ⟨letters, hword, hne, hfirst⟩
  · rw [flagsOf_long hword] at h
    by_cases hequals : '=' ∈ body
    · obtain ⟨name, value, rfl, hname⟩ := List.eq_append_cons_of_mem hequals
      rw [longFlag_append hname] at h
      split_ifs at h with hblank
      obtain rfl := Except.ok.inj h
      refine List.forall_mem_singleton.mpr (isFlagName_lowercase hblank ?_)
      exact not_mem_toList_strip (by rwa [String.toList_ofList])
    · rw [longFlag_of_not_mem hequals] at h
      split_ifs at h with hempty
      obtain rfl := Except.ok.inj h
      refine List.forall_mem_singleton.mpr (isFlagName_lowercase ?_ ?_)
      · rwa [ne_eq, ← String.toList_inj, String.toList_ofList]
      · rwa [String.toList_ofList]
  · rw [flagsOf_short hword hfirst] at h
    have hletter : ∀ c, c ≠ '=' → IsFlagName (letterName c) := by
      intro c hc
      refine isFlagName_lowercase ?_ ?_
      · rw [ne_eq, ← String.toList_inj]
        simp
      · simpa using hc.symm
    by_cases hequals : '=' ∈ letters
    · obtain ⟨name, value, rfl, hname⟩ := List.eq_append_cons_of_mem hequals
      rw [shortFlags_append hname] at h
      rcases name with _ | ⟨c, _ | ⟨second, rest⟩⟩
      · cases h
      · obtain rfl := Except.ok.inj h
        exact List.forall_mem_singleton.mpr (hletter c (Ne.symm (by simpa using hname)))
      · cases h
    · rw [shortFlags_of_not_mem hne hequals] at h
      obtain rfl := Except.ok.inj h
      intro entry hentry
      obtain ⟨name, hname, rfl⟩ := List.mem_map.mp hentry
      obtain ⟨c, hc, rfl⟩ := List.mem_map.mp (List.mem_eraseDups.mp hname)
      exact hletter c (ne_of_mem_of_not_mem hc hequals)

/-! ## Collecting -/

/-- What becomes of dashed words when their entries are given on top of some flags, one word after
the other. -/
inductive Collected (flags : Flags) (dashed : List String) : Except FlagFault Flags → Prop
  /-- Every word gives its entries. -/
  | all {groups : List Flags}
      (hgroups : List.Forall₂ (fun word given => flagsOf word = .ok given) dashed groups) :
      Collected flags dashed (.ok (flags.giveAll groups.flatten))
  /-- A word gives none, and those in front of it do. -/
  | upTo {before after : List String} {word : String} {fault : FlagFault}
      (hdashed : dashed = before ++ word :: after)
      (hbefore : ∀ earlier ∈ before, ∃ given, flagsOf earlier = .ok given)
      (hword : flagsOf word = .error fault) : Collected flags dashed (.error fault)

/-- Entries that words give are given by one of them. -/
lemma exists_flagsOf_eq_ok_of_mem {words : List String} {groups : List Flags}
    (h : List.Forall₂ (fun word given => flagsOf word = .ok given) words groups)
    (hgiven : given ∈ groups) : ∃ word ∈ words, flagsOf word = .ok given := by
  induction h with
  | nil => exact nomatch hgiven
  | @cons first group words groups hfirst _ ih =>
    rcases List.mem_cons.mp hgiven with rfl | hgiven
    · exact ⟨first, List.mem_cons_self, hfirst⟩
    · obtain ⟨word, hword, hflags⟩ := ih hgiven
      exact ⟨word, List.mem_cons_of_mem first hword, hflags⟩

namespace Submission

/-- Only the dashed words are asked for flags. -/
lemma collectFlags_filter (flags : Flags) (words : List String) :
    collectFlags flags (words.filter isDashed) = collectFlags flags words := by
  induction words generalizing flags with
  | nil => rfl
  | cons word words ih =>
    by_cases hdashed : isDashed word = true
    · rw [List.filter_cons_of_pos hdashed, collectFlags, collectFlags, if_pos hdashed,
        if_pos hdashed]
      simp only [ih]
    · rw [List.filter_cons_of_neg hdashed, collectFlags, if_neg hdashed, ih]

lemma collected_collectFlags (flags : Flags) {dashed : List String}
    (h : ∀ word ∈ dashed, isDashed word = true) :
    Collected flags dashed (collectFlags flags dashed) := by
  induction dashed generalizing flags with
  | nil => exact .all .nil
  | cons word words ih =>
    obtain ⟨hword, hwords⟩ := List.forall_mem_cons.mp h
    rw [collectFlags, if_pos hword]
    cases hflags : flagsOf word with
    | error fault =>
      exact @Collected.upTo _ _ [] words word fault rfl (List.forall_mem_nil _) hflags
    | ok given =>
      have hrest := ih (flags.giveAll given) hwords
      simp only [bind, Except.bind]
      generalize collectFlags (flags.giveAll given) words = outcome at hrest ⊢
      cases hrest with
      | @all groups hgroups =>
        have hgive : (flags.giveAll given).giveAll groups.flatten =
            flags.giveAll (given :: groups).flatten := by
          rw [List.flatten_cons, Flags.giveAll, Flags.giveAll, Flags.giveAll, List.foldl_append]
        rw [hgive]
        exact .all (.cons hflags hgroups)
      | @upTo before after refused fault hdashed hbefore hfault =>
        have hcons : word :: words = (word :: before) ++ refused :: after :=
          congrArg (word :: ·) hdashed
        refine .upTo hcons ?_ hfault
        exact List.forall_mem_cons.mpr ⟨⟨given, hflags⟩, hbefore⟩

/-- A submission as that of another line. -/
def withLine (submission : Submission) (line : String) : Submission :=
  { submission with line := line }

/-- Whether two lists of words have the same dashed words and the same other ones, each in the same
order. -/
structure SameApart (arguments arguments' : List String) : Prop where
  dashed_eq : arguments.filter isDashed = arguments'.filter isDashed
  others_eq : (arguments.filter fun word => !isDashed word) =
    arguments'.filter fun word => !isDashed word

/-- What becomes of the arguments of a command, of which these are the dashed ones and the others. -/
inductive TakenApart (command : Command) (dashed others : List String) :
    Except Refusal Submission → Prop
  /-- The other ones are kept as they are.  Of the entries that the dashed ones give, the last one
  of each name counts, in the place of the first. -/
  | understood {submission : Submission} {groups : List Flags}
      (hcommand : submission.command = command) (hothers : submission.positional = others)
      (hgroups : List.Forall₂ (fun word given => flagsOf word = .ok given) dashed groups)
      (hflags : Flags.Settled groups.flatten submission.flags)
      (hnames : ∀ entry ∈ submission.flags, IsFlagName entry.1) :
      TakenApart command dashed others (.ok submission)
  /-- The first dashed word that gives no flag is why the line is refused. -/
  | refused {before after : List String} {word : String} {fault : FlagFault}
      (hdashed : dashed = before ++ word :: after)
      (hbefore : ∀ earlier ∈ before, ∃ given, flagsOf earlier = .ok given)
      (hword : flagsOf word = .error fault) :
      TakenApart command dashed others (.error (.invalidFlag fault))

variable {line line' name : String} {arguments arguments' : List String} {command : Command}

/-- What a typed command comes to depends on its dashed arguments and the others, and the line is
kept beside it. -/
lemma map_withLine_ofTyped (h : SameApart arguments arguments') (command? : Option Command) :
    ofTyped line' ⟨name, arguments'⟩ command? =
      (ofTyped line ⟨name, arguments⟩ command?).map (·.withLine line') := by
  cases command? with
  | none => rfl
  | some command =>
    have hflags : collectFlags [] arguments' = collectFlags [] arguments := by
      rw [← collectFlags_filter, ← h.dashed_eq, collectFlags_filter]
    simp only [ofTyped, hflags, ← h.others_eq]
    cases collectFlags [] arguments <;> rfl

lemma takenApart_ofTyped (line : String) (command : Command) (typed : TypedCommand) :
    TakenApart command (typed.arguments.filter isDashed)
      (typed.arguments.filter fun word => !isDashed word) (ofTyped line typed (some command)) := by
  have hdashed : ∀ word ∈ typed.arguments.filter isDashed, isDashed word = true := fun word hword =>
    (List.mem_filter.mp hword).2
  have hcollected := collected_collectFlags [] hdashed
  rw [collectFlags_filter] at hcollected
  rw [ofTyped]
  generalize collectFlags [] typed.arguments = outcome at hcollected ⊢
  cases hcollected with
  | @all groups hgroups =>
    have hsettled := Flags.settled_giveAll groups.flatten
    refine .understood rfl rfl hgroups hsettled fun entry hentry => ?_
    obtain ⟨given, hgiven, hmem⟩ := List.mem_flatten.mp ((hsettled.mem_iff entry).mp hentry).mem
    obtain ⟨word, hword, hflags⟩ := exists_flagsOf_eq_ok_of_mem hgroups hgiven
    exact isFlagName_of_flagsOf_eq_ok (hdashed word hword) hflags entry hmem
  | upTo hdashed hbefore hword => exact .refused hdashed hbefore hword

end Submission

/-! ## Lines -/

/-- The name of a command is in its first word alone. -/
lemma TypedCommand.ofWords_cons (first : String) :
    (∀ arguments, ofWords (first :: arguments) = .error .missingCommand) ∨
      ∃ name, ∀ arguments, ofWords (first :: arguments) = .ok ⟨name, arguments⟩ := by
  by_cases hname : Text.strip (String.ofList (first.toList.drop 1)) = ""
  · left
    intro arguments
    rw [ofWords, List.headD_cons, if_pos hname]
  · right
    refine ⟨Text.strip (String.ofList (first.toList.drop 1)), fun arguments => ?_⟩
    rw [ofWords, List.headD_cons, if_neg hname, List.drop_succ_cons, List.drop_zero]

namespace Submission

variable {line line' first name : String} {arguments arguments' words : List String}
  {command : Command}

lemma parse_of_ofWords_eq_error {refusal : Refusal} (hfirst : firstSolid? line = some '/')
    (hwords : words? line = some words) (hname : TypedCommand.ofWords words = .error refusal)
    (given : Option Registry) : parse line given = .error refusal := by
  rw [parse, TypedCommand.ofLine_of_slash hfirst, hwords]
  simp only [hname, bind, Except.bind]

/-- A line that begins with the slash is looked up by its first word. -/
lemma parse_of_ofWords_eq_ok {typed : TypedCommand} (hfirst : firstSolid? line = some '/')
    (hwords : words? line = some words) (hname : TypedCommand.ofWords words = .ok typed)
    (given : Option Registry) :
    parse line given = ofTyped line typed ((Registry.orBuiltin given).get? typed.name) := by
  rw [parse, TypedCommand.ofLine_of_slash hfirst, hwords]
  simp only [hname, bind, Except.bind]

/-- A line that has words and does not begin with the slash is no command. -/
lemma parse_of_ne_slash (hfirst : firstSolid? line ≠ some '/')
    (hwords : words? line = some (first :: arguments)) (given : Option Registry) :
    parse line given = .error .notCommand := by
  cases hsolid : firstSolid? line with
  | none =>
    -- nothing is read of a blank line
    have hblank := Text.dropBlank_eq_nil_iff.mpr (firstSolid?_eq_none_iff.mp hsolid)
    rw [words?, ← Line.Reader.words_fresh_dropBlank, hblank] at hwords
    cases hwords
  | some c =>
    have hslash : c ≠ '/' := fun heq => hfirst (heq ▸ hsolid)
    exact parse_of_ofLine_eq_error (TypedCommand.ofLine_of_ne_slash hsolid hslash) given

/-- A line that begins with the slash and can be read is not refused for being no command. -/
lemma parse_ne_notCommand (hfirst : firstSolid? line = some '/')
    (hwords : words? line = some (first :: arguments)) (given : Option Registry) :
    parse line given ≠ .error .notCommand := by
  rcases TypedCommand.ofWords_cons first with hname | ⟨name, hname⟩
  · rw [parse_of_ofWords_eq_error hfirst hwords (hname arguments)]
    exact nofun
  · rw [parse_of_ofWords_eq_ok hfirst hwords (hname arguments)]
    cases (Registry.orBuiltin given).get? name with
    | none => exact nofun
    | some command =>
      intro h
      have htaken := takenApart_ofTyped line command ⟨name, arguments⟩
      rw [h] at htaken
      cases htaken

/-- Lines that begin with the slash come to the same if their words do. -/
lemma parse_eq_map_withLine (hfirst : firstSolid? line = some '/')
    (hfirst' : firstSolid? line' = some '/') (hwords : words? line = some (first :: arguments))
    (hwords' : words? line' = some (first :: arguments')) (hsame : SameApart arguments arguments')
    (given : Option Registry) : parse line' given = (parse line given).map (·.withLine line') := by
  rcases TypedCommand.ofWords_cons first with hname | ⟨name, hname⟩
  · rw [parse_of_ofWords_eq_error hfirst hwords (hname arguments),
      parse_of_ofWords_eq_error hfirst' hwords' (hname arguments')]
    rfl
  · rw [parse_of_ofWords_eq_ok hfirst hwords (hname arguments),
      parse_of_ofWords_eq_ok hfirst' hwords' (hname arguments')]
    exact map_withLine_ofTyped hsame _

lemma takenApart_parse (hfirst : firstSolid? line = some '/')
    (hwords : words? line = some (("/" ++ name) :: arguments)) {given : Option Registry}
    (hcommand : (Registry.orBuiltin given).get? name = some command) :
    TakenApart command (arguments.filter isDashed) (arguments.filter fun word => !isDashed word)
      (parse line given) := by
  have hname : Text.strip name ≠ "" :=
    (Registry.get?_eq_some_iff_exists_mem_names.mp hcommand).1
  have hline := TypedCommand.ofLine_of_reads ⟨hfirst, hwords⟩
  rw [if_neg hname] at hline
  rw [← Registry.get?_strip] at hcommand
  have hparse : parse line given = ofTyped line ⟨Text.strip name, arguments⟩ (some command) := by
    rw [parse, hline, ← hcommand]
    simp only [bind, Except.bind]
  rw [hparse]
  exact takenApart_ofTyped line command ⟨Text.strip name, arguments⟩

end Submission

open Submission (SameApart TakenApart parse)

variable {line line' first : String} {arguments arguments' : List String}

/-- Two lines that are read with the same first word, the same dashed words and the same other ones
come to the same, but for the line itself that is kept, exactly if both of them or neither begin
with the slash.  With a command that is known, what they come to is its name, the other words as
they are, and the flags that are left of the entries of the dashed ones; or the line is refused for
the first dashed word that gives none. -/
theorem parse_eq_map_withLine_iff (given : Option Registry)
    (hwords : words? line = some (first :: arguments))
    (hwords' : words? line' = some (first :: arguments')) (hsame : SameApart arguments arguments') :
    (parse line' given = (parse line given).map (·.withLine line') ↔
      (firstSolid? line = some '/' ↔ firstSolid? line' = some '/')) ∧
    (firstSolid? line = some '/' → ∀ name command, first = "/" ++ name →
      (Registry.orBuiltin given).get? name = some command →
        TakenApart command (arguments.filter isDashed)
          (arguments.filter fun word => !isDashed word) (parse line given)) := by
  constructor
  · by_cases hslash : firstSolid? line = some '/' <;>
      by_cases hslash' : firstSolid? line' = some '/'
    · exact iff_of_true (Submission.parse_eq_map_withLine hslash hslash' hwords hwords' hsame given)
        (iff_of_true hslash hslash')
    · refine iff_of_false ?_ fun h => hslash' (h.mp hslash)
      intro h
      rw [Submission.parse_of_ne_slash hslash' hwords'] at h
      have hne := Submission.parse_ne_notCommand hslash hwords given
      generalize parse line given = outcome at h hne
      cases outcome with
      | ok submission => cases h
      | error refusal => exact hne h.symm
    · refine iff_of_false ?_ fun h => hslash (h.mpr hslash')
      rw [Submission.parse_of_ne_slash hslash hwords]
      exact Submission.parse_ne_notCommand hslash' hwords' given
    · refine iff_of_true ?_ (iff_of_false hslash hslash')
      rw [Submission.parse_of_ne_slash hslash hwords, Submission.parse_of_ne_slash hslash' hwords']
      rfl
  · rintro hslash name command rfl hcommand
    exact Submission.takenApart_parse hslash hwords hcommand

/-- A cluster, a name that is given again, and a subcommand in front of them or between. -/
theorem parse_eq_map_withLine_iff_memory :
    let line := "/memory list --type=fact -vV --type=note"
    let line' := "  /memory --type=fact '-vV' list \"--type=note\""
    let arguments := ["list", "--type=fact", "-vV", "--type=note"]
    let arguments' := ["--type=fact", "-vV", "list", "--type=note"]
    words? line = some ("/memory" :: arguments) ∧ words? line' = some ("/memory" :: arguments') ∧
      SameApart arguments arguments' ∧ parse line' none = (parse line none).map (·.withLine line') ∧
      ∃ command, (Registry.orBuiltin none).get? "memory" = some command ∧
        TakenApart command ["--type=fact", "-vV", "--type=note"] ["list"] (parse line none) := by
  intro line line' arguments arguments'
  have hwords : words? line = some ("/memory" :: arguments) := by decide +kernel
  have hwords' : words? line' = some ("/memory" :: arguments') := by decide +kernel
  have hsame : SameApart arguments arguments' := ⟨by decide, by decide⟩
  have hslash : firstSolid? line = some '/' := by decide
  have hslash' : firstSolid? line' = some '/' := by decide
  obtain ⟨command, hcommand⟩ := Option.isSome_iff_exists.mp
    (show ((Registry.orBuiltin none).get? "memory").isSome = true by decide +kernel)
  obtain ⟨hiff, htaken⟩ := parse_eq_map_withLine_iff none hwords hwords' hsame
  exact ⟨hwords, hwords', hsame, hiff.mpr (iff_of_true hslash hslash'), command, hcommand,
    htaken hslash "memory" command rfl hcommand⟩

/-- A command in quotes is read as the same words, and is no command. -/
theorem parse_ne_map_withLine_quoted :
    words? "/help" = some ["/help"] ∧ words? "\"/help\"" = some ["/help"] ∧
      (∃ submission, parse "/help" none = .ok submission) ∧
      parse "\"/help\"" none = .error .notCommand ∧
      parse "\"/help\"" none ≠ (parse "/help" none).map (·.withLine "\"/help\"") := by
  have hquoted : parse "\"/help\"" none = .error .notCommand :=
    Submission.parse_of_ne_slash (by decide) (show _ = some ["/help"] by decide) none
  obtain ⟨submission, hplain⟩ := exists_parse_help_eq_ok
  refine ⟨by decide, by decide, ⟨submission, hplain⟩, hquoted, ?_⟩
  rw [hquoted, hplain]
  exact nofun

end SlashCommand
