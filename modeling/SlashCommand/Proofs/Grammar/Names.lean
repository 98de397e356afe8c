import Mathlib.Data.List.Nodup
import SlashCommand.Proofs.Grammar.Lookup

/-!
# Distinct names

Commands make up a registry exactly if no two of their names are equal in lowercase.  It makes no
difference whether two names belong to two commands or to one, and a name that is blank counts like
any other.  The names are added in order, so what is reported is the first name that is equal to
one in front of it, and the command that has the name there.

The invariant of the loop is that the index lists the names so far and that these are distinct.
While it holds, a look-up answers for all the names so far (`get?_eq_none_iff`,
`get?_eq_some_iff`), so a name is added exactly if it is a new one, and the loop either comes to
its end or stops at the first clash (`outcome_addNames`).  `ofCommands_iff_nodup` says what this
comes to for registries.
-/

namespace SlashCommand.Grammar

open Text (CaselessMap)

/-! ## Names and their lowercase forms -/

/-- The lowercase forms of the names of some entries. -/
def entryKeys (entries : List (String × Command)) : List String :=
  entries.map fun entry => Text.lowercase entry.1

/-- Whether a clash is that of the first name which is equal in lowercase to one in front of it,
with the command that has the name in front. -/
inductive FirstClash (entries : List (String × Command)) : NameClash → Prop
  | intro {before after : List (String × Command)} {name earlier : String}
      {command holder : Command} (hentries : entries = before ++ (name, command) :: after)
      (hnodup : (entryKeys before).Nodup) (hearlier : (earlier, holder) ∈ before)
      (hkey : Text.lowercase earlier = Text.lowercase name) :
      FirstClash entries ⟨name, command, holder⟩

lemma mem_nameEntries_iff {commands : List Command} {name : String} {command : Command} :
    (name, command) ∈ nameEntries commands ↔ command ∈ commands ∧ name ∈ command.names := by
  simp only [nameEntries, List.mem_flatMap, List.mem_map, Prod.mk.injEq]
  constructor
  · rintro ⟨owner, howner, owned, howned, rfl, rfl⟩
    exact ⟨howner, howned⟩
  · rintro ⟨hcommand, hname⟩
    exact ⟨command, hcommand, name, hname, rfl, rfl⟩

lemma entryKeys_nameEntries (commands : List Command) :
    entryKeys (nameEntries commands) =
      (commands.flatMap Command.names).map Text.lowercase := by
  simp only [entryKeys, nameEntries, List.map_flatMap, List.map_map]
  rfl

lemma FirstClash.not_nodup {entries : List (String × Command)} {clash : NameClash}
    (h : FirstClash entries clash) : ¬ (entryKeys entries).Nodup := by
  obtain ⟨hentries, -, hearlier, hkey⟩ := h
  rw [hentries, entryKeys, List.map_append, List.map_cons, List.nodup_append]
  rintro ⟨-, -, hdisjoint⟩
  exact hdisjoint _ (List.mem_map_of_mem hearlier) _ List.mem_cons_self hkey

/-! ## Names that a command can have -/

namespace Command

lemma toList_name (command : Command) :
    ∃ c cs, command.name.toList = c :: cs ∧ c ≠ '/' ∧ ∀ d ∈ c :: cs, Text.isBlank d = false := by
  have hname := command.isCommandName_name
  unfold isCommandName at hname
  split at hname
  · cases hname
  · next c cs hchars =>
    rw [Bool.and_eq_true, bne_iff_ne, Bool.not_eq_true', List.any_eq_false] at hname
    exact ⟨c, cs, hchars, hname.1, fun d hd => by simpa using hname.2 d hd⟩

lemma name_ne_empty (command : Command) : command.name ≠ "" := by
  obtain ⟨c, cs, hchars, -⟩ := command.toList_name
  rw [← String.toList_inj.ne, hchars]
  exact List.cons_ne_nil c cs

lemma not_isBlank_name (command : Command) : ∀ c ∈ command.name.toList, Text.isBlank c = false := by
  obtain ⟨c, cs, hchars, -, hblank⟩ := command.toList_name
  rw [hchars]
  exact hblank

end Command

/-! ## The index while names are added -/

section

variable {index : CaselessMap Command} {done : List (String × Command)} {name : String}
  {command : Command}

/-- A name is free exactly if it is equal to none of those that were added. -/
lemma get?_eq_none_iff (hindex : index.entries = done.map indexEntry) :
    index.get? (.text name) = none ↔ Text.lowercase name ∉ entryKeys done := by
  rw [CaselessMap.get?, hindex, List.lookup_eq_none_iff, List.forall_mem_map]
  simp only [entryKeys, List.mem_map, not_exists, not_and]
  refine forall₂_congr fun entry _ => ?_
  rw [bne_iff_ne, ne_comm]
  simp [indexEntry, Text.Key.folded]

/-- A name that is taken is equal to one that was added, and its command is found. -/
lemma exists_of_get?_eq_some (hindex : index.entries = done.map indexEntry)
    (h : index.get? (.text name) = some command) :
    ∃ earlier, (earlier, command) ∈ done ∧ Text.lowercase earlier = Text.lowercase name := by
  have hentry := CaselessMap.mem_entries_of_get?_eq_some h
  rw [hindex, List.mem_map] at hentry
  obtain ⟨⟨earlier, owner⟩, hmem, heq⟩ := hentry
  obtain ⟨hkey, rfl⟩ := Prod.mk.inj heq
  exact ⟨earlier, hmem, Text.Key.text.inj hkey⟩

/-- Of distinct names, each leads to its own command. -/
lemma get?_eq_some_iff (hindex : index.entries = done.map indexEntry)
    (hnodup : (entryKeys done).Nodup) :
    index.get? (.text name) = some command ↔
      ∃ earlier, (earlier, command) ∈ done ∧ Text.lowercase earlier = Text.lowercase name := by
  refine ⟨exists_of_get?_eq_some hindex, ?_⟩
  rintro ⟨earlier, hmem, hkey⟩
  cases hfound : index.get? (.text name) with
  | none =>
    rw [get?_eq_none_iff hindex, ← hkey] at hfound
    exact absurd (List.mem_map_of_mem hmem) hfound
  | some other =>
    obtain ⟨earlier', hmem', hkey'⟩ := exists_of_get?_eq_some hindex hfound
    have hsame := List.inj_on_of_nodup_map hnodup hmem' hmem (hkey'.trans hkey.symm)
    exact congrArg some (congrArg Prod.snd hsame)

/-- Adding a name that is free keeps the invariant. -/
lemma invariant_insert (hindex : index.entries = done.map indexEntry)
    (hnodup : (entryKeys done).Nodup) (hfree : index.get? (.text name) = none) :
    (index.insert (.text name) command).entries = (done ++ [(name, command)]).map indexEntry ∧
      (entryKeys (done ++ [(name, command)])).Nodup := by
  constructor
  · rw [CaselessMap.entries_insert_of_get?_eq_none command hfree, hindex, List.map_append]
    rfl
  · have hnew := (get?_eq_none_iff hindex).mp hfree
    rw [entryKeys, List.map_append, List.map_singleton, ← List.concat_eq_append]
    exact hnodup.concat hnew

/-- What comes of adding names: either they are distinct and all are added, or the first clash
among them is found. -/
inductive Outcome (entries : List (String × Command)) :
    Except NameClash (CaselessMap Command) → Prop
  | added {index : CaselessMap Command} (hnodup : (entryKeys entries).Nodup) :
      Outcome entries (.ok index)
  | stopped {clash : NameClash} (hclash : FirstClash entries clash) :
      Outcome entries (.error clash)

/-- Adding further names to an index looks at all the names from the first one on. -/
theorem outcome_addNames (hindex : index.entries = done.map indexEntry)
    (hnodup : (entryKeys done).Nodup) (entries : List (String × Command)) :
    Outcome (done ++ entries) (addNames index entries) := by
  induction entries generalizing index done with
  | nil =>
    rw [List.append_nil]
    exact .added hnodup
  | cons entry entries ih =>
    obtain ⟨name, command⟩ := entry
    rw [addNames]
    split
    · next holder htaken =>
      obtain ⟨earlier, hearlier, hkey⟩ := exists_of_get?_eq_some hindex htaken
      exact .stopped (.intro rfl hnodup hearlier hkey)
    · next hfree =>
      obtain ⟨hindex', hnodup'⟩ := invariant_insert hindex hnodup hfree
      rw [List.append_cons]
      exact ih hindex' hnodup'

end

/-- An index is made of the names of some commands in this way. -/
lemma outcome_indexNames (commands : List Command) :
    Outcome (nameEntries commands) (indexNames commands) := by
  have hempty : (CaselessMap.empty : CaselessMap Command).entries =
      ([] : List (String × Command)).map indexEntry := rfl
  exact outcome_addNames hempty List.nodup_nil (nameEntries commands)

/-! ## Registries -/

namespace Registry

variable {commands : List Command} {registry : Registry}

/-- The names of a registry's commands are distinct. -/
lemma nodup_entryKeys (registry : Registry) :
    (entryKeys (nameEntries registry.commands)).Nodup := by
  have houtcome := outcome_indexNames registry.commands
  rw [registry.indexNames_commands] at houtcome
  cases houtcome with
  | added hnodup => exact hnodup

/-- What is found under a name, if anything, is the command that goes by it.  Blank characters
around the name that is asked for are dropped, and those around a command's name are not. -/
theorem get?_eq_some_iff_exists_mem_names {name : String} {command : Command} :
    registry.get? name = some command ↔
      Text.strip name ≠ "" ∧ command ∈ registry.commands ∧
        ∃ owned ∈ command.names, Text.lowercase owned = Text.lowercase (Text.strip name) := by
  rw [get?]
  split_ifs with hblank
  · exact iff_of_false not_false fun h => h.1 hblank
  · rw [get?_eq_some_iff registry.entries_index registry.nodup_entryKeys]
    simp only [mem_nameEntries_iff, ne_eq, hblank, not_false_eq_true, true_and, and_assoc,
      exists_and_left]

/-- Letter case aside, no name is listed twice among all the names of a registry's commands. -/
lemma nodup_map_lowercase_names (registry : Registry) :
    ((registry.commands.flatMap Command.names).map Text.lowercase).Nodup := by
  rw [← entryKeys_nameEntries]
  exact registry.nodup_entryKeys

/-- Letter case aside, no two commands have one primary name. -/
lemma nodup_map_lowercase_name (registry : Registry) :
    (registry.commands.map fun command => Text.lowercase command.name).Nodup := by
  have hsublist : (registry.commands.map (·.name)).Sublist
      (registry.commands.flatMap Command.names) := by
    induction registry.commands with
    | nil => exact List.Sublist.slnil
    | cons command commands ih =>
      rw [List.map_cons, List.flatMap_cons, Command.names, List.cons_append,
        List.cons_sublist_cons]
      exact ih.trans (List.sublist_append_right command.aliases _)
  have hnodup := (hsublist.map Text.lowercase).nodup registry.nodup_map_lowercase_names
  rwa [List.map_map] at hnodup

/-- Letter case aside, no command's primary name is an alias, of the same command or another. -/
lemma lowercase_name_ne {command owner : Command} (hcommand : command ∈ registry.commands)
    (howner : owner ∈ registry.commands) {short : String} (hshort : short ∈ owner.aliases) :
    Text.lowercase command.name ≠ Text.lowercase short := by
  intro hkey
  have hname : (command.name, command) ∈ nameEntries registry.commands :=
    mem_nameEntries_iff.mpr ⟨hcommand, List.mem_cons_self⟩
  have hentry : (short, owner) ∈ nameEntries registry.commands :=
    mem_nameEntries_iff.mpr ⟨howner, List.mem_cons_of_mem owner.name hshort⟩
  have hsame := List.inj_on_of_nodup_map registry.nodup_entryKeys hname hentry hkey
  obtain ⟨rfl, rfl⟩ := Prod.mk.inj hsame
  -- one name is left to be listed twice, among the names of one command
  have hnodup := registry.nodup_map_lowercase_names.of_map
  have hnames := (List.nodup_flatMap.mp hnodup).1 command hcommand
  exact (List.nodup_cons.mp hnames).1 hshort

/-- A command is found under its primary name. -/
lemma get?_name {command : Command} (hcommand : command ∈ registry.commands) :
    registry.get? command.name = some command := by
  rw [get?_eq_some_iff_exists_mem_names, Text.strip_of_not_isBlank command.not_isBlank_name]
  exact ⟨command.name_ne_empty, hcommand, command.name, List.mem_cons_self, rfl⟩

/-- Whether a registry is that of some commands: it lists them in their order, and finds each under
its names and nothing under any other. -/
structure Holds (registry : Registry) (commands : List Command) : Prop where
  commands_eq : registry.commands = commands
  names_eq : registry.names = commands.map (·.name)
  get?_eq_some_iff : ∀ (name : String) (command : Command),
    registry.get? name = some command ↔
      Text.strip name ≠ "" ∧ command ∈ commands ∧
        ∃ owned ∈ command.names, Text.lowercase owned = Text.lowercase (Text.strip name)
  contains_iff : ∀ name : String,
    registry.contains name = true ↔ ∃ command, registry.get? name = some command

lemma holds_of_ofCommands_eq_ok (h : ofCommands commands = .ok registry) :
    registry.Holds commands := by
  obtain rfl := commands_of_ofCommands_eq_ok h
  exact ⟨rfl, rfl, fun name command => get?_eq_some_iff_exists_mem_names,
    fun name => Option.isSome_iff_exists⟩

lemma nodup_of_ofCommands_eq_ok (h : ofCommands commands = .ok registry) :
    ((commands.flatMap Command.names).map Text.lowercase).Nodup := by
  obtain rfl := commands_of_ofCommands_eq_ok h
  exact registry.nodup_map_lowercase_names

lemma firstClash_of_ofCommands_eq_error {clash : NameClash}
    (h : ofCommands commands = .error clash) : FirstClash (nameEntries commands) clash := by
  rw [ofCommands] at h
  split at h
  · cases h
  · next herror =>
    obtain rfl := Except.error.inj h
    have houtcome := outcome_indexNames commands
    rw [herror] at houtcome
    cases houtcome with
    | stopped hclash => exact hclash

/-- Commands make up a registry exactly if their names, aliases included, are pairwise distinct in
lowercase.  The registry then holds these commands; otherwise the first clash is reported. -/
theorem ofCommands_iff_nodup (commands : List Command) :
    ((∃ registry, ofCommands commands = .ok registry) ↔
        ((commands.flatMap Command.names).map Text.lowercase).Nodup) ∧
      (∀ registry, ofCommands commands = .ok registry → registry.Holds commands) ∧
      ∀ clash, ofCommands commands = .error clash → FirstClash (nameEntries commands) clash := by
  refine ⟨⟨?_, fun hnodup => ?_⟩, fun registry => holds_of_ofCommands_eq_ok,
    fun clash => firstClash_of_ofCommands_eq_error⟩
  · rintro ⟨registry, hok⟩
    exact nodup_of_ofCommands_eq_ok hok
  · cases hmade : ofCommands commands with
    | ok registry => exact ⟨registry, rfl⟩
    | error clash =>
      rw [← entryKeys_nameEntries] at hnodup
      exact absurd hnodup (firstClash_of_ofCommands_eq_error hmade).not_nodup

/-- A name with blank characters around it clashes with nothing, and whoever asks for it finds the
command that has the name without them.  Of two names that are taken, the first is reported. -/
theorem ofCommands_iff_nodup_deploy :
    let deploy : Command :=
      ⟨{ name := "deploy", description := "Deploy a service.", aliases := ["", "d"] },
        by decide +kernel⟩
    let drop : Command :=
      ⟨{ name := "drop", description := "Drop a service.", aliases := [" d "] }, by decide +kernel⟩
    let delete : Command :=
      ⟨{ name := "delete", description := "Delete a service.", aliases := ["D", "rm", "RM"] },
        by decide +kernel⟩
    (∃ registry, ofCommands [deploy, drop] = .ok registry ∧ registry.Holds [deploy, drop] ∧
      registry.get? " D " = some deploy) ∧
    ofCommands [deploy, drop, delete] = .error ⟨"D", delete, deploy⟩ ∧
      FirstClash (nameEntries [deploy, drop, delete]) ⟨"D", delete, deploy⟩ ∧
      NameClash.message ⟨"D", delete, deploy⟩ =
        "Command name 'D' of '/delete' is already registered by '/deploy'." := by
  intro deploy drop delete
  constructor
  · obtain ⟨hiff, hholds, -⟩ := ofCommands_iff_nodup [deploy, drop]
    obtain ⟨registry, hok⟩ := hiff.mpr (by decide +kernel)
    refine ⟨registry, hok, hholds registry hok, ?_⟩
    rw [(hholds registry hok).get?_eq_some_iff]
    exact ⟨by decide +kernel, List.mem_cons_self, "d", by decide +kernel, by decide +kernel⟩
  · have herror : ofCommands [deploy, drop, delete] = .error ⟨"D", delete, deploy⟩ := by
      -- the three commands are values, to be computed with and not to be kept as variables
      subst deploy drop delete
      rfl
    obtain ⟨-, -, hclash⟩ := ofCommands_iff_nodup [deploy, drop, delete]
    exact ⟨herror, hclash _ herror, by decide +kernel⟩

end Registry

end SlashCommand.Grammar
