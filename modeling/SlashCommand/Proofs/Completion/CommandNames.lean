import Mathlib.Data.List.Count
import SlashCommand.Proofs.Completion.Request
import SlashCommand.Proofs.Grammar.Names
import SlashCommand.Proofs.Score.Matching
import SlashCommand.Proofs.Text.Lowercase

/-!
# Which command names are on offer

Command names are scored one by one, and whoever lists them looks neither for aliases nor for
duplicates.  That there are none comes from the registry: letter case aside, all names of all its
commands are distinct, and it makes no difference to that whether they stand behind the slash
(`Text.lowercase_slash_append`).  So the commands whose names match are on offer, each of them
once, and nothing else is (`offersNames_commandNames`).
-/

namespace SlashCommand

open Grammar (Command Registry)

namespace Suggestion

/-- Whether what has been typed for a slot occurs in a name: its characters in order, letter case
aside. -/
def Occurs (slot : Slot) (name : String) : Prop :=
  (Text.lowercaseChars slot.stem.toList).Sublist (Text.lowercaseChars name.toList)

/-- Whether a suggestion for a slot is that of a command's primary name. -/
structure Names (command : Command) (slot : Slot) (suggestion : Suggestion) : Prop where
  label_eq : suggestion.label = "/" ++ command.name
  insertText_eq : suggestion.insertText = "/" ++ command.name
  kind_eq : suggestion.kind = .command
  detail_eq : suggestion.detail = some command.description
  fits : suggestion.Fits slot

/-- Whether a list for a slot offers those commands of a registry whose primary names match. -/
structure OffersNames (registry : Registry) (slot : Slot) (offered : List Suggestion) : Prop where
  /-- A command whose name matches is on offer, and only once. -/
  count_eq_one : ∀ command ∈ registry.commands, Occurs slot command.name →
    (offered.map (·.label)).count ("/" ++ command.name) = 1
  /-- Whatever is on offer is a command whose name matches, and the one that is found under the
  label. -/
  exists_command : ∀ suggestion ∈ offered, ∃ command ∈ registry.commands,
    Occurs slot command.name ∧ Names command slot suggestion ∧
      registry.get? (Completion.dropSlash suggestion.label) = some command
  nodup_label : (offered.map (Text.lowercase ·.label)).Nodup
  /-- No label is an alias behind the slash. -/
  label_ne_alias : ∀ suggestion ∈ offered, ∀ command ∈ registry.commands,
    ∀ short ∈ command.aliases, Text.lowercase suggestion.label ≠ Text.lowercase ("/" ++ short)

variable {slot : Slot} {suggestion : Suggestion} {commands : List Command}

/-- A command is on offer exactly if its name matches. -/
lemma mem_commandNames_iff_occurs :
    suggestion ∈ commandNames commands slot ↔
      ∃ command ∈ commands, Occurs slot command.name ∧ Names command slot suggestion ∧
        scoreOf slot.stem command.name = some suggestion.score := by
  rw [mem_commandNames_iff]
  refine exists_congr fun command => and_congr_right fun _ => ?_
  constructor
  · rintro ⟨score, hscore, rfl⟩
    have hoccurs : Occurs slot command.name :=
      isSome_scoreOf_iff.mp (Option.isSome_of_eq_some hscore)
    exact ⟨hoccurs, ⟨rfl, rfl, rfl, rfl, ⟨rfl, rfl⟩⟩, hscore⟩
  · rintro ⟨-, hnames, hscore⟩
    refine ⟨suggestion.score, hscore, ?_⟩
    rcases suggestion with ⟨label, insertText, kind, score, start, stop, detail⟩
    obtain ⟨rfl, rfl, rfl, rfl, rfl, rfl⟩ := hnames
    rfl

/-- The labels on offer are the names of the commands that match, in some order. -/
lemma map_label_commandNames_perm (commands : List Command) (slot : Slot) :
    ((commandNames commands slot).map (·.label)).Perm
      ((commands.filter fun command => (scoreOf slot.stem command.name).isSome).map
        ("/" ++ ·.name)) := by
  refine ((List.mergeSort_perm _ _).map _).trans (List.Perm.of_eq ?_)
  induction commands with
  | nil => rfl
  | cons command commands ih => cases hscore : scoreOf slot.stem command.name <;> simp [hscore, ih]

/-- Letter case aside, no label is on offer twice. -/
lemma nodup_map_label_commandNames (registry : Registry) (slot : Slot) :
    ((commandNames registry.commands slot).map (Text.lowercase ·.label)).Nodup := by
  have hperm := (map_label_commandNames_perm registry.commands slot).map Text.lowercase
  rw [List.map_map, List.map_map] at hperm
  refine hperm.nodup_iff.mpr ?_
  have hlabels : registry.commands.map (Text.lowercase ∘ ("/" ++ ·.name)) =
      (registry.commands.map fun command => Text.lowercase command.name).map ("/" ++ ·) := by
    rw [List.map_map]
    exact List.map_congr_left fun command _ => Text.lowercase_slash_append command.name
  have hslash : Function.Injective fun name : String => "/" ++ name :=
    fun first second h => String.append_right_inj "/" |>.mp h
  have hnodup := registry.nodup_map_lowercase_name.map hslash
  rw [← hlabels] at hnodup
  exact hnodup.sublist (List.filter_sublist.map _)

/-- Whatever is typed, the commands whose names match are on offer, each of them once, under its
primary name, and nothing else is: no command twice, and none under an alias. -/
theorem offersNames_commandNames (registry : Registry) (slot : Slot) :
    OffersNames registry slot (commandNames registry.commands slot) where
  count_eq_one command hcommand hoccurs := by
    obtain ⟨score, hscore⟩ := Option.isSome_iff_exists.mp (isSome_scoreOf_iff.mpr hoccurs)
    have hoffer := mem_commandNames_iff.mpr ⟨command, hcommand, score, hscore, rfl⟩
    have hnodup : ((commandNames registry.commands slot).map (·.label)).Nodup := by
      refine List.Nodup.of_map Text.lowercase ?_
      rw [List.map_map]
      exact nodup_map_label_commandNames registry slot
    exact List.count_eq_one_of_mem hnodup (List.mem_map_of_mem hoffer)
  exists_command suggestion hoffer := by
    obtain ⟨command, hcommand, hoccurs, hnames, -⟩ := mem_commandNames_iff_occurs.mp hoffer
    refine ⟨command, hcommand, hoccurs, hnames, ?_⟩
    rw [hnames.label_eq, Completion.dropSlash_slash_append, registry.get?_name hcommand]
  nodup_label := nodup_map_label_commandNames registry slot
  label_ne_alias suggestion hoffer owner howner short hshort := by
    obtain ⟨command, hcommand, -, hnames, -⟩ := mem_commandNames_iff_occurs.mp hoffer
    rw [hnames.label_eq, ne_eq, Text.lowercase_slash_append_inj]
    exact Registry.lowercase_name_ne hcommand howner hshort

end Suggestion

end SlashCommand
