import SlashCommand.Proofs.Grammar.Names

/-!
# Adding commands

A registry with more commands is built anew, from the commands that were there and those that are
added.  The names are still added in order.  So the index of the larger registry is that of the
smaller one with the new names behind it (`indexNames_append`), and a clash among the first
commands is the first clash of all of them.  Hence commands can be added at once or one lot after
the other, and nothing that was found before is found differently (`merged_merged`,
`get?_of_merged_eq_ok`).
-/

namespace SlashCommand.Grammar

open Text (CaselessMap)

lemma nameEntries_append (first second : List Command) :
    nameEntries (first ++ second) = nameEntries first ++ nameEntries second :=
  List.flatMap_append

/-- Names are added in two lots as they are all at once. -/
lemma addNames_append (index : CaselessMap Command) (first second : List (String × Command)) :
    addNames index (first ++ second) =
      (addNames index first).bind fun index => addNames index second := by
  induction first generalizing index with
  | nil => rfl
  | cons entry first ih =>
    obtain ⟨name, command⟩ := entry
    rw [List.cons_append, addNames, addNames]
    cases index.get? (.text name) with
    | some holder => rfl
    | none => exact ih _

/-- The index of some commands is made by adding the names of the last ones to the index of the
others. -/
theorem indexNames_append (first second : List Command) :
    indexNames (first ++ second) =
      (indexNames first).bind fun index => addNames index (nameEntries second) := by
  rw [indexNames, nameEntries_append, addNames_append]
  rfl

namespace Registry

variable {registry merged : Registry} {commands added : List Command} {clash : NameClash}

lemma indexNames_of_ofCommands_eq_error (h : ofCommands commands = .error clash) :
    indexNames commands = .error clash := by
  rw [ofCommands] at h
  split at h
  · cases h
  · next herror => rw [herror, Except.error.inj h]

lemma ofCommands_of_indexNames_eq_error (h : indexNames commands = .error clash) :
    ofCommands commands = .error clash := by
  rw [ofCommands]
  split
  · next hok => cases h.symm.trans hok
  · next herror => rw [Except.error.inj (h.symm.trans herror)]

lemma commands_of_merged_eq_ok (h : registry.merged added = .ok merged) :
    merged.commands = registry.commands ++ added :=
  commands_of_ofCommands_eq_ok h

/-- Commands that are added in two lots give the registry, or the clash, that they give when they
are added at once. -/
theorem merged_merged (registry : Registry) (first second : List Command) :
    ((registry.merged first).bind fun merged => merged.merged second) =
      registry.merged (first ++ second) := by
  cases hfirst : registry.merged first with
  | ok merged =>
    have hcommands := commands_of_merged_eq_ok hfirst
    rw [Except.bind, Registry.merged, Registry.merged, hcommands, List.append_assoc]
  | error clash =>
    -- the clash is met before the names of the second lot are looked at
    have hclash : indexNames (registry.commands ++ first) = .error clash :=
      indexNames_of_ofCommands_eq_error hfirst
    have hboth : indexNames (registry.commands ++ (first ++ second)) = .error clash := by
      rw [← List.append_assoc, indexNames_append, hclash]
      rfl
    rw [Except.bind, Registry.merged, ofCommands_of_indexNames_eq_error hboth]

lemma names_of_merged_eq_ok (h : registry.merged added = .ok merged) :
    merged.names = registry.names ++ added.map (·.name) := by
  rw [names, commands_of_merged_eq_ok h, List.map_append]
  rfl

/-- What was found under a name is still found under it. -/
theorem get?_of_merged_eq_ok (h : registry.merged added = .ok merged) {name : String}
    {command : Command} (hfound : registry.get? name = some command) :
    merged.get? name = some command := by
  rw [get?_eq_some_iff_exists_mem_names] at hfound ⊢
  obtain ⟨hblank, hcommand, hname⟩ := hfound
  refine ⟨hblank, ?_, hname⟩
  rw [commands_of_merged_eq_ok h]
  exact List.mem_append_left added hcommand

/-- What is found only in the larger registry is one of the commands that were added. -/
lemma mem_added_of_merged_eq_ok (h : registry.merged added = .ok merged) {name : String}
    {command : Command} (hnone : registry.get? name = none)
    (hfound : merged.get? name = some command) : command ∈ added := by
  rw [get?_eq_some_iff_exists_mem_names, commands_of_merged_eq_ok h, List.mem_append] at hfound
  obtain ⟨hblank, hold | hnew, hname⟩ := hfound
  · have hsome := get?_eq_some_iff_exists_mem_names.mpr ⟨hblank, hold, hname⟩
    rw [hnone] at hsome
    cases hsome
  · exact hnew

end Registry

end SlashCommand.Grammar
