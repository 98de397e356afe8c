import Mathlib.Data.List.Basic
import SlashCommand.Grammar.Builtin
import SlashCommand.Proofs.Text.Strip

/-!
# What a registry answers

The index of a registry is built name by name, and a name is added only while it is free.  So
nothing is ever overwritten: the index of a registry lists the names of its commands, aliases
included, each under its lowercase form and in the order of the commands (`entries_index`).
Whatever a look-up finds is therefore one of the registry's own commands
(`mem_commands_of_get?_eq_some`).
-/

namespace SlashCommand.Text.CaselessMap

variable {α : Type}

/-- A key that was not there is put behind those that are. -/
lemma entries_insert_of_get?_eq_none {map : CaselessMap α} {key : Key} (value : α)
    (h : map.get? key = none) :
    (map.insert key value).entries = map.entries ++ [(key.folded, value)] := by
  have hfree : ¬ map.contains key = true := by
    rw [contains, h]
    exact Bool.false_ne_true
  rw [insert, if_neg hfree]

lemma mem_entries_of_get?_eq_some {map : CaselessMap α} {key : Key} {value : α}
    (h : map.get? key = some value) : (key.folded, value) ∈ map.entries := by
  obtain ⟨before, after, hentries, -⟩ := List.lookup_eq_some_iff.mp h
  rw [hentries]
  exact List.mem_append_right before List.mem_cons_self

end SlashCommand.Text.CaselessMap

namespace SlashCommand.Grammar

open Text (CaselessMap)

/-- An entry of an index: the lowercase form of a name, and the command that goes by it. -/
def indexEntry (entry : String × Command) : Text.Key × Command :=
  ((Text.Key.text entry.1).folded, entry.2)

/-- Names that can be added are all added, behind those that are there. -/
theorem entries_of_addNames_eq_ok {index index' : CaselessMap Command}
    {entries : List (String × Command)} (h : addNames index entries = .ok index') :
    index'.entries = index.entries ++ entries.map indexEntry := by
  induction entries generalizing index with
  | nil =>
    obtain rfl := Except.ok.inj h
    rw [List.map_nil, List.append_nil]
  | cons entry entries ih =>
    obtain ⟨name, command⟩ := entry
    rw [addNames] at h
    split at h
    · exact nomatch h
    · next hfree =>
      rw [ih h, CaselessMap.entries_insert_of_get?_eq_none command hfree, List.append_assoc]
      rfl

namespace Registry

variable {registry : Registry} {name : String} {command : Command}

theorem entries_index (registry : Registry) :
    registry.index.entries = (nameEntries registry.commands).map indexEntry :=
  entries_of_addNames_eq_ok registry.indexNames_commands

/-- Blank characters around a name do not matter. -/
@[simp] lemma get?_strip (registry : Registry) (name : String) :
    registry.get? (Text.strip name) = registry.get? name := by
  rw [get?, get?, Text.strip_strip]

/-- A look-up finds nothing but commands of the registry. -/
theorem mem_commands_of_get?_eq_some (h : registry.get? name = some command) :
    command ∈ registry.commands := by
  rw [get?] at h
  split at h
  · exact nomatch h
  · have hentry := CaselessMap.mem_entries_of_get?_eq_some h
    rw [entries_index, List.mem_map] at hentry
    obtain ⟨⟨owned, owner⟩, howner, heq⟩ := hentry
    obtain rfl : owner = command := congrArg Prod.snd heq
    obtain ⟨holder, hholder, hname⟩ := List.mem_flatMap.mp howner
    obtain ⟨_, _, hpair⟩ := List.mem_map.mp hname
    obtain rfl : holder = owner := congrArg Prod.snd hpair
    exact hholder

lemma commands_of_ofCommands_eq_ok {commands : List Command}
    (h : ofCommands commands = .ok registry) : registry.commands = commands := by
  rw [ofCommands] at h
  split at h
  · obtain rfl := Except.ok.inj h
    rfl
  · exact nomatch h

/-! ## The registry in force -/

/-- The built-in commands have distinct names, so they do make up a registry. -/
theorem commands_builtin : builtin.commands = Builtin.commands := by
  have hok : (ofCommands Builtin.commands).isOk = true := by decide +kernel
  unfold builtin
  -- the built-in commands are a value: they are put away before the cases, not computed again
  generalize hmade : ofCommands Builtin.commands = made at hok ⊢
  cases made with
  | ok registry => exact commands_of_ofCommands_eq_ok hmade
  | error clash => exact nomatch hok

lemma orBuiltin_of_ne_nil (h : registry.commands ≠ []) : orBuiltin (some registry) = registry := by
  rw [orBuiltin, List.isEmpty_eq_false_iff.mpr h, if_neg Bool.false_ne_true]

lemma orBuiltin_of_eq_nil (h : registry.commands = []) :
    orBuiltin (some registry) = orBuiltin none := by
  simp only [orBuiltin, h, List.isEmpty_nil, if_true]

end Registry

end SlashCommand.Grammar
