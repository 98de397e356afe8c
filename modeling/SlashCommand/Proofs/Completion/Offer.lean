import Mathlib.Data.List.Basic
import SlashCommand.Suggestion

/-!
# What is on offer in a slot

Every list of suggestions is made the same way: candidates are scored against the stem, those
that match become suggestions for the slot, and the list is sorted.  `mem_commandNames_iff`,
`mem_values_iff`, `mem_nodes_iff` and `mem_flags_iff` say of each list what is in it, and the
modules that speak of suggestions go through them.

So a suggestion always replaces the range of the slot it was made for, and its kind tells which
list it came from.
-/

namespace SlashCommand

open Grammar (Command Flag Node)

namespace Suggestion

variable {suggestion : Suggestion} {slot : Slot}

@[simp] lemma mem_sorted {suggestions : List Suggestion} :
    suggestion ∈ sorted suggestions ↔ suggestion ∈ suggestions :=
  List.mem_mergeSort

/-! ## What is in the lists -/

lemma match?_eq_some_iff {kind : SuggestionKind} {word : String} {detail : Option String} :
    match? slot kind word detail = some suggestion ↔
      ∃ score, scoreOf slot.stem word = some score ∧
        suggestion = ⟨word, word, kind, score, slot.start, slot.stop, detail⟩ := by
  rw [match?, Option.map_eq_some_iff]
  exact exists_congr fun score => and_congr_right fun _ => eq_comm

lemma mem_commandNames_iff {commands : List Command} :
    suggestion ∈ commandNames commands slot ↔
      ∃ command ∈ commands, ∃ score, scoreOf slot.stem command.name = some score ∧
        suggestion = ⟨"/" ++ command.name, "/" ++ command.name, .command, score, slot.start,
          slot.stop, some command.description⟩ := by
  rw [commandNames, mem_sorted, List.mem_filterMap]
  refine exists_congr fun command => and_congr_right fun _ => ?_
  rw [Option.map_eq_some_iff]
  exact exists_congr fun score => and_congr_right fun _ => eq_comm

lemma mem_values_iff {candidates : List String} {kind : SuggestionKind}
    {describe : String → Option String} :
    suggestion ∈ values candidates slot kind describe ↔
      ∃ candidate ∈ candidates, ∃ score, scoreOf slot.stem candidate = some score ∧
        suggestion = ⟨candidate, candidate, kind, score, slot.start, slot.stop,
          describe candidate⟩ := by
  rw [values, mem_sorted, List.mem_filterMap]
  exact exists_congr fun candidate => and_congr_right fun _ => match?_eq_some_iff

/-- Of nodes, the keywords are on offer and the known values of the slots. -/
lemma mem_nodes_iff {nodes : List Node} {context : Context} {providers : Providers} :
    suggestion ∈ Suggestion.nodes nodes slot context providers ↔
      (∃ node ∈ nodes, ∃ value, node.keyword? = some value ∧
        ∃ score, scoreOf slot.stem value = some score ∧
          suggestion = ⟨value, value, .subcommand, score, slot.start, slot.stop,
            node.description⟩) ∨
      ∃ node ∈ nodes, suggestion ∈ values (argumentValues context providers node) slot .argument
        fun _ => node.description := by
  rw [Suggestion.nodes, mem_sorted, List.mem_append]
  refine or_congr ?_ List.mem_flatMap
  rw [keywords, List.mem_filterMap]
  refine exists_congr fun node => and_congr_right fun _ => ?_
  refine Option.bind_eq_some_iff.trans ?_
  exact exists_congr fun value => and_congr_right fun _ => match?_eq_some_iff

lemma mem_flags_iff {available : List Flag} {used : List String} {penalty : Penalty} :
    suggestion ∈ flags available used slot penalty ↔
      ∃ flag ∈ offered used [] available, ∃ score, scoreOf slot.stem flag.name = some score ∧
        suggestion = ⟨flag.name, flag.name, .flag,
          penalty.addTo score (isWholeScore slot.stem flag.name), slot.start, slot.stop,
          flag.description⟩ := by
  rw [flags, mem_sorted, List.mem_filterMap]
  refine exists_congr fun flag => and_congr_right fun _ => ?_
  rw [match?, Option.map_map, Option.map_eq_some_iff]
  exact exists_congr fun score => and_congr_right fun _ => eq_comm

/-! ## Ranges and kinds -/

/-- Whether a suggestion replaces the range of a slot. -/
structure Fits (slot : Slot) (suggestion : Suggestion) : Prop where
  start_eq : suggestion.start = slot.start
  stop_eq : suggestion.stop = slot.stop

/-- A command name on offer is that of one of the commands, behind a slash. -/
lemma fits_of_mem_commandNames {commands : List Command}
    (h : suggestion ∈ commandNames commands slot) :
    suggestion.Fits slot ∧ suggestion.kind = .command ∧
      ∃ command ∈ commands, suggestion.label = "/" ++ command.name ∧
        suggestion.insertText = "/" ++ command.name := by
  obtain ⟨command, hcommand, score, -, rfl⟩ := mem_commandNames_iff.mp h
  exact ⟨⟨rfl, rfl⟩, rfl, command, hcommand, rfl, rfl⟩

lemma fits_of_mem_values {candidates : List String} {kind : SuggestionKind}
    {describe : String → Option String} (h : suggestion ∈ values candidates slot kind describe) :
    suggestion.Fits slot ∧ suggestion.kind = kind := by
  obtain ⟨candidate, -, score, -, rfl⟩ := mem_values_iff.mp h
  exact ⟨⟨rfl, rfl⟩, rfl⟩

lemma fits_of_mem_flags {available : List Flag} {used : List String} {penalty : Penalty}
    (h : suggestion ∈ flags available used slot penalty) :
    suggestion.Fits slot ∧ suggestion.kind = .flag := by
  obtain ⟨flag, -, score, -, rfl⟩ := mem_flags_iff.mp h
  exact ⟨⟨rfl, rfl⟩, rfl⟩

lemma fits_of_mem_nodes {nodes : List Node} {context : Context} {providers : Providers}
    (h : suggestion ∈ Suggestion.nodes nodes slot context providers) :
    suggestion.Fits slot ∧ (suggestion.kind = .subcommand ∨ suggestion.kind = .argument) := by
  rcases mem_nodes_iff.mp h with ⟨node, -, value, -, score, -, rfl⟩ | ⟨node, -, hvalue⟩
  · exact ⟨⟨rfl, rfl⟩, .inl rfl⟩
  · obtain ⟨hfits, hkind⟩ := fits_of_mem_values hvalue
    exact ⟨hfits, .inr hkind⟩

/-- Every known value of a slot among the nodes is on offer, if it matches. -/
lemma mem_nodes_of_scoreOf_eq_some {nodes : List Node} {node : Node} (hnode : node ∈ nodes)
    {context : Context} {providers : Providers} {value : String}
    (hvalue : value ∈ argumentValues context providers node) {score : Rat}
    (hscore : scoreOf slot.stem value = some score) :
    ⟨value, value, .argument, score, slot.start, slot.stop, node.description⟩ ∈
      Suggestion.nodes nodes slot context providers :=
  mem_nodes_iff.mpr (.inr ⟨node, hnode, mem_values_iff.mpr ⟨value, hvalue, score, hscore, rfl⟩⟩)

lemma fits_of_mem_flagValues {flag : Flag} {context : Context} {providers : Providers}
    (h : suggestion ∈ flagValues flag slot context providers) :
    suggestion.Fits slot ∧ suggestion.kind = .flagValue :=
  fits_of_mem_values h

end Suggestion

end SlashCommand
