import SlashCommand.Proofs.Completion.Offer
import SlashCommand.Proofs.Walk.Move

/-!
# Whatever is offered leads on

The list of suggestions and the walk look at the same nodes of the tree, and each does so in a way
of its own.  The list collects the keywords and the values of all slots; the walk takes one word,
asks first whether it is a flag, then whether it is a keyword, and then takes it for the value of
the first slot.  `LeadsTo` says which node that is, as a fact about the nodes and not about the
search for it.

A word on offer is a keyword of one of the nodes or a value for one of the slots, so it always leads
to a node, though that need not be the one that it was offered for.  But the walk asks about flags
first, and no grammar keeps a keyword or a value from being dashed.  A dashed word is a flag to the
walk, known or not, and leaves it among the nodes where it was.
-/

namespace SlashCommand.Walk

open Grammar (Argument Command Node)

variable {nodes : List Node} {node : Node} {word : String}

/-! ## Where a word leads -/

/-- Whether a node is a keyword that a word equals, letter case aside. -/
def IsKeyword (word : String) (node : Node) : Prop :=
  ∃ value, node.keyword? = some value ∧ Text.lowercase value = Text.lowercase word

/-- Whether a word that is no flag leads from some nodes to one of them: to the first keyword that
it equals, or to the first slot if there is no such keyword. -/
inductive LeadsTo (nodes : List Node) (word : String) (node : Node) : Prop
  | keyword {before after : List Node} (hnodes : nodes = before ++ node :: after)
      (hkeyword : IsKeyword word node) (hfirst : ∀ other ∈ before, ¬ IsKeyword word other)
  | slot {before after : List Node} (hnodes : nodes = before ++ node :: after)
      (hkeyword : ∀ other ∈ nodes, ¬ IsKeyword word other)
      (hslot : node.argument?.isSome = true)
      (hfirst : ∀ other ∈ before, other.argument?.isSome = false)

lemma LeadsTo.mem (h : LeadsTo nodes word node) : node ∈ nodes := by
  cases h with
  | keyword hnodes hkeyword hfirst => simp [hnodes]
  | slot hnodes hkeyword hslot hfirst => simp [hnodes]

lemma any_keyword?_iff :
    (node.keyword?.any fun value => Text.lowercase value == Text.lowercase word) = true ↔
      IsKeyword word node := by
  simp [IsKeyword, Option.any_eq_true]

lemma find?_keyword_eq_some_iff :
    (nodes.find? fun node =>
        node.keyword?.any fun value => Text.lowercase value == Text.lowercase word) = some node ↔
      ∃ before after, nodes = before ++ node :: after ∧ IsKeyword word node ∧
        ∀ other ∈ before, ¬ IsKeyword word other := by
  rw [List.find?_eq_some_iff_append, any_keyword?_iff]
  simp only [Bool.not_eq_true', ← Bool.not_eq_true, any_keyword?_iff]
  constructor
  · rintro ⟨hkeyword, before, after, hnodes, hfirst⟩
    exact ⟨before, after, hnodes, hkeyword, hfirst⟩
  · rintro ⟨before, after, hnodes, hkeyword, hfirst⟩
    exact ⟨hkeyword, before, after, hnodes, hfirst⟩

lemma find?_keyword_eq_none_iff :
    (nodes.find? fun node =>
        node.keyword?.any fun value => Text.lowercase value == Text.lowercase word) = none ↔
      ∀ other ∈ nodes, ¬ IsKeyword word other := by
  simp only [List.find?_eq_none, any_keyword?_iff]

/-- The walk finds the node to which a word leads. -/
theorem nodeOf?_eq_some_iff : nodeOf? nodes word = some node ↔ LeadsTo nodes word node := by
  constructor
  · intro h
    rw [nodeOf?] at h
    split at h
    · next found hfound =>
      obtain rfl := Option.some.inj h
      obtain ⟨before, after, hnodes, hkeyword, hfirst⟩ := find?_keyword_eq_some_iff.mp hfound
      exact .keyword hnodes hkeyword hfirst
    · next hnone =>
      obtain ⟨hslot, before, after, hnodes, hfirst⟩ := List.find?_eq_some_iff_append.mp h
      exact .slot hnodes (find?_keyword_eq_none_iff.mp hnone) hslot (by simpa using hfirst)
  · intro h
    cases h with
    | @keyword before after hnodes hkeyword hfirst =>
      rw [nodeOf?, find?_keyword_eq_some_iff.mpr ⟨before, after, hnodes, hkeyword, hfirst⟩]
    | @slot before after hnodes hkeyword hslot hfirst =>
      rw [nodeOf?, find?_keyword_eq_none_iff.mpr hkeyword]
      exact List.find?_eq_some_iff_append.mpr
        ⟨hslot, before, after, hnodes, by simpa using hfirst⟩

/-- A word leads nowhere only if no keyword equals it and there is no slot. -/
lemma nodeOf?_eq_none_iff :
    nodeOf? nodes word = none ↔
      ∀ other ∈ nodes, ¬ IsKeyword word other ∧ other.argument? = none := by
  rw [nodeOf?]
  split
  · next found hfound =>
    obtain ⟨before, after, hnodes, hkeyword, -⟩ := find?_keyword_eq_some_iff.mp hfound
    refine iff_of_false (by simp) fun hall => ?_
    exact (hall found (by simp [hnodes])).1 hkeyword
  · next hnone =>
    rw [find?_keyword_eq_none_iff] at hnone
    simp only [List.find?_eq_none, Bool.not_eq_true, Option.isSome_eq_false_iff,
      Option.isNone_iff_eq_none]
    exact forall₂_congr fun other hother => (and_iff_right (hnone other hother)).symm

/-! ## Words on offer -/

variable {state : State} {slot : Slot} {context : Context} {providers : Providers}
  {suggestion : Suggestion}

/-- A word on offer leads to one of the nodes. -/
lemma exists_leadsTo_of_mem_nodes (h : suggestion ∈ Suggestion.nodes nodes slot context providers) :
    ∃ node, LeadsTo nodes suggestion.insertText node := by
  simp only [← nodeOf?_eq_some_iff, ← Option.isSome_iff_exists, Option.isSome_iff_ne_none]
  intro hnone
  rw [nodeOf?_eq_none_iff] at hnone
  rcases Suggestion.mem_nodes_iff.mp h with
    ⟨node, hnode, value, hvalue, score, -, rfl⟩ | ⟨node, hnode, hoffer⟩
  · exact (hnone node hnode).1 ⟨value, hvalue, rfl⟩
  · obtain ⟨value, hvalue, -⟩ := Suggestion.mem_values_iff.mp hoffer
    rw [Suggestion.argumentValues, (hnone node hnode).2] at hvalue
    simp at hvalue

/-- A word on offer that is not dashed takes the walk down to the node to which it leads: to the
first keyword that it equals, or else to the first slot.  A dashed one leaves the walk where it
was. -/
theorem step_insertText_of_mem_nodes (hfree : state.freeText = false)
    (hpending : state.pending = none)
    (h : suggestion ∈ Suggestion.nodes state.nodes slot context providers) :
    let next := step state suggestion.insertText
    (Grammar.isDashed suggestion.insertText = false →
      ∃ node ∈ state.nodes, LeadsTo state.nodes suggestion.insertText node ∧
        next.nodes = node.children ∧
        next.availableFlags = state.availableFlags ++ node.flags) ∧
    (Grammar.isDashed suggestion.insertText = true →
      next.nodes = state.nodes ∧ next.availableFlags = state.availableFlags) := by
  intro next
  have hmove : Move state suggestion.insertText next := move_step state suggestion.insertText
  obtain ⟨node, hleads⟩ := exists_leadsTo_of_mem_nodes h
  have hnode := nodeOf?_eq_some_iff.mpr hleads
  clear_value next
  cases hmove with
  | absorbed hfree' => simp [hfree] at hfree'
  | value _ hpending' => simp [hpending] at hpending'
  | flag _ _ hdashed hflag => simp [hdashed, State.useFlag]
  | unknownFlag _ _ hdashed hflag => simp [hdashed]
  | @descent _ _ hdashed found hfound =>
    obtain rfl := Option.some.inj (hfound.symm.trans hnode)
    exact ⟨fun _ => ⟨found, hleads.mem, hleads, rfl, rfl⟩,
      fun hdashed' => by simp [hdashed] at hdashed'⟩
  | exhausted _ _ _ hnone => simp [hnone] at hnode

/-- A value on offer may be spelled like a keyword, in capitals.  Then it is the keyword that it
leads to, and not the slot that it was offered for. -/
theorem step_insertText_of_mem_nodes_mute :
    let level : Argument :=
      ⟨{ name := "level", kind := .enum, enumValues := some ["Mute", "-1"] }, rfl⟩
    let mute : Node := .literal "mute" none [] [.literal "all" none [] []]
    let state := along
      ⟨{ name := "volume", description := "Set it.", root := [.argument level [] [], mute] },
        by decide +kernel⟩ []
    ⟨"Mute", "Mute", .argument, 0, 8, 8, none⟩ ∈
        Suggestion.nodes state.nodes ⟨"", 8, 8⟩ {} .standard ∧
      LeadsTo state.nodes "Mute" mute ∧ (step state "Mute").nodes = mute.children ∧
      (step state "Mute").availableFlags = state.availableFlags ++ mute.flags := by
  intro level mute state
  have hlevel : .argument level [] [] ∈ state.nodes := List.mem_cons_self
  have hvalue : "Mute" ∈ Suggestion.argumentValues {} .standard (.argument level [] []) := by
    decide +kernel
  have hoffer : ⟨"Mute", "Mute", .argument, 0, 8, 8, none⟩ ∈
      Suggestion.nodes state.nodes ⟨"", 8, 8⟩ {} .standard :=
    Suggestion.mem_nodes_of_scoreOf_eq_some hlevel hvalue (by decide +kernel)
  have hmute : nodeOf? state.nodes "Mute" = some mute := by
    subst state mute level
    rfl
  obtain ⟨node, -, hleads, hnodes, hflags⟩ :=
    (step_insertText_of_mem_nodes rfl rfl hoffer).1 (by decide)
  obtain rfl := Option.some.inj (hmute.symm.trans (nodeOf?_eq_some_iff.mpr hleads))
  exact ⟨hoffer, hleads, hnodes, hflags⟩

/-- A dashed value is on offer, and the walk does not accept it: it does not get below any of the
nodes. -/
theorem step_insertText_of_mem_nodes_dashed :
    let level : Argument :=
      ⟨{ name := "level", kind := .enum, enumValues := some ["-1", "1"] }, rfl⟩
    let state := along
      ⟨{ name := "volume", description := "Set it.", root := [.argument level [] []] },
        by decide +kernel⟩ []
    ∃ suggestion ∈ Suggestion.nodes state.nodes ⟨"", 8, 8⟩ {} .standard,
      suggestion.insertText = "-1" ∧ suggestion.kind = .argument ∧ state.freeText = false ∧
        state.pending = none ∧
        ¬ ∃ node ∈ state.nodes, (step state suggestion.insertText).nodes = node.children := by
  intro level state
  refine ⟨⟨"-1", "-1", .argument, 0, 8, 8, none⟩, ?_, rfl, rfl, rfl, rfl, ?_⟩
  · have hlevel : .argument level [] [] ∈ state.nodes := List.mem_cons_self
    have hvalue : "-1" ∈ Suggestion.argumentValues {} .standard (.argument level [] []) := by
      decide +kernel
    exact Suggestion.mem_nodes_of_scoreOf_eq_some hlevel hvalue (by decide +kernel)
  · rintro ⟨node, hnode, hchildren⟩
    obtain rfl := List.mem_singleton.mp hnode
    have hstay : (step state "-1").nodes = [.argument level [] []] := rfl
    rw [hstay] at hchildren
    cases hchildren

end SlashCommand.Walk
