import SlashCommand.Proofs.Completion.Request
import SlashCommand.Proofs.Grammar.Sound
import SlashCommand.Proofs.Score.Tiers

/-!
# Hints and suggestions

While nothing is typed behind a command, the hint and the suggestions are two ways to show what may
come next.  The hint is written from the state of the walk, in the order of the grammar; the
suggestions are scored, sorted, and listed together with flags.  Nothing is lost or added on the
way: an empty stem matches every word, so what is listed are the options of the hint in another
order.

`OffersValues` and `OffersKeywords` say this of the two sorts of options that a hint spells out,
the values of a flag and the keywords of a tree.  That a flag has values to choose from, and the
hint so something to show, is part of its soundness.
-/

namespace SlashCommand

open Grammar (Command Flag Node Registry)
open Line

/-! ## Where a line leads -/

/-- Whether the complete words behind a command lead to a state of the walk. -/
inductive WalksTo (registry : Registry) (line : String) (cursor : Int) : Walk.State → Prop
  | intro {first : Token} {rest : List Token} {command : Command}
      (hline : Completion.isCommandLine line = true) (htokens : tokenize line = first :: rest)
      (hactive : (focus line cursor).active ≠ some 0) (hslash : first.text ≠ "/")
      (hcommand : registry.get? (Completion.dropSlash first.text) = some command) :
      WalksTo registry line cursor
        (Walk.along command ((focus line cursor).settled.map (·.text)))

variable {registry : Registry} {line : String} {cursor : Int} {state : Walk.State}

/-- The state decides what is asked for. -/
lemma WalksTo.ofLine_eq (h : WalksTo registry line cursor state) :
    Request.ofLine registry line cursor =
      .ofState state ⟨(focus line cursor).stem, (focus line cursor).start,
        (focus line cursor).stop⟩ := by
  obtain ⟨hline, htokens, hactive, hslash, hcommand⟩ := h
  rcases Request.ofLine_cases registry line cursor with
    ⟨hnot, -⟩ | ⟨first, rest, -, hfirst, ⟨hname, -⟩ | ⟨-, -, hrequest⟩⟩
  · exact absurd hline (Bool.eq_false_iff.mp hnot)
  · obtain rfl := (List.cons.inj (hfirst.symm.trans htokens)).1
    exact absurd hname (not_or.mpr ⟨hactive, hslash⟩)
  · obtain rfl := (List.cons.inj (hfirst.symm.trans htokens)).1
    rw [hrequest, hcommand, Request.behind]

/-! ## Options -/

/-- The options that a hint shows: all of them up to five, and else the first four. -/
def shownOptions (options : List String) : String :=
  if options.length ≤ 5 then "<" ++ "|".intercalate options ++ ">"
  else "<" ++ "|".intercalate (options.take 4) ++ "|...>"

/-- Whether hint and suggestions both show the values of a flag. -/
structure OffersValues (values : List String) (completion : Completion) : Prop where
  context_eq : completion.context = .flagValue
  hint_eq : completion.hint = some ("<" ++ "|".intercalate values ++ ">")
  labels_perm : (completion.suggestions.map (·.label)).Perm values
  kind_eq : ∀ suggestion ∈ completion.suggestions, suggestion.kind = .flagValue

/-- Whether hint and suggestions both show keywords, the suggestions with flags beside them. -/
structure OffersKeywords (keywords : List String) (completion : Completion) : Prop where
  context_eq : completion.context = .subcommand
  hint_eq : completion.hint = some (shownOptions keywords)
  labels_perm :
    ((completion.suggestions.filter (·.kind = .subcommand)).map (·.label)).Perm keywords
  kind_eq : ∀ suggestion ∈ completion.suggestions,
    suggestion.kind = .subcommand ∨ suggestion.kind = .flag

/-! ## The hint -/

lemma optionList_take_four {options : List String} (h : ¬ options.length ≤ 5) :
    Walk.optionList (options.take 4 ++ ["..."]) =
      "<" ++ "|".intercalate (options.take 4) ++ "|...>" := by
  have hne : options.take 4 ≠ [] := by
    intro hnil
    have hlength := congrArg List.length hnil
    rw [List.length_take, List.length_nil] at hlength
    omega
  rw [Walk.optionList, String.intercalate_append_of_ne_nil hne (List.cons_ne_nil _ _),
    String.intercalate_singleton]
  simp only [String.append_assoc]
  rfl

lemma hint_of_pending {flag : Flag} (hfree : state.freeText = false)
    (hpending : state.pending = some flag) (hkind : flag.kind = .enum) {values : List String}
    (hvalues : flag.enumValues = some values) (hne : values ≠ []) :
    state.hint = some ("<" ++ "|".intercalate values ++ ">") := by
  obtain ⟨value, others, rfl⟩ := List.exists_cons_of_ne_nil hne
  simp only [Walk.State.hint, hfree, hpending, hkind, hvalues, Bool.false_eq_true, if_false,
    Walk.optionList]

/-- The keywords of nodes that are all keywords. -/
lemma filterMap_keyword? {nodes : List Node} {keywords : List String}
    (h : nodes.map Node.keyword? = keywords.map some) :
    nodes.filterMap Node.keyword? = keywords := by
  have hid : nodes.filterMap Node.keyword? = (nodes.map Node.keyword?).filterMap id := by
    rw [List.filterMap_map]
    rfl
  rw [hid, h, List.filterMap_map]
  exact List.filterMap_some

lemma hint_of_keywords (hfree : state.freeText = false) (hpending : state.pending = none)
    (hne : state.nodes ≠ []) {keywords : List String}
    (hnodes : state.nodes.map Node.keyword? = keywords.map some) :
    state.hint = some (shownOptions keywords) := by
  have hlength : keywords.length = state.nodes.length := by
    simpa using (congrArg List.length hnodes).symm
  have hempty : state.nodes.isEmpty = false := by simpa using hne
  simp only [Walk.State.hint, hfree, hpending, hempty, filterMap_keyword? hnodes, hlength,
    Bool.false_eq_true, if_false, if_true]
  rw [shownOptions, hlength]
  split_ifs with hfive
  · rfl
  · rw [optionList_take_four (by rwa [hlength])]

/-! ## The suggestions -/

namespace Suggestion

variable {slot : Slot} {context : Context} {providers : Providers}

/-- While nothing is typed, every candidate is listed. -/
lemma map_label_values_perm (hstem : slot.stem = "") (candidates : List String)
    (kind : SuggestionKind) (describe : String → Option String) :
    ((values candidates slot kind describe).map (·.label)).Perm candidates := by
  have hperm := perm_map_label_values candidates slot kind describe
  rw [hstem] at hperm
  simpa using hperm

lemma map_label_flagValues_perm (hstem : slot.stem = "") {flag : Flag} (hkind : flag.kind = .enum)
    {values : List String} (hvalues : flag.enumValues = some values) :
    ((flagValues flag slot context providers).map (·.label)).Perm values := by
  have hcandidates : flagCandidates flag context providers = values := by
    simp only [flagCandidates, hkind, hvalues, Option.getD_some]
  rw [flagValues, hcandidates]
  exact map_label_values_perm hstem values _ _

/-- Nodes that are all keywords have no arguments. -/
lemma arguments_eq_nil {nodes : List Node}
    (h : ∀ node ∈ nodes, node.keyword?.isSome = true) :
    arguments nodes slot context providers = [] := by
  refine List.flatMap_eq_nil_iff.mpr fun node hnode => ?_
  cases node with
  | literal => simp [argumentValues, Grammar.Node.argument?, values, sorted]
  | argument => exact absurd (h _ hnode) Bool.false_ne_true

lemma isSome_keyword?_of_mem {nodes : List Node} {words : List String}
    (h : nodes.map Node.keyword? = words.map some) :
    ∀ node ∈ nodes, node.keyword?.isSome = true := by
  intro node hnode
  have hmem : node.keyword? ∈ words.map some := h ▸ List.mem_map_of_mem hnode
  obtain ⟨word, -, hword⟩ := List.mem_map.mp hmem
  rw [← hword, Option.isSome_some]

/-- While nothing is typed, every keyword among some nodes is listed. -/
lemma map_label_keywords (hstem : slot.stem = "") (nodes : List Node) :
    (keywords nodes slot).map (·.label) = nodes.filterMap Node.keyword? := by
  rw [keywords, List.map_filterMap]
  refine List.filterMap_congr fun node _ => ?_
  cases node.keyword? with
  | none => rfl
  | some value => simp [match?, hstem]

lemma map_label_nodes_perm (hstem : slot.stem = "") {nodes : List Node} {words : List String}
    (hnodes : nodes.map Node.keyword? = words.map some) :
    ((Suggestion.nodes nodes slot context providers).map (·.label)).Perm words := by
  have hperm := (List.mergeSort_perm (keywords nodes slot) precedes).map (·.label)
  rw [map_label_keywords hstem, filterMap_keyword? hnodes] at hperm
  rwa [Suggestion.nodes, arguments_eq_nil (isSome_keyword?_of_mem hnodes), List.append_nil, sorted]

lemma nodes_ne_nil (hstem : slot.stem = "") {nodes : List Node} (hne : nodes ≠ [])
    {words : List String} (hnodes : nodes.map Node.keyword? = words.map some) :
    Suggestion.nodes nodes slot context providers ≠ [] := by
  intro hnil
  have hlabels := @map_label_nodes_perm slot context providers hstem nodes words hnodes
  rw [hnil, List.map_nil] at hlabels
  rw [← hlabels.nil_eq, List.map_nil, List.map_eq_nil_iff] at hnodes
  exact hne hnodes

lemma nodesContext_of_isSome {nodes : List Node} (hne : nodes ≠ [])
    (h : ∀ node ∈ nodes, node.keyword?.isSome = true) : nodesContext nodes = .subcommand := by
  obtain ⟨node, others, rfl⟩ := List.exists_cons_of_ne_nil hne
  rw [nodesContext, if_pos (List.any_eq_true.mpr ⟨node, List.mem_cons_self, h _ List.mem_cons_self⟩)]

lemma kind_of_mem_nodes {nodes : List Node} (hnodes : ∀ node ∈ nodes, node.keyword?.isSome = true)
    {suggestion : Suggestion} (h : suggestion ∈ Suggestion.nodes nodes slot context providers) :
    suggestion.kind = .subcommand := by
  rw [Suggestion.nodes, mem_sorted, arguments_eq_nil hnodes, List.append_nil, keywords,
    List.mem_filterMap] at h
  obtain ⟨node, -, hmatch⟩ := h
  obtain ⟨value, -, hvalue⟩ := Option.bind_eq_some_iff.mp hmatch
  obtain ⟨score, -, rfl⟩ := match?_eq_some_iff.mp hvalue
  rfl

end Suggestion

/-! ## Both together -/

variable {given : Option Registry} (context : Context) (providers : Providers)

/-- Where the value of an enumerated flag comes next, hint and suggestions both show its values. -/
lemma WalksTo.offersValues (hwalk : WalksTo (Registry.orBuiltin given) line cursor state)
    (hstem : (focus line cursor).stem = "") (hfree : state.freeText = false) {flag : Flag}
    (hpending : state.pending = some flag) (hkind : flag.kind = .enum) {values : List String}
    (hvalues : flag.enumValues = some values) (hne : values ≠ []) :
    OffersValues values (complete line cursor context given providers) := by
  have hrequest := hwalk.ofLine_eq
  rw [Request.ofState_of_pending hfree hpending, hstem, if_pos rfl] at hrequest
  rw [complete, hrequest]
  refine ⟨rfl, hint_of_pending hfree hpending hkind hvalues hne, ?_, ?_⟩
  · exact Suggestion.map_label_flagValues_perm rfl hkind hvalues
  · intro suggestion hsuggestion
    exact (Suggestion.fits_of_mem_flagValues hsuggestion).2

/-- Where keywords come next, they are on offer, and behind them flags. -/
lemma WalksTo.complete_of_keywords (hwalk : WalksTo (Registry.orBuiltin given) line cursor state)
    (hstem : (focus line cursor).stem = "") (hfree : state.freeText = false)
    (hpending : state.pending = none) (hne : state.nodes ≠ []) {keywords : List String}
    (hnodes : state.nodes.map Node.keyword? = keywords.map some) {slot : Slot}
    (hslot : slot = ⟨"", (focus line cursor).start, (focus line cursor).stop⟩) :
    complete line cursor context given providers =
      ⟨Suggestion.nodes state.nodes slot context providers ++
        Suggestion.flags state.availableFlags state.usedFlags slot Completion.flagPenalty,
        state.hint, .subcommand⟩ := by
  have hlisted := @Suggestion.nodes_ne_nil slot context providers (by rw [hslot]) _ hne _ hnodes
  subst hslot
  have hrequest := hwalk.ofLine_eq
  rw [Request.ofState_of_not_dash hfree hpending (by rw [hstem]; exact nofun), hstem,
    if_pos rfl] at hrequest
  rw [complete, hrequest, Request.answer, if_pos rfl,
    Suggestion.nodesContext_of_isSome hne (Suggestion.isSome_keyword?_of_mem hnodes),
    if_neg (by simp [hlisted])]

/-- Where keywords come next, hint and suggestions both show them, and the suggestions are these
and flags. -/
lemma WalksTo.offersKeywords (hwalk : WalksTo (Registry.orBuiltin given) line cursor state)
    (hstem : (focus line cursor).stem = "") (hfree : state.freeText = false)
    (hpending : state.pending = none) (hne : state.nodes ≠ []) {keywords : List String}
    (hnodes : state.nodes.map Node.keyword? = keywords.map some) :
    OffersKeywords keywords (complete line cursor context given providers) := by
  rw [hwalk.complete_of_keywords context providers hstem hfree hpending hne hnodes rfl]
  have hsubcommand := fun suggestion => @Suggestion.kind_of_mem_nodes
    ⟨"", (focus line cursor).start, (focus line cursor).stop⟩ context providers _
    (Suggestion.isSome_keyword?_of_mem hnodes) suggestion
  refine ⟨rfl, hint_of_keywords hfree hpending hne hnodes, ?_, ?_⟩
  · -- a flag is no subcommand, whatever its name
    rw [List.filter_append, List.filter_eq_self.mpr (by simpa using hsubcommand),
      List.filter_eq_nil_iff.mpr fun _ h => by simp [(Suggestion.fits_of_mem_flags h).2],
      List.append_nil]
    exact Suggestion.map_label_nodes_perm rfl hnodes
  · intro suggestion hsuggestion
    exact (List.mem_append.mp hsuggestion).imp (hsubcommand suggestion)
      fun h => (Suggestion.fits_of_mem_flags h).2

/-- While nothing is typed behind a command, hint and suggestions agree: they show the values of an
enumerated flag where one is pending, and the keywords where these are all that can follow, with
flags beside them.  The hint has them in the order of the grammar. -/
theorem complete_offers_hint (hwalk : WalksTo (Registry.orBuiltin given) line cursor state)
    (hstem : (focus line cursor).stem = "") (hfree : state.freeText = false) :
    (∀ flag, state.pending = some flag → flag.kind = .enum →
      ∃ values, flag.enumValues = some values ∧ values ≠ [] ∧
        OffersValues values (complete line cursor context given providers)) ∧
    (state.pending = none → state.nodes ≠ [] →
      ∀ keywords : List String, state.nodes.map Node.keyword? = keywords.map some →
        OffersKeywords keywords (complete line cursor context given providers)) := by
  refine ⟨fun flag hpending hkind => ?_, fun hpending hne keywords hnodes => ?_⟩
  · obtain ⟨values, hvalues, hne⟩ := flag.exists_enumValues_eq hkind
    exact ⟨values, hvalues, hne,
      hwalk.offersValues context providers hstem hfree hpending hkind hvalues hne⟩
  · exact hwalk.offersKeywords context providers hstem hfree hpending hne hnodes

/-- Behind a built-in command come its keywords, of which the hint shows four, and behind one of
its flags come the values of that flag, all of which the hint shows. -/
theorem complete_offers_hint_memory :
    let memory := Grammar.Builtin.memory
    let keywords := ["list", "show", "search", "settings", "setup", "reindex"]
    let types := ["fact", "preference", "decision", "episode", "skill", "entity", "document_chunk"]
    WalksTo (Registry.orBuiltin none) "/memory " 8 (Walk.along memory []) ∧
      OffersKeywords keywords (complete "/memory " 8 {} none .standard) ∧
      shownOptions keywords = "<list|show|search|settings|...>" ∧
      WalksTo (Registry.orBuiltin none) "/memory list --type " 20
        (Walk.along memory ["list", "--type"]) ∧
      OffersValues types (complete "/memory list --type " 20 {} none .standard) := by
  intro memory keywords types
  have hcommand : (Registry.orBuiltin none).get? (Completion.dropSlash "/memory") = some memory :=
    rfl
  have hmemory : WalksTo (Registry.orBuiltin none) "/memory " 8 (Walk.along memory []) := by
    have htokens : tokenize "/memory " = [⟨"/memory", 0, 7, false⟩] := by decide +kernel
    have hsettled : (focus "/memory " 8).settled.map (·.text) = [] := by decide +kernel
    rw [← hsettled]
    exact .intro (by decide +kernel) htokens (by decide +kernel) (by decide) hcommand
  have htype : WalksTo (Registry.orBuiltin none) "/memory list --type " 20
      (Walk.along memory ["list", "--type"]) := by
    have htokens : tokenize "/memory list --type " =
        [⟨"/memory", 0, 7, false⟩, ⟨"list", 8, 12, false⟩, ⟨"--type", 13, 19, false⟩] := by
      decide +kernel
    have hsettled :
        (focus "/memory list --type " 20).settled.map (·.text) = ["list", "--type"] := by
      decide +kernel
    rw [← hsettled]
    exact .intro (by decide +kernel) htokens (by decide +kernel) (by decide) hcommand
  have hkeywords : OffersKeywords keywords (complete "/memory " 8 {} none .standard) :=
    (complete_offers_hint {} .standard hmemory (by decide +kernel) rfl).2 rfl
      (List.cons_ne_nil _ _) keywords rfl
  obtain ⟨values, hvalues, -, hoffers⟩ :=
    (complete_offers_hint {} .standard htype (by decide +kernel) rfl).1 _ rfl rfl
  obtain rfl := Option.some.inj hvalues
  exact ⟨hmemory, hkeywords, by decide +kernel, htype, hoffers⟩

end SlashCommand
