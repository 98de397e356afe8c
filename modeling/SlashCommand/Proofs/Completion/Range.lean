import SlashCommand.Proofs.Completion.Request

/-!
# Offers and the ranges they replace

What is on offer in a slot depends on the stem alone.  The range of the slot is written into the
suggestions and never read, neither when candidates are matched nor when they are sorted.  So an
offer can be moved to another range after it was made as well as before (`mapRange_answer`), and
two requests that differ in the range only have offers that differ in the range only.
-/

namespace SlashCommand

open Grammar (Command Flag Node Registry)

variable {f g : Int → Int}

/-- A place with its two ends moved. -/
def Slot.mapRange (f g : Int → Int) (slot : Slot) : Slot :=
  { slot with start := f slot.start, stop := g slot.stop }

@[simp] lemma Slot.stem_mapRange (slot : Slot) : (slot.mapRange f g).stem = slot.stem :=
  rfl

/-! ## Suggestions -/

namespace Suggestion

/-- A suggestion with the two ends of its range moved. -/
def mapRange (f g : Int → Int) (suggestion : Suggestion) : Suggestion :=
  { suggestion with start := f suggestion.start, stop := g suggestion.stop }

lemma map_mapRange_sorted (suggestions : List Suggestion) :
    (sorted suggestions).map (mapRange f g) = sorted (suggestions.map (mapRange f g)) :=
  List.map_mergeSort fun _ _ _ _ => rfl

lemma map_mapRange_match? (slot : Slot) (kind : SuggestionKind) (word : String)
    (detail : Option String) :
    (match? slot kind word detail).map (mapRange f g) =
      match? (slot.mapRange f g) kind word detail := by
  rw [match?, Option.map_map, match?, Slot.stem_mapRange]
  rfl

lemma map_mapRange_commandNames (commands : List Command) (slot : Slot) :
    (commandNames commands slot).map (mapRange f g) =
      commandNames commands (slot.mapRange f g) := by
  rw [commandNames, map_mapRange_sorted, List.map_filterMap, commandNames]
  congr 2
  funext command
  rw [Option.map_map, Slot.stem_mapRange]
  rfl

lemma map_mapRange_values (candidates : List String) (slot : Slot) (kind : SuggestionKind)
    (describe : String → Option String) :
    (values candidates slot kind describe).map (mapRange f g) =
      values candidates (slot.mapRange f g) kind describe := by
  simp only [values, map_mapRange_sorted, List.map_filterMap, map_mapRange_match?]

lemma map_mapRange_keywords (nodes : List Node) (slot : Slot) :
    (keywords nodes slot).map (mapRange f g) = keywords nodes (slot.mapRange f g) := by
  rw [keywords, List.map_filterMap, keywords]
  congr 1
  funext node
  cases node.keyword? with
  | none => rfl
  | some value => exact map_mapRange_match? slot .subcommand value node.description

lemma map_mapRange_nodes (nodes : List Node) (slot : Slot) (context : Context)
    (providers : Providers) :
    (Suggestion.nodes nodes slot context providers).map (mapRange f g) =
      Suggestion.nodes nodes (slot.mapRange f g) context providers := by
  simp only [Suggestion.nodes, arguments, map_mapRange_sorted, List.map_append,
    map_mapRange_keywords, List.map_flatMap, map_mapRange_values]

lemma map_mapRange_flags (available : List Flag) (used : List String) (slot : Slot)
    (penalty : Penalty) :
    (flags available used slot penalty).map (mapRange f g) =
      flags available used (slot.mapRange f g) penalty := by
  rw [flags, map_mapRange_sorted, List.map_filterMap, flags]
  congr 2
  funext flag
  rw [← map_mapRange_match?, Option.map_map, Option.map_map]
  rfl

lemma map_mapRange_flagValues (flag : Flag) (slot : Slot) (context : Context)
    (providers : Providers) :
    (flagValues flag slot context providers).map (mapRange f g) =
      flagValues flag (slot.mapRange f g) context providers :=
  map_mapRange_values _ _ _ _

end Suggestion

/-! ## Requests and offers -/

/-- A request with the two ends of its slot moved. -/
def Request.mapRange (f g : Int → Int) : Request → Request
  | nothing => nothing
  | unknownCommand name => unknownCommand name
  | commandName slot => commandName (slot.mapRange f g)
  | flagValue flag slot hint => flagValue flag (slot.mapRange f g) hint
  | flagName state slot => flagName state (slot.mapRange f g)
  | node state slot hint => node state (slot.mapRange f g) hint

/-- An offer with the two ends of its ranges moved. -/
def Completion.mapRange (f g : Int → Int) (completion : Completion) : Completion :=
  { completion with suggestions := completion.suggestions.map (Suggestion.mapRange f g) }

lemma Request.mapRange_ofState (state : Walk.State) (slot : Slot) :
    (ofState state slot).mapRange f g = ofState state (slot.mapRange f g) := by
  rcases freeText_or_pending_or_dash state slot with hfree | ⟨hfree, flag, hpending⟩ |
    ⟨hfree, hpending, hdash⟩ | ⟨hfree, hpending, hdash⟩
  · rw [ofState_of_freeText hfree, ofState_of_freeText hfree]
    rfl
  · rw [ofState_of_pending hfree hpending, ofState_of_pending hfree hpending]
    rfl
  · have hdash' : (slot.mapRange f g).stem.toList.head? = some '-' := hdash
    rw [ofState_of_dash hfree hpending hdash, ofState_of_dash hfree hpending hdash']
    rfl
  · have hdash' : (slot.mapRange f g).stem.toList.head? ≠ some '-' := hdash
    rw [ofState_of_not_dash hfree hpending hdash, ofState_of_not_dash hfree hpending hdash']
    rfl

/-- Moving the range of a request moves the ranges of its answer. -/
theorem Request.mapRange_answer (registry : Registry) (context : Context) (providers : Providers)
    (request : Request) :
    (request.answer registry context providers).mapRange f g =
      (request.mapRange f g).answer registry context providers := by
  cases request with
  | nothing => rfl
  | unknownCommand name => rfl
  | commandName slot =>
    simp only [Completion.mapRange, answer, mapRange, Suggestion.map_mapRange_commandNames]
  | flagValue flag slot hint =>
    simp only [Completion.mapRange, answer, mapRange, Suggestion.map_mapRange_flagValues]
  | flagName state slot =>
    simp only [Completion.mapRange, answer, mapRange, Suggestion.map_mapRange_flags]
  | node state slot hint =>
    -- whether flags are on offer as well is read off the stem, which stays
    have hsuggestions :
        (answer registry context providers (node state slot hint)).suggestions.map
            (Suggestion.mapRange f g) =
          (answer registry context providers
            (node state (slot.mapRange f g) hint)).suggestions := by
      by_cases hstem : slot.stem = ""
      · simp [answer, hstem, Suggestion.map_mapRange_nodes, Suggestion.map_mapRange_flags]
      · simp [answer, hstem, Suggestion.map_mapRange_nodes]
    have hempty := congrArg List.isEmpty hsuggestions
    rw [List.isEmpty_map] at hempty
    simp only [answer] at hsuggestions hempty
    simp only [Completion.mapRange, answer, mapRange, hsuggestions, hempty]

end SlashCommand
