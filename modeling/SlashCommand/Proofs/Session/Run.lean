import SlashCommand.Proofs.Completion.WellFormed
import SlashCommand.Session

/-!
# Sessions over a sequence of operations

An input field works on a session with four operations: it updates the line, moves the highlight,
accepts what is highlighted, and closes the list.  `Kept` says what is true of the session
whenever the field looks at it.  The offer it holds belongs to the line it holds, and the
highlight is in the list.  A new session is like that, and each operation keeps it so
(`Kept.perform`); a run of them does too (`Kept.run`).

An update looks at the line before it completes it, and accepting does not.  Nothing is on offer for
a line that is no command, so both leave what completing the line leaves (`update_eq`,
`accept_eq_update`).

What the input field relies on follows from that for every session that a run leads to
(`reliable_run`).  In particular a list that was closed is shown again only behind an operation
that completes the line anew (`exists_recompletes_of_isOpen_run`).
-/

namespace SlashCommand.Session

open Grammar (Registry)
open Line (clamp)

variable {context : Context} {registry : Option Registry} {providers : Providers}
  {session : Session}

/-! ## Operations -/

/-- What an input field does to its session. -/
inductive Operation where
  | update (text : String) (cursor : Option Int)
  | move (delta : Int)
  | accept
  | dismiss

/-- The session after an operation. -/
def perform (session : Session) : Operation → Session
  | .update text cursor => session.update text cursor
  | .move delta => session.move delta
  | .accept => session.accept
  | .dismiss => session.dismiss

/-- The session after a sequence of operations. -/
def run (session : Session) (operations : List Operation) : Session :=
  operations.foldl perform session

/-! ## Completing the line -/

/-- Nothing is on offer for a line that is no command, so an update leaves what completing the line
would leave. -/
theorem update_eq (session : Session) (text : String) (cursor : Option Int) :
    session.update text cursor =
      { session with text }.reset (session.resolve text (cursor.getD text.length)) := by
  unfold update
  split_ifs with hcommand
  · rfl
  · rw [resolve, complete_of_not_isCommandLine hcommand]

/-- Nothing is logged for such a line either. -/
theorem updateEvents_eq (session : Session) (text : String) (cursor : Option Int) :
    session.updateEvents text cursor =
      completionEvents text (cursor.getD text.length) session.registry session.providers := by
  unfold updateEvents
  split_ifs with hcommand
  · rfl
  · rw [completionEvents_of_not_isCommandLine hcommand]

/-- To accept is to update the line with the edited one. -/
theorem accept_eq_update {edited : Edited} (h : session.accepted = some edited) :
    session.accept = session.update edited.text (some edited.cursor) ∧
      session.acceptEvents = session.updateEvents edited.text (some edited.cursor) := by
  rw [accept, acceptEvents, h, update_eq, updateEvents_eq]
  exact ⟨rfl, rfl⟩

/-! ## What every operation keeps -/

/-- What holds of a session at all times. -/
structure Kept (context : Context) (registry : Option Registry) (providers : Providers)
    (session : Session) : Prop where
  context_eq : session.context = context
  registry_eq : session.registry = registry
  providers_eq : session.providers = providers
  /-- The offer is one for the line as it is. -/
  exists_completion_eq : ∃ cursor,
    session.completion = complete session.text cursor context registry providers
  index_nonneg : 0 ≤ session.index
  /-- The highlight is in the list, or at the start while the list may be empty. -/
  index_eq_zero_or_lt : session.index = 0 ∨
    session.index < session.completion.suggestions.length

namespace Kept

lemma new (context : Context) (registry : Option Registry) (providers : Providers) :
    Kept context registry providers (new context registry providers) where
  context_eq := rfl
  registry_eq := rfl
  providers_eq := rfl
  exists_completion_eq := by
    have hempty : ¬ Completion.isCommandLine "" = true := by decide +kernel
    exact ⟨0, (complete_of_not_isCommandLine hempty).symm⟩
  index_nonneg := le_rfl
  index_eq_zero_or_lt := .inl rfl

lemma reset (h : Kept context registry providers session) (text : String) (cursor : Int) :
    Kept context registry providers
      ({ session with text }.reset (session.resolve text cursor)) where
  context_eq := h.context_eq
  registry_eq := h.registry_eq
  providers_eq := h.providers_eq
  exists_completion_eq := by
    rw [← h.context_eq, ← h.registry_eq, ← h.providers_eq]
    exact ⟨cursor, rfl⟩
  index_nonneg := le_rfl
  index_eq_zero_or_lt := .inl rfl

lemma update (h : Kept context registry providers session) (text : String)
    (cursor : Option Int) : Kept context registry providers (session.update text cursor) := by
  rw [update_eq]
  exact h.reset text _

lemma move (h : Kept context registry providers session) (delta : Int) :
    Kept context registry providers (session.move delta) := by
  rw [Session.move]
  split_ifs with hempty hlow hhigh
  · exact h
  · exact { h with
      index_nonneg := by dsimp only; omega
      index_eq_zero_or_lt := .inr (by dsimp only; omega) }
  · exact { h with index_nonneg := le_rfl, index_eq_zero_or_lt := .inl rfl }
  · exact { h with
      index_nonneg := by dsimp only; omega
      index_eq_zero_or_lt := .inr (by dsimp only; omega) }

lemma accept (h : Kept context registry providers session) :
    Kept context registry providers session.accept := by
  rw [Session.accept]
  split
  · exact h.reset _ _
  · exact h

lemma dismiss (h : Kept context registry providers session) :
    Kept context registry providers session.dismiss :=
  { h with index_nonneg := le_rfl, index_eq_zero_or_lt := .inl rfl }

/-- Every operation keeps what holds of a session. -/
theorem perform (h : Kept context registry providers session) (operation : Operation) :
    Kept context registry providers (session.perform operation) := by
  cases operation with
  | update text cursor => exact h.update text cursor
  | move delta => exact h.move delta
  | accept => exact h.accept
  | dismiss => exact h.dismiss

/-- So does every sequence of operations. -/
theorem run (h : Kept context registry providers session) (operations : List Operation) :
    Kept context registry providers (session.run operations) := by
  induction operations generalizing session with
  | nil => exact h
  | cons operation operations ih => exact ih (h.perform operation)

/-! ## The highlight -/

lemma index_of_nil (h : Kept context registry providers session)
    (hnil : session.completion.suggestions = []) : session.index = 0 := by
  have hindex := h.index_eq_zero_or_lt
  have hnonneg := h.index_nonneg
  rw [hnil, List.length_nil] at hindex
  omega

lemma index_lt_of_ne_nil (h : Kept context registry providers session)
    (hne : session.completion.suggestions ≠ []) :
    session.index < session.completion.suggestions.length := by
  have hindex := h.index_eq_zero_or_lt
  have hlength := List.length_pos_iff.mpr hne
  omega

/-- The highlight is where it says, and need not be moved into the list. -/
lemma clamp_index (h : Kept context registry providers session) :
    (clamp (session.completion.suggestions.length - 1) session.index : Int) = session.index := by
  have hnonneg := h.index_nonneg
  have hindex := h.index_eq_zero_or_lt
  rw [clamp]
  omega

lemma selected_eq (h : Kept context registry providers session) :
    session.selected = session.completion.suggestions[session.index.toNat]? := by
  have hclamp := h.clamp_index
  rw [selected, ← hclamp, Int.toNat_natCast, hclamp]

/-- What is on offer replaces characters of the line as it is. -/
lemma range_of_mem (h : Kept context registry providers session) {suggestion : Suggestion}
    (hoffer : suggestion ∈ session.completion.suggestions) :
    0 ≤ suggestion.start ∧ suggestion.start ≤ suggestion.stop ∧
      suggestion.stop ≤ session.text.length := by
  obtain ⟨cursor, hcompletion⟩ := h.exists_completion_eq
  rw [hcompletion] at hoffer
  obtain ⟨start, stop, hle, hlength, hrange, -⟩ :=
    (wellFormed_complete session.text cursor context registry providers).exists_range
  obtain ⟨hstart, hstop⟩ := hrange suggestion hoffer
  omega

end Kept

/-! ## Accepting -/

/-- There is something to accept exactly if something is on offer, wherever the highlight is. -/
lemma accepted_eq_none_iff : session.accepted = none ↔ session.completion.suggestions = [] := by
  rw [accepted, Option.map_eq_none_iff, selected, List.getElem?_eq_none_iff, clamp,
    ← List.length_eq_zero_iff]
  omega

lemma accept_of_accepted_eq_none (h : session.accepted = none) : session.accept = session := by
  rw [accept, h]

/-- Accepting leaves the session as a new one would be in which the line has been updated. -/
lemma Kept.accept_of_accepted_eq_some (h : Kept context registry providers session)
    {edited : Edited} (haccepted : session.accepted = some edited) :
    session.accept =
      (Session.new context registry providers).update edited.text (some edited.cursor) := by
  rw [(accept_eq_update haccepted).1, update_eq, update_eq]
  simp only [Session.reset, resolve, h.context_eq, h.registry_eq, h.providers_eq, Session.new]

/-! ## Closed lists -/

/-- Whether an operation completes a line anew: an update, or an accept that finds something to
accept. -/
def Recompletes (session : Session) : Operation → Prop
  | .update _ _ => True
  | .move _ => False
  | .accept => session.accepted ≠ none
  | .dismiss => False

/-- A list that was closed stays closed until a line is completed anew. -/
lemma dismissed_perform (hdismissed : session.dismissed = true) {operation : Operation}
    (h : ¬ session.Recompletes operation) : (session.perform operation).dismissed = true := by
  cases operation with
  | update text cursor => exact absurd trivial h
  | move delta =>
    rw [perform, move]
    split_ifs <;> exact hdismissed
  | accept =>
    rw [perform, accept_of_accepted_eq_none (not_not.mp h)]
    exact hdismissed
  | dismiss => rfl

/-- If a list that was closed is shown again, an operation in between has completed a line
anew. -/
theorem exists_recompletes_of_isOpen_run {operations : List Operation}
    (hdismissed : session.dismissed = true) (h : (session.run operations).isOpen = true) :
    ∃ first operation rest, operations = first ++ operation :: rest ∧
      (session.run first).Recompletes operation := by
  induction operations generalizing session with
  | nil => simp [run, isOpen, hdismissed] at h
  | cons operation operations ih =>
    by_cases hrecompletes : session.Recompletes operation
    · exact ⟨[], operation, operations, rfl, hrecompletes⟩
    · obtain ⟨first, later, rest, rfl, hlater⟩ := ih (dismissed_perform hdismissed hrecompletes) h
      exact ⟨operation :: first, later, rest, rfl, hlater⟩

/-! ## What an input field can rely on -/

/-- What an input field relies on when it looks at its session. -/
structure Reliable (context : Context) (registry : Option Registry) (providers : Providers)
    (session : Session) : Prop where
  index_of_nil : session.completion.suggestions = [] → session.index = 0
  index_of_ne_nil : session.completion.suggestions ≠ [] →
    0 ≤ session.index ∧ session.index < session.completion.suggestions.length
  /-- The highlight need not be moved into the list before it is looked up. -/
  clamp_index :
    (clamp (session.completion.suggestions.length - 1) session.index : Int) = session.index
  selected_eq : session.selected = session.completion.suggestions[session.index.toNat]?
  exists_completion_eq : ∃ cursor,
    session.completion = complete session.text cursor context registry providers
  range_of_mem : ∀ suggestion ∈ session.completion.suggestions,
    0 ≤ suggestion.start ∧ suggestion.start ≤ suggestion.stop ∧
      suggestion.stop ≤ session.text.length
  accepted_eq_none_iff : session.accepted = none ↔ session.completion.suggestions = []
  accept_of_accepted_eq_none : session.accepted = none → session.accept = session
  accept_of_accepted_eq_some : ∀ edited, session.accepted = some edited →
    session.accept =
      (Session.new context registry providers).update edited.text (some edited.cursor)
  /-- A list that is closed now is not shown again before a line is completed anew. -/
  exists_recompletes : ∀ later, (session.dismiss.run later).isOpen = true →
    ∃ first operation rest, later = first ++ operation :: rest ∧
      (session.dismiss.run first).Recompletes operation

/-- Whatever was done to a session, an input field can rely on it. -/
theorem reliable_run (context : Context) (registry : Option Registry) (providers : Providers)
    (operations : List Operation) :
    Reliable context registry providers ((new context registry providers).run operations) := by
  have h := (Kept.new context registry providers).run operations
  generalize (new context registry providers).run operations = session at h
  exact
    { index_of_nil := h.index_of_nil
      index_of_ne_nil := fun hne => ⟨h.index_nonneg, h.index_lt_of_ne_nil hne⟩
      clamp_index := h.clamp_index
      selected_eq := h.selected_eq
      exists_completion_eq := h.exists_completion_eq
      range_of_mem := fun _ => h.range_of_mem
      accepted_eq_none_iff := accepted_eq_none_iff
      accept_of_accepted_eq_none := accept_of_accepted_eq_none
      accept_of_accepted_eq_some := fun _ => h.accept_of_accepted_eq_some
      exists_recompletes := fun _ => exists_recompletes_of_isOpen_run rfl }

end SlashCommand.Session
