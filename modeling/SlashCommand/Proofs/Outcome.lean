import Mathlib.Data.List.Forall2
import Mathlib.Tactic.Common

/-!
# Outcomes of steps in a row

What is known of two steps of which the second one is taken only if the first one succeeds, and of
a step whose fault is put in other words.
-/

namespace SlashCommand

variable {ε ε' α β : Type}

lemma bind_eq_ok_iff {first : Except ε α} {next : α → Except ε β} {b : β} :
    (first >>= next) = .ok b ↔ ∃ a, first = .ok a ∧ next a = .ok b := by
  constructor
  · intro h
    cases first with
    | ok a => exact ⟨a, rfl, h⟩
    | error fault => cases h
  · rintro ⟨a, rfl, h⟩
    exact h

lemma bind_eq_error_iff {first : Except ε α} {next : α → Except ε β} {fault : ε} :
    (first >>= next) = .error fault ↔
      first = .error fault ∨ ∃ a, first = .ok a ∧ next a = .error fault := by
  constructor
  · intro h
    cases first with
    | ok a => exact .inr ⟨a, rfl, h⟩
    | error other => exact .inl (congrArg Except.error (Except.error.inj h))
  · rintro (rfl | ⟨a, rfl, h⟩)
    · rfl
    · exact h

lemma mapError_eq_ok_iff {f : ε → ε'} {outcome : Except ε α} {a : α} :
    outcome.mapError f = .ok a ↔ outcome = .ok a := by
  cases outcome <;> simp [Except.mapError]

lemma mapError_eq_error_iff {f : ε → ε'} {outcome : Except ε α} {fault' : ε'} :
    outcome.mapError f = .error fault' ↔ ∃ fault, outcome = .error fault ∧ f fault = fault' := by
  cases outcome <;> simp [Except.mapError]

lemma toOption_eq_some_iff {outcome : Except ε α} {a : α} :
    outcome.toOption = some a ↔ outcome = .ok a := by
  cases outcome <;> simp [Except.toOption]

/-- The fault of a step that fails. -/
def fault? : Except ε α → Option ε
  | .ok _ => none
  | .error fault => some fault

lemma fault?_eq_some_iff {outcome : Except ε α} {fault : ε} :
    fault? outcome = some fault ↔ outcome = .error fault := by
  cases outcome <;> simp [fault?]

lemma fault?_eq_none_iff {outcome : Except ε α} :
    fault? outcome = none ↔ ∃ a, outcome = .ok a := by
  cases outcome <;> simp [fault?]

lemma fault?_mapError (f : ε → ε') (outcome : Except ε α) :
    fault? (outcome.mapError f) = (fault? outcome).map f := by
  cases outcome <;> rfl

/-- Of two steps the first one that fails decides, if how the second one ends does not depend on
the result of the first one. -/
lemma fault?_bind_of_forall {first : Except ε α} {next : α → Except ε β} {after : Option ε}
    (h : ∀ a, fault? (next a) = after) : fault? (first >>= next) = (fault? first).or after := by
  cases first with
  | ok a => exact (h a).trans Option.none_or.symm
  | error fault => rfl

@[simp] lemma fault?_bind_pure (first : Except ε α) (f : α → β) :
    fault? (first >>= fun a => pure (f a)) = fault? first := by
  cases first <;> rfl

/-! ## One step for each member of a list -/

variable {step : α → Except ε β}

lemma mapM_eq_ok_iff {inputs : List α} {results : List β} :
    inputs.mapM step = .ok results ↔
      List.Forall₂ (fun input result => step input = .ok result) inputs results := by
  induction inputs generalizing results with
  | nil =>
    rw [List.mapM_nil, List.forall₂_nil_left_iff]
    exact ⟨fun h => (Except.ok.inj h).symm, fun h => congrArg Except.ok h.symm⟩
  | cons input inputs ih =>
    simp only [List.mapM_cons, bind_eq_ok_iff, List.forall₂_cons_left_iff, ← ih]
    constructor
    · rintro ⟨first, hfirst, rest, hrest, h⟩
      exact ⟨first, rest, hfirst, hrest, (Except.ok.inj h).symm⟩
    · rintro ⟨first, rest, hfirst, hrest, rfl⟩
      exact ⟨first, hfirst, rest, hrest, rfl⟩

lemma fault?_mapM (inputs : List α) :
    fault? (inputs.mapM step) = inputs.findSome? fun input => fault? (step input) := by
  induction inputs with
  | nil => rfl
  | cons input inputs ih =>
    rw [List.mapM_cons, fault?_bind_of_forall fun first => fault?_bind_pure _ (first :: ·), ih,
      List.findSome?_cons]
    cases fault? (step input) <;> rfl

end SlashCommand
