import Mathlib.Data.List.Basic
import SlashCommand.Walk

/-!
# What one word does to a walk

`Move` lists the ways in which a word can move a walk, each with the conditions under which it
does.  A step is always one of them (`move_step`), and what later modules say of a step they say
by cases on its move; none of them opens `step`.

Two facts hold of every move, wherever the walk stands: flags that are available stay available,
and flags that were given stay given (`Move.grows`).  So they hold of every walk
(`grows_foldl`).  A word that gives a flag, by its name or an alias and with or without a value,
leaves the flag's name among those that were given (`Gives.key_mem_usedFlags_step`).
-/

namespace SlashCommand.Walk

open Grammar (Command Flag Node)

variable {state : State} {word : String}

/-! ## What a word is found to be -/

/-- A dashed word gives one of the flags it is looked up among, and only a flag that takes a
value can wait for it. -/
lemma flagOf?_eq_some {flags : List Flag} {flag : Flag} {pending : Option Flag}
    (h : flagOf? flags word = some (flag, pending)) :
    flag ∈ flags ∧ ∀ waiting, pending = some waiting →
      waiting = flag ∧ flag.takesValue = true := by
  rw [flagOf?] at h
  split at h
  · next found hfound =>
    -- the whole word is the name of a flag, which then waits if it takes a value
    obtain ⟨rfl, rfl⟩ := Prod.mk.inj (Option.some.inj h)
    refine ⟨List.mem_of_find?_eq_some hfound, ?_⟩
    intro waiting hwaiting
    split_ifs at hwaiting with htakes
    exact ⟨(Option.some.inj hwaiting).symm, htakes⟩
  · -- the name of the flag ends at a `=`, and nothing is left to wait for
    obtain ⟨name, -, hname⟩ := Option.bind_eq_some_iff.mp h
    obtain ⟨found, hfound, hflag⟩ := Option.bind_eq_some_iff.mp hname
    obtain ⟨rfl, rfl⟩ := Prod.mk.inj (Option.some.inj hflag)
    exact ⟨List.mem_of_find?_eq_some hfound, nofun⟩

lemma mem_of_nodeOf?_eq_some {nodes : List Node} {node : Node}
    (h : nodeOf? nodes word = some node) : node ∈ nodes := by
  simp only [nodeOf?] at h
  split at h
  · next found hfound =>
    obtain rfl := Option.some.inj h
    exact List.mem_of_find?_eq_some hfound
  · exact List.mem_of_find?_eq_some h

/-! ## Moves -/

/-- The ways in which a word moves a walk. -/
inductive Move (state : State) (word : String) : State → Prop
  /-- Free text takes up every word. -/
  | absorbed (hfree : state.freeText = true) : Move state word state
  /-- The word is the value of a flag. -/
  | value (hfree : state.freeText = false) {flag : Flag} (hpending : state.pending = some flag) :
      Move state word { state with pending := none }
  /-- The word gives a flag, possibly together with its value. -/
  | flag (hfree : state.freeText = false) (hpending : state.pending = none)
      (hdashed : Grammar.isDashed word = true) {flag : Flag} {pending : Option Flag}
      (hflag : flagOf? state.availableFlags word = some (flag, pending)) :
      Move state word (state.useFlag flag pending)
  /-- The word looks like a flag, and none is known under its name. -/
  | unknownFlag (hfree : state.freeText = false) (hpending : state.pending = none)
      (hdashed : Grammar.isDashed word = true)
      (hflag : flagOf? state.availableFlags word = none) : Move state word state
  /-- The word leads down to a node, as a keyword or as an argument. -/
  | descent (hfree : state.freeText = false) (hpending : state.pending = none)
      (hdashed : Grammar.isDashed word = false) {node : Node}
      (hnode : nodeOf? state.nodes word = some node) : Move state word (state.descend node)
  /-- Nothing that may come next is like the word. -/
  | exhausted (hfree : state.freeText = false) (hpending : state.pending = none)
      (hdashed : Grammar.isDashed word = false) (hnode : nodeOf? state.nodes word = none) :
      Move state word { state with nodes := [] }

/-- A step is one of the moves. -/
theorem move_step (state : State) (word : String) : Move state word (step state word) := by
  unfold step
  by_cases hfree : state.freeText = true
  · rw [if_pos hfree]
    exact .absorbed hfree
  · rw [if_neg hfree]
    rw [Bool.not_eq_true] at hfree
    rcases Option.eq_none_or_eq_some state.pending with hpending | ⟨flag, hpending⟩
    · rw [if_neg (by simp [hpending])]
      by_cases hdashed : Grammar.isDashed word = true
      · rw [if_pos hdashed]
        cases hflag : flagOf? state.availableFlags word with
        | some found => exact .flag hfree hpending hdashed hflag
        | none => exact .unknownFlag hfree hpending hdashed hflag
      · rw [if_neg hdashed]
        rw [Bool.not_eq_true] at hdashed
        cases hnode : nodeOf? state.nodes word with
        | some node => exact .descent hfree hpending hdashed hnode
        | none => exact .exhausted hfree hpending hdashed hnode
    · rw [if_pos (by simp [hpending])]
      exact .value hfree hpending

/-! Where it is known which move a word makes, the state behind it is known as well. -/

lemma step_of_freeText (hfree : state.freeText = true) (word : String) :
    step state word = state := by
  rw [step, if_pos hfree]

lemma step_of_flag (hfree : state.freeText = false) (hpending : state.pending = none)
    (hdashed : Grammar.isDashed word = true) {flag : Flag} {pending : Option Flag}
    (hflag : flagOf? state.availableFlags word = some (flag, pending)) :
    step state word = state.useFlag flag pending := by
  simp [step, hfree, hpending, hdashed, hflag]

lemma step_of_not_dashed (hfree : state.freeText = false) (hpending : state.pending = none)
    (hdashed : Grammar.isDashed word = false) :
    step state word =
      (nodeOf? state.nodes word).elim { state with nodes := [] } state.descend := by
  cases hnode : nodeOf? state.nodes word <;> simp [step, hfree, hpending, hdashed, hnode]

/-! ## Flags that are given -/

/-- Whether a dashed word gives a flag: the first one that the whole word names, or if there is
none, the first one that the characters in front of its first `=` name. -/
inductive Gives (flags : List Flag) (word : String) (flag : Flag) : Prop
  | whole (hflag : Flag.find? flags word = some flag)
  | beforeEquals (hwhole : Flag.find? flags word = none) {name : String}
      (hname : beforeEquals? word = some name) (hflag : Flag.find? flags name = some flag)

lemma Gives.exists_flagOf? {flags : List Flag} {flag : Flag} (h : Gives flags word flag) :
    ∃ pending, flagOf? flags word = some (flag, pending) := by
  cases h with
  | whole hflag => exact ⟨_, by rw [flagOf?, hflag]⟩
  | beforeEquals hwhole hname hflag =>
    refine ⟨none, ?_⟩
    rw [flagOf?, hwhole]
    simp [hname, hflag]

/-- The flag that is found is the one that the word gives. -/
lemma gives_of_flagOf?_eq_some {flags : List Flag} {found : Flag × Option Flag}
    (h : flagOf? flags word = some found) : Gives flags word found.1 := by
  rw [flagOf?] at h
  split at h
  · next flag hwhole =>
    obtain rfl := Option.some.inj h
    exact .whole hwhole
  · next hwhole =>
    obtain ⟨name, hname, hrest⟩ := Option.bind_eq_some_iff.mp h
    obtain ⟨flag, hflag, hpure⟩ := Option.bind_eq_some_iff.mp hrest
    obtain rfl := Option.some.inj hpure
    exact .beforeEquals hwhole hname hflag

/-- A flag that a word gives has been used. -/
lemma Gives.key_mem_usedFlags_step {flag : Flag} (h : Gives state.availableFlags word flag)
    (hfree : state.freeText = false) (hpending : state.pending = none)
    (hdashed : Grammar.isDashed word = true) : flag.key ∈ (step state word).usedFlags := by
  obtain ⟨pending, hflag⟩ := h.exists_flagOf?
  rw [step_of_flag hfree hpending hdashed hflag]
  exact List.mem_insert_self

/-! ## What no word takes away -/

/-- What is kept of a state by the one behind it. -/
structure Grows (state next : State) : Prop where
  availableFlags_prefix : state.availableFlags <+: next.availableFlags
  usedFlags_subset : state.usedFlags ⊆ next.usedFlags
  /-- In free text nothing changes any more. -/
  eq_of_freeText : state.freeText = true → next = state

/-- Flags become available and are used, and never cease to be. -/
lemma Move.grows {next : State} (h : Move state word next) : Grows state next := by
  cases h with
  | absorbed hfree => exact ⟨List.prefix_rfl, List.Subset.refl _, fun _ => rfl⟩
  | value hfree hpending =>
    exact ⟨List.prefix_rfl, List.Subset.refl _, by simp [hfree]⟩
  | flag hfree hpending hdashed hflag =>
    exact ⟨List.prefix_rfl, fun key hkey => List.mem_insert_of_mem hkey, by simp [hfree]⟩
  | unknownFlag hfree hpending hdashed hflag =>
    exact ⟨List.prefix_rfl, List.Subset.refl _, fun _ => rfl⟩
  | descent hfree hpending hdashed hnode =>
    exact ⟨List.prefix_append _ _, List.Subset.refl _, by simp [hfree]⟩
  | exhausted hfree hpending hdashed hnode =>
    exact ⟨List.prefix_rfl, List.Subset.refl _, by simp [hfree]⟩

lemma Grows.refl (state : State) : Grows state state :=
  ⟨List.prefix_rfl, List.Subset.refl _, fun _ => rfl⟩

lemma Grows.trans {first second third : State} (h : Grows first second)
    (h' : Grows second third) : Grows first third where
  availableFlags_prefix := h.availableFlags_prefix.trans h'.availableFlags_prefix
  usedFlags_subset := List.Subset.trans h.usedFlags_subset h'.usedFlags_subset
  eq_of_freeText := by
    intro hfree
    obtain rfl := h.eq_of_freeText hfree
    exact h'.eq_of_freeText hfree

/-- No walk takes away what has been gathered. -/
theorem grows_foldl (state : State) (words : List String) :
    Grows state (words.foldl step state) := by
  induction words generalizing state with
  | nil => exact .refl state
  | cons word words ih => exact (move_step state word).grows.trans (ih (step state word))

end SlashCommand.Walk
