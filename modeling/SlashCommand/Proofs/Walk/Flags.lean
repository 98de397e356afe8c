import SlashCommand.Proofs.Submission.FlagWords
import SlashCommand.Proofs.Walk.Move

/-!
# Flags on the way

Flags may be given anywhere behind a command, and do not lead astray.  A walk comes to its place in
the command's tree by the `positional` words alone: those that are matched against the nodes, and
are not flags, values of flags or part of free text.  Walking over them without the others comes to
the same place (`samePlace_positional`).  The two walks run side by side, one of them standing still
where the other meets a flag; what keeps them together is that the shorter one never waits for a
value.

Which flags were given is remembered and has no part in any step (`forget_step`).  So words that
give a flag together with all that belongs to it, or that look like a flag and give none, may be put
in and left out wherever no value is waited for, and make a difference to nothing but that memory
(`GivenWhole.forget_foldl`).  How the value of a flag is given, behind `=` or as the next word, does
not even make a difference to it (`step_step_eq_step_joined`).
-/

namespace SlashCommand.Walk

open Grammar (Command Flag)

variable {state first second : State} {word : String}

/-! ## Giving a flag -/

section

variable (hfree : state.freeText = false) (hpending : state.pending = none)

include hfree hpending

lemma step_of_boolean (hdashed : Grammar.isDashed word = true) {flag : Flag}
    (hflag : Flag.find? state.availableFlags word = some flag)
    (htakes : flag.takesValue = false) : step state word = state.useFlag flag none := by
  refine step_of_flag hfree hpending hdashed ?_
  simp [flagOf?, hflag, htakes]

/-- The value behind `=` belongs to the word. -/
lemma step_of_joined (hdashed : Grammar.isDashed word = true)
    (hwhole : Flag.find? state.availableFlags word = none) {name : String}
    (hname : beforeEquals? word = some name) {flag : Flag}
    (hflag : Flag.find? state.availableFlags name = some flag) :
    step state word = state.useFlag flag none := by
  refine step_of_flag hfree hpending hdashed ?_
  simp [flagOf?, hwhole, hname, hflag]

/-- The value is the next word, whatever that looks like. -/
lemma step_step_of_apart (hdashed : Grammar.isDashed word = true) {flag : Flag}
    (hflag : Flag.find? state.availableFlags word = some flag)
    (htakes : flag.takesValue = true) (value : String) :
    step (step state word) value = state.useFlag flag none := by
  have hwaits : step state word = state.useFlag flag (some flag) := by
    refine step_of_flag hfree hpending hdashed ?_
    simp [flagOf?, hflag, htakes]
  rw [hwaits]
  simp [step, State.useFlag, hfree]

/-- A flag that is not known is passed over. -/
lemma step_of_unknown (hdashed : Grammar.isDashed word = true)
    (hflag : ∀ flag, ¬ Gives state.availableFlags word flag) : step state word = state := by
  cases hfound : flagOf? state.availableFlags word with
  | none => simp [step, hfree, hpending, hdashed, hfound]
  | some found => exact absurd (gives_of_flagOf?_eq_some hfound) (hflag found.1)

end

/-! ## Walks over positional words -/

/-- Whether two walks are at the same place of a command's tree, with the same flags available. -/
structure SamePlace (first second : State) : Prop where
  nodes_eq : first.nodes = second.nodes
  availableFlags_eq : first.availableFlags = second.availableFlags
  freeText_eq : first.freeText = second.freeText

/-- Whether a word is matched against the nodes, and leads down to one of them or exhausts the walk:
it is not part of free text, not the value of a flag, and does not look like a flag. -/
def isPositional (state : State) (word : String) : Bool :=
  !state.freeText && state.pending.isNone && !Grammar.isDashed word

/-- The words of a walk that are matched against nodes. -/
def positional (state : State) : List String → List String
  | [] => []
  | word :: words =>
    if isPositional state word then word :: positional (step state word) words
    else positional (step state word) words

lemma isPositional_iff :
    isPositional state word = true ↔
      state.freeText = false ∧ state.pending = none ∧ Grammar.isDashed word = false := by
  simp [isPositional, and_assoc]

/-- Any other word leaves a walk where it is. -/
lemma samePlace_step_of_not_isPositional (h : isPositional state word = false) :
    SamePlace (step state word) state := by
  have hmove := move_step state word
  generalize step state word = next at hmove ⊢
  cases hmove with
  | absorbed hfree => exact ⟨rfl, rfl, rfl⟩
  | value hfree hpending => exact ⟨rfl, rfl, rfl⟩
  | flag hfree hpending hdashed hflag => exact ⟨rfl, rfl, rfl⟩
  | unknownFlag hfree hpending hdashed hflag => exact ⟨rfl, rfl, rfl⟩
  | descent hfree hpending hdashed hnode =>
    exact absurd (isPositional_iff.mpr ⟨hfree, hpending, hdashed⟩) (Bool.eq_false_iff.mp h)
  | exhausted hfree hpending hdashed hnode =>
    exact absurd (isPositional_iff.mpr ⟨hfree, hpending, hdashed⟩) (Bool.eq_false_iff.mp h)

/-- A positional word takes walks that are at the same place to the same place, and none of them
then waits for a value. -/
lemma SamePlace.step_of_isPositional (hsame : SamePlace first second)
    (hword : isPositional first word = true) (hpending : second.pending = none) :
    SamePlace (step first word) (step second word) ∧ (step second word).pending = none := by
  obtain ⟨hfree, hpending', hdashed⟩ := isPositional_iff.mp hword
  obtain ⟨hnodes, hflags, hfreeText⟩ := hsame
  rw [step_of_not_dashed hfree hpending' hdashed,
    step_of_not_dashed (hfreeText ▸ hfree) hpending hdashed, hnodes]
  cases nodeOf? second.nodes word with
  | none => exact ⟨⟨rfl, hflags, hfreeText⟩, hpending⟩
  | some node =>
    refine ⟨⟨rfl, ?_, rfl⟩, rfl⟩
    simp only [Option.elim_some, State.descend, hflags]

/-- A walk comes to the place where its positional words alone lead. -/
theorem samePlace_positional (hsame : SamePlace first second) (hpending : second.pending = none)
    (words : List String) :
    SamePlace (words.foldl step first) ((positional first words).foldl step second) := by
  induction words generalizing first second with
  | nil => exact hsame
  | cons word words ih =>
    rw [positional, List.foldl_cons]
    cases hword : isPositional first word with
    | true =>
      obtain ⟨hnext, hpending'⟩ := hsame.step_of_isPositional hword hpending
      exact ih hnext hpending'
    | false =>
      -- the second walk waits while the first one goes over the word
      obtain ⟨hnodes, hflags, hfreeText⟩ := samePlace_step_of_not_isPositional hword
      exact ih ⟨hnodes.trans hsame.nodes_eq, hflags.trans hsame.availableFlags_eq,
        hfreeText.trans hsame.freeText_eq⟩ hpending

/-! ## Words that give a flag -/

/-- A state without the memory of the flags that were given. -/
def State.forget (state : State) : State :=
  { state with usedFlags := [] }

/-- A step does not ask which flags were given. -/
lemma forget_step (state : State) (word : String) :
    (step state word).forget = (step state.forget word).forget := by
  have hmove := move_step state word
  generalize step state word = next at hmove ⊢
  cases hmove with
  | absorbed hfree => simp [step, State.forget, hfree]
  | value hfree hpending => simp [step, State.forget, hfree, hpending]
  | flag hfree hpending hdashed hflag =>
    simp [step, State.forget, hfree, hpending, hdashed, hflag, State.useFlag]
  | unknownFlag hfree hpending hdashed hflag =>
    simp [step, State.forget, hfree, hpending, hdashed, hflag]
  | descent hfree hpending hdashed hnode =>
    simp [step, State.forget, hfree, hpending, hdashed, hnode, State.descend]
  | exhausted hfree hpending hdashed hnode =>
    simp [step, State.forget, hfree, hpending, hdashed, hnode]

lemma State.forget_useFlag (hpending : state.pending = none) (flag : Flag) :
    (state.useFlag flag none).forget = state.forget := by
  rw [State.forget, State.forget, State.useFlag, hpending]

lemma forget_foldl (state : State) (words : List String) :
    (words.foldl step state).forget = (words.foldl step state.forget).forget := by
  induction words generalizing state with
  | nil => rfl
  | cons word words ih => rw [List.foldl_cons, List.foldl_cons, ih, forget_step, ← ih]

lemma forget_foldl_eq (h : first.forget = second.forget) (words : List String) :
    (words.foldl step first).forget = (words.foldl step second).forget := by
  rw [forget_foldl, h, ← forget_foldl]

lemma samePlace_of_forget_eq (h : first.forget = second.forget) : SamePlace first second where
  nodes_eq := (State.mk.inj h).1
  availableFlags_eq := (State.mk.inj h).2.1
  freeText_eq := (State.mk.inj h).2.2.2.2

/-- Whether words give a flag together with all that belongs to it, where some flags are available.
A word that looks like a flag but gives none has nothing that belongs to it. -/
inductive GivenWhole (flags : List Flag) : List String → Prop
  /-- A flag that takes no value. -/
  | boolean {word : String} {flag : Flag} (hdashed : Grammar.isDashed word = true)
      (hflag : Flag.find? flags word = some flag) (htakes : flag.takesValue = false) :
      GivenWhole flags [word]
  /-- A flag with a value behind `=`, unless the whole word is the name of a flag. -/
  | joined {word name : String} {flag : Flag} (hdashed : Grammar.isDashed word = true)
      (hwhole : Flag.find? flags word = none) (hname : beforeEquals? word = some name)
      (hflag : Flag.find? flags name = some flag) : GivenWhole flags [word]
  /-- A flag that takes a value, and the value as the next word, whatever it looks like. -/
  | apart {word : String} {flag : Flag} (hdashed : Grammar.isDashed word = true)
      (hflag : Flag.find? flags word = some flag) (htakes : flag.takesValue = true)
      (value : String) : GivenWhole flags [word, value]
  /-- A flag that is not known. -/
  | unknown {word : String} (hdashed : Grammar.isDashed word = true)
      (hflag : ∀ flag, ¬ Gives flags word flag) : GivenWhole flags [word]

/-- Every word that looks like a flag is one of these, by itself or with any word behind it. -/
lemma givenWhole_or_forall (flags : List Flag) (hdashed : Grammar.isDashed word = true) :
    GivenWhole flags [word] ∨ ∀ value, GivenWhole flags [word, value] := by
  cases hwhole : Flag.find? flags word with
  | some flag =>
    cases htakes : flag.takesValue with
    | false => exact .inl (.boolean hdashed hwhole htakes)
    | true => exact .inr (.apart hdashed hwhole htakes)
  | none =>
    by_cases hgives : ∃ flag, Gives flags word flag
    · obtain ⟨flag, hgives⟩ := hgives
      cases hgives with
      | whole hflag => simp [hwhole] at hflag
      | beforeEquals _ hname hflag => exact .inl (.joined hdashed hwhole hname hflag)
    · exact .inl (.unknown hdashed (not_exists.mp hgives))

/-- Words that give a flag as a whole are remembered, and nothing else comes of them. -/
theorem GivenWhole.forget_foldl {words : List String}
    (h : GivenWhole state.availableFlags words) (hpending : state.pending = none) :
    (words.foldl step state).forget = state.forget := by
  cases hfree : state.freeText with
  | true =>
    have hstep := step_of_freeText hfree
    cases h <;> simp only [List.foldl_cons, List.foldl_nil, hstep]
  | false =>
    cases h with
    | boolean hdashed hflag htakes =>
      rw [List.foldl_cons, List.foldl_nil, step_of_boolean hfree hpending hdashed hflag htakes,
        State.forget_useFlag hpending]
    | joined hdashed hwhole hname hflag =>
      rw [List.foldl_cons, List.foldl_nil, step_of_joined hfree hpending hdashed hwhole hname hflag,
        State.forget_useFlag hpending]
    | apart hdashed hflag htakes value =>
      rw [List.foldl_cons, List.foldl_cons, List.foldl_nil,
        step_step_of_apart hfree hpending hdashed hflag htakes, State.forget_useFlag hpending]
    | unknown hdashed hflag =>
      rw [List.foldl_cons, List.foldl_nil,
        step_of_unknown hfree hpending hdashed hflag]

/-- Flags do not disturb a walk.  It comes to the place where its positional words alone lead.  And
wherever it does not wait for a value, words that give a flag as a whole may be put in or left out,
whatever follows: the walk comes to the same place, and waits for the same value there, if for
any.  Every word that looks like a flag can be put in so, some of them with a value. -/
theorem samePlace_along (command : Command) :
    (∀ words, SamePlace (along command words)
      (along command (positional (start command) words))) ∧
    ∀ before, (along command before).pending = none →
      (∀ given after, GivenWhole (along command before).availableFlags given →
        SamePlace (along command (before ++ given ++ after)) (along command (before ++ after)) ∧
          (along command (before ++ given ++ after)).pending =
            (along command (before ++ after)).pending) ∧
      ∀ word, Grammar.isDashed word = true →
        GivenWhole (along command before).availableFlags [word] ∨
          ∀ value, GivenWhole (along command before).availableFlags [word, value] := by
  refine ⟨samePlace_positional ⟨rfl, rfl, rfl⟩ rfl, fun before hpending => ⟨?_, ?_⟩⟩
  · intro given after hgiven
    have hforget : (along command (before ++ given ++ after)).forget =
        (along command (before ++ after)).forget := by
      rw [along, along, List.foldl_append, List.foldl_append, List.foldl_append]
      exact forget_foldl_eq (hgiven.forget_foldl hpending) after
    exact ⟨samePlace_of_forget_eq hforget, (State.mk.inj hforget).2.2.2.1⟩
  · exact fun word hdashed => givenWhole_or_forall _ hdashed

/-- A walk with a flag that is not known where it is given, a value that is spelled like a keyword,
and an alias in capitals.  A value that looks like a flag is put in as well. -/
theorem samePlace_along_deploy :
    let verbose : Flag := ⟨{ name := "--verbose", aliases := ["-v"] }, rfl⟩
    let region : Flag := ⟨{ name := "--region", kind := .string }, rfl⟩
    let target : Grammar.Argument := ⟨{ name := "target" }, rfl⟩
    let deploy : Command :=
      ⟨{ name := "deploy"
         description := "Deploy a service."
         root := [.literal "service" none [region] [.argument target [] []]]
         flags := [verbose] }, by decide +kernel⟩
    let words := ["--region", "service", "--region", "service", "-V", "web"]
    positional (start deploy) words = ["service", "web"] ∧
      SamePlace (along deploy words) (along deploy ["service", "web"]) ∧
      (along deploy ["service"]).pending = none ∧
      GivenWhole (along deploy ["service"]).availableFlags ["--region", "-v"] ∧
      SamePlace (along deploy ["service", "--region", "-v", "web"])
        (along deploy ["service", "web"]) := by
  intro verbose region target deploy words
  obtain ⟨hplace, hput⟩ := samePlace_along deploy
  have hpositional : positional (start deploy) words = ["service", "web"] := by decide +kernel
  have hpending : (along deploy ["service"]).pending = none := by decide +kernel
  have hgiven : GivenWhole (along deploy ["service"]).availableFlags ["--region", "-v"] := by
    have hflag : Flag.find? (along deploy ["service"]).availableFlags "--region" = some region := by
      decide +kernel
    exact .apart (by decide) hflag rfl "-v"
  refine ⟨hpositional, ?_, hpending, hgiven, ?_⟩
  · have hwords := hplace words
    rwa [hpositional] at hwords
  · exact ((hput ["service"] hpending).1 ["--region", "-v"] ["web"] hgiven).1

/-! ## Two ways to give a value -/

/-- In front of a `=` that is added to it, a name without one is found again. -/
lemma beforeEquals?_append {name : String} (hname : '=' ∉ name.toList) (value : String) :
    beforeEquals? (name ++ "=" ++ value) = some name := by
  have hword : (name ++ "=" ++ value).toList = name.toList ++ '=' :: value.toList := by
    rw [String.toList_append, String.toList_append, List.append_assoc]
    rfl
  have hequals : (name.toList ++ '=' :: value.toList).contains '=' = true := by simp
  rw [beforeEquals?, hword, if_pos hequals, takeWhile_ne_equals_append hname, String.ofList_toList]

/-- What is added to a word behind it does not take the dash away. -/
lemma isDashed_append {name : String} (h : Grammar.isDashed name = true) (rest : String) :
    Grammar.isDashed (name ++ rest) = true := by
  unfold Grammar.isDashed at h
  split at h
  · next c cs hname =>
    rw [Grammar.isDashed, String.toList_append, hname]
    rfl
  · cases h

/-- The value of a flag may stand behind `=` or be the next word, whatever it looks like, and a walk
does not tell the two apart, as long as no flag goes by the name of the whole word with the `=` in
it. -/
theorem step_step_eq_step_joined (hfree : state.freeText = false) (hpending : state.pending = none)
    {name : String} (hequals : '=' ∉ name.toList) (hdashed : Grammar.isDashed name = true)
    {flag : Flag} (hflag : Flag.find? state.availableFlags name = some flag)
    (htakes : flag.takesValue = true) {value : String}
    (hwhole : ∀ other ∈ state.availableFlags, other.answersTo (name ++ "=" ++ value) = false) :
    step (step state name) value = step state (name ++ "=" ++ value) ∧
      ∀ words, (name :: value :: words).foldl step state =
        ((name ++ "=" ++ value) :: words).foldl step state := by
  have hnone : Flag.find? state.availableFlags (name ++ "=" ++ value) = none := by
    simpa [Flag.find?] using hwhole
  have hword : Grammar.isDashed (name ++ "=" ++ value) = true :=
    isDashed_append (isDashed_append hdashed "=") value
  have hsame : step (step state name) value = step state (name ++ "=" ++ value) := by
    rw [step_step_of_apart hfree hpending hdashed hflag htakes,
      step_of_joined hfree hpending hword hnone (beforeEquals?_append hequals value) hflag]
  refine ⟨hsame, fun words => ?_⟩
  rw [List.foldl_cons, List.foldl_cons, List.foldl_cons, hsame]

/-- An alias in capitals, with a value that looks like a flag and has a `=` of its own. -/
theorem step_step_eq_step_joined_region :
    let region : Flag := ⟨{ name := "--region", kind := .string, aliases := ["-r"] }, rfl⟩
    let verbose : Flag := ⟨{ name := "--verbose" }, rfl⟩
    let state : State := ⟨[.literal "--verbose=x" none [] []], [verbose, region], [], none, false⟩
    Flag.find? state.availableFlags "-R" = some region ∧ region.takesValue = true ∧
      (∀ other ∈ state.availableFlags, other.answersTo ("-R" ++ "=" ++ "--verbose=x") = false) ∧
      step (step state "-R") "--verbose=x" = step state ("-R" ++ "=" ++ "--verbose=x") ∧
      (["-R", "--verbose=x", "web"].foldl step state).usedFlags = ["--region"] := by
  intro region verbose state
  have hflag : Flag.find? state.availableFlags "-R" = some region := by decide +kernel
  have hwhole : ∀ other ∈ state.availableFlags,
      other.answersTo ("-R" ++ "=" ++ "--verbose=x") = false := by
    decide +kernel
  obtain ⟨hsame, hrest⟩ :=
    step_step_eq_step_joined rfl rfl (by decide) (by decide) hflag rfl hwhole
  refine ⟨hflag, rfl, hwhole, hsame, ?_⟩
  rw [hrest ["web"]]
  decide +kernel

end SlashCommand.Walk
