import SlashCommand.Proofs.Completion.Request
import SlashCommand.Proofs.Submission.Refusals

/-!
# Submitting what is on offer

A command name on offer is put into the line as it is, behind the slash, and submitting it reads
it strictly.  The grammar keeps blank characters out of names, so what is read is one word, if
anything.  It does not keep quotes and backslashes out, and these are lost in reading: what is
looked up is what is left of the name, and that may be no name, or that of another command.

`submits_iff_readsAsName` says when a name comes back as the command that it was offered for, and
`submits_of_mem_complete` that names without quotes and backslashes do.
-/

namespace SlashCommand

open Grammar (Command Registry)
open Line (isQuote words?)

variable {registry : Registry} {command : Command} {line name : String}

/-- Whether a line is understood as a command without arguments. -/
def Submits (registry : Registry) (line : String) (command : Command) : Prop :=
  ∃ submission, Submission.parse line (some registry) = .ok submission ∧
    submission.command = command ∧ submission.positional = [] ∧ submission.flags = []

/-- Whether a line is read as a single word, which is a name of a command behind the slash. -/
def ReadsAsName (line : String) (command : Command) : Prop :=
  ∃ name, words? line = some ["/" ++ name] ∧ name ≠ "" ∧
    ∃ owned ∈ command.names, Text.lowercase owned = Text.lowercase name

/-! ## Names behind the slash -/

lemma not_isBlank_slash_append (h : ∀ c ∈ name.toList, Text.isBlank c = false) :
    ∀ c ∈ ("/" ++ name).toList, Text.isBlank c = false := by
  rw [Completion.toList_slash_append]
  exact List.forall_mem_cons.mpr ⟨by decide, h⟩

lemma firstSolid?_slash_append (name : String) : firstSolid? ("/" ++ name) = some '/' := by
  rw [firstSolid?, Completion.toList_slash_append]
  exact List.find?_cons_of_pos (by decide)

/-- Behind the slash, a name without blank characters is read as one word, if it is read. -/
lemma exists_reads_slash_append {words : List String}
    (hblank : ∀ c ∈ name.toList, Text.isBlank c = false)
    (hwords : words? ("/" ++ name) = some words) :
    ∃ read, Reads ("/" ++ name) read [] ∧ ∀ c ∈ read.toList, Text.isBlank c = false := by
  obtain ⟨last, hlast, hword⟩ :=
    Line.exists_eq_toList_of_words?_eq_some (not_isBlank_slash_append hblank) hwords
  obtain ⟨read, arguments, hlist, hreads⟩ :=
    exists_reads_of_words?_eq_some (firstSolid?_slash_append name) hwords
  cases last with
  | none => exact absurd (hlist.symm.trans hlast) (List.cons_ne_nil _ _)
  | some last =>
    obtain ⟨rfl, rfl⟩ := List.cons.inj (hlist.symm.trans hlast)
    refine ⟨read, hreads, fun c hc => hword _ rfl c ?_⟩
    rw [Completion.toList_slash_append]
    exact List.mem_cons_of_mem '/' hc

/-- A line that is refused before its command is looked up comes to no command. -/
lemma not_submits_of_ofLine_eq_error {refusal : Refusal}
    (h : TypedCommand.ofLine line = .error refusal) : ¬ Submits registry line command := by
  rintro ⟨submission, hparse, -⟩
  rw [Submission.parse_of_ofLine_eq_error h] at hparse
  cases hparse

/-- A line without arguments is understood as the command that is found under its name. -/
lemma submits_iff_get? (hregistry : registry.commands ≠ []) (hreads : Reads line name []) :
    Submits registry line command ↔ registry.get? name = some command := by
  by_cases hname : ∀ c ∈ name.toList, Text.isBlank c = true
  · have hline := TypedCommand.ofLine_of_reads hreads
    have hstrip := Text.strip_eq_empty_iff.mpr hname
    rw [if_pos hstrip] at hline
    rw [Registry.get?, if_pos hstrip]
    exact iff_of_false (not_submits_of_ofLine_eq_error hline) (Option.some_ne_none command).symm
  · rw [Submits, Submission.parse_of_reads hregistry hreads hname]
    cases registry.get? name with
    | none =>
      refine iff_of_false ?_ (Option.some_ne_none command).symm
      rintro ⟨_, herror, -⟩
      cases herror
    | some found =>
      have hparse : Submission.ofTyped line ⟨Text.strip name, []⟩ (some found) =
          .ok ⟨line, Text.strip name, found, [], []⟩ := rfl
      rw [hparse, Option.some_inj]
      constructor
      · rintro ⟨_, hok, rfl, -, -⟩
        rw [← Except.ok.inj hok]
      · rintro rfl
        exact ⟨_, rfl, rfl, rfl, rfl⟩

/-- What is behind the slash comes back as a command exactly if it is read as a name of that
command. -/
theorem submits_iff_readsAsName (hcommand : command ∈ registry.commands)
    (hblank : ∀ c ∈ name.toList, Text.isBlank c = false) :
    Submits registry ("/" ++ name) command ↔ ReadsAsName ("/" ++ name) command := by
  have hregistry := List.ne_nil_of_mem hcommand
  cases hwords : words? ("/" ++ name) with
  | none =>
    -- the name leaves a quote open
    have hline : TypedCommand.ofLine ("/" ++ name) = .error .openQuote := by
      rw [TypedCommand.ofLine_of_slash (firstSolid?_slash_append name), hwords]
    refine iff_of_false (not_submits_of_ofLine_eq_error hline) ?_
    rintro ⟨read, hread, -⟩
    rw [hwords] at hread
    cases hread
  | some words =>
    obtain ⟨read, hreads, hread⟩ := exists_reads_slash_append hblank hwords
    rw [submits_iff_get? hregistry hreads, Registry.get?_eq_some_iff_exists_mem_names,
      Text.strip_of_not_isBlank hread, ReadsAsName, hreads.words?_eq]
    constructor
    · rintro ⟨hne, -, hnames⟩
      exact ⟨read, rfl, hne, hnames⟩
    · rintro ⟨other, hother, hne, hnames⟩
      have hsame := List.singleton_inj.mp (Option.some.inj hother)
      obtain rfl := String.append_right_inj "/" |>.mp hsame
      exact ⟨hne, hcommand, hnames⟩

/-- A name that reading takes nothing from is read as itself. -/
lemma readsAsName_name (command : Command)
    (hquote : ∀ c ∈ command.name.toList, isQuote c = false)
    (hbackslash : ∀ c ∈ command.name.toList.dropLast, c ≠ '\\') :
    ReadsAsName ("/" ++ command.name) command := by
  have hblank : Text.hasBlank ("/" ++ command.name) = false := by
    simpa [Text.hasBlank] using not_isBlank_slash_append command.not_isBlank_name
  have hline : "/" ++ command.name ≠ "" := by
    rw [← String.toList_inj.ne, Completion.toList_slash_append]
    exact List.cons_ne_nil '/' _
  refine ⟨command.name, (Line.words?_eq_singleton_iff hblank).mpr ⟨hline, ?_, ?_⟩,
    command.name_ne_empty, command.name, List.mem_cons_self, rfl⟩
  · rw [Completion.toList_slash_append]
    exact List.forall_mem_cons.mpr ⟨by decide, hquote⟩
  · obtain ⟨c, cs, hchars, -⟩ := command.toList_name
    rw [Completion.toList_slash_append, hchars, List.dropLast_cons_cons, ← hchars]
    exact List.forall_mem_cons.mpr ⟨by decide, hbackslash⟩

/-! ## Command names on offer -/

/-- The bare slash has all commands on offer. -/
lemma mem_complete_slash (hcommand : command ∈ registry.commands) (context : Context)
    (providers : Providers) :
    Suggestion.mk ("/" ++ command.name) ("/" ++ command.name) .command 0 0 1
        (some command.description) ∈
      (complete "/" 1 context (some registry) providers).suggestions := by
  have hrequest : Request.ofLine registry "/" 1 = .commandName ⟨"", 0, 1⟩ := rfl
  rw [complete, Registry.orBuiltin_of_ne_nil (List.ne_nil_of_mem hcommand), hrequest,
    Request.answer, Suggestion.mem_commandNames_iff]
  exact ⟨command, hcommand, 0, rfl, rfl⟩

variable {suggestion : Suggestion}

/-- A command name on offer is that of a command of the registry, behind the slash.  Submitting it
comes to that command, without arguments, exactly if it is read as one of the command's names; so
it does if the name has no quotes, and no backslash but at its end. -/
theorem submits_of_mem_complete {cursor : Int} {context : Context} {providers : Providers}
    (hregistry : registry.commands ≠ [])
    (hoffer : suggestion ∈ (complete line cursor context (some registry) providers).suggestions)
    (hkind : suggestion.kind = .command) :
    ∃ command ∈ registry.commands, suggestion.insertText = "/" ++ command.name ∧
      (Submits registry suggestion.insertText command ↔
        ReadsAsName suggestion.insertText command) ∧
      ((∀ c ∈ command.name.toList, isQuote c = false) →
        (∀ c ∈ command.name.toList.dropLast, c ≠ '\\') →
          Submits registry suggestion.insertText command) := by
  rw [complete, Registry.orBuiltin_of_ne_nil hregistry] at hoffer
  obtain ⟨slot, -, -, hcommands⟩ := Request.fits_of_mem_answer hoffer
  obtain ⟨command, hcommand, -, htext⟩ := hcommands hkind
  have hiff := submits_iff_readsAsName hcommand command.not_isBlank_name
  rw [htext]
  exact ⟨command, hcommand, rfl, hiff, fun hquote hbackslash =>
    hiff.mpr (readsAsName_name command hquote hbackslash)⟩

/-- A backslash at the end of a name stands for itself. -/
theorem submits_of_mem_complete_backslash :
    let drive : Command := ⟨{ name := "c:\\", description := "Change drives." }, by decide +kernel⟩
    let registry : Registry := ⟨[drive], ⟨[(.text (Text.lowercase "c:\\"), drive)]⟩, rfl⟩
    let offer : Suggestion := ⟨"/c:\\", "/c:\\", .command, 0, 0, 1, some "Change drives."⟩
    registry.commands ≠ [] ∧ offer ∈ (complete "/" 1 {} (some registry) .standard).suggestions ∧
      offer.kind = .command ∧ Submits registry offer.insertText drive := by
  intro drive registry offer
  have hdrive : drive ∈ registry.commands := List.mem_singleton_self drive
  have hregistry : registry.commands ≠ [] := List.ne_nil_of_mem hdrive
  have hoffer : offer ∈ (complete "/" 1 {} (some registry) .standard).suggestions :=
    mem_complete_slash hdrive {} .standard
  obtain ⟨command, hcommand, -, -, hordinary⟩ := submits_of_mem_complete hregistry hoffer rfl
  obtain rfl : command = drive := List.mem_singleton.mp hcommand
  have hchars : drive.name.toList = ['c', ':', '\\'] := by decide
  exact ⟨hregistry, hoffer, rfl, hordinary (by simp [hchars, isQuote]) (by simp [hchars])⟩

/-- A quote in a name is left open: the name is on offer, and submitting it is refused. -/
theorem submits_of_mem_complete_apostrophe :
    let its : Command := ⟨{ name := "it's", description := "Whose it is." }, by decide +kernel⟩
    let registry : Registry := ⟨[its], ⟨[(.text (Text.lowercase "it's"), its)]⟩, rfl⟩
    let offer : Suggestion := ⟨"/it's", "/it's", .command, 0, 0, 1, some "Whose it is."⟩
    registry.commands ≠ [] ∧ offer ∈ (complete "/" 1 {} (some registry) .standard).suggestions ∧
      offer.kind = .command ∧
      Submission.parse offer.insertText (some registry) = .error .openQuote ∧
      ∀ command, ¬ Submits registry offer.insertText command := by
  intro its registry offer
  have hits : its ∈ registry.commands := List.mem_singleton_self its
  have hline : TypedCommand.ofLine offer.insertText = .error .openQuote := by decide +kernel
  exact ⟨List.ne_nil_of_mem hits, mem_complete_slash hits {} .standard, rfl,
    Submission.parse_of_ofLine_eq_error hline _, fun command =>
      not_submits_of_ofLine_eq_error hline⟩

end SlashCommand
