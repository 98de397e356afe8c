import SlashCommand.Proofs.Completion.Request
import SlashCommand.Proofs.Grammar.Lookup
import SlashCommand.Proofs.Outcome
import SlashCommand.Submission

/-!
# The grammar in force

Completion and parsing each choose the registry that they consult, and everything behind them
inherits the choice.  A registry that was passed is in force if it has commands: then nothing is
on offer, walked or understood but its own commands.  A registry without commands counts as none
at all, and the built-in commands come back in its place.  `governs_iff` says that these are the
only two cases.
-/

namespace SlashCommand

open Grammar (Command Registry)
open Line

/-- Whether a registry that is passed is the grammar in force. -/
structure Governs (registry : Registry) : Prop where
  orBuiltin_eq : Registry.orBuiltin (some registry) = registry
  /-- A command name on offer is that of one of its commands. -/
  offered : ∀ (line : String) (cursor : Int) (context : Context) (providers : Providers),
    ∀ suggestion ∈ (complete line cursor context (some registry) providers).suggestions,
      suggestion.kind = .command →
        ∃ command ∈ registry.commands, suggestion.label = "/" ++ command.name ∧
          suggestion.insertText = "/" ++ command.name
  /-- The command whose tree is walked is one of its commands. -/
  walked : ∀ (line : String) (cursor : Int) (name : String) (command : Command),
    Request.lookup? (Registry.orBuiltin (some registry)) (focus line cursor) =
      some (name, some command) → command ∈ registry.commands
  /-- The command of a line that is understood is one of its commands. -/
  understood : ∀ (line : String) (submission : Submission),
    Submission.parse line (some registry) = .ok submission →
      submission.command ∈ registry.commands

variable {registry : Registry}

/-- What is looked up for a cursor is found in the registry that is consulted. -/
lemma Request.mem_commands_of_lookup?_eq_some {focus : Focus} {name : String} {command : Command}
    (h : lookup? registry focus = some (name, some command)) : command ∈ registry.commands := by
  cases htokens : focus.tokens with
  | nil =>
    rw [lookup?, htokens] at h
    cases h
  | cons first rest =>
    rw [lookup?_eq_of_tokens_eq_cons htokens] at h
    split_ifs at h
    obtain ⟨-, hcommand⟩ := Prod.mk.inj (Option.some.inj h)
    exact Registry.mem_commands_of_get?_eq_some hcommand

/-- A line that is understood has the command that is known under its name. -/
lemma Submission.mem_commands_of_parse_eq_ok {line : String} {given : Option Registry}
    {submission : Submission} (h : parse line given = .ok submission) :
    submission.command ∈ (Registry.orBuiltin given).commands := by
  obtain ⟨typed, -, htyped⟩ := bind_eq_ok_iff.mp h
  cases hcommand : (Registry.orBuiltin given).get? typed.name with
  | none =>
    rw [hcommand] at htyped
    exact nomatch htyped
  | some command =>
    rw [hcommand] at htyped
    obtain ⟨flags, -, hflags⟩ := bind_eq_ok_iff.mp htyped
    obtain rfl := Except.ok.inj hflags
    exact Registry.mem_commands_of_get?_eq_some hcommand

/-- A registry with commands governs. -/
lemma governs_of_orBuiltin_eq (h : Registry.orBuiltin (some registry) = registry) :
    Governs registry where
  orBuiltin_eq := h
  offered line cursor context providers suggestion hoffer hkind := by
    obtain ⟨slot, -, -, hcommand⟩ := Request.fits_of_mem_answer hoffer
    rw [h] at hcommand
    exact hcommand hkind
  walked line cursor name command hlookup := by
    rw [h] at hlookup
    exact Request.mem_commands_of_lookup?_eq_some hlookup
  understood line submission hparse := by
    have hmem := Submission.mem_commands_of_parse_eq_ok hparse
    rwa [h] at hmem

/-- The built-in commands understand a line. -/
lemma exists_parse_help_eq_ok :
    ∃ submission, Submission.parse "/help" none = .ok submission := by
  have hok : (Submission.parse "/help" none).isOk = true := by decide +kernel
  generalize Submission.parse "/help" none = parsed at hok ⊢
  cases parsed with
  | ok submission => exact ⟨submission, rfl⟩
  | error refusal => exact nomatch hok

/-- A registry that is passed is the grammar in force exactly if it has commands.  One without
commands leaves both completion and parsing as if none had been passed. -/
theorem governs_iff (registry : Registry) :
    (Governs registry ↔ registry.commands ≠ []) ∧
    (registry.commands = [] →
      (∀ line cursor context providers, complete line cursor context (some registry) providers =
        complete line cursor context none providers) ∧
      ∀ line, Submission.parse line (some registry) = Submission.parse line none) := by
  refine ⟨⟨fun governs hempty => ?_, fun hne =>
    governs_of_orBuiltin_eq (Registry.orBuiltin_of_ne_nil hne)⟩, fun hempty => ?_⟩
  · obtain ⟨submission, hparse⟩ := exists_parse_help_eq_ok
    have hmem := governs.understood "/help" submission <| by
      rw [Submission.parse, Registry.orBuiltin_of_eq_nil hempty]
      exact hparse
    rw [hempty] at hmem
    exact nomatch hmem
  · constructor
    · intro line cursor context providers
      rw [complete, complete, Registry.orBuiltin_of_eq_nil hempty]
    · intro line
      rw [Submission.parse, Submission.parse, Registry.orBuiltin_of_eq_nil hempty]

/-- The registry without commands does not govern: a line is understood with it, and a command
name is on offer. -/
theorem not_governs_empty :
    (∃ submission, Submission.parse "/help" (some .empty) = .ok submission ∧
      submission.command ∉ Registry.empty.commands) ∧ ¬ Governs .empty := by
  obtain ⟨submission, hparse⟩ := exists_parse_help_eq_ok
  have hnone : submission.command ∉ Registry.empty.commands := nofun
  exact ⟨⟨submission, hparse, hnone⟩,
    fun governs => hnone (governs.understood "/help" submission hparse)⟩

end SlashCommand
