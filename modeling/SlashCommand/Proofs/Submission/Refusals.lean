import SlashCommand.Proofs.Grammar.Names
import SlashCommand.Proofs.Line.Reading
import SlashCommand.Proofs.Submission.FlagWords

/-!
# The lines that are understood

A line is asked one question after the other: whether there is anything in it, whether it begins
with the slash, whether its quotes are closed, whether it names a command, whether that command is
known, and whether its dashed words give flags.  The first answer that is no is why the line is
refused, and a line without such an answer is understood.  `Verdict` lists the questions and the
reasons, each reason with everything that has been answered before it.

So every line has a verdict (`exists_verdict`), and reading comes to no other one
(`Verdict.refusalCode?_parse`).  `verdict_iff_refusalCode?_parse` puts the two together.
-/

namespace SlashCommand

open Grammar (Command Registry isDashed)
open Line (words?)

variable {registry : Registry} {line name : String} {arguments words : List String}

/-! ## Reasons and verdicts -/

namespace Submission

/-- The reason for which a line is refused, if it is refused. -/
def refusalCode? : Except Refusal Submission → Option String
  | .ok _ => none
  | .error refusal => some refusal.code

end Submission

/-- The first character of a line that is not blank. -/
def firstSolid? (line : String) : Option Char :=
  line.toList.find? fun c => !Text.isBlank c

/-- Whether a command goes by a name.  Letter case does not matter, nor do blank characters around
the name. -/
def Grammar.Registry.Knows (registry : Registry) (name : String) : Prop :=
  ∃ command ∈ registry.commands, ∃ owned ∈ command.names,
    Text.lowercase owned = Text.lowercase (Text.strip name)

/-- Whether a line is read as a name behind the slash and some arguments. -/
structure Reads (line name : String) (arguments : List String) : Prop where
  firstSolid?_eq : firstSolid? line = some '/'
  words?_eq : words? line = some (("/" ++ name) :: arguments)

/-- Whether a line is read as a known command and some arguments. -/
def Names (registry : Registry) (line : String) (arguments : List String) : Prop :=
  ∃ name, Reads line name arguments ∧ (¬ ∀ c ∈ name.toList, Text.isBlank c = true) ∧
    registry.Knows name

/-- Whether a line is refused for a reason, or for none. -/
inductive Verdict (registry : Registry) (line : String) : Option String → Prop
  | emptyInput (hblank : ∀ c ∈ line.toList, Text.isBlank c = true) :
      Verdict registry line (some "EMPTY_INPUT")
  | notCommand {c : Char} (hfirst : firstSolid? line = some c) (hslash : c ≠ '/') :
      Verdict registry line (some "NOT_A_COMMAND")
  | openQuote (hfirst : firstSolid? line = some '/')
      (hopen : (Line.Reader.fresh.run line.toList).quote ≠ none) :
      Verdict registry line (some "UNTERMINATED_QUOTE")
  | missingCommand {name : String} {arguments : List String} (hreads : Reads line name arguments)
      (hblank : ∀ c ∈ name.toList, Text.isBlank c = true) :
      Verdict registry line (some "MISSING_COMMAND")
  | unknownCommand {name : String} {arguments : List String} (hreads : Reads line name arguments)
      (hname : ¬ ∀ c ∈ name.toList, Text.isBlank c = true) (hunknown : ¬ registry.Knows name) :
      Verdict registry line (some "UNKNOWN_COMMAND")
  | invalidFlag {arguments : List String} {word : String} (hnames : Names registry line arguments)
      (hword : word ∈ arguments) (hflag : Misflagged word.toList) :
      Verdict registry line (some "INVALID_FLAG")
  | understood {arguments : List String} (hnames : Names registry line arguments)
      (hflags : ∀ word ∈ arguments, ¬ Misflagged word.toList) :
      Verdict registry line none

/-! ## The beginning of a line -/

lemma firstSolid?_eq_head? (line : String) :
    firstSolid? line = (Text.dropBlank line.toList).head? := by
  rw [firstSolid?, List.find?_eq_head?_dropWhile_not, Text.dropBlank]
  simp only [Bool.not_not]

lemma firstSolid?_eq_some_iff {c : Char} :
    firstSolid? line = some c ↔ ∃ cs, Text.dropBlank line.toList = c :: cs := by
  rw [firstSolid?_eq_head?, List.head?_eq_some_iff]

lemma firstSolid?_eq_none_iff :
    firstSolid? line = none ↔ ∀ c ∈ line.toList, Text.isBlank c = true := by
  rw [firstSolid?_eq_head?, List.head?_eq_none_iff, Text.dropBlank_eq_nil_iff]

/-- The first word of a line that begins with the slash begins with the slash. -/
lemma exists_reads_of_words?_eq_some (hfirst : firstSolid? line = some '/')
    (hwords : words? line = some words) :
    ∃ name arguments, words = ("/" ++ name) :: arguments ∧ Reads line name arguments := by
  obtain ⟨cs, hline⟩ := firstSolid?_eq_some_iff.mp hfirst
  obtain ⟨name, arguments, rfl⟩ := Line.exists_first_of_words?_eq_some hline hwords
  exact ⟨name, arguments, rfl, hfirst, hwords⟩

namespace TypedCommand

lemma ofLine_of_isBlank (h : ∀ c ∈ line.toList, Text.isBlank c = true) :
    ofLine line = .error .emptyInput := by
  rw [ofLine, Text.dropBlank_eq_nil_iff.mpr h]

lemma ofLine_of_ne_slash {c : Char} (hfirst : firstSolid? line = some c) (hslash : c ≠ '/') :
    ofLine line = .error .notCommand := by
  obtain ⟨cs, hline⟩ := firstSolid?_eq_some_iff.mp hfirst
  simp only [ofLine, hline, bne_iff_ne, ne_eq, hslash, not_false_eq_true, if_true]

/-- A line that begins with the slash is read word by word. -/
lemma ofLine_of_slash (hfirst : firstSolid? line = some '/') :
    ofLine line = match words? line with
      | none => .error .openQuote
      | some words => ofWords words := by
  obtain ⟨cs, hline⟩ := firstSolid?_eq_some_iff.mp hfirst
  have hwords : words? line = Line.Reader.fresh.words ('/' :: cs) := by
    rw [words?, ← Line.Reader.words_fresh_dropBlank, hline]
  rw [ofLine, hline, hwords]
  rfl

lemma ofLine_of_reads (h : Reads line name arguments) :
    ofLine line = if Text.strip name = "" then .error .missingCommand
      else .ok ⟨Text.strip name, arguments⟩ := by
  have hname : String.ofList (("/" ++ name).toList.drop 1) = name := by
    rw [String.toList_append]
    exact String.ofList_toList
  rw [ofLine_of_slash h.firstSolid?_eq, h.words?_eq]
  dsimp only
  rw [ofWords, List.headD_cons, hname]
  rfl

end TypedCommand

/-! ## Commands and flags -/

lemma Grammar.Registry.exists_get?_eq_some_iff
    (hname : ¬ ∀ c ∈ name.toList, Text.isBlank c = true) :
    (∃ command, registry.get? name = some command) ↔ registry.Knows name := by
  rw [← Text.strip_eq_empty_iff] at hname
  simp only [Registry.get?_eq_some_iff_exists_mem_names, ne_eq, hname, not_false_eq_true,
    true_and, Registry.Knows]

namespace Submission

/-- The dashed ones among some words give flags exactly if each of them does. -/
lemma exists_collectFlags_eq_ok_iff {flags : Flags} :
    (∃ collected, collectFlags flags words = .ok collected) ↔
      ∀ word ∈ words, ¬ Misflagged word.toList := by
  induction words generalizing flags with
  | nil => simp [collectFlags]
  | cons word words ih =>
    rw [collectFlags, List.forall_mem_cons]
    by_cases hdashed : isDashed word = true
    · rw [if_pos hdashed, ← exists_flagsOf_eq_ok_iff hdashed]
      cases hflags : flagsOf word with
      | ok given => exact ih.trans (and_iff_right ⟨given, rfl⟩).symm
      | error fault =>
        refine iff_of_false ?_ ?_
        · rintro ⟨_, herror⟩
          cases herror
        · rintro ⟨⟨_, herror⟩, -⟩
          cases herror
    · rw [if_neg hdashed]
      exact ih.trans (and_iff_right (mt isDashed_of_misflagged hdashed)).symm

/-- A line whose command is known is refused only for a flag. -/
lemma refusalCode?_ofTyped_some (line : String) (typed : TypedCommand) (command : Command) :
    refusalCode? (ofTyped line typed (some command)) = none ∧
        (∀ word ∈ typed.arguments, ¬ Misflagged word.toList) ∨
      refusalCode? (ofTyped line typed (some command)) = some "INVALID_FLAG" ∧
        ∃ word ∈ typed.arguments, Misflagged word.toList := by
  rw [ofTyped]
  cases hflags : collectFlags [] typed.arguments with
  | ok flags => exact .inl ⟨rfl, exists_collectFlags_eq_ok_iff.mp ⟨flags, hflags⟩⟩
  | error fault =>
    refine .inr ⟨rfl, ?_⟩
    by_contra hnone
    push Not at hnone
    obtain ⟨flags, hok⟩ := exists_collectFlags_eq_ok_iff.mpr hnone
    rw [hflags] at hok
    cases hok

lemma parse_of_ofLine_eq_error {refusal : Refusal} (h : TypedCommand.ofLine line = .error refusal)
    (given : Option Registry) : parse line given = .error refusal := by
  rw [parse, h]
  rfl

/-- A name behind the slash is looked up. -/
lemma parse_of_reads (hregistry : registry.commands ≠ []) (hreads : Reads line name arguments)
    (hname : ¬ ∀ c ∈ name.toList, Text.isBlank c = true) :
    parse line (some registry) =
      ofTyped line ⟨Text.strip name, arguments⟩ (registry.get? name) := by
  have hline := TypedCommand.ofLine_of_reads hreads
  rw [if_neg (Text.strip_eq_empty_iff.not.mpr hname)] at hline
  have hlookup := registry.get?_strip name
  rw [parse, hline, Registry.orBuiltin_of_ne_nil hregistry, ← hlookup]
  simp only [bind, Except.bind]

/-- A line that names a known command is refused exactly if one of its arguments gives no flag. -/
lemma refusalCode?_parse_of_names (hregistry : registry.commands ≠ [])
    (hnames : Names registry line arguments) :
    refusalCode? (parse line (some registry)) = none ∧
        (∀ word ∈ arguments, ¬ Misflagged word.toList) ∨
      refusalCode? (parse line (some registry)) = some "INVALID_FLAG" ∧
        ∃ word ∈ arguments, Misflagged word.toList := by
  obtain ⟨name, hreads, hname, hknown⟩ := hnames
  obtain ⟨command, hcommand⟩ := (Registry.exists_get?_eq_some_iff hname).mpr hknown
  rw [parse_of_reads hregistry hreads hname, hcommand]
  exact refusalCode?_ofTyped_some line ⟨Text.strip name, arguments⟩ command

end Submission

/-! ## Each line has its verdict -/

open Submission (parse refusalCode?)

/-- What is said of a line is its verdict. -/
theorem Verdict.refusalCode?_parse (hregistry : registry.commands ≠ []) {code : Option String}
    (h : Verdict registry line code) : refusalCode? (parse line (some registry)) = code := by
  cases h with
  | emptyInput hblank =>
    rw [Submission.parse_of_ofLine_eq_error (TypedCommand.ofLine_of_isBlank hblank)]
    rfl
  | notCommand hfirst hslash =>
    rw [Submission.parse_of_ofLine_eq_error (TypedCommand.ofLine_of_ne_slash hfirst hslash)]
    rfl
  | openQuote hfirst hopen =>
    have hline : TypedCommand.ofLine line = .error .openQuote := by
      rw [TypedCommand.ofLine_of_slash hfirst, words?, Line.Reader.words_eq_none_iff.mpr hopen]
    rw [Submission.parse_of_ofLine_eq_error hline]
    rfl
  | missingCommand hreads hblank =>
    have hline := TypedCommand.ofLine_of_reads hreads
    rw [if_pos (Text.strip_eq_empty_iff.mpr hblank)] at hline
    rw [Submission.parse_of_ofLine_eq_error hline]
    rfl
  | @unknownCommand name _ hreads hname hunknown =>
    have hnone : registry.get? name = none := by
      rw [← Registry.exists_get?_eq_some_iff hname, not_exists] at hunknown
      exact Option.eq_none_iff_forall_ne_some.mpr hunknown
    rw [Submission.parse_of_reads hregistry hreads hname, hnone]
    rfl
  | @invalidFlag _ word hnames hword hflag =>
    rcases Submission.refusalCode?_parse_of_names hregistry hnames with ⟨-, hflags⟩ | ⟨hcode, -⟩
    · exact absurd hflag (hflags word hword)
    · exact hcode
  | understood hnames hflags =>
    rcases Submission.refusalCode?_parse_of_names hregistry hnames with
      ⟨hcode, -⟩ | ⟨-, word, hword, hflag⟩
    · exact hcode
    · exact absurd hflag (hflags word hword)

/-- Every line has a verdict. -/
theorem exists_verdict (registry : Registry) (line : String) :
    ∃ code, Verdict registry line code := by
  cases hfirst : firstSolid? line with
  | none => exact ⟨_, .emptyInput (firstSolid?_eq_none_iff.mp hfirst)⟩
  | some c =>
    by_cases hslash : c = '/'
    · subst hslash
      cases hwords : words? line with
      | none => exact ⟨_, .openQuote hfirst (Line.Reader.words_eq_none_iff.mp hwords)⟩
      | some words =>
        obtain ⟨name, arguments, -, hreads⟩ := exists_reads_of_words?_eq_some hfirst hwords
        by_cases hname : ∀ c ∈ name.toList, Text.isBlank c = true
        · exact ⟨_, .missingCommand hreads hname⟩
        · by_cases hknown : registry.Knows name
          · have hnames : Names registry line arguments := ⟨name, hreads, hname, hknown⟩
            by_cases hflags : ∀ word ∈ arguments, ¬ Misflagged word.toList
            · exact ⟨_, .understood hnames hflags⟩
            · push Not at hflags
              obtain ⟨word, hword, hflag⟩ := hflags
              exact ⟨_, .invalidFlag hnames hword hflag⟩
          · exact ⟨_, .unknownCommand hreads hname hknown⟩
    · exact ⟨_, .notCommand hfirst hslash⟩

/-- A line is refused for a reason exactly if this is its verdict, and it is understood exactly if
its verdict is that there is no reason.  A line that begins with the slash and is read at all is
read as words of which the first begins with the slash. -/
theorem verdict_iff_refusalCode?_parse (hregistry : registry.commands ≠ []) (line : String) :
    (∀ code, Verdict registry line code ↔ refusalCode? (parse line (some registry)) = code) ∧
      (firstSolid? line = some '/' → ∀ words, words? line = some words →
        ∃ name arguments, words = ("/" ++ name) :: arguments) := by
  refine ⟨fun code => ⟨Verdict.refusalCode?_parse hregistry, ?_⟩, ?_⟩
  · rintro rfl
    obtain ⟨code, hverdict⟩ := exists_verdict registry line
    rwa [hverdict.refusalCode?_parse hregistry]
  · intro hfirst words hwords
    obtain ⟨name, arguments, hlist, -⟩ := exists_reads_of_words?_eq_some hfirst hwords
    exact ⟨name, arguments, hlist⟩

/-- A dash by itself is an argument like any other, a quoted word may give a flag, and a blank
character that stands behind a backslash is part of the name. -/
theorem verdict_iff_refusalCode?_parse_deploy :
    let deploy : Command :=
      ⟨{ name := "deploy", description := "Deploy a service." }, by decide +kernel⟩
    let registry : Registry := ⟨[deploy], ⟨[(.text (Text.lowercase "deploy"), deploy)]⟩, rfl⟩
    registry.commands ≠ [] ∧
      Verdict registry "  /\\ DEPLOY '--dry run' -k=v -" none ∧
      Verdict registry "/deploy \"-ab=x\"" (some "INVALID_FLAG") ∧
      Verdict registry "/de\\ ploy '--'" (some "UNKNOWN_COMMAND") ∧
      Verdict registry "/\\  deploy" (some "MISSING_COMMAND") ∧
      ∃ name arguments, ["/deploy", "-"] = ("/" ++ name) :: arguments := by
  intro deploy registry
  have hregistry : registry.commands ≠ [] := List.cons_ne_nil deploy []
  have hverdict := fun line => (verdict_iff_refusalCode?_parse hregistry line).1
  refine ⟨hregistry, (hverdict _ _).mpr ?_, (hverdict _ _).mpr ?_, (hverdict _ _).mpr ?_,
    (hverdict _ _).mpr ?_,
    (verdict_iff_refusalCode?_parse hregistry "/deploy -").2 (by decide) _ (by decide)⟩
  · decide +kernel
  · decide +kernel
  · decide +kernel
  · decide +kernel

end SlashCommand
