import SlashCommand.Proofs.Completion.Range
import SlashCommand.Proofs.Grammar.Names
import SlashCommand.Proofs.Line.Behind

/-!
# Names of one command

Behind a command's name it makes no difference which of the command's names it is, or in which
letter case it is written.  The name decides which tree is walked and how far to the right
everything stands, and nothing else of it is ever looked at.  So two lines that differ in the name
alone, with the cursor at the same place behind it, have the same offer, except that the ranges of
one are moved by the difference in length (`mapRange_complete_eq`).

The one token that would be treated in a way of its own is the bare slash, and a token with a name
behind the slash is not that.
-/

namespace SlashCommand

open Grammar (Command Registry)
open Line

/-- A command is found under each of its names, if it is a plain word, in any letter case. -/
lemma Grammar.Registry.get?_eq_some_of_mem_names (registry : Registry) {word : String}
    (hword : IsPlain word) {command : Command} (hcommand : command ∈ registry.commands)
    {name : String} (hname : name ∈ command.names)
    (hkey : Text.lowercase word = Text.lowercase name) : registry.get? word = some command := by
  rw [Registry.get?_eq_some_iff_exists_mem_names, Text.strip_of_not_isBlank hword.not_isBlank]
  exact ⟨hword.ne_empty, hcommand, name, hname, hkey.symm⟩

namespace Request

variable {name tail : String} {k : Nat}

/-- What is asked for behind a name is what is asked for in the rest of the line, behind the
command that goes by the name. -/
lemma ofLine_append (registry : Registry) (hname : IsPlain name)
    (htail : ∃ c ∈ tail.toList.head?, Text.isBlank c = true) (hk : 0 < k) :
    ofLine registry ("/" ++ name ++ tail) (1 + name.length + k : Nat) =
      behind ((focus tail k).behind (IsPlain.token ("/" ++ name))) name (registry.get? name) := by
  have hfocus : focus ("/" ++ name ++ tail) (1 + name.length + k : Nat) =
      (focus tail k).behind (IsPlain.token ("/" ++ name)) := by
    have h := focus_append hname.slash htail hk
    rwa [String.length_append] at h
  have hactive : ((focus tail k).behind (IsPlain.token ("/" ++ name))).active ≠ some 0 := by
    cases hfound : (focus tail k).active <;> simp [Focus.behind, hfound]
  have hslash : "/" ++ name ≠ "/" := by
    rw [← String.toList_inj.ne, Completion.toList_slash_append]
    exact fun h => hname.toList_ne_nil (List.cons.inj h).2
  rcases ofLine_cases registry ("/" ++ name ++ tail) (1 + name.length + k : Nat) with
    ⟨hplain, -⟩ | ⟨first, rest, -, hfirst, hrequest⟩
  · rw [Completion.isCommandLine_slash_append] at hplain
    cases hplain
  · rw [← tokens_focus _ (1 + name.length + k : Nat), hfocus] at hfirst
    obtain ⟨rfl, -⟩ := List.cons.inj hfirst
    rw [hfocus] at hrequest
    rcases hrequest with ⟨hfirst | hfirst, -⟩ | ⟨-, -, hrequest⟩
    · exact absurd hfirst hactive
    · exact absurd hfirst hslash
    · rw [hrequest]
      simp only [IsPlain.token, Completion.dropSlash_slash_append]

/-- Of the token in front of it, a request behind a command keeps nothing but the length. -/
lemma mapRange_behind_some (focus : Focus) {first second : Token} {distance : Int}
    (hdistance : second.stop = first.stop + distance) (name name' : String) (command : Command) :
    (behind (focus.behind first) name (some command)).mapRange (· + distance) (· + distance) =
      behind (focus.behind second) name' (some command) := by
  have hmove (place : Nat) : ((place + first.stop : Nat) : Int) + distance =
      (place + second.stop : Nat) := by
    omega
  rw [behind, behind, mapRange_ofState, focus.map_text_settled_behind first second]
  simp only [Slot.mapRange, Focus.behind, hmove]

end Request

/-- Two words under which a registry finds the same can stand for each other as the name of a
command: with the cursor anywhere behind the name, the offers are the same, and their ranges are
moved by the difference in length.  In particular that holds of any two names or aliases of one
command, in any letter case. -/
theorem mapRange_complete_eq {registry : Registry} (hne : registry.commands ≠ [])
    {first second tail : String} (hfirst : IsPlain first) (hsecond : IsPlain second)
    (htail : ∃ c ∈ tail.toList.head?, Text.isBlank c = true) {k : Nat} (hk : 0 < k)
    (context : Context) (providers : Providers) :
    (registry.get? first = registry.get? second →
      let distance : Int := second.length - first.length
      (complete ("/" ++ first ++ tail) (1 + first.length + k : Nat) context (some registry)
          providers).mapRange (· + distance) (· + distance) =
        complete ("/" ++ second ++ tail) (1 + second.length + k : Nat) context (some registry)
          providers) ∧
    ∀ command ∈ registry.commands, ∀ name ∈ command.names, ∀ short ∈ command.names,
      Text.lowercase first = Text.lowercase name → Text.lowercase second = Text.lowercase short →
        registry.get? first = registry.get? second := by
  constructor
  · intro hsame distance
    have hdistance : ((IsPlain.token ("/" ++ second)).stop : Int) =
        (IsPlain.token ("/" ++ first)).stop + distance := by
      simp only [IsPlain.token, String.length_append, distance]
      omega
    simp only [complete, Registry.orBuiltin_of_ne_nil hne,
      Request.ofLine_append registry hfirst htail hk,
      Request.ofLine_append registry hsecond htail hk, Request.mapRange_answer, hsame]
    cases registry.get? second with
    | none => rfl
    | some command => rw [Request.mapRange_behind_some (focus tail k) hdistance first second]
  · intro command hcommand name hname short hshort hkey hkey'
    rw [registry.get?_eq_some_of_mem_names hfirst hcommand hname hkey,
      registry.get?_eq_some_of_mem_names hsecond hcommand hshort hkey']

/-- The built-in `/memory` and its alias in capitals, with the cursor in a value that is being
quoted. -/
theorem mapRange_complete_eq_memory :
    Registry.builtin.get? "memory" = Registry.builtin.get? "MEM" ∧
    (complete "/memory list --type 'de" 23 {} (some .builtin) .standard).mapRange
        (· + -3) (· + -3) =
      complete "/MEM list --type 'de" 20 {} (some .builtin) .standard := by
  have hne : Registry.builtin.commands ≠ [] := by
    simp [Registry.commands_builtin, Grammar.Builtin.commands]
  have hmemory : IsPlain "memory" := by decide +kernel
  have hmem : IsPlain "MEM" := by decide +kernel
  have htail : ∃ c ∈ " list --type 'de".toList.head?, Text.isBlank c = true :=
    ⟨' ', by decide +kernel, by decide +kernel⟩
  obtain ⟨hshift, hnames⟩ :=
    mapRange_complete_eq hne hmemory hmem htail (k := 16) (by decide) {} .standard
  have hcommand : Grammar.Builtin.memory ∈ Registry.builtin.commands := by
    simp [Registry.commands_builtin, Grammar.Builtin.commands]
  have hsame := hnames Grammar.Builtin.memory hcommand "memory" (by decide +kernel) "mem"
    (by decide +kernel) rfl (by decide +kernel)
  exact ⟨hsame, hshift hsame⟩

end SlashCommand
