import SlashCommand.Proofs.Completion.Request
import SlashCommand.Proofs.Grammar.Merging

/-!
# Completion with more commands

Adding commands to a registry takes nothing away.  Behind the name of a command that the registry
has, the offer depends on that command alone, and the command is found as before.  Only where a
command's name is being typed do the new commands show.
-/

namespace SlashCommand

open Grammar (Command Registry)
open Line

namespace Request

/-- In a state of the walk the registry makes no difference to the offer. -/
lemma answer_ofState (registry other : Registry) (context : Context) (providers : Providers)
    (state : Walk.State) (slot : Slot) :
    (ofState state slot).answer registry context providers =
      (ofState state slot).answer other context providers := by
  rcases freeText_or_pending_or_dash state slot with hfree | ⟨hfree, flag, hpending⟩ |
    ⟨hfree, hpending, hdash⟩ | ⟨hfree, hpending, hdash⟩
  · rw [ofState_of_freeText hfree]
    rfl
  · rw [ofState_of_pending hfree hpending]
    rfl
  · rw [ofState_of_dash hfree hpending hdash]
    rfl
  · rw [ofState_of_not_dash hfree hpending hdash]
    rfl

/-- Outside of the command's name, two registries that find the same command under it have the same
offer. -/
lemma answer_ofLine {registry other : Registry} {line : String} {cursor : Int} {context : Context}
    {providers : Providers}
    (hcontext : ((ofLine registry line cursor).answer registry context providers).context ≠
      .commandName)
    {first : Token} {rest : List Token} (htokens : tokenize line = first :: rest)
    {command : Command}
    (hregistry : registry.get? (Completion.dropSlash first.text) = some command)
    (hother : other.get? (Completion.dropSlash first.text) = some command) :
    (ofLine other line cursor).answer other context providers =
      (ofLine registry line cursor).answer registry context providers := by
  rcases ofLine_cases registry line cursor with ⟨hplain, hrequest⟩ |
    ⟨first', rest', hcommand, htokens', hcases⟩
  · -- no command line: both registries are asked for nothing
    have hnothing : ofLine other line cursor = nothing := by
      rw [ofLine, hplain, if_neg Bool.false_ne_true]
    rw [hrequest, hnothing]
    rfl
  · obtain ⟨rfl, -⟩ := List.cons.inj (htokens.symm.trans htokens')
    rcases hcases with ⟨-, stem, hrequest⟩ | ⟨hactive, hslash, hrequest⟩
    · rw [hrequest] at hcontext
      exact absurd rfl hcontext
    · have hbehind : ofLine other line cursor =
          behind (focus line cursor) (Completion.dropSlash first.text)
            (other.get? (Completion.dropSlash first.text)) := by
        rcases ofLine_cases other line cursor with ⟨hplain, -⟩ |
          ⟨first'', rest'', -, htokens'', hcases⟩
        · rw [hcommand] at hplain
          cases hplain
        · obtain ⟨rfl, -⟩ := List.cons.inj (htokens.symm.trans htokens'')
          rcases hcases with ⟨hname, -⟩ | ⟨-, -, hbehind⟩
          · exact absurd hname (not_or.mpr ⟨hactive, hslash⟩)
          · exact hbehind
      rw [hrequest, hbehind, hregistry, hother]
      exact answer_ofState other registry context providers _ _

end Request

/-- Whether a registry is another one with some commands added, and nothing else changed. -/
structure Extends (registry : Registry) (added : List Command) (merged : Registry) : Prop where
  names_eq : merged.names = registry.names ++ added.map (·.name)
  get?_eq : ∀ (name : String) (command : Command),
    registry.get? name = some command → merged.get? name = some command
  mem_added : ∀ (name : String) (command : Command),
    registry.get? name = none → merged.get? name = some command → command ∈ added
  /-- Behind the name of a command that was there, the same is on offer. -/
  complete_eq : registry.commands ≠ [] →
    ∀ (line : String) (cursor : Int) (context : Context) (providers : Providers),
      (complete line cursor context (some registry) providers).context ≠ .commandName →
      (∃ first rest command, tokenize line = first :: rest ∧
        registry.get? (Completion.dropSlash first.text) = some command) →
      complete line cursor context (some merged) providers =
        complete line cursor context (some registry) providers

lemma extends_of_merged_eq_ok {registry merged : Registry} {added : List Command}
    (h : registry.merged added = .ok merged) : Extends registry added merged where
  names_eq := Registry.names_of_merged_eq_ok h
  get?_eq name command hfound := Registry.get?_of_merged_eq_ok h hfound
  mem_added name command hnone hfound := Registry.mem_added_of_merged_eq_ok h hnone hfound
  complete_eq := by
    rintro hne line cursor context providers hcontext ⟨first, rest, command, htokens, hfound⟩
    have hmerged : merged.commands ≠ [] := by
      rw [Registry.commands_of_merged_eq_ok h]
      exact List.append_ne_nil_of_left_ne_nil hne added
    rw [complete, Registry.orBuiltin_of_ne_nil hne] at hcontext
    simp only [complete, Registry.orBuiltin_of_ne_nil hne, Registry.orBuiltin_of_ne_nil hmerged]
    exact Request.answer_ofLine hcontext htokens hfound (Registry.get?_of_merged_eq_ok h hfound)

/-- Commands are added in two lots as they are at once, with the same registry or the same clash in
the end, and a registry that is made by adding commands extends the one it is made from. -/
theorem merged_merged_and_extends (registry : Registry) :
    (∀ first second : List Command,
      ((registry.merged first).bind fun merged => merged.merged second) =
        registry.merged (first ++ second)) ∧
    ∀ (added : List Command) (merged : Registry),
      registry.merged added = .ok merged → Extends registry added merged :=
  ⟨registry.merged_merged, fun _ _ => extends_of_merged_eq_ok⟩

/-- A command is added to the built-in ones, and for a flag behind `/memory` the same is on
offer. -/
theorem merged_merged_and_extends_notify :
    let notify : Command :=
      ⟨{ name := "notify", description := "Send a message." }, by decide +kernel⟩
    ∃ merged, Registry.builtin.merged [notify] = .ok merged ∧
      Extends .builtin [notify] merged ∧
      complete "/memory -" 9 {} (some merged) .standard =
        complete "/memory -" 9 {} (some .builtin) .standard := by
  intro notify
  have hok : (Registry.builtin.merged [notify]).isOk = true := by decide +kernel
  obtain ⟨-, hextends⟩ := merged_merged_and_extends .builtin
  generalize hmerged : Registry.builtin.merged [notify] = made at hok
  cases made with
  | error clash => cases hok
  | ok merged =>
    have hne : Registry.builtin.commands ≠ [] := by
      simp [Registry.commands_builtin, Grammar.Builtin.commands]
    have hcontext : (complete "/memory -" 9 {} (some .builtin) .standard).context ≠
        .commandName := by decide +kernel
    have htokens : tokenize "/memory -" = [⟨"/memory", 0, 7, false⟩, ⟨"-", 8, 9, false⟩] := by
      decide +kernel
    have hname : Completion.dropSlash "/memory" = Grammar.Builtin.memory.name := by
      decide +kernel
    have hfound : Registry.builtin.get? (Completion.dropSlash "/memory") =
        some Grammar.Builtin.memory := by
      rw [hname]
      exact Registry.get?_name (by simp [Registry.commands_builtin, Grammar.Builtin.commands])
    have hmemory := hextends [notify] merged hmerged
    exact ⟨merged, rfl, hmemory,
      hmemory.complete_eq hne _ _ _ _ hcontext ⟨_, _, _, htokens, hfound⟩⟩

end SlashCommand
