import SlashCommand.Completion
import SlashCommand.Config.Load
import SlashCommand.Proofs.Grammar.Building
import SlashCommand.Proofs.Grammar.Names

/-!
# Commands under their declared names

A file declares a command under a name and under aliases, and any of them may be written with the
slash that is typed in front of it.  Loading treats the two differently.  A slash is dropped from
the name, and what is left has to be without blank characters; an alias goes into the registry as
it is written.  Whoever looks a name up drops one slash and the blank characters around it, so a
command is found under its name however that was written, and under an alias only if the alias was
written as it is looked up (`hasDeclared_of_load_eq_ok`).
-/

namespace SlashCommand

open Grammar (Command CommandDeclaration Registry)

namespace Grammar

/-! ## Building -/

/-- Commands are built one by one, in the order of their declarations. -/
theorem buildCommands_eq_ok_iff {declarations : List CommandDeclaration}
    {commands : List Command} :
    buildCommands declarations = .ok commands ↔
      List.Forall₂ (fun declaration command => declaration.build = .ok command) declarations
        commands := by
  rw [buildCommands_eq_mapM, mapM_eq_ok_iff]

/-- A command has the name and the aliases that were declared. -/
lemma CommandDeclaration.names_of_build_eq_ok {declaration : CommandDeclaration}
    {command : Command} (h : declaration.build = .ok command) :
    command.names = declaration.name :: declaration.aliases := by
  obtain ⟨hname, -, -, haliases, -, -⟩ := CommandDeclaration.build_eq_ok_iff.mp h
  rw [Command.names, hname, haliases]

end Grammar

namespace Config

open Completion (dropSlash)

/-- A declaration is read with one slash less in front of its name, and otherwise as it is. -/
lemma dropCommandSlash_eq (declaration : CommandDeclaration) :
    dropCommandSlash declaration = { declaration with name := dropSlash declaration.name } := by
  by_cases hslash : ∃ name, declaration.name.toList = '/' :: name
  · obtain ⟨name, hname⟩ := hslash
    simp only [dropCommandSlash, dropSlash, hname]
  · have hname : dropSlash declaration.name = declaration.name := by
      unfold dropSlash
      split
      · next name hname => exact absurd ⟨name, hname⟩ hslash
      · rfl
    rw [hname]
    unfold dropCommandSlash
    split
    · next name hname => exact absurd ⟨name, hname⟩ hslash
    · rfl

/-- The declarations in what is found at a path, if that is a document of the right shape. -/
def declarations? (path : String) (found : Found) : Option (List CommandDeclaration) := do
  let document ← (readDocument path found).toOption
  if document.isMapping then Except.toOption (grammar document) else none

/-- What a successful loading went through. -/
lemma exists_of_load_eq_ok {path : String} {found : Found} {includeBuiltin : Bool}
    {registry : Registry} (h : load path found includeBuiltin = .ok registry) :
    ∃ declarations commands, declarations? path found = some declarations ∧
      Grammar.buildCommands (declarations.map dropCommandSlash) = .ok commands ∧
      registry.commands = baseCommands includeBuiltin ++ commands := by
  obtain ⟨commands, hcommands, h⟩ := bind_eq_ok_iff.mp h
  have hregistry := Registry.commands_of_ofCommands_eq_ok (mapError_eq_ok_iff.mp h)
  obtain ⟨document, hdocument, hof⟩ := bind_eq_ok_iff.mp hcommands
  rw [ofDocument] at hof
  split at hof
  · next hmapping =>
    split at hof
    · next declarations hgrammar =>
      refine ⟨declarations, commands, ?_, mapError_eq_ok_iff.mp hof, hregistry⟩
      simp [declarations?, hdocument, hmapping, hgrammar, Except.toOption]
    · cases hof
  · cases hof

/-! ## Looking up -/

/-- Whether a command answers to what is left of a name that is looked up, once a slash in front and
blank characters at the ends are dropped: whether any is left, and that is one of its names as
they are written. -/
def Answers (command : Command) (name : String) : Prop :=
  Text.strip (dropSlash name) ≠ "" ∧
    ∃ owned ∈ command.names, Text.lowercase owned = Text.lowercase (Text.strip (dropSlash name))

/-- Whether nothing is dropped of a name when it is looked up. -/
structure Tidy (name : String) : Prop where
  ne_empty : name ≠ ""
  dropSlash_eq : dropSlash name = name
  strip_eq : Text.strip name = name

/-- Whether a registry has a declared command under the names that were declared for it. -/
structure HasDeclared (registry : Registry) (declaration : CommandDeclaration)
    (command : Command) : Prop where
  build_eq : (dropCommandSlash declaration).build = .ok command
  names_eq : command.names = dropSlash declaration.name :: declaration.aliases
  /-- The name may be written with its slash. -/
  get?_name : registry.get? (dropSlash declaration.name) = some command
  /-- An alias is found if the command answers to it without the slash. -/
  get?_alias_iff : ∀ short ∈ declaration.aliases,
    registry.get? (dropSlash short) = some command ↔ Answers command short
  /-- So it does if there is nothing to drop. -/
  get?_of_tidy : ∀ short ∈ declaration.aliases, Tidy short →
    registry.get? (dropSlash short) = some command

variable {registry : Registry} {command : Command}

/-- A command of a registry is found under what it answers to, and under nothing else. -/
lemma get?_dropSlash_eq_some_iff (hcommand : command ∈ registry.commands) (name : String) :
    registry.get? (dropSlash name) = some command ↔ Answers command name := by
  rw [Registry.get?_eq_some_iff_exists_mem_names, Answers]
  simp only [hcommand, true_and]

lemma Tidy.answers {name : String} (h : Tidy name) (hname : name ∈ command.names) :
    Answers command name := by
  rw [Answers, h.dropSlash_eq, h.strip_eq]
  exact ⟨h.ne_empty, name, hname, rfl⟩

lemma HasDeclared.of_mem_commands {declaration : CommandDeclaration}
    (hbuild : (dropCommandSlash declaration).build = .ok command)
    (hcommand : command ∈ registry.commands) : HasDeclared registry declaration command := by
  have hnames : command.names = dropSlash declaration.name :: declaration.aliases := by
    rw [Grammar.CommandDeclaration.names_of_build_eq_ok hbuild, dropCommandSlash_eq]
  have hname : command.name = dropSlash declaration.name := (List.cons.inj hnames).1
  refine ⟨hbuild, hnames, ?_, fun short _ => get?_dropSlash_eq_some_iff hcommand short, ?_⟩
  · rw [← hname]
    exact Registry.get?_name hcommand
  · intro short hshort htidy
    have hmem : short ∈ command.names := by
      rw [hnames]
      exact List.mem_cons_of_mem _ hshort
    exact (get?_dropSlash_eq_some_iff hcommand short).mpr (htidy.answers hmem)

/-- Whatever file was loaded, the registry lists the commands that the file declares, in their order
and behind those that were there, and finds each under its declared name.  It finds a command under
an alias exactly if the command answers to that. -/
theorem hasDeclared_of_load_eq_ok {path : String} {found : Found} {includeBuiltin : Bool}
    (h : load path found includeBuiltin = .ok registry) :
    ∃ declarations commands, declarations? path found = some declarations ∧
      registry.commands = baseCommands includeBuiltin ++ commands ∧
      List.Forall₂ (HasDeclared registry) declarations commands := by
  obtain ⟨declarations, commands, hdeclarations, hbuild, hcommands⟩ := exists_of_load_eq_ok h
  refine ⟨declarations, commands, hdeclarations, hcommands, ?_⟩
  rw [Grammar.buildCommands_eq_ok_iff, List.forall₂_map_left_iff] at hbuild
  obtain ⟨hlength, hbuild⟩ := List.forall₂_iff_zip.mp hbuild
  refine List.forall₂_iff_zip.mpr ⟨hlength, fun {declaration command} hpair => ?_⟩
  have hcommand : command ∈ registry.commands := by
    rw [hcommands]
    exact List.mem_append_right _ (List.of_mem_zip hpair).2
  exact .of_mem_commands (hbuild hpair) hcommand

/-- A command whose name is written with its slash and whose alias is not is found under both. -/
theorem hasDeclared_of_load_eq_ok_deploy :
    let found : Found :=
      .text "commands:\n- name: /deploy\n  description: Deploy a service.\n  aliases: [dp]\n"
    ∃ registry declaration command, load "grammar.yaml" found false = .ok registry ∧
      declarations? "grammar.yaml" found = some [declaration] ∧ registry.commands = [command] ∧
      declaration.name = "/deploy" ∧ declaration.aliases = ["dp"] ∧
      registry.get? (dropSlash "/deploy") = some command ∧
      registry.get? (dropSlash "dp") = some command := by
  intro found
  have hok : (load "grammar.yaml" found false).toOption.isSome = true := by decide +kernel
  have hread : (declarations? "grammar.yaml" found).map (·.map fun declaration =>
      (declaration.name, declaration.aliases)) = some [("/deploy", ["dp"])] := by decide +kernel
  cases hload : load "grammar.yaml" found false with
  | error error =>
    rw [hload] at hok
    cases hok
  | ok registry =>
    obtain ⟨declarations, commands, hdeclarations, hcommands, hall⟩ :=
      hasDeclared_of_load_eq_ok hload
    rw [hdeclarations, Option.map_some, Option.some_inj] at hread
    obtain ⟨declaration, rfl, hpair⟩ := List.map_eq_singleton_iff.mp hread
    obtain ⟨hname, haliases⟩ := Prod.mk.inj hpair
    obtain ⟨command, rest, hdeclared, hrest, rfl⟩ := List.forall₂_cons_left_iff.mp hall
    obtain rfl := List.forall₂_nil_left_iff.mp hrest
    have hshort : "dp" ∈ declaration.aliases := by
      rw [haliases]
      exact List.mem_singleton_self "dp"
    refine ⟨registry, declaration, command, rfl, hdeclarations, hcommands, hname, haliases,
      ?_, ?_⟩
    · rw [← hname]
      exact hdeclared.get?_name
    · exact hdeclared.get?_of_tidy "dp" hshort ⟨by decide, by decide, by decide⟩

/-- An alias that is written with its slash keeps it, and so is not found when one is dropped. -/
theorem get?_eq_none_of_slash_alias :
    let found : Found :=
      .text "commands:\n- name: deploy\n  description: Deploy a service.\n  aliases: [/dp]\n"
    ∃ registry declaration, load "grammar.yaml" found false = .ok registry ∧
      declarations? "grammar.yaml" found = some [declaration] ∧ "/dp" ∈ declaration.aliases ∧
      registry.get? (dropSlash "/dp") = none := by
  intro found
  have hlookup : (load "grammar.yaml" found false).toOption.map (fun registry =>
      (registry.get? (dropSlash "/dp")).isNone) = some true := by decide +kernel
  have hread : (declarations? "grammar.yaml" found).map (·.map (·.aliases)) =
      some [["/dp"]] := by decide +kernel
  cases hload : load "grammar.yaml" found false with
  | error error =>
    rw [hload] at hlookup
    cases hlookup
  | ok registry =>
    obtain ⟨declarations, commands, hdeclarations, -, -⟩ := exists_of_load_eq_ok hload
    rw [hdeclarations, Option.map_some, Option.some_inj] at hread
    obtain ⟨declaration, rfl, haliases⟩ := List.map_eq_singleton_iff.mp hread
    rw [hload, Except.toOption, Option.map_some, Option.some_inj, Option.isNone_iff_eq_none]
      at hlookup
    refine ⟨registry, declaration, rfl, hdeclarations, ?_, hlookup⟩
    rw [haliases]
    exact List.mem_singleton_self "/dp"

end Config

end SlashCommand
