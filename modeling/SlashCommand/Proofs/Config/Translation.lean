import SlashCommand.Proofs.Config.Declared
import SlashCommand.Proofs.Config.Failures

/-!
# From declarations to commands

A document that declares commands has the shape of a grammar, but its kinds are still spelled, and
nobody has checked what it says.  Building the commands either keeps all of it, with a slash less
in front of each command's name, or fails for the first item that is refused; and then loading
fails for the same reason, which is announced as one of the grammar (`build_translates`).
-/

namespace SlashCommand.Config

open Completion (dropSlash)
open Grammar (ArgumentDeclaration Command CommandDeclaration DeclarationError FlagDeclaration
  FlagFields FlagKind Item)

/-- A declaration as it is read: with one slash less in front of its name. -/
def named (declaration : CommandDeclaration) : CommandDeclaration :=
  { declaration with name := dropSlash declaration.name }

/-- What is checked of the declarations in a document, in the order of the checks. -/
def items (declarations : List CommandDeclaration) : List Item :=
  declarations.flatMap fun declaration => (named declaration).items

variable {path : String} {found : Found} {declarations : List CommandDeclaration}

lemma map_dropCommandSlash (declarations : List CommandDeclaration) :
    declarations.map dropCommandSlash = declarations.map named :=
  List.map_congr_left fun declaration _ => dropCommandSlash_eq declaration

lemma fault?_build (path : String) (declarations : List CommandDeclaration) :
    fault? (build path declarations) =
      ((items declarations).findSome? Item.error?).map (.declaration path) := by
  rw [build, map_dropCommandSlash, fault?_mapError, Grammar.fault?_buildCommands, List.flatMap_map,
    items]

lemma declarations?_eq_some_iff :
    declarations? path found = some declarations ↔
      ∃ document, readDocument path found = .ok document ∧ document.isMapping = true ∧
        grammar document = .ok declarations := by
  simp only [declarations?, bind, Option.bind_eq_some_iff, toOption_eq_some_iff,
    Option.ite_none_right_eq_some]
  refine exists_congr fun document => and_congr_right' (and_congr_right' ?_)
  exact toOption_eq_some_iff

lemma build_eq_ok_iff {commands : List Command} :
    build path declarations = .ok commands ↔
      List.Forall₂ (fun declaration command => (named declaration).Declares command) declarations
        commands := by
  rw [build, mapError_eq_ok_iff, map_dropCommandSlash, Grammar.buildCommands_eq_ok_iff_declares,
    List.forall₂_map_left_iff]

lemma build_eq_error_iff {error : LoadError} :
    build path declarations = .error error ↔
      ∃ cause, Item.FirstRefused (items declarations) cause ∧ error = .declaration path cause := by
  rw [← fault?_eq_some_iff, fault?_build, Option.map_eq_some_iff]
  refine exists_congr fun cause => and_congr Item.findSome?_error?_eq_some_iff eq_comm

lemma exists_build_eq_ok_iff :
    (∃ commands, build path declarations = .ok commands) ↔
      ∀ item ∈ items declarations, item.Valid := by
  rw [← fault?_eq_none_iff, fault?_build, Option.map_eq_none_iff,
    Item.findSome?_error?_eq_none_iff]

/-- A document whose declarations are refused is not loaded. -/
lemma load_eq_error_of_firstRefused (includeBuiltin : Bool)
    (hdeclarations : declarations? path found = some declarations) {cause : DeclarationError}
    (hcause : Item.FirstRefused (items declarations) cause) :
    load path found includeBuiltin = .error (.declaration (Path.normal path) cause) := by
  obtain ⟨document, hread, hmapping, hgrammar⟩ := declarations?_eq_some_iff.mp hdeclarations
  have hbuild : Grammar.buildCommands (declarations.map dropCommandSlash) = .error cause := by
    rw [← fault?_eq_some_iff, map_dropCommandSlash, Grammar.fault?_buildCommands,
      List.flatMap_map]
    exact Item.findSome?_error?_eq_some_iff.mpr hcause
  exact load_eq_error_iff.mpr (.undeclared hread (.declaration hmapping hgrammar hbuild))

/-- Commands are built of declarations exactly if every item is valid.  What is built then is what
is declared.  Otherwise the first item that is refused is the reason, also for loading what is
found at a path, whose failure is announced as one of the grammar. -/
theorem build_translates (declarations : List CommandDeclaration) :
    (∀ path, (∃ commands, build path declarations = .ok commands) ↔
      ∀ item ∈ items declarations, item.Valid) ∧
    (∀ path commands, build path declarations = .ok commands ↔
      List.Forall₂ (fun declaration command => (named declaration).Declares command) declarations
        commands) ∧
    (∀ path error, build path declarations = .error error ↔
      ∃ cause, Item.FirstRefused (items declarations) cause ∧ error = .declaration path cause) ∧
    ∀ path found includeBuiltin cause, declarations? path found = some declarations →
      Item.FirstRefused (items declarations) cause →
        ∃ error, load path found includeBuiltin = .error error ∧
          error = .declaration (Path.normal path) cause ∧ error.failure? = some .grammar := by
  refine ⟨fun _ => exists_build_eq_ok_iff, fun _ _ => build_eq_ok_iff, fun _ _ => build_eq_error_iff,
    fun path found includeBuiltin cause hdeclarations hcause => ?_⟩
  exact ⟨_, load_eq_error_of_firstRefused includeBuiltin hdeclarations hcause, rfl, rfl⟩

/-- Three things are wrong with a command.  The flag below the argument is checked first, and the
argument and the name are not looked at.  Nor is the name looked at while a document is loaded that
holds a flag without its dash. -/
theorem build_translates_deploy :
    let force : FlagDeclaration := { name := "--force" }
    let region : FlagDeclaration := { name := "region", kind := .string "String" }
    let service : ArgumentDeclaration := { name := "service", kind := .string "word" }
    let deploy : CommandDeclaration :=
      { name := "/deploy it"
        description := "Deploy a service."
        root := [.argument service [.literal "now" none [] [force, region]] []] }
    let found : Found :=
      .text "commands:\n- name: a b\n  description: c\n  flags:\n  - name: d\n"
    items [deploy] = [.flag force, .flag region, .argument service, .commandName "deploy it"] ∧
      Item.FirstRefused (items [deploy]) (.fault (.flagName "region")) ∧
      build "grammar.yaml" [deploy] =
        .error (.declaration "grammar.yaml" (.fault (.flagName "region"))) ∧
      ∃ error, load "grammar.yaml" found true = .error error ∧ error.failure? = some .grammar ∧
        error.message = "Invalid grammar in 'grammar.yaml': " ++
          "Flag name 'd' must start with '-' and have a body." := by
  intro force region service deploy found
  have hitems : items [deploy] =
      [.flag force, .flag region, .argument service, .commandName "deploy it"] := by
    have hname : (named deploy).name = "deploy it" := by decide +kernel
    rw [items, List.flatMap_singleton, CommandDeclaration.items, hname]
    rfl
  have hforce : (Item.flag force).Valid := by
    have hkind : FlagKind.Names force.kind .boolean :=
      ⟨"boolean", rfl, .inl (by decide +kernel)⟩
    have hfault : (FlagFields.mk "--force" .boolean [] none none false none).fault? = none := by
      decide +kernel
    exact .flag hkind (FlagFields.fault?_eq_none_iff.mp hfault)
  have hregion : (Item.flag region).Refused (.fault (.flagName "region")) := by
    have hkind : FlagKind.Names region.kind .string :=
      ⟨"String", rfl, .inl (by decide +kernel)⟩
    exact .flag hkind (.name (by decide +kernel))
  have hfirst : Item.FirstRefused (items [deploy]) (.fault (.flagName "region")) := by
    rw [hitems]
    exact .intro (List.forall_mem_singleton.mpr hforce) hregion
  have hread : ((declarations? "grammar.yaml" found).bind fun declarations =>
      (items declarations).findSome? Item.error?).map (fun cause =>
        (LoadError.declaration (Path.normal "grammar.yaml") cause).message) =
      some ("Invalid grammar in 'grammar.yaml': " ++
        "Flag name 'd' must start with '-' and have a body.") := by decide +kernel
  obtain ⟨cause, hcause, hmessage⟩ := Option.map_eq_some_iff.mp hread
  obtain ⟨declarations, hdeclarations, hfound⟩ := Option.bind_eq_some_iff.mp hcause
  obtain ⟨error, hload, rfl, hfailure⟩ := (build_translates declarations).2.2.2 "grammar.yaml" found
    true cause hdeclarations (Item.findSome?_error?_eq_some_iff.mp hfound)
  exact ⟨hitems, hfirst, ((build_translates [deploy]).2.2.1 _ _).mpr ⟨_, hfirst, rfl⟩,
    _, hload, hfailure, hmessage⟩

end SlashCommand.Config
