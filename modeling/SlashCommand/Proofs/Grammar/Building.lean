import SlashCommand.Grammar.Declaration
import SlashCommand.Proofs.Grammar.Sound
import SlashCommand.Proofs.Outcome

/-!
# Building a declared grammar

`Declares` says what a declaration and what is built of it have to do with each other: it is the
same tree, with kinds in the place of their spellings.  `items` lists what is checked of a
declaration, in the order of the checks.  Each item is valid or refused on its own, whatever stands
around it.

Building finds what is declared if there is such a thing (`buildCommands_eq_ok_iff_declares`), and
otherwise reports the first item that is refused (`fault?_buildCommands`).
-/

namespace SlashCommand.Grammar

/-! ## What is declared -/

/-- The fields of a declared flag, once its kind is known. -/
def FlagDeclaration.fields (declared : FlagDeclaration) (kind : FlagKind) : FlagFields where
  name := declared.name
  kind := kind
  aliases := declared.aliases
  enumValues := declared.enumValues
  providerId := declared.providerId
  repeatable := declared.repeatable
  description := declared.description

/-- The fields of a declared argument, once its kind is known. -/
def ArgumentDeclaration.fields (declared : ArgumentDeclaration) (kind : ArgumentKind) :
    ArgumentFields where
  name := declared.name
  kind := kind
  isOptional := declared.isOptional
  enumValues := declared.enumValues
  providerId := declared.providerId
  placeholder := declared.placeholder
  description := declared.description

/-- Whether a flag is the declared one. -/
structure FlagDeclaration.Declares (declared : FlagDeclaration) (flag : Flag) : Prop where
  names : FlagKind.Names declared.kind flag.kind
  fields_eq : flag.toFlagFields = declared.fields flag.kind

/-- Whether an argument is the declared one. -/
structure ArgumentDeclaration.Declares (declared : ArgumentDeclaration) (slot : Argument) :
    Prop where
  names : ArgumentKind.Names declared.kind slot.kind
  fields_eq : slot.toArgumentFields = declared.fields slot.kind

/-- Whether a tree is the declared one: of the same shape, with what is declared in each place. -/
inductive NodeDeclaration.Declares : NodeDeclaration → Node → Prop
  | literal {value : String} {description : Option String} {children : List NodeDeclaration}
      {flags : List FlagDeclaration} {nodes : List Node} {built : List Flag}
      (hchildren : List.Forall₂ Declares children nodes)
      (hflags : List.Forall₂ FlagDeclaration.Declares flags built) :
      Declares (.literal value description children flags)
        (.literal value description built nodes)
  | argument {declared : ArgumentDeclaration} {slot : Argument} {children : List NodeDeclaration}
      {flags : List FlagDeclaration} {nodes : List Node} {built : List Flag}
      (hchildren : List.Forall₂ Declares children nodes)
      (hflags : List.Forall₂ FlagDeclaration.Declares flags built)
      (hslot : declared.Declares slot) :
      Declares (.argument declared children flags) (.argument slot built nodes)

/-- Whether a command is the declared one. -/
structure CommandDeclaration.Declares (declared : CommandDeclaration) (command : Command) :
    Prop where
  name_eq : command.name = declared.name
  description_eq : command.description = declared.description
  usage_eq : command.usage = if declared.usage = "" then "/" ++ declared.name else declared.usage
  aliases_eq : command.aliases = declared.aliases
  root : List.Forall₂ NodeDeclaration.Declares declared.root command.root
  flags : List.Forall₂ FlagDeclaration.Declares declared.flags command.flags

/-! ## What is checked -/

/-- What is checked of a declaration at once. -/
inductive Item where
  | flag (declared : FlagDeclaration)
  | argument (declared : ArgumentDeclaration)
  | commandName (name : String)

mutual

/-- What is checked of a node: its children, then its flags, then its own argument. -/
def NodeDeclaration.items : NodeDeclaration → List Item
  | .literal _ _ children flags => nodeItems children ++ flags.map .flag
  | .argument slot children flags => nodeItems children ++ flags.map .flag ++ [.argument slot]

/-- What is checked of some nodes, one node after the other. -/
def nodeItems : List NodeDeclaration → List Item
  | [] => []
  | node :: nodes => node.items ++ nodeItems nodes

end

/-- What is checked of a command: its tree, then its flags, then its name. -/
def CommandDeclaration.items (command : CommandDeclaration) : List Item :=
  nodeItems command.root ++ command.flags.map .flag ++ [.commandName command.name]

namespace Item

/-- Whether nothing is wrong with an item. -/
inductive Valid : Item → Prop
  | flag {declared : FlagDeclaration} {kind : FlagKind} (hkind : FlagKind.Names declared.kind kind)
      (hsound : (declared.fields kind).IsSound) : Valid (.flag declared)
  | argument {declared : ArgumentDeclaration} {kind : ArgumentKind}
      (hkind : ArgumentKind.Names declared.kind kind) (hsound : (declared.fields kind).IsSound) :
      Valid (.argument declared)
  | commandName {name : String} (hname : isCommandName name = true) : Valid (.commandName name)

/-- Whether an item is refused, and why. -/
inductive Refused : Item → DeclarationError → Prop
  | flagKind {declared : FlagDeclaration} (hkind : ∀ kind, ¬ FlagKind.Names declared.kind kind) :
      Refused (.flag declared) (.flagKind declared.name (.flag declared.kind))
  | flag {declared : FlagDeclaration} {kind : FlagKind} {fault : Fault}
      (hkind : FlagKind.Names declared.kind kind)
      (hfault : (declared.fields kind).HasFault fault) :
      Refused (.flag declared) (.fault fault)
  | argumentKind {declared : ArgumentDeclaration}
      (hkind : ∀ kind, ¬ ArgumentKind.Names declared.kind kind) :
      Refused (.argument declared) (.argumentKind declared.name (.argument declared.kind))
  | argument {declared : ArgumentDeclaration} {kind : ArgumentKind} {fault : Fault}
      (hkind : ArgumentKind.Names declared.kind kind)
      (hfault : (declared.fields kind).HasFault fault) :
      Refused (.argument declared) (.fault fault)
  | commandName {name : String} (hname : isCommandName name = false) :
      Refused (.commandName name) (.fault (.commandName name))

/-- Whether some items begin with valid ones, behind which there is one that is refused. -/
inductive FirstRefused : List Item → DeclarationError → Prop
  | intro {before : List Item} {item : Item} {after : List Item} {cause : DeclarationError}
      (hbefore : ∀ other ∈ before, other.Valid) (hitem : item.Refused cause) :
      FirstRefused (before ++ item :: after) cause

/-- The reason for which an item is refused. -/
def error? : Item → Option DeclarationError
  | flag declared => SlashCommand.fault? declared.build
  | argument declared => SlashCommand.fault? declared.build
  | commandName name =>
    if isCommandName name then none else some (.fault (.commandName name))

end Item

/-! ## Flags and arguments -/

namespace FlagDeclaration

lemma build_eq (declared : FlagDeclaration) :
    declared.build = (do
      let kind ← (FlagKind.read declared.kind).mapError (.flagKind declared.name)
      (Flag.ofFields (declared.fields kind)).mapError .fault) :=
  rfl

theorem build_eq_ok_iff {declared : FlagDeclaration} {flag : Flag} :
    declared.build = .ok flag ↔ declared.Declares flag := by
  simp only [build_eq, bind_eq_ok_iff, mapError_eq_ok_iff, FlagKind.read_eq_ok_iff,
    Flag.ofFields_eq_ok_iff]
  constructor
  · rintro ⟨kind, hkind, hfields⟩
    obtain rfl : flag.kind = kind := congrArg FlagFields.kind hfields
    exact ⟨hkind, hfields⟩
  · rintro ⟨hkind, hfields⟩
    exact ⟨_, hkind, hfields⟩

theorem build_eq_error_iff {declared : FlagDeclaration} {cause : DeclarationError} :
    declared.build = .error cause ↔ (Item.flag declared).Refused cause := by
  simp only [build_eq, bind_eq_error_iff, mapError_eq_error_iff, mapError_eq_ok_iff,
    FlagKind.read_eq_ok_iff, FlagKind.read_eq_error_iff, Flag.ofFields_eq_error_iff,
    FlagFields.fault?_eq_some_iff]
  constructor
  · rintro (⟨_, ⟨hkind, rfl⟩, rfl⟩ | ⟨kind, hkind, fault, hfault, rfl⟩)
    · exact .flagKind hkind
    · exact .flag hkind hfault
  · intro h
    cases h with
    | flagKind hkind => exact .inl ⟨_, ⟨hkind, rfl⟩, rfl⟩
    | flag hkind hfault => exact .inr ⟨_, hkind, _, hfault, rfl⟩

end FlagDeclaration

namespace ArgumentDeclaration

lemma build_eq (declared : ArgumentDeclaration) :
    declared.build = (do
      let kind ← (ArgumentKind.read declared.kind).mapError (.argumentKind declared.name)
      (Argument.ofFields (declared.fields kind)).mapError .fault) :=
  rfl

theorem build_eq_ok_iff {declared : ArgumentDeclaration} {slot : Argument} :
    declared.build = .ok slot ↔ declared.Declares slot := by
  simp only [build_eq, bind_eq_ok_iff, mapError_eq_ok_iff, ArgumentKind.read_eq_ok_iff,
    Argument.ofFields_eq_ok_iff]
  constructor
  · rintro ⟨kind, hkind, hfields⟩
    obtain rfl : slot.kind = kind := congrArg ArgumentFields.kind hfields
    exact ⟨hkind, hfields⟩
  · rintro ⟨hkind, hfields⟩
    exact ⟨_, hkind, hfields⟩

theorem build_eq_error_iff {declared : ArgumentDeclaration} {cause : DeclarationError} :
    declared.build = .error cause ↔ (Item.argument declared).Refused cause := by
  simp only [build_eq, bind_eq_error_iff, mapError_eq_error_iff, mapError_eq_ok_iff,
    ArgumentKind.read_eq_ok_iff, ArgumentKind.read_eq_error_iff, Argument.ofFields_eq_error_iff,
    ArgumentFields.fault?_eq_some_iff]
  constructor
  · rintro (⟨_, ⟨hkind, rfl⟩, rfl⟩ | ⟨kind, hkind, fault, hfault, rfl⟩)
    · exact .argumentKind hkind
    · exact .argument hkind hfault
  · intro h
    cases h with
    | argumentKind hkind => exact .inl ⟨_, ⟨hkind, rfl⟩, rfl⟩
    | argument hkind hfault => exact .inr ⟨_, hkind, _, hfault, rfl⟩

end ArgumentDeclaration

/-! ## Items -/

namespace Item

theorem error?_eq_none_iff {item : Item} : item.error? = none ↔ item.Valid := by
  cases item with
  | flag declared =>
    simp only [error?, fault?_eq_none_iff, FlagDeclaration.build_eq_ok_iff]
    constructor
    · rintro ⟨flag, hkind, hfields⟩
      exact .flag hkind (FlagFields.fault?_eq_none_iff.mp (hfields ▸ flag.sound))
    · rintro ⟨hkind, hsound⟩
      exact ⟨⟨_, FlagFields.fault?_eq_none_iff.mpr hsound⟩, hkind, rfl⟩
  | argument declared =>
    simp only [error?, fault?_eq_none_iff, ArgumentDeclaration.build_eq_ok_iff]
    constructor
    · rintro ⟨slot, hkind, hfields⟩
      exact .argument hkind (ArgumentFields.fault?_eq_none_iff.mp (hfields ▸ slot.sound))
    · intro h
      cases h with
      | argument hkind hsound =>
        exact ⟨⟨_, ArgumentFields.fault?_eq_none_iff.mpr hsound⟩, hkind, rfl⟩
  | commandName name =>
    simp only [error?, ite_eq_left_iff, reduceCtorEq, imp_false, not_not]
    constructor
    · exact .commandName
    · intro h
      cases h with
      | commandName hname => exact hname

theorem error?_eq_some_iff {item : Item} {cause : DeclarationError} :
    item.error? = some cause ↔ item.Refused cause := by
  cases item with
  | flag declared => rw [error?, fault?_eq_some_iff, FlagDeclaration.build_eq_error_iff]
  | argument declared => rw [error?, fault?_eq_some_iff, ArgumentDeclaration.build_eq_error_iff]
  | commandName name =>
    rw [error?]
    constructor
    · intro h
      split at h
      · cases h
      · next hname =>
        obtain rfl := Option.some.inj h
        exact .commandName (eq_false_of_ne_true hname)
    · intro h
      cases h with
      | commandName hname => rw [hname, if_neg Bool.false_ne_true]

lemma findSome?_error?_eq_none_iff {items : List Item} :
    items.findSome? error? = none ↔ ∀ item ∈ items, item.Valid := by
  simp only [List.findSome?_eq_none_iff, error?_eq_none_iff]

lemma findSome?_error?_eq_some_iff {items : List Item} {cause : DeclarationError} :
    items.findSome? error? = some cause ↔ FirstRefused items cause := by
  simp only [List.findSome?_eq_some_iff, error?_eq_some_iff, error?_eq_none_iff]
  constructor
  · rintro ⟨before, item, after, rfl, hitem, hbefore⟩
    exact .intro hbefore hitem
  · rintro ⟨hbefore, hitem⟩
    exact ⟨_, _, _, rfl, hitem, hbefore⟩

end Item

/-! ## Trees -/

lemma buildFlags_eq_mapM (declared : List FlagDeclaration) :
    buildFlags declared = declared.mapM FlagDeclaration.build := by
  induction declared with
  | nil => rfl
  | cons flag flags ih => rw [buildFlags, ih, List.mapM_cons]

lemma buildNodes_eq_mapM (declared : List NodeDeclaration) :
    buildNodes declared = declared.mapM NodeDeclaration.build := by
  induction declared with
  | nil => rw [buildNodes, List.mapM_nil]; rfl
  | cons node nodes ih => rw [buildNodes, ih, List.mapM_cons]

lemma buildCommands_eq_mapM (declared : List CommandDeclaration) :
    buildCommands declared = declared.mapM CommandDeclaration.build := by
  induction declared with
  | nil => rfl
  | cons command commands ih => rw [buildCommands, ih, List.mapM_cons]

lemma buildFlags_eq_ok_iff {declared : List FlagDeclaration} {flags : List Flag} :
    buildFlags declared = .ok flags ↔ List.Forall₂ FlagDeclaration.Declares declared flags := by
  simp only [buildFlags_eq_mapM, mapM_eq_ok_iff, FlagDeclaration.build_eq_ok_iff]

lemma fault?_buildFlags (declared : List FlagDeclaration) :
    fault? (buildFlags declared) = (declared.map Item.flag).findSome? Item.error? := by
  rw [buildFlags_eq_mapM, fault?_mapM, List.findSome?_map]
  rfl

/-- What holds of the empty list, and of a node with more nodes behind it as soon as it holds of the
node's children and of those behind it, holds of all lists of declared nodes. -/
theorem NodeDeclaration.forest_induction {motive : List NodeDeclaration → Prop} (nil : motive [])
    (literal : ∀ value description children flags nodes, motive children → motive nodes →
      motive (.literal value description children flags :: nodes))
    (argument : ∀ slot children flags nodes, motive children → motive nodes →
      motive (.argument slot children flags :: nodes)) : ∀ forest, motive forest
  | [] => nil
  | .literal _ _ children _ :: nodes =>
    literal _ _ _ _ _ (forest_induction nil literal argument children)
      (forest_induction nil literal argument nodes)
  | .argument _ children _ :: nodes =>
    argument _ _ _ _ (forest_induction nil literal argument children)
      (forest_induction nil literal argument nodes)

lemma fault?_buildNodes_cons (node : NodeDeclaration) (nodes : List NodeDeclaration) :
    fault? (buildNodes (node :: nodes)) = (fault? node.build).or (fault? (buildNodes nodes)) := by
  rw [buildNodes, fault?_bind_of_forall fun first => fault?_bind_pure _ (first :: ·)]

lemma NodeDeclaration.fault?_build_literal (value : String) (description : Option String)
    (children : List NodeDeclaration) (flags : List FlagDeclaration) :
    fault? (NodeDeclaration.literal value description children flags).build =
      (fault? (buildNodes children)).or (fault? (buildFlags flags)) := by
  rw [NodeDeclaration.build, fault?_bind_of_forall fun built =>
    fault?_bind_pure _ (Node.literal value description · built)]

lemma NodeDeclaration.fault?_build_argument (slot : ArgumentDeclaration)
    (children : List NodeDeclaration) (flags : List FlagDeclaration) :
    fault? (NodeDeclaration.argument slot children flags).build =
      (fault? (buildNodes children)).or ((fault? (buildFlags flags)).or (fault? slot.build)) := by
  rw [NodeDeclaration.build, fault?_bind_of_forall fun built =>
    fault?_bind_of_forall fun flags => fault?_bind_pure _ (Node.argument · flags built)]

/-- Building nodes fails for the first of their items that is refused. -/
theorem fault?_buildNodes (declared : List NodeDeclaration) :
    fault? (buildNodes declared) = (nodeItems declared).findSome? Item.error? := by
  induction declared using NodeDeclaration.forest_induction with
  | nil => rw [buildNodes, nodeItems]; rfl
  | literal value description children flags nodes ihchildren ihnodes =>
    rw [fault?_buildNodes_cons, NodeDeclaration.fault?_build_literal, ihchildren, ihnodes,
      fault?_buildFlags, nodeItems, NodeDeclaration.items, List.findSome?_append,
      List.findSome?_append]
  | argument slot children flags nodes ihchildren ihnodes =>
    rw [fault?_buildNodes_cons, NodeDeclaration.fault?_build_argument, ihchildren, ihnodes,
      fault?_buildFlags, nodeItems, NodeDeclaration.items, List.findSome?_append,
      List.findSome?_append, List.findSome?_append, List.findSome?_singleton, Item.error?]
    simp only [Option.or_assoc]

lemma buildNodes_cons_eq_ok_iff {node : NodeDeclaration} {nodes : List NodeDeclaration}
    {built : List Node} :
    buildNodes (node :: nodes) = .ok built ↔
      ∃ first rest, node.build = .ok first ∧ buildNodes nodes = .ok rest ∧
        built = first :: rest := by
  rw [buildNodes_eq_mapM, buildNodes_eq_mapM, mapM_eq_ok_iff, List.forall₂_cons_left_iff]
  simp only [mapM_eq_ok_iff]

/-- Building nodes finds the declared ones. -/
theorem buildNodes_eq_ok_iff {declared : List NodeDeclaration} {nodes : List Node} :
    buildNodes declared = .ok nodes ↔ List.Forall₂ NodeDeclaration.Declares declared nodes := by
  induction declared using NodeDeclaration.forest_induction generalizing nodes with
  | nil =>
    rw [buildNodes_eq_mapM, mapM_eq_ok_iff, List.forall₂_nil_left_iff, List.forall₂_nil_left_iff]
  | literal value description children flags rest ihchildren ihrest =>
    -- the forests below and behind a node are both known, and the node itself is checked here
    have hnode (node : Node) : (NodeDeclaration.literal value description children flags).build =
        .ok node ↔ (NodeDeclaration.literal value description children flags).Declares node := by
      simp only [NodeDeclaration.build, bind_eq_ok_iff, ihchildren, buildFlags_eq_ok_iff]
      constructor
      · rintro ⟨nodes, hchildren, built, hflags, h⟩
        obtain rfl := Except.ok.inj h
        exact .literal hchildren hflags
      · rintro ⟨hchildren, hflags⟩
        exact ⟨_, hchildren, _, hflags, rfl⟩
    simp only [buildNodes_cons_eq_ok_iff, List.forall₂_cons_left_iff, hnode, ihrest]
  | argument slot children flags rest ihchildren ihrest =>
    have hnode (node : Node) : (NodeDeclaration.argument slot children flags).build = .ok node ↔
        (NodeDeclaration.argument slot children flags).Declares node := by
      simp only [NodeDeclaration.build, bind_eq_ok_iff, ihchildren, buildFlags_eq_ok_iff,
        ArgumentDeclaration.build_eq_ok_iff]
      constructor
      · rintro ⟨nodes, hchildren, built, hflags, slot', hslot, h⟩
        obtain rfl := Except.ok.inj h
        exact .argument hchildren hflags hslot
      · intro h
        cases h with
        | argument hchildren hflags hslot =>
          exact ⟨_, hchildren, _, hflags, _, hslot, rfl⟩
    simp only [buildNodes_cons_eq_ok_iff, List.forall₂_cons_left_iff, hnode, ihrest]

/-! ## Commands -/

theorem Command.ofFields_eq_ok_iff {fields : CommandFields} {command : Command} :
    Command.ofFields fields = .ok command ↔ command.toCommandFields = fields.withUsage := by
  rw [Command.ofFields]
  constructor
  · intro h
    split at h
    · rw [← Except.ok.inj h]
    · cases h
  · intro h
    have hname : isCommandName fields.name = true := by
      rw [← fields.name_withUsage, ← h]
      exact command.isCommandName_name
    obtain ⟨_, hnamed⟩ := command
    obtain rfl := h
    rw [dif_pos hname]

lemma Command.fault?_ofFields (fields : CommandFields) :
    fault? (Command.ofFields fields) =
      if isCommandName fields.name then none else some (.commandName fields.name) := by
  rw [Command.ofFields]
  split_ifs <;> rfl

namespace CommandDeclaration

theorem build_eq_ok_iff {declared : CommandDeclaration} {command : Command} :
    declared.build = .ok command ↔ declared.Declares command := by
  simp only [build, bind_eq_ok_iff, mapError_eq_ok_iff, buildNodes_eq_ok_iff, buildFlags_eq_ok_iff,
    Command.ofFields_eq_ok_iff]
  constructor
  · rintro ⟨root, hroot, flags, hflags, hfields⟩
    obtain ⟨_, hnamed⟩ := command
    obtain rfl := hfields
    exact ⟨rfl, rfl, rfl, rfl, hroot, hflags⟩
  · rintro ⟨hname, hdescription, husage, haliases, hroot, hflags⟩
    refine ⟨command.root, hroot, command.flags, hflags, ?_⟩
    obtain ⟨⟨name, description, usage, aliases, root, flags⟩, hnamed⟩ := command
    subst hname hdescription husage haliases
    rfl

/-- Building a command fails for the first of its items that is refused. -/
theorem fault?_build (declared : CommandDeclaration) :
    fault? declared.build = declared.items.findSome? Item.error? := by
  have hname (root : List Node) (flags : List Flag) :
      fault? ((Command.ofFields
        { name := declared.name
          description := declared.description
          usage := declared.usage
          aliases := declared.aliases
          root
          flags }).mapError DeclarationError.fault) =
        (Item.commandName declared.name).error? := by
    rw [fault?_mapError, Command.fault?_ofFields, Item.error?]
    split_ifs <;> rfl
  rw [build, fault?_bind_of_forall fun root => fault?_bind_of_forall (hname root),
    fault?_buildNodes, fault?_buildFlags, items, List.findSome?_append, List.findSome?_append,
    List.findSome?_singleton, Option.or_assoc]

end CommandDeclaration

/-- Building commands finds the declared ones. -/
theorem buildCommands_eq_ok_iff_declares {declared : List CommandDeclaration}
    {commands : List Command} :
    buildCommands declared = .ok commands ↔
      List.Forall₂ CommandDeclaration.Declares declared commands := by
  simp only [buildCommands_eq_mapM, mapM_eq_ok_iff, CommandDeclaration.build_eq_ok_iff]

/-- Building commands fails for the first of their items that is refused. -/
theorem fault?_buildCommands (declared : List CommandDeclaration) :
    fault? (buildCommands declared) =
      (declared.flatMap CommandDeclaration.items).findSome? Item.error? := by
  rw [buildCommands_eq_mapM, fault?_mapM]
  induction declared with
  | nil => rfl
  | cons command commands ih =>
    rw [List.findSome?_cons, List.flatMap_cons, List.findSome?_append, ih,
      CommandDeclaration.fault?_build]
    cases command.items.findSome? Item.error? <;> rfl

end SlashCommand.Grammar
