import Mathlib.Data.List.Nodup
import SlashCommand.Grammar.Flag

/-!
# Sound flags and arguments

What has to hold of the fields of a flag or an argument so that nothing is wrong with them
(`IsSound`), what is wrong with them otherwise (`HasFault`), and which spellings name a kind.  The
fields are checked one after the other, and a fault names the first thing that is wrong; nothing is
wrong exactly if no check, in whatever order, finds anything.
-/

namespace SlashCommand.Grammar

open Document (Value)

/-! ## Fields -/

/-- Whether the fields of a flag are those of a sound one. -/
structure FlagFields.IsSound (fields : FlagFields) : Prop where
  isDashed_name : isDashed fields.name = true
  isDashed_of_mem_aliases : ∀ short ∈ fields.aliases, isDashed short = true
  hasValues_of_enum : fields.kind = .enum → hasValues fields.enumValues = true
  hasProvider_of_dynamicEnum : fields.kind = .dynamicEnum → hasProvider fields.providerId = true

/-- Whether the fields of an argument are those of a sound one. -/
structure ArgumentFields.IsSound (fields : ArgumentFields) : Prop where
  kind_ne_literal : fields.kind ≠ .literal
  hasValues_of_enum : fields.kind = .enum → hasValues fields.enumValues = true
  hasProvider_of_dynamicEnum : fields.kind = .dynamicEnum → hasProvider fields.providerId = true

lemma find?_not_isDashed_eq_none_iff {names : List String} :
    (names.find? fun name => !isDashed name) = none ↔ ∀ name ∈ names, isDashed name = true := by
  simp

theorem FlagFields.fault?_eq_none_iff {fields : FlagFields} :
    fields.fault? = none ↔ fields.IsSound := by
  unfold fault?
  constructor
  · intro h
    cases hfind : fields.aliases.find? fun short => !isDashed short with
    | some short =>
      simp only [hfind] at h
      split_ifs at h
    | none =>
      simp only [hfind] at h
      split_ifs at h with hname hvalues hprovider
      refine ⟨by simpa using hname, ?_, ?_, ?_⟩
      · exact find?_not_isDashed_eq_none_iff.mp hfind
      · simpa using hvalues
      · simpa using hprovider
  · rintro ⟨hname, haliases, hvalues, hprovider⟩
    have hfind := find?_not_isDashed_eq_none_iff.mpr haliases
    simp only [hname, hfind, Bool.not_true, Bool.false_eq_true, if_false]
    rw [if_neg (by simpa using hvalues), if_neg (by simpa using hprovider)]

theorem ArgumentFields.fault?_eq_none_iff {fields : ArgumentFields} :
    fields.fault? = none ↔ fields.IsSound := by
  unfold fault?
  constructor
  · intro h
    split_ifs at h with hliteral hvalues hprovider
    exact ⟨hliteral, by simpa using hvalues, by simpa using hprovider⟩
  · rintro ⟨hliteral, hvalues, hprovider⟩
    rw [if_neg hliteral, if_neg (by simpa using hvalues), if_neg (by simpa using hprovider)]

/-- What is wrong with a flag whose fields are these: the first of its name, its aliases, its values
and its provider that is not as it has to be. -/
inductive FlagFields.HasFault (fields : FlagFields) : Fault → Prop
  | name (hname : isDashed fields.name = false) : HasFault fields (.flagName fields.name)
  | short {before after : List String} {short : String} (hname : isDashed fields.name = true)
      (haliases : fields.aliases = before ++ short :: after)
      (hbefore : ∀ other ∈ before, isDashed other = true) (hshort : isDashed short = false) :
      HasFault fields (.flagAlias short fields.name)
  | values (hname : isDashed fields.name = true)
      (haliases : ∀ short ∈ fields.aliases, isDashed short = true) (hkind : fields.kind = .enum)
      (hvalues : hasValues fields.enumValues = false) : HasFault fields (.flagValues fields.name)
  | provider (hname : isDashed fields.name = true)
      (haliases : ∀ short ∈ fields.aliases, isDashed short = true)
      (hkind : fields.kind = .dynamicEnum) (hprovider : hasProvider fields.providerId = false) :
      HasFault fields (.flagProvider fields.name)

/-- What is wrong with an argument whose fields are these. -/
inductive ArgumentFields.HasFault (fields : ArgumentFields) : Fault → Prop
  | literal (hkind : fields.kind = .literal) : HasFault fields (.literalArgument fields.name)
  | values (hkind : fields.kind = .enum) (hvalues : hasValues fields.enumValues = false) :
      HasFault fields (.argumentValues fields.name)
  | provider (hkind : fields.kind = .dynamicEnum)
      (hprovider : hasProvider fields.providerId = false) :
      HasFault fields (.argumentProvider fields.name)

theorem FlagFields.fault?_eq_some_iff {fields : FlagFields} {fault : Fault} :
    fields.fault? = some fault ↔ fields.HasFault fault := by
  unfold fault?
  constructor
  · intro h
    cases hname : isDashed fields.name with
    | false =>
      obtain rfl : Fault.flagName fields.name = fault := by simpa [hname] using h
      exact .name hname
    | true =>
      cases hfind : fields.aliases.find? fun short => !isDashed short with
      | some short =>
        obtain rfl : Fault.flagAlias short fields.name = fault := by simpa [hname, hfind] using h
        obtain ⟨hshort, before, after, haliases, hbefore⟩ :=
          List.find?_eq_some_iff_append.mp hfind
        exact .short hname haliases (by simpa using hbefore) (by simpa using hshort)
      | none =>
        have haliases := find?_not_isDashed_eq_none_iff.mp hfind
        simp only [hname, hfind, Bool.not_true, Bool.false_eq_true, if_false] at h
        split_ifs at h with hvalues hprovider
        · obtain rfl := Option.some.inj h
          exact .values hname haliases (by simp_all) (by simp_all)
        · obtain rfl := Option.some.inj h
          exact .provider hname haliases (by simp_all) (by simp_all)
  · intro h
    cases h with
    | name hname => simp [hname]
    | @short before after short hname haliases hbefore hshort =>
      have hfind : (fields.aliases.find? fun short => !isDashed short) = some short :=
        List.find?_eq_some_iff_append.mpr
          ⟨by simp [hshort], before, after, haliases, by simpa using hbefore⟩
      simp [hname, hfind]
    | values hname haliases hkind hvalues =>
      have hfind := find?_not_isDashed_eq_none_iff.mpr haliases
      simp [hname, hfind, hkind, hvalues]
    | provider hname haliases hkind hprovider =>
      have hfind := find?_not_isDashed_eq_none_iff.mpr haliases
      simp [hname, hfind, hkind, hprovider]

theorem ArgumentFields.fault?_eq_some_iff {fields : ArgumentFields} {fault : Fault} :
    fields.fault? = some fault ↔ fields.HasFault fault := by
  unfold fault?
  constructor
  · intro h
    split_ifs at h with hliteral hvalues hprovider
    · obtain rfl := Option.some.inj h
      exact .literal hliteral
    · obtain rfl := Option.some.inj h
      exact .values (by simp_all) (by simp_all)
    · obtain rfl := Option.some.inj h
      exact .provider (by simp_all) (by simp_all)
  · intro h
    cases h with
    | literal hkind => simp [hkind]
    | values hkind hvalues => simp [hkind, hvalues]
    | provider hkind hprovider => simp [hkind, hprovider]

lemma hasValues_iff {enumValues : Option (List String)} :
    hasValues enumValues = true ↔ ∃ values, enumValues = some values ∧ values ≠ [] := by
  rcases enumValues with _ | _ | ⟨value, values⟩ <;> simp [hasValues]

/-- An enumerated flag has values. -/
lemma Flag.exists_enumValues_eq (flag : Flag) (h : flag.kind = .enum) :
    ∃ values, flag.enumValues = some values ∧ values ≠ [] :=
  hasValues_iff.mp ((FlagFields.fault?_eq_none_iff.mp flag.sound).hasValues_of_enum h)

lemma Flag.ofFields_eq_error_iff {fields : FlagFields} {fault : Fault} :
    Flag.ofFields fields = .error fault ↔ fields.fault? = some fault := by
  unfold Flag.ofFields
  split
  · next h => simp [h]
  · next h => simp [h]

lemma Argument.ofFields_eq_error_iff {fields : ArgumentFields} {fault : Fault} :
    Argument.ofFields fields = .error fault ↔ fields.fault? = some fault := by
  unfold Argument.ofFields
  split
  · next h => simp [h]
  · next h => simp [h]

/-! ## Kinds -/

section Spelling

variable {K : Type} (name : K → String) (short : List (String × K))

/-- Whether a value is a text that spells the name of a kind, or one of the short names that kinds
have. -/
def Spells (value : Value) (kind : K) : Prop :=
  ∃ s, value = .string s ∧
    (normalSpelling s = name kind ∨ (normalSpelling s, kind) ∈ short)

variable {name short}

lemma spells_string_iff {s : String} {kind : K} :
    Spells name short (.string s) kind ↔
      normalSpelling s = name kind ∨ (normalSpelling s, kind) ∈ short := by
  constructor
  · rintro ⟨_, h, hspells⟩
    obtain rfl := Value.string.inj h
    exact hspells
  · exact fun h => ⟨s, rfl, h⟩

lemma lookup_eq_some_iff_mem (hshort : (short.map (·.1)).Nodup) {spelling : String} {kind : K} :
    short.lookup spelling = some kind ↔ (spelling, kind) ∈ short := by
  induction short with
  | nil => simp
  | cons entry short ih =>
    obtain ⟨key, other⟩ := entry
    rw [List.map_cons, List.nodup_cons] at hshort
    have hrest := ih hshort.2
    rw [List.mem_cons, Prod.mk.injEq]
    by_cases hkey : spelling = key
    · have hnot : (spelling, kind) ∉ short := fun hmem =>
        hshort.1 (List.mem_map.mpr ⟨_, hmem, hkey⟩)
      simp only [List.lookup_cons, hkey, BEq.rfl, Option.some_inj, true_and]
      rw [← hkey, or_iff_left hnot, eq_comm]
    · simp only [List.lookup_cons, beq_false_of_ne hkey, hkey, false_and, false_or, hrest]

/-- A name is looked up among the short ones first. -/
lemma lookup_or_find?_eq_some_iff {all : List K} (hall : ∀ kind, kind ∈ all)
    (hnames : (all.map name).Nodup) (hshort : (short.map (·.1)).Nodup)
    (hapart : ∀ kind ∈ all, name kind ∉ short.map (·.1)) {spelling : String} {kind : K} :
    (short.lookup spelling).or (all.find? fun kind => name kind == spelling) = some kind ↔
      spelling = name kind ∨ (spelling, kind) ∈ short := by
  rw [← lookup_eq_some_iff_mem hshort]
  cases hlookup : short.lookup spelling with
  | some other =>
    have hne : spelling ≠ name kind := by
      rintro rfl
      exact hapart kind (hall kind)
        (List.mem_map_of_mem ((lookup_eq_some_iff_mem hshort).mp hlookup))
    simp [hne]
  | none =>
    have hname {other : K} (hfind : (all.find? fun kind => name kind == spelling) = some other) :
        name other = spelling := by
      simpa using List.find?_some hfind
    simp only [Option.none_or, reduceCtorEq, or_false]
    constructor
    · exact fun hfind => (hname hfind).symm
    · intro hspelling
      cases hfind : all.find? fun kind => name kind == spelling with
      | some other =>
        have heq : name other = name kind := (hname hfind).trans hspelling
        rw [List.inj_on_of_nodup_map hnames (hall other) (hall kind) heq]
      | none => simpa [hspelling] using List.find?_eq_none.mp hfind kind (hall kind)

end Spelling

/-- Whether a value names a kind of flags. -/
def FlagKind.Names (value : Value) (kind : FlagKind) : Prop :=
  Spells FlagKind.name FlagKind.shortNames value kind

/-- Whether a value names a kind of arguments. -/
def ArgumentKind.Names (value : Value) (kind : ArgumentKind) : Prop :=
  Spells ArgumentKind.name ArgumentKind.shortNames value kind

lemma FlagKind.ofString?_eq_some_iff {s : String} {kind : FlagKind} :
    ofString? s = some kind ↔
      normalSpelling s = kind.name ∨ (normalSpelling s, kind) ∈ shortNames := by
  have hor : ofString? s = (shortNames.lookup (normalSpelling s)).or
      (all.find? fun kind => kind.name == normalSpelling s) := by
    unfold ofString?
    dsimp only
    generalize normalSpelling s = spelling
    cases shortNames.lookup spelling <;> simp only [Option.none_or, Option.some_or]
  rw [hor]
  exact lookup_or_find?_eq_some_iff (fun kind => by cases kind <;> decide) (by decide +kernel)
    (by decide +kernel) (by decide +kernel)

lemma ArgumentKind.ofString?_eq_some_iff {s : String} {kind : ArgumentKind} :
    ofString? s = some kind ↔
      normalSpelling s = kind.name ∨ (normalSpelling s, kind) ∈ shortNames := by
  have hor : ofString? s = (shortNames.lookup (normalSpelling s)).or
      (all.find? fun kind => kind.name == normalSpelling s) := by
    unfold ofString?
    dsimp only
    generalize normalSpelling s = spelling
    cases shortNames.lookup spelling <;> simp only [Option.none_or, Option.some_or]
  rw [hor]
  exact lookup_or_find?_eq_some_iff (fun kind => by cases kind <;> decide) (by decide +kernel)
    (by decide +kernel) (by decide +kernel)

/-- Reading a kind finds the one that is named. -/
theorem FlagKind.read_eq_ok_iff {value : Value} {kind : FlagKind} :
    read value = .ok kind ↔ Names value kind := by
  cases value with
  | string s =>
    unfold Names read
    dsimp only
    rw [spells_string_iff, ← ofString?_eq_some_iff]
    cases ofString? s <;> simp
  | _ => exact ⟨nofun, fun h => h.elim nofun⟩

/-- Reading a kind fails if none is named. -/
theorem FlagKind.read_eq_error_iff {value : Value} {error : KindError} :
    read value = .error error ↔ (∀ kind, ¬ Names value kind) ∧ error = .flag value := by
  simp only [← read_eq_ok_iff]
  cases value with
  | string s =>
    unfold read
    dsimp only
    cases ofString? s <;> simp [eq_comm]
  | _ =>
    unfold read
    simp [eq_comm]

theorem ArgumentKind.read_eq_ok_iff {value : Value} {kind : ArgumentKind} :
    read value = .ok kind ↔ Names value kind := by
  cases value with
  | string s =>
    unfold Names read
    dsimp only
    rw [spells_string_iff, ← ofString?_eq_some_iff]
    cases ofString? s <;> simp
  | _ => exact ⟨nofun, fun h => h.elim nofun⟩

theorem ArgumentKind.read_eq_error_iff {value : Value} {error : KindError} :
    read value = .error error ↔ (∀ kind, ¬ Names value kind) ∧ error = .argument value := by
  simp only [← read_eq_ok_iff]
  cases value with
  | string s =>
    unfold read
    dsimp only
    cases ofString? s <;> simp [eq_comm]
  | _ =>
    unfold read
    simp [eq_comm]

end SlashCommand.Grammar
