import SlashCommand.Grammar.Fault
import SlashCommand.Grammar.Kind

/-!
# Flags and arguments

A flag is given by its name or by one of its aliases, at any place behind the command; an
argument is given by its place.  Both take values of some kind.

`FlagFields` and `ArgumentFields` hold what a grammar says; their `fault?` is the first thing
wrong with it.  `Flag` and `Argument` are the same fields with nothing wrong, so whoever holds a
flag knows that its names are dashed and that a set of values can be found where one is needed.
-/

namespace SlashCommand.Grammar

/-- Whether a name is that of a flag: a dash with something behind it. -/
def isDashed (name : String) : Bool :=
  match name.toList with
  | '-' :: _ :: _ => true
  | _ => false

/-- Whether a set of values is there and has a member. -/
def hasValues : Option (List String) → Bool
  | some (_ :: _) => true
  | _ => false

/-- Whether the provider of a set of values is named. -/
def hasProvider : Option String → Bool
  | some id => id != ""
  | none => false

/-- What a grammar says of a flag. -/
structure FlagFields where
  /-- The name, dashes included. -/
  name : String
  kind : FlagKind := .boolean
  aliases : List String := []
  /-- The values of an enumerated flag. -/
  enumValues : Option (List String) := none
  /-- Who knows the values of a dynamic flag. -/
  providerId : Option String := none
  /-- Whether the flag may be given again. -/
  repeatable : Bool := false
  description : Option String := none
  deriving DecidableEq, Repr

/-- The first thing wrong with a flag: its name, then its aliases in order, then its values. -/
def FlagFields.fault? (flag : FlagFields) : Option Fault :=
  if !isDashed flag.name then some (.flagName flag.name)
  else match flag.aliases.find? fun short => !isDashed short with
    | some short => some (.flagAlias short flag.name)
    | none =>
      if flag.kind = .enum && !hasValues flag.enumValues then some (.flagValues flag.name)
      else if flag.kind = .dynamicEnum && !hasProvider flag.providerId then
        some (.flagProvider flag.name)
      else none

/-- A flag that can be part of a grammar. -/
structure Flag extends FlagFields where
  sound : toFlagFields.fault? = none
  deriving DecidableEq

namespace Flag

/-- The flag with the given fields, unless something is wrong with them. -/
def ofFields (fields : FlagFields) : Except Fault Flag :=
  match h : fields.fault? with
  | none => .ok ⟨fields, h⟩
  | some fault => .error fault

/-- Whether the word behind the flag is its value. -/
def takesValue (flag : Flag) : Bool :=
  flag.kind.takesValue

/-- The name of the flag in lowercase, under which its use is remembered. -/
def key (flag : Flag) : String :=
  Text.lowercase flag.name

/-- Whether a word is the flag's name or one of its aliases, letter case aside. -/
def answersTo (flag : Flag) (word : String) : Bool :=
  let lowered := Text.lowercase word
  flag.key == lowered || flag.aliases.any fun short => Text.lowercase short == lowered

/-- The first of some flags that a word names. -/
def find? (flags : List Flag) (word : String) : Option Flag :=
  flags.find? (·.answersTo word)

end Flag

/-- What a grammar says of an argument. -/
structure ArgumentFields where
  name : String
  kind : ArgumentKind := .string
  /-- Whether the argument may be left out. -/
  isOptional : Bool := false
  /-- The values of an enumerated argument. -/
  enumValues : Option (List String) := none
  /-- Who knows the values of a dynamic argument. -/
  providerId : Option String := none
  /-- What is shown where the argument is about to be typed. -/
  placeholder : Option String := none
  description : Option String := none
  deriving DecidableEq, Repr

/-- The first thing wrong with an argument. -/
def ArgumentFields.fault? (argument : ArgumentFields) : Option Fault :=
  if argument.kind = .literal then some (.literalArgument argument.name)
  else if argument.kind = .enum && !hasValues argument.enumValues then
    some (.argumentValues argument.name)
  else if argument.kind = .dynamicEnum && !hasProvider argument.providerId then
    some (.argumentProvider argument.name)
  else none

/-- An argument that can be part of a grammar. -/
structure Argument extends ArgumentFields where
  sound : toArgumentFields.fault? = none
  deriving DecidableEq

/-- The argument with the given fields, unless something is wrong with them. -/
def Argument.ofFields (fields : ArgumentFields) : Except Fault Argument :=
  match h : fields.fault? with
  | none => .ok ⟨fields, h⟩
  | some fault => .error fault

theorem Flag.isDashed_name (flag : Flag) : isDashed flag.name = true := by
  have hsound := flag.sound
  unfold FlagFields.fault? at hsound
  split at hsound
  · cases hsound
  · next h => simpa using h

theorem Flag.ofFields_eq_ok_iff {fields : FlagFields} {flag : Flag} :
    Flag.ofFields fields = .ok flag ↔ flag.toFlagFields = fields := by
  unfold Flag.ofFields
  constructor
  · intro h
    split at h
    · cases h; rfl
    · cases h
  · rintro rfl
    split
    · rfl
    · next h => rw [flag.sound] at h; cases h

theorem Argument.ofFields_eq_ok_iff {fields : ArgumentFields} {argument : Argument} :
    Argument.ofFields fields = .ok argument ↔ argument.toArgumentFields = fields := by
  unfold Argument.ofFields
  constructor
  · intro h
    split at h
    · cases h; rfl
    · cases h
  · rintro rfl
    split
    · rfl
    · next h => rw [argument.sound] at h; cases h

end SlashCommand.Grammar
