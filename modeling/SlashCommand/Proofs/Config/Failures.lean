import SlashCommand.Config.Load
import SlashCommand.Proofs.Outcome
import SlashCommand.Proofs.Text.Utf8

/-!
# How loading fails

Loading is a chain of steps: what is found at the path is read as a document, commands are built
of what the document declares, and a registry is made of the commands.  Each step fails for reasons
of its own, and the first one that fails decides (`load_eq_error_iff`).  Every reason is announced
but for two: the path is too long, and the machine says so (`isSystem_iff`), or a text is no
document, for some of the reasons for which it may be none (`failure?_eq_none_iff`).  In particular
a file that holds no text is announced whatever bytes it holds (`exists_load_ofBytes_eq_error`).
-/

namespace SlashCommand.Config

open Grammar (Command CommandDeclaration DeclarationError NameClash Registry)

variable {path content : String} {found : Found} {format : Format} {document : Document}
  {includeBuiltin : Bool} {error : LoadError} {bytes : List UInt8}

/-! ## Reasons -/

/-- Whether there is a file. -/
inductive Found.IsFile : Found → Prop
  | text (content : String) : IsFile (.text content)
  | undecodable (fault : Text.Utf8.Fault) : IsFile (.undecodable fault)

/-- Why what is found at a path is no document. -/
inductive Unread (path : String) : Found → LoadError → Prop
  | nothing : Unread path .nothing (.noFile path)
  | directory : Unread path .directory (.noFile path)
  | overlong : Unread path .overlong (.overlong (Path.normal path))
  | unsupported {found : Found} (hfile : found.IsFile)
      (hformat : Format.ofSuffix? (Path.suffix path) = none) :
      Unread path found (.unsupported (Path.suffix path))
  | unreadable {content : String} {format : Format} {error : LoadError}
      (hformat : Format.ofSuffix? (Path.suffix path) = some format)
      (hread : format.read content = .error error) : Unread path (.text content) error
  | undecodable {fault : Text.Utf8.Fault} {format : Format}
      (hformat : Format.ofSuffix? (Path.suffix path) = some format) :
      Unread path (.undecodable fault) (format.undecodable fault)

/-- Why a document from a path declares no commands. -/
inductive Undeclared (path : String) (document : Document) : LoadError → Prop
  | notMapping (hmapping : document.isMapping = false) : Undeclared path document .notMapping
  | issues {issues : List Issue} (hmapping : document.isMapping = true)
      (hissues : grammar document = .error issues) :
      Undeclared path document (.issues path issues)
  | declaration {declarations : List CommandDeclaration} {cause : DeclarationError}
      (hmapping : document.isMapping = true) (hgrammar : grammar document = .ok declarations)
      (hbuild : Grammar.buildCommands (declarations.map dropCommandSlash) = .error cause) :
      Undeclared path document (.declaration path cause)

/-- Why no registry is made of what is found at a path. -/
inductive Fails (path : String) (found : Found) (includeBuiltin : Bool) : LoadError → Prop
  | unread {error : LoadError} (hunread : Unread path found error) :
      Fails path found includeBuiltin error
  | undeclared {document : Document} {error : LoadError}
      (hread : readDocument path found = .ok document)
      (hundeclared : Undeclared (Path.normal path) document error) :
      Fails path found includeBuiltin error
  | clash {commands : List Command} {cause : NameClash}
      (hcommands : readCommands path found = .ok commands)
      (hclash : Registry.ofCommands (baseCommands includeBuiltin ++ commands) = .error cause) :
      Fails path found includeBuiltin (.clash cause)

lemma formatAt_eq_ok_iff :
    formatAt path = .ok format ↔ Format.ofSuffix? (Path.suffix path) = some format := by
  unfold formatAt
  cases Format.ofSuffix? (Path.suffix path) <;> simp

lemma formatAt_eq_error_iff : formatAt path = .error error ↔
    Format.ofSuffix? (Path.suffix path) = none ∧ error = .unsupported (Path.suffix path) := by
  unfold formatAt
  cases Format.ofSuffix? (Path.suffix path) <;> simp [eq_comm]

lemma readDocument_text (path content : String) :
    readDocument path (.text content) = (formatAt path >>= fun format => format.read content) :=
  rfl

lemma readDocument_undecodable (path : String) (fault : Text.Utf8.Fault) :
    readDocument path (.undecodable fault) =
      (formatAt path >>= fun format => .error (format.undecodable fault)) :=
  rfl

theorem readDocument_eq_error_iff :
    readDocument path found = .error error ↔ Unread path found error := by
  constructor
  · intro h
    cases found with
    | nothing =>
      obtain rfl := Except.error.inj h
      exact .nothing
    | directory =>
      obtain rfl := Except.error.inj h
      exact .directory
    | overlong =>
      obtain rfl := Except.error.inj h
      exact .overlong
    | text content =>
      rw [readDocument_text, bind_eq_error_iff] at h
      rcases h with hformat | ⟨format, hformat, hread⟩
      · obtain ⟨hnone, rfl⟩ := formatAt_eq_error_iff.mp hformat
        exact .unsupported (.text content) hnone
      · exact .unreadable (formatAt_eq_ok_iff.mp hformat) hread
    | undecodable fault =>
      rw [readDocument_undecodable, bind_eq_error_iff] at h
      rcases h with hformat | ⟨format, hformat, hread⟩
      · obtain ⟨hnone, rfl⟩ := formatAt_eq_error_iff.mp hformat
        exact .unsupported (.undecodable fault) hnone
      · obtain rfl := Except.error.inj hread
        exact .undecodable (formatAt_eq_ok_iff.mp hformat)
  · intro h
    cases h with
    | nothing => rfl
    | directory => rfl
    | overlong => rfl
    | unsupported hfile hformat =>
      have hnone := formatAt_eq_error_iff.mpr ⟨hformat, rfl⟩
      cases hfile with
      | text content =>
        rw [readDocument_text, hnone]
        rfl
      | undecodable fault =>
        rw [readDocument_undecodable, hnone]
        rfl
    | unreadable hformat hread =>
      rw [readDocument_text, formatAt_eq_ok_iff.mpr hformat]
      exact hread
    | undecodable hformat =>
      rw [readDocument_undecodable, formatAt_eq_ok_iff.mpr hformat]
      rfl

theorem ofDocument_eq_error_iff :
    ofDocument path document = .error error ↔ Undeclared path document error := by
  constructor
  · intro h
    unfold ofDocument at h
    split at h
    · next hmapping =>
      split at h
      · next declarations hgrammar =>
        obtain ⟨cause, hbuild, rfl⟩ := mapError_eq_error_iff.mp h
        exact .declaration hmapping hgrammar hbuild
      · next issues hissues =>
        obtain rfl := Except.error.inj h
        exact .issues hmapping hissues
    · next hmapping =>
      obtain rfl := Except.error.inj h
      exact .notMapping (eq_false_of_ne_true hmapping)
  · intro h
    cases h with
    | notMapping hmapping => simp [ofDocument, hmapping]
    | issues hmapping hissues => simp [ofDocument, hmapping, hissues]
    | declaration hmapping hgrammar hbuild =>
      simp [ofDocument, hmapping, hgrammar, build, hbuild, Except.mapError]

/-- Loading fails for the reason for which its first step that fails does. -/
theorem load_eq_error_iff :
    load path found includeBuiltin = .error error ↔ Fails path found includeBuiltin error := by
  simp only [load, readCommands, bind_eq_error_iff, mapError_eq_error_iff,
    readDocument_eq_error_iff, ofDocument_eq_error_iff]
  constructor
  · rintro ((hunread | ⟨document, hread, hundeclared⟩) | ⟨commands, hcommands, cause, hclash, rfl⟩)
    · exact .unread hunread
    · exact .undeclared hread hundeclared
    · exact .clash hcommands hclash
  · rintro (hunread | ⟨hread, hundeclared⟩ | ⟨hcommands, hclash⟩)
    · exact .inl (.inl hunread)
    · exact .inl (.inr ⟨_, hread, hundeclared⟩)
    · exact .inr ⟨_, hcommands, _, hclash, rfl⟩

lemma load_eq_error_of_read (hformat : Format.ofSuffix? (Path.suffix path) = some format)
    (hread : format.read content = .error error) (includeBuiltin : Bool) :
    load path (.text content) includeBuiltin = .error error :=
  load_eq_error_iff.mpr (.unread (.unreadable hformat hread))

/-! ## Announced failures -/

/-- Whether there is a text at a path that is no document, for a reason that is not announced. -/
inductive Unannounced (path : String) : Found → Prop
  | intro {content : String} {format : Format} {error : LoadError}
      (hformat : Format.ofSuffix? (Path.suffix path) = some format)
      (hread : format.read content = .error error) (hfailure : error.failure? = none) :
      Unannounced path (.text content)

lemma Format.failure?_undecodable (format : Format) (fault : Text.Utf8.Fault) :
    (format.undecodable fault).failure? = some .document := by
  cases format <;> rfl

/-- Every reason is announced but for a path that is too long, and some of those for which a text
is no document. -/
theorem failure?_eq_none_iff (h : load path found includeBuiltin = .error error) :
    error.failure? = none ↔ found = .overlong ∨ Unannounced path found := by
  constructor
  · intro hfailure
    cases load_eq_error_iff.mp h with
    | unread hunread =>
      cases hunread with
      | overlong => exact .inl rfl
      | unreadable hformat hread => exact .inr (.intro hformat hread hfailure)
      | undecodable hformat =>
        rw [Format.failure?_undecodable] at hfailure
        cases hfailure
      | _ => cases hfailure
    | undeclared hread hundeclared => cases hundeclared <;> cases hfailure
    | clash hcommands hclash => cases hfailure
  · rintro (rfl | ⟨hformat, hread, hfailure⟩)
    · obtain rfl := Except.error.inj h
      rfl
    · obtain rfl := Except.error.inj (h.symm.trans (load_eq_error_of_read hformat hread _))
      exact hfailure

lemma exists_load_eq_error (h : Unannounced path found) (includeBuiltin : Bool) :
    ∃ error, load path found includeBuiltin = .error error := by
  obtain ⟨hformat, hread, -⟩ := h
  exact ⟨_, load_eq_error_of_read hformat hread includeBuiltin⟩

/-- A text all lines of which end in one way. -/
def unified (content : String) : String :=
  String.ofList (Format.read.unifyBreaks content.toList)

lemma Format.read_yaml (content : String) :
    Format.read .yaml content = (Document.Yaml.read (unified content)).mapError .yaml :=
  rfl

lemma Format.read_toml (content : String) :
    Format.read .toml content = (Document.Toml.read (unified content)).mapError .toml :=
  rfl

lemma Format.exists_of_read_eq_error (h : format.read content = .error error) :
    (format = .yaml ∧ ∃ fault, error = .yaml fault) ∨
      (format = .toml ∧ ∃ fault, error = .toml fault) := by
  cases format with
  | yaml =>
    obtain ⟨fault, -, rfl⟩ := mapError_eq_error_iff.mp h
    exact .inl ⟨rfl, fault, rfl⟩
  | toml =>
    obtain ⟨fault, -, rfl⟩ := mapError_eq_error_iff.mp h
    exact .inr ⟨rfl, fault, rfl⟩

/-- An error comes from the machine where there can be nothing at the path. -/
theorem isSystem_iff (h : load path found includeBuiltin = .error error) :
    error.isSystem = true ↔ found = .overlong := by
  constructor
  · intro hsystem
    cases load_eq_error_iff.mp h with
    | unread hunread =>
      cases hunread with
      | overlong => rfl
      | unreadable hformat hread =>
        rcases Format.exists_of_read_eq_error hread with ⟨-, fault, rfl⟩ | ⟨-, fault, rfl⟩ <;>
          cases hsystem
      | @undecodable fault format hformat => cases format <;> cases hsystem
      | _ => cases hsystem
    | undeclared hread hundeclared => cases hundeclared <;> cases hsystem
    | clash hcommands hclash => cases hsystem
  · rintro rfl
    obtain rfl := Except.error.inj h
    rfl

/-! ## Files that hold no text -/

/-- A text is found in a file that holds the bytes of one, and nowhere else. -/
theorem ofBytes_eq_text_iff :
    Found.ofBytes bytes = .text content ↔ bytes = Text.Utf8.encode content.toList := by
  rw [← Text.Utf8.decode_eq_ok_iff]
  unfold Found.ofBytes
  cases Text.Utf8.decode bytes <;> simp

lemma ofBytes_eq_undecodable_iff {fault : Text.Utf8.Fault} :
    Found.ofBytes bytes = .undecodable fault ↔ Text.Utf8.decode bytes = .error fault := by
  unfold Found.ofBytes
  cases Text.Utf8.decode bytes <;> simp

/-- A file that holds no text is announced to hold no document, at whatever path and whatever else
it holds. -/
theorem exists_load_ofBytes_eq_error (path : String)
    (hbytes : ∀ content : String, bytes ≠ Text.Utf8.encode content.toList)
    (includeBuiltin : Bool) : ∃ error,
      load path (.ofBytes bytes) includeBuiltin = .error error ∧
        error.failure? = some .document := by
  cases hdecode : Text.Utf8.decode bytes with
  | ok content => exact absurd (Text.Utf8.decode_eq_ok_iff.mp hdecode) (hbytes content)
  | error fault =>
    rw [ofBytes_eq_undecodable_iff.mpr hdecode]
    cases hformat : Format.ofSuffix? (Path.suffix path) with
    | none =>
      have hunread := Unread.unsupported (.undecodable fault) hformat
      exact ⟨_, load_eq_error_iff.mpr (.unread hunread), rfl⟩
    | some format =>
      have hunread : Unread path (.undecodable fault) _ := .undecodable hformat
      exact ⟨_, load_eq_error_iff.mpr (.unread hunread), format.failure?_undecodable fault⟩

/-! ## Mistakes in a notation -/

/-- Whether an error is a mistake in the notation of a document. -/
inductive Mistake : LoadError → Prop
  | yaml : Mistake (.yaml .malformed)
  | toml (message : String) : Mistake (.toml (.malformed message))

/-- Whether what is found at a path is either read or has a mistake in its notation. -/
def MistakesOnly (path : String) (found : Found) : Prop :=
  ∀ content format error, found = .text content →
    Format.ofSuffix? (Path.suffix path) = some format → format.read content = .error error →
      Mistake error

/-- Whether there is a text at a path that should be in the YAML notation and is not. -/
inductive NotYaml (path : String) : Found → Prop
  | intro {content : String} (hformat : Format.ofSuffix? (Path.suffix path) = some .yaml)
      (hread : Format.read .yaml content = .error (.yaml .malformed)) :
      NotYaml path (.text content)

/-- Of mistakes in a notation, those in the YAML notation are not announced. -/
theorem unannounced_iff_of_mistakesOnly (h : MistakesOnly path found) :
    Unannounced path found ↔ NotYaml path found := by
  constructor
  · rintro ⟨hformat, hread, hfailure⟩
    cases h _ _ _ rfl hformat hread with
    | yaml =>
      rcases Format.exists_of_read_eq_error hread with ⟨rfl, -⟩ | ⟨-, fault, hfault⟩
      · exact .intro hformat hread
      · cases hfault
    | toml message => cases hfailure
  · rintro ⟨hformat, hread⟩
    exact .intro hformat hread rfl

end SlashCommand.Config
