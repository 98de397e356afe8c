import SlashCommand.Config.Load
import SlashCommand.Editor
import SlashCommand.Shell.Arguments
import SlashCommand.Shell.Reply

/-!
# Starting the shell

Between the command line and the first prompt: logging is set up, a grammar is loaded if one is
named or found, and what the command line names of models, themes and environments is kept for
completion.  The shell does not start if the grammar cannot be loaded; it reports the failures
that loading announces and the errors of the machine, and breaks down at any other.
-/

namespace SlashCommand.Shell

open Grammar (Registry)

/-- A value of an option, if it was not dropped. -/
def given? (value : Option OptionValue) : Option String :=
  value.bind OptionValue.text?

/-- What the options ask of logging. -/
def Options.logRequest (options : Options) (environmentMode : Option String) : LogRequest :=
  { mode := given? options.logMode
    environmentMode
    toFile := ((given? options.logFile).filter (· != "")).isSome }

/-- The grammar that is named or found, if there is one. -/
abbrev GrammarSource :=
  Except Config.LoadError (Option (String × Config.Found))

/-- What is logged while the shell starts. -/
def startEvents (mode : String) (source : GrammarSource) : List Event :=
  .loggingReady mode ::
    match source with
    | .ok (some (path, found)) => Config.loadEvents path found true
    | _ => []

/-- What is said of a grammar that could not be loaded, all issues included. -/
def loadFailureText (error : Config.LoadError) : String :=
  match error with
  | .issues _ issues => "\n".intercalate (error.message :: Config.issueLines issues)
  | _ => error.message

/-- What is printed when the grammar could not be loaded. -/
def loadFailure (error : Config.LoadError) : Output :=
  printed s!"[error]Could not load grammar config:[/] {Markup.escape (loadFailureText error)}"

/-- Whether the shell reports an error instead of breaking down. -/
def isReported (error : Config.LoadError) : Bool :=
  error.failure?.isSome || error.isSystem

/-- How the start of the shell ends. -/
inductive Opening where
  | ready (registry : Registry)
  /-- It was reported that the grammar could not be loaded. -/
  | refused (output : Output)
  /-- The shell broke down. -/
  | broken (error : Config.LoadError)

/-- How the shell starts with the grammar that is named or found.  It breaks down where the search
for one does. -/
def opening (source : GrammarSource) : Opening :=
  match source with
  | .error error => .broken error
  | .ok none => .ready .builtin
  | .ok (some (path, found)) =>
    match Config.load path found true with
    | .ok registry => .ready registry
    | .error error =>
      if isReported error then .refused (loadFailure error) else .broken error

/-- How the program ends: what it writes to the console and to the error stream last, and its
status. -/
structure Ending where
  output : Output
  complaints : List String
  status : UInt32

/-- The registry that the shell runs with, or how the program ends without a shell. -/
def Opening.registry : Opening → Except Ending Registry
  | ready registry => .ok registry
  | refused output => .error ⟨output, [], 1⟩
  | broken error => .error ⟨.ofLines [], [error.message], 1⟩

/-! ## Completion -/

/-- What the shell knows when it completes a line. -/
def Options.context (options : Options) (registry : Registry) : Context :=
  let texts (values : List OptionValue) : List String := values.filterMap OptionValue.text?
  .ofRegistry registry (texts options.models) (texts options.themes) (texts options.environments)

/-- The ids of the providers that would have to offer a value that was dropped. -/
def Options.brokenProviders (options : Options) : List String :=
  [("models", options.models), ("themes", options.themes),
    ("environments", options.environments)].filterMap fun (id, values) =>
      if values.contains .dropped then some id else none

/-- What the shell offers at the end of a line.  It cannot tell whether a dropped value matches, and
breaks down where one is on offer. -/
def Options.replacements? (options : Options) (registry : Registry) (line : String) :
    Option (List Editor.Replacement) :=
  let asked := (Request.ofLine (Registry.orBuiltin (some registry)) line line.length).providerIds
  if asked.any options.brokenProviders.contains then none
  else some (Editor.replacements line line.length (options.context registry) (some registry))

end SlashCommand.Shell
