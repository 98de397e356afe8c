import SlashCommand.Config.Load

/-!
# Where a grammar is looked for

Without a path on the command line, a grammar is looked for in the working directory, at the path
that the environment names, and in the configuration directory of the user, in this order.  The
first path at which there is a file is taken.  The search breaks off at a path that is too long
for a file.
-/

namespace SlashCommand.Config

/-- The paths that are tried.  One that the environment names is taken as it is, so it may be
relative to the working directory. -/
def candidates (workingDirectory home : String) (named : Option String) : List String :=
  [Path.join workingDirectory "slashkit.yaml",
   Path.join workingDirectory "slashkit.toml",
   Path.normal (named.getD "slashkit.yaml"),
   Path.join home ".config/slashkit/slashkit.yaml",
   Path.join home ".config/slashkit/slashkit.toml"]

/-- The first of some paths at which there is a file, and the file. -/
def firstFile? (look : String → Found) :
    List String → Except LoadError (Option (String × Found))
  | [] => .ok none
  | path :: paths =>
    match look path with
    | .nothing => firstFile? look paths
    | .directory => firstFile? look paths
    | .overlong => .error (.overlong path)
    | found => .ok (some (path, found))

/-- The first path at which there is a file, and the file. -/
def find? (look : String → Found) (workingDirectory home : String) (named : Option String) :
    Except LoadError (Option (String × Found)) :=
  firstFile? look (candidates workingDirectory home named)

end SlashCommand.Config
