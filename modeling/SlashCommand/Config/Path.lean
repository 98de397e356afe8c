import SlashCommand.Text.Split

/-!
# Paths of configuration files

A path is a text with slashes between its parts.  The same file has one normal path: without
empty parts and without the parts `.`, which lead nowhere.  Parts `..` are kept, because what
they lead to depends on the files.  What a file holds is told by the suffix of its name.  The names
of files and the paths to them have a greatest length, which is counted in bytes.
-/

namespace SlashCommand.Config.Path

/-- The parts of a path that lead somewhere. -/
def parts (path : String) : List String :=
  ((Text.pieces '/' path.toList).map String.ofList).filter fun part => part != "" && part != "."

/-- The slashes that a path is written with from the root on: two in front mean another root than
one, or than three and more. -/
def root (path : String) : String :=
  match path.toList with
  | '/' :: '/' :: '/' :: _ => "/"
  | '/' :: '/' :: _ => "//"
  | '/' :: _ => "/"
  | _ => ""

/-- The normal form of a path. -/
def normal (path : String) : String :=
  let text := root path ++ "/".intercalate (parts path)
  if text = "" then "." else text

/-- Whether a path starts at the root. -/
def isAbsolute (path : String) : Bool :=
  root path != ""

/-- A path that is taken from a directory. -/
def join (directory path : String) : String :=
  if isAbsolute path then normal path else normal (directory ++ "/" ++ path)

/-- The name of the file that a path leads to. -/
def name (path : String) : String :=
  (parts path).getLast?.getD ""

/-- The suffix of a file's name: from its last point on, unless that is its first or its last
character. -/
def suffix (path : String) : String :=
  let name := (name path).toList
  let tail := name.reverse.takeWhile (· != '.')
  if tail.isEmpty || tail.length + 1 ≥ name.length then ""
  else String.ofList ('.' :: tail.reverse)

/-- Whether a name is too long for a file. -/
def isOverlongName (name : String) : Bool :=
  name.utf8ByteSize > 255

/-- Whether a path is too long to lead to a file: as a whole, or one of its parts. -/
def isOverlong (path : String) : Bool :=
  path.utf8ByteSize > 4095 || (parts path).any isOverlongName

end SlashCommand.Config.Path
