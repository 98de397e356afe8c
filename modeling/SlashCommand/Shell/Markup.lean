import SlashCommand.Shell.Handler
import SlashCommand.Shell.Style
import SlashCommand.Text.Emoji

/-!
# Console markup

What the shell prints is written in a markup: a tag in brackets, such as `[error]` or `[/]`,
changes the style of what follows and is not printed itself.  A tag begins with a small letter or
one of `#`, `/` and `@`, so brackets around anything else are printed as they are.  A backslash
in front of a tag makes it text, and a backslash there is itself written twice.  Names of emoji
between colons are printed as the emoji.

A tag with a slash ends what another one began: the last one, or the last one of the name that
follows.  Where there is none to end, the markup cannot be printed.

`escape` writes text so that it is printed as it is; `render` is what a markup prints, styles
aside.
-/

namespace SlashCommand.Shell.Markup

/-- Whether a tag may begin with a character. -/
def opensTag (c : Char) : Bool :=
  ('a' ≤ c && c ≤ 'z') || c == '#' || c == '/' || c == '@'

/-- The characters of a tag up to and with its closing bracket, and those behind it; a tag holds
no opening bracket. -/
def tagBody? : List Char → Option (List Char × List Char)
  | [] => none
  | '[' :: _ => none
  | ']' :: cs => some ([']'], cs)
  | c :: cs => (tagBody? cs).map fun (body, rest) => (c :: body, rest)

/-- The tag that the characters begin with, and those behind it. -/
def tag? : List Char → Option (List Char × List Char)
  | '[' :: c :: cs =>
    if opensTag c then (tagBody? cs).map fun (body, rest) => ('[' :: c :: body, rest) else none
  | _ => none

/-- The number of backslashes that the characters begin with. -/
def backslashes (cs : List Char) : Nat :=
  (cs.takeWhile (· == '\\')).length

/-! ## Escaping -/

/-- Text with its tags escaped.  The number bounds the tags and characters. -/
def escapeFrom : Nat → List Char → List Char
  | 0, cs => cs
  | fuel + 1, cs =>
    let count := backslashes cs
    match tag? (cs.drop count) with
    | some (tag, rest) => List.replicate (2 * count + 1) '\\' ++ tag ++ escapeFrom fuel rest
    | none =>
      match cs with
      | [] => []
      | c :: rest => c :: escapeFrom fuel rest

/-- Text as markup that prints it.  A single backslash at its end is written twice, so that it
does not escape what is put behind it. -/
def escape (text : String) : String :=
  let cs := escapeFrom (text.length + 1) text.toList
  match cs.reverse with
  | ['\\'] => String.ofList (cs ++ ['\\'])
  | '\\' :: c :: _ => String.ofList (if c == '\\' then cs else cs ++ ['\\'])
  | _ => String.ofList cs

/-! ## Pieces -/

/-- A piece of a markup. -/
inductive Piece where
  | text (characters : List Char)
  /-- A tag, by its place, its name, and what is given behind an equality sign. -/
  | tag (position : Nat) (name : List Char) (parameters : Option (List Char))

/-- The tag between two brackets. -/
def Piece.ofTag (position : Nat) (tag : List Char) : Piece :=
  let body := (tag.drop 1).dropLast
  let name := body.takeWhile (· != '=')
  .tag position name ((body.drop name.length).tail?)

/-- A piece of text, unless it is empty. -/
def textPiece (characters : List Char) : List Piece :=
  if characters.isEmpty then [] else [.text characters]

/-- The pieces of a markup from a position on; the text in front of it is given last character
first.  The number bounds the tags and characters. -/
def piecesFrom (position : Nat) (before : List Char) : Nat → List Char → List Piece
  | 0, _ => []
  | fuel + 1, cs =>
    let count := backslashes cs
    match tag? (cs.drop count) with
    | some (tag, rest) =>
      let slashes := textPiece (List.replicate (count / 2) '\\')
      let piece :=
        if count % 2 = 1 then .text tag else .ofTag (position + count) tag
      textPiece before.reverse ++ slashes ++
        piece :: piecesFrom (position + count + tag.length) [] fuel rest
    | none =>
      match cs with
      | [] => textPiece before.reverse
      | c :: rest => piecesFrom (position + 1) (c :: before) fuel rest

/-- The pieces of a markup. -/
def pieces (markup : List Char) : List Piece :=
  piecesFrom 0 [] (markup.length + 1) markup

/-- Text with brackets that are no tags, a backslash in front of which is dropped. -/
def dropEscapes : List Char → List Char
  | [] => []
  | '\\' :: '[' :: cs => '[' :: dropEscapes cs
  | c :: cs => c :: dropEscapes cs

/-! ## Rendering -/

/-- Why a markup cannot be printed. -/
inductive Fault where
  /-- A tag ends what was begun last, and nothing was. -/
  | nothingOpen (position : Nat)
  /-- A tag ends what was not begun. -/
  | notOpen (tag : String) (position : Nat)
  /-- What a handler is given is not well formed. -/
  | handler (objection : String)
  /-- The name of a style holds a color that cannot be read. -/
  | style (share : Style.BadShare)
  deriving DecidableEq, Repr

/-- What is said of a fault. -/
def Fault.message : Fault → String
  | nothingOpen position => s!"closing tag '[/]' at position {position} has nothing to close"
  | notOpen tag position =>
    s!"closing tag '{tag}' at position {position} doesn't match any open tag"
  | handler objection => objection
  | style share => share.message

/-- The tags that have begun something, last one first: the normal forms of their names, and what
they are given. -/
abbrev Opened :=
  List (String × Option (List Char))

/-- Checks the handler of a tag that is ended. -/
def checkHandler (name : String) (parameters : Option (List Char)) : Except Fault Unit :=
  match parameters with
  | some (c :: cs) =>
    if name.startsWith "@" then
      match Handler.objection? (c :: cs) with
      | some objection => .error (.handler objection)
      | none => .ok ()
    else .ok ()
  | _ => .ok ()

/-- The normal form of the name in a tag. -/
def tagName (name : List Char) : Except Fault String :=
  (normalStyle name).mapError .style

/-- Ends the last tag of a name, or the last one of all. -/
def close (opened : Opened) (position : Nat) (tag : String) (name : List Char) :
    Except Fault Opened := do
  let ended := Text.trimmed Text.isBlank name
  let index ←
    if ended.isEmpty then
      if opened.isEmpty then throw (.nothingOpen position) else pure 0
    else
      let ended ← tagName ended
      match opened.findIdx? fun (name, _) => name == ended with
      | some index => pure index
      | none => throw (.notOpen tag position)
  match opened[index]? with
  | some (name, parameters) => checkHandler name parameters
  | none => return opened
  return opened.eraseIdx index

/-- What the pieces of a markup print. -/
def renderPieces (opened : Opened) : List Piece → Except Fault (List Char)
  | [] => .ok []
  | .text characters :: rest => do
    return Text.withEmoji (dropEscapes characters) ++ (← renderPieces opened rest)
  | .tag position name parameters :: rest =>
    match name with
    | '/' :: ended => do
      let given := parameters.elim [] fun parameters => '=' :: parameters
      let tag := String.ofList ('[' :: name ++ given ++ [']'])
      renderPieces (← close opened position tag ended) rest
    | name => do renderPieces ((← tagName name, parameters) :: opened) rest

/-- Checks the styles that begin in a markup, each by its normal form and what its tag is given. -/
def checkStyles : List Piece → Except Fault Unit
  | [] => .ok ()
  | .tag _ name (some parameters) :: rest => do
    let _ ← tagName ((← tagName name).toList ++ ' ' :: parameters)
    checkStyles rest
  | _ :: rest => checkStyles rest

/-- What a markup prints. -/
def render (markup : String) : Except Fault (List Char) := do
  let pieces := pieces markup.toList
  let text ← renderPieces [] pieces
  checkStyles pieces
  return text

end SlashCommand.Shell.Markup
