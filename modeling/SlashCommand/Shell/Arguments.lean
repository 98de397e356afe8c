import SlashCommand.Config.Path
import SlashCommand.Shell.Logging
import SlashCommand.Text.Digit
import SlashCommand.Text.Quoted

/-!
# The command line

The shell is started with options only.  An option is given by its name; a long name may be cut
short as long as it means one option.  The value of an option stands behind it, or behind `=` in
the same word, or right behind a name of one letter.

A word is an option or a value.  It is a value if it has no dash in front, is a single dash, or
means no option and is a negative number or holds a space.  All words are told apart before any
is used, so an ambiguous name is reported before anything else.

Two dashes separate options from values, and they do so even within the word of an option: there
the option is given, but its value is dropped.
-/

namespace SlashCommand.Shell

/-- An option of the command line. -/
inductive CliOption where
  | help
  | config
  | logMode
  | logFile
  | model
  | theme
  | environment
  deriving DecidableEq, Repr

namespace CliOption

/-- All options, in the order in which they are looked through. -/
def all : List CliOption :=
  [help, config, logMode, logFile, model, theme, environment]

/-- The names of an option. -/
def names : CliOption → List String
  | help => ["-h", "--help"]
  | config => ["-c", "--config"]
  | logMode => ["--log-mode"]
  | logFile => ["--log-file"]
  | model => ["--model"]
  | theme => ["--theme"]
  | environment => ["--env"]

/-- All names, each with its option. -/
def table : List (String × CliOption) :=
  all.flatMap fun option => option.names.map fun name => (name, option)

/-- An option as messages name it. -/
def label (option : CliOption) : String :=
  "/".intercalate option.names

end CliOption

/-- Why a command line is refused. -/
inductive ArgumentError where
  | ambiguous (word : String) (names : List String)
  | missingValue (option : CliOption)
  | superfluousValue (option : CliOption) (value : String)
  | invalidMode (value : String)
  | unrecognized (words : List String)
  deriving DecidableEq, Repr

/-- What is said of a refused command line. -/
def ArgumentError.message : ArgumentError → String
  | ambiguous word names =>
    s!"ambiguous option: {word} could match " ++ ", ".intercalate names
  | missingValue option => s!"argument {option.label}: expected one argument"
  | superfluousValue option value =>
    s!"argument {option.label}: ignored explicit argument " ++ Text.quoted value
  | invalidMode value =>
    s!"argument {CliOption.logMode.label}: invalid choice: " ++ Text.quoted value ++
      " (choose from 'cli', 'json')"
  | unrecognized words => "unrecognized arguments: " ++ " ".intercalate words

/-! ## Telling words apart -/

/-- What a word is. -/
inductive Word where
  | plain (text : String)
  /-- An option and a value in the same word.  The value is glued on if it stands right behind a
  name of one letter. -/
  | named (option : CliOption) (glued : Bool) (given : Option String)
  /-- It looks like an option but is none. -/
  | unknown (text : String)
  /-- Two dashes, behind which there are only values. -/
  | separator
  deriving DecidableEq, Repr

/-- Whether a word is a negative number, in the digits of any script.  It may end with one line
break. -/
def isNegativeNumber (cs : List Char) : Bool :=
  match cs with
  | '-' :: body =>
    let body := if body.getLast? = some '\n' then body.dropLast else body
    let whole := body.takeWhile Text.isDigit
    match body.drop whole.length with
    | [] => !whole.isEmpty
    | '.' :: fraction => !fraction.isEmpty && fraction.all Text.isDigit
    | _ => false
  | _ => false

/-- A word in front of and behind its first `=`. -/
def splitEquals (cs : List Char) : String × Option String :=
  let name := cs.takeWhile (· != '=')
  (String.ofList name,
    if cs.contains '=' then some (String.ofList (cs.drop (name.length + 1))) else none)

/-- The options that a word may mean by the beginning of a name, each with its name and what the
word is then. -/
def abbreviated (cs : List Char) : List (String × Word) :=
  match cs with
  | '-' :: '-' :: _ =>
    let (start, given) := splitEquals cs
    CliOption.table.filterMap fun (name, option) =>
      if name.startsWith start then some (name, .named option false given) else none
  | '-' :: c :: rest =>
    CliOption.table.filterMap fun (name, option) =>
      if name = String.ofList ['-', c] then
        some (name, .named option true (some (String.ofList rest)))
      else if name.startsWith (String.ofList cs) then some (name, .named option false none)
      else none
  | _ => []

/-- Tells what a word is, by itself. -/
def Word.ofText (text : String) : Except ArgumentError Word :=
  let cs := text.toList
  if cs.head? != some '-' then .ok (.plain text)
  else match CliOption.table.lookup text with
    | some option => .ok (.named option false none)
    | none =>
      if cs.length = 1 then .ok (.plain text)
      else
        let (name, given) := splitEquals cs
        match given, CliOption.table.lookup name with
        | some value, some option => .ok (.named option false (some value))
        | _, _ =>
          match abbreviated cs with
          | [(_, word)] => .ok word
          | [] =>
            .ok (if isNegativeNumber cs || cs.contains ' ' then .plain text else .unknown text)
          | several => .error (.ambiguous text (several.map (·.1)))

/-- Tells the words of a command line apart. -/
def tellApart : List String → Except ArgumentError (List Word)
  | [] => .ok []
  | "--" :: words => .ok (.separator :: words.map .plain)
  | text :: words => do
    let first ← Word.ofText text
    let rest ← tellApart words
    return first :: rest

/-! ## Using them -/

/-- The value of an option that was given. -/
inductive OptionValue where
  | text (value : String)
  /-- It was two dashes, and is dropped. -/
  | dropped
  deriving DecidableEq, Repr

/-- The value that a text stands for. -/
def OptionValue.ofText (value : String) : OptionValue :=
  if value = "--" then dropped else text value

/-- The text of a value, if it is one that says something. -/
def OptionValue.text? : OptionValue → Option String
  | text value => some value
  | dropped => none

/-- What was asked for on the command line. -/
structure Options where
  config : Option OptionValue := none
  logMode : Option OptionValue := none
  logFile : Option OptionValue := none
  models : List OptionValue := []
  themes : List OptionValue := []
  environments : List OptionValue := []
  deriving DecidableEq, Repr

/-- What the command line comes to. -/
inductive CommandLine where
  | start (options : Options)
  | showHelp
  deriving DecidableEq, Repr

/-- Whether an option has a value of its own to choose from, and this is not among them. -/
def isInvalidMode (option : CliOption) (value : String) : Bool :=
  option = .logMode && (LogMode.ofName? value).isNone

/-- Sets the value of an option.  Of most options the last value counts; some collect theirs. -/
def Options.set (options : Options) (option : CliOption) (value : OptionValue) : Options :=
  match option with
  | .help => options
  | .config => { options with config := some value }
  | .logMode => { options with logMode := some value }
  | .logFile => { options with logFile := some value }
  | .model => { options with models := options.models ++ [value] }
  | .theme => { options with themes := options.themes ++ [value] }
  | .environment => { options with environments := options.environments ++ [value] }

/-- Gives an option its value, if it may have it. -/
def Options.give (options : Options) (option : CliOption) (value : String) :
    Except ArgumentError Options :=
  match OptionValue.ofText value with
  | .text text =>
    if isInvalidMode option text then .error (.invalidMode text)
    else .ok (options.set option (.text text))
  | .dropped => .ok (options.set option .dropped)

/-- The path of a grammar that was asked for, in normal form. -/
def Options.configPath (options : Options) : Option String :=
  (options.config.bind OptionValue.text?).map Config.Path.normal

/-- The option of one letter that follows in the same word behind one that takes no value. -/
def letterOption? (c : Char) : Option CliOption :=
  CliOption.table.lookup (String.ofList ['-', c])

/-- Checks the letters behind the letter that asks for help: each has to mean an option.  The last
one may need the word behind for its value. -/
def checkCluster (next : Option Word) : List Char → Except ArgumentError Unit
  | [] => .ok ()
  | c :: cs =>
    match letterOption? c, cs, next with
    | none, _, _ => .error (.superfluousValue .help (String.ofList (c :: cs)))
    | some .help, cs, next => checkCluster next cs
    | some _, [], some (.plain _) => .ok ()
    | some option, [], _ => .error (.missingValue option)
    | some _, _ :: _, _ => .ok ()

/-- Uses the words in order.  Words that nobody asked for are collected in `extra`. -/
def useWords (options : Options) (extra : List String) :
    List Word → Except ArgumentError CommandLine
  | [] => if extra.isEmpty then .ok (.start options) else .error (.unrecognized extra)
  | .plain text :: words => useWords options (extra ++ [text]) words
  | .unknown text :: words => useWords options (extra ++ [text]) words
  | .separator :: words => useWords options (extra ++ ["--"]) words
  | .named .help _ none :: _ => .ok .showHelp
  | .named .help glued (some value) :: words =>
    if glued && value ≠ "" then (checkCluster words.head? value.toList).map fun _ => .showHelp
    else .error (.superfluousValue .help value)
  | .named option _ (some value) :: words => do
    useWords (← options.give option value) extra words
  | .named option _ none :: .plain value :: words => do
    useWords (← options.give option value) extra words
  | .named option _ none :: _ => .error (.missingValue option)

/-- Reads a command line. -/
def readArguments (words : List String) : Except ArgumentError CommandLine := do
  useWords {} [] (← tellApart words)

/-- The last line that is written about a refused command line. -/
def argumentErrorLine (error : ArgumentError) : String :=
  s!"slashkit: error: {error.message}"

end SlashCommand.Shell
