import SlashCommand.Document.Value
import SlashCommand.Event

/-!
# Logging

Where events are written to.  There are two modes of logging, one for people and one for
machines, which differ in what is written to the console.  A file is written to beside, if one is
named, in either form.  Every handler has a level, below which it writes nothing.
-/

namespace SlashCommand.Shell

/-- Who reads the console. -/
inductive LogMode where
  | cli
  | json
  deriving DecidableEq, Repr

/-- The name of a mode. -/
def LogMode.name : LogMode → String
  | cli => "cli"
  | json => "json"

/-- The mode with a given name. -/
def LogMode.ofName? : String → Option LogMode
  | "cli" => some cli
  | "json" => some json
  | _ => none

/-- Where a handler writes. -/
inductive Sink where
  /-- The console, for people, in a form of its own. -/
  | console
  /-- The error stream. -/
  | stream
  | file
  deriving DecidableEq, Repr

/-- How a handler writes an event. -/
inductive LineFormat where
  | text
  | json
  deriving DecidableEq, Repr

/-- Writes the events from some level on. -/
structure Handler where
  sink : Sink
  format : Option LineFormat
  level : Int
  deriving DecidableEq, Repr

/-- The level of events that are meant for finding out why something happened. -/
def debugLevel : Int :=
  10

/-- The level of warnings. -/
def warningLevel : Int :=
  30

/-- The levels by their names. -/
def levelNames : List (String × Int) :=
  [("CRITICAL", 50), ("FATAL", 50), ("ERROR", 40), ("WARN", 30), ("WARNING", 30), ("INFO", 20),
    ("DEBUG", 10), ("NOTSET", 0)]

/-- Why logging cannot be set up. -/
inductive LogError where
  /-- There is no mode with such a name. -/
  | unknownMode (name : String)
  /-- There is no level with such a name. -/
  | unknownLevel (name : String)
  /-- Something that can be no level. -/
  | notLevel (given : Document.Value)

/-- What is said of an error. -/
def LogError.message : LogError → String
  | unknownMode name => s!"Invalid log mode: {name}"
  | unknownLevel name => "Unknown level: " ++ Text.quoted name
  | notLevel given => "Level not an integer or a valid string: " ++ given.display

/-- The level that is given by its number or its name. -/
def readLevel (given : Document.Value) : Except LogError Int :=
  match given with
  | .int level => .ok level
  | .bool isOne => .ok (if isOne then 1 else 0)
  | .string name =>
    match levelNames.lookup name with
    | some level => .ok level
    | none => .error (.unknownLevel name)
  | _ => .error (.notLevel given)

/-- What is asked of logging. -/
structure LogRequest where
  /-- The mode that was asked for, if any. -/
  mode : Option String
  /-- The mode that the environment asks for, if any. -/
  environmentMode : Option String
  toFile : Bool
  jsonFile : Bool := false
  fileLevel : Document.Value := .int debugLevel
  consoleLevel : Document.Value := .int warningLevel

/-- The name of the mode that is asked for.  An empty name asks for nothing; then the environment
is asked, and then people are assumed. -/
def LogRequest.modeName (request : LogRequest) : String :=
  let asked := [request.mode, request.environmentMode].filterMap fun name => name.filter (· != "")
  asked.headD "cli"

/-- The handlers that are asked for.  The level of the file is only asked for if there is one. -/
def LogRequest.handlers (request : LogRequest) : Except LogError (List Handler) := do
  match LogMode.ofName? request.modeName with
  | none => throw (.unknownMode request.modeName)
  | some mode =>
    let consoleLevel ← readLevel request.consoleLevel
    let console : Handler :=
      match mode with
      | .cli => ⟨.console, none, consoleLevel⟩
      | .json => ⟨.stream, some .json, consoleLevel⟩
    if request.toFile then
      let format := if request.jsonFile then LineFormat.json else .text
      return [console, ⟨.file, some format, ← readLevel request.fileLevel⟩]
    else return [console]

/-- The events that a handler writes. -/
def Handler.writes (handler : Handler) (events : List Event) : List Event :=
  if handler.level ≤ debugLevel then events else []

/-- An event as a line of text, the time left out. -/
def logLine (event : Event) : String :=
  s!"[{event.source}] [{event.level}] {event.message}"

end SlashCommand.Shell
