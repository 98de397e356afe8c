import SlashCommand.Config.Search
import SlashCommand.Shell.Startup
import SlashCommand.Shell.Usage

/-!
# The program

The outermost layer: it reads the command line, the environment, files and submitted lines, asks
the library what to do about them, and writes what the library says.  It ends with 0 after the
last line, with 1 if the shell could not be started or something could not be printed, and with 2
if the command line is refused.
-/

namespace SlashCommand.Shell

open Grammar (Registry)

/-- Writes lines to the error stream. -/
def complain (lines : List String) : IO Unit := do
  for line in lines do
    IO.eprintln line

/-- Writes lines to the console. -/
def say (lines : List String) : IO Unit := do
  for line in lines do
    IO.println line

/-- Writes an output to the console; answers whether all of it could be printed. -/
def write (output : Output) : IO Bool := do
  say output.lines
  match output.fault with
  | some fault =>
    complain [fault.message]
    return false
  | none => return true

/-- Ends the program. -/
def finish (ending : Ending) : IO UInt32 := do
  let _ ← write ending.output
  complain ending.complaints
  return ending.status

/-- What is found at a path.  What cannot be opened counts as nothing. -/
def probe (path : String) : IO Config.Found := do
  if Config.Path.isOverlong path then return .overlong
  try return .ofBytes (← IO.FS.readBinFile path).toList
  catch _ => return .nothing

/-- The grammar that the shell starts with: the named one, or the first that is found. -/
def grammar (options : Options) : IO GrammarSource := do
  if let some path := options.configPath then
    return .ok (some (path, ← probe path))
  let directory := (← IO.currentDir).toString
  let home := (← IO.getEnv "HOME").getD "/"
  let named ← IO.getEnv "SLASHKIT_CONFIG"
  let mut contents : List (String × Config.Found) := []
  for path in Config.candidates directory home named do
    contents := contents ++ [(path, ← probe path)]
  let look := fun path => (contents.lookup path).getD .nothing
  return Config.find? look directory home named

/-- Writes events to the log file, if there is one. -/
def record (options : Options) (handlers : List Handler) (events : List Event) : IO Unit := do
  if let some path := given? options.logFile then
    for handler in handlers do
      if handler.sink = .file then
        let file ← IO.FS.Handle.mk path .append
        for event in handler.writes events do
          file.putStrLn (logLine event)

/-- Replies to submitted lines until the input or the shell ends; answers whether everything could
be printed. -/
partial def converseWith (input : IO.FS.Stream) (record : List Event → IO Unit)
    (registry : Registry) : IO Bool := do
  IO.print "> "
  (← IO.getStdout).flush
  let text ← input.getLine
  if text.isEmpty then
    IO.println ""
    return true
  let line := if text.endsWith "\n" then (text.dropEnd 1).toString else text
  let answer := reply line registry
  record answer.events
  if !(← write answer.output) then return false
  if answer.goesOn then converseWith input record registry else return true

/-- Starts the shell. -/
def start (options : Options) : IO UInt32 := do
  let request := options.logRequest (← IO.getEnv "SLASHKIT_LOG_MODE")
  match request.handlers with
  | .error error => finish ⟨.ofLines [], [error.message], 1⟩
  | .ok handlers =>
    let source ← grammar options
    record options handlers (startEvents request.modeName source)
    match (opening source).registry with
    | .error ending => finish ending
    | .ok registry =>
      let _ ← write greeting
      if ← converseWith (← IO.getStdin) (record options handlers) registry then return 0
      else return 1

/-- Runs the program on a command line. -/
def run (arguments : List String) : IO UInt32 := do
  match readArguments arguments with
  | .error error => finish ⟨.ofLines [], usage ++ [argumentErrorLine error], 2⟩
  | .ok .showHelp => finish ⟨.ofLines usageHelp, [], 0⟩
  | .ok (.start options) => start options

end SlashCommand.Shell

/-- The program. -/
def main (arguments : List String) : IO UInt32 :=
  SlashCommand.Shell.run arguments
