import SlashCommand.Grammar.Registry

/-!
# The built-in commands

The commands of the shell that are there without any document: conversation, appearance, memory,
daemon connections and chat channels.  A registry is named explicitly almost everywhere; these
commands stand in where none is, and also where the one that is named is empty.
-/

namespace SlashCommand.Grammar.Builtin

/-- A flag of the built-in grammar. -/
def flag (fields : FlagFields) (sound : fields.fault? = none := by decide) : Flag :=
  ⟨fields, sound⟩

/-- A slot of the built-in grammar. -/
def slot (fields : ArgumentFields) (children : List Node := [])
    (sound : fields.fault? = none := by decide) : Node :=
  .argument ⟨fields, sound⟩ [] children

/-- A keyword of the built-in grammar. -/
def keyword (value description : String) (children : List Node := [])
    (flags : List Flag := []) : Node :=
  .literal value (some description) flags children

/-- A command of the built-in grammar. -/
def command (fields : CommandFields) (named : isCommandName fields.name = true := by decide) :
    Command :=
  ⟨fields.withUsage, named⟩

/-- A command without arguments. -/
def simple (name : String) (aliases : List String) (description : String)
    (named : isCommandName name = true := by decide) : Command :=
  command { name, aliases, description } named

/-! ## Appearance and conversation -/

def help : Command :=
  command
    { name := "help"
      aliases := ["h"]
      description := "List available commands and their usage."
      usage := "/help [command]"
      root :=
        [slot
          { name := "command"
            kind := .dynamicEnum
            providerId := some "commands"
            isOptional := true
            placeholder := some "[command]"
            description := some "Command name to get help for" }] }

def model : Command :=
  command
    { name := "model"
      aliases := ["m"]
      description := "Switch the active model."
      usage := "/model <model-name>"
      root :=
        [slot
          { name := "model-name"
            kind := .dynamicEnum
            providerId := some "models"
            placeholder := some "<model-name>"
            description := some "Model to activate" }] }

def theme : Command :=
  command
    { name := "theme"
      aliases := ["t"]
      description := "Switch the active theme."
      usage := "/theme <theme-name>"
      root :=
        [slot
          { name := "theme-name"
            kind := .dynamicEnum
            providerId := some "themes"
            placeholder := some "<theme-name>"
            description := some "Theme to activate" }] }

def environment : Command :=
  command
    { name := "env"
      aliases := ["environment"]
      description := "Switch or list environments."
      usage := "/env [name]"
      root :=
        [slot
          { name := "name"
            kind := .dynamicEnum
            providerId := some "environments"
            isOptional := true
            placeholder := some "[name]"
            description := some "Environment to switch to" }] }

def compact : Command :=
  command
    { name := "compact"
      aliases := ["dense"]
      description := "Toggle compact rendering mode."
      usage := "/compact [on|off]"
      root :=
        [slot
          { name := "mode"
            kind := .enum
            enumValues := some ["on", "off"]
            isOptional := true
            placeholder := some "[on|off]"
            description := some "Enable or disable compact mode" }] }

def exportConversation : Command :=
  command
    { name := "export"
      aliases := ["save"]
      description := "Export the current conversation."
      usage := "/export [path]"
      root :=
        [slot
          { name := "path"
            kind := .path
            isOptional := true
            placeholder := some "[path]"
            description := some "File path to export to" }] }

/-! ## Memory -/

/-- The flags that narrow a listing of memory entries. -/
def memoryFilters : List Flag :=
  [flag
    { name := "--type"
      kind := .enum
      enumValues := some
        ["fact", "preference", "decision", "episode", "skill", "entity", "document_chunk"]
      description := some "Filter by memory type" },
   flag
    { name := "--layer"
      kind := .enum
      enumValues := some ["stm", "ltm"]
      description := some "Filter by memory layer" },
   flag
    { name := "--limit"
      kind := .integer
      description := some "Maximum number of results" }]

def memory : Command :=
  command
    { name := "memory"
      aliases := ["mem"]
      description := "List, inspect, or search memory entries."
      usage := "/memory <list|show|search|settings|setup|reindex> [options]"
      root :=
        [keyword "list" "List memory entries" [] memoryFilters,
         keyword "show" "Show a specific memory entry"
          [slot
            { name := "id"
              placeholder := some "<id>"
              description := some "Memory entry ID" }],
         keyword "search" "Search memory entries"
          [slot
            { name := "query"
              kind := .freeText
              placeholder := some "<query>"
              description := some "Search query" }]
          memoryFilters,
         keyword "settings" "Manage proactive memory settings",
         keyword "setup" "Configure embedding provider",
         keyword "reindex" "Re-index memory embeddings"] }

def remember : Command :=
  command
    { name := "remember"
      aliases := ["rem"]
      description := "Save an explicit memory entry."
      usage := "/remember [--type fact|preference|decision|note] [--tags a,b] <text>"
      root :=
        [slot
          { name := "text"
            kind := .freeText
            placeholder := some "<text>"
            description := some "Memory content to save" }]
      flags :=
        [flag
          { name := "--type"
            kind := .enum
            enumValues := some ["fact", "preference", "decision", "note"]
            description := some "Memory type" },
         flag
          { name := "--tags"
            kind := .string
            description := some "Comma-separated tags" }] }

/-! ## Daemons, channels, and the browser -/

/-- The slot for the name of a daemon profile. -/
def profileName (description : String) (children : List Node := []) : Node :=
  .argument
    ⟨{ name := "name", placeholder := some "<name>", description := some description }, rfl⟩
    [] children

def daemon : Command :=
  command
    { name := "daemon"
      aliases := ["d"]
      description := "Manage daemon connections and profiles."
      usage := "/daemon [add|switch|remove|status|token] [options]"
      root :=
        [keyword "add" "Add a new daemon profile"
          [profileName "Profile name"
            [slot
              { name := "url"
                placeholder := some "<url>"
                description := some "Daemon URL" }]],
         keyword "switch" "Switch to a daemon profile"
          [profileName "Profile name to switch to"],
         keyword "remove" "Remove a daemon profile" [profileName "Profile name to remove"],
         keyword "status" "Show daemon connection status",
         keyword "token" "Manage daemon auth tokens"
          [slot
            { name := "action"
              kind := .enum
              enumValues := some ["show", "rotate"]
              isOptional := true
              placeholder := some "[show|rotate]"
              description := some "Token action" }]] }

/-- The slot for the platform of a chat channel. -/
def platform (description : String) (children : List Node := []) : Node :=
  .argument
    ⟨{ name := "platform"
       kind := .enum
       enumValues := some ["telegram", "discord"]
       placeholder := some "<telegram|discord>"
       description := some description }, rfl⟩
    [] children

def channels : Command :=
  command
    { name := "channels"
      aliases := ["ch"]
      description := "Manage external chat channel integrations."
      usage := "/channels [add|remove|enable|disable|status] [platform]"
      root :=
        [keyword "add" "Add a new chat channel"
          [platform "Platform to add"
            [slot
              { name := "token"
                isOptional := true
                placeholder := some "[bot-token]"
                description := some "Bot token (or prompted interactively)" }]],
         keyword "remove" "Remove a configured channel" [platform "Platform to remove"],
         keyword "enable" "Enable a channel" [platform "Platform to enable"],
         keyword "disable" "Disable a channel" [platform "Platform to disable"],
         keyword "status" "Show all channel statuses"] }

def browser : Command :=
  command
    { name := "browser"
      aliases := ["br"]
      description := "Control the browser: navigate, screenshot, and monitor pages."
      usage := "/browser [headed | headless | screenshot | close]"
      root :=
        [keyword "headed" "Switch to headed (visible window) mode",
         keyword "headless" "Switch to headless (background) mode",
         keyword "screenshot" "Take a screenshot of the current page",
         keyword "close" "Close the browser"] }

/-! ## The table -/

/-- The built-in commands, in the order in which they are listed. -/
def commands : List Command :=
  [help,
   model,
   theme,
   simple "connect" ["provider"] "Open provider setup flow.",
   simple "status" ["st"] "Show daemon and session status.",
   environment,
   simple "new" ["n"] "Start a new conversation.",
   simple "clear" ["cls"] "Clear the current conversation.",
   exportConversation,
   compact,
   simple "settings" ["prefs"] "Open settings.",
   simple "search-settings" ["ss"] "Configure web search provider and API keys.",
   simple "quit" ["exit", "q"] "Exit the TUI.",
   remember,
   memory,
   daemon,
   channels,
   simple "setup" ["onboarding", "personality"] "Re-run the onboarding setup wizard.",
   simple "integrations" ["int"] "Open integrations panel.",
   simple "skills" ["sk"] "Open skills management panel.",
   browser]

end SlashCommand.Grammar.Builtin

namespace SlashCommand.Grammar

/-- The registry of the built-in commands. -/
def Registry.builtin : Registry :=
  match Registry.ofCommands Builtin.commands with
  | .ok registry => registry
  | .error _ => .empty

/-- The registry in force where `registry` was named: the built-in one if none was, or one
without commands. -/
def Registry.orBuiltin : Option Registry → Registry
  | some registry => if registry.commands.isEmpty then builtin else registry
  | none => builtin

end SlashCommand.Grammar
