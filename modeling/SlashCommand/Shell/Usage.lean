/-!
# Usage

What the program says of its own command line: a summary in two lines, which is also written
above every refusal, and the whole text, which is written when help is asked for.
-/

namespace SlashCommand.Shell

/-- The summary of the command line. -/
def usage : List String :=
  ["usage: slashkit [-h] [-c CONFIG] [--log-mode \x7bcli,json\x7d] [--log-file LOG_FILE]",
   "                [--model MODELS] [--theme THEMES] [--env ENVIRONMENTS]"]

/-- The whole text about the command line. -/
def usageHelp : List String :=
  usage ++
    ["",
     "Interactive slash-command shell with live completion.",
     "",
     "options:",
     "  -h, --help            show this help message and exit",
     "  -c CONFIG, --config CONFIG",
     "                        Grammar config (YAML or TOML).",
     "  --log-mode \x7bcli,json\x7d",
     "                        Logging output mode.",
     "  --log-file LOG_FILE   Write debug logs to this file.",
     "  --model MODELS        Model name to offer.",
     "  --theme THEMES        Theme name to offer.",
     "  --env ENVIRONMENTS    Environment name to offer."]

end SlashCommand.Shell
