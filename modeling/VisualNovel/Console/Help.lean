import VisualNovel.Console.Arguments

/-!
# Help

The texts that explain the command line.
-/

set_option autoImplicit false

namespace VisualNovel.Console

def mainHelp : List String :=
  ["usage: novelvn [-h] [--log-level LOG_LEVEL] \x7brun,check\x7d ...",
    "",
    "novelvn visual novel player",
    "",
    "positional arguments:",
    "  \x7brun,check\x7d",
    "    run                 Play a novel JSON document",
    "    check               Report problems in a novel document",
    "",
    "options:",
    "  -h, --help            show this help message and exit",
    "  --log-level LOG_LEVEL",
    "                        debug, info, warning or error"]

def CommandName.help : CommandName → List String
  | .run =>
      ["usage: novelvn run [-h] [--pygame] [--auto] [--max-steps MAX_STEPS] [--muted]",
        "                   [--config CONFIG] [--assets ASSETS]",
        "                   novel",
        "",
        "positional arguments:",
        "  novel                 Path to the novel .json file",
        "",
        "options:",
        "  -h, --help            show this help message and exit",
        "  --pygame              Open a pygame window (interactive)",
        "  --auto                Headless: advance and take the first valid choice",
        "  --max-steps MAX_STEPS",
        "                        Headless: stop after N inputs",
        "  --muted               Start with audio muted",
        "  --config CONFIG       Path to config.json",
        "  --assets ASSETS       Directory that relative media paths resolve against"]
  | .check =>
      ["usage: novelvn check [-h] novel",
        "",
        "positional arguments:",
        "  novel       Path to the novel .json file",
        "",
        "options:",
        "  -h, --help  show this help message and exit"]

def helpLines (about : Option CommandName) : List String :=
  (about.map CommandName.help).getD mainHelp

end VisualNovel.Console
