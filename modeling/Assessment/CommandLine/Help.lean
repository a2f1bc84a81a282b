import Assessment.CommandLine.Arguments

/-!
# Help texts

What the program says of itself: its commands, their arguments and their options. A text of help is
asked for by an option or by the command help, for the program or for one of its commands.
-/

namespace Assessment.CommandLine

/-- The name of the program with its version. -/
def versionText : String := "respro 0.1.0\n"

/-- The purpose of the program. -/
def purpose : String := "Response, outcome and template processing for assessment items"

/-- An option with its explanation, which starts at a column. -/
def helpLine (column : Nat) (option explanation : String) : String :=
  option ++ String.ofList (List.replicate (column - option.length) ' ') ++ explanation

/-- The options of all commands, and one more of a command after the first of them. -/
def optionLines (column : Nat) (more : List String) : List String :=
  [helpLine column "      --output <OUTPUT>"
      "Output format (text or json) [default: text] [possible values: text, json]"]
    ++ more
    ++ [helpLine column "      --quiet" "Suppress non-essential output",
      helpLine column "      --config <CONFIG>" "Engine configuration file (TOML)",
      helpLine column "      --seed <SEED>" "Random seed; overrides the config file",
      helpLine column "  -h, --help" "Print help"]

/-- The help text of a topic. -/
def helpText : Topic → String
  | .program => joinLines
    ([purpose, "", "Usage: respro [OPTIONS] <COMMAND>", "", "Commands:",
      "  item  Run template and response processing for one item",
      "  test  Run test-level outcome processing against a session",
      "  help  Print this message or the help of the given subcommand(s)", "", "Options:"]
      ++ optionLines 25 [] ++ [helpLine 25 "  -V, --version" "Print version"])
  | .item => joinLines
    (["Run template and response processing for one item", "",
      "Usage: respro item [OPTIONS] <FILE>", "", "Arguments:",
      "  <FILE>  Path to the item JSON document", "", "Options:"]
      ++ optionLines 31 [helpLine 31 "      --responses <RESPONSES>"
        "Path to a JSON object of candidate responses keyed by identifier"])
  | .test => joinLines
    (["Run test-level outcome processing against a session", "",
      "Usage: respro test [OPTIONS] --session <SESSION> <FILE>", "", "Arguments:",
      "  <FILE>  Path to the test JSON document", "", "Options:"]
      ++ optionLines 27 [helpLine 27 "      --session <SESSION>"
        "Path to the session JSON (`\x7b\"items\": [...]\x7d`)"])
  | .help => joinLines
    ["Print this message or the help of the given subcommand(s)", "",
      "Usage: respro help [COMMAND]...", "", "Arguments:",
      "  [COMMAND]...  Print help for the subcommand(s)"]

end Assessment.CommandLine
