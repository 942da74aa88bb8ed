import WorkflowConditions.CommandLine.Arguments

namespace WorkflowConditions.CommandLine

/-!
# Commands

The commands of the program, the options they know, and their help texts.
-/

/-- A command of the program. -/
inductive Command where
  | program
  | condition
  | parse
  | gate
  | format
  deriving Repr, DecidableEq

namespace Command

/-- Name and version of the program. -/
def versionText : String :=
  "outrider, version 0.1.0"

/-- The command as it is called. -/
def path : Command → String
  | .program => "outrider"
  | .condition => "outrider condition"
  | .parse => "outrider condition parse"
  | .gate => "outrider condition command"
  | .format => "outrider condition format"

/-- What follows a command's name. -/
def pattern : Command → String
  | .program => "[OPTIONS] [COMMAND] [ARGS]..."
  | .condition => "[OPTIONS] COMMAND [ARGS]..."
  | .parse => "[OPTIONS] EXPRESSION"
  | .gate => "[OPTIONS] NAMES..."
  | .format => "[OPTIONS] EXPRESSION"

/-- How a command is used. -/
def usage (command : Command) : String :=
  "Usage: " ++ command.path ++ " " ++ command.pattern

/-- The option that asks for help. -/
def helpOption : OptionSpec :=
  ⟨.help, none, "--help", false⟩

/-- The option that chooses the format of the output. -/
def formatOption : OptionSpec :=
  ⟨.format, some 'f', "--format", true⟩

/-- Options of a command. -/
def options : Command → List OptionSpec
  | .program =>
      [⟨.version, none, "--version", false⟩,
        ⟨.config, some 'c', "--config", true⟩,
        ⟨.verbose, some 'v', "--verbose", false⟩,
        ⟨.quiet, some 'q', "--quiet", false⟩,
        helpOption]
  | .condition => [helpOption]
  | .parse => [⟨.tree, none, "--tree", false⟩, formatOption, helpOption]
  | .gate =>
      [⟨.event, some 'e', "--event", true⟩,
        ⟨.otherEvents, none, "--other-events", false⟩,
        formatOption,
        helpOption]
  | .format => [helpOption]

/-- Whether a command has commands of its own, so that its first operand ends its options. -/
def isGroup : Command → Bool
  | .program => true
  | .condition => true
  | _ => false

/-- The commands below a command, by their names. -/
def subcommands : Command → List (String × Command)
  | .program => [("condition", .condition)]
  | .condition => [("command", .gate), ("format", .format), ("parse", .parse)]
  | _ => []

/-- The command of a name below a command. -/
def subcommand?
    (command : Command)
    (name : String) :
    Option Command :=
  command.subcommands.lookup name

/-- What is reported when a name is no command below a command. -/
def unknownMessage
    (command : Command)
    (name : String) :
    String :=
  withSuggestions ("No such command " ++ Text.showQuoted name ++ ".")
    (Text.closeMatches name (command.subcommands.map (·.1)))

/-- What the help says below the line on usage. -/
def description : Command → List String
  | .program =>
      ["  Outrider - compile markdown workflow descriptions into platform workflows.",
        "",
        "Options:",
        "  --version          Show the version and exit.",
        "  -c, --config PATH  Path to config file (overrides ./outrider.yaml).",
        "  -v, --verbose      Increase verbosity (-v for INFO, -vv for DEBUG).",
        "  -q, --quiet        Suppress non-essential output (ERROR level only).",
        "  --help             Show this message and exit.",
        "",
        "Commands:",
        "  condition  Parse, synthesize, and format workflow conditions."]
  | .condition =>
      ["  Parse, synthesize, and format workflow conditions.",
        "",
        "Options:",
        "  --help  Show this message and exit.",
        "",
        "Commands:",
        "  command  Build the condition for a command trigger.",
        "  format   Break a long condition into lines without changing it.",
        "  parse    Parse a condition and print it re-rendered."]
  | .parse =>
      ["  Parse a condition and print it re-rendered.",
        "",
        "  A surrounding $\x7b\x7b \x7d\x7d wrapper is removed first.",
        "",
        "  Examples:     outrider condition parse \"a || b && c\"     outrider condition",
        "  parse '$\x7b\x7b !cancelled() && x \x7d\x7d' --tree",
        "",
        "Options:",
        "  --tree                    Show the parsed structure.",
        "  -f, --format [text|json]  Output format.",
        "  --help                    Show this message and exit."]
  | .gate =>
      ["  Build the condition for a command trigger.",
        "",
        "  Examples:     outrider condition command bot --event issues     outrider",
        "  condition command deploy ship --other-events",
        "",
        "Options:",
        "  -e, --event TEXT          Comment event the command is active on (repeatable;",
        "                            default: all).",
        "  --other-events            The workflow has other triggers that must always",
        "                            run.",
        "  -f, --format [text|json]  Output format.",
        "  --help                    Show this message and exit."]
  | .format =>
      ["  Break a long condition into lines without changing it.",
        "",
        "  Examples:     outrider condition format \"$(cat condition.txt)\"",
        "",
        "Options:",
        "  --help  Show this message and exit."]

/-- The help of a command. -/
def help (command : Command) : String :=
  String.intercalate "\n" (command.usage :: "" :: command.description) ++ "\n"

/-- What is reported when a command is used wrongly. -/
def usageReport
    (command : Command)
    (message : String) :
    String :=
  command.usage ++ "\nTry '" ++ command.path ++ " --help' for help.\n\nError: " ++ message ++ "\n"

/-- Read the arguments of a command. -/
def read
    (command : Command)
    (arguments : List String) :
    Except ArgumentError Arguments :=
  readArguments command.options (!command.isGroup) none arguments

end Command

end WorkflowConditions.CommandLine
