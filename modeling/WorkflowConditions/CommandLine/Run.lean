import WorkflowConditions.CommandLine.Command
import WorkflowConditions.CommandLine.Trace
import WorkflowConditions.Log.Level
import WorkflowConditions.Settings.Load
import WorkflowConditions.Terminal.Drawing
import WorkflowConditions.Terminal.Sequence
import WorkflowConditions.Text.Wrapper
import WorkflowConditions.Value.Json.Write

namespace WorkflowConditions.CommandLine

/-!
# Running the program

A run is a function of the arguments, the environment and the settings files; it
yields what is printed and logged.  The program's own options are read first, then
the settings are loaded, and only then the options of the command are looked at.
-/

/-- What the program finds around it. -/
structure Workspace where
  /-- The settings file of the user. -/
  userFile : Settings.File
  /-- The settings file of the project, unless another one is named. -/
  projectFile : Settings.File
  /-- What stands at a path that is named on the command line. -/
  named : String → Settings.Content
  environment : Environment

/-- What a run yields. -/
structure Outcome where
  exitCode : Nat
  output : String := ""
  errors : String := ""
  records : List Value.Fields := []
  /-- The run broke off without a report. -/
  brokeOff : Option Settings.Breakdown := none
  deriving Repr

namespace Outcome

/-- A run that prints and ends well. -/
def success (output : String) : Outcome :=
  { exitCode := 0, output }

/-- A run with a usage error. -/
def misuse (errors : String) : Outcome :=
  { exitCode := 2, errors := Terminal.printed errors }

/-- A run with a reported failure. -/
def failure (failure : Failure) : Outcome :=
  let text := report failure.message failure.details ""
  { exitCode := 1, errors := String.intercalate "\n" (Terminal.plainLines text) ++ "\n" }

/-- A run whose arguments cannot be read. -/
def badArguments
    (command : Command)
    (error : ArgumentError) :
    Outcome :=
  if error.showsUsage then misuse (command.usageReport error.message)
  else misuse ("Error: " ++ error.message ++ "\n")

/-- A command that is used wrongly. -/
def misused
    (command : Command)
    (message : String) :
    Outcome :=
  misuse (command.usageReport message)

end Outcome

/-- Settings and log level that commands run under. -/
structure Session where
  settings : Settings
  level : Int
  deriving Repr

namespace Session

/-- Add records to an outcome, if the level lets debugging records through. -/
def log
    (session : Session)
    (scope : Value.Fields)
    (records : List Log.Record)
    (outcome : Outcome) :
    Outcome :=
  if session.level ≤ Log.verbosityLevel .debug then
    { outcome with records := records.map (Log.Record.data (Log.Context.empty.enter scope)) }
  else outcome

end Session

/-- Lines of text as they are printed. -/
def printLines (lines : List String) : String :=
  String.join (lines.map (· ++ "\n"))

/-- How a condition is printed. -/
inductive Format where
  | text
  | json
  deriving Repr, DecidableEq

namespace Format

/-- The format of a name. -/
def ofName? : String → Option Format
  | "text" => some .text
  | "json" => some .json
  | _ => none

/-- What is reported when a name is no format. -/
def unknownMessage (name : String) : String :=
  "Invalid value for '-f' / '--format': " ++ Text.showQuoted name ++
    " is not one of 'text', 'json'."

/-- Print a condition. -/
def print
    (format : Format)
    (widths : Layout.Widths)
    (condition : Condition) :
    String :=
  let text := condition.render
  let lines := Layout.breakLines widths text
  match format with
  | .text => Terminal.printed (String.intercalate "\n" lines) ++ "\n"
  | .json =>
      Json.document (.record [("condition", .text text), ("lines", Trace.textList lines)]) ++ "\n"

end Format

/-- The format that arguments ask for. -/
def formatOf (arguments : Arguments) : Except String Format :=
  match arguments.last? .format with
  | none => .ok .text
  | some name =>
      match Format.ofName? name with
      | some format => .ok format
      | none => .error (Format.unknownMessage name)

/-- The report of operands that a command does not take. -/
def extraMessage (extra : List String) : String :=
  let noun := if extra.length = 1 then "argument" else "arguments"
  "Got unexpected extra " ++ noun ++ " (" ++ String.intercalate " " extra ++ ")"

/-- The single operand of a command. -/
def expressionOf (arguments : Arguments) : Except String String :=
  match arguments.operands with
  | [] => .error "Missing argument 'EXPRESSION'."
  | [expression] => .ok expression
  | _ :: extra => .error (extraMessage extra)

/-- Parse a condition and print it, or its outline. -/
def runParse
    (session : Session)
    (arguments : Arguments) :
    Outcome :=
  match formatOf arguments, expressionOf arguments with
  | .error message, _ => .misused .parse message
  | .ok _, .error message => .misused .parse message
  | .ok format, .ok expression =>
      let scope : Value.Fields :=
        [("command", .text "condition parse"), ("expression", .text expression)]
      let source := Text.unwrap expression
      match Condition.parse source with
      | .error error =>
          let failure := error.failure source
          session.log scope (Trace.parsing source ++ [Trace.failed failure]) (.failure failure)
      | .ok condition =>
          if arguments.has .tree then
            session.log scope (Trace.parsing source)
              (.success (printLines condition.outline.draw))
          else
            let widths := session.settings.widths
            session.log scope (Trace.parsing source ++ Trace.breaking widths condition.render)
              (.success (format.print widths condition))

/-- A command's name without the slash it may be written with. -/
def withoutSlash (name : String) : String :=
  match name.toList with
  | '/' :: rest => String.ofList rest
  | _ => name

/-- Build the gate of some commands and print it. -/
def runGate
    (session : Session)
    (arguments : Arguments) :
    Outcome :=
  match formatOf arguments, arguments.operands with
  | .error message, _ => .misused .gate message
  | .ok _, [] => .misused .gate "Missing argument 'NAMES...'."
  | .ok format, operands =>
      let names := operands.map withoutSlash
      let scope : Value.Fields :=
        [("command", .text "condition command"), ("commands", Trace.textList names)]
      let request : GateRequest :=
        { names, identifiers := arguments.all .event, otherTriggers := arguments.has .otherEvents }
      match request.gate with
      | .error error =>
          let failure := error.failure
          session.log scope (Trace.building request ++ [Trace.failed failure]) (.failure failure)
      | .ok condition =>
          let widths := session.settings.widths
          session.log scope
            (Trace.building request ++ Trace.built request ::
              Trace.breaking widths condition.render)
            (.success (format.print widths condition))

/-- Break a condition into lines. -/
def runFormat
    (session : Session)
    (arguments : Arguments) :
    Outcome :=
  match expressionOf arguments with
  | .error message => .misused .format message
  | .ok expression =>
      let source := Text.unwrap expression
      let widths := session.settings.widths
      session.log [("command", .text "condition format")] (Trace.breaking widths source)
        (.success (Terminal.printed (printLines (Layout.breakLines widths source))))

/-- Run a command that has no commands below it. -/
def runLeaf
    (session : Session)
    (command : Command)
    (arguments : List String) :
    Outcome :=
  match command.read arguments with
  | .error error => .badArguments command error
  | .ok arguments =>
      if arguments.has .help then .success command.help
      else
        match command with
        | .parse => runParse session arguments
        | .gate => runGate session arguments
        | _ => runFormat session arguments

/--
A name that is no command.  A name that looks like an option is first read as one,
since it may be unknown as an option too.
-/
def unknownCommand
    (command : Command)
    (name : String)
    (rest : List String) :
    Outcome :=
  let reread :=
    if isOption name then command.read (name :: rest) else .ok .empty
  match reread with
  | .error error => .badArguments command error
  | .ok arguments =>
      match arguments.options.find? fun given => given.key == .help || given.key == .version with
      | some ⟨.help, _⟩ => .success command.help
      | some _ => .success (Command.versionText ++ "\n")
      | none => .misused command (command.unknownMessage name)

/-- Run the commands on conditions. -/
def runCondition
    (session : Session)
    (arguments : List String) :
    Outcome :=
  if arguments.isEmpty then .misuse Command.condition.help
  else
    match Command.condition.read arguments with
    | .error error => .badArguments .condition error
    | .ok arguments =>
        if arguments.has .help then .success Command.condition.help
        else
          match arguments.operands with
          | [] => .misused .condition "Missing command."
          | name :: rest =>
              match Command.condition.subcommand? name with
              | some command => runLeaf session command rest
              | none => unknownCommand .condition name rest

/-- The settings file that arguments name; an empty name counts as none. -/
def namedPath? (arguments : Arguments) : Option String :=
  match arguments.last? .config with
  | none => none
  | some "" => none
  | some path => some (Settings.normalizePath path)

/-- The settings file of the project that arguments name, or the usual one. -/
def projectFile
    (workspace : Workspace)
    (arguments : Arguments) :
    Settings.File :=
  match namedPath? arguments with
  | none => workspace.projectFile
  | some path => ⟨path, workspace.named path⟩

/-- The report of settings that cannot be loaded. -/
def loadFailure : Settings.LoadError → Outcome
  | .file error => .failure error.failure
  | .invalid issue => .failure issue.failure
  | .breakdown cause => { exitCode := 1, brokeOff := some cause }

/-- Load the settings and go on with them. -/
def withSession
    (workspace : Workspace)
    (arguments : Arguments)
    (next : Session → Outcome) :
    Outcome :=
  let sources : Settings.Sources :=
    ⟨workspace.userFile, projectFile workspace arguments, workspace.environment⟩
  match Settings.load sources with
  | .error error => loadFailure error
  | .ok settings =>
      let verbose := (arguments.all .verbose).length
      let level := Log.levelOf (some settings.verbosity.name) verbose (arguments.has .quiet)
      next ⟨settings, level⟩

/-- Run the program. -/
def run
    (workspace : Workspace)
    (arguments : List String) :
    Outcome :=
  match Command.program.read arguments with
  | .error error => .badArguments .program error
  | .ok arguments =>
      match arguments.options.find? fun given => given.key == .help || given.key == .version with
      | some ⟨.help, _⟩ => .success Command.program.help
      | some _ => .success (Command.versionText ++ "\n")
      | none =>
          match arguments.operands with
          | [] => withSession workspace arguments fun _ => .success Command.program.help
          | name :: rest =>
              match Command.program.subcommand? name with
              | some _ =>
                  withSession workspace arguments fun session => runCondition session rest
              | none => unknownCommand .program name rest

end WorkflowConditions.CommandLine
