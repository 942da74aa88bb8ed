import WorkflowConditions.Settings.Basic
import WorkflowConditions.Text.Case

namespace WorkflowConditions.Log

/-!
# Log levels

A level is a number: the higher it is, the graver the records it lets through.
-/

/-- The number of a verbosity. -/
def verbosityLevel : Verbosity → Int
  | .error => 40
  | .warning => 30
  | .info => 20
  | .debug => 10

/-- The level when nothing else is said. -/
def standardLevel : Int :=
  verbosityLevel .warning

/--
The level that options and settings ask for.  Quiet wins over verbose, which wins
over the verbosity that is set; an unknown verbosity counts as a warning.
-/
def levelOf
    (verbosity : Option String)
    (verbose : Int)
    (quiet : Bool) :
    Int :=
  if quiet then verbosityLevel .error
  else if verbose = 1 then verbosityLevel .info
  else if 1 < verbose then verbosityLevel .debug
  else
    match (verbosity.map Text.lower).bind Verbosity.ofName? with
    | some known => verbosityLevel known
    | none => standardLevel

/-- Levels by their names in the environment. -/
def namedLevels : List (String × Int) :=
  [("CRITICAL", 50), ("FATAL", 50), ("ERROR", 40), ("WARNING", 30), ("WARN", 30), ("INFO", 20),
    ("DEBUG", 10), ("NOTSET", 0)]

/-- The level that a name in the environment stands for, whatever its case. -/
def namedLevel (name : String) : Int :=
  (namedLevels.lookup (Text.upper name)).getD standardLevel

/-- Name of the variable that holds the level. -/
def levelVariable : String :=
  "OUTRIDER_LOG_LEVEL"

/-- The level in force: the one that is given, or else the environment's. -/
def effectiveLevel
    (given : Option Int)
    (environment : List (String × String)) :
    Int :=
  match given with
  | some level => level
  | none =>
      match environment.lookup levelVariable with
      | some name => namedLevel name
      | none => standardLevel

/-- Number of handlers that a configured log writes to. -/
def handlerCount : Nat :=
  1

end WorkflowConditions.Log
