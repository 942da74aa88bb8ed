import WorkflowConditions.Failure
import WorkflowConditions.Layout.Lines
import WorkflowConditions.Settings.Integer

namespace WorkflowConditions

/-!
# Settings

What a user can set: the widths of line breaking and the verbosity of the log.
Raw values are checked one by one; the relation between two widths is checked only
once each of them is valid.
-/

/-- How much is logged. -/
inductive Verbosity where
  | error
  | warning
  | info
  | debug
  deriving Repr, DecidableEq

namespace Verbosity

/-- Name of a verbosity. -/
def name : Verbosity → String
  | .error => "error"
  | .warning => "warning"
  | .info => "info"
  | .debug => "debug"

/-- All verbosities. -/
def all : List Verbosity :=
  [.error, .warning, .info, .debug]

/-- The verbosity of a name. -/
def ofName? (text : String) : Option Verbosity :=
  all.find? (·.name == text)

/-- Reading a written verbosity gives it back. -/
theorem ofName?_name (verbosity : Verbosity) :
    ofName? verbosity.name = some verbosity := by
  cases verbosity <;> decide

end Verbosity

/-- All settings. -/
structure Settings where
  widths : Layout.Widths
  verbosity : Verbosity
  deriving Repr, DecidableEq

namespace Settings

/-- The settings of a user who sets nothing. -/
def standard : Settings :=
  ⟨.standard, .warning⟩

/-- What is wrong with a value. -/
inductive Problem where
  | integer (problem : IntegerProblem)
  | tooSmall (least : Int)
  | tooLarge (greatest : Int)
  /-- Lines would end only beyond the longest line. -/
  | threshold (connective line : Int)
  /-- The widths are no record. -/
  | notRecord
  | unknownVerbosity
  deriving Repr, DecidableEq

namespace Problem

/-- What is reported. -/
def message : Problem → String
  | .integer problem => problem.message
  | .tooSmall least => "Input should be greater than or equal to " ++ toString least
  | .tooLarge greatest => "Input should be less than or equal to " ++ toString greatest
  | .threshold connective line =>
      "Value error, break_threshold must not exceed max_line_length (" ++
        toString connective ++ " > " ++ toString line ++ ")"
  | .notRecord => "Input should be a valid dictionary or instance of ExpressionFormatConfig"
  | .unknownVerbosity => "Input should be 'error', 'warning', 'info' or 'debug'"

end Problem

/-- A problem, where it is, and the value at fault. -/
structure Issue where
  location : List String
  problem : Problem
  value : Value
  deriving Repr

/-- All that is wrong with some settings, in their order. -/
structure Issues where
  first : Issue
  others : List Issue
  deriving Repr

namespace Issues

/-- A single issue. -/
def single (issue : Issue) : Issues :=
  ⟨issue, []⟩

/-- All issues in a list. -/
def toList (issues : Issues) : List Issue :=
  issues.first :: issues.others

/-- The issues of two parts. -/
def append (front back : Issues) : Issues :=
  ⟨front.first, front.others ++ back.toList⟩

/-- The issues of a part, located inside a field. -/
def within
    (key : String)
    (issues : Issues) :
    Issues :=
  let locate (issue : Issue) : Issue := { issue with location := key :: issue.location }
  ⟨locate issues.first, issues.others.map locate⟩

end Issues

/-- Two checked parts together; the issues of both are kept. -/
def both : Except Issues α → Except Issues β → Except Issues (α × β)
  | .ok first, .ok second => .ok (first, second)
  | .error issues, .ok _ => .error issues
  | .ok _, .error issues => .error issues
  | .error front, .error back => .error (front.append back)

/-- A width that can be set. -/
structure WidthField where
  name : String
  fallback : Int
  least : Int
  greatest : Int
  deriving Repr, DecidableEq

namespace WidthField

/-- Longest text that is left alone. -/
def line : WidthField :=
  ⟨"max_line_length", Layout.Widths.standard.line, 20, 1000⟩

/-- Length beyond which a connective ends a line. -/
def connective : WidthField :=
  ⟨"break_threshold", Layout.Widths.standard.connective, 10, 1000⟩

/-- Length beyond which a group ends a line. -/
def group : WidthField :=
  ⟨"paren_break_threshold", Layout.Widths.standard.group, 10, 1000⟩

/-- Check a raw value. -/
def check
    (field : WidthField)
    (value : Value) :
    Except Problem Int :=
  match Integer.ofValue value with
  | .error problem => .error (.integer problem)
  | .ok size =>
      if size < field.least then .error (.tooSmall field.least)
      else if field.greatest < size then .error (.tooLarge field.greatest)
      else .ok size

/-- The width that some fields set, or its fallback. -/
def read
    (field : WidthField)
    (fields : Value.Fields) :
    Except Issues Int :=
  match Value.Fields.get? fields field.name with
  | none => .ok field.fallback
  | some value =>
      match field.check value with
      | .ok size => .ok size
      | .error problem => .error (.single ⟨[field.name], problem, value⟩)

end WidthField

/-- The widths that some fields set, or all that is wrong with them. -/
def readWidths (fields : Value.Fields) : Except Issues Layout.Widths :=
  let line := WidthField.line.read fields
  let connective := WidthField.connective.read fields
  let group := WidthField.group.read fields
  match both line (both connective group) with
  | .error issues => .error issues
  | .ok (line, connective, group) =>
      if line < connective then
        .error (.single ⟨[], .threshold connective line, .record fields⟩)
      else .ok ⟨line, connective, group⟩

/-- Name of the widths among the settings. -/
def widthsKey : String :=
  "expressions"

/-- Name of the verbosity among the settings. -/
def verbosityKey : String :=
  "verbosity"

/-- The widths among some settings. -/
def widthsOf (fields : Value.Fields) : Except Issues Layout.Widths :=
  match Value.Fields.get? fields widthsKey with
  | none => .ok .standard
  | some (.record widths) =>
      match readWidths widths with
      | .ok widths => .ok widths
      | .error issues => .error (issues.within widthsKey)
  | some value => .error (.single ⟨[widthsKey], .notRecord, value⟩)

/-- The verbosity that a value names. -/
def readVerbosity : Value → Option Verbosity
  | .text name => Verbosity.ofName? name
  | _ => none

/-- The verbosity among some settings. -/
def verbosityOf (fields : Value.Fields) : Except Issues Verbosity :=
  match Value.Fields.get? fields verbosityKey with
  | none => .ok .warning
  | some value =>
      match readVerbosity value with
      | some verbosity => .ok verbosity
      | none => .error (.single ⟨[verbosityKey], .unknownVerbosity, value⟩)

/-- The settings that some fields stand for, or all that is wrong with them. -/
def ofFields (fields : Value.Fields) : Except Issues Settings :=
  match both (widthsOf fields) (verbosityOf fields) with
  | .ok (widths, verbosity) => .ok ⟨widths, verbosity⟩
  | .error issues => .error issues

/-- The report of an issue. -/
def Issue.failure (issue : Issue) : Failure :=
  .setting ("Invalid configuration: " ++ issue.problem.message)
    (some (String.intercalate "." issue.location)) issue.value

end Settings

end WorkflowConditions
