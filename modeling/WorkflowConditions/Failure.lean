import WorkflowConditions.Condition.Parse
import WorkflowConditions.Value.Display

namespace WorkflowConditions

/-!
# Failure reports

Whatever goes wrong is reported in the same way: a headline, and below it the
lines that show where.
-/

/-- A failure as it is reported. -/
inductive Failure where
  | general (message : String)
  /-- A condition is at fault, perhaps a known one. -/
  | condition (message : String) (expression : Option String)
  /-- A condition has no tokens from `position` on. -/
  | scanning (message expression : String) (position : Int)
  /-- A condition does not continue with `token` at `position`. -/
  | parsing (message expression : String) (position : Int) (token : String)
  /-- The gate of some commands cannot be built. -/
  | command (message : String) (names : List String)
  /-- A slash command is malformed. -/
  | shorthand (message : String) (expression : Option String)
  /-- A setting is at fault, perhaps with a known value. -/
  | setting (message : String) (field : Option String) (value : Value)
  deriving Repr

namespace Failure

/-- The headline. -/
def message : Failure → String
  | .general message => message
  | .condition message _ => message
  | .scanning message _ _ => message
  | .parsing message _ _ _ => message
  | .command message _ => message
  | .shorthand message _ => message
  | .setting message _ _ => message

/-- Name of the kind of failure in log records. -/
def kindName : Failure → String
  | .general _ => "OutriderError"
  | .condition .. => "ConditionError"
  | .scanning .. => "ConditionTokenizeError"
  | .parsing .. => "ConditionSyntaxError"
  | .command .. => "CommandConditionError"
  | .shorthand .. => "SlashCommandError"
  | .setting .. => "ConfigError"

/-- A caret under a position of the line above; positions before the line count as its start. -/
def caret (position : Int) : String :=
  String.ofList (List.replicate position.toNat ' ' ++ ['^'])

/-- An expression and the caret under a position; nothing for an empty expression. -/
def pointer
    (expression : String)
    (position : Int) :
    List String :=
  if expression = "" then [] else [expression, caret position]

/-- The lines below the headline. -/
def details : Failure → List String
  | .scanning _ expression position => pointer expression position
  | .parsing _ expression position _ => pointer expression position
  | .setting _ field value =>
      let fieldLine :=
        match field with
        | none => []
        | some "" => []
        | some name => ["Field: " ++ name]
      let valueLine :=
        match value with
        | .null => []
        | value => ["Value: " ++ value.display]
      fieldLine ++ valueLine
  | _ => []

/-- The failure on its own: its headline, with the pointer if it has one. -/
def text : Failure → String
  | .scanning message expression position =>
      String.intercalate "\n" (message :: pointer expression position)
  | .parsing message expression position _ =>
      String.intercalate "\n" (message :: pointer expression position)
  | failure => failure.message

end Failure

/-- The report of a condition that has a run without text. -/
def Token.EmptyRun.failure
    (error : Token.EmptyRun)
    (source : String) :
    Failure :=
  .scanning error.message source error.position

/-- The report of a text that is no condition. -/
def ParseError.failure
    (error : ParseError)
    (source : String) :
    Failure :=
  .parsing error.message source error.position error.token

/-- A report as printed: the headline, its details indented, and a suggestion. -/
def report
    (message : String)
    (details : List String)
    (suggestion : String) :
    String :=
  let suggestionLine := if suggestion = "" then [] else ["Suggestion: " ++ suggestion]
  String.intercalate "\n"
    (("Error: " ++ message) :: details.map ("  " ++ ·) ++ suggestionLine)

end WorkflowConditions
