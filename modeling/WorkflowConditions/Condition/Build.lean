import WorkflowConditions.Condition.Basic
import WorkflowConditions.Text.Space

namespace WorkflowConditions.Condition

/-!
# Building conditions

Conditions over the platform's event data, put together from their parts.
-/

/-- Path of the name of the event that started a run. -/
def eventNamePath : String :=
  "github.event_name"

/-- Path of the activity type of that event. -/
def eventActionPath : String :=
  "github.event.action"

/-- Path of the ref that started the run. -/
def refPath : String :=
  "github.ref"

/-- Path of the names of a pull request's labels. -/
def labelNamesPath : String :=
  "github.event.pull_request.labels.*.name"

/-- The null value. -/
def nullValue : Condition :=
  .leaf "null"

/-- The event has the given name. -/
def eventIs (name : String) : Condition :=
  .compare .equal (.property eventNamePath) (.string name)

/-- The event has the given activity type. -/
def actionIs (action : String) : Condition :=
  .compare .equal (.property eventActionPath) (.string action)

/-- The ref starts with the given text. -/
def refStartsWith (start : String) : Condition :=
  .call "startsWith" [.property refPath, .string start]

/-- The pull request carries the given label. -/
def hasLabel (label : String) : Condition :=
  .contains (.property labelNamesPath) (.string label)

/-- Any of some terms; a single term stands for itself. -/
def alternatives
    (multiline : Bool) :
    List Condition → Condition
  | [term] => term
  | terms => .anyOf terms multiline

/-- Two raw conditions in conjunction; a blank first one is left out. -/
def conjoinTexts
    (existing extra : String) :
    Condition :=
  if Text.isBlankText existing then .leaf extra
  else .and (.leaf existing) (.leaf extra)

end WorkflowConditions.Condition
