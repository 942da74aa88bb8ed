import WorkflowConditions.Decimal.Shortest
import WorkflowConditions.Text.Display
import WorkflowConditions.Value.Basic

namespace WorkflowConditions.Value

/-!
# Showing a value

A value is shown the way a report quotes it: text as it stands at the top and
between quotation marks inside a list or a record.  Integers are shown with all their
digits.  A report with an integer of more than `longestInteger` digits would fail, and
is not covered: such an integer can only be spelled to another base than ten.
-/

mutual

/-- A value inside a list or a record. -/
def showNested : Value → String
  | .null => "None"
  | .boolean value => if value then "True" else "False"
  | .integer value => toString value
  | .float value => value.text
  | .text value => Text.showQuoted value
  | .list items => "[" ++ String.intercalate ", " (showItems items) ++ "]"
  | .record fields => "\x7b" ++ String.intercalate ", " (showFields fields) ++ "\x7d"

/-- The items of a list. -/
def showItems : List Value → List String
  | [] => []
  | item :: rest => item.showNested :: showItems rest

/-- The fields of a record. -/
def showFields : List (String × Value) → List String
  | [] => []
  | (key, value) :: rest => (Text.showQuoted key ++ ": " ++ value.showNested) :: showFields rest

end

/-- A value on its own: text stands for itself. -/
def display : Value → String
  | .text value => value
  | value => value.showNested

end WorkflowConditions.Value
