namespace WorkflowConditions

/-!
# Condition trees

A condition combines opaque expressions by conjunction, disjunction and
negation.  Values inside an expression (paths, literals, calls, comparisons) have
nodes of their own, which builders use and which the parser leaves opaque.
-/

/-- Comparison of two values. -/
inductive Comparison where
  | equal
  | notEqual
  | less
  | greater
  | lessEqual
  | greaterEqual
  deriving Repr, DecidableEq

namespace Comparison

/-- The operator as it is written. -/
def symbol : Comparison → String
  | .equal => "=="
  | .notEqual => "!="
  | .less => "<"
  | .greater => ">"
  | .lessEqual => "<="
  | .greaterEqual => ">="

/-- All comparisons, in the order of their symbols. -/
def all : List Comparison :=
  [.notEqual, .less, .lessEqual, .equal, .greater, .greaterEqual]

/-- The comparison written as `text`. -/
def ofSymbol? (text : String) : Option Comparison :=
  all.find? (·.symbol == text)

/-- Reading a written comparison gives it back. -/
theorem ofSymbol?_symbol (comparison : Comparison) :
    ofSymbol? comparison.symbol = some comparison := by
  cases comparison <;> decide

/-- What is reported when `text` is no comparison. -/
def unknownMessage (text : String) : String :=
  "Invalid comparison operator '" ++ text ++ "', expected one of " ++
    String.intercalate ", " (all.map symbol)

end Comparison

/-- A condition tree. -/
inductive Condition where
  /-- Opaque expression text, with a comment for listings of alternatives. -/
  | expression (text : String) (description : String)
  | and (left right : Condition)
  | or (left right : Condition)
  | not (child : Condition)
  /-- Explicit grouping. -/
  | group (child : Condition)
  /-- Any number of alternatives, on one line or on a line each. -/
  | anyOf (terms : List Condition) (multiline : Bool)
  | call (function : String) (arguments : List Condition)
  | property (path : String)
  | string (value : String)
  | boolean (value : Bool)
  /-- A number, kept as its text. -/
  | number (text : String)
  | compare (comparison : Comparison) (left right : Condition)
  /-- The value of `whenTrue` or of `whenFalse`, as `test` decides. -/
  | choose (test whenTrue whenFalse : Condition)
  /-- Membership of `value` in `array`. -/
  | contains (array value : Condition)
  deriving Repr, BEq, Inhabited

namespace Condition

/-- Opaque expression text without a comment. -/
def leaf (text : String) : Condition :=
  .expression text ""

/-- Direct subtrees, in reading order. -/
def children : Condition → List Condition
  | .and left right => [left, right]
  | .or left right => [left, right]
  | .not child => [child]
  | .group child => [child]
  | .anyOf terms _ => terms
  | .call _ arguments => arguments
  | .compare _ left right => [left, right]
  | .choose test whenTrue whenFalse => [test, whenTrue, whenFalse]
  | .contains array value => [array, value]
  | .expression .. | .property _ | .string _ | .boolean _ | .number _ => []

/-- Whether a condition is a function call. -/
def isCall : Condition → Bool
  | .call .. => true
  | _ => false

end Condition

end WorkflowConditions
