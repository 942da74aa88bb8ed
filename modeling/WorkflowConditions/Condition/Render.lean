import WorkflowConditions.Condition.Basic

namespace WorkflowConditions.Condition

/-!
# Writing a condition

Operands of a conjunction, a disjunction and a negation always stand in
parentheses, so the text reads back with the same structure whatever the
precedence of its operators.  The one exception is a negated call, written
`!f(…)`.
-/

/-- The comment line above an alternative that has a description. -/
def commentLine : Condition → String
  | .expression _ description =>
      if description = "" then "" else "# " ++ description ++ "\n"
  | _ => ""

mutual

/-- Text of a condition. -/
def render : Condition → String
  | .expression text _ => text
  | .and left right => "(" ++ left.render ++ ") && (" ++ right.render ++ ")"
  | .or left right => "(" ++ left.render ++ ") || (" ++ right.render ++ ")"
  | .not child =>
      if child.isCall then "!" ++ child.render else "!(" ++ child.render ++ ")"
  | .group child => "(" ++ child.render ++ ")"
  | .anyOf [] _ => ""
  | .anyOf [term] _ => term.render
  | .anyOf (first :: second :: others) multiline =>
      if multiline then
        String.intercalate "\n" (renderLines (first :: second :: others))
      else
        String.intercalate " || " (renderEach (first :: second :: others))
  | .call function arguments =>
      function ++ "(" ++ String.intercalate ", " (renderEach arguments) ++ ")"
  | .property path => path
  | .string value => "'" ++ value ++ "'"
  | .boolean value => if value then "true" else "false"
  | .number text => text
  | .compare comparison left right =>
      left.render ++ " " ++ comparison.symbol ++ " " ++ right.render
  | .choose test whenTrue whenFalse =>
      test.render ++ " ? " ++ whenTrue.render ++ " : " ++ whenFalse.render
  | .contains array value => "contains(" ++ array.render ++ ", " ++ value.render ++ ")"

/-- Texts of several conditions. -/
def renderEach : List Condition → List String
  | [] => []
  | condition :: others => condition.render :: renderEach others

/-- Alternatives on a line each, all but the last one ending in `||`. -/
def renderLines : List Condition → List String
  | [] => []
  | [term] => [term.commentLine ++ term.render]
  | term :: next :: others =>
      (term.commentLine ++ term.render ++ " ||") :: renderLines (next :: others)

end

/-- Text of some alternatives on a line each; a single one is written bare. -/
def renderMultiline (terms : List Condition) : String :=
  render (.anyOf terms true)

end WorkflowConditions.Condition
