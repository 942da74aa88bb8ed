import WorkflowConditions.Condition.Render
import WorkflowConditions.Text.Display

namespace WorkflowConditions

/-!
# Outline of a condition

The structure of a condition as labelled nodes, for display.
-/

/-- A labelled tree. -/
inductive Outline where
  | node (label : String) (children : List Outline)
  deriving Repr, BEq

namespace Condition

/-- Name of a kind of node. -/
def kindName : Condition → String
  | .expression .. => "ExpressionNode"
  | .and .. => "AndNode"
  | .or .. => "OrNode"
  | .not _ => "NotNode"
  | .group _ => "ParenthesesNode"
  | .anyOf .. => "DisjunctionNode"
  | .call .. => "FunctionCallNode"
  | .property _ => "PropertyAccessNode"
  | .string _ => "StringLiteralNode"
  | .boolean _ => "BooleanLiteralNode"
  | .number _ => "NumberLiteralNode"
  | .compare .. => "ComparisonNode"
  | .choose .. => "TernaryNode"
  | .contains .. => "ContainsNode"

/-- The comment behind an expression in an outline. -/
def trailingComment : Condition → String
  | .expression _ description => if description = "" then "" else "  # " ++ description
  | _ => ""

/--
What an outline says of a node beside its kind: the operator of a comparison, the
name of a called function, and the text of a node without subtrees.
-/
def annotation : Condition → String
  | .compare comparison _ _ => " " ++ comparison.symbol
  | .call function _ => " " ++ function
  | condition =>
      if condition.children.isEmpty then
        " " ++ condition.render ++ condition.trailingComment
      else ""

/-- Label of a node. -/
def label (condition : Condition) : String :=
  Text.displayed (condition.kindName ++ annotation condition)

mutual

/-- Outline of a condition. -/
def outline : Condition → Outline
  | .and left right => .node (label (.and left right)) [left.outline, right.outline]
  | .or left right => .node (label (.or left right)) [left.outline, right.outline]
  | .not child => .node (label (.not child)) [child.outline]
  | .group child => .node (label (.group child)) [child.outline]
  | .anyOf terms multiline => .node (label (.anyOf terms multiline)) (outlineEach terms)
  | .call function arguments =>
      .node (label (.call function arguments)) (outlineEach arguments)
  | .compare comparison left right =>
      .node (label (.compare comparison left right)) [left.outline, right.outline]
  | .choose test whenTrue whenFalse =>
      .node (label (.choose test whenTrue whenFalse))
        [test.outline, whenTrue.outline, whenFalse.outline]
  | .contains array value =>
      .node (label (.contains array value)) [array.outline, value.outline]
  | .expression text description => .node (label (.expression text description)) []
  | .property path => .node (label (.property path)) []
  | .string value => .node (label (.string value)) []
  | .boolean value => .node (label (.boolean value)) []
  | .number text => .node (label (.number text)) []

/-- Outlines of several conditions. -/
def outlineEach : List Condition → List Outline
  | [] => []
  | condition :: others => condition.outline :: outlineEach others

end

end Condition

end WorkflowConditions
