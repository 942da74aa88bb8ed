import WorkflowConditions.Condition.Outline
import WorkflowConditions.Terminal.Wrap

namespace WorkflowConditions

/-!
# Drawing an outline

Every level of an outline is set in by four columns of guides, which join a node
to its parent and its siblings.
-/

namespace Outline

/-- Number of columns of a terminal. -/
def terminalColumns : Nat :=
  80

/-- Number of columns of one level of guides. -/
def guideColumns : Nat :=
  4

/-- Guides in front of the first line of a node, and of all lines below it. -/
structure Guides where
  first : String
  below : String
  deriving Repr, DecidableEq

/-- The guides of a child. -/
def Guides.child
    (guides : Guides)
    (isLast : Bool) :
    Guides :=
  if isLast then ⟨guides.below ++ "└── ", guides.below ++ "    "⟩
  else ⟨guides.below ++ "├── ", guides.below ++ "│   "⟩

/-- Lines of a label behind its guides. -/
def drawLabel
    (guides : Guides)
    (depth : Nat)
    (label : String) :
    List String :=
  match Terminal.wrap (terminalColumns - guideColumns * depth) label.toList with
  | [] => []
  | first :: others =>
      (guides.first ++ String.ofList first) :: others.map (guides.below ++ String.ofList ·)

mutual

/-- Lines of a node and of all below it. -/
def drawAt
    (guides : Guides)
    (depth : Nat) :
    Outline → List String
  | .node label children => drawLabel guides depth label ++ drawEach guides (depth + 1) children

/-- Lines of the children of a node. -/
def drawEach
    (guides : Guides)
    (depth : Nat) :
    List Outline → List String
  | [] => []
  | [child] => drawAt (guides.child true) depth child
  | child :: next :: others =>
      drawAt (guides.child false) depth child ++ drawEach guides depth (next :: others)

end

/-- Lines of an outline. -/
def draw (outline : Outline) : List String :=
  drawAt ⟨"", ""⟩ 0 outline

end Outline

namespace Terminal

/-- A report as a terminal shows it: control characters dropped and tabs expanded. -/
def plainLines (text : String) : List String :=
  (Text.splitLines (Text.displayed text).toList).map fun line => String.ofList (expandTabs line)

end Terminal

end WorkflowConditions
