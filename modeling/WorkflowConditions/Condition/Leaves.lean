import WorkflowConditions.Condition.Basic

namespace WorkflowConditions

/-!
# Leaves of a condition

The leaves are the opaque expressions under conjunctions, disjunctions,
alternatives and negations, from left to right.  Every other node counts as one
atomic expression and is not entered.
-/

/-- An opaque expression with its comment. -/
structure Leaf where
  text : String
  description : String
  deriving Repr, DecidableEq

namespace Condition

mutual

/-- The leaves of a condition, from left to right. -/
def leaves : Condition → List Leaf
  | .expression text description => [⟨text, description⟩]
  | .and left right => left.leaves ++ right.leaves
  | .or left right => left.leaves ++ right.leaves
  | .not child => child.leaves
  | .anyOf terms _ => leavesOfEach terms
  | _ => []

/-- The leaves of several conditions. -/
def leavesOfEach : List Condition → List Leaf
  | [] => []
  | condition :: others => condition.leaves ++ leavesOfEach others

end

mutual

/-- Call a visitor on the leaves of a condition, from left to right. -/
def visit
    {m : Type → Type}
    [Monad m]
    (visitor : Leaf → m Unit) :
    Condition → m Unit
  | .expression text description => visitor ⟨text, description⟩
  | .and left right => do
      left.visit visitor
      right.visit visitor
  | .or left right => do
      left.visit visitor
      right.visit visitor
  | .not child => child.visit visitor
  | .anyOf terms _ => visitEach visitor terms
  | _ => pure ()

/-- Call a visitor on the leaves of several conditions. -/
def visitEach
    {m : Type → Type}
    [Monad m]
    (visitor : Leaf → m Unit) :
    List Condition → m Unit
  | [] => pure ()
  | condition :: others => do
      condition.visit visitor
      visitEach visitor others

end

/-- A visit that was stopped, and the leaves it had seen by then. -/
structure Tour where
  seen : List Leaf
  stoppedAt : Option Leaf
  deriving Repr, DecidableEq

/-- Visit the leaves until one has the text to stop on; that one is seen too. -/
def tour
    (stopOn : Option String)
    (condition : Condition) :
    Tour :=
  let visitor (leaf : Leaf) : ExceptT Leaf (StateM (List Leaf)) Unit := do
    modify (· ++ [leaf])
    if some leaf.text = stopOn then throw leaf
  let (outcome, seen) := ((condition.visit visitor).run).run []
  match outcome with
  | .ok _ => ⟨seen, none⟩
  | .error leaf => ⟨seen, some leaf⟩

end Condition

end WorkflowConditions
