import WorkflowConditions.Condition.Render

namespace WorkflowConditions.Condition

/-!
# The nodes of a tree

What is said of every node of a tree is said once, through the direct subtrees, so
that a proof about whole trees needs one step from the subtrees to the tree.  A tree
has a truth value when the nodes have one that are no connectives.
-/

/-- A property of a tree and of every tree in it. -/
inductive Everywhere (property : Condition → Prop) : Condition → Prop where
  | intro
      {tree : Condition}
      (here : property tree)
      (inside : ∀ child ∈ tree.children, Everywhere property child) :
      Everywhere property tree

namespace Everywhere

variable
  {property : Condition → Prop}
  {tree : Condition}

theorem here
    (everywhere : Everywhere property tree) :
    property tree := by
  cases everywhere with
  | intro here _ =>
      exact here

theorem inside
    (everywhere : Everywhere property tree) :
    ∀ child ∈ tree.children, Everywhere property child := by
  cases everywhere with
  | intro _ inside =>
      exact inside

/-- What follows at each node from all that lies below it holds of every node. -/
theorem deepen
    {result : Condition → Prop}
    (everywhere : Everywhere property tree)
    (follows : ∀ node, Everywhere property node → result node) :
    Everywhere result tree := by
  induction everywhere with
  | intro here inside inductionHypothesis =>
      exact .intro (follows _ (.intro here inside)) inductionHypothesis

/-- At a node without subtrees there is nothing else to check. -/
theorem of_no_children
    (leaf : tree.children = [])
    (here : property tree) :
    Everywhere property tree := by
  refine .intro here ?_
  rw [leaf]
  intro child member
  cases member

end Everywhere

/-! ## From the subtrees to the tree -/

/-- A subtree is smaller than its tree. -/
theorem sizeOf_lt_of_mem_children
    {tree child : Condition}
    (member : child ∈ tree.children) :
    sizeOf child < sizeOf tree := by
  cases tree with
  | expression | property | string | boolean | number =>
      cases member
  | not inner | group inner =>
      obtain rfl := List.mem_singleton.mp member
      simp
  | and left right | or left right | compare _ left right | contains left right =>
      have isSide : child = left ∨ child = right := by
        simpa [children] using member
      simp only [and.sizeOf_spec, or.sizeOf_spec, compare.sizeOf_spec, contains.sizeOf_spec]
      rcases isSide with rfl | rfl <;>
        omega
  | choose test whenTrue whenFalse =>
      have isPart : child = test ∨ child = whenTrue ∨ child = whenFalse := by
        simpa [children] using member
      rw [choose.sizeOf_spec]
      rcases isPart with rfl | rfl | rfl <;>
        omega
  | anyOf terms | call _ terms =>
      have smaller := List.sizeOf_lt_of_mem member
      simp only [children] at smaller
      simp only [anyOf.sizeOf_spec, call.sizeOf_spec]
      omega

/-- What holds of a tree when it holds of its direct subtrees holds of every tree. -/
theorem children_induction
    {motive : Condition → Prop}
    (step : ∀ tree, (∀ child ∈ tree.children, motive child) → motive tree)
    (tree : Condition) :
    motive tree :=
  step tree fun child _ => children_induction step child
termination_by sizeOf tree
decreasing_by
  exact sizeOf_lt_of_mem_children ‹_›

/-! ## Texts of several conditions -/

/-- Conditions are rendered one by one. -/
theorem renderEach_eq_map (terms : List Condition) :
    renderEach terms = terms.map render := by
  induction terms with
  | nil =>
      rfl
  | cons term others inductionHypothesis =>
      rw [renderEach, inductionHypothesis, List.map_cons]

/-- A line of alternatives is one of them under its comment, with or without a connective. -/
theorem exists_term_of_mem_renderLines
    {terms : List Condition}
    {line : String}
    (member : line ∈ renderLines terms) :
    ∃ term ∈ terms,
      line = term.commentLine ++ term.render ∨
        line = term.commentLine ++ term.render ++ " ||" := by
  induction terms with
  | nil =>
      cases member
  | cons term others inductionHypothesis =>
      cases others with
      | nil =>
          exact ⟨term, by simp, .inl (List.mem_singleton.mp member)⟩
      | cons next later =>
          rcases List.mem_cons.mp member with isFirst | inRest
          · exact ⟨term, by simp, .inr isFirst⟩
          · obtain ⟨found, isTerm, shape⟩ := inductionHypothesis inRest
            exact ⟨found, by simp [isTerm], shape⟩

/-! ## Truth values -/

mutual

/-- Truth value of a condition when every node that is no connective has one. -/
def evaluate (meaning : Condition → Bool) : Condition → Bool
  | .and left right => left.evaluate meaning && right.evaluate meaning
  | .or left right => left.evaluate meaning || right.evaluate meaning
  | .not child => !child.evaluate meaning
  | .group child => child.evaluate meaning
  | .anyOf terms _ => evaluateAny meaning terms
  | atom => meaning atom

/-- Whether any of some conditions is true. -/
def evaluateAny (meaning : Condition → Bool) : List Condition → Bool
  | [] => false
  | condition :: others =>
      condition.evaluate meaning || evaluateAny meaning others

end

/-- Some conditions are true together when any of them is. -/
theorem evaluateAny_eq_any
    (meaning : Condition → Bool)
    (terms : List Condition) :
    evaluateAny meaning terms = terms.any (evaluate meaning) := by
  induction terms with
  | nil =>
      rfl
  | cons term others inductionHypothesis =>
      simp only [evaluateAny, inductionHypothesis, List.any_cons]

end WorkflowConditions.Condition
