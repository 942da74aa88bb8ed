import WorkflowConditions.Condition.Leaves

namespace WorkflowConditions.Condition

/-!
# Visiting the leaves

Visiting a condition calls the visitor on its leaves from left to right, whatever
effects the visitor has.  A visitor that only takes notes therefore ends up with
the leaves themselves.
-/

section

variable
  {m : Type → Type}
  [Monad m]
  [LawfulMonad m]
  (visitor : Leaf → m Unit)

mutual

/-- A visit calls the visitor on one leaf after the other. -/
theorem visit_eq_forM :
    ∀ condition : Condition,
      condition.visit visitor = condition.leaves.forM visitor
  | .expression text description => by
      simp [visit, leaves]
  | .and left right => by
      simp [visit, leaves, visit_eq_forM left, visit_eq_forM right]
  | .or left right => by
      simp [visit, leaves, visit_eq_forM left, visit_eq_forM right]
  | .not child => by
      simp [visit, leaves, visit_eq_forM child]
  | .anyOf terms _ => by
      simp [visit, leaves, visitEach_eq_forM terms]
  | .group _ | .call _ _ | .property _ | .string _ | .boolean _ | .number _
  | .compare _ _ _ | .choose _ _ _ | .contains _ _ => by
      simp [visit, leaves]

/-- Several conditions are visited one after the other. -/
theorem visitEach_eq_forM :
    ∀ conditions : List Condition,
      visitEach visitor conditions = (leavesOfEach conditions).forM visitor
  | [] => by
      simp [visitEach, leavesOfEach]
  | condition :: others => by
      simp [visitEach, leavesOfEach, visit_eq_forM condition,
        visitEach_eq_forM others]

end

end

/-- Nothing stops a tour without a text to stop on, so it sees every leaf. -/
theorem tour_none (condition : Condition) :
    condition.tour none = ⟨condition.leaves, none⟩ := by
  -- The notes taken so far are kept in front, so they cannot be fixed as empty.
  have notes
      (items seen : List Leaf) :
      ((items.forM fun leaf => do
            modify (· ++ [leaf])
            if some leaf.text = none then throw leaf :
          ExceptT Leaf (StateM (List Leaf)) Unit).run).run seen =
        (.ok (), seen ++ items) := by
    induction items generalizing seen with
    | nil =>
        rw [List.append_nil]
        rfl
    | cons leaf others inductionHypothesis =>
        have later := inductionHypothesis (seen ++ [leaf])
        rw [List.append_assoc] at later
        exact later
  rw [tour, visit_eq_forM, notes]
  rfl

end WorkflowConditions.Condition
